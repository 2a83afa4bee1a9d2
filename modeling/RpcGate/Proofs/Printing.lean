import Mathlib.Data.List.Basic
import RpcGate.Json.Reader
import RpcGate.Proofs.EntryText

/-!
# The tokens of a printed value

A printed value falls into the tokens of its parts, whatever follows it
(`run?_print`). Texts come back as they were. A number comes back as what its
digits read as, which for integers of 64 bits is the number itself; a value
whose numbers are such is kept whole (`IsIntegral.keeps`).
-/

namespace RpcGate

namespace Json

open Lexing

/-! ## What the printed form of a value stands for -/

mutual

/-- The value with each number replaced by what its digits read as. -/
def reread? : Json → Option Json
  | .null => some .null
  | .bool b => some (.bool b)
  | .number n => (JsonNumber.read? (printNumber n)).map .number
  | .string t => some (.string t)
  | .array items => (rereadItems? items).map .array
  | .object members => (rereadMembers? members).map .object

def rereadItems? : List Json → Option (List Json)
  | [] => some []
  | item :: items => do return (← reread? item) :: (← rereadItems? items)

def rereadMembers? : List (Text × Json) → Option (List (Text × Json))
  | [] => some []
  | (name, value) :: members => do return (name, ← reread? value) :: (← rereadMembers? members)

end

/-- The value is its own printed form read again. -/
def Keeps (v : Json) : Prop := reread? v = some v

mutual

def tokens : Json → List Token
  | .null => [.null]
  | .bool b => [.bool b]
  | .number n => [.number n]
  | .string t => [.string t]
  | .array [] => [.openArray, .closeArray]
  | .array (item :: items) => .openArray :: tokens item ++ itemTokens items
  | .object [] => [.openObject, .closeObject]
  | .object ((name, value) :: members) =>
    .openObject :: .string name :: .colon :: tokens value ++ memberTokens members

def itemTokens : List Json → List Token
  | [] => [.closeArray]
  | item :: items => .comma :: tokens item ++ itemTokens items

def memberTokens : List (Text × Json) → List Token
  | [] => [.closeObject]
  | (name, value) :: members => .comma :: .string name :: .colon :: tokens value ++ memberTokens members

end

section
variable {c : Char} {seen rest t : Text} {l k : Lexing}

theorem run?_of_silent (h : step? c l = some (k, [])) (rest : Text) : run? l (c :: rest) = run? k rest := by
  simp only [run?, h, Option.bind_eq_bind, Option.bind_some, List.nil_append, Option.pure_def]
  cases run? k rest with
  | none => rfl
  | some ts => rfl

theorem run?_of_token {m : Token} (h : step? c l = some (k, [m])) (rest : Text) :
    run? l (c :: rest) = (run? k rest).map (m :: ·) := by
  simp only [run?, h, Option.bind_eq_bind, Option.bind_some]
  cases run? k rest with
  | none => rfl
  | some ts => rfl

/-! ## Words -/

/-- No number and no word goes on here. -/
def Ends (rest : Text) : Prop := ∀ c ∈ rest.head?, isNumberChar c = false ∧ isWordChar c = false

theorem ends_nil : Ends [] := by
  rintro c ⟨⟩

theorem ends_cons (hn : isNumberChar c = false) (hw : isWordChar c = false) : Ends (c :: rest) := by
  rintro d ⟨⟩
  exact ⟨hn, hw⟩

/-- A token that is complete stands before what the next character begins. -/
theorem run?_of_complete {m : Option Token}
    (hs : ∀ c ∈ rest.head?, step? c l = m.bind fun m => (begin? c).map fun p => (p.1, m :: p.2))
    (hf : finish? l = m.map ([·])) : run? l rest = m.bind fun m => (run? .between rest).map (m :: ·) := by
  cases rest with
  | nil =>
    rw [run?, hf]
    cases m with
    | none => rfl
    | some m => rfl
  | cons c rest =>
    simp only [run?, hs c rfl, Option.bind_eq_bind]
    cases m with
    | none => rfl
    | some m =>
      rw [step?]
      cases begin? c with
      | none => rfl
      | some p =>
        simp only [Option.bind_some, Option.map_some]
        cases run? p.1 rest with
        | none => rfl
        | some ts => rfl

theorem run?_wordChars (h : ∀ c ∈ t, isWordChar c) (rest : Text) :
    run? (.word seen) (t ++ rest) = run? (.word (t.reverse ++ seen)) rest := by
  induction t generalizing seen with
  | nil => rfl
  | cons c t ih =>
    obtain ⟨hc, ht⟩ := List.forall_mem_cons.1 h
    rw [List.cons_append, run?_of_silent (by rw [step?, if_pos hc]), ih ht, List.reverse_cons, List.append_assoc]
    rfl

theorem run?_wordEnd {m : Token} (hw : wordToken? seen = some m) (hr : Ends rest) :
    run? (.word seen) rest = (run? .between rest).map (m :: ·) := by
  refine run?_of_complete (m := some m) (fun c hc => ?_) (by rw [finish?, hw])
  rw [step?, (hr c hc).2, hw]
  cases begin? c with
  | none => rfl
  | some p => rfl

/-- A word stands for its token. -/
theorem run?_word {m : Token} (hb : begin? c = some (.word [c], [])) (ht : t.all isWordChar)
    (hw : wordToken? (t.reverse ++ [c]) = some m) (hr : Ends rest) :
    run? .between (c :: t ++ rest) = (run? .between rest).map (m :: ·) := by
  rw [List.cons_append, run?_of_silent (by rw [step?, hb]), run?_wordChars (List.all_eq_true.1 ht), run?_wordEnd hw hr]

/-! ## Numbers -/

/-- A sign or a digit, and then whatever may stand in a number. -/
def IsNumeral : Text → Prop
  | [] => False
  | c :: cs => (c = '-' ∨ c.isDigit) ∧ ∀ d ∈ cs, isNumberChar d

theorem isNumberChar_of_isDigit (h : c.isDigit) : isNumberChar c := by
  simp [isNumberChar, h]

theorem IsNumeral.isNumberChar (h : IsNumeral t) : ∀ d ∈ t, isNumberChar d := by
  cases t with
  | nil => exact h.elim
  | cons c t =>
    refine List.forall_mem_cons.2 ⟨?_, h.2⟩
    rcases h.1 with rfl | hd
    · rfl
    · exact isNumberChar_of_isDigit hd

theorem isNumeral_append (h : IsNumeral t) {u : Text} (hu : ∀ d ∈ u, isNumberChar d) : IsNumeral (t ++ u) := by
  cases t with
  | nil => exact h.elim
  | cons c t => exact ⟨h.1, List.forall_mem_append.2 ⟨h.2, hu⟩⟩

theorem isNumeral_of_digits (hne : t ≠ []) (h : ∀ d ∈ t, d.isDigit) : IsNumeral t := by
  cases t with
  | nil => exact absurd rfl hne
  | cons c t =>
    obtain ⟨hc, ht⟩ := List.forall_mem_cons.1 h
    exact ⟨.inr hc, fun d hd => isNumberChar_of_isDigit (ht d hd)⟩

theorem isDigit_decimal (n : Nat) : ∀ c ∈ Text.decimal n, c.isDigit :=
  fun _ hc => Nat.isDigit_of_mem_toDigits (by decide) (by decide) hc

theorem isNumberChar_decimal (n : Nat) : ∀ c ∈ Text.decimal n, isNumberChar c :=
  fun c hc => isNumberChar_of_isDigit (isDigit_decimal n c hc)

theorem isNumberChar_zeros (n : Nat) : ∀ c ∈ List.replicate n '0', isNumberChar c := by
  intro c hc
  rw [List.eq_of_mem_replicate hc]
  rfl

theorem isNumeral_label (x : Binary64) : IsNumeral x.label := by
  have signed {t : Text} (ht : IsNumeral t) : IsNumeral ((if x.negative then ['-'] else []) ++ t) := by
    split
    · exact ⟨.inl rfl, ht.isNumberChar⟩
    · exact ht
  have hzero : IsNumeral ['0', '.'] := ⟨.inr rfl, List.all_eq_true.1 rfl⟩
  unfold Binary64.label
  by_cases hx : x.significand = 0
  · rw [if_pos hx]
    exact signed (isNumeral_append hzero (u := ['0']) (List.all_eq_true.1 rfl))
  · simp only [if_neg hx]
    generalize Binary64.trimZeros x.shortest.1 x.shortest.2 17 = s
    obtain ⟨d, k⟩ := s
    have hdigits := isDigit_decimal d
    have hchars := isNumberChar_decimal d
    have hne : Text.decimal d ≠ [] := Nat.toDigits_ne_nil
    generalize Text.decimal d = digits at hdigits hchars hne
    have hpart {n : Nat} (hn : 0 < n) : IsNumeral (digits.take n) :=
      isNumeral_of_digits (by simp [hne]; omega) fun c hc => hdigits c (List.mem_of_mem_take hc)
    have hrest (n : Nat) : ∀ c ∈ '.' :: digits.drop n, isNumberChar c :=
      List.forall_mem_cons.2 ⟨rfl, fun c hc => hchars c (List.mem_of_mem_drop hc)⟩
    refine signed ?_
    split
    · exact isNumeral_append (isNumeral_append (isNumeral_of_digits hne hdigits) (isNumberChar_zeros _)) (List.all_eq_true.1 rfl)
    split
    · exact isNumeral_append (hpart (by omega)) (hrest _)
    split
    · exact isNumeral_append (isNumeral_append hzero (isNumberChar_zeros _)) hchars
    · have hpower (e : Int) : ∀ c ∈ 'e' :: (if e < 0 then '-' else '+') :: Text.decimal e.natAbs, isNumberChar c := by
        refine List.forall_mem_cons.2 ⟨rfl, List.forall_mem_cons.2 ⟨?_, isNumberChar_decimal _⟩⟩
        split
        · rfl
        · rfl
      refine isNumeral_append (isNumeral_append (hpart (by decide)) ?_) (hpower _)
      split
      · simp
      · exact hrest 1

theorem isNumeral_printNumber (n : JsonNumber) : IsNumeral (printNumber n) := by
  cases n with
  | natural n => exact isNumeral_of_digits Nat.toDigits_ne_nil (isDigit_decimal n)
  | negative n => exact ⟨.inl rfl, isNumberChar_decimal n⟩
  | double x => exact isNumeral_label x

theorem run?_numberChars (h : ∀ c ∈ t, isNumberChar c) (rest : Text) :
    run? (.number seen) (t ++ rest) = run? (.number (t.reverse ++ seen)) rest := by
  induction t generalizing seen with
  | nil => rfl
  | cons c t ih =>
    obtain ⟨hc, ht⟩ := List.forall_mem_cons.1 h
    rw [List.cons_append, run?_of_silent (by rw [step?, if_pos hc]), ih ht, List.reverse_cons, List.append_assoc]
    rfl

theorem run?_numberEnd (hr : Ends rest) : run? (.number seen) rest =
    (JsonNumber.read? seen.reverse).bind fun n => (run? .between rest).map (.number n :: ·) := by
  have h : run? (.number seen) rest =
      ((JsonNumber.read? seen.reverse).map Token.number).bind fun m => (run? .between rest).map (m :: ·) := by
    refine run?_of_complete (fun c hc => ?_) ?_
    · rw [step?, (hr c hc).1]
      cases JsonNumber.read? seen.reverse with
      | none => rfl
      | some n => cases begin? c with
        | none => rfl
        | some p => rfl
    · rw [finish?, Option.map_map]
      rfl
  rw [h, Option.bind_map]
  rfl

theorem begin?_numeral (h : c = '-' ∨ c.isDigit) : begin? c = some (.number [c], []) := by
  have hq : c ≠ '"' := by rintro rfl; rcases h with h | h <;> simp at h
  have hb : isBlank c = false := by
    rw [Bool.eq_false_iff]
    intro hb
    simp only [isBlank, Bool.or_eq_true, decide_eq_true_eq] at hb
    rcases hb with ((rfl | rfl) | rfl) | rfl <;> rcases h with h | h <;> simp at h
  have hn : (c = '-' || c.isDigit) = true := by simpa using h
  rw [begin?, hb, if_neg (by simp), if_neg hq, if_pos hn]

theorem run?_numeral (ht : IsNumeral t) (hr : Ends rest) : run? .between (t ++ rest) =
    (JsonNumber.read? t).bind fun n => (run? .between rest).map (.number n :: ·) := by
  cases t with
  | nil => exact ht.elim
  | cons c t =>
    rw [List.cons_append, run?_of_silent (by rw [step?, begin?_numeral ht.1]), run?_numberChars ht.2, run?_numberEnd hr]
    simp

/-! ## Texts -/

theorem run?_short {d : Char} (hu : d ≠ 'u') (h : short? d = some c) (rest : Text) :
    run? (.string seen) ('\\' :: d :: rest) = run? (.string (c :: seen)) rest := by
  rw [run?_of_silent (k := .escape seen) rfl, run?_of_silent]
  rw [step?, if_neg hu, h]
  rfl

theorem run?_unicodeDigit {n value d : Nat} {lead : Option Nat} (hd : Hex.digit? c = some d) (rest : Text) :
    run? (.unicode seen (n + 2) value lead) (c :: rest) = run? (.unicode seen (n + 1) (value * 16 + d) lead) rest := by
  refine run?_of_silent ?_ rest
  rw [step?, hd]
  simp only [Option.bind_eq_bind, Option.bind_some]
  rw [if_neg (by omega)]
  rfl

/-- A control character is written with two zeros and two digits. -/
theorem run?_control (hc : c.toNat < 0x20) (rest : Text) :
    run? (.string seen) ('\\' :: 'u' :: '0' :: '0' :: Nat.digitChar (c.toNat / 16) :: Nat.digitChar (c.toNat % 16) :: rest) =
      run? (.string (c :: seen)) rest := by
  have hhigh : Hex.digit? (Nat.digitChar (c.toNat / 16)) = some (c.toNat / 16) := Hex.digit?_digit (by omega)
  have hlow : Hex.digit? (Nat.digitChar (c.toNat % 16)) = some (c.toNat % 16) := Hex.digit?_digit (by omega)
  have hvalue : ((0 * 16 + 0) * 16 + 0) * 16 + c.toNat / 16 = c.toNat / 16 := by omega
  have hwhole : c.toNat / 16 * 16 + c.toNat % 16 = c.toNat := by omega
  rw [run?_of_silent (k := .escape seen) rfl, run?_of_silent (k := .unicode seen 4 0 none) rfl]
  refine (run?_unicodeDigit (n := 2) (d := 0) rfl _).trans ?_
  refine (run?_unicodeDigit (n := 1) (d := 0) rfl _).trans ?_
  refine (run?_unicodeDigit (n := 0) hhigh _).trans ?_
  rw [hvalue]
  refine run?_of_silent ?_ rest
  have hplain : unicode? seen c.toNat none = some (.string (c :: seen)) := by
    have hl : isLead c.toNat = false := by simp [isLead]; omega
    have ht : isTrail c.toNat = false := by simp [isTrail]; omega
    rw [unicode?, hl, ht, Char.ofNat_toNat]
    rfl
  rw [step?, hlow]
  simp only [Option.bind_eq_bind, Option.bind_some, hwhole, hplain]
  rfl

theorem run?_escaped (c : Char) (rest : Text) :
    run? (.string seen) (escaped c ++ rest) = run? (.string (c :: seen)) rest := by
  unfold escaped
  split
  · next h => exact run?_short (by decide) (by rw [h]; rfl) rest
  split
  · next h => exact run?_short (by decide) (by rw [h]; rfl) rest
  split
  · next h => exact run?_short (by decide) (by rw [h]; rfl) rest
  split
  · next h => exact run?_short (by decide) (by rw [h]; rfl) rest
  split
  · next h => exact run?_short (by decide) (by rw [h]; rfl) rest
  split
  · next h => exact run?_short (by decide) (by rw [h]; rfl) rest
  split
  · next h => exact run?_short (by decide) (by rw [h]; rfl) rest
  split
  · next h => exact run?_control h rest
  · next hquote hslash _ _ _ _ _ hcontrol =>
    refine run?_of_silent ?_ rest
    rw [step?, if_neg hquote, if_neg hslash, if_neg hcontrol]

theorem run?_flatMap_escaped (t rest : Text) :
    run? (.string seen) (t.flatMap escaped ++ rest) = run? (.string (t.reverse ++ seen)) rest := by
  induction t generalizing seen with
  | nil => rfl
  | cons c t ih =>
    rw [List.flatMap_cons, List.append_assoc, run?_escaped, ih, List.reverse_cons, List.append_assoc]
    rfl

theorem run?_printString (t rest : Text) :
    run? .between (printString t ++ rest) = (run? .between rest).map (.string t :: ·) := by
  rw [printString, List.cons_append, List.cons_append, List.append_assoc, run?_of_silent (k := .string []) rfl,
    run?_flatMap_escaped, List.cons_append, List.append_nil, run?_of_token (k := .between) (m := .string t)]
  · rfl
  · rw [step?, if_pos rfl, List.reverse_reverse]

theorem run?_printNumber (n : JsonNumber) (hr : Ends rest) : run? .between (printNumber n ++ rest) =
    (JsonNumber.read? (printNumber n)).bind fun n => (run? .between rest).map (.number n :: ·) :=
  run?_numeral (isNumeral_printNumber n) hr

/-! ## Values -/

theorem ends_printItems (items : List Json) (rest : Text) : Ends (printItems items ++ rest) := by
  cases items with
  | nil => exact ends_cons rfl rfl
  | cons => exact ends_cons rfl rfl

theorem ends_printMembers (members : List (Text × Json)) (rest : Text) : Ends (printMembers members ++ rest) := by
  cases members with
  | nil => exact ends_cons rfl rfl
  | cons => exact ends_cons rfl rfl

end

mutual

/-- A printed value is the tokens of what it reads as, and nothing where it reads as nothing. -/
theorem run?_print (v : Json) {rest : Text} (hr : Ends rest) : run? .between (print v ++ rest) =
    (reread? v).bind fun w => (run? .between rest).map (tokens w ++ ·) := by
  cases v with
  | null => exact run?_word (c := 'n') rfl rfl rfl hr
  | bool b =>
    cases b with
    | true => exact run?_word (c := 't') rfl rfl rfl hr
    | false => exact run?_word (c := 'f') rfl rfl rfl hr
  | number n =>
    rw [print, run?_printNumber n hr, reread?, Option.bind_map]
    rfl
  | string t =>
    rw [print, run?_printString, reread?]
    rfl
  | array items =>
    cases items with
    | nil =>
      rw [print, List.cons_append, run?_of_token (k := .between) (m := .openArray) rfl, List.cons_append,
        run?_of_token (k := .between) (m := .closeArray) rfl, Option.map_map]
      rfl
    | cons item items =>
      rw [print, List.cons_append, List.cons_append, run?_of_token (k := .between) (m := .openArray) rfl, List.append_assoc,
        run?_print item (ends_printItems items rest), run?_printItems items, reread?, rereadItems?]
      simp [Option.map_bind, Option.bind_assoc, Function.comp_def, tokens]
  | object members =>
    cases members with
    | nil =>
      rw [print, List.cons_append, run?_of_token (k := .between) (m := .openObject) rfl, List.cons_append,
        run?_of_token (k := .between) (m := .closeObject) rfl, Option.map_map]
      rfl
    | cons member members =>
      obtain ⟨name, value⟩ := member
      rw [print]
      simp only [List.cons_append, List.append_assoc]
      rw [run?_of_token (k := .between) (m := .openObject) rfl, run?_printString,
        run?_of_token (k := .between) (m := .colon) rfl, run?_print value (ends_printMembers members rest),
        run?_printMembers members, reread?, rereadMembers?]
      simp [Option.map_bind, Option.bind_assoc, Function.comp_def, tokens]

theorem run?_printItems (items : List Json) {rest : Text} : run? .between (printItems items ++ rest) =
    (rereadItems? items).bind fun ws => (run? .between rest).map (itemTokens ws ++ ·) := by
  cases items with
  | nil => exact run?_of_token (k := .between) (m := .closeArray) rfl rest
  | cons item items =>
    rw [printItems, List.cons_append, List.cons_append, run?_of_token (k := .between) (m := .comma) rfl, List.append_assoc,
      run?_print item (ends_printItems items rest), run?_printItems items, rereadItems?]
    simp [Option.map_bind, Option.bind_assoc, Function.comp_def, itemTokens]

theorem run?_printMembers (members : List (Text × Json)) {rest : Text} : run? .between (printMembers members ++ rest) =
    (rereadMembers? members).bind fun ws => (run? .between rest).map (memberTokens ws ++ ·) := by
  cases members with
  | nil => exact run?_of_token (k := .between) (m := .closeObject) rfl rest
  | cons member members =>
    obtain ⟨name, value⟩ := member
    rw [printMembers]
    simp only [List.cons_append, List.append_assoc]
    rw [run?_of_token (k := .between) (m := .comma) rfl, run?_printString,
      run?_of_token (k := .between) (m := .colon) rfl, run?_print value (ends_printMembers members rest),
      run?_printMembers members, rereadMembers?]
    simp [Option.map_bind, Option.bind_assoc, Function.comp_def, memberTokens]

end

theorem tokens?_print (v : Json) : tokens? v.print = v.reread?.map tokens := by
  have h := run?_print v ends_nil
  rw [List.append_nil] at h
  rw [tokens?, h]
  cases reread? v with
  | none => rfl
  | some w => simp [run?, finish?]

/-! ## What is kept -/

theorem le_ofDigitChars (t : Text) (n : Nat) : n ≤ Nat.ofDigitChars 10 t n := by
  rw [Nat.ofDigitChars_eq_ofDigitChars_zero]
  exact Nat.le_add_right_of_le (Nat.le_mul_of_pos_left n (Nat.pow_pos (by decide)))

theorem readOn_eq {t : Text} {n : Nat} (h : Nat.ofDigitChars 10 t n < JsonNumber.significandLimit) :
    JsonNumber.readOn n t = (Nat.ofDigitChars 10 t n, []) := by
  induction t generalizing n with
  | nil => rfl
  | cons c t ih =>
    rw [Nat.ofDigitChars_cons, Nat.mul_comm] at h ⊢
    have hfits : n * 10 + JsonNumber.digitValue c < JsonNumber.significandLimit :=
      Nat.lt_of_le_of_lt (le_ofDigitChars t _) h
    rw [JsonNumber.readOn, if_pos hfits]
    exact ih h

theorem head?_decimal {n : Nat} (h : (Text.decimal n).head? = some '0') : n = 0 := by
  induction n using Nat.strongRecOn with
  | ind n ih =>
    rw [Text.decimal, Nat.toDigits_eq_if (by decide)] at h
    split at h
    · next hn =>
      have hdigits : ∀ m < 10, [Nat.digitChar m].head? = some '0' → m = 0 := by decide
      exact hdigits n hn h
    · next hn =>
      rw [List.head?_append_of_ne_nil _ Nat.toDigits_ne_nil] at h
      have := ih (n / 10) (by omega) h
      omega

/-- An integer is read off its digits. -/
theorem readUnsigned?_decimal {n : Nat} (h : n < JsonNumber.significandLimit) (negative : Bool) :
    JsonNumber.readUnsigned? negative (Text.decimal n) = JsonNumber.integer? negative n := by
  have htake : (Text.decimal n).takeWhile Char.isDigit = Text.decimal n := List.takeWhile_eq_self_iff.2 (isDigit_decimal n)
  have hdrop : (Text.decimal n).dropWhile Char.isDigit = [] := List.dropWhile_eq_nil_iff.2 (isDigit_decimal n)
  have hlead : ¬ (Text.decimal n = [] ∨ (Text.decimal n).head? = some '0' ∧ (Text.decimal n).length ≠ 1) := by
    rintro (hnil | ⟨hhead, hlength⟩)
    · exact Nat.toDigits_ne_nil hnil
    · rw [head?_decimal hhead] at hlength
      exact hlength rfl
  have hvalue : Nat.ofDigitChars 10 (Text.decimal n) 0 = n := Nat.ofDigitChars_ten_toDigits
  have hread : JsonNumber.readOn 0 (Text.decimal n) = (n, []) := by
    rw [readOn_eq (by rw [hvalue]; exact h), hvalue]
  unfold JsonNumber.readUnsigned?
  simp only [htake, hdrop, if_neg hlead, hread]
  rfl

theorem read?_natural {n : Nat} (h : n < JsonNumber.significandLimit) :
    JsonNumber.read? (printNumber (.natural n)) = some (.natural n) := by
  have hunsigned : JsonNumber.read? (Text.decimal n) = JsonNumber.readUnsigned? false (Text.decimal n) := by
    unfold JsonNumber.read?
    split
    · next rest hd =>
      have hminus := isDigit_decimal n '-' (by rw [hd]; exact List.mem_cons_self)
      exact absurd hminus (by decide)
    · rfl
  rw [printNumber, hunsigned, readUnsigned?_decimal h]
  rfl

theorem read?_negative {n : Nat} (hn : 0 < n) (h : n ≤ 0x8000000000000000) :
    JsonNumber.read? (printNumber (.negative n)) = some (.negative n) := by
  have hread := readUnsigned?_decimal (show n < JsonNumber.significandLimit by unfold JsonNumber.significandLimit; omega) true
  rw [printNumber, JsonNumber.read?, hread, JsonNumber.integer?, if_neg (by decide), if_neg (by omega)]

theorem keeps_null : Keeps .null := rfl

theorem keeps_bool (b : Bool) : Keeps (.bool b) := rfl

theorem keeps_string (t : Text) : Keeps (.string t) := rfl

theorem keeps_natural {n : Nat} (h : n < JsonNumber.significandLimit) : Keeps (.number (.natural n)) := by
  rw [Keeps, reread?, read?_natural h]
  rfl

theorem keeps_negative {n : Nat} (hn : 0 < n) (h : n ≤ 0x8000000000000000) : Keeps (.number (.negative n)) := by
  rw [Keeps, reread?, read?_negative hn h]
  rfl

theorem keeps_array {items : List Json} (h : ∀ item ∈ items, Keeps item) : Keeps (.array items) := by
  have hitems : rereadItems? items = some items := by
    induction items with
    | nil => rfl
    | cons item items ih =>
      obtain ⟨hitem, hrest⟩ := List.forall_mem_cons.1 h
      rw [rereadItems?, show reread? item = some item from hitem, ih hrest]
      rfl
  rw [Keeps, reread?, hitems]
  rfl

theorem keeps_object {members : List (Text × Json)} (h : ∀ m ∈ members, Keeps m.2) : Keeps (.object members) := by
  have hmembers : rereadMembers? members = some members := by
    induction members with
    | nil => rfl
    | cons member members ih =>
      obtain ⟨name, value⟩ := member
      obtain ⟨hvalue, hrest⟩ := List.forall_mem_cons.1 h
      rw [rereadMembers?, show reread? value = some value from hvalue, ih hrest]
      rfl
  rw [Keeps, reread?, hmembers]
  rfl

/-- All numbers in the value are integers of 64 bits. -/
inductive IsIntegral : Json → Prop
  | null : IsIntegral .null
  | bool (b : Bool) : IsIntegral (.bool b)
  | natural {n : Nat} (h : n < JsonNumber.significandLimit) : IsIntegral (.number (.natural n))
  | negative {n : Nat} (hn : 0 < n) (h : n ≤ 0x8000000000000000) : IsIntegral (.number (.negative n))
  | string (t : Text) : IsIntegral (.string t)
  | array {items : List Json} (h : ∀ item ∈ items, IsIntegral item) : IsIntegral (.array items)
  | object {members : List (Text × Json)} (h : ∀ m ∈ members, IsIntegral m.2) : IsIntegral (.object members)

theorem IsIntegral.keeps {v : Json} (h : IsIntegral v) : Keeps v := by
  induction h with
  | null => exact keeps_null
  | bool b => exact keeps_bool b
  | natural h => exact keeps_natural h
  | negative hn h => exact keeps_negative hn h
  | string t => exact keeps_string t
  | array _ ih => exact keeps_array ih
  | object _ ih => exact keeps_object ih

end Json

end RpcGate
