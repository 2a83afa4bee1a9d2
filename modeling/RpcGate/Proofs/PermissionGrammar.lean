import Mathlib.Data.Nat.Digits.Defs
import RpcGate.Cookie.Permissions

/-!
# The grammar of permissions

Digits are read one by one and add up to the number that they write
(`Text.digitsFrom?_eq_some_iff`). A value for the permissions is one of the
words, or a number in octal of at most twelve bits, before which there may be a
plus (`CookiePermissions.parse_octal`).
-/

namespace RpcGate

/-! ## Numbers -/

namespace Text

/-- `t` writes `n` in digits of the base. -/
structure IsNumeral (base : Nat) (t : Text) (n : Nat) : Prop where
  ne_nil : t ≠ []
  digits : ∀ c ∈ t, '0'.toNat ≤ c.toNat ∧ c.toNat < '0'.toNat + base
  value : Nat.ofDigits base (t.reverse.map fun c => c.toNat - '0'.toNat) = n

section
variable {base acc n d : Nat} {c : Char} {t : Text}

theorem digit?_eq_some_iff : digit? base c = some d ↔
    ('0'.toNat ≤ c.toNat ∧ c.toNat < '0'.toNat + base) ∧ c.toNat - '0'.toNat = d := by
  rw [digit?, Option.ite_none_right_eq_some, Option.some.injEq]

theorem digit?_eq_none_iff : digit? base c = none ↔ ¬ ('0'.toNat ≤ c.toNat ∧ c.toNat < '0'.toNat + base) := by
  simp [digit?]

/-- What was read before is one more digit, the highest, and may be greater than the base. -/
theorem digitsFrom?_eq_some_iff : digitsFrom? base acc t = some n ↔
    (∀ c ∈ t, '0'.toNat ≤ c.toNat ∧ c.toNat < '0'.toNat + base) ∧
      Nat.ofDigits base ((t.reverse.map fun c => c.toNat - '0'.toNat) ++ [acc]) = n := by
  induction t generalizing acc with
  | nil => simp [digitsFrom?]
  | cons c cs ih =>
    have carry (ds : List Nat) (d : Nat) : Nat.ofDigits base (ds ++ [acc * base + d]) = Nat.ofDigits base (ds ++ [d, acc]) := by
      rw [Nat.ofDigits_append, Nat.ofDigits_append, Nat.ofDigits_singleton, Nat.ofDigits_cons, Nat.ofDigits_singleton,
        Nat.mul_comm acc, Nat.add_comm (base * acc)]
    rw [digitsFrom?]
    cases hd : digit? base c with
    | none => exact iff_of_false (by simp) fun h => digit?_eq_none_iff.1 hd (h.1 c List.mem_cons_self)
    | some d =>
      obtain ⟨hc, rfl⟩ := digit?_eq_some_iff.1 hd
      simp only [ih, carry, List.forall_mem_cons, hc, true_and, List.reverse_cons, List.map_append, List.map_singleton,
        List.append_assoc, List.singleton_append]

theorem digits?_eq_some_iff : digits? base t = some n ↔ IsNumeral base t n := by
  cases t with
  | nil => exact iff_of_false (by simp [digits?]) fun h => h.ne_nil rfl
  | cons c cs =>
    have hread := @digitsFrom?_eq_some_iff base 0 n (c :: cs)
    rw [Nat.ofDigits_append, Nat.ofDigits_singleton, Nat.mul_zero, Nat.add_zero] at hread
    exact hread.trans ⟨fun h => ⟨List.cons_ne_nil c cs, h.1, h.2⟩, fun h => ⟨h.digits, h.value⟩⟩

theorem natural?_eq_some_iff : natural? base t = some n ↔ ∃ digits, (t = digits ∨ t = '+' :: digits) ∧ IsNumeral base digits n := by
  have hplus (r : Text) : ¬ IsNumeral base ('+' :: r) n := fun h =>
    absurd (h.digits '+' List.mem_cons_self).1 (by decide)
  unfold natural?
  split
  · next r =>
    rw [digits?_eq_some_iff]
    refine ⟨fun h => ⟨r, .inr rfl, h⟩, fun h => ?_⟩
    obtain ⟨digits, rfl | h, hn⟩ := h
    · exact absurd hn (hplus r)
    · cases h
      exact hn
  · next hno =>
    rw [digits?_eq_some_iff]
    refine ⟨fun h => ⟨t, .inl rfl, h⟩, fun h => ?_⟩
    obtain ⟨digits, rfl | h, hn⟩ := h
    · exact hn
    · exact absurd h (hno digits)

end

end Text

/-! ## Values -/

namespace CookiePermissions

section
variable {t value : Text} {m : Mode} {e : AuthError}

theorem modeOf?_eq_some_iff : modeOf? t = some m ↔
    ∃ digits, (t = digits ∨ t = '+' :: digits) ∧ Text.IsNumeral 8 digits m.toNat := by
  rw [← Text.natural?_eq_some_iff]
  unfold modeOf?
  cases Text.natural? 8 t with
  | none => simp
  | some n =>
    simp only [Option.ite_none_right_eq_some, Option.some.injEq]
    constructor
    · intro h
      obtain ⟨hn, rfl⟩ := h
      rw [BitVec.toNat_ofNat, Nat.mod_eq_of_lt (by omega)]
    · intro h
      rw [h]
      exact ⟨Nat.le_of_lt_succ m.isLt, BitVec.ofNat_toNat ..⟩

theorem modeOf?_eq_none_iff : modeOf? t = none ↔
    ∀ digits n, (t = digits ∨ t = '+' :: digits) → Text.IsNumeral 8 digits n → 0o7777 < n := by
  have hread : modeOf? t = none ↔ ∀ n, Text.natural? 8 t = some n → 0o7777 < n := by
    unfold modeOf?
    cases Text.natural? 8 t with
    | none => simp
    | some n => simp
  simp only [hread, Text.natural?_eq_some_iff, forall_exists_index, and_imp]
  exact forall_comm

theorem parse_cases (value : Text) :
    ((Text.trim value = [] ∨ Text.trim value = ['1']) ∧ parse value = .ok .ownerOnly) ∨
      (Text.trim value = ['0'] ∧ parse value = .ok .osDefault) ∨
      (Text.trim value ≠ [] ∧ Text.trim value ≠ ['1'] ∧ Text.trim value ≠ ['0'] ∧
        ((∃ m, modeOf? (Text.trim value) = some m ∧ parse value = .ok (.mode m)) ∨
          (modeOf? (Text.trim value) = none ∧ parse value = .error (.badPermissions value)))) := by
  by_cases howner : Text.trim value = [] ∨ Text.trim value = ['1']
  · exact .inl ⟨howner, if_pos howner⟩
  by_cases hos : Text.trim value = ['0']
  · exact .inr (.inl ⟨hos, (if_neg howner).trans (if_pos hos)⟩)
  obtain ⟨hblank, hone⟩ := not_or.1 howner
  refine .inr (.inr ⟨hblank, hone, hos, ?_⟩)
  unfold parse
  cases hm : modeOf? (Text.trim value) with
  | some m => exact .inl ⟨m, rfl, by simp [hblank, hone, hos, hm]⟩
  | none => exact .inr ⟨rfl, by simp [hblank, hone, hos, hm]⟩

theorem parse_eq_ownerOnly_iff : parse value = .ok .ownerOnly ↔ Text.trim value = [] ∨ Text.trim value = ['1'] := by
  rcases parse_cases value with ⟨ht, hp⟩ | ⟨ht, hp⟩ | ⟨hblank, hone, -, ⟨m, -, hp⟩ | ⟨-, hp⟩⟩
  · exact iff_of_true hp ht
  · simp [hp, ht]
  · simp [hp, hblank, hone]
  · simp [hp, hblank, hone]

theorem parse_eq_osDefault_iff : parse value = .ok .osDefault ↔ Text.trim value = ['0'] := by
  rcases parse_cases value with ⟨ht, hp⟩ | ⟨ht, hp⟩ | ⟨-, -, hzero, ⟨m, -, hp⟩ | ⟨-, hp⟩⟩
  · rcases ht with ht | ht <;> simp [hp, ht]
  · exact iff_of_true hp ht
  · simp [hp, hzero]
  · simp [hp, hzero]

theorem parse_eq_mode_iff : parse value = .ok (.mode m) ↔
    Text.trim value ≠ ['1'] ∧ Text.trim value ≠ ['0'] ∧ modeOf? (Text.trim value) = some m := by
  have hnil : modeOf? [] = none := by decide
  rcases parse_cases value with ⟨ht, hp⟩ | ⟨ht, hp⟩ | ⟨-, hone, hzero, ⟨m, hm, hp⟩ | ⟨hm, hp⟩⟩
  · rcases ht with ht | ht <;> simp [hp, ht, hnil]
  · simp [hp, ht]
  · simp [hp, hone, hzero, hm]
  · simp [hp, hm]

theorem parse_eq_error_iff : parse value = .error e ↔
    e = .badPermissions value ∧ Text.trim value ≠ [] ∧ modeOf? (Text.trim value) = none := by
  -- the words are numerals too
  have hone : modeOf? ['1'] ≠ none := by decide
  have hzero : modeOf? ['0'] ≠ none := by decide
  rcases parse_cases value with ⟨ht, hp⟩ | ⟨ht, hp⟩ | ⟨hblank, -, -, ⟨m, hm, hp⟩ | ⟨hm, hp⟩⟩
  · rcases ht with ht | ht <;> simp [hp, ht, hone]
  · simp [hp, ht, hzero]
  · simp [hp, hm]
  · simp [hp, hm, hblank, eq_comm]

end

/-- Every value is a word, a number of at most twelve bits, or refused as it was given. -/
theorem parse_octal (value : Text) :
    let t := Text.trim value
    (parse value = .ok .ownerOnly ↔ t = [] ∨ t = ['1']) ∧
      (parse value = .ok .osDefault ↔ t = ['0']) ∧
      (∀ m, parse value = .ok (.mode m) ↔ t ≠ ['1'] ∧ t ≠ ['0'] ∧
        ∃ digits, (t = digits ∨ t = '+' :: digits) ∧ Text.IsNumeral 8 digits m.toNat) ∧
      ∀ e, parse value = .error e ↔ e = .badPermissions value ∧ t ≠ [] ∧
        ∀ digits n, (t = digits ∨ t = '+' :: digits) → Text.IsNumeral 8 digits n → 0o7777 < n := by
  intro t
  refine ⟨parse_eq_ownerOnly_iff, parse_eq_osDefault_iff, fun m => ?_, fun e => ?_⟩
  · rw [parse_eq_mode_iff, modeOf?_eq_some_iff]
  · rw [parse_eq_error_iff, modeOf?_eq_none_iff]

/-- A plus is nothing to a number, and makes a number of a word. -/
theorem parse_takes_plus : parse "+640".toList = .ok (.mode 0o640) ∧
    parse "1".toList = .ok .ownerOnly ∧ parse "+1".toList = .ok (.mode 0o001) := by decide

end CookiePermissions

end RpcGate
