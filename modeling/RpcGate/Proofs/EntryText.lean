import RpcGate.Proofs.FailClosed
import RpcGate.Proofs.Lines

/-!
# Entries as they are written

An entry of a plain user and a plain salt reads back what it was written from
(`Entry.parse_encode`), and takes up one trimmed line. A credential file lists
the entries of its lines that are not blank, in their order
(`Entry.ofContents_eq_ok_iff`).
-/

namespace RpcGate

/-! ## Hexadecimal -/

namespace Hex

theorem digit?_digit {n : Nat} (h : n < 16) : digit? (digit n) = some n := by
  have : ∀ n < 16, digit? (digit n) = some n := by decide
  exact this n h

theorem digit_mem {n : Nat} (h : n < 16) : digit n ∈ "0123456789abcdef".toList := by
  have : ∀ n < 16, digit n ∈ "0123456789abcdef".toList := by decide
  exact this n h

theorem decode?_encode (bs : Bytes) : decode? (encode bs) = some bs := by
  induction bs with
  | nil => rfl
  | cons b bs ih =>
    have hb := b.toNat_lt
    have hbyte : b.toNat / 16 * 16 + b.toNat % 16 = b.toNat := by omega
    simp only [encode, decode?, digit?_digit (show b.toNat / 16 < 16 by omega),
      digit?_digit (show b.toNat % 16 < 16 by omega), ih, Option.bind_eq_bind, Option.bind_some, hbyte,
      UInt8.ofNat_toNat]
    rfl

theorem mem_encode {bs : Bytes} {c : Char} (h : c ∈ encode bs) : c ∈ "0123456789abcdef".toList := by
  induction bs with
  | nil => cases h
  | cons b bs ih =>
    have hb := b.toNat_lt
    simp only [encode, List.mem_cons] at h
    rcases h with rfl | rfl | h
    · exact digit_mem (by omega)
    · exact digit_mem (by omega)
    · exact ih h

end Hex

theorem Digest.ofHex?_hex (d : Digest) : ofHex? (hex d) = some d := by
  unfold ofHex? hex
  rw [Hex.decode?_encode]
  simp [Vector.toList]

theorem Digest.hex_ne_nil (d : Digest) : hex d ≠ [] := by
  intro h
  have hl := congrArg List.length h
  rw [hex, Hex.length_encode] at hl
  simp at hl

/-! ## Plain names and salts -/

/-- A user name that stands on a line as it is. -/
structure IsPlainName (name : Text) : Prop where
  ne_nil : name ≠ []
  colon : ':' ∉ name
  newline : '\n' ∉ name
  head : ∀ c, name.head? = some c → Text.isBlank c = false

structure IsPlainSalt (salt : Text) : Prop where
  colon : ':' ∉ salt
  dollar : '$' ∉ salt
  newline : '\n' ∉ salt

theorem any_isBlank_head_iff {name : Text} :
    name.head?.any Text.isBlank = false ↔ ∀ c, name.head? = some c → Text.isBlank c = false := by
  cases name with
  | nil => simp
  | cons c name => simp

instance (name : Text) : Decidable (IsPlainName name) :=
  decidable_of_iff (name ≠ [] ∧ ':' ∉ name ∧ '\n' ∉ name ∧ name.head?.any Text.isBlank = false)
    ⟨fun h => ⟨h.1, h.2.1, h.2.2.1, any_isBlank_head_iff.1 h.2.2.2⟩,
      fun h => ⟨h.ne_nil, h.colon, h.newline, any_isBlank_head_iff.2 h.head⟩⟩

instance (salt : Text) : Decidable (IsPlainSalt salt) :=
  decidable_of_iff (':' ∉ salt ∧ '$' ∉ salt ∧ '\n' ∉ salt)
    ⟨fun h => ⟨h.1, h.2.1, h.2.2⟩, fun h => ⟨h.colon, h.dollar, h.newline⟩⟩

theorem isPlainSalt_encode (bs : Bytes) : IsPlainSalt (Hex.encode bs) := by
  refine ⟨fun h => ?_, fun h => ?_, fun h => ?_⟩
  · exact absurd (Hex.mem_encode h) (by decide)
  · exact absurd (Hex.mem_encode h) (by decide)
  · exact absurd (Hex.mem_encode h) (by decide)

namespace Entry

structure IsPlain (e : Entry) : Prop where
  name : IsPlainName e.username
  salt : IsPlainSalt e.salt

instance (e : Entry) : Decidable e.IsPlain :=
  decidable_of_iff (IsPlainName e.username ∧ IsPlainSalt e.salt) ⟨fun h => ⟨h.1, h.2⟩, fun h => ⟨h.name, h.salt⟩⟩

section
variable {e : Entry} {raw line : Text}

theorem encode_eq (e : Entry) : e.encode = e.username ++ ':' :: (e.salt ++ '$' :: Digest.hex e.hash) := by
  simp [encode]

theorem parse_encode (hu : e.username ≠ []) (hc : ':' ∉ e.username) (hs : ':' ∉ e.salt) (hd : '$' ∉ e.salt) :
    parse e.encode = .ok e := by
  have hhex := isPlainSalt_encode e.hash.toList
  have hcolon : ':' ∉ e.salt ++ '$' :: Digest.hex e.hash := by
    simp only [List.mem_append, List.mem_cons, not_or]
    exact ⟨hs, by decide, hhex.colon⟩
  have hmaterial : Text.pieces '$' (e.salt ++ '$' :: Digest.hex e.hash) = [e.salt, Digest.hex e.hash] :=
    Text.pieces_eq_pair_iff.2 ⟨rfl, hd, hhex.dollar⟩
  have hpieces : Text.pieces ':' e.encode = [e.username, e.salt ++ '$' :: Digest.hex e.hash] :=
    Text.pieces_eq_pair_iff.2 ⟨e.encode_eq, hc, hcolon⟩
  rw [parse, hpieces]
  simp only [parseMaterial, hmaterial, if_neg hu, if_neg (Digest.hex_ne_nil e.hash), Digest.ofHex?_hex]

/-- Whatever reads as an entry has its user in front of its only colon. -/
theorem eq_append_of_parse (h : parse raw = .ok e) :
    ∃ material, raw = e.username ++ ':' :: material ∧ e.username ≠ [] ∧ ':' ∉ e.username ∧ ':' ∉ material := by
  unfold parse at h
  split at h
  · next username material hp =>
    obtain ⟨rfl, hu, hm⟩ := Text.pieces_eq_pair_iff.1 hp
    have hname : e.username = username ∧ username ≠ [] := by
      unfold parseMaterial at h
      split at h
      · split at h
        · cases h
        · next hne =>
          split at h
          · cases h
          · split at h
            · cases h; exact ⟨rfl, hne⟩
            · cases h
      · cases h
    obtain ⟨rfl, hne⟩ := hname
    exact ⟨material, rfl, hne, hu, hm⟩
  · cases h

theorem count_colon_of_parse (h : parse raw = .ok e) : raw.count ':' = 1 := by
  obtain ⟨material, rfl, -, hu, hm⟩ := eq_append_of_parse h
  rw [List.count_append, List.count_cons_self, List.count_eq_zero.2 hu, List.count_eq_zero.2 hm]

theorem parse_of_count_colon (h : raw.count ':' ≠ 1) : parse raw = .error .colonCount := by
  unfold parse
  split
  · next username material hp =>
    have hl := Text.length_pieces ':' raw
    rw [hp, List.length_cons, List.length_singleton] at hl
    omega
  · rfl

/-! ## One line -/

theorem IsPlain.parse_encode (h : e.IsPlain) : parse e.encode = .ok e :=
  Entry.parse_encode h.name.ne_nil h.name.colon h.salt.colon h.salt.dollar

theorem IsPlain.newline_not_mem (h : e.IsPlain) : '\n' ∉ e.encode := by
  have hhex := isPlainSalt_encode e.hash.toList
  simp only [encode_eq, List.mem_append, List.mem_cons, not_or]
  exact ⟨h.name.newline, by decide, h.salt.newline, by decide, hhex.newline⟩

theorem getLast?_encode_not_blank {c : Char} (h : e.encode.getLast? = some c) : Text.isBlank c = false := by
  have hc : c ∈ Digest.hex e.hash := by
    have happend : e.encode = (e.username ++ ':' :: e.salt ++ ['$']) ++ Digest.hex e.hash := by simp [encode]
    rw [happend, List.getLast?_append, List.getLast?_eq_some_getLast (Digest.hex_ne_nil e.hash)] at h
    rw [← Option.some.inj h]
    exact List.getLast_mem _
  have hdigits : "0123456789abcdef".toList.any Text.isBlank = false := by decide
  rw [Bool.eq_false_iff]
  exact List.any_eq_false.1 hdigits c (Hex.mem_encode hc)

theorem IsPlain.isTrimmed (h : e.IsPlain) : Text.IsTrimmed e.encode := by
  refine ⟨fun c hc => ?_, fun c hc => getLast?_encode_not_blank hc⟩
  obtain ⟨d, name, hn⟩ := List.exists_cons_of_ne_nil h.name.ne_nil
  rw [encode_eq, hn] at hc
  exact h.name.head c (by rw [hn]; exact hc)

theorem encode_ne_nil (e : Entry) : e.encode ≠ [] := by simp [encode_eq]

theorem isPlainName_of_parse_trim (h : parse (Text.trim line) = .ok e) (hn : '\n' ∉ line) :
    IsPlainName e.username := by
  obtain ⟨material, ht, hne, hu, -⟩ := eq_append_of_parse h
  obtain ⟨c, name, hname⟩ := List.exists_cons_of_ne_nil hne
  refine ⟨hne, hu, fun hm => hn (Text.mem_of_mem_trim ?_), fun d hd => ?_⟩
  · rw [ht]
    exact List.mem_append_left _ hm
  · refine (Text.isTrimmed_trim line).head d ?_
    rw [ht, hname]
    rw [hname] at hd
    exact hd

end

/-! ## Files -/

/-- What the lines of a credential file list. -/
inductive Listed : List Text → List Entry → Prop
  | nil : Listed [] []
  | blank {line : Text} {lines : List Text} {es : List Entry} (hb : Text.trim line = []) (h : Listed lines es) :
    Listed (line :: lines) es
  | entry {line : Text} {lines : List Text} {e : Entry} {es : List Entry} (hb : Text.trim line ≠ [])
    (hp : parse (Text.trim line) = .ok e) (h : Listed lines es) : Listed (line :: lines) (e :: es)

section
variable {lines more : List Text} {line : Text} {es fs : List Entry} {e : Entry} {path : Path} {contents : Text}

theorem ofLine_eq_ok_iff {n : Nat} {o : Option Entry} : ofLine path (n, line) = .ok o ↔
    (Text.trim line = [] ∧ o = none) ∨ (Text.trim line ≠ [] ∧ ∃ e, parse (Text.trim line) = .ok e ∧ o = some e) := by
  unfold ofLine
  by_cases hb : Text.trim line = []
  · simp [hb, eq_comm]
  · cases hp : parse (Text.trim line) with
    | ok e => simp [hb, hp, eq_comm]
    | error fault => simp [hb, hp]

theorem Listed.append (h : Listed lines es) (h' : Listed more fs) : Listed (lines ++ more) (es ++ fs) := by
  induction h with
  | nil => exact h'
  | blank hb _ ih => exact .blank hb ih
  | entry hb hp _ ih => exact .entry hb hp ih

theorem Listed.of_append (h : Listed (lines ++ more) es) :
    ∃ front back, es = front ++ back ∧ Listed lines front ∧ Listed more back := by
  induction lines generalizing es with
  | nil => exact ⟨[], es, rfl, .nil, h⟩
  | cons line lines ih =>
    cases h with
    | blank hb h =>
      obtain ⟨front, back, rfl, hf, hm⟩ := ih h
      exact ⟨front, back, rfl, .blank hb hf, hm⟩
    | entry hb hp h =>
      obtain ⟨front, back, rfl, hf, hm⟩ := ih h
      exact ⟨_ :: front, back, rfl, .entry hb hp hf, hm⟩

theorem Listed.exists_line (h : Listed lines es) (he : e ∈ es) :
    ∃ line ∈ lines, parse (Text.trim line) = .ok e := by
  induction h with
  | nil => cases he
  | blank _ _ ih =>
    obtain ⟨line, hl, hp⟩ := ih he
    exact ⟨line, List.mem_cons_of_mem _ hl, hp⟩
  | entry _ hp _ ih =>
    rcases List.mem_cons.1 he with rfl | he
    · exact ⟨_, List.mem_cons_self, hp⟩
    · obtain ⟨line, hl, hp⟩ := ih he
      exact ⟨line, List.mem_cons_of_mem _ hl, hp⟩

theorem Listed.ofLine (h : Listed lines es) (hl : line ∈ lines) (n : Nat) : ∃ o, ofLine path (n, line) = .ok o := by
  induction h with
  | nil => cases hl
  | blank hb _ ih =>
    rcases List.mem_cons.1 hl with rfl | hl
    · exact ⟨none, ofLine_eq_ok_iff.2 (.inl ⟨hb, rfl⟩)⟩
    · exact ih hl
  | entry hb hp _ ih =>
    rcases List.mem_cons.1 hl with rfl | hl
    · exact ⟨_, ofLine_eq_ok_iff.2 (.inr ⟨hb, _, hp, rfl⟩)⟩
    · exact ih hl

theorem mapM_ofLine_eq_ok_iff (path : Path) (k : Nat) :
    (∃ os, (((lines.zipIdx k).map fun p => (p.2, p.1)).mapM (Entry.ofLine path)) = .ok os ∧ os.filterMap id = es) ↔
      Listed lines es := by
  induction lines generalizing k es with
  | nil =>
    constructor
    · intro h
      obtain ⟨os, hm, rfl⟩ := h
      cases hm
      exact .nil
    · intro h
      cases h
      exact ⟨[], rfl, rfl⟩
  | cons line lines ih =>
    simp only [List.zipIdx_cons, List.map_cons, List.mapM_cons]
    constructor
    · intro h
      obtain ⟨os, hm, rfl⟩ := h
      cases hl : Entry.ofLine path (k, line) with
      | error fault => rw [hl] at hm; cases hm
      | ok o =>
        cases hrest : ((lines.zipIdx (k + 1)).map fun p => (p.2, p.1)).mapM (Entry.ofLine path) with
        | error fault => rw [hl, hrest] at hm; cases hm
        | ok rest =>
          rw [hl, hrest] at hm
          cases hm
          have hlisted := (ih (k + 1)).1 ⟨rest, hrest, rfl⟩
          rcases ofLine_eq_ok_iff.1 hl with ⟨hb, rfl⟩ | ⟨hb, e, hp, rfl⟩
          · exact .blank hb hlisted
          · exact .entry hb hp hlisted
    · intro h
      cases h with
      | blank hb h =>
        obtain ⟨os, hm, rfl⟩ := (ih (k + 1)).2 h
        have hl : Entry.ofLine path (k, line) = .ok none := ofLine_eq_ok_iff.2 (.inl ⟨hb, rfl⟩)
        exact ⟨none :: os, by rw [hl, hm]; rfl, rfl⟩
      | entry hb hp h =>
        obtain ⟨os, hm, rfl⟩ := (ih (k + 1)).2 h
        have hl : Entry.ofLine path (k, line) = .ok (some _) := ofLine_eq_ok_iff.2 (.inr ⟨hb, _, hp, rfl⟩)
        exact ⟨_ :: os, by rw [hl, hm]; rfl, rfl⟩

theorem ofContents_eq_ok_iff : ofContents path contents = .ok es ↔ Listed (Text.lines contents) es := by
  rw [← mapM_ofLine_eq_ok_iff path 1]
  unfold ofContents Text.numberedLines
  cases (((Text.lines contents).zipIdx 1).map fun p => (p.2, p.1)).mapM (Entry.ofLine path) with
  | error fault => simp [bind, Except.bind]
  | ok os => simp [bind, Except.bind, pure, Except.pure]

theorem isPlainName_of_ofContents (h : ofContents path contents = .ok es) (he : e ∈ es) :
    IsPlainName e.username := by
  obtain ⟨line, hl, hp⟩ := (ofContents_eq_ok_iff.1 h).exists_line he
  exact isPlainName_of_parse_trim hp (Text.newline_not_mem_of_mem_lines hl)

end

end Entry

end RpcGate
