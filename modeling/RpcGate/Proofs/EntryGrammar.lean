import RpcGate.Proofs.EntryText

/-!
# The grammar of entries

A text reads as an entry exactly if it is a user, a colon, a salt, a dollar and
64 hexadecimal digits (`Entry.parse_eq_ok_iff`). The digits have two cases and
an entry is written in one of them, so that writing what was read gives the
text with its digits in small letters, and reading that gives the entry again
(`Entry.parse_spelling`).
-/

namespace RpcGate

/-! ## Hexadecimal in either case -/

namespace Hex

def digits : Text := "0123456789abcdefABCDEF".toList

section
variable {c : Char} {d : Nat} {t : Text} {bs : Bytes}

theorem toNat_lt_of_digit? (h : digit? c = some d) : c.toNat < 128 := by
  unfold digit? at h
  split at h
  · next hc => exact Text.toNat_lt_of_le hc.2 (by decide)
  · split at h
    · next hc => exact Text.toNat_lt_of_le hc.2 (by decide)
    · split at h
      · next hc => exact Text.toNat_lt_of_le hc.2 (by decide)
      · cases h

theorem digit?_eq_some (h : digit? c = some d) : c ∈ digits ∧ d < 16 ∧ digit d = c.toLower :=
  Text.forall_ascii (P := fun c => ∀ d ∈ digit? c, c ∈ digits ∧ d < 16 ∧ digit d = c.toLower)
    (by decide +kernel) (toNat_lt_of_digit? h) d h

theorem exists_digit? (h : c ∈ digits) : ∃ d, digit? c = some d := by
  have all : digits.all fun c => (digit? c).isSome := by decide
  exact Option.isSome_iff_exists.1 (List.all_eq_true.1 all c h)

theorem encode_of_decode? (h : decode? t = some bs) : (∀ c ∈ t, c ∈ digits) ∧ encode bs = Text.lowerAscii t := by
  fun_induction decode? t generalizing bs with
  | case1 => cases h; exact ⟨by simp, rfl⟩
  | case2 => cases h
  | case3 a b t ih =>
    simp only [Option.bind_eq_bind, Option.pure_def, Option.bind_eq_some_iff] at h
    obtain ⟨hi, ha, lo, hb, rest, hr, h⟩ := h
    cases h
    obtain ⟨ha, hhi, hda⟩ := digit?_eq_some ha
    obtain ⟨hb, hlo, hdb⟩ := digit?_eq_some hb
    obtain ⟨ht, hrest⟩ := ih hr
    have hbyte : (UInt8.ofNat (hi * 16 + lo)).toNat = hi * 16 + lo := UInt8.toNat_ofNat_of_lt' (show hi * 16 + lo < 256 by omega)
    have hfirst : (hi * 16 + lo) / 16 = hi := by omega
    have hsecond : (hi * 16 + lo) % 16 = lo := by omega
    refine ⟨?_, ?_⟩
    · intro c hc
      rcases List.mem_cons.1 hc with rfl | hc
      · exact ha
      · rcases List.mem_cons.1 hc with rfl | hc
        · exact hb
        · exact ht c hc
    · rw [encode, hbyte, hfirst, hsecond, hda, hdb, hrest]
      rfl

theorem exists_decode? (hl : t.length % 2 = 0) (h : ∀ c ∈ t, c ∈ digits) : ∃ bs, decode? t = some bs := by
  fun_induction decode? t with
  | case1 => exact ⟨[], rfl⟩
  | case2 => simp at hl
  | case3 a b t ih =>
    obtain ⟨hi, ha⟩ := exists_digit? (h a (by simp))
    obtain ⟨lo, hb⟩ := exists_digit? (h b (by simp))
    have htail : t.length % 2 = 0 := by
      rw [List.length_cons, List.length_cons] at hl
      omega
    obtain ⟨rest, hr⟩ := ih htail fun c hc => h c (by simp [hc])
    exact ⟨UInt8.ofNat (hi * 16 + lo) :: rest, by simp [ha, hb, hr]⟩

end

end Hex

theorem Digest.ofHex?_eq_some_iff {t : Text} {d : Digest} : ofHex? t = some d ↔
    (t.length = 64 ∧ ∀ c ∈ t, c ∈ Hex.digits) ∧ hex d = Text.lowerAscii t := by
  constructor
  · intro h
    unfold ofHex? at h
    split at h
    · cases h
    · next bs hbs =>
      split at h
      · next hl =>
        cases h
        obtain ⟨ht, he⟩ := Hex.encode_of_decode? hbs
        have hlength := Hex.length_decode? hbs
        exact ⟨⟨by omega, ht⟩, by simpa [hex, Vector.toList] using he⟩
      · cases h
  · intro h
    obtain ⟨⟨hl, ht⟩, he⟩ := h
    obtain ⟨bs, hbs⟩ := Hex.exists_decode? (by rw [hl]) ht
    have hlength := Hex.length_decode? hbs
    -- the same digits in small letters stand for the bytes of `d`
    have hsame : Hex.encode bs = hex d := (Hex.encode_of_decode? hbs).2.trans he.symm
    have hd : some bs = some d.toList := by
      rw [← Hex.decode?_encode bs, hsame, hex, Hex.decode?_encode]
    obtain rfl := Option.some.inj hd
    unfold ofHex?
    rw [hbs]
    simp [Vector.toList]

/-! ## Entries -/

namespace Entry

/-- `raw` is `user:salt$digits`. The user may hold a `$`, the salt may be empty. -/
structure Spells (raw user salt digits : Text) : Prop where
  eq : raw = user ++ ':' :: (salt ++ '$' :: digits)
  user_ne_nil : user ≠ []
  user_colon : ':' ∉ user
  salt_colon : ':' ∉ salt
  salt_dollar : '$' ∉ salt
  length : digits.length = 64
  digits : ∀ c ∈ digits, c ∈ Hex.digits

section
variable {raw user material salt digits : Text} {e : Entry}

theorem Spells.not_mem (h : Spells raw user salt digits) : ':' ∉ digits ∧ '$' ∉ digits :=
  ⟨fun hc => absurd (h.digits _ hc) (by decide), fun hc => absurd (h.digits _ hc) (by decide)⟩

theorem Spells.pieces_colon (h : Spells raw user salt digits) :
    Text.pieces ':' raw = [user, salt ++ '$' :: digits] := by
  refine Text.pieces_eq_pair_iff.2 ⟨h.eq, h.user_colon, ?_⟩
  simp only [List.mem_append, List.mem_cons, not_or]
  exact ⟨h.salt_colon, by decide, h.not_mem.1⟩

theorem Spells.pieces_dollar (h : Spells raw user salt digits) :
    Text.pieces '$' (salt ++ '$' :: digits) = [salt, digits] :=
  Text.pieces_eq_pair_iff.2 ⟨rfl, h.salt_dollar, h.not_mem.2⟩

theorem parseMaterial_eq_ok (h : parseMaterial user material = .ok e) : e.username = user ∧ user ≠ [] ∧
    ∃ digits, material = e.salt ++ '$' :: digits ∧ '$' ∉ e.salt ∧ Digest.ofHex? digits = some e.hash := by
  unfold parseMaterial at h
  split at h
  · next salt digits hp =>
    obtain ⟨hm, hs, -⟩ := Text.pieces_eq_pair_iff.1 hp
    split at h
    · cases h
    · next hu =>
      split at h
      · cases h
      · split at h
        · next digest hd => cases h; exact ⟨rfl, hu, digits, hm, hs, hd⟩
        · cases h
  · cases h

theorem parse_eq_ok_iff : parse raw = .ok e ↔
    ∃ digits, Spells raw e.username e.salt digits ∧ Digest.hex e.hash = Text.lowerAscii digits := by
  constructor
  · intro h
    unfold parse at h
    split at h
    · next user material hp =>
      obtain ⟨hraw, hu, hm⟩ := Text.pieces_eq_pair_iff.1 hp
      obtain ⟨rfl, hne, digits, rfl, hs, hd⟩ := parseMaterial_eq_ok h
      obtain ⟨⟨hl, hdigits⟩, he⟩ := Digest.ofHex?_eq_some_iff.1 hd
      exact ⟨digits, ⟨hraw, hne, hu, fun hc => hm (List.mem_append_left _ hc), hs, hl, hdigits⟩, he⟩
    · cases h
  · intro h
    obtain ⟨digits, hs, he⟩ := h
    have hne : digits ≠ [] := by
      rintro rfl
      exact absurd hs.length (by decide)
    have hhash := Digest.ofHex?_eq_some_iff.2 ⟨⟨hs.length, hs.digits⟩, he⟩
    rw [parse, hs.pieces_colon]
    simp only [parseMaterial, hs.pieces_dollar, if_neg hs.user_ne_nil, if_neg hne, hhash]

theorem Spells.exists_parse (h : Spells raw user salt digits) : ∃ e, parse raw = .ok e ∧ e.username = user ∧
    e.salt = salt ∧ Digest.ofHex? digits = some e.hash ∧ Digest.hex e.hash = Text.lowerAscii digits := by
  obtain ⟨bs, hbs⟩ := Hex.exists_decode? (by rw [h.length]) h.digits
  have hlength : bs.length = 32 := by
    have := Hex.length_decode? hbs
    rw [h.length] at this
    omega
  have hhash : Digest.ofHex? digits = some ⟨bs.toArray, by simpa using hlength⟩ := by
    unfold Digest.ofHex?
    rw [hbs]
    simp [hlength]
  have hhex := (Digest.ofHex?_eq_some_iff.1 hhash).2
  exact ⟨⟨user, salt, _⟩, parse_eq_ok_iff.2 ⟨digits, h, hhex⟩, rfl, rfl, hhash, hhex⟩

theorem parse_encode_iff : parse e.encode = .ok e ↔
    e.username ≠ [] ∧ ':' ∉ e.username ∧ ':' ∉ e.salt ∧ '$' ∉ e.salt := by
  constructor
  · intro h
    obtain ⟨_, hs, -⟩ := parse_eq_ok_iff.1 h
    exact ⟨hs.user_ne_nil, hs.user_colon, hs.salt_colon, hs.salt_dollar⟩
  · intro h
    exact parse_encode h.1 h.2.1 h.2.2.1 h.2.2.2

end

/-- The grammar of entries: what reads as one, as which one, and how that is written. What does not
is refused as a malformed credential. -/
theorem parse_spelling (raw : Text) :
    ((∃ e, parse raw = .ok e) ↔ ∃ user salt digits, Spells raw user salt digits) ∧
      (∀ user salt digits, Spells raw user salt digits →
        ∃ e, parse raw = .ok e ∧ e.username = user ∧ e.salt = salt ∧ Digest.ofHex? digits = some e.hash ∧
          e.encode = user ++ ':' :: (salt ++ '$' :: Text.lowerAscii digits) ∧ parse e.encode = .ok e) ∧
      (∀ e : Entry, parse e.encode = .ok e ↔
        e.username ≠ [] ∧ ':' ∉ e.username ∧ ':' ∉ e.salt ∧ '$' ∉ e.salt) ∧
      ((¬ ∃ user salt digits, Spells raw user salt digits) →
        ∃ fault, parse raw = .error fault ∧ (AuthError.malformed fault).isCredential ∧
          ∀ fs, Text.trim raw ≠ [] → (Directive.addInline raw).entries fs = .error (.malformed fault)) := by
  have hiff : (∃ e, parse raw = .ok e) ↔ ∃ user salt digits, Spells raw user salt digits := by
    constructor
    · intro h
      obtain ⟨e, h⟩ := h
      obtain ⟨digits, hs, -⟩ := parse_eq_ok_iff.1 h
      exact ⟨_, _, digits, hs⟩
    · intro h
      obtain ⟨_, _, _, hs⟩ := h
      obtain ⟨e, h, -⟩ := hs.exists_parse
      exact ⟨e, h⟩
  refine ⟨hiff, ?_, fun e => parse_encode_iff, ?_⟩
  · intro user salt digits hs
    obtain ⟨e, h, rfl, rfl, hhash, hhex⟩ := hs.exists_parse
    exact ⟨e, h, rfl, rfl, hhash, by rw [encode_eq, hhex],
      parse_encode hs.user_ne_nil hs.user_colon hs.salt_colon hs.salt_dollar⟩
  · intro hnot
    cases h : parse raw with
    | ok e => exact absurd (hiff.1 ⟨e, h⟩) hnot
    | error fault => exact ⟨fault, rfl, rfl, fun fs hb => by rw [Directive.entries_addInline fs hb, h]⟩

/-- A dollar in the user, no salt, and capital digits, which are written small. -/
theorem parse_spelling_capitals :
    let digits : Text := List.replicate 64 'F'
    let raw := "a$b:$".toList ++ digits
    Spells raw "a$b".toList [] digits ∧ ∃ e, parse raw = .ok e ∧
      e.encode = "a$b:$".toList ++ List.replicate 64 'f' ∧ parse e.encode = .ok e := by
  intro digits raw
  have hdigits : ∀ c ∈ digits, c ∈ Hex.digits := by
    intro c hc
    rw [List.eq_of_mem_replicate hc]
    decide
  have hs : Spells raw "a$b".toList [] digits :=
    ⟨rfl, by decide, by decide, by decide, by decide, by decide, hdigits⟩
  obtain ⟨e, hp, -, -, -, hencode, hagain⟩ := (parse_spelling raw).2.1 _ _ _ hs
  exact ⟨hs, e, hp, hencode, hagain⟩

end Entry

end RpcGate
