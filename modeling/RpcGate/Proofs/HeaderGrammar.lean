import RpcGate.Proofs.Lines

/-!
# The grammar of Basic headers

Bytes have one text in base 64 and nothing else reads as them
(`Base64.decode?_eq_some_iff`). So a header reads as a user and a password
exactly if it is the scheme and, between blanks, the base 64 of the two
(`BasicHeader.header_spelling`).
-/

namespace RpcGate

/-! ## Base 64 has one written form -/

namespace Base64

section
variable {a b c d : Char} {n : Nat} {t : Text} {bs : Bytes}

theorem toNat_lt_of_value? (h : value? standard c = some n) : c.toNat < 128 := by
  unfold value? at h
  split at h
  · next hc => exact Text.toNat_lt_of_le hc.2 (by decide)
  · split at h
    · next hc => exact Text.toNat_lt_of_le hc.2 (by decide)
    · split at h
      · next hc => exact Text.toNat_lt_of_le hc.2 (by decide)
      · split at h
        · next hc => rw [hc]; decide
        · split at h
          · next hc => rw [hc]; decide
          · cases h

theorem value?_eq_some (h : value? standard c = some n) : n < 64 ∧ sign standard n = c :=
  Text.forall_ascii (P := fun c => ∀ n ∈ value? standard c, n < 64 ∧ sign standard n = c)
    (by decide +kernel) (toNat_lt_of_value? h) n h

theorem encode_of_group2? (h : group2? standard a b = some bs) : encode standard bs = [a, b, '=', '='] := by
  unfold group2? at h
  simp only [Option.bind_eq_bind, Option.bind_eq_some_iff] at h
  obtain ⟨i, ha, j, hb, h⟩ := h
  obtain ⟨hi, rfl⟩ := value?_eq_some ha
  obtain ⟨hj, rfl⟩ := value?_eq_some hb
  split at h
  · next hzero =>
    cases h
    have hx : (UInt8.ofNat ((i * 64 + j) / 16)).toNat = (i * 64 + j) / 16 :=
      UInt8.toNat_ofNat_of_lt' (show (i * 64 + j) / 16 < 256 by omega)
    have hn : (i * 64 + j) / 16 * 16 = i * 64 + j := by omega
    simp only [encode, hx, hn]
    rw [show (i * 64 + j) / 64 = i by omega, show (i * 64 + j) % 64 = j by omega]
  · cases h

theorem encode_of_group3? (h : group3? standard a b c = some bs) : encode standard bs = [a, b, c, '='] := by
  unfold group3? at h
  simp only [Option.bind_eq_bind, Option.bind_eq_some_iff] at h
  obtain ⟨i, ha, j, hb, k, hc, h⟩ := h
  obtain ⟨hi, rfl⟩ := value?_eq_some ha
  obtain ⟨hj, rfl⟩ := value?_eq_some hb
  obtain ⟨hk, rfl⟩ := value?_eq_some hc
  generalize hn : (i * 64 + j) * 64 + k = n at h
  split at h
  · next hzero =>
    cases h
    have hx : (UInt8.ofNat (n / 1024)).toNat = n / 1024 := UInt8.toNat_ofNat_of_lt' (show n / 1024 < 256 by omega)
    have hy : (UInt8.ofNat (n / 4 % 256)).toNat = n / 4 % 256 :=
      UInt8.toNat_ofNat_of_lt' (show n / 4 % 256 < 256 by omega)
    have hbits : (n / 1024 * 256 + n / 4 % 256) * 4 = n := by omega
    simp only [encode, hx, hy, hbits]
    rw [show n / 4096 = i by omega, show n / 64 % 64 = j by omega, show n % 64 = k by omega]
  · cases h

theorem encode_of_group? (h : group? standard a b c d = some bs) (rest : Bytes) :
    encode standard (bs ++ rest) = a :: b :: c :: d :: encode standard rest := by
  unfold group? at h
  simp only [Option.bind_eq_bind, Option.bind_eq_some_iff] at h
  obtain ⟨i, ha, j, hb, k, hc, l, hd, h⟩ := h
  obtain ⟨hi, rfl⟩ := value?_eq_some ha
  obtain ⟨hj, rfl⟩ := value?_eq_some hb
  obtain ⟨hk, rfl⟩ := value?_eq_some hc
  obtain ⟨hl, rfl⟩ := value?_eq_some hd
  generalize hn : ((i * 64 + j) * 64 + k) * 64 + l = n at h
  cases h
  have hx : (UInt8.ofNat (n / 65536)).toNat = n / 65536 := UInt8.toNat_ofNat_of_lt' (show n / 65536 < 256 by omega)
  have hy : (UInt8.ofNat (n / 256 % 256)).toNat = n / 256 % 256 :=
    UInt8.toNat_ofNat_of_lt' (show n / 256 % 256 < 256 by omega)
  have hz : (UInt8.ofNat (n % 256)).toNat = n % 256 := UInt8.toNat_ofNat_of_lt' (show n % 256 < 256 by omega)
  have hbits : (n / 65536 * 256 + n / 256 % 256) * 256 + n % 256 = n := by omega
  simp only [List.cons_append, List.nil_append, encode, hx, hy, hz, hbits]
  rw [show n / 262144 = i by omega, show n / 4096 % 64 = j by omega, show n / 64 % 64 = k by omega,
    show n % 64 = l by omega]

theorem encode_of_decode? (h : decode? standard t = some bs) : encode standard bs = t := by
  fun_induction decode? standard t generalizing bs with
  | case1 => cases h; rfl
  | case2 a b => exact encode_of_group2? h
  | case3 a b c => exact encode_of_group3? h
  | case4 a b c d rest _ _ ih =>
    simp only [Option.bind_eq_bind, Option.pure_def, Option.bind_eq_some_iff, Option.some.injEq] at h
    obtain ⟨group, hg, more, hm, rfl⟩ := h
    rw [encode_of_group? hg, ih hm]
  | case5 => cases h

theorem decode?_eq_some_iff : decode? standard t = some bs ↔ t = encode standard bs := by
  constructor
  · intro h
    exact (encode_of_decode? h).symm
  · rintro rfl
    exact decode?_encode bs

end

end Base64

/-! ## Blanks around a text -/

namespace Text

inductive Padded (t : Text) : Text → Prop
  | mk {before after : Text} (hb : ∀ c ∈ before, isBlank c) (ha : ∀ c ∈ after, isBlank c) :
    Padded t (before ++ (t ++ after))

theorem padded_trim (t : Text) : Padded (trim t) t := by
  obtain ⟨before, after, ht, hb, ha⟩ := exists_eq_append_trim t
  have hp : Padded (trim t) (before ++ (trim t ++ after)) := .mk hb ha
  rwa [← ht] at hp

theorem Padded.trim_eq {t padded : Text} (h : Padded t padded) (ht : IsTrimmed t) : trim padded = t := by
  cases h with
  | mk hb ha => exact trim_padded hb ha ht

end Text

theorem Base64.isTrimmed_encode (bs : Bytes) : Text.IsTrimmed (encode standard bs) :=
  ⟨fun c hc => isBlank_encode bs c (List.mem_of_mem_head? hc), fun c hc => isBlank_encode bs c (List.mem_of_getLast? hc)⟩

/-! ## Headers -/

namespace BasicHeader

/-- What a header says after its scheme. -/
def material (user password : Text) : Text := Base64.encode Base64.standard (Text.utf8 (user ++ ':' :: password))

theorem parse?_eq_some_iff {header user password : Text} : parse? header = some (user, password) ↔
    ':' ∉ user ∧ ∃ rest, header = scheme ++ rest ∧ Text.trim rest = material user password := by
  unfold parse? material
  simp only [Option.bind_eq_bind, Option.bind_eq_some_iff]
  constructor
  · intro h
    obtain ⟨rest, hr, bytes, hb, text, ht, hs⟩ := h
    obtain ⟨rfl, hu⟩ := Text.splitOnce_eq_some_iff.1 hs
    obtain rfl := Text.ofUtf8?_eq_some_iff.1 ht
    exact ⟨hu, rest, Text.dropPrefix_eq_some_iff.1 hr, Base64.decode?_eq_some_iff.1 hb⟩
  · intro h
    obtain ⟨hu, rest, hr, ht⟩ := h
    exact ⟨rest, Text.dropPrefix_eq_some_iff.2 hr, _, Base64.decode?_eq_some_iff.2 ht, _, Text.ofUtf8?_utf8 _,
      Text.splitOnce_eq_some_iff.2 ⟨rfl, hu⟩⟩

/-- A header is read exactly if it is the scheme and the material of a user without a colon, between
blanks. Two headers of one user and password differ in these blanks alone. -/
theorem header_spelling :
    (∀ user password rest : Text, ':' ∉ user → Text.Padded (material user password) rest →
      parse? (scheme ++ rest) = some (user, password)) ∧
    (∀ header user password : Text, parse? header = some (user, password) →
      ':' ∉ user ∧ ∃ rest, header = scheme ++ rest ∧ Text.trim rest = material user password) ∧
    (∀ (header header' : Text) (pair : Text × Text), parse? header = some pair → parse? header' = some pair →
      ∃ text rest rest', header = scheme ++ rest ∧ header' = scheme ++ rest' ∧
        Text.Padded text rest ∧ Text.Padded text rest') := by
  refine ⟨?_, ?_, ?_⟩
  · intro user password rest hu hp
    exact parse?_eq_some_iff.2 ⟨hu, rest, rfl, hp.trim_eq (Base64.isTrimmed_encode _)⟩
  · intro header user password h
    exact parse?_eq_some_iff.1 h
  · intro header header' pair h h'
    obtain ⟨-, rest, hr, ht⟩ := parse?_eq_some_iff.1 h
    obtain ⟨-, rest', hr', ht'⟩ := parse?_eq_some_iff.1 h'
    refine ⟨material pair.1 pair.2, rest, rest', hr, hr', ?_, ?_⟩
    · rw [← ht]
      exact Text.padded_trim rest
    · rw [← ht']
      exact Text.padded_trim rest'

/-- A user with a dollar and no password but a colon, behind a tab and before an ideographic space. -/
theorem header_spelling_padded :
    let rest := ['\t'] ++ (material "ü$".toList [':'] ++ ['\u3000'])
    ':' ∉ "ü$".toList ∧ Text.Padded (material "ü$".toList [':']) rest ∧
      parse? (scheme ++ rest) = some ("ü$".toList, [':']) := by
  intro rest
  have hp : Text.Padded (material "ü$".toList [':']) rest :=
    .mk (List.forall_mem_singleton.2 (by decide)) (List.forall_mem_singleton.2 (by decide))
  exact ⟨by decide, hp, header_spelling.1 _ _ _ (by decide) hp⟩

/-- Two bits that the padding leaves over are set. -/
example : parse? "Basic YTo=".toList = some (['a'], []) ∧ parse? "Basic YTp=".toList = none := by decide

end BasicHeader

end RpcGate
