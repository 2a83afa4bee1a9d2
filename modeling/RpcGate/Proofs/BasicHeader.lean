import RpcGate.Access.Authenticator

/-!
# Reading Basic headers back

Base 64 in the standard alphabet reads back what it writes
(`decode?_encode`), and so does a header of a user whose name has no colon
(`parse?_encode`).
-/

namespace RpcGate

/-! ## Texts without blanks at their ends -/

namespace Text

theorem trimStart_eq_self {t : Text} (h : ∀ c ∈ t, isBlank c = false) : trimStart t = t := by
  cases t with
  | nil => rfl
  | cons c t =>
    have hc := h c (by simp)
    simp [trimStart, hc]

theorem trim_eq_self {t : Text} (h : ∀ c ∈ t, isBlank c = false) : trim t = t := by
  unfold trim trimEnd
  rw [trimStart_eq_self h]
  have hr : ∀ c ∈ t.reverse, isBlank c = false := fun c hc => h c (List.mem_reverse.1 hc)
  have := trimStart_eq_self hr
  unfold trimStart at this
  rw [this, List.reverse_reverse]

end Text

/-! ## Base 64 -/

namespace Base64

theorem value?_sign {n : Nat} (h : n < 64) : value? standard (sign standard n) = some n := by
  have : ∀ n < 64, value? standard (sign standard n) = some n := by decide
  exact this n h

theorem sign_ne_pad {n : Nat} (h : n < 64) : sign standard n ≠ '=' := by
  have : ∀ n < 64, sign standard n ≠ '=' := by decide
  exact this n h

theorem isBlank_sign {n : Nat} (h : n < 64) : Text.isBlank (sign standard n) = false := by
  have : ∀ n < 64, Text.isBlank (sign standard n) = false := by decide
  exact this n h

theorem group2?_sign (a : UInt8) :
    group2? standard (sign standard (a.toNat * 16 / 64)) (sign standard (a.toNat * 16 % 64)) = some [a] := by
  have ha := a.toNat_lt
  unfold group2?
  rw [value?_sign (by omega), value?_sign (by omega)]
  simp only [Option.bind_eq_bind, Option.bind_some]
  rw [if_pos (by omega), show (a.toNat * 16 / 64 * 64 + a.toNat * 16 % 64) / 16 = a.toNat by omega, UInt8.ofNat_toNat]

theorem group3?_sign (a b : UInt8) {n : Nat} (hn : n = (a.toNat * 256 + b.toNat) * 4) :
    group3? standard (sign standard (n / 4096)) (sign standard (n / 64 % 64)) (sign standard (n % 64)) =
      some [a, b] := by
  have ha := a.toNat_lt
  have hb := b.toNat_lt
  unfold group3?
  rw [value?_sign (by omega), value?_sign (by omega), value?_sign (by omega)]
  simp only [Option.bind_eq_bind, Option.bind_some]
  have hm : (n / 4096 * 64 + n / 64 % 64) * 64 + n % 64 = n := by omega
  rw [hm, if_pos (by omega), show n / 1024 = a.toNat by omega, show n / 4 % 256 = b.toNat by omega,
    UInt8.ofNat_toNat, UInt8.ofNat_toNat]

theorem group?_sign (a b c : UInt8) {n : Nat} (hn : n = (a.toNat * 256 + b.toNat) * 256 + c.toNat) :
    group? standard (sign standard (n / 262144)) (sign standard (n / 4096 % 64))
      (sign standard (n / 64 % 64)) (sign standard (n % 64)) = some [a, b, c] := by
  have ha := a.toNat_lt
  have hb := b.toNat_lt
  have hc := c.toNat_lt
  unfold group?
  rw [value?_sign (by omega), value?_sign (by omega), value?_sign (by omega), value?_sign (by omega)]
  simp only [Option.bind_eq_bind, Option.bind_some]
  have hm : ((n / 262144 * 64 + n / 4096 % 64) * 64 + n / 64 % 64) * 64 + n % 64 = n := by omega
  rw [hm, show n / 65536 = a.toNat by omega, show n / 256 % 256 = b.toNat by omega,
    show n % 256 = c.toNat by omega, UInt8.ofNat_toNat, UInt8.ofNat_toNat, UInt8.ofNat_toNat]
  rfl

theorem decode?_encode (bs : Bytes) : decode? standard (encode standard bs) = some bs := by
  fun_induction encode standard bs with
  | case1 => rfl
  | case2 a => exact group2?_sign a
  | case3 a b n =>
    have hz : sign standard (n % 64) ≠ '=' := sign_ne_pad (by omega)
    have := group3?_sign a b (n := n) rfl
    rw [decode?]
    · exact this
    · exact hz
  | case4 a b c rest n ih =>
    have hw : sign standard (n % 64) ≠ '=' := sign_ne_pad (by omega)
    have := group?_sign a b c (n := n) rfl
    rw [decode?]
    · simp [this, ih]
    · intro _ h _; exact absurd h hw
    · intro h; exact absurd h hw

theorem isBlank_encode (bs : Bytes) : ∀ c ∈ encode standard bs, Text.isBlank c = false := by
  have pad : Text.isBlank '=' = false := by decide
  fun_induction encode standard bs with
  | case1 => simp
  | case2 a n =>
    have ha := a.toNat_lt
    simp [pad, isBlank_sign (n := n / 64) (by omega), isBlank_sign (n := n % 64) (by omega)]
  | case3 a b n =>
    have ha := a.toNat_lt
    have hb := b.toNat_lt
    simp [pad, isBlank_sign (n := n / 4096) (by omega), isBlank_sign (n := n / 64 % 64) (by omega),
      isBlank_sign (n := n % 64) (by omega)]
  | case4 a b c rest n ih =>
    have ha := a.toNat_lt
    have hb := b.toNat_lt
    have hc := c.toNat_lt
    simp [isBlank_sign (n := n / 262144) (by omega), isBlank_sign (n := n / 4096 % 64) (by omega),
      isBlank_sign (n := n / 64 % 64) (by omega), isBlank_sign (n := n % 64) (by omega)]
    exact ih

end Base64

/-! ## Headers -/

namespace BasicHeader

theorem parse?_encode {user : Text} (h : ':' ∉ user) (password : Text) :
    parse? (encode user password) = some (user, password) := by
  have hs : Text.splitOnce ':' (user ++ ':' :: password) = some (user, password) :=
    Text.splitOnce_eq_some_iff.2 ⟨rfl, h⟩
  unfold parse? encode
  rw [Text.dropPrefix_eq_some_iff.2 rfl]
  simp only [Option.bind_eq_bind, Option.bind_some]
  rw [Text.trim_eq_self (Base64.isBlank_encode _), Base64.decode?_encode]
  simp only [Option.bind_some]
  rw [Text.ofUtf8?_utf8]
  exact hs

end BasicHeader

end RpcGate
