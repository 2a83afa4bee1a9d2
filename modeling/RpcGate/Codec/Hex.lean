import RpcGate.Text.Utf8

/-!
# Hexadecimal

Two digits a byte, the high one first. Written with small letters, read with
letters of either case.
-/

namespace RpcGate

namespace Hex

def digit (n : Nat) : Char := Nat.digitChar n

def digit? (c : Char) : Option Nat :=
  if '0' ≤ c ∧ c ≤ '9' then some (c.toNat - '0'.toNat)
  else if 'a' ≤ c ∧ c ≤ 'f' then some (c.toNat - 'a'.toNat + 10)
  else if 'A' ≤ c ∧ c ≤ 'F' then some (c.toNat - 'A'.toNat + 10)
  else none

def encode : Bytes → Text
  | [] => []
  | b :: bs => digit (b.toNat / 16) :: digit (b.toNat % 16) :: encode bs

/-- Refuses an odd number of digits and anything that is no digit. -/
def decode? : Text → Option Bytes
  | [] => some []
  | [_] => none
  | a :: b :: t => do
    let hi ← digit? a
    let lo ← digit? b
    let rest ← decode? t
    return UInt8.ofNat (hi * 16 + lo) :: rest

theorem length_encode (bs : Bytes) : (encode bs).length = 2 * bs.length := by
  induction bs with
  | nil => rfl
  | cons b bs ih => simp [encode, ih]; omega

theorem length_decode? {t : Text} {bs : Bytes} (h : decode? t = some bs) :
    t.length = 2 * bs.length := by
  fun_induction decode? t generalizing bs with
  | case1 => cases h; rfl
  | case2 => cases h
  | case3 a b t ih =>
    simp only [Option.bind_eq_bind, Option.pure_def, Option.bind_eq_some_iff] at h
    obtain ⟨_, _, _, _, rest, hr, h⟩ := h
    cases h
    simp [ih hr]; omega

end Hex

end RpcGate
