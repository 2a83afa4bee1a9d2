import RpcGate.Text.Utf8

/-!
# Base 64

Three bytes as four signs, a shorter last group filled up with `=`. Reading
is strict: the padding has to be there and the bits it leaves over have to be
zero, so that bytes have one written form.
-/

namespace RpcGate

namespace Base64

/-- The two signs in which alphabets differ. -/
structure Alphabet where
  sign62 : Char
  sign63 : Char

def standard : Alphabet := ⟨'+', '/'⟩

/-- The alphabet whose texts can stand in a URL or a file name. -/
def urlSafe : Alphabet := ⟨'-', '_'⟩

def sign (α : Alphabet) (n : Nat) : Char :=
  if n < 26 then Char.ofNat ('A'.toNat + n)
  else if n < 52 then Char.ofNat ('a'.toNat + (n - 26))
  else if n < 62 then Char.ofNat ('0'.toNat + (n - 52))
  else if n = 62 then α.sign62 else α.sign63

def value? (α : Alphabet) (c : Char) : Option Nat :=
  if 'A' ≤ c ∧ c ≤ 'Z' then some (c.toNat - 'A'.toNat)
  else if 'a' ≤ c ∧ c ≤ 'z' then some (c.toNat - 'a'.toNat + 26)
  else if '0' ≤ c ∧ c ≤ '9' then some (c.toNat - '0'.toNat + 52)
  else if c = α.sign62 then some 62
  else if c = α.sign63 then some 63
  else none

def encode (α : Alphabet) : Bytes → Text
  | [] => []
  | [a] =>
    let n := a.toNat * 16
    [sign α (n / 64), sign α (n % 64), '=', '=']
  | [a, b] =>
    let n := (a.toNat * 256 + b.toNat) * 4
    [sign α (n / 4096), sign α (n / 64 % 64), sign α (n % 64), '=']
  | a :: b :: c :: rest =>
    let n := (a.toNat * 256 + b.toNat) * 256 + c.toNat
    sign α (n / 262144) :: sign α (n / 4096 % 64) :: sign α (n / 64 % 64) :: sign α (n % 64)
      :: encode α rest

/-- A group of four signs that is not the last, or is full. -/
def group? (α : Alphabet) (a b c d : Char) : Option Bytes := do
  let n := (((← value? α a) * 64 + (← value? α b)) * 64 + (← value? α c)) * 64 + (← value? α d)
  return [UInt8.ofNat (n / 65536), UInt8.ofNat (n / 256 % 256), UInt8.ofNat (n % 256)]

/-- A last group of three signs, two bytes. -/
def group3? (α : Alphabet) (a b c : Char) : Option Bytes := do
  let n := ((← value? α a) * 64 + (← value? α b)) * 64 + (← value? α c)
  if n % 4 = 0 then some [UInt8.ofNat (n / 1024), UInt8.ofNat (n / 4 % 256)] else none

/-- A last group of two signs, one byte. -/
def group2? (α : Alphabet) (a b : Char) : Option Bytes := do
  let n := (← value? α a) * 64 + (← value? α b)
  if n % 16 = 0 then some [UInt8.ofNat (n / 16)] else none

def decode? (α : Alphabet) : Text → Option Bytes
  | [] => some []
  | [a, b, '=', '='] => group2? α a b
  | [a, b, c, '='] => group3? α a b c
  | a :: b :: c :: d :: rest => do return (← group? α a b c d) ++ (← decode? α rest)
  | _ => none

end Base64

end RpcGate
