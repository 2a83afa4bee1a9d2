import RpcGate.Text.Utf8

/-!
# HTTP messages

Requests and responses without their framing. Header names are in lower
case; header values are bytes.
-/

namespace RpcGate

namespace Http

abbrev Headers := List (Text × Bytes)

structure Request where
  method : Text
  /-- The target less its query. -/
  path : Text
  headers : Headers
  body : Bytes
  deriving DecidableEq, Repr

structure Response where
  status : Nat
  headers : Headers
  body : Bytes
  deriving DecidableEq, Repr

namespace Headers

def first? (hs : Headers) (name : Text) : Option Bytes := hs.lookup name

/-- Adds a value unless the name has one. -/
def orElse (hs : Headers) (name : Text) (value : Bytes) : Headers :=
  if (hs.lookup name).isSome then hs else hs ++ [(name, value)]

end Headers

/-- A header value less the blanks and tabs around it. -/
def fieldValue (value : Bytes) : Bytes :=
  let isPad (b : UInt8) : Bool := b == 0x20 || b == 0x09
  ((value.dropWhile isPad).reverse.dropWhile isPad).reverse

/-- A value as text, if it is visible ASCII. -/
def visible? (value : Bytes) : Option Text :=
  if value.all fun b => (32 ≤ b && b < 127) || b == 9 then
    some (value.map fun b => Char.ofNat b.toNat)
  else none

namespace Response

def bare (status : Nat) : Response := ⟨status, [], []⟩

end Response

end Http

end RpcGate
