import RpcGate.Json.Value

/-!
# Numbers in JSON texts

An integer that fits in 64 bits stays one. Anything else becomes a binary
floating point number by way of a significand of at most 64 bits and one
multiplication or division by a power of ten; a number too large for that
format is refused.
-/

namespace RpcGate

namespace JsonNumber

def significandLimit : Nat := 0x10000000000000000

def digitValue (c : Char) : Nat := c.toNat - '0'.toNat

/-- Reads on digits while the significand fits: the significand and the digits left. -/
def readOn : Nat → Text → Nat × Text
  | sig, [] => (sig, [])
  | sig, c :: cs =>
    if sig * 10 + digitValue c < significandLimit then readOn (sig * 10 + digitValue c) cs
    else (sig, c :: cs)

def power10? (n : Nat) : Option Binary64 :=
  if n ≤ 308 then Binary64.ofNat (Nat.pow 10 n) else none

/-- `x · 10 ^ e`, rounded at each step. Four steps bring any significand to zero. -/
def scale (x : Binary64) (e : Int) : Nat → Option Binary64
  | 0 => some Binary64.zero
  | fuel + 1 =>
    match power10? e.natAbs with
    | some p => if 0 ≤ e then x.times p else x.dividedBy p
    | none =>
      if x.significand = 0 then some x
      else if 0 ≤ e then none
      else match power10? 308 with
        | some p => (x.dividedBy p).bind fun y => scale y (e + 308) fuel
        | none => none

/-- `± sig · 10 ^ e` as a floating point number. -/
def double? (negative : Bool) (sig : Nat) (e : Int) : Option JsonNumber := do
  let x ← scale (← Binary64.ofNat sig) e 5
  return .double (if negative then x.neg else x)

/-- The exponents that count: beyond them the number is zero or too large. -/
def exponentLimit : Nat := 0x80000000

def integer? (negative : Bool) (sig : Nat) : Option JsonNumber :=
  if !negative then some (.natural sig)
  else if sig = 0 ∨ 0x8000000000000000 < sig then double? true sig 0
  else some (.negative sig)

/-- One optional sign and at least one digit. -/
def exponent? (t : Text) : Option (Bool × Nat) :=
  match t with
  | '+' :: ds => (Text.digits? 10 ds).map (false, ·)
  | '-' :: ds => (Text.digits? 10 ds).map (true, ·)
  | ds => (Text.digits? 10 ds).map (false, ·)

/-- The part after the digits: a fraction and an exponent, each optional. -/
def parts? (t : Text) : Option (Option Text × Option (Bool × Nat)) :=
  match t with
  | [] => some (none, none)
  | '.' :: rest =>
    let fraction := rest.takeWhile Char.isDigit
    if fraction = [] then none
    else match rest.dropWhile Char.isDigit with
      | [] => some (some fraction, none)
      | c :: e => if c = 'e' ∨ c = 'E' then (exponent? e).map fun x => (some fraction, some x) else none
  | c :: e => if c = 'e' ∨ c = 'E' then (exponent? e).map fun x => (none, some x) else none

def readUnsigned? (negative : Bool) (t : Text) : Option JsonNumber := do
  let digits := t.takeWhile Char.isDigit
  if digits = [] ∨ (digits.head? = some '0' ∧ digits.length ≠ 1) then none
  else
    let (fraction, exponent) ← parts? (t.dropWhile Char.isDigit)
    let (sig, left) := readOn 0 digits
    if fraction = none ∧ exponent = none ∧ left = [] then integer? negative sig
    else
      let (sig, taken) := match fraction with
        | some f => let (sig, ignored) := readOn sig f; (sig, f.length - ignored.length)
        | none => (sig, 0)
      let base : Int := (left.length : Int) - taken
      match exponent with
      | none => double? negative sig base
      | some (down, e) =>
        if e < exponentLimit then double? negative sig (if down then base - e else base + e)
        else if sig ≠ 0 ∧ !down then none
        else double? negative 0 0

def read? (t : Text) : Option JsonNumber :=
  match t with
  | '-' :: rest => readUnsigned? true rest
  | t => readUnsigned? false t

end JsonNumber

end RpcGate
