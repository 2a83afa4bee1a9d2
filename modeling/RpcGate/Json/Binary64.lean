import RpcGate.Text.Basic

/-!
# Binary floating point, without the machine

A finite number of the binary format with 53 significant bits is kept as a
sign, a significand and a power of two. Results are rounded to the nearest
such number, ties to the even significand (`ofRatio`), and written with the
fewest digits that read back as the same number.
-/

namespace RpcGate

/-- `± significand · 2 ^ exponent`. -/
structure Binary64 where
  negative : Bool
  significand : Nat
  exponent : Int
  deriving DecidableEq, Repr

namespace Binary64

def minExponent : Int := -1074

def maxExponent : Int := 971

def zero : Binary64 := ⟨false, 0, minExponent⟩

def leadingBit : Nat := 0x10000000000000

def power (base : Nat) (e : Int) : Nat × Nat :=
  if e < 0 then (1, Nat.pow base (-e).toNat) else (Nat.pow base e.toNat, 1)

/-- `num / den` divided by `base ^ e`. -/
def scaled (base num den : Nat) (e : Int) : Nat × Nat :=
  let p := power base e
  (num * p.2, den * p.1)

/-- The nearest integer to a ratio, ties to the even one. -/
def roundHalfEven (num den : Nat) : Nat :=
  let q := num / den
  let r := num % den
  if den < 2 * r ∨ (den = 2 * r ∧ q % 2 = 1) then q + 1 else q

/-- The exponent at which the significand of a ratio has 53 bits, or the least one. -/
def exponentFor (num den : Nat) : Int :=
  let guess : Int := (Nat.log2 num : Int) - Nat.log2 den - 52
  let (n, d) := scaled 2 num den guess
  let e := if n < d * leadingBit then guess - 1 else guess
  max e minExponent

/-- The positive number nearest to a ratio; none if it would be too large. -/
def ofRatio (num den : Nat) : Option Binary64 :=
  if num = 0 then some zero
  else
    let e := exponentFor num den
    let (n, d) := scaled 2 num den e
    let m := roundHalfEven n d
    let (m, e) := if m = 2 * leadingBit then (leadingBit, e + 1) else (m, e)
    if maxExponent < e then none else some ⟨false, m, e⟩

def ratio (x : Binary64) : Nat × Nat :=
  let p := power 2 x.exponent
  (x.significand * p.1, p.2)

/-- Product and quotient of sizes. -/
def times (x y : Binary64) : Option Binary64 :=
  ofRatio (x.ratio.1 * y.ratio.1) (x.ratio.2 * y.ratio.2)

def dividedBy (x y : Binary64) : Option Binary64 :=
  ofRatio (x.ratio.1 * y.ratio.2) (x.ratio.2 * y.ratio.1)

def ofNat (n : Nat) : Option Binary64 := ofRatio n 1

def neg (x : Binary64) : Binary64 := { x with negative := !x.negative }

/-! ## Shortest decimal form -/

/-- The ends of the interval of reals that round to `x`, as multiples of `2 ^ (exponent - 2)`, of
which `x` itself is `4 · significand`. -/
def interval (x : Binary64) : Nat × Nat :=
  let below := if x.significand = leadingBit ∧ minExponent < x.exponent then 1 else 2
  (4 * x.significand - below, 4 * x.significand + 2)

/-- Whether `d · 10 ^ k` rounds to `x`. -/
def readsBack (x : Binary64) (d : Nat) (k : Int) : Bool :=
  let (low, high) := interval x
  let tens := power 10 k
  let twos := power 2 (x.exponent - 2)
  let value := d * tens.1 * twos.2
  let unit := twos.1 * tens.2
  if x.significand % 2 = 0 then low * unit ≤ value && value ≤ high * unit
  else low * unit < value && value < high * unit

def leading (num den : Nat) : Int :=
  let guess : Int := (((Nat.log2 num : Int) - Nat.log2 den) * 30103) / 100000
  let atLeast (k : Int) : Bool :=
    let (n, d) := scaled 10 num den k
    d ≤ n
  if atLeast (guess + 1) then guess + 1
  else if atLeast guess then guess
  else if atLeast (guess - 1) then guess - 1
  else guess - 2

/-- The nearest decimal of `n` digits that reads back, if there is one: digits and exponent. -/
def decimalOf? (x : Binary64) (n : Nat) : Option (Nat × Int) :=
  let (num, den) := x.ratio
  let k := leading num den - (n : Int) + 1
  let (a, b) := scaled 10 num den k
  let d := roundHalfEven a b
  if readsBack x d k then some (d, k)
  else
    let q := a / b
    if readsBack x q k then some (q, k)
    else if readsBack x (q + 1) k then some (q + 1, k)
    else none

/-- The shortest decimal: 17 digits always do. -/
def shortest (x : Binary64) : Nat × Int :=
  ((List.range 17).firstM fun i => decimalOf? x (i + 1)).getD (0, 0)

/-- Digits without zeros at the end. -/
def trimZeros (d : Nat) (k : Int) : Nat → Nat × Int
  | 0 => (d, k)
  | fuel + 1 => if d ≠ 0 ∧ d % 10 = 0 then trimZeros (d / 10) (k + 1) fuel else (d, k)

/-- Positional between `1e-5` and `1e16`, with at least one digit after the point; a signed power
of ten outside. -/
def label (x : Binary64) : Text :=
  let sign := if x.negative then ['-'] else []
  if x.significand = 0 then sign ++ "0.0".toList
  else
    let s := shortest x
    let (d, k) := trimZeros s.1 s.2 17
    let digits := Text.decimal d
    let n := digits.length
    let point : Int := n + k
    sign ++
      if 0 ≤ k ∧ point ≤ 16 then digits ++ List.replicate k.toNat '0' ++ ['.', '0']
      else if 0 < point ∧ point ≤ 16 then digits.take point.toNat ++ '.' :: digits.drop point.toNat
      else if -5 < point ∧ point ≤ 0 then
        ['0', '.'] ++ List.replicate (-point).toNat '0' ++ digits
      else
        let e := point - 1
        digits.take 1 ++ (if n = 1 then [] else '.' :: digits.drop 1) ++ 'e'
          :: (if e < 0 then '-' else '+') :: Text.decimal e.natAbs

end Binary64

end RpcGate
