/-!
# Binary floating point

The 64-bit binary floating-point numbers, held as their bit patterns so that
equality of values is decidable and every conversion is exact arithmetic on
natural numbers. `ofRatio` is the one place where anything is rounded: it
yields the number nearest to a quotient, a tie going to the even significand.
-/

namespace SchemaGen.Number

/-- A floating-point number, as its bit pattern. -/
structure Binary64 where
  bits : UInt64
  deriving Repr, DecidableEq, Inhabited

namespace Binary64

/-! ## The parts of a pattern -/

/-- Is the sign bit set? -/
def isNegative (x : Binary64) : Bool :=
  Nat.pow 2 63 ≤ x.bits.toNat

/-- The pattern without its sign. -/
def magnitudeBits (x : Binary64) : Nat :=
  x.bits.toNat % Nat.pow 2 63

/-- The biased exponent field. -/
def exponentField (x : Binary64) : Nat :=
  x.magnitudeBits / Nat.pow 2 52

/-- The fraction field. -/
def fractionField (x : Binary64) : Nat :=
  x.magnitudeBits % Nat.pow 2 52

/-- Not a number. -/
def isNaN (x : Binary64) : Bool :=
  x.exponentField == 2047 && x.fractionField != 0

/-- Positive or negative infinity. -/
def isInfinite (x : Binary64) : Bool :=
  x.exponentField == 2047 && x.fractionField == 0

/-- Neither infinite nor not-a-number. -/
def isFinite (x : Binary64) : Bool :=
  x.exponentField != 2047

/-- The significand of a finite number: its absolute value is
`significand * 2 ^ scale`. -/
def significand (x : Binary64) : Nat :=
  if x.exponentField = 0 then x.fractionField else Nat.pow 2 52 + x.fractionField

/-- The binary scale of a finite number. -/
def scale (x : Binary64) : Int :=
  if x.exponentField = 0 then -1074 else (x.exponentField : Int) - 1075

/-- Assemble a pattern from a sign and the bits below it. -/
def ofParts (negative : Bool) (magnitude : Nat) : Binary64 :=
  ⟨UInt64.ofNat ((if negative then Nat.pow 2 63 else 0) + magnitude % Nat.pow 2 63)⟩

/-- The infinity of the given sign. -/
def infinity (negative : Bool) : Binary64 :=
  ofParts negative (2047 * Nat.pow 2 52)

/-- The canonical not-a-number. -/
def nan : Binary64 :=
  ofParts false (2047 * Nat.pow 2 52 + Nat.pow 2 51)

/-- Zero of the given sign. -/
def zero (negative : Bool) : Binary64 :=
  ofParts negative 0

/-! ## Rounding -/

/-- The quotient rounded to the nearest integer, a tie to the even one. -/
def roundDiv (num den : Nat) : Nat :=
  let q := num / den
  let r := num % den
  if 2 * r < den then q
  else if den < 2 * r then q + 1
  else if q % 2 = 0 then q else q + 1

/-- `num / den` divided by `2 ^ q` and rounded to an integer. -/
def roundScaled (num den : Nat) (q : Int) : Nat :=
  if 0 ≤ q then roundDiv num (den * Nat.pow 2 q.toNat)
  else roundDiv (num * Nat.pow 2 (-q).toNat) den

/-- The scale at which the significand of `num / den` has 53 bits, or the
smallest scale there is. -/
def fittingScale (num den : Nat) : Int :=
  let guess : Int := (Nat.log2 num : Int) - Nat.log2 den - 52
  let exact : Int :=
    if 0 ≤ guess then if num < den * Nat.pow 2 (guess.toNat + 52) then guess - 1 else guess
    else if num * Nat.pow 2 (-guess).toNat < den * Nat.pow 2 52 then guess - 1 else guess
  if exact < -1074 then -1074 else exact

/-- The number nearest to `num / den`, with the given sign. -/
def ofRatio (negative : Bool) (num den : Nat) : Binary64 :=
  if num = 0 then zero negative
  else
    let q := fittingScale num den
    let m := roundScaled num den q
    let (m, q) := if m = Nat.pow 2 53 then (Nat.pow 2 52, q + 1) else (m, q)
    if 971 < q then infinity negative
    else if m < Nat.pow 2 52 then ofParts negative m
    else ofParts negative ((q + 1075).toNat * Nat.pow 2 52 + (m - Nat.pow 2 52))

/-- The number nearest to `digits * 10 ^ exponent`. Exponents far outside the
range are decided without computing the power. -/
def ofDecimal (negative : Bool) (digits : Nat) (exponent : Int) : Binary64 :=
  if digits = 0 then zero negative
  else
    let size := (Nat.toDigits 10 digits).length
    if 400 < exponent + size then infinity negative
    else if exponent + size < -400 then zero negative
    else if 0 ≤ exponent then ofRatio negative (digits * Nat.pow 10 exponent.toNat) 1
    else ofRatio negative digits (Nat.pow 10 (-exponent).toNat)

/-- The number nearest to an integer. -/
def ofInt (n : Int) : Binary64 :=
  ofRatio (n < 0) n.natAbs 1

/-- The integer that the number is, if it is one. -/
def toInt? (x : Binary64) : Option Int :=
  if !x.isFinite then none
  else
    let value : Option Nat :=
      if 0 ≤ x.scale then some (x.significand * Nat.pow 2 x.scale.toNat)
      else
        let unit := Nat.pow 2 (-x.scale).toNat
        if x.significand % unit = 0 then some (x.significand / unit) else none
    value.map fun n => if x.isNegative then -(n : Int) else n

/-! ## Order -/

/-- A number's place on the line of all patterns: negative patterns run
backwards. Zeros of both signs share a place. -/
def rank (x : Binary64) : Int :=
  if x.isNegative then -(x.magnitudeBits : Int) else x.magnitudeBits

/-- Numeric equality: zeros are equal, not-a-number equals nothing. -/
def numEq (x y : Binary64) : Bool :=
  !x.isNaN && !y.isNaN && x.rank == y.rank

/-! ## Arithmetic -/

/-- Read the pattern as a machine number. -/
def toFloat (x : Binary64) : Float :=
  Float.ofBits x.bits

/-- The pattern of a machine number. -/
def ofFloat (x : Float) : Binary64 :=
  ⟨x.toBits⟩

/-- Apply a machine operation to two numbers. -/
def lift₂ (op : Float → Float → Float) (x y : Binary64) : Binary64 :=
  ofFloat (op x.toFloat y.toFloat)

/-- The number with the opposite sign. -/
def neg (x : Binary64) : Binary64 :=
  ofParts (!x.isNegative) x.magnitudeBits

/-- The largest integer value not above the number, if it is finite, and the
number itself otherwise. -/
def floor (x : Binary64) : Binary64 :=
  ofFloat x.toFloat.floor

/-- The remainder of the division that truncates toward zero, with the sign of
the dividend. It is exact, hence computed on the significands. -/
def truncRem (x y : Binary64) : Binary64 :=
  if x.isNaN || y.isNaN || x.isInfinite || y.significand = 0 then nan
  else if y.isInfinite then x
  else
    let low := min x.scale y.scale
    let a := x.significand * Nat.pow 2 (x.scale - low).toNat
    let b := y.significand * Nat.pow 2 (y.scale - low).toNat
    let r := a % b
    if 0 ≤ low then ofRatio x.isNegative (r * Nat.pow 2 low.toNat) 1
    else ofRatio x.isNegative r (Nat.pow 2 (-low).toNat)

end Binary64

end SchemaGen.Number
