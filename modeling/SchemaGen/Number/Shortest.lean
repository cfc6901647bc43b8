import SchemaGen.Number.Binary64

/-!
# Shortest decimal digits

The fewest decimal digits that read back as the same number: of all decimals
inside the interval of reals that round to the number, those with the fewest
digits, and of these the nearest. The search goes through the decimal grids
from coarse to fine and looks at the two grid points next to the value, all in
exact natural-number arithmetic.
-/

namespace SchemaGen.Number

/-- A positive decimal: `digits * 10 ^ exponent`. -/
structure Decimal where
  digits : Nat
  exponent : Int
  deriving Repr, DecidableEq

/-- The reals that round to a number, as quotients over one denominator. The
ends belong to the interval iff `closed`. -/
structure RoundingInterval where
  low : Nat
  value : Nat
  high : Nat
  den : Nat
  closed : Bool
  deriving Repr, DecidableEq

namespace RoundingInterval

/-- The interval of a finite number. Below a power of two the neighbours stand
closer, so the lower half-gap is half as wide. -/
def ofBinary64 (x : Binary64) : RoundingInterval :=
  let m := x.significand
  let narrow := m = Nat.pow 2 52 ∧ 1 < x.exponentField
  let q := x.scale - 2
  let up := Nat.pow 2 q.toNat
  { low := (4 * m - if narrow then 1 else 2) * up
    value := 4 * m * up
    high := (4 * m + 2) * up
    den := Nat.pow 2 (-q).toNat
    closed := m % 2 = 0 }

/-- A point `d * 10 ^ e` of a decimal grid over the interval's denominator, and
the factor that the interval's own numerators need to be compared with it. -/
def gridPoint (i : RoundingInterval) (d : Nat) (e : Int) : Nat × Nat :=
  if 0 ≤ e then (d * Nat.pow 10 e.toNat * i.den, 1) else (d * i.den, Nat.pow 10 (-e).toNat)

/-- Does the grid point round to the number? -/
def contains (i : RoundingInterval) (d : Nat) (e : Int) : Bool :=
  let (p, f) := i.gridPoint d e
  if i.closed then i.low * f ≤ p && p ≤ i.high * f
  else i.low * f < p && p < i.high * f

/-- The grid point at or below the value. -/
def floorOn (i : RoundingInterval) (e : Int) : Nat :=
  if 0 ≤ e then i.value / (i.den * Nat.pow 10 e.toNat)
  else i.value * Nat.pow 10 (-e).toNat / i.den

/-- How far a grid point is from the value, over a common denominator. -/
def distance (i : RoundingInterval) (d : Nat) (e : Int) : Nat :=
  let (p, f) := i.gridPoint d e
  (p - i.value * f) + (i.value * f - p)

/-- The point of the grid `10 ^ e` that rounds to the number, the nearer one if
both neighbours of the value do. -/
def hit? (i : RoundingInterval) (e : Int) : Option Decimal :=
  let d := i.floorOn e
  match 0 < d && i.contains d e, i.contains (d + 1) e with
  | true, true =>
    if i.distance (d + 1) e < i.distance d e then some ⟨d + 1, e⟩
    else if i.distance d e < i.distance (d + 1) e then some ⟨d, e⟩
    else some ⟨if d % 2 = 0 then d else d + 1, e⟩
  | true, false => some ⟨d, e⟩
  | false, true => some ⟨d + 1, e⟩
  | false, false => none

/-- The position of the value's leading digit: the least `k` up to the bound
with the value below `10 ^ k`. -/
def magnitudeFrom (i : RoundingInterval) : Nat → Int → Int
  | 0, k => k
  | fuel + 1, k =>
    let below :=
      if 0 ≤ k then i.value < i.den * Nat.pow 10 k.toNat
      else i.value * Nat.pow 10 (-k).toNat < i.den
    if below then k else magnitudeFrom i fuel (k + 1)

/-- A starting point at most the true magnitude, from the binary sizes. -/
def magnitude (i : RoundingInterval) : Int :=
  let bits : Int := (Nat.log2 i.value : Int) - Nat.log2 i.den - 1
  i.magnitudeFrom 8 (bits * 30103 / 100000 - 1)

/-- Try grids from coarse to fine. -/
def search (i : RoundingInterval) : Nat → Int → Option Decimal
  | 0, _ => none
  | fuel + 1, e => (i.hit? e).orElse fun _ => search i fuel (e - 1)

end RoundingInterval

/-- Move trailing zeros of the digits into the exponent. -/
def Decimal.normalize : Nat → Decimal → Decimal
  | 0, d => d
  | fuel + 1, d =>
    if d.digits ≠ 0 ∧ d.digits % 10 = 0 then
      Decimal.normalize fuel ⟨d.digits / 10, d.exponent + 1⟩
    else d

/-- The shortest decimal that reads back as the absolute value of a finite
number other than zero. -/
def shortest (x : Binary64) : Decimal :=
  let i := RoundingInterval.ofBinary64 x
  match i.search 18 i.magnitude with
  | some d => d.normalize 20
  | none => ⟨0, 0⟩

end SchemaGen.Number
