import SchemaGen.Number.Shortest

/-!
# Layouts of printed numbers

How the shortest digits of a number are laid out as text. A layout says for
which decimal exponents the digits are written positionally and how the
numbers without digits are spelled; whole numbers always keep a `.0` in
positional notation and never have one before an exponent.
-/

namespace SchemaGen.Number

/-- The decisions of one printed form. The exponent is that of the leading
digit; `none` leaves positional notation unbounded on that side. -/
structure FloatLayout where
  lowest : Option Int
  beyond : Option Int
  nan : String
  infinity : String
  deriving Repr, DecidableEq

/-- Data files: positional from `10 ^ -5` up to below `10 ^ 16`. -/
def dataLayout : FloatLayout := ⟨some (-5), some 16, ".nan", ".inf"⟩

/-- Numbers on their own: always positional. -/
def plainLayout : FloatLayout := ⟨none, none, "NaN", "inf"⟩

/-- Numbers inside printed collections: positional from `10 ^ -4` up to below
`10 ^ 16`. -/
def nestedLayout : FloatLayout := ⟨some (-4), some 16, "NaN", "inf"⟩

/-- The decimal digits of a natural number. -/
def digitText (n : Nat) : List Char :=
  Nat.toDigits 10 n

/-- Digits with a point after the first `k` of them, padded with zeros on
either side as needed. -/
def positional (digits : List Char) (k : Int) : List Char :=
  if k ≤ 0 then ['0', '.'] ++ List.replicate (-k).toNat '0' ++ digits
  else if digits.length ≤ k.toNat then
    digits ++ List.replicate (k.toNat - digits.length) '0' ++ ['.', '0']
  else digits.take k.toNat ++ '.' :: digits.drop k.toNat

/-- Digits with a point after the first one and the exponent after an `e`. -/
def scientific (digits : List Char) (exponent : Int) : List Char :=
  let lead := match digits with
    | d :: more@(_ :: _) => d :: '.' :: more
    | short => short
  lead ++ 'e' :: (if exponent < 0 then ['-'] else []) ++ digitText exponent.natAbs

namespace FloatLayout

/-- Is a number with this leading exponent written positionally? -/
def isPositional (layout : FloatLayout) (exponent : Int) : Bool :=
  layout.lowest.all (· ≤ exponent) && layout.beyond.all (exponent < ·)

/-- The text of a number without its sign. -/
def magnitudeText (layout : FloatLayout) (x : Binary64) : List Char :=
  if x.significand = 0 then ['0', '.', '0']
  else
    let d := shortest x
    let digits := digitText d.digits
    let exponent := d.exponent + digits.length - 1
    if layout.isPositional exponent then positional digits (exponent + 1)
    else scientific digits exponent

/-- The text of a number. The sign of zero is kept, that of not-a-number is
not. -/
def text (layout : FloatLayout) (x : Binary64) : String :=
  if x.isNaN then layout.nan
  else
    let body :=
      if x.isInfinite then layout.infinity
      else String.ofList (layout.magnitudeText x)
    if x.isNegative then "-" ++ body else body

end FloatLayout

end SchemaGen.Number
