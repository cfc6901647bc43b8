import SchemaGen.Number.Binary64

/-!
# Reading decimals

The decimal notation of floating-point numbers: an optional sign, digits with
at most one point and at least one digit, and an optional exponent. Nothing
else is accepted, in particular no blanks and no digit separators.
-/

namespace SchemaGen.Number

/-- Is the character one of the ten decimal digits? -/
def isDecimalDigit (c : Char) : Bool :=
  '0' ≤ c && c ≤ '9'

/-- The value of a digit character in bases up to sixteen. -/
def digitValue? (c : Char) : Option Nat :=
  if '0' ≤ c ∧ c ≤ '9' then some (c.toNat - '0'.toNat)
  else if 'a' ≤ c ∧ c ≤ 'f' then some (c.toNat - 'a'.toNat + 10)
  else if 'A' ≤ c ∧ c ≤ 'F' then some (c.toNat - 'A'.toNat + 10)
  else none

/-- Read digits in the given base; at least one is needed and nothing else may
stand among them. -/
def natOfDigits? (base : Nat) (cs : List Char) : Option Nat :=
  if cs.isEmpty then none
  else cs.foldlM (fun n c => do
    let d ← digitValue? c
    if d < base then pure (n * base + d) else none) 0

/-- Split an optional sign off: `true` for a minus. -/
def splitSign : List Char → Bool × List Char
  | '-' :: rest => (true, rest)
  | '+' :: rest => (false, rest)
  | cs => (false, cs)

/-- Read an exponent part, which is absent or starts with `e` or `E`. -/
def exponentOf? : List Char → Option Int
  | [] => some 0
  | c :: rest =>
    if c = 'e' ∨ c = 'E' then
      let (negative, digits) := splitSign rest
      (natOfDigits? 10 digits).map fun n => if negative then -(n : Int) else n
    else none

/-- Read an unsigned decimal, giving the number with the sign asked for. -/
def readUnsigned? (negative : Bool) (cs : List Char) : Option Binary64 := do
  let whole := cs.takeWhile isDecimalDigit
  let afterWhole := cs.dropWhile isDecimalDigit
  let (fraction, rest) := match afterWhole with
    | '.' :: more => (more.takeWhile isDecimalDigit, more.dropWhile isDecimalDigit)
    | other => ([], other)
  let digits ← natOfDigits? 10 (whole ++ fraction)
  let exponent ← exponentOf? rest
  pure (Binary64.ofDecimal negative digits (exponent - fraction.length))

/-- Read a decimal with an optional sign. -/
def readDecimal? (cs : List Char) : Option Binary64 :=
  let (negative, rest) := splitSign cs
  readUnsigned? negative rest

end SchemaGen.Number
