import SchemaGen.Number.Decimal
import SchemaGen.Yaml.Error
import SchemaGen.Yaml.Node
import SchemaGen.Yaml.Value

/-!
# What a scalar stands for

A plain scalar is null, a boolean, an integer or a floating-point number if it
reads as one, in this order, and a string otherwise. Quoted and block scalars
are strings. A core tag asks for one of the four, and a scalar that does not
read as that is a fault; a local tag leaves the reading as it is.
-/

namespace SchemaGen.Yaml.Scalar

open SchemaGen.Number

/-- The words for null. -/
def isNullWord (s : String) : Bool :=
  ["null", "Null", "NULL", "~"].contains s

/-- The words for the two truth values. -/
def boolOf? (s : String) : Option Bool :=
  if ["true", "True", "TRUE"].contains s then some true
  else if ["false", "False", "FALSE"].contains s then some false
  else none

/-- Digits, optionally signed, that begin with a zero and go on. They are a
string. -/
def isPaddedNumber (cs : List Char) : Bool :=
  match (splitSign cs).2 with
  | '0' :: more => !more.isEmpty && more.all isDecimalDigit
  | _ => false

/-- A natural number in the base that its first two characters name. -/
def basedNat? : List Char → Option Nat
  | '0' :: 'x' :: digits => natOfDigits? 16 digits
  | '0' :: 'o' :: digits => natOfDigits? 8 digits
  | '0' :: 'b' :: digits => natOfDigits? 2 digits
  | _ => none

/-- A natural number, decimal or with its base in front. -/
def natOf? (cs : List Char) : Option Nat :=
  basedNat? cs <|> if isPaddedNumber cs then none else natOfDigits? 10 cs

/-- An integer of any size. -/
def wideIntOf? (cs : List Char) : Option Int :=
  match cs with
  | '-' :: digits => (natOf? digits).map fun n => -(n : Int)
  | '+' :: digits => (natOf? digits).map Int.ofNat
  | digits => (natOf? digits).map Int.ofNat

/-- Does an integer fit into a word of so many bits, with a sign or without? -/
def fits (bits : Nat) (n : Int) : Bool :=
  if n < 0 then n.natAbs ≤ Nat.pow 2 (bits - 1) else n.natAbs < Nat.pow 2 bits

/-- The integer that a scalar reads as: one of 64 bits is a value, a wider one
of 128 bits is refused, and beyond that the scalar is no integer. -/
def intOf? (s : String) : Option (Except Fault Int) :=
  match wideIntOf? s.toList with
  | some n =>
    if fits 64 n then some (.ok n)
    else if fits 128 n then some (.error .integerRange)
    else none
  | none => none

/-- The words for infinity without a sign. -/
def isInfinityWord (cs : List Char) : Bool :=
  [".inf", ".Inf", ".INF"].any (·.toList = cs)

/-- The words for not-a-number. -/
def isNanWord (cs : List Char) : Bool :=
  [".nan", ".NaN", ".NAN"].any (·.toList = cs)

/-- The floating-point number that a scalar reads as. One that is too large to
be finite is no number. -/
def floatOf? (s : String) : Option Binary64 :=
  let cs := s.toList
  let (negative, magnitude) := splitSign cs
  if isInfinityWord magnitude then some (.infinity negative)
  else if isNanWord cs then some .nan
  else (readDecimal? cs).filter (·.isFinite)

/-- The reading of a plain scalar. -/
def plain (s : String) : Except Fault Value :=
  if s.isEmpty || isNullWord s then .ok .null
  else match boolOf? s with
    | some b => .ok (.bool b)
    | none =>
      match intOf? s with
      | some n => n.map .int
      | none =>
        match if isPaddedNumber s.toList then none else floatOf? s with
        | some x => .ok (.float x)
        | none => .ok (.str s)

/-- The reading of a scalar without a tag that matters. -/
def untagged (style : Style) (s : String) : Except Fault Value :=
  if style = .plain then plain s else .ok (.str s)

/-- The tag that stands for one of the core types. -/
def coreTag (name : String) : String :=
  "tag:yaml.org,2002:" ++ name

/-- The name of a local tag. The lone exclamation mark is its own name. -/
def localTag? (tag : String) : Option String :=
  match tag.toList with
  | ['!'] => some "!"
  | '!' :: name => some (String.ofList name)
  | _ => none

/-- The reading of a scalar with a tag that is not local: the four core types
are read, and any other tag makes a string. -/
def withCoreTag (tag s : String) : Except Fault Value :=
  if tag = coreTag "bool" then
    (boolOf? s).elim (.error .tagMismatch) (.ok <| .bool ·)
  else if tag = coreTag "int" then
    (intOf? s).elim (.error .tagMismatch) (·.map .int)
  else if tag = coreTag "float" then
    (floatOf? s).elim (.error .tagMismatch) (.ok <| .float ·)
  else if tag = coreTag "null" then
    if isNullWord s then .ok .null else .error .tagMismatch
  else .ok (.str s)

/-- The value of a scalar, its local tag included. -/
def value (tag : Option String) (style : Style) (s : String) : Except Fault Value :=
  match tag with
  | none => untagged style s
  | some tag =>
    match localTag? tag with
    | some name => (untagged style s).map (.tagged name)
    | none => withCoreTag tag s

end SchemaGen.Yaml.Scalar
