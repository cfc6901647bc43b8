import SchemaGen.Number.Decimal
import SchemaGen.Yaml.Cursor
import SchemaGen.Yaml.Error
import SchemaGen.Yaml.Token

/-!
# Anchors, tags and directives

The tokens that consist of an indicator and a name. Each reader starts at the
indicator and ends after the last character of the token.
-/

namespace SchemaGen.Yaml.Word

open SchemaGen.Number

/-- May an anchor or alias end before this text? -/
def endsName : List Char → Bool
  | [] => true
  | c :: _ => isGap c || "?:,]\x7d%@`".toList.contains c

/-- The name of the anchor or alias whose indicator stands at the position. -/
def name (c : Cursor) : Except Fault (String × Cursor) :=
  let (chars, c) := c.skip.takeRun isNameChar
  if chars.isEmpty || !endsName c.rest then .error .badAnchor
  else .ok (String.ofList chars, c)

/-! ## Tags -/

/-- How many octets the encoding of a character has that begins with this one. -/
def octetCount? (first : Nat) : Option Nat :=
  if first < 0x80 then some 1
  else if 0xC0 ≤ first ∧ first < 0xE0 then some 2
  else if 0xE0 ≤ first ∧ first < 0xF0 then some 3
  else if 0xF0 ≤ first ∧ first < 0xF8 then some 4
  else none

/-- The octets written as a percent sign and two hexadecimal digits each. -/
def octets : Nat → List Char → Option (List UInt8)
  | 0, _ => some []
  | n + 1, '%' :: a :: b :: rest => do
    let octet ← natOfDigits? 16 [a, b]
    let more ← octets n rest
    return octet.toUInt8 :: more
  | _, _ => none

/-- The character whose escaped encoding begins at the position, and how many
octets it takes. -/
def escapedChar? (cs : List Char) : Option (Char × Nat) := do
  let first ← octets 1 cs
  let n ← octetCount? (first.headD 0).toNat
  let all ← octets n cs
  let text ← String.fromUTF8? (ByteArray.mk all.toArray)
  let char ← text.toList.head?
  return (char, n)

/-- Read characters of an address. -/
def addressChars (verbatim : Bool) :
    Nat → List Char → Cursor → Except Fault (List Char × Cursor)
  | 0, acc, c => .ok (acc.reverse, c)
  | fuel + 1, acc, c =>
    match c.rest with
    | [] => .ok (acc.reverse, c)
    | x :: _ =>
      if x = '%' then
        match escapedChar? c.rest with
        | some (y, n) => addressChars verbatim fuel (y :: acc) (c.skipMany (3 * n))
        | none => .error .badTag
      else if isAddressChar verbatim x then addressChars verbatim fuel (x :: acc) c.skip
      else .ok (acc.reverse, c)

/-- Read an address of at least one character. -/
def address (verbatim : Bool) (c : Cursor) : Except Fault (String × Cursor) := do
  let (chars, c) ← addressChars verbatim c.fuel [] c
  if chars.isEmpty then .error .badTag
  return (String.ofList chars, c)

/-- Read an exclamation mark, a name, and the second exclamation mark if it
follows. -/
def handle (c : Cursor) : Except Fault (List Char × Cursor) :=
  if c.at? (· = '!') then
    let (chars, c) := c.skip.takeRun isNameChar
    if c.at? (· = '!') then .ok ('!' :: chars ++ ['!'], c.skip)
    else .ok ('!' :: chars, c)
  else .error .badTag

/-- Read the tag whose exclamation mark stands at the position: an address in
angle brackets, a handle with a suffix, or a suffix alone. The lone mark is the
suffix of no handle. -/
def tag (inFlow : Bool) (c : Cursor) : Except Fault (Token × Cursor) := do
  let (token, c) ←
    if c.skip.at? (· = '<') then do
      let (suffix, c) ← address true (c.skipMany 2)
      if !c.at? (· = '>') then .error .badTag
      pure (Token.tag "" suffix, c.skip)
    else do
      let (marks, c) ← handle c
      if 1 < marks.length && marks.getLast? = some '!' then do
        let (suffix, c) ← address false c
        pure (Token.tag (String.ofList marks) suffix, c)
      else do
        let (more, c) ← addressChars false c.fuel [] c
        match marks.tail ++ more with
        | [] => pure (Token.tag "" "!", c)
        | suffix => pure (Token.tag "!" (String.ofList suffix), c)
  if atGap c.rest || (inFlow && c.at? (· = ',')) then return (token, c)
  else .error .badTag

/-! ## Directives -/

/-- Read a number of at most nine digits. -/
def versionNumber (c : Cursor) : Except Fault (Nat × Cursor) :=
  let (digits, c) := c.takeRun isDecimalDigit
  match natOfDigits? 10 digits with
  | some n => if digits.length ≤ 9 then .ok (n, c) else .error .badDirective
  | none => .error .badDirective

/-- Read the two numbers of a version. -/
def version (c : Cursor) : Except Fault (Token × Cursor) := do
  let (major, c) ← versionNumber (c.skipRun isSpace)
  if !c.at? (· = '.') then .error .badDirective
  let (minor, c) ← versionNumber c.skip
  return (.versionDirective major minor, c)

/-- Read the handle and the address of a tag directive. -/
def declaration (c : Cursor) : Except Fault (Token × Cursor) := do
  let (marks, c) ← handle (c.skipRun isSpace)
  if marks.getLast? != some '!' || !c.at? isSpace then .error .badDirective
  let (text, c) ← address true (c.skipRun isSpace)
  if !atGap c.rest then .error .badDirective
  return (.tagDirective (String.ofList marks) text, c)

/-- Read the directive whose percent sign stands at the position, with its
line. -/
def directive (c : Cursor) : Except Fault (Token × Cursor) := do
  let (chars, c) := c.skip.takeRun isNameChar
  if !atGap c.rest then .error .badDirective
  let (token, c) ←
    if chars = "YAML".toList then version c
    else if chars = "TAG".toList then declaration c
    else .error .badDirective
  let c := c.skipRun isSpace
  let c := if c.at? (· = '#') then c.skipLine else c
  if c.atEnd then return (token, c)
  else if c.at? isBreak then return (token, c.skipBreak)
  else .error .badDirective

end SchemaGen.Yaml.Word
