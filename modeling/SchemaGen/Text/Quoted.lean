import SchemaGen.Text.PrintTable

/-!
# Quoted texts

A text in double quotes as it stands in messages and in printed collections:
common controls, the backslash and the quote are escaped by a letter, anything
without a visible form and any combining character by its code in braces.
File paths are quoted by the same rule with the apostrophe escaped as well.
-/

namespace SchemaGen.Text

/-- Does the character have a visible form? -/
def isVisible (c : Char) : Bool :=
  if c.toNat < 128 then 0x20 ≤ c.toNat && c.toNat < 0x7F
  else !invisibleRanges.holds c.toNat

/-- Does the character join the one before it? -/
def isExtender (c : Char) : Bool :=
  0x80 ≤ c.toNat && extenderRanges.holds c.toNat

/-- A code as lower-case hexadecimal digits, without leading zeros. -/
def hexDigits (n : Nat) : List Char :=
  Nat.toDigits 16 n

/-- The escape that names a character by its code. -/
def codeEscape (c : Char) : List Char :=
  ['\\', 'u', '\x7b'] ++ hexDigits c.toNat ++ ['\x7d']

/-- Which quotation marks need an escape. -/
structure QuoteStyle where
  escapesApostrophe : Bool
  deriving Repr, DecidableEq

/-- Texts leave the apostrophe alone. -/
def textStyle : QuoteStyle := ⟨false⟩

/-- File paths escape the apostrophe as well. -/
def pathStyle : QuoteStyle := ⟨true⟩

/-- One character between the quotes. -/
def escapeChar (style : QuoteStyle) (c : Char) : List Char :=
  if c = '\x00' then ['\\', '0']
  else if c = '\t' then ['\\', 't']
  else if c = '\r' then ['\\', 'r']
  else if c = '\n' then ['\\', 'n']
  else if c = '\\' then ['\\', '\\']
  else if c = '"' then ['\\', '"']
  else if c = '\'' && style.escapesApostrophe then ['\\', '\'']
  else if isVisible c && !isExtender c then [c]
  else codeEscape c

/-- The text in double quotes. -/
def quoteIn (style : QuoteStyle) (s : String) : String :=
  String.ofList ('"' :: s.toList.flatMap (escapeChar style) ++ ['"'])

/-- A text in double quotes. -/
def quoted (s : String) : String :=
  quoteIn textStyle s

end SchemaGen.Text
