/-!
# Character classes of the data format

The classes that decide where tokens of a data file begin and end.
-/

namespace SchemaGen.Yaml

/-- A space or a tab. -/
def isSpace (c : Char) : Bool :=
  c = ' ' || c = '\t'

/-- A character that ends a line. -/
def isBreak (c : Char) : Bool :=
  c = '\n' || c = '\r' || c = '\x85' || c = '\u2028' || c = '\u2029'

/-- A space, a tab or a line end. -/
def isGap (c : Char) : Bool :=
  isSpace c || isBreak c

/-- A character of names: ASCII letters, digits, `_` and `-`. -/
def isNameChar (c : Char) : Bool :=
  ('a' ≤ c && c ≤ 'z') || ('A' ≤ c && c ≤ 'Z') || ('0' ≤ c && c ≤ '9') || c = '_' || c = '-'

/-- A character that may stand in the address part of a tag. The brackets and
the comma belong to it only between angle brackets. -/
def isAddressChar (verbatim : Bool) (c : Char) : Bool :=
  isNameChar c || ";/?:@&=+$.!~*'()%".toList.contains c ||
    (verbatim && ",[]".toList.contains c)

/-- A flow bracket or the flow comma. -/
def isFlowIndicator (c : Char) : Bool :=
  c = ',' || c = '[' || c = ']' || c = '{' || c = '}'

/-- May the character stand in a data file at all? Controls other than tab and
line ends, surrogates and the two non-characters at the end of the basic plane
may not, and the byte-order mark only at the start. -/
def isAllowed (c : Char) : Bool :=
  let n := c.toNat
  n = 0x9 || n = 0xA || n = 0xD || (0x20 ≤ n && n ≤ 0x7E) || n = 0x85 ||
    (0xA0 ≤ n && n ≤ 0xD7FF) || (0xE000 ≤ n && n ≤ 0xFFFD && n ≠ 0xFEFF) || 0x10000 ≤ n

/-- Does the text begin with a gap, or end here? -/
def atGap : List Char → Bool
  | [] => true
  | c :: _ => isGap c

/-- Does a document marker of three such characters stand here? -/
def atMarker (mark : Char) : List Char → Bool
  | a :: b :: c :: rest => a = mark && b = mark && c = mark && atGap rest
  | _ => false

/-- Does either document marker stand here? -/
def atDocumentMarker (cs : List Char) : Bool :=
  atMarker '-' cs || atMarker '.' cs

end SchemaGen.Yaml
