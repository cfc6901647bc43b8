import SchemaGen.Text.Ranges

/-!
# Blank characters and trimming

Blank means the Unicode property `White_Space`. Trimming removes blanks from
the ends of a text and nothing else, so a trimmed text starts and ends with a
character that is not blank, or is empty.
-/

namespace SchemaGen.Text

/-- The codes with the property `White_Space`. -/
def blankRanges : Ranges := [
  (0x9, 0xD), (0x20, 0x20), (0x85, 0x85), (0xA0, 0xA0), (0x1680, 0x1680),
  (0x2000, 0x200A), (0x2028, 0x2029), (0x202F, 0x202F), (0x205F, 0x205F),
  (0x3000, 0x3000)]

/-- Is the character blank? -/
def isBlank (c : Char) : Bool :=
  blankRanges.holds c.toNat

/-- Drop the longest tail whose characters satisfy `p`. -/
def dropTail (p : Char → Bool) (cs : List Char) : List Char :=
  (cs.reverse.dropWhile p).reverse

/-- Drop the characters that satisfy `p` from both ends. -/
def trimChars (p : Char → Bool) (cs : List Char) : List Char :=
  dropTail p (cs.dropWhile p)

/-- The text without the blanks at its ends. -/
def trim (s : String) : String :=
  String.ofList (trimChars isBlank s.toList)

/-- The text without its leading characters that satisfy `p`. -/
def trimStartWhere (p : Char → Bool) (s : String) : String :=
  String.ofList (s.toList.dropWhile p)

/-- The text without its trailing characters that satisfy `p`. -/
def trimEndWhere (p : Char → Bool) (s : String) : String :=
  String.ofList (dropTail p s.toList)

/-- Is every character of the text blank? -/
def isAllBlank (s : String) : Bool :=
  s.toList.all isBlank

/-! ## Laws -/

/-- A last character that fails `p` stops the trimming. -/
theorem dropTail_concat_of_not {p : Char → Bool} {c : Char} (h : p c = false)
    (cs : List Char) : dropTail p (cs ++ [c]) = cs ++ [c] := by
  simp [dropTail, h]

/-- A last character that satisfies `p` goes, and the trimming continues. -/
theorem dropTail_concat_of_pos {p : Char → Bool} {c : Char} (h : p c = true)
    (cs : List Char) : dropTail p (cs ++ [c]) = dropTail p cs := by
  simp [dropTail, h]

end SchemaGen.Text
