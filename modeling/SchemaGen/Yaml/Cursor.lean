import SchemaGen.Yaml.Chars

/-!
# Reading position

A position in the text of a data file: what is left to read, and where that
stands. Columns and indices count characters.
-/

namespace SchemaGen.Yaml

/-- A reading position. -/
structure Cursor where
  rest : List Char
  index : Nat
  line : Nat
  column : Nat
  deriving Repr, DecidableEq

namespace Cursor

/-- The position before the first character. -/
def start (cs : List Char) : Cursor :=
  ⟨cs, 0, 0, 0⟩

/-- A bound on the number of steps any loop over the rest can take. -/
def fuel (c : Cursor) : Nat :=
  c.rest.length + 1

/-- Step over one character. -/
def skip (c : Cursor) : Cursor :=
  match c.rest with
  | [] => c
  | _ :: rest => ⟨rest, c.index + 1, c.line, c.column + 1⟩

/-- Step over `n` characters of one line. -/
def skipMany : Nat → Cursor → Cursor
  | 0, c => c
  | n + 1, c => skipMany n c.skip

/-- Step over one line end; a carriage return and a line feed are one. -/
def skipBreak (c : Cursor) : Cursor :=
  match c.rest with
  | '\r' :: '\n' :: rest => ⟨rest, c.index + 2, c.line + 1, 0⟩
  | x :: rest => if isBreak x then ⟨rest, c.index + 1, c.line + 1, 0⟩ else c
  | [] => c

/-- What a scalar receives for the line end here: one line feed, except that
the line and paragraph separators stand for themselves. -/
def breakText (c : Cursor) : List Char :=
  match c.rest with
  | x :: _ =>
    if x = '\u2028' || x = '\u2029' then [x]
    else if isBreak x then ['\n'] else []
  | [] => []

/-- Does the next character satisfy `p`? -/
def at? (c : Cursor) (p : Char → Bool) : Bool :=
  match c.rest with
  | x :: _ => p x
  | [] => false

/-- Is nothing left? -/
def atEnd (c : Cursor) : Bool :=
  c.rest.isEmpty

/-- Does a document marker stand at the start of this line? -/
def atMarkerLine (c : Cursor) : Bool :=
  c.column = 0 && atDocumentMarker c.rest

/-- The longest run of characters that satisfy `p`, and the position after it.
For classes without line ends only. -/
def takeRun (c : Cursor) (p : Char → Bool) : List Char × Cursor :=
  let run := c.rest.takeWhile p
  (run, c.skipMany run.length)

/-- Step over the characters that satisfy `p`. -/
def skipRun (c : Cursor) (p : Char → Bool) : Cursor :=
  (c.takeRun p).2

/-- Step to the end of the line. -/
def skipLine (c : Cursor) : Cursor :=
  c.skipRun fun x => !isBreak x

end Cursor

end SchemaGen.Yaml
