import SchemaGen.Yaml.Cursor
import SchemaGen.Yaml.Error

/-!
# White space inside flow scalars

Between two words of a plain or quoted scalar stand spaces or line ends. Spaces
on one line are kept; around line ends they go, a single line end becomes a
space, and of several the first is dropped. Separators that are no line feeds
are never turned into spaces.
-/

namespace SchemaGen.Yaml

/-- The white space met since the last word. -/
structure Folding where
  spaces : List Char := []
  firstBreak : List Char := []
  moreBreaks : List Char := []
  broken : Bool := false
  deriving Repr, DecidableEq

namespace Folding

/-- What the white space contributes to the scalar. -/
def text (f : Folding) : List Char :=
  if f.broken then
    if f.firstBreak = ['\n'] then
      if f.moreBreaks = [] then [' '] else f.moreBreaks
    else f.firstBreak ++ f.moreBreaks
  else f.spaces

/-- Read white space. With `minColumn`, a tab that stands left of that column
on a fresh line is a fault. -/
def read (minColumn : Nat) : Nat → Folding → Cursor → Except Fault (Folding × Cursor)
  | 0, f, c => .ok (f, c)
  | fuel + 1, f, c =>
    match c.rest with
    | x :: _ =>
      if isSpace x then
        if f.broken then
          if c.column < minColumn && x = '\t' then .error .tabIndent
          else read minColumn fuel f c.skip
        else read minColumn fuel { f with spaces := f.spaces ++ [x] } c.skip
      else if isBreak x then
        if f.broken then
          read minColumn fuel { f with moreBreaks := f.moreBreaks ++ c.breakText } c.skipBreak
        else
          read minColumn fuel
            { f with spaces := [], firstBreak := c.breakText, broken := true } c.skipBreak
      else .ok (f, c)
    | [] => .ok (f, c)

end Folding

end SchemaGen.Yaml
