import SchemaGen.Number.Decimal
import SchemaGen.Yaml.Folding

/-!
# Quoted scalars

Single quotes know one escape, the doubled quote. Double quotes know letter
escapes, codes of two, four or eight hexadecimal digits, and the escaped line
end, which joins two lines without a space.
-/

namespace SchemaGen.Yaml.Quoted

open SchemaGen.Number

/-- The characters named by one letter after a backslash. -/
def letterEscape? : Char → Option Char
  | '0' => some '\x00'
  | 'a' => some '\x07'
  | 'b' => some '\x08'
  | 't' => some '\t'
  | '\t' => some '\t'
  | 'n' => some '\n'
  | 'v' => some '\x0B'
  | 'f' => some '\x0C'
  | 'r' => some '\r'
  | 'e' => some '\x1B'
  | ' ' => some ' '
  | '"' => some '"'
  | '/' => some '/'
  | '\\' => some '\\'
  | 'N' => some '\x85'
  | '_' => some '\xA0'
  | 'L' => some '\u2028'
  | 'P' => some '\u2029'
  | _ => none

/-- How many hexadecimal digits follow the letter. -/
def codeLength? : Char → Option Nat
  | 'x' => some 2
  | 'u' => some 4
  | 'U' => some 8
  | _ => none

/-- The character of a code, unless it is a surrogate or beyond the range. -/
def charOfCode? (n : Nat) : Option Char :=
  if n.isValidChar then some (Char.ofNat n) else none

/-- Read the escape whose backslash stands at the position. -/
def escape (c : Cursor) : Except Fault (Char × Cursor) :=
  match c.rest with
  | _ :: letter :: rest =>
    match letterEscape? letter, codeLength? letter with
    | some x, _ => .ok (x, c.skipMany 2)
    | none, some n =>
      let digits := rest.take n
      match if digits.length = n then natOfDigits? 16 digits else none with
      | some code =>
        match charOfCode? code with
        | some x => .ok (x, c.skipMany (2 + n))
        | none => .error .badEscape
      | none => .error .badEscape
    | none, none => .error .badEscape
  | _ => .error .badEscape

/-- Read the characters up to the next gap or the closing quote. The flag tells
that an escaped line end was the last thing read. -/
def word (single : Bool) :
    Nat → List Char → Cursor → Except Fault (List Char × Bool × Cursor)
  | 0, acc, c => .ok (acc.reverse, false, c)
  | fuel + 1, acc, c =>
    match c.rest with
    | [] => .ok (acc.reverse, false, c)
    | x :: rest =>
      if isGap x then .ok (acc.reverse, false, c)
      else if single then
        if x = '\'' then
          if rest.head? = some '\'' then word single fuel ('\'' :: acc) (c.skipMany 2)
          else .ok (acc.reverse, false, c)
        else word single fuel (x :: acc) c.skip
      else if x = '"' then .ok (acc.reverse, false, c)
      else if x = '\\' then
        if rest.head?.any isBreak then .ok (acc.reverse, true, c.skip.skipBreak)
        else do
          let (y, c') ← escape c
          word single fuel (y :: acc) c'
      else word single fuel (x :: acc) c.skip

/-- Read words and white space up to the closing quote. -/
def words (single : Bool) :
    Nat → List Char → Cursor → Except Fault (List Char × Cursor)
  | 0, _, _ => .error .unclosedQuote
  | fuel + 1, acc, c =>
    if c.atMarkerLine || c.atEnd then .error .unclosedQuote
    else do
      let (chars, joined, c') ← word single c.fuel [] c
      let acc' := acc ++ chars
      if c'.at? (· = if single then '\'' else '"') then .ok (acc', c'.skip)
      else
        let (f, c'') ← Folding.read 0 c'.fuel { broken := joined } c'
        words single fuel (acc' ++ f.text) c''

/-- Read a quoted scalar whose opening quote stands at the position. -/
def read (single : Bool) (c : Cursor) : Except Fault (List Char × Cursor) :=
  words single (c.fuel + 1) [] c.skip

end SchemaGen.Yaml.Quoted
