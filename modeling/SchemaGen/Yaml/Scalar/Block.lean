import SchemaGen.Yaml.Cursor
import SchemaGen.Yaml.Error

/-!
# Block scalars

A literal scalar keeps its line ends, a folded one joins neighbouring lines
with a space unless one of them begins with white space. The header may fix
the indentation and says what happens to the line ends at the tail: they are
clipped to one, stripped, or all kept.
-/

namespace SchemaGen.Yaml.Block

/-- What happens to the line ends at the tail of the scalar. -/
inductive Chomping where
  | clip
  | strip
  | keep
  deriving Repr, DecidableEq

/-- The header of a block scalar. -/
structure Header where
  chomping : Chomping := .clip
  increment : Option Nat := none
  deriving Repr, DecidableEq

/-- The chomping that an indicator asks for. -/
def chomping? : Char → Option Chomping
  | '+' => some .keep
  | '-' => some .strip
  | _ => none

/-- The indentation that a digit asks for; zero is refused. -/
def increment? (c : Char) : Option (Except Fault Nat) :=
  if c = '0' then some (.error .badBlockHeader)
  else if '1' ≤ c ∧ c ≤ '9' then some (.ok (c.toNat - '0'.toNat))
  else none

/-- Read the indicators after the bar or the angle, in either order. -/
def header (c : Cursor) : Except Fault (Header × Cursor) :=
  match c.rest with
  | x :: rest =>
    match chomping? x, increment? x with
    | some chomping, _ =>
      match rest.head?.bind increment? with
      | some n => do return (⟨chomping, some (← n)⟩, c.skipMany 2)
      | none => .ok (⟨chomping, none⟩, c.skip)
    | none, some n => do
      let n ← n
      match rest.head?.bind chomping? with
      | some chomping => return (⟨chomping, some n⟩, c.skipMany 2)
      | none => return (⟨.clip, some n⟩, c.skip)
    | none, none => .ok ({}, c)
  | [] => .ok ({}, c)

/-- Step over the rest of the header line: blanks, a comment, the line end. -/
def headerLine (c : Cursor) : Except Fault Cursor :=
  let c := c.skipRun isSpace
  let c := if c.at? (· = '#') then c.skipLine else c
  if c.atEnd then .ok c
  else if c.at? isBreak then .ok c.skipBreak
  else .error .badBlockHeader

/-- Read empty lines and the indentation of the next line. An `indent` of zero
means that it is still to be found; `deepest` is the deepest column met. -/
def emptyLines (indent : Nat) :
    Nat → Nat → List Char → Cursor → Except Fault (Nat × List Char × Cursor)
  | 0, deepest, breaks, c => .ok (deepest, breaks, c)
  | fuel + 1, deepest, breaks, c =>
    let room := indent = 0 || c.column < indent
    match c.rest with
    | x :: _ =>
      if x = ' ' && room then emptyLines indent fuel deepest breaks c.skip
      else
        let deepest := max deepest c.column
        if x = '\t' && room then .error .tabIndent
        else if isBreak x then
          emptyLines indent fuel deepest (breaks ++ c.breakText) c.skipBreak
        else .ok (deepest, breaks, c)
    | [] => .ok (max deepest c.column, breaks, c)

/-- The text of a scalar being read: what is fixed, the line end of the last
line, the empty lines after it, and whether that line began with a blank. -/
structure Progress where
  text : List Char := []
  lineEnd : List Char := []
  breaks : List Char := []
  blankStart : Bool := false
  deriving Repr, DecidableEq

/-- Join the next line to what is read. `blank` tells that it begins with white
space. -/
def Progress.joint (p : Progress) (literal blank : Bool) : List Char :=
  if !literal && p.lineEnd = ['\n'] && !p.blankStart && !blank then
    (if p.breaks = [] then [' '] else p.breaks)
  else p.lineEnd ++ p.breaks

/-- Read the lines of the scalar. -/
def lines (literal : Bool) (indent : Nat) :
    Nat → Progress → Cursor → Except Fault (Progress × Cursor)
  | 0, p, c => .ok (p, c)
  | fuel + 1, p, c =>
    if c.column = indent && !c.atEnd then do
      let blank := c.at? isSpace
      let (line, c') := c.takeRun fun x => !isBreak x
      let text := p.text ++ p.joint literal blank ++ line
      let (_, breaks, c'') ← emptyLines indent c'.fuel 0 [] c'.skipBreak
      lines literal indent fuel
        { text, lineEnd := c'.breakText, breaks, blankStart := blank } c''
    else .ok (p, c)

/-- Apply the chomping to the tail. -/
def Progress.finish (p : Progress) : Chomping → List Char
  | .strip => p.text
  | .clip => p.text ++ p.lineEnd
  | .keep => p.text ++ p.lineEnd ++ p.breaks

/-- Read a block scalar whose bar or angle stands at the position. `parent` is
the indentation of the block around it, `-1` outside of every block. -/
def read (literal : Bool) (parent : Int) (c : Cursor) :
    Except Fault (List Char × Cursor) := do
  let (h, c) ← header c.skip
  let c ← headerLine c
  let fixed : Nat := match h.increment with
    | some n => if 0 ≤ parent then parent.toNat + n else n
    | none => 0
  let (deepest, breaks, c) ← emptyLines fixed c.fuel 0 [] c
  let indent :=
    if fixed = 0 then max (max deepest (parent + 1).toNat) 1 else fixed
  let (p, c) ← lines literal indent c.fuel { breaks } c
  return (p.finish h.chomping, c)

end SchemaGen.Yaml.Block
