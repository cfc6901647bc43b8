import SchemaGen.Template.Ast
import SchemaGen.Template.Lexer

/-!
# Reading a token stream

What the grammar of templates does with tokens. A fault of the lexer comes to
light when its place in the stream is reached; a fault of the grammar is met on
the line of the last token that was read.
-/

namespace SchemaGen.Template

/-- A fault with its line, in a template still to be named. -/
structure Trouble where
  kind : FaultKind
  line : Nat
  deriving Repr, DecidableEq

/-- What is left to read. -/
structure Stream where
  tokens : List Located
  fault : Option LexFault
  /-- The line of the last token that was read. -/
  line : Nat := 0
  /-- The names of the blocks met so far. -/
  blocks : List String := []
  inRoutine : Bool := false
  /-- How many values and statements enclose what is read. -/
  depth : Nat := 0

/-- A reader of part of a template. -/
abbrev Grammar := StateT Stream (Except Trouble)

namespace Grammar

/-- Fail on the line of the last token. -/
def fail {α : Type} : Grammar α := do
  throw ⟨.malformed, (← get).line⟩

/-- How deep values and statements may be nested. -/
def depthLimit : Nat := 150

/-- Read something one level deeper. -/
def nested {α : Type} (g : Grammar α) : Grammar α := do
  let depth := (← get).depth
  if depthLimit ≤ depth then fail
  modify fun s => { s with depth := depth + 1 }
  let a ← g
  modify fun s => { s with depth := depth }
  return a

/-- The next token, if there is one. -/
def peek : Grammar (Option Token) := do
  let s ← get
  match s.tokens, s.fault with
  | t :: _, _ => return some t.token
  | [], some f => throw ⟨f.kind, f.line.getD s.line⟩
  | [], none => return none

/-- The line of the next token. -/
def nextLine : Grammar Nat := do
  let s ← get
  return (s.tokens.head?.map (·.line)).getD s.line

/-- Step over the next token. -/
def advance : Grammar Unit :=
  modify fun s =>
    match s.tokens with
    | t :: rest => { s with tokens := rest, line := t.line }
    | [] => s

/-- Read the next token, if there is one. -/
def next? : Grammar (Option Token) := do
  let t ← peek
  advance
  return t

/-- Read the next token, which must be there. -/
def next : Grammar Token := do
  match ← next? with
  | some t => return t
  | none => fail

/-- Read the token, which must come next. -/
def expect (t : Token) : Grammar Unit := do
  if (← next) ≠ t then fail

/-- Read the token if it comes next, and tell whether it did. -/
def accept (t : Token) : Grammar Bool := do
  if (← peek) = some t then
    advance
    return true
  else return false

/-- Does the token come next? -/
def isNext (t : Token) : Grammar Bool := do
  return (← peek) = some t

/-- Does one of the tokens come next? -/
def atOneOf (ts : List Token) : Grammar Bool := do
  match ← peek with
  | some t => return ts.contains t
  | none => return false

/-- Read a word of any kind. -/
def name : Grammar String := do
  match ← next with
  | .word name => return name
  | _ => fail

/-- Enough steps for any descent over what is left. -/
def fuel : Grammar Nat := do
  return 24 * ((← get).tokens.length + 2)

end Grammar

end SchemaGen.Template
