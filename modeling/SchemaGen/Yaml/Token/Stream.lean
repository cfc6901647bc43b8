import SchemaGen.Yaml.Scalar.Block
import SchemaGen.Yaml.Scalar.Plain
import SchemaGen.Yaml.Scalar.Quoted
import SchemaGen.Yaml.Token.Word

/-!
# The tokens of a text

A key is recognised only when its colon is met, so a token that may begin a key
is remembered as a pending key of its flow level, with its place in the token
list. When the colon comes, the place is marked; the marks become key tokens
once the whole text is read. A pending key lapses when its line ends or 1024
characters on; a key at the indentation of its block must not lapse.
-/

namespace SchemaGen.Yaml

/-- A token that may turn out to begin a key. -/
structure PendingKey where
  /-- How many tokens stand before it. -/
  place : Nat
  /-- Must a colon follow? -/
  required : Bool
  index : Nat
  line : Nat
  column : Nat
  deriving Repr, DecidableEq

/-- A place in the token list before which a key begins, and whether a block
mapping begins there too. -/
structure KeyMark where
  place : Nat
  opensMapping : Bool
  deriving Repr, DecidableEq

/-- The state of the reader of tokens. -/
structure Scan where
  cursor : Cursor
  /-- The column of the current block, `-1` outside of every block. -/
  indent : Int := -1
  /-- The columns of the blocks around it, innermost first. -/
  outer : List Int := []
  /-- May a key begin here? -/
  keyAllowed : Bool := true
  /-- The pending key of the current flow level. -/
  pending : Option PendingKey := none
  /-- The pending keys of the flow levels around it, innermost first. -/
  outerPending : List (Option PendingKey) := []
  /-- The tokens, last first, and their number. -/
  tokens : List Token := []
  count : Nat := 0
  /-- The marks, last first. -/
  marks : List KeyMark := []

namespace Scan

/-- Is the position inside a flow collection? -/
def inFlow (s : Scan) : Bool :=
  !s.outerPending.isEmpty

/-- Add a token. -/
def push (s : Scan) (t : Token) : Scan :=
  { s with tokens := t :: s.tokens, count := s.count + 1 }

/-- Go on at the position, with keys allowed there or not. -/
def goOn (s : Scan) (c : Cursor) (keyAllowed : Bool) : Scan :=
  { s with cursor := c, keyAllowed }

/-! ## Pending keys -/

/-- Has the key lapsed at the position? -/
def PendingKey.lapsed (k : PendingKey) (c : Cursor) : Bool :=
  k.line < c.line || k.index + 1024 < c.index

/-- Drop the key if it has lapsed. -/
def freshKey (c : Cursor) : Option PendingKey → Except Fault (Option PendingKey)
  | some k =>
    if PendingKey.lapsed k c then
      if k.required then .error .missingColon else .ok none
    else .ok (some k)
  | none => .ok none

/-- Drop the keys that have lapsed, on every level. -/
def dropLapsed (s : Scan) : Except Fault Scan := do
  let pending ← freshKey s.cursor s.pending
  let outerPending ← s.outerPending.mapM (freshKey s.cursor)
  return { s with pending, outerPending }

/-- Give up the pending key of this level. -/
def dropKey (s : Scan) : Except Fault Scan :=
  if s.pending.any (·.required) then .error .missingColon
  else .ok { s with pending := none }

/-- Remember that a key may begin here. -/
def saveKey (s : Scan) : Except Fault Scan :=
  if s.keyAllowed then do
    let s ← s.dropKey
    let c := s.cursor
    let required := !s.inFlow && s.indent = c.column
    return { s with pending := some ⟨s.count, required, c.index, c.line, c.column⟩ }
  else .ok s

/-! ## Blocks -/

/-- Close the blocks whose column lies right of `column`. -/
def closeBlocks (column : Int) : Nat → Scan → Scan
  | 0, s => s
  | fuel + 1, s =>
    if s.indent > column then
      match s.outer with
      | outer :: rest =>
        closeBlocks column fuel { s.push .blockEnd with indent := outer, outer := rest }
      | [] => s
    else s

/-- Close blocks down to the column, outside of flow collections. -/
def closeTo (s : Scan) (column : Int) : Scan :=
  if s.inFlow then s else closeBlocks column s.outer.length s

/-- Does a block begin at the column? -/
def opensAt (s : Scan) (column : Nat) : Bool :=
  !s.inFlow && s.indent < column

/-- Make the column that of the current block, if it lies right of it. -/
def indentTo (s : Scan) (column : Nat) : Scan :=
  if s.opensAt column then { s with indent := column, outer := s.indent :: s.outer } else s

/-- Begin a block at the current column with the token, if one begins there. -/
def openBlock (s : Scan) (t : Token) : Scan :=
  let column := s.cursor.column
  if s.opensAt column then (s.indentTo column).push t else s

/-! ## One token each -/

/-- Step over blanks, comments and line ends. A line end outside of flow
collections allows a key, and where one is allowed a tab is no blank. -/
def skipBlanks : Nat → Scan → Scan
  | 0, s => s
  | fuel + 1, s =>
    let tabs := s.inFlow || !s.keyAllowed
    let c := s.cursor.skipRun fun x => x = ' ' || (tabs && x = '\t')
    let c := if c.at? (· = '#') then c.skipLine else c
    if c.at? isBreak then
      skipBlanks fuel (s.goOn c.skipBreak (s.keyAllowed || !s.inFlow))
    else { s with cursor := c }

/-- Leave every block and every pending key, as at a line that stands outside
of documents. -/
def leaveAll (s : Scan) : Except Fault Scan := do
  let s ← (s.closeTo (-1)).dropKey
  return { s with keyAllowed := false }

/-- A directive line. -/
def directive (s : Scan) : Except Fault Scan := do
  let s ← s.leaveAll
  let (token, c) ← Word.directive s.cursor
  return { s.push token with cursor := c }

/-- A document marker. -/
def documentMarker (s : Scan) (t : Token) : Except Fault Scan := do
  let s ← s.leaveAll
  return { s.push t with cursor := s.cursor.skipMany 3 }

/-- The opening bracket of a flow collection. -/
def openFlow (s : Scan) (t : Token) : Except Fault Scan := do
  let s ← s.saveKey
  let s := { s with pending := none, outerPending := s.pending :: s.outerPending }
  return (s.push t).goOn s.cursor.skip true

/-- The closing bracket of a flow collection. -/
def closeFlow (s : Scan) (t : Token) : Except Fault Scan := do
  let s ← s.dropKey
  let s := match s.outerPending with
    | pending :: rest => { s with pending, outerPending := rest }
    | [] => s
  return (s.push t).goOn s.cursor.skip false

/-- The comma of a flow collection. -/
def flowEntry (s : Scan) : Except Fault Scan := do
  let s ← s.dropKey
  return (s.push .flowEntry).goOn s.cursor.skip true

/-- The dash of a block sequence. -/
def blockEntry (s : Scan) : Except Fault Scan := do
  if !s.inFlow && !s.keyAllowed then .error .misplacedIndicator
  let s ← (s.openBlock .blockSequenceStart).dropKey
  return (s.push .blockEntry).goOn s.cursor.skip true

/-- The question mark before a key. -/
def explicitKey (s : Scan) : Except Fault Scan := do
  if !s.inFlow && !s.keyAllowed then .error .misplacedIndicator
  let s ← (s.openBlock .blockMappingStart).dropKey
  return (s.push .key).goOn s.cursor.skip !s.inFlow

/-- The colon after a key. -/
def value (s : Scan) : Except Fault Scan :=
  match s.pending with
  | some k =>
    let mark : KeyMark := ⟨k.place, s.opensAt k.column⟩
    let s := { s.indentTo k.column with pending := none, marks := mark :: s.marks }
    .ok ((s.push .value).goOn s.cursor.skip false)
  | none =>
    if !s.inFlow && !s.keyAllowed then .error .misplacedIndicator
    else .ok (((s.openBlock .blockMappingStart).push .value).goOn s.cursor.skip !s.inFlow)

/-- A token that may begin a key and is read as a word. -/
def word (s : Scan) (read : Cursor → Except Fault (Token × Cursor)) : Except Fault Scan := do
  let s ← s.saveKey
  let (token, c) ← read s.cursor
  return (s.push token).goOn c false

/-- A block scalar. -/
def blockScalar (s : Scan) (literal : Bool) : Except Fault Scan := do
  let s ← s.dropKey
  let (text, c) ← Block.read literal s.indent s.cursor
  return (s.push (.scalar .block (String.ofList text))).goOn c true

/-- A quoted scalar. -/
def quotedScalar (s : Scan) (single : Bool) : Except Fault Scan :=
  s.word fun c => do
    let (text, c) ← Quoted.read single c
    return (.scalar .quoted (String.ofList text), c)

/-- A plain scalar; if it was left on a later line, a key may begin there. -/
def plainScalar (s : Scan) : Except Fault Scan := do
  let s ← s.saveKey
  let (text, broken, c) ← Plain.read s.inFlow (s.indent + 1).toNat s.cursor
  return (s.push (.scalar .plain (String.ofList text))).goOn c broken

/-- May a plain scalar begin with this text? -/
def startsPlain (inFlow : Bool) : List Char → Bool
  | [] => false
  | c :: rest =>
    if c = '-' then !rest.head?.any isSpace
    else if c = '?' || c = ':' then !inFlow && !atGap rest
    else !isGap c && !",[]\x7b\x7d#&*!|>'\"%@`".toList.contains c

/-- Read the token at the position, where something is left. -/
def token (s : Scan) : Except Fault Scan :=
  let c := s.cursor
  let flow := s.inFlow
  match c.rest with
  | [] => .ok s
  | x :: rest =>
    if c.column = 0 && x = '%' then s.directive
    else if c.column = 0 && atMarker '-' c.rest then s.documentMarker .documentStart
    else if c.column = 0 && atMarker '.' c.rest then s.documentMarker .documentEnd
    else if x = '[' then s.openFlow .flowSequenceStart
    else if x = '{' then s.openFlow .flowMappingStart
    else if x = ']' then s.closeFlow .flowSequenceEnd
    else if x = '}' then s.closeFlow .flowMappingEnd
    else if x = ',' then s.flowEntry
    else if x = '-' && atGap rest then s.blockEntry
    else if x = '?' && (flow || atGap rest) then s.explicitKey
    else if x = ':' && (flow || atGap rest) then s.value
    else if x = '*' then s.word fun c => (Word.name c).map fun (n, c) => (.alias n, c)
    else if x = '&' then s.word fun c => (Word.name c).map fun (n, c) => (.anchor n, c)
    else if x = '!' then s.word (Word.tag flow)
    else if x = '|' && !flow then s.blockScalar true
    else if x = '>' && !flow then s.blockScalar false
    else if x = '\'' then s.quotedScalar true
    else if x = '"' then s.quotedScalar false
    else if startsPlain flow c.rest then s.plainScalar
    else .error .strayCharacter

/-- Read every token. -/
def all : Nat → Scan → Except Fault Scan
  | 0, s => .ok s
  | fuel + 1, s => do
    let s ← (skipBlanks s.cursor.fuel s).dropLapsed
    let s := s.closeTo s.cursor.column
    if s.cursor.atEnd then s.leaveAll
    else all fuel (← s.token)

/-- Put key tokens before the marked places. `place` is that of the first token
of the list; both lists run forward. -/
def insertKeys (place : Nat) : List KeyMark → List Token → List Token
  | _, [] => []
  | [], t :: rest => t :: rest
  | mark :: marks, t :: rest =>
    if mark.place = place then
      (if mark.opensMapping then [.blockMappingStart, .key] else [.key]) ++
        t :: insertKeys (place + 1) marks rest
    else t :: insertKeys (place + 1) (mark :: marks) rest

/-- The tokens of a finished scan, in their order. -/
def toTokens (s : Scan) : List Token :=
  insertKeys 0 (s.marks.mergeSort fun a b => a.place ≤ b.place) s.tokens.reverse

end Scan

/-- The tokens of a text. A byte-order mark at its start is no part of it. -/
def Token.ofText (text : String) : Except Fault (List Token) := do
  let chars := match text.toList with
    | '\uFEFF' :: rest => rest
    | chars => chars
  if !chars.all isAllowed then .error .forbiddenCharacter
  let s ← Scan.all (chars.length + 1) { cursor := .start chars }
  return s.toTokens

end SchemaGen.Yaml
