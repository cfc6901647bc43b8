import SchemaGen.Number.Layout
import SchemaGen.Template.Fault
import SchemaGen.Text.Quoted
import SchemaGen.Yaml.Value

/-!
# Template values

The values that templates compute with. Besides data there are undefined values
and handles on things that live as long as a rendering: changeable records,
routines and loops. Truth values count as the numbers zero and one.
-/

namespace SchemaGen.Template

open SchemaGen.Number SchemaGen.Text

/-- A template value. -/
inductive Val where
  | undefined
  | none
  | bool (b : Bool)
  | int (n : Int)
  | float (x : Binary64)
  /-- A text, and whether it may be printed without escapes. -/
  | str (safe : Bool) (s : String)
  /-- Values in a row; those that are not `fixed` come from a computation and do
  not count as sequences. -/
  | seq (fixed : Bool) (items : List Val)
  | map (entries : List (Val × Val))
  | record (number : Nat)
  | routine (number : Nat) (name : String)
  | loop (number : Nat)
  | builtin (name : String)
  deriving Repr, Inhabited

/-- The result of an operation. -/
abbrev Op (α : Type) := Except FaultKind α

namespace Val

/-- A text that needs escapes. -/
def text (s : String) : Val :=
  .str false s

/-- The text of a text value. -/
def text? : Val → Option String
  | .str _ s => some s
  | _ => Option.none

/-! ## Kinds -/

/-- The kinds of values, in the order in which values of different kinds are
sorted. -/
inductive Kind where
  | undefined
  | none
  | bool
  | number
  | text
  | seq
  | map
  | computed
  | plain
  deriving Repr, DecidableEq

/-- The place of a kind. -/
def Kind.rank : Kind → Nat
  | .undefined => 0
  | .none => 1
  | .bool => 2
  | .number => 3
  | .text => 4
  | .seq => 5
  | .map => 6
  | .computed => 7
  | .plain => 8

/-- The kind of a value. -/
def kind : Val → Kind
  | .undefined => .undefined
  | .none => .none
  | .bool _ => .bool
  | .int _ => .number
  | .float _ => .number
  | .str _ _ => .text
  | .seq true _ => .seq
  | .seq false _ => .computed
  | .map _ => .map
  | .record _ => .map
  | .loop _ => .map
  | .routine _ _ => .plain
  | .builtin _ => .plain

/-! ## Equality and order -/

/-- A number. -/
inductive Numeral where
  | int (n : Int)
  | float (x : Binary64)
  deriving Repr, DecidableEq

/-- The number that a value counts as. -/
def numeral? : Val → Option Numeral
  | .bool b => some (.int (if b then 1 else 0))
  | .int n => some (.int n)
  | .float x => some (.float x)
  | _ => Option.none

/-- A number as a floating-point number. -/
def Numeral.toFloat : Numeral → Binary64
  | .int n => .ofInt n
  | .float x => x

/-- Numeric equality. -/
def Numeral.same : Numeral → Numeral → Bool
  | .int m, .int n => m == n
  | .float x, .float y => x.numEq y
  | .int n, .float x => x.toInt? == some n
  | .float x, .int n => x.toInt? == some n

mutual

/-- Are two values equal? Texts are compared without regard to their safety, and
mappings without regard to the order of their entries. -/
def same : Val → Val → Bool
  | .undefined, .undefined => true
  | .none, .none => true
  | .str _ s, .str _ t => s == t
  | .seq _ xs, .seq _ ys => sameItems xs ys
  | .map xs, .map ys => xs.length == ys.length && sameEntries xs ys
  | .record m, .record n => m == n
  | .routine m _, .routine n _ => m == n
  | .loop m, .loop n => m == n
  | .builtin a, .builtin b => a == b
  | a, b =>
    match a.numeral?, b.numeral? with
    | some x, some y => x.same y
    | _, _ => false

/-- Are two rows equal? -/
def sameItems : List Val → List Val → Bool
  | [], [] => true
  | x :: xs, y :: ys => same x y && sameItems xs ys
  | _, _ => false

/-- Does every entry on the left have an equal one on the right? -/
def sameEntries : List (Val × Val) → List (Val × Val) → Bool
  | [], _ => true
  | (k, v) :: rest, other =>
    (other.any fun e => same k e.1 && same v e.2) && sameEntries rest other

end

/-- The order of numbers. -/
def Numeral.order : Numeral → Numeral → Ordering
  | .int m, .int n => compare m n
  | x, y => compare x.toFloat.rank y.toFloat.rank

/-- The order of texts. -/
def textOrder (s t : String) : Ordering :=
  if s = t then .eq else if s < t then .lt else .gt

mutual

/-- The order of values: by kind, then by content. -/
def order : Val → Val → Ordering
  | .str _ s, .str _ t => textOrder s t
  | .seq true xs, .seq true ys => orderItems xs ys
  | .seq false xs, .seq false ys => orderItems xs ys
  | .map xs, .map ys => orderEntries xs ys
  | a, b =>
    match compare a.kind.rank b.kind.rank with
    | .eq =>
      match a.numeral?, b.numeral? with
      | some x, some y => x.order y
      | _, _ => .eq
    | o => o

/-- The order of rows. -/
def orderItems : List Val → List Val → Ordering
  | [], [] => .eq
  | [], _ :: _ => .lt
  | _ :: _, [] => .gt
  | x :: xs, y :: ys =>
    match order x y with
    | .eq => orderItems xs ys
    | o => o

/-- The order of mappings. -/
def orderEntries : List (Val × Val) → List (Val × Val) → Ordering
  | [], [] => .eq
  | [], _ :: _ => .lt
  | _ :: _, [] => .gt
  | (k, v) :: xs, (l, w) :: ys =>
    match order k l with
    | .eq =>
      match order v w with
      | .eq => orderEntries xs ys
      | o => o
    | o => o

end

/-! ## Mappings -/

/-- The value under a key. -/
def lookup (entries : List (Val × Val)) (key : Val) : Option Val :=
  (entries.find? fun e => e.1.same key).map (·.2)

/-- Put a value under a key, in the place of the value there. -/
def insert (entries : List (Val × Val)) (key value : Val) : List (Val × Val) :=
  if entries.any fun e => e.1.same key then
    entries.map fun e => if e.1.same key then (e.1, value) else e
  else entries ++ [(key, value)]

mutual

/-- A data value as a template value. A tag becomes a mapping with one key. -/
def ofData : Yaml.Value → Val
  | .null => .none
  | .bool b => .bool b
  | .int n => .int n
  | .float x => .float x
  | .str s => .text s
  | .seq items => .seq true (ofItems items)
  | .map entries => .map (ofEntries entries [])
  | .tagged tag v => .map [(.text ("!" ++ tag), ofData v)]

/-- The items of a data sequence. -/
def ofItems : List Yaml.Value → List Val
  | [] => []
  | v :: rest => ofData v :: ofItems rest

/-- The entries of a data mapping, after those in `done`. -/
def ofEntries : List (Yaml.Value × Yaml.Value) → List (Val × Val) → List (Val × Val)
  | [], done => done
  | (k, v) :: rest, done => ofEntries rest (insert done (ofData k) (ofData v))

end

/-! ## Views -/

/-- Does the value count as true? -/
def isTrue : Val → Bool
  | .undefined => false
  | .none => false
  | .bool b => b
  | .int n => n != 0
  | .float x => x.isNaN || x.significand != 0
  | .str _ s => !s.isEmpty
  | .seq _ items => !items.isEmpty
  | .map entries => !entries.isEmpty
  | .record _ | .routine _ _ | .loop _ | .builtin _ => true

/-- What a loop over the value runs through. -/
def items? : Val → Option (List Val)
  | .undefined => some []
  | .none => some []
  | .str _ s => some (s.toList.map fun c => .text (String.ofList [c]))
  | .seq _ items => some items
  | .map entries => some (entries.map (·.1))
  | _ => Option.none

/-- How many items or characters the value has. -/
def length? : Val → Option Nat
  | .str _ s => some s.length
  | .seq _ items => some items.length
  | .map entries => some entries.length
  | _ => Option.none

/-- The integer that a value counts as. -/
def int? (v : Val) : Option Int :=
  match v.numeral? with
  | some (.int n) => some n
  | some (.float x) => x.toInt?
  | Option.none => Option.none

/-! ## Printing -/

/-- The word for a truth value. -/
def flagText (b : Bool) : String :=
  if b then "True" else "False"

mutual

/-- The text of a value inside of another. -/
def nested : Val → String
  | .undefined => "undefined"
  | .none => "None"
  | .bool b => flagText b
  | .int n => toString n
  | .float x => nestedLayout.text x
  | .str _ s => quoted s
  | .seq _ items => "[" ++ ", ".intercalate (nestedItems items) ++ "]"
  | .map entries => "\x7b" ++ ", ".intercalate (nestedEntries entries) ++ "\x7d"
  | .record _ => "\x7b\x7d"
  | .routine _ name => "<macro " ++ name ++ ">"
  | .loop _ => "<loop>"
  | .builtin name => name

/-- The texts of items. -/
def nestedItems : List Val → List String
  | [] => []
  | v :: rest => nested v :: nestedItems rest

/-- The texts of entries. -/
def nestedEntries : List (Val × Val) → List String
  | [] => []
  | (k, v) :: rest => (nested k ++ ": " ++ nested v) :: nestedEntries rest

end

/-- The text of a value on its own. -/
def print : Val → String
  | .undefined => ""
  | .float x => plainLayout.text x
  | .str _ s => s
  | v => v.nested

end Val

end SchemaGen.Template
