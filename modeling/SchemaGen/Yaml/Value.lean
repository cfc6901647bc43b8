import SchemaGen.Number.Binary64

/-!
# Data values

The values of a data file: scalars, sequences, mappings in the order of their
entries, and values with an application tag. Equality of values is decidable.
`alike` is the coarser equality by which mapping keys are compared: it looks
at numbers as numbers and at mappings without their order.
-/

namespace SchemaGen.Yaml

open SchemaGen.Number

/-- A data value. The name of a tag is held without its exclamation mark. -/
inductive Value where
  | null
  | bool (b : Bool)
  | int (n : Int)
  | float (x : Binary64)
  | str (s : String)
  | seq (items : List Value)
  | map (entries : List (Value × Value))
  | tagged (tag : String) (value : Value)
  deriving Repr, Inhabited

/-- The entries of a mapping, in their order. -/
abbrev Entries := List (Value × Value)

/-! ## Decidable equality -/

namespace Value

mutual

/-- Decide equality of two values. -/
def decEq : (a b : Value) → Decidable (a = b)
  | .null, b => match b with
    | .null => isTrue rfl
    | .bool _ | .int _ | .float _ | .str _ | .seq _ | .map _ | .tagged _ _ => isFalse nofun
  | .bool x, b => match b with
    | .bool y => decidable_of_iff (x = y) (by simp)
    | .null | .int _ | .float _ | .str _ | .seq _ | .map _ | .tagged _ _ => isFalse nofun
  | .int x, b => match b with
    | .int y => decidable_of_iff (x = y) (by simp)
    | .null | .bool _ | .float _ | .str _ | .seq _ | .map _ | .tagged _ _ => isFalse nofun
  | .float x, b => match b with
    | .float y => decidable_of_iff (x = y) (by simp)
    | .null | .bool _ | .int _ | .str _ | .seq _ | .map _ | .tagged _ _ => isFalse nofun
  | .str x, b => match b with
    | .str y => decidable_of_iff (x = y) (by simp)
    | .null | .bool _ | .int _ | .float _ | .seq _ | .map _ | .tagged _ _ => isFalse nofun
  | .seq x, b => match b with
    | .seq y => have := decEqItems x y; decidable_of_iff (x = y) (by simp)
    | .null | .bool _ | .int _ | .float _ | .str _ | .map _ | .tagged _ _ => isFalse nofun
  | .map x, b => match b with
    | .map y => have := decEqEntries x y; decidable_of_iff (x = y) (by simp)
    | .null | .bool _ | .int _ | .float _ | .str _ | .seq _ | .tagged _ _ => isFalse nofun
  | .tagged t x, b => match b with
    | .tagged u y => have := decEq x y; decidable_of_iff (t = u ∧ x = y) (by simp)
    | .null | .bool _ | .int _ | .float _ | .str _ | .seq _ | .map _ => isFalse nofun

/-- Decide equality of two sequences. -/
def decEqItems : (a b : List Value) → Decidable (a = b)
  | [], [] => isTrue rfl
  | [], _ :: _ => isFalse nofun
  | _ :: _, [] => isFalse nofun
  | x :: xs, y :: ys =>
    have := decEq x y
    have := decEqItems xs ys
    decidable_of_iff (x = y ∧ xs = ys) (by simp)

/-- Decide equality of two mappings, order included. -/
def decEqEntries : (a b : List (Value × Value)) → Decidable (a = b)
  | [], [] => isTrue rfl
  | [], _ :: _ => isFalse nofun
  | _ :: _, [] => isFalse nofun
  | (k, v) :: xs, (l, w) :: ys =>
    have := decEq k l
    have := decEq v w
    have := decEqEntries xs ys
    decidable_of_iff ((k = l ∧ v = w) ∧ xs = ys) (by simp)

end

instance : DecidableEq Value := decEq

/-! ## Equality of keys -/

mutual

/-- Are the two values one key? Floating-point numbers are compared as numbers,
not-a-number being like itself, integers are never like floating-point
numbers, and mappings are alike when they have alike entries in any order. -/
def alike : Value → Value → Bool
  | .null, .null => true
  | .bool x, .bool y => x == y
  | .int x, .int y => x == y
  | .float x, .float y => (x.isNaN && y.isNaN) || x.numEq y
  | .str x, .str y => x == y
  | .seq x, .seq y => alikeItems x y
  | .map x, .map y => x.length == y.length && alikeEntries x y
  | .tagged t x, .tagged u y => t == u && alike x y
  | _, _ => false

/-- Are the two sequences alike, item by item? -/
def alikeItems : List Value → List Value → Bool
  | [], [] => true
  | x :: xs, y :: ys => alike x y && alikeItems xs ys
  | _, _ => false

/-- Does every entry on the left have an alike one on the right? -/
def alikeEntries : List (Value × Value) → List (Value × Value) → Bool
  | [], _ => true
  | (k, v) :: rest, other =>
    (other.any fun entry => alike k entry.1 && alike v entry.2) && alikeEntries rest other

end

/-! ## Tags -/

mutual

/-- Is there no tag anywhere in the value? -/
def isTagFree : Value → Bool
  | .tagged _ _ => false
  | .seq items => itemsTagFree items
  | .map entries => entriesTagFree entries
  | .null | .bool _ | .int _ | .float _ | .str _ => true

/-- Is there no tag in any item? -/
def itemsTagFree : List Value → Bool
  | [] => true
  | v :: rest => isTagFree v && itemsTagFree rest

/-- Is there no tag in any entry? -/
def entriesTagFree : List (Value × Value) → Bool
  | [] => true
  | (k, v) :: rest => isTagFree k && isTagFree v && entriesTagFree rest

end

/-! ## Views -/

/-- The value below its tags. -/
def untagged : Value → Value
  | .tagged _ v => v.untagged
  | v => v

/-- The entries, if the value is a mapping below its tags. -/
def entries? (v : Value) : Option Entries :=
  match v.untagged with
  | .map entries => some entries
  | _ => none

/-- The text, if the value is a string below its tags. -/
def text? (v : Value) : Option String :=
  match v.untagged with
  | .str s => some s
  | _ => none

/-- The flag, if the value is a boolean below its tags. -/
def flag? (v : Value) : Option Bool :=
  match v.untagged with
  | .bool b => some b
  | _ => none

/-- Tags never hide tags. -/
@[simp] theorem untagged_tagged (t : String) (v : Value) :
    (Value.tagged t v).untagged = v.untagged := rfl

/-! ## Addresses -/

/-- The way to a value inside another one: which part to go to at each level. -/
abbrev Address := List Nat

/-- The values directly in the value, in their order. Keys are none of them. -/
def parts : Value → List Value
  | .seq items => items
  | .map entries => entries.map (·.2)
  | .tagged _ v => [v]
  | .null | .bool _ | .int _ | .float _ | .str _ => []

/-- The value with others in the place of its parts. -/
def withParts : Value → List Value → Value
  | .seq _, parts => .seq parts
  | .map entries, parts => .map ((entries.map (·.1)).zip parts)
  | .tagged tag _, part :: _ => .tagged tag part
  | v, _ => v

/-- The value at an address. -/
def at? (v : Value) : Address → Option Value
  | [] => some v
  | i :: rest => v.parts[i]?.bind (·.at? rest)

/-- The value with another one in the place of what is at an address. -/
def setAt (v : Value) : Address → Value → Value
  | [], new => new
  | i :: rest, new => v.withParts (v.parts.modify i (·.setAt rest new))

mutual

/-- How many values there are in the value, itself included. -/
def count : Value → Nat
  | .seq items => countItems items + 1
  | .map entries => countEntries entries + 1
  | .tagged _ v => count v + 1
  | .null | .bool _ | .int _ | .float _ | .str _ => 1

/-- How many values there are in the items. -/
def countItems : List Value → Nat
  | [] => 0
  | v :: rest => count v + countItems rest

/-- How many values there are in the entries, apart from their keys. -/
def countEntries : List (Value × Value) → Nat
  | [] => 0
  | (_, v) :: rest => count v + countEntries rest

end

end Value

/-! ## Entries -/

namespace Entries

/-- The value under a string key. -/
def get? (entries : Entries) (key : String) : Option Value :=
  entries.lookup (.str key)

/-- Is a key like this one present? -/
def hasAlike (entries : Entries) (key : Value) : Bool :=
  entries.any fun entry => entry.1.alike key

end Entries

end SchemaGen.Yaml
