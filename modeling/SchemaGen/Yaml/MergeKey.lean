import SchemaGen.Yaml.Error
import SchemaGen.Yaml.Value

/-!
# Merge keys

In every mapping the key `<<` brings in the entries of another mapping, or of
each mapping of a sequence. The entry itself is taken out, the last entry of
the mapping takes its place, and the entries brought in whose keys are not yet
present follow in their order. A merge key that is brought in by another stays
an ordinary key.

The value is changed where it stands. A stack holds the addresses that are still
to be visited, at first that of the value itself; a visit resolves the merge key
of the mapping at the address, if one is there, and then puts the addresses of all
that the mapping holds by now on the stack. The address that was put there last
is visited next. An entry that is not brought in because its key is present is
never looked at, faulty or not.
-/

namespace SchemaGen.Yaml.MergeKey

/-! ## One mapping -/

/-- The key that merges. -/
def mark : Value := .str "<<"

/-- Put the last item in the place of the one at `i`, which goes. -/
def swapRemove {α : Type} (xs : List α) (i : Nat) : List α :=
  match xs.getLast? with
  | some last => if i + 1 < xs.length then xs.dropLast.set i last else xs.dropLast
  | none => []

/-- Append the entry unless its key is present. -/
def bringIn {α : Type} (entries : List (Value × α)) (entry : Value × α) : List (Value × α) :=
  if entries.any fun e => e.1.alike entry.1 then entries else entries ++ [entry]

/-- The entries of a value that is a mapping. -/
def entriesOf : Value → Except Fault Entries
  | .map es => .ok es
  | _ => .error .badMerge

/-- What a value brings in under a merge key. -/
def brought : Value → Except Fault Entries
  | .map es => .ok es
  | .seq items => do return (← items.mapM entriesOf).flatten
  | _ => .error .badMerge

/-- The entries of a mapping once its own merge key, and no other, is resolved. -/
def spread (es : Entries) : Except Fault Entries :=
  match es.findIdx? (·.1 = mark) with
  | none => .ok es
  | some i => do
    let more ← match es[i]? with
      | some e => brought e.2
      | none => .ok []
    return more.foldl bringIn (swapRemove es i)

/-! ## The whole value -/

/-- The value once its own merge key, and no other, is resolved. -/
def merged : Value → Except Fault Value
  | .map es => (spread es).map .map
  | v => .ok v

/-- Visit an address in a value: what the value is then, and the addresses of the parts
of what is at the address. -/
def visit (v : Value) (address : Value.Address) : Except Fault (Value × List Value.Address) :=
  match v.at? address with
  | none => .ok (v, [])
  | some here => do
    let here ← merged here
    return (v.setAt address here, (List.range here.parts.length).map fun i => address ++ [i])

/-- Visit the addresses on a stack, the last one first, and those that each visit puts on
it, but at most `visits` of them. -/
def visitAll : (visits : Nat) → Value → (stack : List Value.Address) → Except Fault Value
  | _, v, [] => .ok v
  | 0, v, _ :: _ => .ok v
  | visits + 1, v, address :: rest => do
    let (v, inner) ← visit v address
    visitAll visits v (inner.reverse ++ rest)

/-- The value with all merge keys resolved. No value in it is visited twice, and what is
brought in comes from it, so there are no more visits than values in it. -/
def apply (v : Value) : Except Fault Value :=
  visitAll v.count v [[]]

end SchemaGen.Yaml.MergeKey
