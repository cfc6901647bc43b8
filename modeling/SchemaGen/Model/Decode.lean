import SchemaGen.Model.Basic
import SchemaGen.Text.Quoted

/-!
# Reading fragments

How the value under the marker key becomes a part of the model. Tags are looked
through wherever a shape is expected, null is an empty collection, and keys
that mean nothing are passed over. Of several misfits the first in the order
of the document counts.
-/

namespace SchemaGen

open SchemaGen.Number SchemaGen.Text
open SchemaGen.Yaml (Value Entries)

/-- What was expected at a place. -/
inductive Expected where
  | fieldName
  | key
  | sectionMap
  | entity
  | storage
  | attributes
  | indexes
  deriving Repr, DecidableEq

/-- The name of what was expected. -/
def Expected.text : Expected → String
  | .fieldName => "field identifier"
  | .key => "a string"
  | .sectionMap => "a map"
  | .entity => "struct EntityDefinition"
  | .storage => "struct StorageConfig"
  | .attributes => "a YAML mapping"
  | .indexes => "a sequence"

/-- Why a value is no part of a model. -/
inductive Misfit where
  /-- A value of another type than expected. -/
  | wrongType (got : Value) (expected : Expected)
  /-- A field that occurs twice, once below a tag. -/
  | repeatedField (name : String)
  /-- A tag inside a storage setting of no fixed meaning. -/
  | taggedSetting
  deriving Repr, DecidableEq

namespace Misfit

/-- How a value of the wrong type is described. -/
def describe : Value → String
  | .null => "unit value"
  | .bool b => "boolean `" ++ (if b then "true" else "false") ++ "`"
  | .int n => "integer `" ++ toString n ++ "`"
  | .float x => "floating point `" ++ plainLayout.text x ++ "`"
  | .str s => "string " ++ quoted s
  | .seq _ => "sequence"
  | .map _ => "map"
  | .tagged _ v => describe v

/-- The text of a misfit. -/
def message : Misfit → String
  | .wrongType got expected =>
    "invalid type: " ++ describe got ++ ", expected " ++ expected.text
  | .repeatedField name => "duplicate field `" ++ name ++ "`"
  | .taggedSetting => "untagged and internally tagged enums do not support enum input"

end Misfit

namespace Decode

/-- The entries of a mapping; null has none. -/
def entries (expected : Expected) (v : Value) : Except Misfit Entries :=
  match v.untagged with
  | .map entries => .ok entries
  | .null => .ok []
  | got => .error (.wrongType got expected)

/-- The items of a sequence; null has none. -/
def items (expected : Expected) (v : Value) : Except Misfit (List Value) :=
  match v.untagged with
  | .seq items => .ok items
  | .null => .ok []
  | got => .error (.wrongType got expected)

/-- The text of a key. -/
def text (expected : Expected) (v : Value) : Except Misfit String :=
  match v.text? with
  | some s => .ok s
  | none => .error (.wrongType v expected)

/-- Read fields in their order. `read` has the fields read so far, and knows
which names mean something. -/
def fields {α : Type} (known : List String) (read : α → String → Value → Except Misfit α)
    (start : α) (entries : Entries) : Except Misfit α := do
  let (_, result) ← entries.foldlM (fun (seen, sofar) (k, v) => do
    let name ← text .fieldName k
    if seen.contains name then .error (.repeatedField name)
    let seen := if known.contains name then name :: seen else seen
    return (seen, ← read sofar name v)) (([] : List String), start)
  return result

/-- Read a mapping from names into a catalog. -/
def catalog {α : Type} (read : Value → Except Misfit α) (v : Value) :
    Except Misfit (Catalog α) := do
  (← entries .sectionMap v).foldlM (fun c (k, v) => do
    let name ← text .key k
    return c.insert name (← read v)) {}

/-- Read the storage of an entity. -/
def storage (v : Value) : Except Misfit Storage := do
  fields ["table", "schema"] (fun s name v =>
    if name = "table" then .ok { s with table := some v |>.filter (· ≠ .null) }
    else if name = "schema" then .ok { s with schema := some v |>.filter (· ≠ .null) }
    else if v.isTagFree then .ok { s with extra := s.extra.insert name v }
    else .error .taggedSetting) {} (← entries .storage v)

/-- Read an entity. -/
def entity (v : Value) : Except Misfit Entity := do
  fields ["storage", "attributes", "indexes"] (fun e name v => do
    if name = "storage" then return { e with storage := ← storage v }
    else if name = "attributes" then return { e with attributes := ← entries .attributes v }
    else if name = "indexes" then return { e with indexes := ← items .indexes v }
    else return e) {} (← entries .entity v)

/-- Read one section. -/
def addSection (m : Model) (s : Section) (v : Value) : Except Misfit Model := do
  match s with
  | .enums => return { m with enums := ← catalog .ok v }
  | .entities => return { m with entities := ← catalog entity v }
  | .types => return { m with types := ← catalog .ok v }
  | .metadata => return { m with metadata := ← catalog .ok v }
  | .targets => return { m with targets := ← catalog .ok v }

/-- Read the sections of a body. -/
def sections (body : Entries) : Except Misfit Model :=
  fields (Section.all.map (·.name)) (fun m name v =>
    match Section.ofName? name with
    | some s => addSection m s v
    | none => .ok m) {} body

end Decode

end SchemaGen
