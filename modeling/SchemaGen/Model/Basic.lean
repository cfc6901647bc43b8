import SchemaGen.File.Path
import SchemaGen.Model.Catalog
import SchemaGen.Model.Kind
import SchemaGen.Number.Layout
import SchemaGen.Yaml.Value

/-!
# The model

What the fragments of a project describe together: enumerations, entities,
types, metadata and the kinds of output that are wanted.
-/

namespace SchemaGen

open SchemaGen.Number SchemaGen.File

open SchemaGen.Yaml (Value Entries)

/-- A part of the model. -/
inductive Section where
  | enums
  | entities
  | types
  | metadata
  | targets
  deriving Repr, DecidableEq

namespace Section

/-- The sections in their order. -/
def all : List Section :=
  [.enums, .entities, .types, .metadata, .targets]

/-- The key of a section. -/
def name : Section → String
  | .enums => "enums"
  | .entities => "entities"
  | .types => "types"
  | .metadata => "metadata"
  | .targets => "targets"

/-- The section of a key. -/
def ofName? (name : String) : Option Section :=
  all.find? (·.name = name)

end Section

/-- Where an entity is stored. -/
structure Storage where
  table : Option Value := none
  schema : Option Value := none
  extra : Catalog Value := {}
  deriving Repr, DecidableEq, Inhabited

/-- An entity. Its attributes keep the order in which they are declared. -/
structure Entity where
  storage : Storage := {}
  attributes : Entries := []
  indexes : List Value := []
  deriving Repr, DecidableEq, Inhabited

/-- The model, or the part of it that one fragment describes. -/
structure Model where
  enums : Catalog Value := {}
  entities : Catalog Entity := {}
  types : Catalog Value := {}
  metadata : Catalog Value := {}
  targets : Catalog Value := {}
  deriving Repr, DecidableEq, Inhabited

/-- The part of a data file that stands under the marker key. -/
structure Fragment where
  path : FilePath
  body : Value
  deriving Repr, DecidableEq, Inhabited

/-! ## Storage names -/

/-- The name that a scalar gives. Null and collections give none. -/
def scalarName? : Value → Option String
  | .str s => some s
  | .int n => some (toString n)
  | .float x => some (dataLayout.text x)
  | .bool b => some (if b then "true" else "false")
  | _ => none

namespace Storage

/-- The name of the table, if the storage gives one. -/
def tableName? (s : Storage) : Option String :=
  s.table.bind scalarName?

/-- The name of the schema, if the storage gives one. -/
def schemaName? (s : Storage) : Option String :=
  s.schema.bind scalarName?

end Storage

namespace Model

/-- The keys of a section, sorted. -/
def keys (m : Model) : Section → List String
  | .enums => m.enums.names
  | .entities => m.entities.names
  | .types => m.types.names
  | .metadata => m.metadata.names
  | .targets => m.targets.names

/-- The schema for entities that name none. -/
def defaultSchema? (m : Model) : Option String :=
  (m.metadata.get? "default_schema").bind Value.text?

/-! ## Wanted outputs -/

/-- Does a target value ask for its kind? Only a false flag says no. -/
def isEnabled : Value → Bool
  | .bool flag => flag
  | .map entries => ((Entries.get? entries "enabled").bind Value.flag?).getD true
  | _ => true

/-- Does a target with an enabled value ask for the kind? -/
def asksFor (m : Model) (kind : OutputKind) : Bool :=
  m.targets.entries.any fun e => OutputKind.ofKey? e.1 = some kind && isEnabled e.2

/-- Does any target name a kind? -/
def namesKinds (m : Model) : Bool :=
  m.targets.names.any fun key => (OutputKind.ofKey? key).isSome

/-- The kinds that are wanted: those that are asked for, or all if no target
names a kind. -/
def outputs (m : Model) : List OutputKind :=
  if m.namesKinds then OutputKind.all.filter m.asksFor else OutputKind.all

end Model

/-! ## Models as values -/

/-- A catalog as a mapping. -/
def Catalog.toEntries {α : Type} (c : Catalog α) (toValue : α → Value) : Entries :=
  c.entries.map fun e => (.str e.1, toValue e.2)

/-- A free-form catalog as a mapping. -/
def Catalog.toValue (c : Catalog Value) : Value :=
  .map (c.toEntries id)

/-- A field of a structure, if it is set. -/
def fieldIfSet (name : String) (value : Option Value) : Entries :=
  (value.map fun v => (Value.str name, v)).toList

namespace Storage

/-- The storage as a mapping. -/
def toValue (s : Storage) : Value :=
  .map (fieldIfSet "table" s.table ++ fieldIfSet "schema" s.schema ++ s.extra.toEntries id)

end Storage

namespace Entity

/-- The entity as a mapping. -/
def toValue (e : Entity) : Value :=
  .map [(.str "storage", e.storage.toValue), (.str "attributes", .map e.attributes),
    (.str "indexes", .seq e.indexes)]

end Entity

namespace Model

/-- The model as a mapping. -/
def toValue (m : Model) : Value :=
  .map [(.str "enums", m.enums.toValue),
    (.str "entities", .map (m.entities.toEntries Entity.toValue)),
    (.str "types", m.types.toValue), (.str "metadata", m.metadata.toValue),
    (.str "targets", m.targets.toValue)]

end Model

end SchemaGen
