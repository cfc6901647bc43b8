import SchemaGen.Model.Basic

/-!
# Render contexts

What the templates are told about one entity. The table is the one that the
storage names, else the entity's name in lower case; the schema is the one that
the storage names, else the default of the metadata, else the fallback.
-/

namespace SchemaGen

open SchemaGen.Yaml (Value Entries)

/-- What the templates are told about one entity. -/
structure Context where
  entity : String
  table : String
  schema : String
  attributes : Entries
  indexes : List Value
  storage : Storage
  types : Catalog Value
  enums : Catalog Value
  deriving Repr, DecidableEq, Inhabited

namespace Context

/-- The context as a mapping. -/
def toValue (c : Context) : Value :=
  .map [(.str "entity", .str c.entity), (.str "table", .str c.table),
    (.str "schema", .str c.schema), (.str "attributes", .map c.attributes),
    (.str "indexes", .seq c.indexes), (.str "storage", c.storage.toValue),
    (.str "types", c.types.toValue), (.str "enums", c.enums.toValue)]

end Context

namespace Model

/-- The schema for entities that no setting provides for. -/
def lastSchema : String := "main"

/-- The table of an entity. -/
def tableFor (name : String) (e : Entity) : String :=
  e.storage.tableName?.getD (Text.lower name)

/-- The schema of an entity. -/
def schemaFor (m : Model) (fallback : String) (e : Entity) : String :=
  (e.storage.schemaName?.or m.defaultSchema?).getD fallback

/-- The context of an entity. -/
def contextOf (m : Model) (fallback name : String) (e : Entity) : Context :=
  { entity := name
    table := tableFor name e
    schema := m.schemaFor fallback e
    attributes := e.attributes
    indexes := e.indexes
    storage := e.storage
    types := m.types
    enums := m.enums }

/-- The contexts of all entities, in the order of their names. -/
def contexts (m : Model) (fallback : String) : List Context :=
  m.entities.entries.map fun e => m.contextOf fallback e.1 e.2

end Model

end SchemaGen
