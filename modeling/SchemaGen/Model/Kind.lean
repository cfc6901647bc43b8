import SchemaGen.Text.Case

/-!
# Output kinds

For every entity two files can be generated: a source model and a table
definition. A kind is asked for by a key, in any letter case.
-/

namespace SchemaGen

/-- A kind of output. -/
inductive OutputKind where
  | sourceModel
  | tableDefinition
  deriving Repr, DecidableEq, Inhabited

namespace OutputKind

/-- The kinds in their order. -/
def all : List OutputKind :=
  [.sourceModel, .tableDefinition]

/-- The key of a kind. -/
def key : OutputKind → String
  | .sourceModel => "python"
  | .tableDefinition => "sql"

/-- The keys that ask for a kind, in lower case. -/
def aliases : OutputKind → List String
  | .sourceModel => ["python", "sqlmodel", "source_model"]
  | .tableDefinition => ["sql", "sqlite", "table_definition"]

/-- The kind that a key asks for. -/
def ofKey? (key : String) : Option OutputKind :=
  all.find? fun kind => kind.aliases.contains (Text.lower key)

/-- The template that renders a kind. -/
def template : OutputKind → String
  | .sourceModel => "python_sqlmodel.j2"
  | .tableDefinition => "sqlite_model.j2"

/-- The directory of a kind, below the output directory. -/
def directory (kind : OutputKind) : String :=
  kind.key

/-- What follows the name of the entity in a file name. -/
def ending : OutputKind → String
  | .sourceModel => "_model.py"
  | .tableDefinition => "_table.sql"

/-- The file name for an entity. -/
def fileName (kind : OutputKind) (entity : String) : String :=
  Text.lower entity ++ kind.ending

end OutputKind

end SchemaGen
