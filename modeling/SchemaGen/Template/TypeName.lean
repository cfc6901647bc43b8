import SchemaGen.Template.Value
import SchemaGen.Text.Blank
import SchemaGen.Text.Case

/-!
# Type names

How the type of an attribute is named in the generated files. An attribute is
described by a type name, or by a mapping that has one; question marks at the
end of the name, which make the attribute optional, do not count. Columns and fields
each have a table of their own.
-/

namespace SchemaGen.Template.TypeName

open SchemaGen.Text

/-- The type name of an attribute description, or nothing. -/
def described (v : Val) : String :=
  match v with
  | .str _ s => trim s
  | .map entries =>
    match Val.lookup entries (.text "type") with
    | some (.str _ s) => trim s
    | _ => ""
  | _ => ""

/-- The name without question marks at its end. -/
def required (name : String) : String :=
  trimEndWhere (· = '?') name

/-- Types, each with the names that stand for it, in lower case. -/
abbrev Table := List (String × List String)

/-- The first type that has the name, which counts without its question marks and in any
letter case. -/
def Table.typeOf? (table : Table) (name : String) : Option String :=
  (table.find? fun row => row.2.contains (lower (required name))).map (·.1)

/-! ## Columns -/

/-- The types of table columns other than text. -/
def columns : Table :=
  [("INTEGER", ["int", "integer", "bigint", "bool", "boolean"]),
    ("REAL", ["float", "real", "double", "decimal", "money", "number"]),
    ("BLOB", ["bytes", "blob"])]

/-- The type of a table column. What is not a number and not binary is stored as
text. -/
def ofColumn (name : String) : String :=
  (columns.typeOf? name).getD "TEXT"

/-! ## Fields -/

/-- The types of model fields. -/
def fields : Table :=
  [("str", ["str", "string", "text", "uuid", "email"]),
    ("int", ["int", "integer", "bigint"]),
    ("bool", ["bool", "boolean"]),
    ("float", ["float", "real", "double", "number"]),
    ("Decimal", ["decimal", "money"]),
    ("date", ["date"]),
    ("datetime", ["datetime", "timestamp"]),
    ("time", ["time"]),
    ("bytes", ["bytes", "blob"]),
    ("Any", [""])]

/-- The type of a model field. An unknown name stands for itself. -/
def ofField (name : String) : String :=
  (fields.typeOf? name).getD (required name)

end SchemaGen.Template.TypeName
