import SchemaGen.Number.Binary64
import SchemaGen.Template.Fault

/-!
# Tokens of templates

The words of a template: text that stands for itself, and the words between the
marks of variables and blocks.
-/

namespace SchemaGen.Template

open SchemaGen.Number

/-- A token. -/
inductive Token where
  /-- Text that stands for itself. -/
  | text (s : String)
  | variableStart
  | variableEnd
  | blockStart
  | blockEnd
  | word (name : String)
  | str (s : String)
  | int (n : Nat)
  | float (x : Binary64)
  /-- An operator or a bracket. -/
  | mark (chars : String)
  deriving Repr, DecidableEq

/-- A token and the line it begins on. -/
structure Located where
  token : Token
  line : Nat
  deriving Repr, DecidableEq

/-- Why no further token can be read. A fault without a line is met on the line
of the token before it. -/
structure LexFault where
  kind : FaultKind
  line : Option Nat
  deriving Repr, DecidableEq

/-- The tokens of a template, up to the first fault. -/
structure Tokens where
  all : List Located
  fault : Option LexFault
  deriving Repr, DecidableEq

end SchemaGen.Template
