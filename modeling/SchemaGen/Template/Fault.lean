/-!
# Faults of templates

What can go wrong in a template, and where.
-/

namespace SchemaGen.Template

/-- The kind of a template fault. -/
inductive FaultKind where
  /-- A template that is not formed properly. -/
  | malformed
  /-- An escape in a string literal that means nothing. -/
  | badEscape
  /-- An attribute or item of an undefined value. -/
  | undefined
  /-- An operation that its operands do not admit. -/
  | invalidOperation
  /-- A value that does not unpack into the names asked for. -/
  | cannotUnpack
  | missingArgument
  | tooManyArguments
  | unknownFilter
  | unknownTest
  | unknownFunction
  | unknownMethod
  /-- A template that another one asks for is missing. -/
  | missingTemplate
  /-- A fault inside an included template. -/
  | badInclude
  /-- A fault inside a block. -/
  | badBlock
  /-- A block that no template defines. -/
  | unknownBlock
  /-- A value that cannot be a key. -/
  | unusableKey
  deriving Repr, DecidableEq

namespace FaultKind

/-- The name of a kind. -/
def name : FaultKind → String
  | .malformed => "SyntaxError"
  | .badEscape => "BadEscape"
  | .undefined => "UndefinedError"
  | .invalidOperation => "InvalidOperation"
  | .cannotUnpack => "CannotUnpack"
  | .missingArgument => "MissingArgument"
  | .tooManyArguments => "TooManyArguments"
  | .unknownFilter => "UnknownFilter"
  | .unknownTest => "UnknownTest"
  | .unknownFunction => "UnknownFunction"
  | .unknownMethod => "UnknownMethod"
  | .missingTemplate => "TemplateNotFound"
  | .badInclude => "BadInclude"
  | .badBlock => "EvalBlock"
  | .unknownBlock => "UnknownBlock"
  | .unusableKey => "NonKey"

/-- A short description of a kind. -/
def message : FaultKind → String
  | .malformed => "malformed template"
  | .badEscape => "bad string escape"
  | .undefined => "undefined value"
  | .invalidOperation => "invalid operation"
  | .cannotUnpack => "cannot unpack"
  | .missingArgument => "missing argument"
  | .tooManyArguments => "too many arguments"
  | .unknownFilter => "unknown filter"
  | .unknownTest => "unknown test"
  | .unknownFunction => "unknown function"
  | .unknownMethod => "unknown method"
  | .missingTemplate => "template not found"
  | .badInclude => "could not render an included template"
  | .badBlock => "could not render block"
  | .unknownBlock => "unknown block"
  | .unusableKey => "not a usable key"

end FaultKind

/-- A fault of a template, with the line it is met on. -/
structure Fault where
  kind : FaultKind
  template : String
  line : Nat
  deriving Repr, DecidableEq

/-- The text of a fault. -/
def Fault.message (f : Fault) : String :=
  f.kind.message ++ " (in " ++ f.template ++ ":" ++ toString f.line ++ ")"

end SchemaGen.Template
