import SchemaGen.Report.Event
import SchemaGen.Text.Quoted

/-!
# Log lines

The lines in which events and other steps are logged. Paths and settings are
quoted, keys and counts stand as they are.
-/

namespace SchemaGen

open SchemaGen.File SchemaGen.Text

/-- How important a line is. -/
inductive Level where
  | debug
  | info
  deriving Repr, DecidableEq

/-- The name of a level. -/
def Level.name : Level → String
  | .debug => "DEBUG"
  | .info => "INFO"

/-- A log line: a message and named fields. -/
structure LogLine where
  level : Level
  message : String
  fields : List (String × String)
  deriving Repr, DecidableEq

/-- A path in quotes. -/
def quotedPath (p : FilePath) : String :=
  quoteIn pathStyle p.text

/-- A structure with one number. -/
def numbered (name field : String) (n : Nat) : String :=
  name ++ " \x7b " ++ field ++ ": " ++ toString n ++ " \x7d"

/-- The line of a stage. -/
def Stage.log : Stage → LogLine
  | .idle => ⟨.debug, "Pipeline stage", [("stage", "Idle")]⟩
  | .discovered n =>
    ⟨.debug, "Pipeline stage", [("stage", numbered "Discovered" "fragments" n)]⟩
  | .merged n => ⟨.debug, "Pipeline stage", [("stage", numbered "Merged" "entities" n)]⟩
  | .validated => ⟨.debug, "Pipeline stage", [("stage", "Validated")]⟩
  | .contextsBuilt n =>
    ⟨.debug, "Pipeline stage", [("stage", numbered "ContextsBuilt" "count" n)]⟩
  | .rendering entity kind => ⟨.debug, "Rendering", [("entity", entity), ("kind", kind.key)]⟩
  | .written path => ⟨.debug, "Written", [("path", quotedPath path)]⟩
  | .done n => ⟨.info, "✨ Generation finished", [("entities", toString n)]⟩
  | .failed message => ⟨.debug, message, []⟩

/-- The line of a collision. -/
def Collision.log (c : Collision) : LogLine :=
  ⟨.info, "Key redefined, last fragment wins",
    [("section", c.part.name), ("key", c.key), ("previous", quotedPath c.previous),
      ("winner", quotedPath c.winner)]⟩

/-- The line of an event. -/
def Event.log : Event → LogLine
  | .stage s => s.log
  | .collision c => c.log

end SchemaGen
