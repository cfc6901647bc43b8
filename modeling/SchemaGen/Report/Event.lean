import SchemaGen.Model.Merge

/-!
# Events

What a run tells its observer: the stages it passes and the collisions that it
found while merging.
-/

namespace SchemaGen

open SchemaGen.File

/-- A stage of a run. -/
inductive Stage where
  | idle
  | discovered (fragments : Nat)
  | merged (entities : Nat)
  | validated
  | contextsBuilt (count : Nat)
  | rendering (entity : String) (kind : OutputKind)
  | written (path : FilePath)
  | done (entities : Nat)
  | failed (message : String)
  deriving Repr, DecidableEq

/-- An event of a run. -/
inductive Event where
  | stage (s : Stage)
  | collision (c : Collision)
  deriving Repr, DecidableEq

end SchemaGen
