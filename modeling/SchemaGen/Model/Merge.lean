import SchemaGen.Error

/-!
# Merging fragments

Fragments are absorbed one after another. A key that a later fragment defines
again takes over its whole value, and the collision is recorded with the two
files. A fragment that cannot be read changes nothing.
-/

namespace SchemaGen

open SchemaGen.File

/-- A key that a later fragment has defined again. -/
structure Collision where
  part : Section
  key : String
  previous : FilePath
  winner : FilePath
  deriving Repr, DecidableEq

/-- The fragments absorbed so far. -/
structure Merge where
  model : Model := {}
  /-- The file that last defined each key. -/
  origins : List ((Section × String) × FilePath) := []
  collisions : List Collision := []
  deriving Repr, DecidableEq, Inhabited

/-- The outcome of merging. -/
structure Merged where
  model : Model
  collisions : List Collision
  deriving Repr, DecidableEq, Inhabited

namespace Model

/-- Every key with its section, in the order of the sections. -/
def allKeys (m : Model) : List (Section × String) :=
  Section.all.flatMap fun s => (m.keys s).map fun key => (s, key)

/-- Put another model over this one: what it defines wins. -/
def overlay (m n : Model) : Model :=
  { enums := m.enums.overlay n.enums
    entities := m.entities.overlay n.entities
    types := m.types.overlay n.types
    metadata := m.metadata.overlay n.metadata
    targets := m.targets.overlay n.targets }

end Model

namespace Fragment

/-- The part of the model that the fragment describes. -/
def decode (marker : String) (f : Fragment) : Except Error Model :=
  match f.body.entries? with
  | none => .error (.markerNotMapping f.path marker)
  | some body => (Decode.sections body).mapError (.invalidFragment f.path marker)

end Fragment

namespace Merge

/-- The collision of a key that a file defines, if it was defined before. -/
def collision? (m : Merge) (path : FilePath) (key : Section × String) : Option Collision :=
  (m.origins.lookup key).map fun previous => ⟨key.1, key.2, previous, path⟩

/-- Add what a file describes. -/
def add (m : Merge) (path : FilePath) (part : Model) : Merge :=
  { model := m.model.overlay part
    origins := part.allKeys.map (·, path) ++ m.origins
    collisions := m.collisions ++ part.allKeys.filterMap (m.collision? path) }

/-- Absorb one fragment. -/
def absorb (marker : String) (m : Merge) (f : Fragment) : Except Error Merge :=
  (f.decode marker).map (m.add f.path)

/-- The outcome, which needs at least one entity. -/
def finish (marker : String) (m : Merge) : Except Error Merged :=
  if m.model.entities.isEmpty then .error (.noEntities marker)
  else .ok ⟨m.model, m.collisions⟩

end Merge

/-- Merge fragments in their order. -/
def mergeFragments (marker : String) (fragments : List Fragment) : Except Error Merged := do
  (← fragments.foldlM (Merge.absorb marker) {}).finish marker

end SchemaGen
