import SchemaGen.Proofs.Model.Decoding

/-!
# What a model defines

The five sections of a model hold values of two types. `Model.definition?` is
one view of them all: what a model has under a key of a section. An overlay
defines what the upper model does, else what the lower one does
(`definition?_overlay`), and ordered models with the same definitions are the
same (`Ordered.ext`).
-/

namespace SchemaGen

open SchemaGen.Yaml (Value)

/-- What a section has under a key. -/
inductive Definition where
  | value (v : Value)
  | entity (e : Entity)
  deriving Repr, DecidableEq

namespace Model

variable {m n : Model} {s : Section} {key : String}

/-- What the model has under a key of a section. -/
def definition? (m : Model) (s : Section) (key : String) : Option Definition :=
  match s with
  | .enums => (m.enums.get? key).map .value
  | .entities => (m.entities.get? key).map .entity
  | .types => (m.types.get? key).map .value
  | .metadata => (m.metadata.get? key).map .value
  | .targets => (m.targets.get? key).map .value

/-- A model has something under each of its keys, and only there. -/
theorem mem_keys_iff : key ∈ m.keys s ↔ (m.definition? s key).isSome = true := by
  cases s <;> simp [keys, definition?, Catalog.mem_names_iff_isSome]

theorem definition?_eq_none_iff : m.definition? s key = none ↔ key ∉ m.keys s := by
  rw [mem_keys_iff, Option.isSome_iff_ne_none, not_not]

/-! ## Overlays -/

/-- **What the upper model defines wins**, and nothing else decides. -/
theorem definition?_overlay (ordered : n.Ordered) :
    (m.overlay n).definition? s key = (n.definition? s key).or (m.definition? s key) := by
  cases s with
  | enums => simp [overlay, definition?, Catalog.get?_overlay ordered.enums, Option.map_or]
  | entities => simp [overlay, definition?, Catalog.get?_overlay ordered.entities, Option.map_or]
  | types => simp [overlay, definition?, Catalog.get?_overlay ordered.types, Option.map_or]
  | metadata => simp [overlay, definition?, Catalog.get?_overlay ordered.metadata, Option.map_or]
  | targets => simp [overlay, definition?, Catalog.get?_overlay ordered.targets, Option.map_or]

theorem Ordered.overlay (ordered : m.Ordered) (n : Model) : (m.overlay n).Ordered where
  enums := ordered.enums.overlay n.enums
  entities := ordered.entities.overlay n.entities
  types := ordered.types.overlay n.types
  metadata := ordered.metadata.overlay n.metadata
  targets := ordered.targets.overlay n.targets

/-! ## Keys -/

theorem Ordered.keys (ordered : m.Ordered) (s : Section) : (m.keys s).Pairwise (· < ·) := by
  cases s with
  | enums => exact ordered.enums
  | entities => exact ordered.entities
  | types => exact ordered.types
  | metadata => exact ordered.metadata
  | targets => exact ordered.targets

theorem mem_allKeys : (s, key) ∈ m.allKeys ↔ key ∈ m.keys s := by
  have listed : s ∈ Section.all := by cases s <;> decide
  simp [allKeys, listed]

/-- One key stands before another: by the order of the sections, then by name. -/
def KeyBefore (a b : Section × String) : Prop :=
  Section.all.idxOf a.1 < Section.all.idxOf b.1 ∨ a.1 = b.1 ∧ a.2 < b.2

theorem KeyBefore.ne {a b : Section × String} (before : KeyBefore a b) : a ≠ b := by
  rintro rfl
  rcases before with earlier | ⟨_, less⟩
  · exact Nat.lt_irrefl _ earlier
  · exact String.lt_irrefl _ less

/-- The keys of a model stand in their order. -/
theorem Ordered.allKeys (ordered : m.Ordered) : m.allKeys.Pairwise KeyBefore := by
  have sections : Section.all.Pairwise fun s t => Section.all.idxOf s < Section.all.idxOf t := by
    decide
  refine List.pairwise_flatMap.mpr ⟨fun s _ => ?_, sections.imp fun {s t} earlier => ?_⟩
  · exact List.pairwise_map.mpr ((ordered.keys s).imp fun less => .inr ⟨rfl, less⟩)
  · intro a here b there
    obtain ⟨_, _, rfl⟩ := List.mem_map.mp here
    obtain ⟨_, _, rfl⟩ := List.mem_map.mp there
    exact .inl earlier

theorem Ordered.nodup_allKeys (ordered : m.Ordered) : m.allKeys.Nodup :=
  ordered.allKeys.imp KeyBefore.ne

/-! ## Equal models -/

/-- Models that define the same are the same. -/
theorem Ordered.ext (first : m.Ordered) (second : n.Ordered)
    (same : ∀ s key, m.definition? s key = n.definition? s key) : m = n := by
  have plain : Function.Injective Definition.value := fun _ _ => Definition.value.inj
  have entity : Function.Injective Definition.entity := fun _ _ => Definition.entity.inj
  have enums := first.enums.ext second.enums fun key => Option.map_injective plain (same .enums key)
  have entities := first.entities.ext second.entities fun key =>
    Option.map_injective entity (same .entities key)
  have types := first.types.ext second.types fun key => Option.map_injective plain (same .types key)
  have metadata := first.metadata.ext second.metadata fun key =>
    Option.map_injective plain (same .metadata key)
  have targets := first.targets.ext second.targets fun key =>
    Option.map_injective plain (same .targets key)
  cases m
  cases n
  simp_all

end Model

end SchemaGen
