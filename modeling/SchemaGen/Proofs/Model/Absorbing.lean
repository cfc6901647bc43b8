import SchemaGen.Proofs.Model.History

/-!
# Merging in place

A merger works on one merge and changes it key by key; when it fails, what it has changed so
far stays changed. It comes to what merging by values comes to (`run_absorb`,
`outcome_absorbAll`). The main result is `atomic_and_first_fault`: a fragment that is not
absorbed leaves no trace, so mergers may go on after it, and a merge that stops has the fault
of the first fragment that cannot be absorbed on its own.
-/

namespace SchemaGen

open SchemaGen.File
open SchemaGen.Yaml (Value)

/-- A program that works on a merge in place, and may fail on the way. -/
abbrev Merger := EStateM Error Merge

namespace Merger

/-- Record the file of a key, and the collision if the key has one already. -/
def track (path : FilePath) (key : Section × String) : Merger Unit :=
  modify fun m => { m with
    origins := (key, path) :: m.origins
    collisions := m.collisions ++ (m.collision? path key).toList }

/-- The place of a section in a model. -/
structure Slot (α : Type) where
  part : Section
  get : Model → Catalog α
  set : Model → Catalog α → Model
  get_set : ∀ m c, get (set m c) = c := by exact fun _ _ => rfl
  set_set : ∀ m c d, set (set m c) d = set m d := by exact fun _ _ _ => rfl
  set_get : ∀ m, set m (get m) = m := by exact fun _ => rfl

namespace Slot

/-- The place of the enumerations. -/
def enums : Slot Value where
  part := .enums
  get := (·.enums)
  set m c := { m with enums := c }

/-- The place of the entities. -/
def entities : Slot Entity where
  part := .entities
  get := (·.entities)
  set m c := { m with entities := c }

/-- The place of the types. -/
def types : Slot Value where
  part := .types
  get := (·.types)
  set m c := { m with types := c }

/-- The place of the metadata. -/
def metadata : Slot Value where
  part := .metadata
  get := (·.metadata)
  set m c := { m with metadata := c }

/-- The place of the targets. -/
def targets : Slot Value where
  part := .targets
  get := (·.targets)
  set m c := { m with targets := c }

end Slot

/-- Take over the entries of a section one by one, each of them tracked. -/
def takeOver {α : Type} (path : FilePath) (slot : Slot α) (part : Model) : Merger Unit :=
  (slot.get part).entries.forM fun e => do
    track path (slot.part, e.1)
    modify fun m => { m with model := slot.set m.model ((slot.get m.model).insert e.1 e.2) }

/-- Take over all sections in turn. -/
def takeIn (path : FilePath) (part : Model) : Merger Unit := do
  takeOver path .enums part
  takeOver path .entities part
  takeOver path .types part
  takeOver path .metadata part
  takeOver path .targets part

/-- Absorb one fragment: read it, then take over what it describes. -/
def absorb (marker : String) (f : Fragment) : Merger Unit := do
  let part ← ofExcept (f.decode marker)
  takeIn f.path part

/-- Absorb fragments in turn, up to the first that fails. -/
def absorbAll (marker : String) (fragments : List Fragment) : Merger Unit :=
  fragments.forM (absorb marker)

/-- Absorb fragments in turn and pass over those that fail. -/
def absorbFitting (marker : String) (fragments : List Fragment) : Merger Unit :=
  fragments.forM fun f => tryCatch (absorb marker f) fun _ => pure ()

/-- What comes of a new merger that works so and is then closed. -/
def outcome (marker : String) (work : Merger Unit) : Except Error Merged :=
  match work.run {} with
  | .ok _ m => m.finish marker
  | .error e _ => .error e

/-! ## Keys taken over -/

variable {α : Type} {path : FilePath} {marker : String}

/-- The program takes over these keys and changes the model so: no key has a collision but
those that had a file before, and all of them are from the new file afterwards. -/
def Takes (path : FilePath) (keys : List (Section × String)) (change : Model → Model)
    (work : Merger Unit) : Prop :=
  ∀ m, ∃ m', work.run m = .ok () m' ∧ m'.model = change m.model ∧
    m'.collisions = m.collisions ++ keys.filterMap (m.collision? path) ∧
    ∀ key, m'.origins.lookup key = if key ∈ keys then some path else m.origins.lookup key

theorem takes_nothing : Takes path [] id (pure ()) :=
  fun m => ⟨m, rfl, rfl, by simp, by simp⟩

/-- One program after another takes over the keys of both, if they have none in common. -/
theorem Takes.bind {keys keys' : List (Section × String)} {change change' : Model → Model}
    {work work' : Merger Unit} (first : Takes path keys change work)
    (second : Takes path keys' change' work') (apart : ∀ key ∈ keys', key ∉ keys) :
    Takes path (keys ++ keys') (change' ∘ change) (do work; work') := by
  intro m
  obtain ⟨m₁, run₁, model₁, collisions₁, origins₁⟩ := first m
  obtain ⟨m₂, run₂, model₂, collisions₂, origins₂⟩ := second m₁
  refine ⟨m₂, ?_, ?_, ?_, fun key => ?_⟩
  · rw [EStateM.run_bind, run₁]
    exact run₂
  · rw [model₂, model₁, Function.comp_apply]
  · -- The first program has not touched the keys of the second.
    have same : keys'.filterMap (m₁.collision? path) = keys'.filterMap (m.collision? path) := by
      refine List.filterMap_congr fun key member => ?_
      rw [Merge.collision?, Merge.collision?, origins₁, if_neg (apart key member)]
    rw [collisions₂, collisions₁, same, List.filterMap_append, List.append_assoc]
  · rw [origins₂, origins₁]
    by_cases late : key ∈ keys'
    · simp [late]
    · simp [late]

theorem takes_track (key : Section × String) (change : Model → Model) :
    Takes path [key] change (do
      track path key
      modify fun m => { m with model := change m.model }) := by
  intro m
  refine ⟨_, rfl, rfl, ?_, fun k => ?_⟩
  · cases collided : m.collision? path key <;> simp [collided]
  · rw [List.lookup_cons]
    by_cases here : k = key
    · simp [here]
    · simp [here, beq_eq_false_iff_ne.mpr here]

/-- **Taking over a section** lays it over the one that is there. -/
theorem takes_takeOver (slot : Slot α) {part : Model} (ascending : (slot.get part).Ascending) :
    Takes path ((slot.get part).names.map (slot.part, ·))
      (fun m => slot.set m ((slot.get m).overlay (slot.get part))) (takeOver path slot part) := by
  have distinct : ((slot.get part).entries.map (·.1)).Nodup := ascending.nodup
  unfold takeOver Catalog.names Catalog.overlay
  generalize (slot.get part).entries = entries at distinct ⊢
  induction entries with
  | nil =>
    have idle : (fun m => slot.set m (slot.get m)) = id := funext slot.set_get
    simp only [List.map_nil, List.foldl_nil, idle]
    exact takes_nothing
  | cons e rest ih =>
    obtain ⟨new, distinct⟩ := List.nodup_cons.mp distinct
    have apart : ∀ key ∈ (rest.map (·.1)).map (slot.part, ·), key ∉ [(slot.part, e.1)] := by
      intro key member same
      obtain rfl := List.mem_singleton.mp same
      obtain ⟨name, there, pair⟩ := List.mem_map.mp member
      cases pair
      exact new there
    have both := (takes_track (slot.part, e.1)
      fun m => slot.set m ((slot.get m).insert e.1 e.2)).bind (ih distinct) apart
    simp only [Function.comp_def, slot.get_set, slot.set_set] at both
    exact both

/-- **Taking in a model** lays it over the one that is there. -/
theorem takes_takeIn (path : FilePath) {part : Model} (ordered : part.Ordered) :
    Takes path part.allKeys (·.overlay part) (takeIn path part) := by
  have keys : part.allKeys =
      part.enums.names.map (Section.enums, ·) ++ (part.entities.names.map (Section.entities, ·) ++
        (part.types.names.map (Section.types, ·) ++
          (part.metadata.names.map (Section.metadata, ·) ++
            part.targets.names.map (Section.targets, ·)))) := by
    simp [Model.allKeys, Section.all, Model.keys]
  rw [keys]
  -- Keys of different sections are different.
  refine (takes_takeOver .enums ordered.enums).bind
    ((takes_takeOver .entities ordered.entities).bind ((takes_takeOver .types ordered.types).bind
      ((takes_takeOver .metadata ordered.metadata).bind
        (takes_takeOver .targets ordered.targets) ?_) ?_) ?_) ?_ <;>
  · intro key late early
    simp only [List.mem_append, List.mem_map, Slot.enums, Slot.entities, Slot.types, Slot.metadata,
      Slot.targets] at late early
    grind

/-! ## Fragments absorbed -/

theorem run_absorb_error {f : Fragment} {e : Error} (rejected : f.decode marker = .error e)
    (m : Merge) : (absorb marker f).run m = .error e m := by
  rw [absorb, rejected]
  rfl

theorem run_absorb_ok {f : Fragment} {part : Model} (decoded : f.decode marker = .ok part)
    (m : Merge) : (absorb marker f).run m = (takeIn f.path part).run m := by
  rw [absorb, decoded]
  rfl

/-- A fragment is absorbed just if it can be read, whatever was absorbed before. -/
theorem exists_run_absorb_ok_iff {f : Fragment} {m : Merge} :
    (∃ m', (absorb marker f).run m = .ok () m') ↔ (f.decode marker).isOk = true := by
  cases decoded : f.decode marker with
  | error e =>
    rw [run_absorb_error decoded]
    exact ⟨nofun, nofun⟩
  | ok part =>
    obtain ⟨m', run, _⟩ := takes_takeIn f.path (Fragment.ordered_of_decode decoded) m
    rw [run_absorb_ok decoded]
    exact ⟨fun _ => rfl, fun _ => ⟨m', run⟩⟩

/-- The merges have the same model and collisions, and the files of all keys are the same. -/
structure Like (m n : Merge) : Prop where
  model : m.model = n.model
  collisions : m.collisions = n.collisions
  origins : ∀ key, m.origins.lookup key = n.origins.lookup key

/-- **Absorbing in place** comes to what absorbing by values comes to. -/
theorem run_absorb (marker : String) (f : Fragment) {m n : Merge} (like : Like m n) :
    match n.absorb marker f with
    | .ok n' => ∃ m', (absorb marker f).run m = .ok () m' ∧ Like m' n'
    | .error e => (absorb marker f).run m = .error e m := by
  cases decoded : f.decode marker with
  | error e =>
    simp only [Merge.absorb, decoded]
    exact run_absorb_error decoded m
  | ok part =>
    have ordered := Fragment.ordered_of_decode decoded
    obtain ⟨m', run, model, collisions, origins⟩ := takes_takeIn f.path ordered m
    simp only [Merge.absorb, decoded]
    refine ⟨m', (run_absorb_ok decoded m).trans run, ?_, ?_, fun key => ?_⟩
    · rw [model, like.model]
      rfl
    · have same : m.collision? f.path = n.collision? f.path := by
        funext key
        rw [Merge.collision?, Merge.collision?, like.origins]
      rw [collisions, like.collisions, same]
      rfl
    · rw [origins, like.origins]
      change _ = (part.allKeys.map (·, f.path) ++ n.origins).lookup key
      rw [List.lookup_append, Merge.lookup_map_path]
      split <;> rfl

theorem run_absorbAll (marker : String) (fragments : List Fragment) {m n : Merge}
    (like : Like m n) :
    match fragments.foldlM (Merge.absorb marker) n with
    | .ok n' => ∃ m', (absorbAll marker fragments).run m = .ok () m' ∧ Like m' n'
    | .error e => ∃ m', (absorbAll marker fragments).run m = .error e m' := by
  induction fragments generalizing m n with
  | nil => exact ⟨m, rfl, like⟩
  | cons f rest ih =>
    have first := run_absorb marker f like
    have program : absorbAll marker (f :: rest) = (do absorb marker f; absorbAll marker rest) := rfl
    rw [List.foldlM_cons, program]
    cases absorbed : n.absorb marker f with
    | error e =>
      rw [absorbed] at first
      refine ⟨m, ?_⟩
      rw [EStateM.run_bind, first]
    | ok n₁ =>
      rw [absorbed] at first
      obtain ⟨m₁, run, like₁⟩ := first
      rw [EStateM.run_bind, run]
      exact ih like₁

/-- **Merging in place** has the outcome of merging by values. -/
theorem outcome_absorbAll (marker : String) (fragments : List Fragment) :
    outcome marker (absorbAll marker fragments) = mergeFragments marker fragments := by
  have all := run_absorbAll marker fragments (m := {}) (n := {}) ⟨rfl, rfl, fun _ => rfl⟩
  unfold mergeFragments outcome
  cases absorbed : fragments.foldlM (Merge.absorb marker) {} with
  | error e =>
    rw [absorbed] at all
    obtain ⟨m, run⟩ := all
    rw [run]
    rfl
  | ok n =>
    rw [absorbed] at all
    obtain ⟨m, run, like⟩ := all
    rw [run]
    change m.finish marker = n.finish marker
    rw [Merge.finish, Merge.finish, like.model, like.collisions]

/-- A fault that is passed over ends nothing, and leaves what was there at that point. -/
theorem run_passOver (work : Merger Unit) (m : Merge) :
    (tryCatch work fun _ => pure ()).run m =
      match work.run m with
      | .ok _ m' => .ok () m'
      | .error _ m' => .ok () m' := by
  change EStateM.tryCatch work (fun _ => pure ()) m = _
  rw [EStateM.tryCatch, EStateM.run]
  cases work m <;> rfl

/-- **Passing over faults** comes to absorbing what can be absorbed. -/
theorem absorbFitting_eq (marker : String) (fragments : List Fragment) :
    absorbFitting marker fragments =
      absorbAll marker (fragments.filter fun f => (f.decode marker).isOk) := by
  induction fragments with
  | nil => rfl
  | cons f rest ih =>
    have program : absorbFitting marker (f :: rest) =
        (do tryCatch (absorb marker f) (fun _ => pure ()); absorbFitting marker rest) := rfl
    rw [program, ih]
    funext m
    change EStateM.run _ m = EStateM.run (absorbAll marker _) m
    rw [EStateM.run_bind, run_passOver]
    cases decoded : f.decode marker with
    | error e =>
      -- The merge is the same after the fault, so the rest goes on from it.
      rw [List.filter_cons_of_neg (by rw [decoded]; exact Bool.false_ne_true),
        run_absorb_error decoded]
    | ok part =>
      obtain ⟨m', run, _⟩ := takes_takeIn f.path (Fragment.ordered_of_decode decoded) m
      have kept : absorbAll marker (f :: rest.filter fun f => (f.decode marker).isOk) =
          (do absorb marker f
              absorbAll marker (rest.filter fun f => (f.decode marker).isOk)) := rfl
      rw [List.filter_cons_of_pos (by rw [decoded]; rfl), kept, EStateM.run_bind,
        run_absorb_ok decoded, run]

end Merger

/-! ## Faults -/

namespace Fragment

/-- Is the fragment accepted on its own, by a new merger? -/
def accepted (marker : String) (f : Fragment) : Bool :=
  match (Merger.absorb marker f).run {} with
  | .ok _ _ => true
  | .error _ _ => false

/-- The fragment is rejected on its own, by a new merger, with this fault. -/
def Rejected (marker : String) (f : Fragment) (e : Error) : Prop :=
  ∃ m, (Merger.absorb marker f).run {} = .error e m

variable {marker : String} {f : Fragment}

theorem accepted_eq : f.accepted marker = (f.decode marker).isOk := by
  have alone : (∃ m, (Merger.absorb marker f).run {} = .ok () m) ↔ (f.decode marker).isOk = true :=
    Merger.exists_run_absorb_ok_iff
  rw [Bool.eq_iff_iff, ← alone, accepted]
  cases (Merger.absorb marker f).run {} <;> simp

theorem accepted_iff_reads : f.accepted marker = true ↔ f.Reads marker := by
  rw [accepted_eq, Reads]
  cases f.decode marker with
  | ok part => exact ⟨fun _ => ⟨part, rfl⟩, fun _ => rfl⟩
  | error e => exact ⟨nofun, nofun⟩

theorem rejected_iff {e : Error} : f.Rejected marker e ↔ f.decode marker = .error e := by
  cases decoded : f.decode marker with
  | error e' =>
    rw [Rejected, Merger.run_absorb_error decoded]
    constructor
    · rintro ⟨_, same⟩
      cases same
      rfl
    · rintro same
      cases same
      exact ⟨_, rfl⟩
  | ok part =>
    refine ⟨?_, nofun⟩
    rintro ⟨m, failed⟩
    obtain ⟨m', run⟩ := Merger.exists_run_absorb_ok_iff.mpr (congrArg Except.isOk decoded)
    rw [run] at failed
    cases failed

end Fragment

/-- What a merge of fragments comes to, told by what each of them comes to on its own. -/
structure FirstFault (marker : String) (fragments : List Fragment)
    (outcome : Except Error Merged) : Prop where
  /-- The first fragment that is rejected stops it with its fault, whatever the others are. -/
  stopped : ∀ before f after e, fragments = before ++ f :: after →
    (∀ g ∈ before, g.accepted marker = true) → f.Rejected marker e → outcome = .error e
  /-- There is nothing to merge just if all are accepted and none has an entity. -/
  noEntities : outcome = .error (.noEntities marker) ↔
    (∀ f ∈ fragments, f.accepted marker = true) ∧ entityNames marker fragments = []
  /-- In all other cases it succeeds. -/
  succeeds : (∃ merged, outcome = .ok merged) ↔
    (∀ f ∈ fragments, f.accepted marker = true) ∧ entityNames marker fragments ≠ []

theorem firstFault_mergeFragments (marker : String) (fragments : List Fragment) :
    FirstFault marker fragments (mergeFragments marker fragments) where
  stopped := by
    rintro before f after e rfl accepted rejected
    exact mergeFragments_of_rejected
      (fun g member => Fragment.accepted_iff_reads.mp (accepted g member))
      (Fragment.rejected_iff.mp rejected)
  noEntities := by
    simp only [Fragment.accepted_iff_reads]
    exact mergeFragments_eq_noEntities_iff
  succeeds := by
    simp only [Fragment.accepted_iff_reads]
    constructor
    · rintro ⟨merged, done⟩
      exact ⟨reads_of_mergeFragments done, entityNames_ne_nil done⟩
    · rintro ⟨reads, named⟩
      exact mergeFragments_ok reads named

/-- **Absorbing is all or nothing, and the first fault counts.** A fragment that is not
absorbed leaves the merge as it was, whatever the merge is, and its fault is its own; so going
on after faults comes to absorbing the fragments that are accepted, in place and in the end;
and a merge that stops at faults has that of the first fragment that is rejected on its own. -/
theorem atomic_and_first_fault (marker : String) :
    (∀ f m m' e, (Merger.absorb marker f).run m = .error e m' →
      m' = m ∧ (∀ n, (Merger.absorb marker f).run n = .error e n) ∧
        (e = .markerNotMapping f.path marker ∨
          ∃ misfit, e = .invalidFragment f.path marker misfit)) ∧
    (∀ fragments, Merger.absorbFitting marker fragments =
      Merger.absorbAll marker (fragments.filter (·.accepted marker))) ∧
    (∀ fragments, Merger.outcome marker (Merger.absorbFitting marker fragments) =
      mergeFragments marker (fragments.filter (·.accepted marker))) ∧
    ∀ fragments, FirstFault marker fragments (mergeFragments marker fragments) := by
  have fitting : ∀ fragments, Merger.absorbFitting marker fragments =
      Merger.absorbAll marker (fragments.filter (·.accepted marker)) := by
    intro fragments
    rw [Merger.absorbFitting_eq]
    simp only [Fragment.accepted_eq]
  refine ⟨?_, fitting, fun fragments => ?_, firstFault_mergeFragments marker⟩
  · intro f m m' e failed
    cases decoded : f.decode marker with
    | error e' =>
      rw [Merger.run_absorb_error decoded] at failed
      cases failed
      exact ⟨rfl, Merger.run_absorb_error decoded, f.fault_of_decode decoded⟩
    | ok part =>
      obtain ⟨m₁, run⟩ := Merger.exists_run_absorb_ok_iff.mpr (congrArg Except.isOk decoded)
      rw [run] at failed
      cases failed
  · rw [fitting, Merger.outcome_absorbAll]

/-! ## A cellar -/

/-- What the cellar has. -/
def cellar : Fragment :=
  ⟨⟨"cellar.yaml"⟩, .map [(.str "entities", .map [(.str "Wine", .null)])]⟩

/-- A file whose second section is none. -/
def spill : Fragment :=
  ⟨⟨"spill.yaml"⟩, .map [(.str "entities", .map [(.str "Water", .null)]), (.str "types", .int 1)]⟩

/-- What is wrong with the spill. -/
def spillFault : Error :=
  .invalidFragment ⟨"spill.yaml"⟩ "cellar" (.wrongType (.int 1) .sectionMap)

theorem atomic_and_first_fault_cellar :
    mergeFragments "cellar" [cellar, spill, cellar] = .error spillFault ∧
    Merger.outcome "cellar" (Merger.absorbFitting "cellar" [cellar, spill, cellar]) =
      mergeFragments "cellar" [cellar, cellar] := by
  obtain ⟨_, _, fitting, faults⟩ := atomic_and_first_fault "cellar"
  refine ⟨(faults _).stopped [cellar] spill [cellar] spillFault rfl ?_ ?_, ?_⟩
  · intro g member
    obtain rfl := List.mem_singleton.mp member
    decide +kernel
  · exact Fragment.rejected_iff.mpr (by decide +kernel)
  · rw [fitting]
    have kept : [cellar, spill, cellar].filter (·.accepted "cellar") = [cellar, cellar] := by
      decide +kernel
    rw [kept]

end SchemaGen
