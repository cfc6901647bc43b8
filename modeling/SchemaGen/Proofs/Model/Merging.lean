import SchemaGen.Model.Merge
import SchemaGen.Proofs.Model.Catalogs

/-!
# What merging keeps

A merge reads every fragment: if one cannot be read there is no merge at all
(`reads_of_mergeFragments`). The entities of the merged model are those that the
fragments name, each once and in the order of their names
(`mem_names_mergeFragments`, `ascending_mergeFragments`). Both come from one
invariant of absorbing, `Merge.Gathers`.
-/

namespace SchemaGen

open SchemaGen.File

namespace Fragment

/-- Can the fragment be read? -/
def Reads (marker : String) (f : Fragment) : Prop :=
  ∃ part, f.decode marker = .ok part

/-- The names of the entities that the fragment defines. One that cannot be read
defines none. -/
def entityNames (marker : String) (f : Fragment) : List String :=
  match f.decode marker with
  | .ok part => part.entities.names
  | .error _ => []

end Fragment

/-- The names of all entities that the fragments define, as often as they do. -/
def entityNames (marker : String) (fragments : List Fragment) : List String :=
  fragments.flatMap (·.entityNames marker)

namespace Merge

variable {marker : String} {m m' : Merge}

/-! ## Absorbing -/

theorem absorb_eq_ok {f : Fragment} (absorbed : m.absorb marker f = .ok m') :
    ∃ part, f.decode marker = .ok part ∧ m' = m.add f.path part := by
  unfold absorb at absorbed
  cases decoded : f.decode marker with
  | error e =>
    rw [decoded] at absorbed
    cases absorbed
  | ok part =>
    rw [decoded] at absorbed
    exact ⟨part, rfl, (Except.ok.inj absorbed).symm⟩

/-- A fragment is absorbed just if it can be read. -/
theorem exists_absorb_ok_iff {f : Fragment} :
    (∃ m', m.absorb marker f = .ok m') ↔ f.Reads marker := by
  unfold absorb Fragment.Reads
  cases f.decode marker <;> simp [Except.map]

theorem absorb_eq_error_iff {f : Fragment} {e : Error} :
    m.absorb marker f = .error e ↔ f.decode marker = .error e := by
  unfold absorb
  cases f.decode marker <;> simp [Except.map]

/-- **Induction over a merge.** What holds of the fragments absorbed so far, and
is kept by each one more, holds of all in the end. -/
theorem foldlM_absorb_induction {P : List Fragment → Merge → Prop} {fragments : List Fragment}
    (step : ∀ before f m m', P before m → m.absorb marker f = .ok m' → P (before ++ [f]) m')
    {before : List Fragment} (start : P before m)
    (absorbed : fragments.foldlM (absorb marker) m = .ok m') : P (before ++ fragments) m' := by
  induction fragments generalizing before m with
  | nil =>
    cases absorbed
    simpa using start
  | cons f rest ih =>
    rw [List.foldlM_cons] at absorbed
    cases first : m.absorb marker f with
    | error e =>
      rw [first] at absorbed
      cases absorbed
    | ok m₁ =>
      rw [first] at absorbed
      have whole := ih (step before f m m₁ start first) absorbed
      rwa [List.append_assoc] at whole

/-- What a merge knows of the fragments it has absorbed: all can be read, and
its entities are theirs. -/
structure Gathers (marker : String) (absorbed : List Fragment) (m : Merge) : Prop where
  reads : ∀ f ∈ absorbed, f.Reads marker
  names : ∀ n, n ∈ m.model.entities.names ↔ n ∈ entityNames marker absorbed
  ascending : m.model.entities.Ascending

namespace Gathers

theorem start : Gathers marker [] {} where
  reads := by simp
  names := by simp [entityNames, Catalog.names]
  ascending := Catalog.ascending_empty

theorem absorb {before : List Fragment} {f : Fragment} (gathers : Gathers marker before m)
    (absorbed : m.absorb marker f = .ok m') : Gathers marker (before ++ [f]) m' := by
  obtain ⟨part, decoded, rfl⟩ := absorb_eq_ok absorbed
  have entities : (m.add f.path part).model.entities = m.model.entities.overlay part.entities := rfl
  refine ⟨?_, fun n => ?_, ?_⟩
  · intro g member
    rcases List.mem_append.mp member with member | member
    · exact gathers.reads g member
    · exact List.mem_singleton.mp member ▸ ⟨part, decoded⟩
  · have here : f.entityNames marker = part.entities.names := by
      rw [Fragment.entityNames, decoded]
    rw [entities, Catalog.mem_names_overlay, gathers.names]
    simp [entityNames, here]
  · rw [entities]
    exact gathers.ascending.overlay part.entities

end Gathers

end Merge

/-! ## Merging -/

section

variable {marker : String} {fragments : List Fragment} {merged : Merged}

theorem mergeFragments_eq_ok (done : mergeFragments marker fragments = .ok merged) :
    ∃ m : Merge, fragments.foldlM (Merge.absorb marker) {} = .ok m ∧
      m.model.entities.isEmpty = false ∧ merged = ⟨m.model, m.collisions⟩ := by
  unfold mergeFragments at done
  cases absorbed : fragments.foldlM (Merge.absorb marker) {} with
  | error e =>
    rw [absorbed] at done
    cases done
  | ok m =>
    rw [absorbed] at done
    change m.finish marker = .ok merged at done
    unfold Merge.finish at done
    split at done
    · cases done
    · rename_i filled
      exact ⟨m, rfl, by simpa using filled, (Except.ok.inj done).symm⟩

private theorem gathers_of_mergeFragments (done : mergeFragments marker fragments = .ok merged) :
    ∃ m : Merge, m.Gathers marker fragments ∧ m.model = merged.model := by
  obtain ⟨m, absorbed, _, rfl⟩ := mergeFragments_eq_ok done
  have all := Merge.foldlM_absorb_induction (fun _ _ _ _ gathers => gathers.absorb)
    Merge.Gathers.start absorbed
  exact ⟨m, all, rfl⟩

/-- A merge reads every fragment. -/
theorem reads_of_mergeFragments (done : mergeFragments marker fragments = .ok merged) :
    ∀ f ∈ fragments, f.Reads marker :=
  have ⟨_, gathers, _⟩ := gathers_of_mergeFragments done
  gathers.reads

/-- **Merging loses no entity** and makes up none. -/
theorem mem_names_mergeFragments (done : mergeFragments marker fragments = .ok merged)
    (n : String) : n ∈ merged.model.entities.names ↔ n ∈ entityNames marker fragments := by
  obtain ⟨m, gathers, model⟩ := gathers_of_mergeFragments done
  rw [← model]
  exact gathers.names n

theorem ascending_mergeFragments (done : mergeFragments marker fragments = .ok merged) :
    merged.model.entities.Ascending := by
  obtain ⟨m, gathers, model⟩ := gathers_of_mergeFragments done
  rw [← model]
  exact gathers.ascending

/-- A merge has as many entities as the fragments have different names. -/
theorem size_mergeFragments (done : mergeFragments marker fragments = .ok merged) :
    merged.model.entities.size = (entityNames marker fragments).dedup.length :=
  (ascending_mergeFragments done).size_eq (mem_names_mergeFragments done)

/-- A merge has an entity. -/
theorem entityNames_ne_nil (done : mergeFragments marker fragments = .ok merged) :
    entityNames marker fragments ≠ [] := by
  have names := mem_names_mergeFragments done
  obtain ⟨m, _, filled, rfl⟩ := mergeFragments_eq_ok done
  rw [Catalog.isEmpty, List.isEmpty_eq_false_iff] at filled
  obtain ⟨e, rest, entries⟩ := List.exists_cons_of_ne_nil filled
  exact List.ne_nil_of_mem ((names e.1).mp (by simp [Catalog.names, entries]))

end

/-! ## What a merge comes to -/

theorem foldlM_absorb_ok {marker : String} {fragments : List Fragment}
    (reads : ∀ f ∈ fragments, f.Reads marker) (m : Merge) :
    ∃ m', fragments.foldlM (Merge.absorb marker) m = .ok m' := by
  induction fragments generalizing m with
  | nil => exact ⟨m, rfl⟩
  | cons f rest ih =>
    obtain ⟨part, decoded⟩ := reads f List.mem_cons_self
    obtain ⟨m', absorbed⟩ := ih (fun g member => reads g (List.mem_cons_of_mem f member))
      (m.add f.path part)
    refine ⟨m', ?_⟩
    rw [List.foldlM_cons, Merge.absorb, decoded]
    exact absorbed

/-- A merge succeeds if every fragment can be read and one names an entity. -/
theorem mergeFragments_ok {marker : String} {fragments : List Fragment}
    (reads : ∀ f ∈ fragments, f.Reads marker) (named : entityNames marker fragments ≠ []) :
    ∃ merged, mergeFragments marker fragments = .ok merged := by
  obtain ⟨m, absorbed⟩ := foldlM_absorb_ok reads {}
  have gathers : m.Gathers marker ([] ++ fragments) :=
    Merge.foldlM_absorb_induction (fun _ _ _ _ gathers => gathers.absorb) Merge.Gathers.start
      absorbed
  obtain ⟨n, member⟩ := List.exists_mem_of_ne_nil _ named
  have there : n ∈ m.model.entities.names := (gathers.names n).mpr member
  have filled : m.model.entities.isEmpty = false := by
    rw [Catalog.isEmpty, List.isEmpty_eq_false_iff]
    intro empty
    simp [Catalog.names, empty] at there
  refine ⟨⟨m.model, m.collisions⟩, ?_⟩
  rw [mergeFragments, absorbed]
  change m.finish marker = _
  rw [Merge.finish, if_neg (by simp [filled])]

/-- Where not all fragments can be read, one is the first that cannot. -/
theorem exists_first_rejected {marker : String} {fragments : List Fragment}
    (fault : ¬ ∀ f ∈ fragments, f.Reads marker) :
    ∃ before f after e, fragments = before ++ f :: after ∧ (∀ g ∈ before, g.Reads marker) ∧
      f.decode marker = .error e := by
  induction fragments with
  | nil => exact absurd (fun f member => nomatch member) fault
  | cons f rest ih =>
    cases decoded : f.decode marker with
    | error e => exact ⟨[], f, rest, e, rfl, nofun, decoded⟩
    | ok part =>
      have later : ¬ ∀ g ∈ rest, g.Reads marker := fun all =>
        fault (List.forall_mem_cons.mpr ⟨⟨part, decoded⟩, all⟩)
      obtain ⟨before, g, after, e, rfl, reads, rejected⟩ := ih later
      exact ⟨f :: before, g, after, e, rfl, List.forall_mem_cons.mpr ⟨⟨part, decoded⟩, reads⟩,
        rejected⟩

/-- A merge stops at the first fragment that cannot be read, with its fault. -/
theorem mergeFragments_of_rejected {marker : String} {before after : List Fragment} {f : Fragment}
    {e : Error} (reads : ∀ g ∈ before, g.Reads marker) (rejected : f.decode marker = .error e) :
    mergeFragments marker (before ++ f :: after) = .error e := by
  obtain ⟨m, absorbed⟩ := foldlM_absorb_ok reads {}
  rw [mergeFragments, List.foldlM_append, absorbed]
  change ((f :: after).foldlM (Merge.absorb marker) m >>= Merge.finish marker) = .error e
  rw [List.foldlM_cons, Merge.absorb, rejected]
  rfl

/-- The fault of a fragment names its file. -/
theorem Fragment.fault_of_decode {marker : String} {f : Fragment} {e : Error}
    (rejected : f.decode marker = .error e) :
    e = .markerNotMapping f.path marker ∨ ∃ misfit, e = .invalidFragment f.path marker misfit := by
  unfold decode at rejected
  split at rejected
  · exact .inl (Except.error.inj rejected).symm
  · rename_i body _
    cases read : Decode.sections body with
    | error misfit =>
      rw [read] at rejected
      exact .inr ⟨misfit, (Except.error.inj rejected).symm⟩
    | ok m =>
      rw [read] at rejected
      cases rejected

/-- A merge fails for want of entities just if all fragments can be read and none has one. -/
theorem mergeFragments_eq_noEntities_iff {marker : String} {fragments : List Fragment} :
    mergeFragments marker fragments = .error (.noEntities marker) ↔
      (∀ f ∈ fragments, f.Reads marker) ∧ entityNames marker fragments = [] := by
  constructor
  · intro failed
    have reads : ∀ f ∈ fragments, f.Reads marker := by
      by_contra fault
      obtain ⟨before, f, after, e, rfl, reads, rejected⟩ := exists_first_rejected fault
      rw [mergeFragments_of_rejected reads rejected] at failed
      cases failed
      rcases Fragment.fault_of_decode rejected with other | ⟨_, other⟩ <;> cases other
    refine ⟨reads, Decidable.byContradiction fun named => ?_⟩
    obtain ⟨merged, done⟩ := mergeFragments_ok reads named
    rw [done] at failed
    cases failed
  · rintro ⟨reads, none⟩
    cases outcome : mergeFragments marker fragments with
    | ok merged => exact absurd none (entityNames_ne_nil outcome)
    | error e =>
      obtain ⟨m, absorbed⟩ := foldlM_absorb_ok reads {}
      rw [mergeFragments, absorbed] at outcome
      change m.finish marker = .error e at outcome
      unfold Merge.finish at outcome
      split at outcome
      · exact outcome.symm ▸ rfl
      · cases outcome

/-! ## Wanted kinds -/

/-- The wanted kinds are some of all kinds, in their order. -/
theorem Model.sublist_outputs (m : Model) : m.outputs.Sublist OutputKind.all := by
  unfold outputs
  split
  · exact List.filter_sublist
  · exact List.Sublist.refl _

end SchemaGen
