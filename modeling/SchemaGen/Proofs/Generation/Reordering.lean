import SchemaGen.Generation
import SchemaGen.Proofs.Model.History

/-!
# Fragments in another order

What a fragment describes is in its body alone; its path is only named in errors
and collisions. Where no key is defined twice there is one definer at most for
each key, so neither the order of the fragments nor their files matter
(`definition?_eq_some_iff`): fragments with the same bodies in another order
merge to the same, and a generation from them is the same run
(`generate_reordered`).
-/

namespace SchemaGen

open SchemaGen.File

/-! ## Bodies -/

namespace Fragment

variable {marker : String} {f g : Fragment}

theorem decode_of_body {part : Model} (same : f.body = g.body)
    (decoded : f.decode marker = .ok part) : g.decode marker = .ok part := by
  unfold decode at decoded ⊢
  rw [← same]
  split at decoded
  · cases decoded
  · rename_i entries mapping
    cases read : Decode.sections entries with
    | error misfit =>
      rw [read] at decoded
      cases decoded
    | ok m =>
      rw [read] at decoded
      exact decoded

/-- The path says nothing about what a fragment describes. -/
theorem described_of_body (same : f.body = g.body) :
    f.described marker = g.described marker := by
  cases decoded : f.decode marker with
  | ok part =>
    rw [described_eq decoded, described_eq (decode_of_body same decoded)]
  | error e =>
    cases decoded' : g.decode marker with
    | ok part =>
      -- If one can be read, so can the other.
      rw [decode_of_body same.symm decoded'] at decoded
      cases decoded
    | error e' => simp only [described, decoded, decoded']

end Fragment

/-- Fragments with the same bodies describe the same. -/
theorem described_perm (marker : String) {fragments others : List Fragment}
    (same : (others.map (·.body)).Perm (fragments.map (·.body))) :
    (others.map (·.described marker)).Perm (fragments.map (·.described marker)) := by
  have each : ∀ given : List Fragment, given.map (·.described marker) =
      (given.map (·.body)).map fun body => Fragment.described marker ⟨⟨""⟩, body⟩ := by
    intro given
    rw [List.map_map]
    exact List.map_congr_left fun f _ => Fragment.described_of_body rfl
  rw [each, each]
  exact same.map _

/-- Being pairwise apart does not depend on the order. -/
theorem pairwise_apart_of_perm {marker : String} {fragments others : List Fragment}
    (same : (others.map (·.described marker)).Perm (fragments.map (·.described marker)))
    (apart : fragments.Pairwise (Fragment.Apart marker)) :
    others.Pairwise (Fragment.Apart marker) := by
  have models : (fragments.map (·.described marker)).Pairwise Model.Apart :=
    List.pairwise_map.mpr apart
  have models' : (others.map (·.described marker)).Pairwise Model.Apart :=
    (same.pairwise_iff fun apart => apart.symm).mpr models
  change others.Pairwise fun f g => (f.described marker).Apart (g.described marker)
  exact List.pairwise_map.mp models'

/-! ## Definitions without collisions -/

/-- Where no key is defined twice, a merge has just what the fragments describe. -/
theorem Merge.Records.definition?_eq_some_iff {marker : String} {fragments : List Fragment}
    {m : Merge} (records : m.Records marker fragments)
    (apart : fragments.Pairwise (Fragment.Apart marker)) {s : Section} {key : String}
    {definition : Definition} : m.model.definition? s key = some definition ↔
      ∃ f ∈ fragments, (f.described marker).definition? s key = some definition := by
  rw [records.latest]
  constructor
  · intro found
    obtain ⟨f, last, defined⟩ := Option.bind_eq_some_iff.mp found
    exact ⟨f, (mem_definers.mp (List.mem_of_getLast? last)).1, defined⟩
  · rintro ⟨f, member, defined⟩
    have has : key ∈ (f.described marker).keys s := by
      rw [Model.mem_keys_iff, defined]
      rfl
    have own : f ∈ definers marker s key fragments :=
      mem_definers.mpr ⟨member, Fragment.defines_iff.mpr has⟩
    -- The only definer is the last one.
    have single := pairwise_apart_iff.mp apart s key
    obtain ⟨g, only⟩ : ∃ g, definers marker s key fragments = [g] :=
      List.length_eq_one_iff.mp (Nat.le_antisymm single (List.length_pos_of_mem own))
    rw [only] at own ⊢
    obtain rfl := List.mem_singleton.mp own
    exact defined

/-- Fragments can be merged if others with their bodies can. -/
theorem exists_merged_of_perm {marker : String} {fragments others : List Fragment}
    {merged : Merged} (done : mergeFragments marker fragments = .ok merged)
    (same : (others.map (·.body)).Perm (fragments.map (·.body))) :
    ∃ merged', mergeFragments marker others = .ok merged' := by
  have reads := reads_of_mergeFragments done
  have reads' : ∀ g ∈ others, g.Reads marker := by
    intro g member
    obtain ⟨f, member, body⟩ := List.mem_map.mp (same.subset (List.mem_map_of_mem member))
    obtain ⟨part, decoded⟩ := reads f member
    exact ⟨part, Fragment.decode_of_body body decoded⟩
  -- An entity that one of the fragments names is named by one of the others.
  obtain ⟨n, member⟩ := List.exists_mem_of_ne_nil _ (entityNames_ne_nil done)
  obtain ⟨f, member, name⟩ := List.mem_flatMap.mp member
  obtain ⟨g, member', body⟩ := List.mem_map.mp (same.symm.subset (List.mem_map_of_mem member))
  obtain ⟨part, decoded⟩ := reads f member
  have named : n ∈ entityNames marker others := by
    refine List.mem_flatMap.mpr ⟨g, member', ?_⟩
    rw [Fragment.entityNames, decoded] at name
    rw [Fragment.entityNames, Fragment.decode_of_body body.symm decoded]
    exact name
  exact mergeFragments_ok reads' (List.ne_nil_of_mem named)

/-- **Without collisions the order does not matter**: the same bodies merge to
the same model, again without collisions. -/
theorem mergeFragments_eq_of_perm {marker : String} {fragments others : List Fragment}
    {merged : Merged} (done : mergeFragments marker fragments = .ok merged)
    (clear : merged.collisions = [])
    (same : (others.map (·.body)).Perm (fragments.map (·.body))) :
    mergeFragments marker others = .ok merged := by
  have apart := (collisions_eq_nil_iff done).mp clear
  have described := described_perm marker same
  have apart' := pairwise_apart_of_perm described apart
  obtain ⟨merged', done'⟩ := exists_merged_of_perm done same
  have clear' := (collisions_eq_nil_iff done').mpr apart'
  obtain ⟨m, records, model, _⟩ := records_of_mergeFragments done
  obtain ⟨m', records', model', _⟩ := records_of_mergeFragments done'
  have defined : ∀ s key, m'.model.definition? s key = m.model.definition? s key := by
    intro s key
    refine Option.ext fun definition => ?_
    rw [records.definition?_eq_some_iff apart, records'.definition?_eq_some_iff apart']
    constructor
    · rintro ⟨g, member, defined⟩
      obtain ⟨f, member, body⟩ := List.mem_map.mp (same.subset (List.mem_map_of_mem member))
      exact ⟨f, member, Fragment.described_of_body body ▸ defined⟩
    · rintro ⟨f, member, defined⟩
      obtain ⟨g, member, body⟩ := List.mem_map.mp (same.symm.subset (List.mem_map_of_mem member))
      exact ⟨g, member, Fragment.described_of_body body ▸ defined⟩
  have models : merged'.model = merged.model := by
    rw [← model, ← model']
    exact records'.ordered.ext records.ordered defined
  obtain ⟨_, _⟩ := merged
  obtain ⟨_, _⟩ := merged'
  cases clear
  cases clear'
  cases models
  exact done'

/-! ## Runs -/

namespace Generation

/-- **Without collisions neither the order of the fragments nor their files
matter.** Fragments with the same bodies in any order merge to the same, and a
generation from them is the same run: its result, its events and its disk. -/
theorem generate_reordered {marker : String} {fragments others : List Fragment} {merged : Merged}
    (done : mergeFragments marker fragments = .ok merged) (clear : merged.collisions = [])
    (same : (others.map (·.body)).Perm (fragments.map (·.body))) :
    mergeFragments marker others = .ok merged ∧
      ∀ (engine : Engine) (base : FilePath) (config : Config) (d : Disk),
        config.markerKey = marker →
        generate engine base config (.ok others) d = generate engine base config (.ok fragments) d := by
  have done' := mergeFragments_eq_of_perm done clear same
  refine ⟨done', fun engine base config d marked => ?_⟩
  have length : others.length = fragments.length := by simpa using same.length_eq
  subst marked
  simp only [generate, proceed, done, done', length]

/-- Two files of a depot that have no key of a section in common. -/
def depot : List Fragment :=
  [⟨⟨"a/goods.yaml"⟩, .map
      [(.str "entities", .map [(.str "Crate", .map
          [(.str "attributes", .map [(.str "weight", .str "Mass")])])]),
        (.str "types", .map [(.str "Mass", .str "float")])]⟩,
    ⟨⟨"b/bays.yaml"⟩, .map [(.str "entities", .map
      [(.str "Bay", .map [(.str "attributes", .map [(.str "row", .str "int")])]),
        (.str "Mass", .null)])]⟩]

/-- The same two files, the second one moved before the first. -/
def depotMoved : List Fragment :=
  [⟨⟨"0.yaml"⟩, .map [(.str "entities", .map
      [(.str "Bay", .map [(.str "attributes", .map [(.str "row", .str "int")])]),
        (.str "Mass", .null)])]⟩,
    ⟨⟨"a/goods.yaml"⟩, .map
      [(.str "entities", .map [(.str "Crate", .map
          [(.str "attributes", .map [(.str "weight", .str "Mass")])])]),
        (.str "types", .map [(.str "Mass", .str "float")])]⟩]

/-- What the two files come to. -/
def depotMerged : Merged :=
  { model :=
      { entities :=
          ⟨[("Bay", { attributes := [(.str "row", .str "int")] }),
            ("Crate", { attributes := [(.str "weight", .str "Mass")] }), ("Mass", {})]⟩
        types := ⟨[("Mass", .str "float")]⟩ }
    collisions := [] }

theorem generate_reordered_depot :
    (depotMoved.map (·.body)).Perm (depot.map (·.body)) ∧
      mergeFragments "shop" depot = .ok depotMerged ∧ depotMerged.collisions = [] ∧
      mergeFragments "shop" depotMoved = .ok depotMerged ∧
      ∀ (engine : Engine) (base : FilePath) (d : Disk),
        generate engine base { markerKey := "shop" } (.ok depotMoved) d =
          generate engine base { markerKey := "shop" } (.ok depot) d := by
  have done : mergeFragments "shop" depot = .ok depotMerged := by decide +kernel
  have swapped : (depotMoved.map (·.body)).Perm (depot.map (·.body)) := List.Perm.swap _ _ []
  obtain ⟨moved, runs⟩ := generate_reordered done rfl swapped
  exact ⟨swapped, done, rfl, moved, fun engine base d => runs engine base _ d rfl⟩

end Generation

end SchemaGen
