import SchemaGen.Proofs.Model.History
import SchemaGen.Proofs.Model.Reading

/-!
# What becomes of the entries of a section

An entry of a section is read under the text of its key, tags aside. In the end the merged
model has what was read of it, or a collision tells that its file was overwritten there, with
one exception: an entry whose key has the text of a later one in the same section is passed
over when its fragment is read, and if no later fragment has the key nothing tells of it
(`kept_or_recorded_iff`). `lost_relabelled` is such a case.
-/

namespace SchemaGen

open SchemaGen.File
open SchemaGen.Yaml (Value Entries)

/-! ## Entries of sections -/

namespace Decode

/-- What a value is read as, below a key of the section. -/
def Reads (s : Section) (v : Value) (d : Definition) : Prop :=
  match s with
  | .entities => ∃ e, entity v = .ok e ∧ d = .entity e
  | .enums | .types | .metadata | .targets => d = .value v

theorem Reads.unique {s : Section} {v : Value} {d d' : Definition} (reads : Reads s v d)
    (reads' : Reads s v d') : d = d' := by
  cases s with
  | entities =>
    obtain ⟨e, done, rfl⟩ := reads
    obtain ⟨e', done', rfl⟩ := reads'
    rw [Except.ok.inj (done.symm.trans done')]
  | enums | types | metadata | targets => exact reads.trans reads'.symm

/-- Where another value may stand in for one, the same is read just if no value that reads
as something else stands in. -/
theorem Reads.eq_iff {s : Section} {v : Value} {other? : Option Value} {d d' : Definition}
    (reads : Reads s v d) (reads' : Reads s (other?.getD v) d') :
    d' = d ↔ ¬ ∃ u, other? = some u ∧ ¬ Reads s u d := by
  cases other? with
  | none => simp [reads'.unique reads]
  | some u =>
    constructor
    · rintro rfl ⟨_, same, differs⟩
      exact differs (Option.some.inj same ▸ reads')
    · intro kept
      refine Decidable.byContradiction fun apart => kept ⟨u, rfl, fun again => apart ?_⟩
      exact reads'.unique again

section

variable {s : Section} {v : Value} {m : Model} {es : Entries}

/-- A catalog, seen as definitions. -/
theorem map_get?_of_catalog {α : Type} {read : Value → Except Misfit α} {c : Catalog α}
    (done : catalog read v = .ok c) (listed : entries .sectionMap v = .ok es)
    (wrap : α → Definition) (name : String) (d : Definition) :
    (c.get? name).map wrap = some d ↔
      ∃ u, Entries.last? es name = some u ∧ ∃ a, read u = .ok a ∧ d = wrap a := by
  obtain ⟨es', listed', found⟩ := catalog_get? done
  obtain rfl := Except.ok.inj (listed.symm.trans listed')
  simp only [Option.map_eq_some_iff, found]
  constructor
  · rintro ⟨a, ⟨u, last, done⟩, rfl⟩
    exact ⟨u, last, a, done, rfl⟩
  · rintro ⟨u, last, a, done, rfl⟩
    exact ⟨a, ⟨u, last, done⟩, rfl⟩

/-- **A section of the model** has under a name what the last entry with this name is read
as. -/
theorem definition?_of_sectionFrom (source : SectionFrom s (some v) m)
    (mapping : v.untagged = .map es) (name : String) (d : Definition) :
    m.definition? s name = some d ↔ ∃ u, Entries.last? es name = some u ∧ Reads s u d := by
  have listed : entries .sectionMap v = .ok es := entries_eq_ok.mpr (.inl mapping)
  cases s with
  | entities => exact map_get?_of_catalog source listed .entity name d
  | enums | types | metadata | targets =>
    refine (map_get?_of_catalog source listed .value name d).trans ?_
    simp [Reads]

/-- Every entry of a section has a name and is read as something. -/
theorem exists_reads_of_sectionFrom (source : SectionFrom s (some v) m)
    (mapping : v.untagged = .map es) {e : Value × Value} (member : e ∈ es) :
    ∃ name d, e.1.text? = some name ∧ Reads s e.2 d := by
  have listed : entries .sectionMap v = .ok es := entries_eq_ok.mpr (.inl mapping)
  cases s with
  | entities =>
    obtain ⟨name, a, named, read⟩ := catalog_each source listed e member
    exact ⟨name, .entity a, named, a, read, rfl⟩
  | enums | types | metadata | targets =>
    obtain ⟨name, _, named, _⟩ := catalog_each source listed e member
    exact ⟨name, .value e.2, named, rfl⟩

/-- Of the entries with one text the last one counts, which may stand behind this one. -/
theorem exists_definition?_of_entry (source : SectionFrom s (some v) m) {key value : Value}
    {front back : Entries} (mapping : v.untagged = .map (front ++ (key, value) :: back))
    {name : String} (named : key.text? = some name) :
    ∃ d, Reads s ((Entries.last? back name).getD value) d ∧ m.definition? s name = some d := by
  have last : Entries.last? (front ++ (key, value) :: back) name =
      some ((Entries.last? back name).getD value) := by
    rw [List.append_cons, Entries.last?_append, Entries.last?_concat, if_pos named]
    cases Entries.last? back name <;> rfl
  obtain ⟨e, member, _, same⟩ := Entries.exists_of_last? last
  obtain ⟨_, d, _, reads⟩ := exists_reads_of_sectionFrom source mapping member
  rw [same] at reads
  exact ⟨d, reads, (definition?_of_sectionFrom source mapping name d).mpr ⟨_, last, reads⟩⟩

end

end Decode

/-- The value stands in the body of the fragment, under the name of the section. -/
def Fragment.HasSection (f : Fragment) (s : Section) (v : Value) : Prop :=
  ∃ body key, f.body.entries? = some body ∧ (key, v) ∈ body ∧ key.text? = some s.name

/-- What a fragment describes of a section is read of the value that stands there. -/
theorem Fragment.HasSection.sectionFrom {marker : String} {f : Fragment} {s : Section} {v : Value}
    (stands : f.HasSection s v) (decoded : f.decode marker = .ok (f.described marker)) :
    Decode.SectionFrom s (some v) (f.described marker) := by
  obtain ⟨body, key, entries, member, named⟩ := stands
  obtain ⟨body', entries', read⟩ := f.exists_sections_of_decode decoded
  obtain rfl := Option.some.inj (entries.symm.trans entries')
  have means : s.name ∈ Section.all.map (·.name) := by cases s <;> decide
  have source := Decode.sections_from read s
  rwa [Decode.fields_once read means member named] at source

/-! ## Collisions of one file -/

/-- All definers but the last one are overwritten. -/
theorem map_previous_links (s : Section) (key : String) (paths : List FilePath) :
    (links s key paths).map (·.previous) = paths.dropLast := by
  induction paths with
  | nil => rfl
  | cons first rest ih =>
    cases rest with
    | nil => rfl
    | cons second rest => exact congrArg (first :: ·) ih

section

variable {marker : String} {fragments earlier later : List Fragment} {merged : Merged}
  {f : Fragment} {s : Section} {name : String}

/-- The fragments that collisions tell to be overwritten are all definers but the last. -/
theorem exists_collision_iff_mem_dropLast (done : mergeFragments marker fragments = .ok merged)
    {path : FilePath} :
    (∃ c ∈ merged.collisions, c.part = s ∧ c.key = name ∧ c.previous = path) ↔
      path ∈ ((definers marker s name fragments).map (·.path)).dropLast := by
  obtain ⟨m, records, _, collisions⟩ := records_of_mergeFragments done
  have chain := records.chain s name
  rw [collisions] at chain
  rw [← map_previous_links s name, ← chain, List.mem_map]
  constructor
  · rintro ⟨c, member, part, key, previous⟩
    exact ⟨c, List.mem_filter.mpr ⟨member, by simp [Collision.concerns, part, key]⟩, previous⟩
  · rintro ⟨c, member, previous⟩
    obtain ⟨member, concerns⟩ := List.mem_filter.mp member
    simp only [Collision.concerns, Bool.and_eq_true, decide_eq_true_eq] at concerns
    exact ⟨c, member, concerns.1, concerns.2, previous⟩

/-- Of distinct items all but the last stand before another one. -/
theorem mem_dropLast_iff_of_nodup {α : Type} {x : α} {front back : List α}
    (nodup : (front ++ x :: back).Nodup) : x ∈ (front ++ x :: back).dropLast ↔ back ≠ [] := by
  cases back with
  | nil =>
    have apart := (List.nodup_append.mp nodup).2.2
    simp only [List.dropLast_concat, ne_eq, not_true_eq_false, iff_false]
    exact fun member => apart x member x (by simp) rfl
  | cons y rest =>
    rw [List.dropLast_append_of_ne_nil (by simp), List.dropLast_cons_cons]
    simp

/-- Where the files are different, a collision tells that a fragment was overwritten just if
a later one has the key. -/
theorem exists_collision_iff (done : mergeFragments marker fragments = .ok merged)
    (distinct : (fragments.map (·.path)).Nodup) (split : fragments = earlier ++ f :: later)
    (own : name ∈ (f.described marker).keys s) :
    (∃ c ∈ merged.collisions, c.part = s ∧ c.key = name ∧ c.previous = f.path) ↔
      ∃ g ∈ later, name ∈ (g.described marker).keys s := by
  have paths : (definers marker s name fragments).map (·.path) =
      (definers marker s name earlier).map (·.path) ++
        f.path :: (definers marker s name later).map (·.path) := by
    rw [split, definers, List.filter_append,
      List.filter_cons_of_pos (Fragment.defines_iff.mpr own), List.map_append, List.map_cons]
    rfl
  have later_iff : (∃ g ∈ later, name ∈ (g.described marker).keys s) ↔
      definers marker s name later ≠ [] := by
    rw [definers, ne_eq, List.filter_eq_nil_iff]
    simp [Fragment.defines_iff]
  have nodup : ((definers marker s name fragments).map (·.path)).Nodup :=
    distinct.sublist (List.filter_sublist.map _)
  rw [exists_collision_iff_mem_dropLast done, later_iff]
  rw [paths] at nodup ⊢
  rw [mem_dropLast_iff_of_nodup nodup, ne_eq, List.map_eq_nil_iff]

/-- **An entry is kept, or a collision tells of its loss**, just if it is not passed over in
its own section for good: no later fragment has the key, and the last of the entries behind
it whose keys have the same text reads as something else. -/
theorem kept_or_recorded_iff (done : mergeFragments marker fragments = .ok merged)
    (distinct : (fragments.map (·.path)).Nodup) (split : fragments = earlier ++ f :: later)
    {v key value : Value} {front back : Entries} (stands : f.HasSection s v)
    (mapping : v.untagged = .map (front ++ (key, value) :: back)) :
    ∃ name d, key.text? = some name ∧ Decode.Reads s value d ∧
      ((merged.model.definition? s name = some d ∨
          ∃ c ∈ merged.collisions, c.part = s ∧ c.key = name ∧ c.previous = f.path) ↔
        ¬ ((∀ g ∈ later, name ∉ (g.described marker).keys s) ∧
          ∃ u, Entries.last? back name = some u ∧ ¬ Decode.Reads s u d)) := by
  have decoded : f.decode marker = .ok (f.described marker) := by
    obtain ⟨_, records, _⟩ := records_of_mergeFragments done
    exact records.decoded f (by simp [split])
  have source := stands.sectionFrom decoded
  obtain ⟨name, d, named, reads⟩ :=
    Decode.exists_reads_of_sectionFrom source mapping (List.mem_append_cons_self)
  obtain ⟨d', reads', defined⟩ := Decode.exists_definition?_of_entry source mapping named
  have own : name ∈ (f.described marker).keys s := by
    rw [Model.mem_keys_iff, defined]
    rfl
  refine ⟨name, d, named, reads, ?_⟩
  rw [exists_collision_iff done distinct split own]
  by_cases again : ∃ g ∈ later, name ∈ (g.described marker).keys s
  · obtain ⟨g, member, has⟩ := again
    constructor
    · rintro _ ⟨none, _⟩
      exact none g member has
    · intro _
      exact .inr ⟨g, member, has⟩
  · have none : ∀ g ∈ later, name ∉ (g.described marker).keys s := fun g member has =>
      again ⟨g, member, has⟩
    -- The model has what the fragment has, and that is the question.
    have holds : merged.model.definition? s name = some d' :=
      (definition?_of_last done split own none).trans defined
    rw [holds, Option.some.injEq, reads.eq_iff reads']
    constructor
    · rintro (kept | recorded) ⟨_, differs⟩
      · exact kept differs
      · exact again recorded
    · intro kept
      exact .inl fun differs => kept ⟨none, differs⟩

end

/-! ## Two larders -/

/-- A file of entities. -/
def larder (path : String) (entities : Entries) : Fragment :=
  ⟨⟨path⟩, .map [(.str "entities", .map entities)]⟩

/-- A description that has an index. -/
def byWeight : Value := .map [(.str "indexes", .seq [.str "weight"])]

/-- What the pantry has. -/
def pantry : Entries :=
  [(.str "Flour", .null), (.str "Salt", byWeight)]

/-- What is delivered. -/
def delivery : Entries :=
  [(.str "Salt", .null)]

/-- The salt of the pantry is described again by the delivery, the flour is not. -/
def restocked : List Fragment :=
  [larder "pantry.yaml" pantry, larder "delivery.yaml" delivery]

/-- What the restocked larder is merged to. -/
def restockedMerged : Merged :=
  { model := { entities := ⟨[("Flour", {}), ("Salt", {})]⟩ }
    collisions := [⟨.entities, "Salt", ⟨"pantry.yaml"⟩, ⟨"delivery.yaml"⟩⟩] }

theorem kept_or_recorded_restocked :
    mergeFragments "larder" restocked = .ok restockedMerged ∧
    (restocked.map (·.path)).Nodup ∧
    ∃ d, Decode.Reads .entities byWeight d ∧
      (restockedMerged.model.definition? .entities "Salt" = some d ∨
        ∃ c ∈ restockedMerged.collisions,
          c.part = .entities ∧ c.key = "Salt" ∧ c.previous = ⟨"pantry.yaml"⟩) := by
  have done : mergeFragments "larder" restocked = .ok restockedMerged := by decide +kernel
  have distinct : (restocked.map (·.path)).Nodup := by decide
  have split : restocked =
      [] ++ larder "pantry.yaml" pantry :: [larder "delivery.yaml" delivery] := rfl
  have stands : (larder "pantry.yaml" pantry).HasSection .entities (.map pantry) :=
    ⟨_, .str "entities", rfl, by simp, rfl⟩
  have mapping : (Value.map pantry).untagged =
      .map ([(.str "Flour", .null)] ++ (.str "Salt", byWeight) :: []) := rfl
  obtain ⟨name, d, named, reads, kept⟩ := kept_or_recorded_iff done distinct split stands mapping
  obtain rfl : "Salt" = name := Option.some.inj named
  refine ⟨done, distinct, d, reads, kept.mpr ?_⟩
  rintro ⟨_, u, behind, _⟩
  cases behind

/-- One file describes flour twice, under keys that differ in their tags. -/
def relabelled : List Fragment :=
  [larder "pantry.yaml" [(.str "Flour", byWeight), (.tagged "old" (.str "Flour"), .null)]]

/-- What the relabelled flour is merged to. -/
def relabelledMerged : Merged :=
  { model := { entities := ⟨[("Flour", {})]⟩ }, collisions := [] }

/-- **The relabelled flour is lost.** Its first entry is read, but neither does the merged
model have what was read of it nor is there a collision that tells of it. -/
theorem lost_relabelled :
    mergeFragments "larder" relabelled = .ok relabelledMerged ∧
    (relabelled.map (·.path)).Nodup ∧
    (∀ f ∈ relabelled, f.HasSection .entities
      (.map [(.str "Flour", byWeight), (.tagged "old" (.str "Flour"), .null)])) ∧
    ∃ d, Decode.Reads .entities byWeight d ∧
      ¬ (relabelledMerged.model.definition? .entities "Flour" = some d ∨
        ∃ c ∈ relabelledMerged.collisions,
          c.part = .entities ∧ c.key = "Flour" ∧ c.previous = ⟨"pantry.yaml"⟩) := by
  refine ⟨by decide +kernel, by decide, ?_, .entity { indexes := [.str "weight"] },
    ⟨{ indexes := [.str "weight"] }, by decide +kernel, rfl⟩, ?_⟩
  · intro f member
    obtain rfl := List.mem_singleton.mp member
    exact ⟨_, .str "entities", rfl, by simp, rfl⟩
  · rintro (kept | ⟨c, member, _⟩)
    · have other : relabelledMerged.model.definition? .entities "Flour" = some (.entity {}) := by
        decide +kernel
      exact absurd (other.symm.trans kept) (by simp)
    · cases member

end SchemaGen
