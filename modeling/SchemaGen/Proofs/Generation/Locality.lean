import SchemaGen.Proofs.Generation.Files

/-!
# What the files of an entity depend on

The context of an entity holds its own definition, both catalogs and one schema
name, and nothing else of the model (`Model.SameFor.contextOf_eq`). A run that
succeeds leaves the files of each entity as they were rendered from its context
(`exists_file_of_ok`), whatever it writes for the others. So two runs whose models
say the same of an entity leave the same files for it
(`same_files_of_sameFor`).
-/

namespace SchemaGen

open SchemaGen.File

/-- The models say the same of an entity, and want the same kinds. They may
differ in other entities, in other metadata and in targets that name no kind. -/
structure Model.SameFor (name : String) (m n : Model) : Prop where
  entity : m.entities.get? name = n.entities.get? name
  enums : m.enums = n.enums
  types : m.types = n.types
  defaultSchema : m.defaultSchema? = n.defaultSchema?
  outputs : m.outputs = n.outputs

/-- **A context tells nothing else of the model.** -/
theorem Model.SameFor.contextOf_eq {name : String} {m n : Model} (same : m.SameFor name n)
    (fallback : String) (e : Entity) :
    m.contextOf fallback name e = n.contextOf fallback name e := by
  simp only [contextOf, schemaFor, same.enums, same.types, same.defaultSchema]

namespace Generation

variable {engine : Engine} {base : FilePath} {config : Config}
  {fragments fragments' : List Fragment} {merged merged' : Merged} {d d' : Disk}
  {summary summary' : Summary} {name : String} {entity : Entity}

/-- A run that succeeds has made the file of every kind for an entity, and in the
end it holds what was rendered from the context of the entity. -/
theorem exists_file_of_ok (free : d.LinkFreeBelow (config.outputPath base))
    (merges : mergeFragments config.markerKey fragments = .ok merged)
    (succeeds : (generate engine base config (.ok fragments) d).result = .ok summary)
    (defined : merged.model.entities.get? name = some entity) {kind : OutputKind}
    (wanted : kind ∈ merged.model.outputs) :
    ∃ path text, kind.pathFor (config.outputPath base) name = .ok path ∧ path ∈ summary.files ∧
      engine kind.template (merged.model.contextOf config.fallbackSchema name entity) = .ok text ∧
      (generate engine base config (.ok fragments) d).disk.lookup path =
        .ok (.file text.toUTF8) := by
  obtain ⟨_, _, source, merges', checked, makes, _⟩ :=
    (course_generate engine base config (.ok fragments) d).exists_makes_of_ok succeeds
  obtain rfl := Except.ok.inj source
  obtain rfl := Except.ok.inj (merges.symm.trans merges')
  have delivers := makes.delivers free (makes.paths_of_checked checked).2
  obtain ⟨path, member, stands⟩ := delivers.exists_stands_of_wanted defined wanted
  obtain ⟨text, rendered, holds⟩ := stands.holds
  exact ⟨path, text, stands.found, member, rendered, holds⟩

/-- **The files of an entity depend on nothing but what is said of it.** Two runs
that succeed, on any disks without links below the output root, make the same
files for an entity of which their models say the same. -/
theorem same_files_of_sameFor (merges : mergeFragments config.markerKey fragments = .ok merged)
    (merges' : mergeFragments config.markerKey fragments' = .ok merged')
    (same : merged.model.SameFor name merged'.model)
    (defined : merged.model.entities.get? name = some entity)
    (free : d.LinkFreeBelow (config.outputPath base))
    (free' : d'.LinkFreeBelow (config.outputPath base))
    (succeeds : (generate engine base config (.ok fragments) d).result = .ok summary)
    (succeeds' : (generate engine base config (.ok fragments') d').result = .ok summary') :
    ∀ kind ∈ merged.model.outputs, ∃ path bytes,
      kind.pathFor (config.outputPath base) name = .ok path ∧
      path ∈ summary.files ∧ path ∈ summary'.files ∧
      (generate engine base config (.ok fragments) d).disk.lookup path = .ok (.file bytes) ∧
      (generate engine base config (.ok fragments') d').disk.lookup path = .ok (.file bytes) := by
  intro kind wanted
  have defined' : merged'.model.entities.get? name = some entity := same.entity ▸ defined
  have wanted' : kind ∈ merged'.model.outputs := same.outputs ▸ wanted
  obtain ⟨path, text, found, member, rendered, holds⟩ :=
    exists_file_of_ok free merges succeeds defined wanted
  obtain ⟨path', text', found', member', rendered', holds'⟩ :=
    exists_file_of_ok free' merges' succeeds' defined' wanted'
  -- Neither the path nor the context can be told apart, so the engine gives one text.
  obtain rfl : path = path' := Except.ok.inj (found.symm.trans found')
  rw [← same.contextOf_eq] at rendered'
  obtain rfl : text = text' := Except.ok.inj (rendered.symm.trans rendered')
  exact ⟨path, text.toUTF8, found, member, member', holds, holds'⟩

/-! ## An entity among others -/

/-- An engine that tells all that a context does of the schema, the table, the
attributes and the enumerations. -/
def inventory : Engine := fun template context =>
  .ok (template ++ " " ++ context.schema ++ "." ++ context.table ++ " " ++
    toString (context.attributes.length + context.enums.size))

/-- An entity in a file by itself. -/
def loneCrate : List Fragment :=
  [⟨⟨"crate.yaml"⟩, .map [(.str "entities", .map [(.str "Crate", .map
      [(.str "attributes", .map [(.str "weight", .str "Mass")])])]),
    (.str "metadata", .map [(.str "default_schema", .str "yard")])]⟩]

/-- The entity again, defined twice and with others around it. -/
def crowdedCrate : List Fragment :=
  [⟨⟨"bays.yaml"⟩, .map [(.str "entities", .map
      [(.str "Bay", .null), (.str "Crate", .null)]),
    (.str "metadata", .map [(.str "owner", .str "team"), (.str "default_schema", .str "yard")])]⟩,
    ⟨⟨"goods.yaml"⟩, .map [(.str "targets", .map [(.str "docs", .bool false)]),
      (.str "entities", .map [(.str "Crate", .map
        [(.str "attributes", .map [(.str "weight", .str "Mass")])])])]⟩]

/-- What the entity comes to in both. -/
def crate : Entity :=
  { attributes := [(.str "weight", .str "Mass")] }

/-- What the lone entity is merged to. -/
def loneMerged : Merged :=
  { model :=
      { entities := ⟨[("Crate", crate)]⟩
        metadata := ⟨[("default_schema", .str "yard")]⟩ }
    collisions := [] }

/-- What the entity and those around it are merged to. -/
def crowdedMerged : Merged :=
  { model :=
      { entities := ⟨[("Bay", {}), ("Crate", crate)]⟩
        metadata := ⟨[("default_schema", .str "yard"), ("owner", .str "team")]⟩
        targets := ⟨[("docs", .bool false)]⟩ }
    collisions := [⟨.entities, "Crate", ⟨"bays.yaml"⟩, ⟨"goods.yaml"⟩⟩] }

/-- The summary of the run for the lone entity. -/
def loneSummary : Summary :=
  { entities := 1
    files := [⟨"generated/python/crate_model.py"⟩, ⟨"generated/sql/crate_table.sql"⟩]
    collisions := [] }

/-- The summary of the run for all of them. -/
def crowdedSummary : Summary :=
  { entities := 2
    files := [⟨"generated/python/bay_model.py"⟩, ⟨"generated/sql/bay_table.sql"⟩,
      ⟨"generated/python/crate_model.py"⟩, ⟨"generated/sql/crate_table.sql"⟩]
    collisions := [⟨.entities, "Crate", ⟨"bays.yaml"⟩, ⟨"goods.yaml"⟩⟩] }

theorem same_files_crate :
    (mergeFragments Setting.markerKey.default loneCrate = .ok loneMerged ∧
      mergeFragments Setting.markerKey.default crowdedCrate = .ok crowdedMerged ∧
      loneMerged.model.SameFor "Crate" crowdedMerged.model ∧
      loneMerged.model.entities.get? "Crate" = some crate ∧
      Disk.fresh.LinkFreeBelow (Config.outputPath {} ⟨""⟩) ∧
      used.LinkFreeBelow (Config.outputPath {} ⟨""⟩) ∧
      (generate inventory ⟨""⟩ {} (.ok loneCrate) .fresh).result = .ok loneSummary ∧
      (generate inventory ⟨""⟩ {} (.ok crowdedCrate) used).result = .ok crowdedSummary) ∧
    ∀ kind ∈ loneMerged.model.outputs, ∃ path bytes,
      kind.pathFor (Config.outputPath {} ⟨""⟩) "Crate" = .ok path ∧
      path ∈ loneSummary.files ∧ path ∈ crowdedSummary.files ∧
      (generate inventory ⟨""⟩ {} (.ok loneCrate) .fresh).disk.lookup path = .ok (.file bytes) ∧
      (generate inventory ⟨""⟩ {} (.ok crowdedCrate) used).disk.lookup path =
        .ok (.file bytes) := by
  have merges : mergeFragments Setting.markerKey.default loneCrate = .ok loneMerged := by
    decide +kernel
  have merges' : mergeFragments Setting.markerKey.default crowdedCrate = .ok crowdedMerged := by
    decide +kernel
  have same : loneMerged.model.SameFor "Crate" crowdedMerged.model :=
    ⟨rfl, rfl, rfl, rfl, by decide +kernel⟩
  have root : Config.outputPath {} ⟨""⟩ = ⟨"generated"⟩ := by decide +kernel
  have free : Disk.fresh.LinkFreeBelow (Config.outputPath {} ⟨""⟩) :=
    (Disk.linkFree_of_items (by simp [Disk.fresh])).linkFreeBelow _
  have free' : used.LinkFreeBelow (Config.outputPath {} ⟨""⟩) := root ▸ linkFreeBelow_used
  have succeeds : (generate inventory ⟨""⟩ {} (.ok loneCrate) .fresh).result =
      .ok loneSummary := by decide +kernel
  have succeeds' : (generate inventory ⟨""⟩ {} (.ok crowdedCrate) used).result =
      .ok crowdedSummary := by decide +kernel
  exact ⟨⟨merges, merges', same, rfl, free, free', succeeds, succeeds'⟩,
    same_files_of_sameFor merges merges' same rfl free free' succeeds succeeds'⟩

end Generation

end SchemaGen
