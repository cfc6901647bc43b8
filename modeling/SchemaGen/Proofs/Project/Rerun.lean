import Mathlib.Data.List.Forall2
import SchemaGen.Proofs.Generation.Remaking
import SchemaGen.Proofs.Project.Sources

/-!
# Running again

What a run leaves behind is not read by the next one, as long as its files stay
clear of the schema files and the templates: an execution that succeeded can be
repeated on the disk that it left, and is the same again (`execute_again`). Nor
does what an earlier run has left matter: on two trees with the same sources the
same files are made (`same_files`).

The directories above the files can come in the way, and nothing else can
(`execute_again_iff`). They may make the path of the configuration file lead to
something, and they may reach so deep into a source directory that it can no
longer be walked.
-/

namespace SchemaGen.Project

open SchemaGen.File SchemaGen.Generation

/-! ## Executions that succeed -/

/-- The execution from what was read. -/
theorem execute_of_steps {d : Disk} {env : Environment} {base : FilePath} {config : Config}
    {library : Template.Library} {source : Except Error (List Fragment)}
    {configLines templateLines searchLines : List LogLine}
    (configured : Config.load d env base = (.ok config, configLines))
    (ready : loadTemplates d (config.templatePath base) = (.ok library, templateLines))
    (searched : (Search.ofConfig config).load d (config.schemaPath base) = (source, searchLines)) :
    execute d env base =
      ⟨(generate library.render base config source d).result.map (·.entities),
        configLines ++ templateLines ++
          (generate library.render base config source d).log searchLines,
        (generate library.render base config source d).disk⟩ := by
  unfold execute
  rw [configured]
  dsimp only
  rw [ready]
  dsimp only
  rw [searched]

/-- The project is valid, and the execution makes files at the paths. -/
structure Succeeds (d : Disk) (env : Environment) (base : FilePath) (config : Config)
    (library : Template.Library) (fragments : List Fragment) (merged : Merged)
    (paths : List FilePath) : Prop where
  valid : Valid d env base config library fragments merged
  makes : Makes library.render (config.outputPath base) d
    (plan merged.model config.fallbackSchema) paths (execute d env base).disk

/-- The execution succeeds, and makes files at the paths in this order. -/
def Produces (d : Disk) (env : Environment) (base : FilePath) (paths : List FilePath) : Prop :=
  ∃ config library fragments merged, Succeeds d env base config library fragments merged paths

section

variable {d e : Disk} {env : Environment} {base : FilePath}

theorem exists_succeeds_of_ok {n : Nat} (succeeds : (execute d env base).result = .ok n) :
    ∃ config library fragments merged paths,
      Succeeds d env base config library fragments merged paths ∧
        n = merged.model.entities.size := by
  have execution := execution_execute d env base
  generalize whole : execute d env base = outcome at execution succeeds
  cases execution with
  | unconfigured => cases succeeds
  | unprepared => cases succeeds
  | generated configured ready searched course =>
    rename_i config library _ run _ _ _
    obtain ⟨summary, result, rfl⟩ := map_eq_ok.mp succeeds
    obtain ⟨fragments, merged, rfl, merges, checked, makes, count, _⟩ :=
      course.exists_makes_of_ok result
    have valid := valid_of_steps configured ready searched merges checked
    have left : (execute d env base).disk = run.disk := congrArg Outcome.disk whole
    exact ⟨config, library, fragments, merged, summary.files, ⟨valid, left ▸ makes⟩, count⟩

variable {config : Config} {library : Template.Library} {fragments : List Fragment}
  {merged : Merged} {paths : List FilePath}

namespace Succeeds

variable (s : Succeeds d env base config library fragments merged paths)

include s

theorem checked : checkPaths (config.outputPath base) [] (claims merged.model) = .ok () :=
  checkPaths_iff.mpr s.valid.paths

theorem delivers (tree : d.Tree) : Delivers library.render (config.outputPath base) d
    (plan merged.model config.fallbackSchema) paths (execute d env base).disk :=
  s.makes.delivers (tree.linkFree.linkFreeBelow _) (s.makes.paths_of_checked s.checked).2

/-- Both source directories are there, and can be walked. -/
theorem walked {dir : FilePath}
    (source : dir ∈ [config.schemaPath base, config.templatePath base]) :
    (∃ item, d.lookup dir = .ok item) ∧ ∀ cause, .fault cause ∉ d.walk dir := by
  simp only [List.mem_cons, List.not_mem_nil, or_false] at source
  rcases source with rfl | rfl
  · exact ⟨Disk.pathExists_iff.mp (Search.load_ok s.valid.found).1, s.valid.schemas.walked⟩
  · obtain ⟨place, located, inside⟩ := Disk.isDirectory_iff.mp s.valid.templateDir
    exact ⟨⟨_, Disk.lookup_eq_ok_iff.mpr ⟨place, located, inside⟩⟩, s.valid.templates.walked⟩

/-- **The log of a run that succeeds begins** with the configuration file just if there
is one. -/
theorem head?_log :
    (execute d env base).log.head? = some (Config.loadingLine (base.join Config.fileName)) ↔
      d.pathExists (base.join Config.fileName) = true := by
  obtain ⟨more, log⟩ : ∃ more, (execute d env base).log =
      (Config.load d env base).2 ++ (loadTemplates d (config.templatePath base)).2 ++ more :=
    ⟨_, congrArg Outcome.log (execute_of_steps (Prod.ext s.valid.configured rfl)
      (Prod.ext s.valid.ready rfl) rfl)⟩
  obtain ⟨lines, configLines, words⟩ := Config.exists_lines_load d env base
  rw [log, configLines, Config.lines_ofFile]
  by_cases there : d.pathExists (base.join Config.fileName) = true
  · simp [there]
  · simp only [there, Bool.false_eq_true, if_false, List.nil_append, iff_false]
    intro head
    -- The line would be one on an override or on a template.
    have some : lines ++ (loadTemplates d (config.templatePath base)).2 ≠ [] :=
      List.append_ne_nil_of_right_ne_nil _ (lines_loadTemplates_ne_nil s.valid.ready)
    rw [List.head?_append_of_ne_nil _ some] at head
    rcases List.mem_append.mp (List.mem_of_mem_head? head) with member | member
    · have apart : "Loading generator configuration" ∉ Config.overrides.map (·.2.2) := by decide
      exact apart (words _ member)
    · exact nomatch level_loadTemplates _ member

/-- On a disk from which the same is read, a generation that is the same makes the
execution the same. -/
theorem execute_eq (configured : Config.load d env base = Config.load e env base)
    (ready : loadTemplates d (config.templatePath base) =
      loadTemplates e (config.templatePath base))
    (searched : (Search.ofConfig config).load d (config.schemaPath base) =
      (Search.ofConfig config).load e (config.schemaPath base))
    (run : generate library.render base config (.ok fragments) e =
      generate library.render base config (.ok fragments) d) :
    execute e env base = execute d env base := by
  have loaded : Config.load d env base = (.ok config, (Config.load d env base).2) :=
    Prod.ext s.valid.configured rfl
  have library' : loadTemplates d (config.templatePath base) =
      (.ok library, (loadTemplates d (config.templatePath base)).2) := Prod.ext s.valid.ready rfl
  have found : (Search.ofConfig config).load d (config.schemaPath base) =
      (.ok fragments, ((Search.ofConfig config).load d (config.schemaPath base)).2) :=
    Prod.ext s.valid.found rfl
  rw [execute_of_steps loaded library' found, execute_of_steps (configured.symm.trans loaded)
    (ready.symm.trans library') (searched.symm.trans found), run]

end Succeeds

end

/-! ## Two disks with the same sources -/

/-- The configuration file, the templates and the schema files are the same on
both disks. -/
structure SameSources (d e : Disk) (env : Environment) (base : FilePath) : Prop where
  configuration : ∀ item, d.lookup (base.join Config.fileName) = .ok item ↔
    e.lookup (base.join Config.fileName) = .ok item
  templates : ∀ config, (Config.load d env base).1 = .ok config →
    d.SameFilesAt e (config.templatePath base)
  schemas : ∀ config, (Config.load d env base).1 = .ok config →
    (Search.ofConfig config).SameSchemas d e (config.schemaPath base)

/-- Files that were made for the same jobs at the same paths hold the same. -/
theorem exists_bytes_of_delivers {engine : Engine} {root : FilePath} {d d' e e' : Disk}
    {jobs : List Job} {paths : List FilePath} (delivers : Delivers engine root d jobs paths d')
    (delivers' : Delivers engine root e jobs paths e') {path : FilePath} (member : path ∈ paths) :
    ∃ bytes, d'.lookup path = .ok (.file bytes) ∧ e'.lookup path = .ok (.file bytes) := by
  obtain ⟨lengths, stands⟩ := List.forall₂_iff_get.mp delivers.files
  obtain ⟨_, stands'⟩ := List.forall₂_iff_get.mp delivers'.files
  obtain ⟨i, rfl⟩ := List.mem_iff_get.mp member
  -- Both files are those of one job.
  have less := Nat.lt_of_lt_of_eq i.isLt lengths.symm
  obtain ⟨text, rendered, holds⟩ := (stands i less i.isLt).holds
  obtain ⟨text', rendered', holds'⟩ := (stands' i less i.isLt).holds
  obtain rfl := Except.ok.inj (rendered.symm.trans rendered')
  exact ⟨_, holds, holds'⟩

section

variable {d e : Disk} {env : Environment} {base : FilePath}

namespace SameSources

variable {config : Config} {library library' : Template.Library}
  {fragments fragments' : List Fragment} {merged merged' : Merged}
  (same : SameSources d e env base) (tree : d.Tree) (tree' : e.Tree)
  (valid : Valid d env base config library fragments merged)
  (valid' : Valid e env base config library' fragments' merged')

include same

/-- A project has the same configuration on both disks. -/
theorem config_eq {config' : Config} (valid : Valid d env base config library fragments merged)
    (valid' : Valid e env base config' library' fragments' merged') : config = config' := by
  have configured := valid.configured
  rw [Config.load_eq env same.configuration, valid'.configured] at configured
  exact (Except.ok.inj configured).symm

include tree tree' valid valid'

/-- A project has the same templates on both disks. -/
theorem library_eq : library = library' := by
  have ready := loadTemplates_eq (Template.Library.ofDirectory_eq
    (same.templates config valid.configured) tree tree' valid.templateDir valid'.templateDir
    valid.templates.walked valid'.templates.walked)
  have loaded := valid.ready
  rw [ready, valid'.ready] at loaded
  exact (Except.ok.inj loaded).symm

/-- A project has the same fragments on both disks. -/
theorem fragments_eq : fragments = fragments' := by
  have schemas := same.schemas config valid.configured
  have searched : (Search.ofConfig config).load d (config.schemaPath base) =
      (Search.ofConfig config).load e (config.schemaPath base) := by
    refine Search.load_eq tree tree' schemas.place schemas.files (Search.load_ok valid.found).1
      (Search.load_ok valid'.found).1 valid.schemas.walked valid'.schemas.walked ?_
    intro q met met' accepted
    obtain ⟨value, parses⟩ := valid.schemas.parsed q met accepted
    obtain ⟨value', parses'⟩ := valid'.schemas.parsed q met' accepted
    obtain ⟨item, found⟩ := Disk.pathExists_iff.mp (Search.load_ok valid.found).1
    obtain ⟨place, located, _⟩ := Disk.lookup_eq_ok_iff.mp found
    obtain ⟨rest, bytes, rfl, file⟩ := tree.exists_of_file_mem located met
    have alike := schemas.fragments place located rest bytes file accepted
    -- Both files can be read, and one bears what the other does.
    rw [Search.fragment?_of_parses parses, Search.fragment?_of_parses parses'] at alike ⊢
    simp only [Except.ok.injEq] at alike
    exact congrArg Except.ok (Option.ext alike)
  have found := valid.found
  rw [searched, valid'.found] at found
  exact (Except.ok.inj found).symm

end SameSources

/-- **What an earlier run has left does not matter.** If the sources are the same
on two trees and both runs succeed, they make the same files. -/
theorem same_files (tree : d.Tree) (tree' : e.Tree) (same : SameSources d e env base) {n m : Nat}
    (succeeds : (execute d env base).result = .ok n)
    (succeeds' : (execute e env base).result = .ok m) :
    n = m ∧ ∃ paths, Produces d env base paths ∧ Produces e env base paths ∧
      ∀ path ∈ paths, ∃ bytes, (execute d env base).disk.lookup path = .ok (.file bytes) ∧
        (execute e env base).disk.lookup path = .ok (.file bytes) := by
  obtain ⟨config, library, fragments, merged, paths, s, rfl⟩ := exists_succeeds_of_ok succeeds
  obtain ⟨config', library', fragments', merged', paths', s', rfl⟩ :=
    exists_succeeds_of_ok succeeds'
  -- What is read is the same, one source after the other.
  obtain rfl := same.config_eq s.valid s'.valid
  obtain rfl := same.library_eq tree tree' s.valid s'.valid
  obtain rfl := same.fragments_eq tree tree' s.valid s'.valid
  obtain rfl := Except.ok.inj (s.valid.merges.symm.trans s'.valid.merges)
  obtain rfl := s.makes.havePaths.unique s'.makes.havePaths
  exact ⟨rfl, paths, ⟨_, _, _, _, s⟩, ⟨_, _, _, _, s'⟩, fun path member =>
    exists_bytes_of_delivers (s.delivers tree) (s'.delivers tree') member⟩

end

/-! ## The disk that a run leaves -/

/-- No file of the run stands at the schema directory or the template directory, or
below one of them. -/
def OutputsApart (d : Disk) (env : Environment) (base : FilePath) : Prop :=
  ∀ config paths, (Config.load d env base).1 = .ok config → Produces d env base paths →
    ∀ dir ∈ [config.schemaPath base, config.templatePath base], ∀ path ∈ paths, ∀ place rest,
      (execute d env base).disk.locate true dir = .ok place →
      (execute d env base).disk.locate true path ≠ .ok (place ++ rest)

/-- The run does not make the path of the configuration file lead to anything. -/
def ConfigLeft (d : Disk) (env : Environment) (base : FilePath) : Prop :=
  (execute d env base).disk.pathExists (base.join Config.fileName) = true →
    d.pathExists (base.join Config.fileName) = true

/-- The directories that the run makes below the schema directory or the template
directory have paths that can be looked up. -/
def MadeInReach (d : Disk) (env : Environment) (base : FilePath) : Prop :=
  ∀ config, (Config.load d env base).1 = .ok config →
    ∀ dir ∈ [config.schemaPath base, config.templatePath base], ∀ place rest,
      d.locate true dir = .ok place → d.get? (place ++ rest) = none →
      (execute d env base).disk.get? (place ++ rest) = some .directory →
      (dir.below rest).text.utf8ByteSize ≤ Disk.pathLimit

/-- An output file does not have the name of the configuration file. -/
theorem place_ne_configuration (kind : OutputKind) (entity : String) (above top : Location) :
    top ++ kind.place entity ≠ above ++ [Config.fileName] := by
  intro same
  have last := congrArg List.getLast? same
  simp only [OutputKind.place, List.getLast?_append_cons, List.getLast?_cons_cons,
    List.getLast?_singleton, Option.some.injEq] at last
  have ends : kind.ending.toList <:+ Config.fileName.toList := by
    rw [← last, OutputKind.fileName, String.toList_append]
    exact List.suffix_append _ _
  cases kind <;> revert ends <;> decide

theorem properName_configuration : ProperName Config.fileName :=
  ⟨⟨by decide, by decide, by decide⟩, by decide, by decide, by decide⟩

section

variable {d e : Disk} {env : Environment} {base : FilePath} {config : Config}
  {library : Template.Library} {fragments : List Fragment} {merged : Merged}
  {paths : List FilePath}

namespace Succeeds

variable (s : Succeeds d env base config library fragments merged paths) (tree : d.Tree)

include s tree

/-- The configuration file is the same after the run. -/
theorem lookup_configuration (left : ConfigLeft d env base) (item : Item) :
    d.lookup (base.join Config.fileName) = .ok item ↔
      (execute d env base).disk.lookup (base.join Config.fileName) = .ok item := by
  have delivers := s.delivers tree
  have tree' := (s.makes.tree tree).1
  have kept : ∀ {item}, d.lookup (base.join Config.fileName) = .ok item →
      (execute d env base).disk.lookup (base.join Config.fileName) = .ok item := by
    intro item found
    obtain ⟨loc, located, there⟩ := Disk.lookup_eq_ok_iff.mp found
    have located' := delivers.grows.locate located there
    refine Disk.lookup_eq_ok_iff.mpr ⟨loc, located', ?_⟩
    cases item with
    | link target => exact absurd there (tree.linkFree _ _)
    | directory => exact delivers.grows.directory there
    | file bytes =>
      -- No output file stands there, for it would have another name.
      refine (delivers.others loc (fun path member stands => ?_) bytes).mpr there
      obtain ⟨above, _, rfl⟩ := tree'.exists_of_locate_join properName_configuration located'
      obtain ⟨job, _, file⟩ := exists_left delivers.files member
      obtain ⟨top, _, _, _, same, _⟩ :=
        OutputKind.stands_of_locate (tree'.linkFree.linkFreeBelow _) file.found stands
      exact place_ne_configuration _ _ _ _ same.symm
  refine ⟨kept, fun found => ?_⟩
  obtain ⟨item', before⟩ := Disk.pathExists_iff.mp (left (Disk.pathExists_iff.mpr ⟨item, found⟩))
  rw [before, ← kept before, found]

/-- The files at and below a source directory are the same after the run. -/
theorem sameFilesAt (apart : OutputsApart d env base) {dir : FilePath}
    (source : dir ∈ [config.schemaPath base, config.templatePath base]) :
    d.SameFilesAt (execute d env base).disk dir := by
  have delivers := s.delivers tree
  obtain ⟨⟨item, found⟩, _⟩ := s.walked source
  have place := delivers.grows.locate_eq found
  refine ⟨place, fun loc located rest bytes => (delivers.others _ ?_ bytes).symm⟩
  intro path member
  exact apart config paths s.valid.configured ⟨_, _, _, _, s⟩ dir source path member loc rest
    (place.trans located)

/-- The source directories can still be walked after the run. -/
theorem walked_again (apart : OutputsApart d env base) (reach : MadeInReach d env base)
    {dir : FilePath} (source : dir ∈ [config.schemaPath base, config.templatePath base]) :
    ∀ cause, .fault cause ∉ (execute d env base).disk.walk dir := by
  have tree' := (s.makes.tree tree).1
  have same := s.sameFilesAt tree apart source
  obtain ⟨⟨item, found⟩, sound⟩ := s.walked source
  obtain ⟨loc, located, there⟩ := Disk.lookup_eq_ok_iff.mp found
  obtain ⟨item', there', _⟩ := (s.delivers tree).grows.there there
  have closed := (s.makes.tree tree).2.2
  refine (tree'.sound_walk_iff (same.place.trans located) there').mpr fun rest after => ?_
  rw [Disk.closed?, closed, ← Disk.closed?]
  cases before : d.get? (loc ++ rest) with
  | none =>
    -- What is new is open, since only what stood there before may be closed.
    exact ⟨reach config s.valid.configured dir source loc rest located before after,
      tree.closed?_eq_none (by simp [before])⟩
  | some item₀ =>
    cases item₀ with
    | directory => exact (tree.sound_walk_iff located there).mp sound rest before
    | link target => exact absurd before (tree.linkFree _ _)
    | file bytes =>
      -- Files stay files.
      rw [(same.files loc located rest bytes).mp before] at after
      cases after

/-- The sources are the same after the run. -/
theorem sameSources (apart : OutputsApart d env base) (left : ConfigLeft d env base)
    (reach : MadeInReach d env base) : SameSources d (execute d env base).disk env base where
  configuration := s.lookup_configuration tree left
  templates config' configured := by
    obtain rfl := Except.ok.inj (s.valid.configured.symm.trans configured)
    exact s.sameFilesAt tree apart (by simp)
  schemas config' configured := by
    obtain rfl := Except.ok.inj (s.valid.configured.symm.trans configured)
    have source : config.schemaPath base ∈ [config.schemaPath base, config.templatePath base] :=
      List.mem_cons_self
    exact Search.sameSchemas_of_sameFilesAt (s.sameFilesAt tree apart source) tree
      (s.makes.tree tree).1 (s.walked source).2 (s.walked_again tree apart reach source)

/-- If the run can be repeated with the configuration file as it was, its directories
are in reach. -/
theorem madeInReach (apart : OutputsApart d env base) (left : ConfigLeft d env base) {m : Nat}
    (succeeds : (execute (execute d env base).disk env base).result = .ok m) :
    MadeInReach d env base := by
  obtain ⟨config', _, _, _, _, s', _⟩ := exists_succeeds_of_ok succeeds
  obtain rfl : config = config' := by
    have configured := s.valid.configured
    rw [Config.load_eq env (s.lookup_configuration tree left), s'.valid.configured] at configured
    exact (Except.ok.inj configured).symm
  intro config' configured dir source place rest located _ made
  obtain rfl := Except.ok.inj (s.valid.configured.symm.trans configured)
  have located' := (s.sameFilesAt tree apart source).place.trans located
  obtain ⟨⟨item, found⟩, sound⟩ := s'.walked source
  obtain ⟨loc, here, there⟩ := Disk.lookup_eq_ok_iff.mp found
  obtain rfl := Except.ok.inj (here.symm.trans located')
  exact (((s.makes.tree tree).1.sound_walk_iff here there).mp sound rest made).1

end Succeeds

/-- **A run that succeeded can be repeated**, and is the same again: its result, its
log and the disk that it leaves. -/
theorem execute_again (tree : d.Tree) {n : Nat} (succeeds : (execute d env base).result = .ok n)
    (apart : OutputsApart d env base) (left : ConfigLeft d env base)
    (reach : MadeInReach d env base) :
    execute (execute d env base).disk env base = execute d env base := by
  obtain ⟨config, library, fragments, merged, paths, s, _⟩ := exists_succeeds_of_ok succeeds
  have tree' := (s.makes.tree tree).1
  have grows := (s.delivers tree).grows
  have schemas : config.schemaPath base ∈ [config.schemaPath base, config.templatePath base] := by
    simp
  have templates : config.templatePath base ∈ [config.schemaPath base, config.templatePath base] :=
    by simp
  have configured := Config.load_eq env (s.lookup_configuration tree left)
  have ready := loadTemplates_eq (Template.Library.ofDirectory_eq
    (s.sameFilesAt tree apart templates) tree tree' s.valid.templateDir
    (grows.isDirectory s.valid.templateDir) (s.walked templates).2
    (s.walked_again tree apart reach templates))
  have searched : (Search.ofConfig config).load d (config.schemaPath base) =
      (Search.ofConfig config).load (execute d env base).disk (config.schemaPath base) := by
    have same := s.sameFilesAt tree apart schemas
    obtain ⟨⟨item, found⟩, sound⟩ := s.walked schemas
    have sound' := s.walked_again tree apart reach schemas
    have there := (Search.load_ok s.valid.found).1
    obtain ⟨loc, located, _⟩ := Disk.lookup_eq_ok_iff.mp found
    refine Search.load_eq tree tree' same.place (fun _ => same.samePlaces) there
      (grows.pathExists there) sound sound' fun q met _ _ => ?_
    exact Search.fragment?_congr (same.readText_eq tree tree' located sound sound' met)
  exact s.execute_eq configured ready searched
    (generate_again tree s.valid.merges s.checked s.makes)

/-- **What it takes to be the same again**: no directory that the run makes comes in
the way of the next one. -/
theorem execute_again_iff (tree : d.Tree) {n : Nat}
    (succeeds : (execute d env base).result = .ok n) (apart : OutputsApart d env base) :
    execute (execute d env base).disk env base = execute d env base ↔
      ConfigLeft d env base ∧ MadeInReach d env base := by
  refine ⟨fun same => ?_, fun ⟨left, reach⟩ => execute_again tree succeeds apart left reach⟩
  have succeeds' : (execute (execute d env base).disk env base).result = .ok n := by
    rw [same, succeeds]
  obtain ⟨config, library, fragments, merged, paths, s, _⟩ := exists_succeeds_of_ok succeeds
  obtain ⟨_, _, _, _, _, s', _⟩ := exists_succeeds_of_ok succeeds'
  -- The logs are the same as well, and they tell of the configuration file.
  have left : ConfigLeft d env base := by
    intro there
    have head := s'.head?_log.mpr there
    rw [same] at head
    exact s.head?_log.mp head
  exact ⟨left, s.madeInReach tree apart left succeeds'⟩

end

/-! ## Where outputs stay apart -/

/-- Outputs are apart from the sources if neither of the output directory and a
source directory is within the other. -/
theorem outputsApart_of_places {d : Disk} {env : Environment} {base : FilePath} (tree : d.Tree)
    (apart : ∀ config, (Config.load d env base).1 = .ok config →
      ∀ dir ∈ [config.schemaPath base, config.templatePath base], ∀ place top,
        (execute d env base).disk.locate true dir = .ok place →
        (execute d env base).disk.Leads (config.outputPath base) top →
        ¬ place <+: top ∧ ¬ top <+: place) : OutputsApart d env base := by
  rintro config paths configured ⟨config', library, fragments, merged, s⟩ dir source path member
    place rest located located'
  obtain rfl := Except.ok.inj (configured.symm.trans s.valid.configured)
  have tree' := (s.makes.tree tree).1
  obtain ⟨job, _, file⟩ := exists_left (s.delivers tree).files member
  obtain ⟨top, leads, _, _, same, _⟩ :=
    OutputKind.stands_of_locate (tree'.linkFree.linkFreeBelow _) file.found located'
  obtain ⟨outside, outside'⟩ := apart config configured dir source place top located leads
  have within : place <+: top ++ job.kind.place job.context.entity := same ▸ List.prefix_append _ _
  exact (List.prefix_or_prefix_of_prefix within (List.prefix_append _ _)).elim outside outside'

/-! ## A workshop -/

/-- A project with one entity, and what else stands on its disk. -/
def workshop (others : List (Location × Item)) : Disk :=
  { items := [(["work"], .directory), (["work", "templates"], .directory),
      (["work", "templates", "python_sqlmodel.j2"], .file "class {{ entity.entity }}".toUTF8),
      (["work", "templates", "sqlite_model.j2"], .file "table {{ entity.entity }}".toUTF8),
      (["work", "db-meta"], .directory), (["work", "db-meta", "schemas"], .directory),
      (["work", "db-meta", "schemas", "order.yaml"],
        .file "botecopro_domain: {? entities : {? Order}}".toUTF8)] ++ others
    home := ["work"] }

/-- A configuration, and a file in the output directory. -/
def inUse (text : String) : List (Location × Item) :=
  [(["work", "modelgen.yaml"], .file "output-dir: generated".toUTF8),
    (["work", "generated"], .directory), (["work", "generated", "python"], .directory),
    (["work", "generated", "python", "order_model.py"], .file text.toUTF8)]

/-- A run in the workshop. -/
structure WorkshopRun where
  /-- What stands on the disk besides the project. -/
  others : List (Location × Item)
  /-- The output directory that the environment names. -/
  dir? : Option String
  /-- What stands on the disk after the run. -/
  made : List (Location × Item)

namespace WorkshopRun

/-- A file of an earlier run is left. -/
def stale : WorkshopRun :=
  { others := inUse "class Oder"
    dir? := none
    made := inUse "class Order" ++ [(["work", "generated", "sql"], .directory),
      (["work", "generated", "sql", "order_table.sql"], .file "table Order".toUTF8)] }

/-- The output directory has the name of the configuration file. -/
def shadowing : WorkshopRun :=
  { others := []
    dir? := some "modelgen.yaml"
    made := [(["work", "modelgen.yaml"], .directory),
      (["work", "modelgen.yaml", "python"], .directory),
      (["work", "modelgen.yaml", "python", "order_model.py"], .file "class Order".toUTF8),
      (["work", "modelgen.yaml", "sql"], .directory),
      (["work", "modelgen.yaml", "sql", "order_table.sql"], .file "table Order".toUTF8)] }

/-- The disk before the run. -/
def before (run : WorkshopRun) : Disk :=
  workshop run.others

/-- The disk after the run. -/
def left (run : WorkshopRun) : Disk :=
  workshop run.made

/-- The environment of the run. -/
def env (run : WorkshopRun) : Environment := fun name =>
  if name = "MODELGEN_OUTPUT_DIR" then run.dir? else none

/-- The configuration that the run finds. -/
def config (run : WorkshopRun) : Config :=
  { outputDir := run.dir?.getD "generated" }

/-- The outcome of the run. -/
def outcome (run : WorkshopRun) : Outcome :=
  execute run.before run.env ⟨"."⟩

/-- The runs that are looked at. -/
def all : List WorkshopRun :=
  [stale, shadowing]

theorem templatePath_config (run : WorkshopRun) :
    run.config.templatePath ⟨"."⟩ = ⟨"./templates"⟩ := by
  change (FilePath.mk ".").join "templates" = _
  rfl

theorem schemaPath_config (run : WorkshopRun) :
    run.config.schemaPath ⟨"."⟩ = ⟨"./db-meta/schemas"⟩ := by
  change (FilePath.mk ".").join "db-meta/schemas" = _
  rfl

/-- Where the source directories are, before a run and after it. -/
theorem located_all : ∀ run ∈ all, ∀ d ∈ [run.before, run.left],
    d.locate true ⟨"./db-meta/schemas"⟩ = .ok ["work", "db-meta", "schemas"] ∧
      d.locate true ⟨"./templates"⟩ = .ok ["work", "templates"] := by
  decide

/-- Where the output directory is. -/
theorem located_output_all : ∀ run ∈ all, run.left.locate true (run.config.outputPath ⟨"."⟩) =
    .ok ["work", run.config.outputDir] := by
  decide

theorem tree_all : ∀ run ∈ all, run.before.Tree := by
  decide

theorem configured_all : ∀ run ∈ all,
    (Config.load run.before run.env ⟨"."⟩).1 = .ok run.config := by
  decide +kernel

section

variable {run : WorkshopRun} (known : run ∈ all)

include known

theorem walk_templates : run.before.walk ⟨"./templates"⟩ = [.directory ⟨"./templates"⟩,
    .file ⟨"./templates/python_sqlmodel.j2"⟩, .file ⟨"./templates/sqlite_model.j2"⟩] := by
  have listed : ∀ run ∈ all, (run.before.items.filterMap fun e =>
      if e.1.dropLast = ["work", "templates"] then e.1.getLast? else none) =
      ["python_sqlmodel.j2", "sqlite_model.j2"] := by decide
  have held := Disk.namesIn_eq (listed run known) (by decide)
  have located := (located_all run known _ List.mem_cons_self).2
  refine ((tree_all run known).walk_files located rfl rfl held ?_).trans ?_
  · simp only [List.forall_mem_cons]
    exact ⟨⟨_, rfl⟩, ⟨_, rfl⟩, nofun⟩
  · decide

theorem walk_schemas : run.before.walk ⟨"./db-meta/schemas"⟩ =
    [.directory ⟨"./db-meta/schemas"⟩, .file ⟨"./db-meta/schemas/order.yaml"⟩] := by
  have listed : ∀ run ∈ all, (run.before.items.filterMap fun e =>
      if e.1.dropLast = ["work", "db-meta", "schemas"] then e.1.getLast? else none) =
      ["order.yaml"] := by decide
  have held := Disk.namesIn_eq (listed run known) (by decide)
  have located := (located_all run known _ List.mem_cons_self).1
  refine ((tree_all run known).walk_files located rfl rfl held ?_).trans ?_
  · simp only [List.forall_mem_cons]
    exact ⟨⟨_, rfl⟩, nofun⟩
  · decide

/-- What the runs come to. -/
theorem outcome_eq : run.outcome.result = .ok 1 ∧ run.outcome.disk = run.left := by
  have loaded : Config.load run.before run.env ⟨"."⟩ =
      (.ok run.config, (Config.load run.before run.env ⟨"."⟩).2) :=
    Prod.ext (configured_all run known) rfl
  have went : run.outcome.result = .ok 1 ∧ run.outcome.disk.items = run.left.items ∧
      run.outcome.disk.home = ["work"] := by
    unfold outcome execute
    rw [loaded]
    dsimp only
    rw [loadTemplates, Template.Library.ofDirectory, templatePath_config, walk_templates known,
      Search.load, Search.discover, schemaPath_config, walk_schemas known]
    simp only [all, List.mem_cons, List.not_mem_nil, or_false] at known
    rcases known with rfl | rfl <;> decide +kernel
  obtain ⟨result, items, home⟩ := went
  obtain ⟨_, _, _, _, _, s, _⟩ := exists_succeeds_of_ok result
  have refusals : run.outcome.disk.refusal? = run.left.refusal? :=
    (s.makes.tree (tree_all run known)).2.1
  have closed : run.outcome.disk.closed = run.left.closed := (s.makes.tree (tree_all run known)).2.2
  refine ⟨result, ?_⟩
  generalize run.outcome.disk = d at items home refusals closed ⊢
  obtain ⟨_, _, _, _⟩ := d
  cases items
  cases home
  cases refusals
  cases closed
  rfl

theorem config_eq {config : Config}
    (configured : (Config.load run.before run.env ⟨"."⟩).1 = .ok config) : config = run.config :=
  Except.ok.inj (configured.symm.trans (configured_all run known))

/-- Where the source directories are. -/
def sourcePlaces : List Location :=
  [["work", "db-meta", "schemas"], ["work", "templates"]]

theorem mem_sourcePlaces {d : Disk} {dir : FilePath} {place : Location}
    (either : d ∈ [run.before, run.left])
    (source : dir ∈ [run.config.schemaPath ⟨"."⟩, run.config.templatePath ⟨"."⟩])
    (located : d.locate true dir = .ok place) : place ∈ sourcePlaces := by
  obtain ⟨inSchemas, inTemplates⟩ := located_all run known d either
  rw [schemaPath_config, templatePath_config] at source
  simp only [List.mem_cons, List.not_mem_nil, or_false] at source
  rcases source with rfl | rfl
  · rw [← Except.ok.inj (inSchemas.symm.trans located)]
    decide
  · rw [← Except.ok.inj (inTemplates.symm.trans located)]
    decide

/-- The output directory is beside the source directories. -/
theorem outputsApart : OutputsApart run.before run.env ⟨"."⟩ := by
  have outside : ∀ run ∈ all, ∀ place ∈ sourcePlaces,
      ¬ place <+: ["work", run.config.outputDir] ∧
        ¬ ["work", run.config.outputDir] <+: place := by decide
  refine outputsApart_of_places (tree_all run known) fun config configured => ?_
  obtain rfl := config_eq known configured
  change ∀ dir ∈ _, ∀ place top, run.outcome.disk.locate true dir = .ok place →
    run.outcome.disk.Leads _ top → _
  rw [(outcome_eq known).2]
  intro dir source place top located leads
  obtain rfl := leads.unique (Disk.leads_of_locate (located_output_all run known))
  have either : run.left ∈ [run.before, run.left] := by simp
  exact outside run known place (mem_sourcePlaces known either source located)

/-- No directory is made below the source directories. -/
theorem madeInReach : MadeInReach run.before run.env ⟨"."⟩ := by
  have old : ∀ run ∈ all, ∀ place ∈ sourcePlaces, ∀ e ∈ run.left.items,
      place <+: e.1 → run.before.get? e.1 ≠ none := by decide
  have below : ∀ place ∈ sourcePlaces, place ≠ [] := by decide
  intro config configured dir source place rest located absent made
  obtain rfl := config_eq known configured
  have here := mem_sourcePlaces known List.mem_cons_self source located
  change run.outcome.disk.get? _ = _ at made
  rw [(outcome_eq known).2] at made
  have member := Disk.mem_items_of_get? made (by simp [below place here])
  exact absurd absent (old run known place here _ member (List.prefix_append _ _))

end

end WorkshopRun

/-! ## Running again -/

/-- **Running again.** A run that succeeded on a tree, with its files apart from the
sources, is the same again on the disk that it left just if no directory that it
made gives the configuration file a path or is out of reach of a walk; and with the
configuration file as it was, it can fail only for the latter. On two trees with
the same sources runs that succeed make the same files. -/
theorem rerun (env : Environment) (base : FilePath) :
    (∀ (d : Disk) (n : Nat), d.Tree → (execute d env base).result = .ok n →
      OutputsApart d env base →
      (execute (execute d env base).disk env base = execute d env base ↔
        ConfigLeft d env base ∧ MadeInReach d env base) ∧
      (ConfigLeft d env base →
        ((∃ m, (execute (execute d env base).disk env base).result = .ok m) ↔
          MadeInReach d env base))) ∧
    ∀ (d e : Disk) (n m : Nat), d.Tree → e.Tree → SameSources d e env base →
      (execute d env base).result = .ok n → (execute e env base).result = .ok m →
      n = m ∧ ∃ paths, Produces d env base paths ∧ Produces e env base paths ∧
        ∀ path ∈ paths, ∃ bytes, (execute d env base).disk.lookup path = .ok (.file bytes) ∧
          (execute e env base).disk.lookup path = .ok (.file bytes) := by
  refine ⟨fun d n tree succeeds apart => ?_,
    fun _ _ _ _ tree tree' same succeeds succeeds' => same_files tree tree' same succeeds succeeds'⟩
  have again := execute_again_iff tree succeeds apart
  refine ⟨again, fun left => ⟨fun ⟨m, succeeds'⟩ => ?_, fun reach => ⟨n, ?_⟩⟩⟩
  · obtain ⟨_, _, _, _, _, s, _⟩ := exists_succeeds_of_ok succeeds
    exact s.madeInReach tree apart left succeeds'
  · rw [again.mpr ⟨left, reach⟩, succeeds]

open WorkshopRun in
theorem rerun_workshop :
    (stale.before.Tree ∧ stale.outcome.result = .ok 1 ∧
      OutputsApart stale.before stale.env ⟨"."⟩ ∧ ConfigLeft stale.before stale.env ⟨"."⟩ ∧
      MadeInReach stale.before stale.env ⟨"."⟩ ∧ stale.left.Tree ∧
      (execute stale.left stale.env ⟨"."⟩).result = .ok 1 ∧
      SameSources stale.before stale.left stale.env ⟨"."⟩) ∧
    execute (execute stale.before stale.env ⟨"."⟩).disk stale.env ⟨"."⟩ =
      execute stale.before stale.env ⟨"."⟩ ∧
    ∃ paths, Produces stale.before stale.env ⟨"."⟩ paths ∧
      Produces stale.left stale.env ⟨"."⟩ paths ∧
      ∀ path ∈ paths, ∃ bytes,
        (execute stale.before stale.env ⟨"."⟩).disk.lookup path = .ok (.file bytes) ∧
        (execute stale.left stale.env ⟨"."⟩).disk.lookup path = .ok (.file bytes) := by
  have known : stale ∈ WorkshopRun.all := List.mem_cons_self
  have tree := tree_all stale known
  have apart := outputsApart known
  have reach := madeInReach known
  obtain ⟨result, left⟩ := outcome_eq known
  have configLeft : ConfigLeft stale.before stale.env ⟨"."⟩ := fun _ => by decide +kernel
  obtain ⟨repeats, alike⟩ := rerun stale.env ⟨"."⟩
  have again := (repeats stale.before 1 tree result apart).1.mpr ⟨configLeft, reach⟩
  -- The second disk is the one that the run leaves.
  obtain ⟨_, _, _, _, _, s, _⟩ := exists_succeeds_of_ok result
  have same := s.sameSources tree apart configLeft reach
  have tree' := (s.makes.tree tree).1
  change SameSources stale.before stale.outcome.disk stale.env ⟨"."⟩ at same
  change stale.outcome.disk.Tree at tree'
  have again' : execute stale.outcome.disk stale.env ⟨"."⟩ = stale.outcome := again
  rw [left] at same tree' again'
  have result' : (execute stale.left stale.env ⟨"."⟩).result = .ok 1 := by rw [again', result]
  obtain ⟨_, files⟩ := alike stale.before stale.left 1 1 tree tree' same result result'
  exact ⟨⟨tree, result, apart, configLeft, reach, tree', result', same⟩, again, files⟩

open WorkshopRun in
/-- **A run can come in its own way.** If the output directory has the name of the
configuration file, the first run makes it, and the second one tries to read it. -/
theorem rerun_fails_shadowing :
    shadowing.before.Tree ∧
      (execute shadowing.before shadowing.env ⟨"."⟩).result = .ok 1 ∧
      OutputsApart shadowing.before shadowing.env ⟨"."⟩ ∧
      (execute (execute shadowing.before shadowing.env ⟨"."⟩).disk shadowing.env ⟨"."⟩).result =
        .error (.readFailed ⟨"./modelgen.yaml"⟩ .isDirectory) := by
  have known : shadowing ∈ WorkshopRun.all := by simp [WorkshopRun.all]
  obtain ⟨result, left⟩ := outcome_eq known
  have refused : (Config.load shadowing.left shadowing.env ⟨"."⟩).1 =
      .error (.readFailed ⟨"./modelgen.yaml"⟩ .isDirectory) := by decide +kernel
  refine ⟨tree_all shadowing known, result, outputsApart known, ?_⟩
  change (execute shadowing.outcome.disk shadowing.env ⟨"."⟩).result = _
  rw [left]
  have execution := execution_execute shadowing.left shadowing.env ⟨"."⟩
  generalize execute shadowing.left shadowing.env ⟨"."⟩ = outcome at execution
  cases execution with
  | unconfigured refused' =>
    exact congrArg Except.error (Except.error.inj ((congrArg Prod.fst refused').symm.trans refused))
  | unprepared configured _ => exact nomatch (congrArg Prod.fst configured).symm.trans refused
  | generated configured _ _ _ => exact nomatch (congrArg Prod.fst configured).symm.trans refused

end SchemaGen.Project
