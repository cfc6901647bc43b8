import SchemaGen.Project
import SchemaGen.Proofs.Discovery.Finding
import SchemaGen.Proofs.Generation.Course
import SchemaGen.Proofs.Model.Merging
import SchemaGen.Proofs.Template.Loading

/-!
# Projects that are touched

A project is valid if everything that can be told before rendering is in order,
from the configuration down to the path of the last file (`Valid`). The disk
changes for valid projects only: for every other one the run ends with an error
and the disk is what it was, directories included.
-/

namespace SchemaGen.Project

open SchemaGen.File SchemaGen.Generation

/-! ## The course of an execution -/

/-- The ways in which an execution can go: there is no configuration, the
templates are not all there, or a generation is run. -/
inductive Execution (d : Disk) (env : Environment) (base : FilePath) : Outcome → Prop where
  | unconfigured {e : Error} {lines : List LogLine}
      (refused : Config.load d env base = (.error e, lines)) :
      Execution d env base ⟨.error e, lines, d⟩
  | unprepared {config : Config} {e : Error} {configLines lines : List LogLine}
      (configured : Config.load d env base = (.ok config, configLines))
      (refused : loadTemplates d (config.templatePath base) = (.error e, lines)) :
      Execution d env base ⟨.error e, configLines ++ lines, d⟩
  | generated {config : Config} {library : Template.Library}
      {source : Except Error (List Fragment)} {run : Run}
      {configLines templateLines searchLines : List LogLine}
      (configured : Config.load d env base = (.ok config, configLines))
      (ready : loadTemplates d (config.templatePath base) = (.ok library, templateLines))
      (searched : (Search.ofConfig config).load d (config.schemaPath base) = (source, searchLines))
      (course : Course library.render base config d source run) :
      Execution d env base
        ⟨run.result.map (·.entities), configLines ++ templateLines ++ run.log searchLines, run.disk⟩

/-- **Every execution takes one of the courses.** -/
theorem execution_execute (d : Disk) (env : Environment) (base : FilePath) :
    Execution d env base (execute d env base) := by
  unfold execute
  split
  · rename_i refused
    exact .unconfigured refused
  · rename_i configured
    split
    · rename_i refused
      exact .unprepared configured refused
    · rename_i ready
      exact .generated configured ready rfl (course_generate _ _ _ _ _)

/-! ## Valid projects -/

/-- All that has to be in order before a file is made. -/
structure Valid (d : Disk) (env : Environment) (base : FilePath) (config : Config)
    (library : Template.Library) (fragments : List Fragment) (merged : Merged) : Prop where
  configured : (Config.load d env base).1 = .ok config
  /-- The template directory is there, and every file in it is a template. -/
  templateDir : d.isDirectory (config.templatePath base) = true
  templates : Template.Library.Loads d (config.templatePath base)
    (d.walk (config.templatePath base)) {} library
  ready : (loadTemplates d (config.templatePath base)).1 = .ok library
  /-- Every kind has its template. -/
  required : ∀ kind : OutputKind, library.has kind.template = true
  /-- Every schema file can be read and parsed, and some have the marker. -/
  schemas : (Search.ofConfig config).Finds d (d.walk (config.schemaPath base)) fragments
  found : ((Search.ofConfig config).load d (config.schemaPath base)).1 = .ok fragments
  marked : fragments ≠ []
  /-- Every fragment is a mapping whose sections have their shapes. -/
  reads : ∀ f ∈ fragments, f.Reads config.markerKey
  named : entityNames config.markerKey fragments ≠ []
  merges : mergeFragments config.markerKey fragments = .ok merged
  /-- Every entity has a safe path for every wanted kind, and no two share one. -/
  paths : ∃ paths, HavePaths (config.outputPath base) (claims merged.model) paths ∧ paths.Nodup

/-- Loading the templates takes a directory of templates with one for each kind. -/
theorem loadTemplates_ok {d : Disk} {dir : FilePath} {library : Template.Library}
    (loaded : (loadTemplates d dir).1 = .ok library) :
    d.isDirectory dir = true ∧ Template.Library.Loads d dir (d.walk dir) {} library ∧
      ∀ kind : OutputKind, library.has kind.template = true := by
  unfold loadTemplates at loaded
  cases ofDirectory : Template.Library.ofDirectory d dir with
  | mk result lines =>
    rw [ofDirectory] at loaded
    match result, loaded with
    | .ok l, loaded =>
      dsimp only at loaded
      split at loaded
      · cases loaded
      · rename_i required
        obtain rfl := Except.ok.inj loaded
        obtain ⟨there, loads⟩ := Template.Library.ofDirectory_ok (congrArg Prod.fst ofDirectory)
        have all := Template.Library.require_ok required
        refine ⟨there, loads, fun kind => all _ (List.mem_map_of_mem ?_)⟩
        cases kind <;> decide

/-- The steps before the files are made, when they all succeed, make the project
valid. -/
theorem valid_of_steps {d : Disk} {env : Environment} {base : FilePath} {config : Config}
    {library : Template.Library} {fragments : List Fragment} {merged : Merged}
    {configLines templateLines searchLines : List LogLine}
    (configured : Config.load d env base = (.ok config, configLines))
    (ready : loadTemplates d (config.templatePath base) = (.ok library, templateLines))
    (found : (Search.ofConfig config).load d (config.schemaPath base) =
      (.ok fragments, searchLines))
    (merges : mergeFragments config.markerKey fragments = .ok merged)
    (checked : checkPaths (config.outputPath base) [] (claims merged.model) = .ok ()) :
    Valid d env base config library fragments merged := by
  obtain ⟨templateDir, templates, required⟩ := loadTemplates_ok (congrArg Prod.fst ready)
  obtain ⟨_, marked, schemas⟩ := Search.load_ok (congrArg Prod.fst found)
  exact
    { configured := congrArg Prod.fst configured
      templateDir, templates, required, schemas, marked, merges
      ready := congrArg Prod.fst ready
      found := congrArg Prod.fst found
      reads := reads_of_mergeFragments merges
      named := entityNames_ne_nil merges
      paths := checkPaths_iff.mp checked }

/-- A project is valid for its own configuration only. -/
theorem Valid.config_eq {d : Disk} {env : Environment} {base : FilePath} {config config' : Config}
    {library : Template.Library} {fragments : List Fragment} {merged : Merged}
    {lines : List LogLine} (valid : Valid d env base config library fragments merged)
    (configured : Config.load d env base = (.ok config', lines)) : config' = config :=
  Except.ok.inj ((congrArg Prod.fst configured).symm.trans valid.configured)

/-- **Nothing is touched unless the whole project is valid.** Either the run ends
with an error, the disk is as before and the project is not valid, or the
project is valid and its files are made: all of them, or those before the first
one that cannot be rendered or written. -/
theorem untouched_unless_valid (d : Disk) (env : Environment) (base : FilePath) :
    let outcome := execute d env base
    ((∃ e, outcome.result = .error e) ∧ outcome.disk = d ∧
      ¬ ∃ config library fragments merged,
        Valid d env base config library fragments merged) ∨
    ∃ config library fragments merged,
      Valid d env base config library fragments merged ∧
      ((∃ paths, Makes library.render (config.outputPath base) d
          (plan merged.model config.fallbackSchema) paths outcome.disk ∧
          outcome.result = .ok merged.model.entities.size) ∨
        ∃ before job after paths d₁ e,
          plan merged.model config.fallbackSchema = before ++ job :: after ∧
          Makes library.render (config.outputPath base) d before paths d₁ ∧
          Fails library.render (config.outputPath base) d₁ job e outcome.disk ∧
          outcome.result = .error e) := by
  -- Before the generation nothing writes, and each failed step contradicts one
  -- of the fields of a valid project; after it the course of the run decides.
  intro outcome
  have execution : Execution d env base outcome := execution_execute d env base
  generalize outcome = outcome at execution
  cases execution with
  | unconfigured refused =>
    refine .inl ⟨⟨_, rfl⟩, rfl, ?_⟩
    rintro ⟨config, library, fragments, merged, valid⟩
    exact nomatch (congrArg Prod.fst refused).symm.trans valid.configured
  | unprepared configured refused =>
    refine .inl ⟨⟨_, rfl⟩, rfl, ?_⟩
    rintro ⟨config, library, fragments, merged, valid⟩
    obtain rfl := valid.config_eq configured
    exact nomatch (congrArg Prod.fst refused).symm.trans valid.ready
  | generated configured ready searched course =>
    have found := congrArg Prod.fst searched
    cases course with
    | unfound =>
      refine .inl ⟨⟨_, rfl⟩, rfl, ?_⟩
      rintro ⟨config, library, fragments, merged, valid⟩
      obtain rfl := valid.config_eq configured
      exact nomatch found.symm.trans valid.found
    | unmerged refused =>
      refine .inl ⟨⟨_, rfl⟩, rfl, ?_⟩
      rintro ⟨config, library, fragments, merged, valid⟩
      obtain rfl := valid.config_eq configured
      obtain rfl := Except.ok.inj (found.symm.trans valid.found)
      exact nomatch refused.symm.trans valid.merges
    | unchecked merges refused =>
      refine .inl ⟨⟨_, rfl⟩, rfl, ?_⟩
      rintro ⟨config, library, fragments, merged, valid⟩
      obtain rfl := valid.config_eq configured
      obtain rfl := Except.ok.inj (found.symm.trans valid.found)
      obtain rfl := Except.ok.inj (merges.symm.trans valid.merges)
      exact nomatch refused.symm.trans (checkPaths_iff.mpr valid.paths)
    | stopped merges checked split makes fails =>
      exact .inr ⟨_, _, _, _, valid_of_steps configured ready searched merges checked,
        .inr ⟨_, _, _, _, _, _, split, makes, fails, rfl⟩⟩
    | finished merges checked makes =>
      exact .inr ⟨_, _, _, _, valid_of_steps configured ready searched merges checked,
        .inl ⟨_, makes, rfl⟩⟩

end SchemaGen.Project
