import SchemaGen.Proofs.Generation.Trace
import SchemaGen.Proofs.Model.Merging
import SchemaGen.Proofs.Steps

/-!
# The files of a run

What a run leaves on the disk. The paths of a plan are checked to be distinct,
and where no links are distinct paths are distinct locations, so no file of a run
is written over by a later one (`Makes.delivers`). A run that succeeds therefore
leaves all its files and nothing else (`Complete`), and one that fails leaves
those of the jobs before the one that failed (`Stopped`).
-/

namespace SchemaGen

open SchemaGen.File

namespace File.Disk

/-- Apart from the files that the paths lead to, the regular files of a disk are
as they were on the other. -/
def SameFilesBut (paths : List FilePath) (d d' : Disk) : Prop :=
  ∀ loc, (∀ path ∈ paths, d'.locate true path ≠ .ok loc) →
    ∀ bytes, d'.get? loc = some (.file bytes) ↔ d.get? loc = some (.file bytes)

end File.Disk

namespace Generation

/-! ## Files that stand -/

/-- The file of a job stands at its path, with the text that was rendered for it. -/
structure Stands (engine : Engine) (root : FilePath) (d : Disk) (job : Job) (path : FilePath) :
    Prop where
  found : job.kind.pathFor root job.context.entity = .ok path
  holds : ∃ text, engine job.kind.template job.context = .ok text ∧
    d.lookup path = .ok (.file text.toUTF8)

theorem Stands.addsDirectories {engine : Engine} {root path : FilePath} {d d' : Disk} {job : Job}
    (stands : Stands engine root d job path) (adds : d.AddsDirectories d') :
    Stands engine root d' job path := by
  obtain ⟨text, rendered, holds⟩ := stands.holds
  exact ⟨stands.found, text, rendered, adds.lookup holds⟩

/-- The files of the jobs stand, and nothing else has changed but directories. -/
structure Delivers (engine : Engine) (root : FilePath) (d : Disk) (jobs : List Job)
    (paths : List FilePath) (d' : Disk) : Prop where
  grows : d.Grows d'
  files : List.Forall₂ (Stands engine root d') jobs paths
  others : d.SameFilesBut paths d'

namespace Delivers

variable {engine : Engine} {root : FilePath} {d d' d'' : Disk} {jobs : List Job}
  {paths : List FilePath}

/-- The files stay when directories are added. -/
theorem addsDirectories (delivers : Delivers engine root d jobs paths d')
    (adds : d'.AddsDirectories d'') : Delivers engine root d jobs paths d'' where
  grows := delivers.grows.trans adds.grows
  files := delivers.files.imp fun _ _ stands => stands.addsDirectories adds
  others loc apart bytes := by
    have apart' : ∀ path ∈ paths, d'.locate true path ≠ .ok loc := by
      intro path member
      obtain ⟨job, _, stands⟩ := exists_left delivers.files member
      obtain ⟨text, _, holds⟩ := stands.holds
      rw [← adds.grows.locate_eq holds]
      exact apart path member
    exact adds.file_iff.trans (delivers.others loc apart' bytes)

/-- Of a whole plan, the file of every entity in every wanted kind stands. -/
theorem exists_stands_of_wanted {m : Model} {fallback name : String} {entity : Entity}
    {kind : OutputKind} (delivers : Delivers engine root d (plan m fallback) paths d')
    (defined : m.entities.get? name = some entity) (wanted : kind ∈ m.outputs) :
    ∃ path ∈ paths, Stands engine root d' ⟨m.contextOf fallback name entity, kind⟩ path :=
  exists_left delivers.files.flip (mem_plan defined wanted)

end Delivers

/-- **No file of a run is written over.** Jobs with distinct paths, made in turn,
all have their files in the end. -/
theorem Makes.delivers {engine : Engine} {root : FilePath} {d d' : Disk} {jobs : List Job}
    {paths : List FilePath} (makes : Makes engine root d jobs paths d')
    (free : d.LinkFreeBelow root) (distinct : paths.Nodup) :
    Delivers engine root d jobs paths d' := by
  induction makes with
  | nil => exact ⟨.refl _, .nil, fun _ _ _ => .rfl⟩
  | cons rendered written others ih =>
    rename_i d d₁ d' job rest path paths text
    obtain ⟨new, distinct⟩ := List.nodup_cons.mp distinct
    obtain ⟨found, _⟩ := writeOutput_eq_ok written
    obtain ⟨loc, writes⟩ := writeOutput_ok free written
    have later := ih (free.grows writes.grows) distinct
    have located : d'.locate true path = .ok loc := later.grows.locate writes.located writes.holds
    -- No later path leads to the file, or it would be the same path.
    have apart : ∀ path' ∈ paths, d'.locate true path' ≠ .ok loc := by
      intro path' member located'
      obtain ⟨job', _, stands⟩ := exists_left later.files member
      have same : path = path' :=
        OutputKind.locate_inj (free.grows (writes.grows.trans later.grows)) found stands.found
          located located'
      exact new (same ▸ member)
    have holds : d'.get? loc = some (.file text.toUTF8) :=
      (later.others loc apart text.toUTF8).mpr writes.holds
    -- So what was written there first is what stands there in the end.
    refine ⟨writes.grows.trans later.grows, .cons ⟨found, text, rendered, ?_⟩ later.files, ?_⟩
    · exact Disk.lookup_eq_ok_iff.mpr ⟨loc, located, holds⟩
    · intro l elsewhere bytes
      have other : l ≠ loc := by
        rintro rfl
        exact elsewhere path List.mem_cons_self located
      exact (later.others l (fun path' member => elsewhere path' (List.mem_cons_of_mem _ member))
        bytes).trans (writes.file_iff other bytes)

/-- A job whose path was found good fails for its template or for its file. -/
theorem Fails.cause {engine : Engine} {root path : FilePath} {d d' : Disk} {job : Job}
    {e : Error} (fails : Fails engine root d job e d')
    (safe : job.kind.pathFor root job.context.entity = .ok path) :
    engine job.kind.template job.context = .error e ∨
      ∃ text named fault, engine job.kind.template job.context = .ok text ∧
        e = .writeFailed named fault ∧ (named = path ∨ directoryOf? path = some named) := by
  cases fails with
  | rendering refused => exact .inl refused
  | writing rendered refused =>
    rcases (writeOutput_error refused).2 with bad | ⟨path', named, fault, found, shape, names⟩
    · cases safe.symm.trans bad
    · obtain rfl := Except.ok.inj (found.symm.trans safe)
      exact .inr ⟨_, named, fault, rendered, shape, names⟩

theorem Fails.addsDirectories {engine : Engine} {root : FilePath} {d d' : Disk} {job : Job}
    {e : Error} (fails : Fails engine root d job e d') : d.AddsDirectories d' := by
  cases fails with
  | rendering => exact .refl d
  | writing _ refused => exact (writeOutput_error refused).1

/-! ## A shop -/

/-- A fragment with two entities. -/
def shop : Fragment :=
  ⟨⟨"shop.yaml"⟩, .map [(.str "entities", .map [(.str "Order", .null), (.str "Item", .null)])]⟩

/-- An engine that names the template and the entity. -/
def labels : Engine := fun template context => .ok (template ++ " " ++ context.entity)

/-- The summary of the shop. -/
def shopSummary : Summary :=
  { entities := 2
    files := [⟨"generated/python/item_model.py"⟩, ⟨"generated/sql/item_table.sql"⟩,
      ⟨"generated/python/order_model.py"⟩, ⟨"generated/sql/order_table.sql"⟩]
    collisions := [] }

/-- A disk on which the output directory is in use, and a link leads to it. -/
def used : Disk :=
  { items := [(["work"], .directory), (["work", "generated"], .directory),
      (["work", "generated", "notes.txt"], .file "keep".toUTF8),
      (["work", "latest"], .link "generated")]
    home := ["work"] }

/-- The link does not stand below the output directory. -/
theorem linkFreeBelow_used : used.LinkFreeBelow ⟨"generated"⟩ := by
  have free : used.LinkFreeUnder ["work", "generated"] := by
    refine Disk.linkFreeUnder_of_items fun e member target link => ?_
    simp only [used, List.mem_cons, List.not_mem_nil, or_false] at member
    rcases member with rfl | rfl | rfl | rfl
    · cases link
    · cases link
    · cases link
    · decide
  have leads : used.Leads ⟨"generated"⟩ ["work", "generated"] :=
    Disk.follow_eq_ok_iff.mp (by decide +kernel)
  have there : used.get? ["work", "generated"] = some .directory := rfl
  exact free.linkFreeBelow leads there

/-- The run for the shop. -/
def shopRun (d : Disk) : Run :=
  generate labels ⟨""⟩ {} (.ok [shop]) d

/-- A disk that refuses one file of the shop. -/
def guarded : Disk :=
  { Disk.fresh with
    refusal? := fun loc =>
      if loc = ["work", "generated", "python", "order_model.py"] then some "Permission denied"
      else none }

/-- The error of the shop on that disk. -/
def denied : Error :=
  .writeFailed ⟨"generated/python/order_model.py"⟩ (.refused "Permission denied")

/-! ## Runs that succeed -/

/-- What a run that succeeds has come to. -/
structure Complete (engine : Engine) (root : FilePath) (config : Config)
    (fragments : List Fragment) (merged : Merged) (d : Disk) (summary : Summary) (d' : Disk) :
    Prop where
  /-- The entities are those that the fragments name, counted once. -/
  count : summary.entities = (entityNames config.markerKey fragments).dedup.length
  named : ∀ n, n ∈ merged.model.entities.names ↔ n ∈ entityNames config.markerKey fragments
  sorted : merged.model.entities.Ascending
  kinds : merged.model.outputs.Sublist OutputKind.all
  /-- The files are those of every entity in every wanted kind. -/
  listed : HavePaths root (claims merged.model) summary.files
  distinct : summary.files.Nodup
  /-- Each file holds what was rendered from the definition of its entity. -/
  holds : ∀ name entity kind, merged.model.entities.get? name = some entity →
    kind ∈ merged.model.outputs → ∃ path ∈ summary.files, kind.pathFor root name = .ok path ∧
      ∃ text, engine kind.template
        (merged.model.contextOf config.fallbackSchema name entity) = .ok text ∧
        d'.lookup path = .ok (.file text.toUTF8)
  others : d.SameFilesBut summary.files d'

/-- **A run that succeeds is complete**, where no links stand below the output
root. -/
theorem complete_of_ok {engine : Engine} {base : FilePath} {config : Config}
    {source : Except Error (List Fragment)} {d : Disk} {summary : Summary}
    (free : d.LinkFreeBelow (config.outputPath base))
    (succeeds : (generate engine base config source d).result = .ok summary) :
    ∃ fragments merged, source = .ok fragments ∧
      mergeFragments config.markerKey fragments = .ok merged ∧
      Complete engine (config.outputPath base) config fragments merged d summary
        (generate engine base config source d).disk := by
  obtain ⟨fragments, merged, source, merges, checked, makes, count, _⟩ :=
    (course_generate engine base config source d).exists_makes_of_ok succeeds
  obtain ⟨listed, distinct⟩ := makes.paths_of_checked checked
  have delivers := makes.delivers free distinct
  refine ⟨fragments, merged, source, merges, count.trans (size_mergeFragments merges),
    mem_names_mergeFragments merges, ascending_mergeFragments merges,
    merged.model.sublist_outputs, listed, distinct, ?_, delivers.others⟩
  intro name entity kind defined wanted
  obtain ⟨path, member, stands⟩ := delivers.exists_stands_of_wanted defined wanted
  exact ⟨path, member, stands.found, stands.holds⟩

theorem complete_shop :
    used.LinkFreeBelow (Config.outputPath {} ⟨""⟩) ∧
      (shopRun used).result = .ok shopSummary ∧
      ∃ fragments merged, (.ok [shop] : Except Error (List Fragment)) = .ok fragments ∧
        mergeFragments Setting.markerKey.default fragments = .ok merged ∧
        Complete labels (Config.outputPath {} ⟨""⟩) {} fragments merged used shopSummary
          (shopRun used).disk := by
  have root : Config.outputPath {} ⟨""⟩ = ⟨"generated"⟩ := by decide +kernel
  have free : used.LinkFreeBelow (Config.outputPath {} ⟨""⟩) := root ▸ linkFreeBelow_used
  have succeeds : (shopRun used).result = .ok shopSummary := by decide +kernel
  exact ⟨free, succeeds, complete_of_ok free succeeds⟩

/-! ## Runs that stop on the way -/

/-- What a run that stops at a job of the plan has come to. -/
structure Stopped (engine : Engine) (root : FilePath) (before : List Job) (job : Job)
    (paths : List FilePath) (d : Disk) (e : Error) (events : List Event) (d' : Disk) : Prop where
  /-- The files of the jobs before it stand. -/
  files : List.Forall₂ (Stands engine root d') before paths
  /-- The error is that of rendering or of writing the file of this job. -/
  error : ∃ path, job.kind.pathFor root job.context.entity = .ok path ∧
    (engine job.kind.template job.context = .error e ∨
      ∃ text named fault, engine job.kind.template job.context = .ok text ∧
        e = .writeFailed named fault ∧ (named = path ∨ directoryOf? path = some named))
  /-- No job after it was begun, and it was not written itself. -/
  begun : events.filterMap Event.rendering? = (before ++ [job]).map Job.claim
  written : events.filterMap Event.written? = paths
  others : d.SameFilesBut paths d'

/-- **A run that fails leaves a part of the plan.** If all paths were found good,
there is one job at which it stopped, where no links stand below the output
root. -/
theorem stopped_of_error {engine : Engine} {base : FilePath} {config : Config}
    {source : Except Error (List Fragment)} {d : Disk} {e : Error}
    (free : d.LinkFreeBelow (config.outputPath base))
    (fails : (generate engine base config source d).result = .error e)
    (validated : .stage .validated ∈ (generate engine base config source d).events) :
    ∃ fragments merged before job after paths, source = .ok fragments ∧
      mergeFragments config.markerKey fragments = .ok merged ∧
      plan merged.model config.fallbackSchema = before ++ job :: after ∧
      (∃ d₁, Makes engine (config.outputPath base) d before paths d₁ ∧
        Fails engine (config.outputPath base) d₁ job e
          (generate engine base config source d).disk) ∧
      Stopped engine (config.outputPath base) before job paths d e
        (generate engine base config source d).events
        (generate engine base config source d).disk := by
  have course := course_generate engine base config source d
  generalize generate engine base config source d = run at course fails validated ⊢
  cases course with
  | unfound => simp at validated
  | unmerged => simp at validated
  | unchecked => simp [opening] at validated
  | finished => cases fails
  | stopped merges checked split makes fails' =>
    rename_i fragments merged before after job paths e' d₁ d'
    obtain rfl := Except.error.inj fails
    obtain ⟨listed, found, distinct⟩ := checkPaths_iff.mp checked
    rw [claims_eq _ config.fallbackSchema, split, List.map_append] at found
    -- The paths that were made are the first of those that were checked.
    have distinct' := found.nodup_front distinct makes.havePaths
    have delivers := (makes.delivers free distinct').addsDirectories fails'.addsDirectories
    have same : before.length = paths.length := by
      rw [← makes.havePaths.length_eq, List.length_map]
    have wanted : job.claim ∈ before.map Job.claim ++ (job :: after).map Job.claim :=
      List.mem_append_right _ List.mem_cons_self
    obtain ⟨path, _, safe⟩ := exists_left found.flip wanted
    exact ⟨fragments, merged, before, job, after, paths, rfl, merges, split, ⟨d₁, makes, fails'⟩,
      delivers.files, ⟨path, safe, fails'.cause safe⟩, rendering_stopped same,
      written_stopped same, delivers.others⟩

theorem stopped_shop :
    guarded.LinkFreeBelow (Config.outputPath {} ⟨""⟩) ∧
      (shopRun guarded).result = .error denied ∧
      .stage .validated ∈ (shopRun guarded).events ∧
      ∃ fragments merged before job after paths,
        (.ok [shop] : Except Error (List Fragment)) = .ok fragments ∧
        mergeFragments Setting.markerKey.default fragments = .ok merged ∧
        plan merged.model Setting.fallbackSchema.default = before ++ job :: after ∧
        (∃ d₁, Makes labels (Config.outputPath {} ⟨""⟩) guarded before paths d₁ ∧
          Fails labels (Config.outputPath {} ⟨""⟩) d₁ job denied (shopRun guarded).disk) ∧
        Stopped labels (Config.outputPath {} ⟨""⟩) before job paths guarded denied
          (shopRun guarded).events (shopRun guarded).disk := by
  have solid : guarded.LinkFree := Disk.linkFree_of_items (by simp [guarded, Disk.fresh])
  have free := solid.linkFreeBelow (Config.outputPath {} ⟨""⟩)
  have fails : (shopRun guarded).result = .error denied := by decide +kernel
  have validated : .stage .validated ∈ (shopRun guarded).events := by decide +kernel
  exact ⟨free, fails, validated, stopped_of_error free fails validated⟩

end Generation

end SchemaGen
