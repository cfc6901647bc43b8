import SchemaGen.Proofs.Generation.Checking
import SchemaGen.Proofs.Output.Placement

/-!
# The course of a run

A run goes one of five ways: the search for fragments fails, merging fails, a
path is refused, one job of the plan fails after those before it were made, or
all are made. `Course` has one case for each, with all that is known in it, and
`course_generate` says that every run is one of them. Properties of runs are
read off these cases, never off the definitions of the run.
-/

namespace SchemaGen

open SchemaGen.File

/-- The event that a job is begun. -/
def Job.rendering (job : Job) : Event :=
  .stage (.rendering job.context.entity job.kind)

namespace Generation

/-! ## Making files -/

section

variable (engine : Engine) (root : FilePath)

/-- Every job is rendered and written in its turn, to the paths. -/
inductive Makes : Disk → List Job → List FilePath → Disk → Prop where
  | nil {d : Disk} : Makes d [] [] d
  | cons {d d₁ d' : Disk} {job : Job} {rest : List Job} {path : FilePath}
      {paths : List FilePath} {text : String}
      (rendered : engine job.kind.template job.context = .ok text)
      (written : writeOutput d root job.context.entity job.kind text = (.ok path, d₁))
      (others : Makes d₁ rest paths d') : Makes d (job :: rest) (path :: paths) d'

/-- The job cannot be rendered, which leaves the disk alone, or what was rendered
cannot be written. -/
inductive Fails : Disk → Job → Error → Disk → Prop where
  | rendering {d : Disk} {job : Job} {e : Error}
      (refused : engine job.kind.template job.context = .error e) : Fails d job e d
  | writing {d d' : Disk} {job : Job} {e : Error} {text : String}
      (rendered : engine job.kind.template job.context = .ok text)
      (refused : writeOutput d root job.context.entity job.kind text = (.error e, d')) :
      Fails d job e d'

end

/-- The events of jobs that are made. -/
def madeEvents (jobs : List Job) (paths : List FilePath) : List Event :=
  (jobs.zip paths).flatMap fun made => [made.1.rendering, .stage (.written made.2)]

/-- **All jobs are made, or one fails** after those before it are made, and none
after it is begun. -/
theorem makeFiles_cases (engine : Engine) (root : FilePath) (jobs : List Job) (d : Disk) :
    (∃ paths d', Makes engine root d jobs paths d' ∧
      makeFiles engine root jobs d = (.ok paths, madeEvents jobs paths, d')) ∨
    ∃ before job after paths d₁ e d', jobs = before ++ job :: after ∧
      Makes engine root d before paths d₁ ∧ Fails engine root d₁ job e d' ∧
      makeFiles engine root jobs d =
        (.error e, madeEvents before paths ++ [job.rendering], d') := by
  induction jobs generalizing d with
  | nil => exact .inl ⟨[], d, .nil, rfl⟩
  | cons job rest ih =>
    unfold makeFiles
    cases rendered : engine job.kind.template job.context with
    | error e =>
      exact .inr ⟨[], job, rest, [], d, e, d, rfl, .nil, .rendering rendered, rfl⟩
    | ok text =>
      cases written : writeOutput d root job.context.entity job.kind text with
      | mk result d₁ =>
        cases result with
        | error e =>
          refine .inr ⟨[], job, rest, [], d, e, d₁, rfl, .nil, .writing rendered written, ?_⟩
          simp only [written]
          rfl
        | ok path =>
          simp only [written]
          -- The first job is made, so what the others come to decides.
          rcases ih d₁ with ⟨paths, d', makes, eq⟩ |
            ⟨before, job', after, paths, d₂, e, d', rfl, makes, fails, eq⟩
          · refine .inl ⟨path :: paths, d', .cons rendered written makes, ?_⟩
            rw [eq]
            rfl
          · refine .inr ⟨job :: before, job', after, path :: paths, d₂, e, d', rfl,
              .cons rendered written makes, fails, ?_⟩
            rw [eq]
            rfl

theorem Makes.havePaths {engine : Engine} {root : FilePath} {d d' : Disk} {jobs : List Job}
    {paths : List FilePath} (makes : Makes engine root d jobs paths d') :
    HavePaths root (jobs.map Job.claim) paths := by
  induction makes with
  | nil => exact .nil
  | cons _ written _ ih => exact .cons (writeOutput_eq_ok written).1 ih

/-- Of a plan whose claims were checked, the paths are those of the claims, each once. -/
theorem Makes.paths_of_checked {engine : Engine} {root : FilePath} {d d' : Disk} {m : Model}
    {fallback : String} {paths : List FilePath}
    (makes : Makes engine root d (plan m fallback) paths d')
    (checked : checkPaths root [] (claims m) = .ok ()) :
    HavePaths root (claims m) paths ∧ paths.Nodup := by
  obtain ⟨listed, found, distinct⟩ := checkPaths_iff.mp checked
  have made := makes.havePaths
  rw [← claims_eq] at made
  obtain rfl := found.unique made
  exact ⟨found, distinct⟩

/-! ## The whole run -/

/-- The events of finding and merging. -/
def opening (fragments : List Fragment) (merged : Merged) : List Event :=
  [.stage .idle, .stage (.discovered fragments.length)] ++ merged.collisions.map .collision ++
    [.stage (.merged merged.model.entities.size)]

/-- The events up to the first job. -/
def preparing (fragments : List Fragment) (merged : Merged) : List Event :=
  opening fragments merged ++
    [.stage .validated, .stage (.contextsBuilt merged.model.entities.size)]

/-- The ways in which a run can go, by what the search for fragments gave. -/
inductive Course (engine : Engine) (base : FilePath) (config : Config) (d : Disk) :
    Except Error (List Fragment) → Run → Prop where
  | unfound {e : Error} :
      Course engine base config d (.error e)
        ⟨.error e, [.stage .idle, .stage (.failed e.message)], d⟩
  | unmerged {fragments : List Fragment} {e : Error}
      (refused : mergeFragments config.markerKey fragments = .error e) :
      Course engine base config d (.ok fragments) ⟨.error e,
        [.stage .idle, .stage (.discovered fragments.length), .stage (.failed e.message)], d⟩
  | unchecked {fragments : List Fragment} {merged : Merged} {e : Error}
      (merges : mergeFragments config.markerKey fragments = .ok merged)
      (refused : checkPaths (config.outputPath base) [] (claims merged.model) = .error e) :
      Course engine base config d (.ok fragments) ⟨.error e,
        opening fragments merged ++ [.stage (.failed e.message)], d⟩
  | stopped {fragments : List Fragment} {merged : Merged} {before after : List Job} {job : Job}
      {paths : List FilePath} {e : Error} {d₁ d' : Disk}
      (merges : mergeFragments config.markerKey fragments = .ok merged)
      (checked : checkPaths (config.outputPath base) [] (claims merged.model) = .ok ())
      (split : plan merged.model config.fallbackSchema = before ++ job :: after)
      (makes : Makes engine (config.outputPath base) d before paths d₁)
      (fails : Fails engine (config.outputPath base) d₁ job e d') :
      Course engine base config d (.ok fragments) ⟨.error e,
        preparing fragments merged ++ madeEvents before paths ++
          [job.rendering, .stage (.failed e.message)], d'⟩
  | finished {fragments : List Fragment} {merged : Merged} {paths : List FilePath} {d' : Disk}
      (merges : mergeFragments config.markerKey fragments = .ok merged)
      (checked : checkPaths (config.outputPath base) [] (claims merged.model) = .ok ())
      (makes : Makes engine (config.outputPath base) d (plan merged.model config.fallbackSchema)
        paths d') :
      Course engine base config d (.ok fragments)
        ⟨.ok ⟨merged.model.entities.size, paths, merged.collisions⟩,
          preparing fragments merged ++
            madeEvents (plan merged.model config.fallbackSchema) paths ++
            [.stage (.done merged.model.entities.size)], d'⟩

/-- **Every run takes one of the courses.** -/
theorem course_generate (engine : Engine) (base : FilePath) (config : Config)
    (source : Except Error (List Fragment)) (d : Disk) :
    Course engine base config d source (generate engine base config source d) := by
  cases source with
  | error e => exact .unfound
  | ok fragments =>
    simp only [generate, proceed]
    cases merges : mergeFragments config.markerKey fragments with
    | error e => exact .unmerged merges
    | ok merged =>
      simp only [finish]
      cases checked : checkPaths (config.outputPath base) [] (claims merged.model) with
      | error e =>
        convert Course.unchecked merges checked using 2
        simp [failure, opening]
      | ok _ =>
        rcases makeFiles_cases engine (config.outputPath base)
          (plan merged.model config.fallbackSchema) d with
          ⟨paths, d', makes, eq⟩ |
          ⟨before, job, after, paths, d₁, e, d', split, makes, fails, eq⟩
        · rw [eq]
          convert Course.finished merges checked makes using 2
          simp [failure, opening, preparing]
        · rw [eq]
          convert Course.stopped merges checked split makes fails using 2
          simp [failure, opening, preparing]

/-- **A course that succeeds** is the one in which the whole plan is made, and the summary
says of it what it came to. -/
theorem Course.exists_makes_of_ok {engine : Engine} {base : FilePath} {config : Config}
    {d : Disk} {source : Except Error (List Fragment)} {run : Run} {summary : Summary}
    (course : Course engine base config d source run) (succeeds : run.result = .ok summary) :
    ∃ fragments merged, source = .ok fragments ∧
      mergeFragments config.markerKey fragments = .ok merged ∧
      checkPaths (config.outputPath base) [] (claims merged.model) = .ok () ∧
      Makes engine (config.outputPath base) d (plan merged.model config.fallbackSchema)
        summary.files run.disk ∧
      summary.entities = merged.model.entities.size ∧ summary.collisions = merged.collisions := by
  cases course with
  | unfound => cases succeeds
  | unmerged => cases succeeds
  | unchecked => cases succeeds
  | stopped => cases succeeds
  | finished merges checked makes =>
    obtain rfl := Except.ok.inj succeeds
    exact ⟨_, _, rfl, merges, checked, makes, rfl, rfl⟩

end Generation

end SchemaGen
