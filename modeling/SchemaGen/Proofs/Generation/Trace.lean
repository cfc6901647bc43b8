import SchemaGen.Proofs.Generation.Course

/-!
# What the observer of a run sees

The events of a run are one fixed word, given by the fragments, the merged model
and the paths (`story`). A run that fails cuts the word after a step that can
fail (`Cut`) and adds the failure. So exactly one event ends a run, and it is
the last one.
-/

namespace SchemaGen

open SchemaGen.File

namespace Event

/-- The entity and the kind that are begun. -/
def rendering? : Event → Option (String × OutputKind)
  | .stage (.rendering entity kind) => some (entity, kind)
  | _ => none

/-- The path that is written. -/
def written? : Event → Option FilePath
  | .stage (.written path) => some path
  | _ => none

/-- The collision that is told of. -/
def collision? : Event → Option Collision
  | .collision c => some c
  | _ => none

/-- Is the run over with this event? -/
def isFinal : Event → Bool
  | .stage (.done _) | .stage (.failed _) => true
  | _ => false

end Event

namespace Generation

/-- The events of a run that makes all its files. -/
def story (config : Config) (fragments : List Fragment) (merged : Merged)
    (paths : List FilePath) : List Event :=
  preparing fragments merged ++ madeEvents (plan merged.model config.fallbackSchema) paths ++
    [.stage (.done merged.model.entities.size)]

/-- The events before a failure, by the step that fails: finding fragments,
merging them, checking the paths, or making a file of the plan. -/
inductive Cut (base : FilePath) (config : Config) :
    Except Error (List Fragment) → List Event → Prop where
  | finding {e : Error} : Cut base config (.error e) [.stage .idle]
  | merging {fragments : List Fragment} {e : Error}
      (refused : mergeFragments config.markerKey fragments = .error e) :
      Cut base config (.ok fragments) [.stage .idle, .stage (.discovered fragments.length)]
  | checking {fragments : List Fragment} {merged : Merged} {e : Error}
      (merges : mergeFragments config.markerKey fragments = .ok merged)
      (refused : checkPaths (config.outputPath base) [] (claims merged.model) = .error e) :
      Cut base config (.ok fragments) (opening fragments merged)
  | making {fragments : List Fragment} {merged : Merged} {before after : List Job} {job : Job}
      {paths : List FilePath}
      (merges : mergeFragments config.markerKey fragments = .ok merged)
      (split : plan merged.model config.fallbackSchema = before ++ job :: after)
      (found : HavePaths (config.outputPath base) (before.map Job.claim) paths) :
      Cut base config (.ok fragments)
        (preparing fragments merged ++ madeEvents before paths ++ [job.rendering])

/-! ## Events of the parts -/

section

variable {fragments : List Fragment} {merged : Merged} {jobs : List Job} {paths : List FilePath}

theorem written_preparing : (preparing fragments merged).filterMap Event.written? = [] := by
  simp [preparing, opening, List.filterMap_cons, Event.written?, Function.comp_def,
    -List.filterMap_eq_nil_iff]

theorem rendering_preparing : (preparing fragments merged).filterMap Event.rendering? = [] := by
  simp [preparing, opening, List.filterMap_cons, Event.rendering?, Function.comp_def,
    -List.filterMap_eq_nil_iff]

theorem collision_preparing :
    (preparing fragments merged).filterMap Event.collision? = merged.collisions := by
  simp [preparing, opening, List.filterMap_cons, Event.collision?, Function.comp_def]

theorem written_madeEvents (same : jobs.length = paths.length) :
    (madeEvents jobs paths).filterMap Event.written? = paths := by
  have each : ∀ made : Job × FilePath,
      [made.1.rendering, .stage (.written made.2)].filterMap Event.written? = [made.2] :=
    fun _ => rfl
  rw [madeEvents, List.filterMap_flatMap]
  simp only [each]
  rw [← List.map_eq_flatMap, List.map_snd_zip (Nat.le_of_eq same.symm)]

theorem rendering_madeEvents (same : jobs.length = paths.length) :
    (madeEvents jobs paths).filterMap Event.rendering? = jobs.map Job.claim := by
  have each : ∀ made : Job × FilePath,
      [made.1.rendering, .stage (.written made.2)].filterMap Event.rendering? = [made.1.claim] :=
    fun _ => rfl
  rw [madeEvents, List.filterMap_flatMap]
  simp only [each]
  rw [← List.map_eq_flatMap, ← Function.comp_def Job.claim, ← List.map_map,
    List.map_fst_zip (Nat.le_of_eq same)]

theorem collision_madeEvents : (madeEvents jobs paths).filterMap Event.collision? = [] := by
  have each : ∀ made : Job × FilePath,
      [made.1.rendering, .stage (.written made.2)].filterMap Event.collision? = [] :=
    fun _ => rfl
  rw [madeEvents, List.filterMap_flatMap]
  exact List.flatMap_eq_nil_iff.mpr fun made _ => each made

/-- No event of the list ends the run. -/
def Unfinished (events : List Event) : Prop :=
  ∀ event ∈ events, event.isFinal = false

theorem Unfinished.append {front back : List Event} (first : Unfinished front)
    (second : Unfinished back) : Unfinished (front ++ back) :=
  List.forall_mem_append.mpr ⟨first, second⟩

theorem unfinished_opening : Unfinished (opening fragments merged) := by
  simp [Unfinished, opening, or_imp, forall_and, Event.isFinal]

theorem unfinished_preparing : Unfinished (preparing fragments merged) :=
  unfinished_opening.append (by simp [Unfinished, Event.isFinal])

theorem unfinished_madeEvents : Unfinished (madeEvents jobs paths) := by
  intro event member
  obtain ⟨made, _, member⟩ := List.mem_flatMap.mp member
  rcases List.mem_pair.mp member with rfl | rfl
  · rfl
  · rfl

end

/-- What stands before a failure does not end the run. -/
theorem Cut.unfinished {base : FilePath} {config : Config}
    {source : Except Error (List Fragment)} {events : List Event}
    (cut : Cut base config source events) : Unfinished events := by
  cases cut with
  | finding => simp [Unfinished, Event.isFinal]
  | merging => simp [Unfinished, Event.isFinal]
  | checking => exact unfinished_opening
  | making =>
    exact (unfinished_preparing.append unfinished_madeEvents).append
      (by simp [Unfinished, Job.rendering, Event.isFinal])

/-! ## Events of the whole story -/

section

variable {root : FilePath} {config : Config} {fragments : List Fragment} {merged : Merged}
  {paths : List FilePath}

theorem HavePaths.length_plan (paired : HavePaths root (claims merged.model) paths) :
    (plan merged.model config.fallbackSchema).length = paths.length := by
  rw [claims_eq _ config.fallbackSchema] at paired
  rw [← paired.length_eq, List.length_map]

/-- The story tells of the paths, in their order. -/
theorem written_story (paired : HavePaths root (claims merged.model) paths) :
    (story config fragments merged paths).filterMap Event.written? = paths := by
  rw [story, List.filterMap_append, List.filterMap_append, written_preparing,
    written_madeEvents paired.length_plan]
  simp [Event.written?]

/-- The story tells of the collisions, in their order. -/
theorem collision_story :
    (story config fragments merged paths).filterMap Event.collision? = merged.collisions := by
  rw [story, List.filterMap_append, List.filterMap_append, collision_preparing,
    collision_madeEvents]
  simp [Event.collision?]

end

/-! ## Events of a run that stops -/

section

variable {fragments : List Fragment} {merged : Merged} {before : List Job} {job : Job}
  {paths : List FilePath} {message : String}

/-- A run that stops at a job has begun the jobs up to that one. -/
theorem rendering_stopped (same : before.length = paths.length) :
    (preparing fragments merged ++ madeEvents before paths ++
      [job.rendering, .stage (.failed message)]).filterMap Event.rendering? =
        (before ++ [job]).map Job.claim := by
  rw [List.filterMap_append, List.filterMap_append, rendering_preparing,
    rendering_madeEvents same]
  simp [Job.rendering, Job.claim, Event.rendering?]

/-- A run that stops at a job has written the files of those before. -/
theorem written_stopped (same : before.length = paths.length) :
    (preparing fragments merged ++ madeEvents before paths ++
      [job.rendering, .stage (.failed message)]).filterMap Event.written? = paths := by
  rw [List.filterMap_append, List.filterMap_append, written_preparing, written_madeEvents same]
  simp [Job.rendering, Event.written?]

end

/-! ## The events of a run -/

/-- A failed course tells a cut and the failure, any other one the whole story. -/
theorem Course.told {engine : Engine} {base : FilePath} {config : Config} {d : Disk}
    {source : Except Error (List Fragment)} {run : Run}
    (course : Course engine base config d source run) :
    (∃ e cut, run.result = .error e ∧ Cut base config source cut ∧
      run.events = cut ++ [.stage (.failed e.message)]) ∨
    ∃ fragments merged paths, source = .ok fragments ∧
      mergeFragments config.markerKey fragments = .ok merged ∧
      HavePaths (config.outputPath base) (claims merged.model) paths ∧
      run.result = .ok ⟨merged.model.entities.size, paths, merged.collisions⟩ ∧
      run.events = story config fragments merged paths := by
  cases course with
  | unfound => exact .inl ⟨_, _, rfl, .finding, rfl⟩
  | unmerged refused => exact .inl ⟨_, _, rfl, .merging refused, rfl⟩
  | unchecked merges refused => exact .inl ⟨_, _, rfl, .checking merges refused, rfl⟩
  | stopped merges checked split makes fails =>
    exact .inl ⟨_, _, rfl, .making merges split makes.havePaths, by simp⟩
  | finished merges checked makes =>
    exact .inr ⟨_, _, _, rfl, merges, (makes.paths_of_checked checked).1, rfl, rfl⟩

/-- **The events of a run.** With all files made they are the whole story, whose
paths and collisions are those of the summary. With an error they are a cut of
it and the failure. One event is final, the last one, and it tells how the run
went. -/
theorem events_generate (engine : Engine) (base : FilePath) (config : Config)
    (source : Except Error (List Fragment)) (d : Disk) :
    let run := generate engine base config source d
    (∀ summary, run.result = .ok summary →
      ∃ fragments merged, source = .ok fragments ∧
        mergeFragments config.markerKey fragments = .ok merged ∧
        HavePaths (config.outputPath base) (claims merged.model) summary.files ∧
        run.events = story config fragments merged summary.files ∧
        summary.entities = merged.model.entities.size ∧
        run.events.filterMap Event.written? = summary.files ∧
        run.events.filterMap Event.collision? = summary.collisions) ∧
    (∀ e, run.result = .error e →
      ∃ cut, Cut base config source cut ∧ run.events = cut ++ [.stage (.failed e.message)]) ∧
    ∃ front last, run.events = front ++ [last] ∧ Unfinished front ∧
      ((∃ n, last = .stage (.done n)) ∧ run.result.isOk = true ∨
        (∃ message, last = .stage (.failed message)) ∧ run.result.isOk = false) := by
  intro run
  have told := (course_generate engine base config source d).told
  change (∃ e cut, run.result = .error e ∧ _ ∧ run.events = _) ∨
    ∃ fragments merged paths, _ ∧ _ ∧ _ ∧ run.result = _ ∧ run.events = _ at told
  rcases told with ⟨e, cut, result, stops, events⟩ |
    ⟨fragments, merged, paths, found, merges, paired, result, events⟩
  · rw [result, events]
    refine ⟨nofun, ?_, cut, _, rfl, stops.unfinished, .inr ⟨⟨_, rfl⟩, rfl⟩⟩
    rintro _ ⟨⟩
    exact ⟨cut, stops, rfl⟩
  · rw [result, events]
    refine ⟨?_, nofun, _, _, rfl, unfinished_preparing.append unfinished_madeEvents,
      .inl ⟨⟨_, rfl⟩, rfl⟩⟩
    rintro _ ⟨⟩
    exact ⟨fragments, merged, found, merges, paired, rfl, rfl, written_story paired,
      collision_story⟩

end Generation

end SchemaGen
