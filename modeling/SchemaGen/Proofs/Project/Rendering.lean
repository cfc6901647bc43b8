import SchemaGen.Proofs.Discovery.Complete
import SchemaGen.Proofs.Project.Rerun
import SchemaGen.Proofs.Steps
import SchemaGen.Proofs.Template.Adding

/-!
# Templates are never found missing

A run looks for its templates once, when they are loaded. After that every kind
has one that is held for rendering, since the names of a library are in step
with what it holds, and no other step of a run reports a missing template.
-/

namespace SchemaGen

open SchemaGen.File SchemaGen.Template SchemaGen.Template.Library

/-- The error is not that a template is missing. -/
def Error.Elsewhere (e : Error) : Prop :=
  ∀ n, e ≠ .templateNotFound n

/-! ## Steps that do not look for templates -/

section

variable {d d' : Disk} {e : Error}

theorem Search.elsewhere_of_collect {s : Search} {visits : List Visit}
    (failed : (s.collect d visits).1 = .error e) : e.Elsewhere := by
  obtain ⟨visit, _, stops⟩ := List.exists_of_findSome?_eq_some (collect_eq_error_iff.mp failed)
  cases visit with
  | fault cause =>
    cases stops
    exact fun _ => nofun
  | directory p => cases stops
  | file p =>
    obtain ⟨_, refuses⟩ := stop?_file_eq_some_iff.mp stops
    cases refuses <;> exact fun _ => nofun

theorem Search.elsewhere_of_load {s : Search} {root : FilePath}
    (failed : (s.load d root).1 = .error e) : e.Elsewhere := by
  rcases load_eq_error_iff.mp failed with failed | ⟨_, rfl⟩
  · unfold discover at failed
    split at failed
    · exact elsewhere_of_collect failed
    · cases failed
  · exact fun _ => nofun

theorem Fragment.elsewhere_of_decode {marker : String} {f : Fragment}
    (failed : f.decode marker = .error e) : e.Elsewhere := by
  unfold decode at failed
  split at failed
  · cases failed
    exact fun _ => nofun
  · rename_i body _
    cases decoded : Decode.sections body with
    | ok part =>
      rw [decoded] at failed
      cases failed
    | error misfit =>
      rw [decoded] at failed
      cases failed
      exact fun _ => nofun

theorem elsewhere_of_mergeFragments {marker : String} {fragments : List Fragment}
    (failed : mergeFragments marker fragments = .error e) : e.Elsewhere := by
  rcases bind_eq_error.mp failed with failed | ⟨m, _, failed⟩
  · obtain ⟨f, _, m, refused⟩ := exists_error_of_foldlM failed
    exact Fragment.elsewhere_of_decode (Merge.absorb_eq_error_iff.mp refused)
  · unfold Merge.finish at failed
    split at failed
    · cases failed
      exact fun _ => nofun
    · cases failed

theorem OutputKind.elsewhere_of_pathFor {kind : OutputKind} {root : FilePath} {entity : String}
    (failed : kind.pathFor root entity = .error e) : e.Elsewhere := by
  unfold pathFor at failed
  split at failed
  · cases failed
    exact fun _ => nofun
  · cases failed

theorem Generation.elsewhere_of_checkPaths {root : FilePath} {taken : List (FilePath × String)}
    {wanted : List (String × OutputKind)} (failed : checkPaths root taken wanted = .error e) :
    e.Elsewhere := by
  induction wanted generalizing taken with
  | nil => cases failed
  | cons claim rest ih =>
    obtain ⟨name, kind⟩ := claim
    rw [checkPaths] at failed
    rcases bind_eq_error.mp failed with refused | ⟨path, _, failed⟩
    · exact OutputKind.elsewhere_of_pathFor refused
    · cases known : taken.lookup path with
      | none => exact ih (by simpa only [known] using failed)
      | some first =>
        rw [known] at failed
        cases failed
        intro n other
        cases other

theorem elsewhere_of_writeOutput {root : FilePath} {entity content : String} {kind : OutputKind}
    (failed : writeOutput d root entity kind content = (.error e, d')) : e.Elsewhere := by
  rcases (writeOutput_error failed).2 with refused | ⟨_, _, _, _, rfl, _⟩
  · exact OutputKind.elsewhere_of_pathFor refused
  · exact fun _ => nofun

end

namespace Project

variable {d d' : Disk} {env : Environment} {base : FilePath} {config : Config}
  {library : Library}

/-! ## Steps that render -/

/-- A library that is ready came about by adding templates. -/
theorem exists_after_of_loadTemplates {dir : FilePath}
    (ready : (loadTemplates d dir).1 = .ok library) : ∃ calls, library = after calls := by
  unfold loadTemplates at ready
  cases loaded : ofDirectory d dir with
  | mk result lines =>
    rw [loaded] at ready
    match result, ready with
    | .ok l, ready =>
      dsimp only at ready
      split at ready
      · cases ready
      · cases ready
        exact exists_after_of_ofDirectory (congrArg Prod.fst loaded)

/-- A job that fails does not miss its template. -/
theorem elsewhere_of_fails {dir root : FilePath} {job : Job} {e : Error}
    (ready : (loadTemplates d dir).1 = .ok library)
    {d₁ : Disk} (fails : Generation.Fails library.render root d₁ job e d') : e.Elsewhere := by
  obtain ⟨_, _, required⟩ := loadTemplates_ok ready
  obtain ⟨calls, rfl⟩ := exists_after_of_loadTemplates ready
  cases fails with
  | rendering refused =>
    have held : (after calls).holds job.kind.template = true :=
      (inStep_after calls _).symm.trans (required job.kind)
    obtain ⟨_, rfl⟩ := exists_fault_of_render held refused
    exact fun _ => nofun
  | writing _ refused => exact elsewhere_of_writeOutput refused

/-- **Once the templates are ready** nothing in a run finds one missing. -/
theorem elsewhere_of_execute {e : Error}
    (configured : (Config.load d env base).1 = .ok config)
    (ready : (loadTemplates d (config.templatePath base)).1 = .ok library)
    (failed : (execute d env base).result = .error e) : e.Elsewhere := by
  have execution := execution_execute d env base
  generalize execute d env base = outcome at execution failed
  cases execution with
  | unconfigured refused => exact nomatch configured.symm.trans (congrArg Prod.fst refused)
  | unprepared configured' refused =>
    obtain rfl := Except.ok.inj (configured.symm.trans (congrArg Prod.fst configured'))
    exact nomatch ready.symm.trans (congrArg Prod.fst refused)
  | generated configured' ready' searched course =>
    obtain rfl := Except.ok.inj (configured.symm.trans (congrArg Prod.fst configured'))
    obtain rfl := Except.ok.inj (ready.symm.trans (congrArg Prod.fst ready'))
    cases course with
    | unfound =>
      cases failed
      exact Search.elsewhere_of_load (congrArg Prod.fst searched)
    | unmerged refused =>
      cases failed
      exact elsewhere_of_mergeFragments refused
    | unchecked _ refused =>
      cases failed
      exact Generation.elsewhere_of_checkPaths refused
    | stopped _ _ _ _ fails =>
      cases failed
      exact elsewhere_of_fails ready fails
    | finished => cases failed

/-! ## The names and the templates -/

/-- **The names of a library never drift apart from its templates.** After every
sequence of calls, of which some may fail, a name is in the library just if a call
added it, which is just if rendering finds it, and the source that was added last
is rendered. A call that fails changes nothing, and an include that finds no template
is a fault of the template that has it. So once its templates are ready, no run
ends with a template that is missing. -/
theorem templates_in_step :
    (∀ (l : Library) (a : Addition),
      (∃ m, (put a.name a.source).run l = .ok () m) ↔ a.Parses) ∧
    (∀ (l m : Library) (a : Addition) (fault : Template.Fault),
      (put a.name a.source).run l = .error fault m → m = l) ∧
    (∀ (calls : List Addition) (n : String),
      ((after calls).has n = true ↔ ∃ a, Adds calls a ∧ a.name = n) ∧
      ∀ c : Context,
        ((after calls).has n = true ↔ (after calls).render n c ≠ .error (.templateNotFound n)) ∧
        ∀ e, (after calls).has n = true → (after calls).render n c = .error e →
          ∃ fault, e = .template fault) ∧
    (∀ (earlier later : List Addition) (a : Addition), a.Parses →
      (∀ b ∈ later, b.Parses → b.name ≠ a.name) →
      ∃ stmts, parse a.source = .ok stmts ∧ ∀ c : Context,
        (after (earlier ++ a :: later)).render a.name c =
          ((after (earlier ++ a :: later)).renderWith a.name stmts (namesFor c)).mapError
            .template) ∧
    (∀ (calls : List Addition) (fuel : Nat) (p : Template.Place) (e : Expr) (s s' : State)
      (v : Val) (names : List String), (Render.eval (after calls) fuel p e).run s = .ok (v, s') →
      Render.templateNames v = .ok names → names ≠ [] →
      (∀ name ∈ names, (after calls).has name = false) →
      (Render.exec (after calls) (fuel + 1) p (.embed e false)).run s =
        .error ⟨.missingTemplate, p.template, e.lastLine⟩) ∧
    ∀ (d : Disk) (env : Environment) (base : FilePath) (config : Config) (library : Library),
      (Config.load d env base).1 = .ok config →
      (loadTemplates d (config.templatePath base)).1 = .ok library →
      (∃ calls, library = after calls) ∧
        ∀ n, (execute d env base).result ≠ .error (.templateNotFound n) := by
  refine ⟨fun l a => exists_run_put_iff, fun l m a fault => run_put_error, ?_, ?_, ?_, ?_⟩
  · intro calls n
    have held : (after calls).has n = (after calls).holds n := inStep_after calls n
    refine ⟨?_, fun c => ⟨?_, fun e known => exists_fault_of_render (held.symm.trans known)⟩⟩
    · simp only [has_after, adds_iff, and_assoc]
    · rw [Ne, render_eq_templateNotFound_iff, held]
      simp
  · rintro earlier later a ⟨stmts, parsed⟩ last
    refine ⟨stmts, parsed, fun c => ?_⟩
    unfold render
    rw [get?_after parsed last]
  · intro calls fuel p e s s' v names evaluated wanted some missing
    refine exec_embed_missing evaluated wanted some fun name member => ?_
    exact (inStep_after calls name).symm.trans (missing name member)
  · intro d env base config library configured ready
    exact ⟨exists_after_of_loadTemplates ready,
      fun n failed => elsewhere_of_execute configured ready failed n rfl⟩

/-- Two sources under one name, of which the second is kept, and one that is no
template. -/
def drafts : List Addition :=
  [⟨"order", "old"⟩, ⟨"order", "new"⟩, ⟨"order", "\x7b% if"⟩]

open WorkshopRun in
theorem templates_in_step_drafts :
    ((put "order" "\x7b% if").run (after (drafts.take 2)) =
        .error ⟨.malformed, "order", 1⟩ (after drafts) ∧
      after drafts = after (drafts.take 2)) ∧
    ((after drafts).has "order" = true ∧
      (after drafts).render "order" default ≠ .error (.templateNotFound "order") ∧
      (after drafts).render "order" default = .ok "new") ∧
    ((after drafts).has "gone" = false ∧
      (Render.exec (after drafts) 2 ⟨"order", false, none⟩
        (.embed (.literal 1 (.str "gone")) false)).run { context := [] } =
        .error ⟨.missingTemplate, "order", 1⟩) ∧
    ∃ library, (Config.load stale.before stale.env ⟨"."⟩).1 = .ok stale.config ∧
      (loadTemplates stale.before (stale.config.templatePath ⟨"."⟩)).1 = .ok library ∧
      (∃ calls, library = after calls) ∧
      ∀ n, (execute stale.before stale.env ⟨"."⟩).result ≠ .error (.templateNotFound n) := by
  obtain ⟨succeeds, keeps, known, last, missing, runs⟩ := templates_in_step
  refine ⟨?_, ?_, ?_, ?_⟩
  · have failed : (put "order" "\x7b% if").run (after (drafts.take 2)) =
        .error ⟨.malformed, "order", 1⟩ (after drafts) := by rfl
    exact ⟨failed, keeps _ _ ⟨"order", "\x7b% if"⟩ _ failed⟩
  · have refused : ¬ (⟨"order", "\x7b% if"⟩ : Addition).Parses := by
      rw [← succeeds {}]
      rintro ⟨m, ran⟩
      cases ran
    obtain ⟨stmts, parsed, rendered⟩ := last [⟨"order", "old"⟩] [⟨"order", "\x7b% if"⟩]
      ⟨"order", "new"⟩ ⟨_, rfl⟩ (by simpa using fun parses => absurd parses refused)
    obtain rfl : [.text "new"] = stmts := Except.ok.inj parsed
    have has : (after drafts).has "order" = true := by rfl
    refine ⟨has, ((known drafts "order").2 default).1.mp has, (rendered default).trans ?_⟩
    decide +kernel
  · have absent : (after drafts).has "gone" = false := by rfl
    refine ⟨absent, missing drafts 1 ⟨"order", false, none⟩ (.literal 1 (.str "gone"))
      { context := [] } { context := [] } (.text "gone") ["gone"] ?_ rfl (by decide) ?_⟩
    · unfold Render.eval
      rfl
    · simpa using absent
  · have chosen : stale ∈ WorkshopRun.all := List.mem_cons_self
    obtain ⟨config, library, _, _, _, s, _⟩ := exists_succeeds_of_ok (outcome_eq chosen).1
    obtain rfl := config_eq chosen s.valid.configured
    exact ⟨library, s.valid.configured, s.valid.ready,
      runs _ _ _ _ library s.valid.configured s.valid.ready⟩

end Project

end SchemaGen
