import SchemaGen.Proofs.Template.Loading

/-!
# Libraries that grow

A library keeps two records of its templates: the names that were added, and what
is held for rendering. Calls that add a template may fail at any point of a
sequence. A call that fails changes neither record (`run_put_error`), one that
succeeds changes both (`run_put`), and so they agree on the names after every
sequence (`inStep_after`). A library that was loaded from a directory is one of
these (`exists_after_of_ofDirectory`).
-/

namespace SchemaGen.Template

/-- A template that is to be added. -/
structure Addition where
  name : String
  source : String

/-- The source is that of a template. -/
def Addition.Parses (a : Addition) : Prop :=
  ∃ stmts, parse a.source = .ok stmts

namespace Library

variable {l m : Library} {a : Addition} {n : String}

/-! ## One call -/

/-- The library that a call leaves, whether or not it succeeds. -/
def afterCall (l : Library) (a : Addition) : Library :=
  match (put a.name a.source).run l with
  | .ok () m | .error _ m => m

/-- **A call that fails changes nothing.** -/
theorem run_put_error {name source : String} {fault : Fault}
    (failed : (put name source).run l = .error fault m) : m = l := by
  rw [run_put] at failed
  cases parsed : parse source with
  | ok stmts => simp [parsed] at failed
  | error t =>
    simp only [parsed, EStateM.Result.error.injEq] at failed
    exact failed.2.symm

/-- A call succeeds just if its source is that of a template. -/
theorem exists_run_put_iff :
    (∃ m, (put a.name a.source).run l = .ok () m) ↔ a.Parses := by
  rw [run_put]
  unfold Addition.Parses
  cases parse a.source <;> simp

theorem add_eq_ok_of_parse {stmts : List Stmt} (parsed : parse a.source = .ok stmts) :
    l.add a.name a.source = .ok (l.afterCall a) := by
  unfold add afterCall
  rw [run_put, parsed]

theorem afterCall_of_not_parses (refused : ¬ a.Parses) : l.afterCall a = l := by
  cases ran : (put a.name a.source).run l with
  | ok _ m => exact absurd (exists_run_put_iff.mp ⟨m, ran⟩) refused
  | error fault m =>
    unfold afterCall
    rw [ran]
    exact run_put_error ran

/-- What is held under a name after a call. -/
theorem get?_afterCall {stmts : List Stmt} (parsed : parse a.source = .ok stmts) :
    (l.afterCall a).get? n = if n = a.name then some stmts else l.get? n := by
  obtain ⟨_, same, after⟩ := add_eq_ok_iff.mp (add_eq_ok_of_parse (l := l) parsed)
  obtain rfl := Except.ok.inj (parsed.symm.trans same)
  rw [after]
  exact Catalog.get?_insert _ _ _ _

theorem get?_afterCall_of_ne (other : a.Parses → a.name ≠ n) :
    (l.afterCall a).get? n = l.get? n := by
  by_cases parses : a.Parses
  · obtain ⟨stmts, parsed⟩ := id parses
    rw [get?_afterCall parsed, if_neg (other parses).symm]
  · rw [afterCall_of_not_parses parses]

/-! ## Both records -/

/-- The names that were added are those that are held. -/
def InStep (l : Library) : Prop :=
  ∀ n, l.has n = l.holds n

theorem InStep.empty : InStep {} := fun _ => rfl

/-- One call keeps the records in step. -/
theorem InStep.afterCall (inStep : l.InStep) (a : Addition) : (l.afterCall a).InStep := by
  by_cases parses : a.Parses
  · obtain ⟨stmts, parsed⟩ := parses
    intro n
    rw [has_add (add_eq_ok_of_parse parsed), inStep n]
    unfold holds
    rw [get?_afterCall parsed]
    by_cases same : n = a.name <;> simp [same]
  · rwa [afterCall_of_not_parses parses]

/-! ## Sequences of calls -/

/-- The library after calls on an empty one. -/
def after (calls : List Addition) : Library :=
  calls.foldl afterCall {}

theorem after_append (calls more : List Addition) :
    after (calls ++ more) = more.foldl afterCall (after calls) :=
  List.foldl_append

/-- **The records are in step after every sequence of calls.** -/
theorem inStep_after (calls : List Addition) : (after calls).InStep := by
  suffices kept : ∀ l : Library, l.InStep → (calls.foldl afterCall l).InStep from kept _ .empty
  induction calls with
  | nil => exact fun _ inStep => inStep
  | cons a rest ih => exact fun l inStep => ih _ (inStep.afterCall a)

/-- One of the calls succeeds, in the library that those before it leave. -/
def Adds (calls : List Addition) (a : Addition) : Prop :=
  ∃ earlier later m, calls = earlier ++ a :: later ∧
    (put a.name a.source).run (after earlier) = .ok () m

/-- Whether a call succeeds does not depend on those before it. -/
theorem adds_iff {calls : List Addition} : Adds calls a ↔ a ∈ calls ∧ a.Parses := by
  constructor
  · rintro ⟨earlier, later, m, rfl, ran⟩
    exact ⟨by simp, exists_run_put_iff.mp ⟨m, ran⟩⟩
  · rintro ⟨member, parses⟩
    obtain ⟨earlier, later, rfl⟩ := List.append_of_mem member
    obtain ⟨m, ran⟩ := exists_run_put_iff.mpr parses
    exact ⟨earlier, later, m, rfl, ran⟩

/-- Calls for other names, and calls that fail, leave what is held under a name. -/
theorem get?_foldl_afterCall {calls : List Addition}
    (others : ∀ a ∈ calls, a.Parses → a.name ≠ n) :
    (calls.foldl afterCall l).get? n = l.get? n := by
  induction calls generalizing l with
  | nil => rfl
  | cons a rest ih =>
    rw [List.forall_mem_cons] at others
    rw [List.foldl_cons, ih others.2, get?_afterCall_of_ne others.1]

/-- **The last call that succeeds** decides what is held. -/
theorem get?_after {earlier later : List Addition} {stmts : List Stmt}
    (parsed : parse a.source = .ok stmts)
    (last : ∀ b ∈ later, b.Parses → b.name ≠ a.name) :
    (after (earlier ++ a :: later)).get? a.name = some stmts := by
  rw [after_append, List.foldl_cons, get?_foldl_afterCall last, get?_afterCall parsed,
    if_pos rfl]

/-- A name is in the library just if some call added it. -/
theorem has_after {calls : List Addition} :
    (after calls).has n = true ↔ ∃ a ∈ calls, a.Parses ∧ a.name = n := by
  suffices folded : ∀ l : Library, (calls.foldl afterCall l).has n = true ↔
      l.has n = true ∨ ∃ a ∈ calls, a.Parses ∧ a.name = n by
    exact (folded {}).trans (or_iff_right nofun)
  induction calls with
  | nil => simp
  | cons a rest ih =>
    intro l
    rw [List.foldl_cons, ih]
    by_cases parses : a.Parses
    · obtain ⟨stmts, parsed⟩ := id parses
      rw [has_add (add_eq_ok_of_parse parsed), Bool.or_eq_true, decide_eq_true_eq]
      simp only [List.mem_cons, or_and_right, exists_or, exists_eq_left, parses, true_and,
        eq_comm (a := a.name), or_assoc, or_left_comm]
    · rw [afterCall_of_not_parses parses]
      simp only [List.mem_cons, or_and_right, exists_or, exists_eq_left, parses, false_and,
        false_or]

/-! ## Loaded libraries -/

theorem exists_calls_of_collect {d : File.Disk} {dir : File.FilePath} {visits : List File.Visit}
    (collected : (collect d dir l visits).1 = .ok m) :
    ∃ calls : List Addition, m = calls.foldl afterCall l := by
  induction visits generalizing l with
  | nil =>
    obtain rfl := Except.ok.inj collected
    exact ⟨[], rfl⟩
  | cons visit rest ih =>
    cases visit with
    | fault cause => cases collected
    | directory p => exact ih collected
    | file p =>
      unfold collect at collected
      split at collected
      · cases collected
      · rename_i source _
        dsimp only at collected
        split at collected
        · cases collected
        · rename_i next added
          obtain ⟨stmts, parsed⟩ := parse_of_add added
          obtain ⟨calls, rfl⟩ := ih collected
          let a : Addition := ⟨nameOf dir p, source⟩
          obtain rfl : next = l.afterCall a :=
            Except.ok.inj (added.symm.trans (add_eq_ok_of_parse (a := a) parsed))
          exact ⟨a :: calls, rfl⟩

/-- A library that was loaded came about by calls that add templates. -/
theorem exists_after_of_ofDirectory {d : File.Disk} {dir : File.FilePath}
    (loaded : (ofDirectory d dir).1 = .ok l) : ∃ calls, l = after calls := by
  unfold ofDirectory at loaded
  split at loaded
  · exact exists_calls_of_collect loaded
  · cases loaded

/-! ## Rendering -/

/-- A template is missing just if none is held under its name. -/
theorem render_eq_templateNotFound_iff {missing : String} {c : Context} :
    l.render n c = .error (.templateNotFound missing) ↔ missing = n ∧ l.holds n = false := by
  unfold render holds
  cases l.get? n with
  | none => simp [eq_comm]
  | some stmts =>
    dsimp only
    cases l.renderWith n stmts (namesFor c) with
    | ok text => exact ⟨nofun, fun ⟨_, absent⟩ => nomatch absent⟩
    | error fault => exact ⟨nofun, fun ⟨_, absent⟩ => nomatch absent⟩

/-- If a template is held, what goes wrong with it is a fault of the template. -/
theorem exists_fault_of_render {c : Context} {e : Error} (held : l.holds n = true)
    (failed : l.render n c = .error e) : ∃ fault, e = .template fault := by
  obtain ⟨stmts, found⟩ := Option.isSome_iff_exists.mp held
  simp only [render, found] at failed
  generalize l.renderWith n stmts (namesFor c) = rendered at failed
  cases rendered with
  | ok text => cases failed
  | error fault => exact ⟨fault, (Except.error.inj failed).symm⟩

/-- An include evaluates the name, and then includes what it names. -/
theorem exec_embed {fuel : Nat} {p : Place} {e : Expr} {ignoreMissing : Bool} :
    Render.exec l (fuel + 1) p (.embed e ignoreMissing) =
      Render.eval l fuel p e >>= (Render.embed l fuel p e.lastLine · ignoreMissing) := by
  rw [Render.exec]

/-- **An include that finds no template** is a fault of the template that has it. -/
theorem exec_embed_missing {fuel : Nat} {p : Place} {e : Expr} {s s' : State} {v : Val}
    {names : List String} (evaluated : (Render.eval l fuel p e).run s = .ok (v, s'))
    (wanted : Render.templateNames v = .ok names) (some : names ≠ [])
    (missing : ∀ name ∈ names, l.holds name = false) :
    (Render.exec l (fuel + 1) p (.embed e false)).run s =
      .error ⟨.missingTemplate, p.template, e.lastLine⟩ := by
  rw [exec_embed, StateT.run_bind, evaluated]
  cases fuel with
  | zero =>
    rw [Render.eval] at evaluated
    cases evaluated
  | succ fuel =>
    have none : names.find? l.holds = none := by simpa [List.find?_eq_none] using missing
    change (Render.embed l (fuel + 1) p e.lastLine v false).run s' = _
    rw [Render.embed, wanted]
    simp only [Place.lift, pure_bind, none]
    rw [List.isEmpty_eq_false_iff.mpr some]
    rfl

end Library

end SchemaGen.Template
