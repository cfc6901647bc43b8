import SchemaGen.Proofs.Generation.Trace
import SchemaGen.Proofs.Model.Merging
import SchemaGen.Proofs.Steps

/-!
# Which kinds are made

A target requests the kind that its key names, in any letter case, unless its value
declines. The wanted kinds are the requested ones, and all of them if no target so much
as mentions a kind (`mem_outputs_iff`); what other keys say never counts. So they are the
requested ones, or all if there are none, unless the model is `Muted`: every target that
mentions a kind declines. Then nothing is wanted, and a run counts its entities without
making a file for any of them (`selection_iff_not_muted`).
-/

namespace SchemaGen

open SchemaGen.File
open SchemaGen.Yaml (Value Entries)

/-! ## Targets -/

/-- **A key names the kind** that has it among its aliases, in lower case. -/
theorem OutputKind.ofKey?_eq_some_iff {key : String} {kind : OutputKind} :
    OutputKind.ofKey? key = some kind ↔ Text.lower key ∈ kind.aliases := by
  have apart : Text.lower key ∈ sourceModel.aliases → Text.lower key ∉ tableDefinition.aliases := by
    simp only [aliases, List.mem_cons, List.not_mem_nil, or_false]
    rintro (same | same | same) <;> simp [same]
  by_cases source : Text.lower key ∈ sourceModel.aliases
  · cases kind <;> simp [ofKey?, all, source, apart source]
  · by_cases table : Text.lower key ∈ tableDefinition.aliases
    · cases kind <;> simp [ofKey?, all, source, table]
    · cases kind <;> simp [ofKey?, all, source, table]

namespace Model

/-- The value turns its target off: it is the flag false, or a mapping that has this flag
under `enabled`. -/
inductive Declines : Value → Prop
  | flag : Declines (.bool false)
  | setting {entries : Entries} {v : Value} (found : Entries.get? entries "enabled" = some v)
      (off : v.untagged = .bool false) : Declines (.map entries)

variable {m n : Model} {kind : OutputKind}

theorem isEnabled_iff {v : Value} : isEnabled v = true ↔ ¬ Declines v := by
  constructor
  · intro enabled declines
    cases declines with
    | flag => simp [isEnabled] at enabled
    | setting found off => simp [isEnabled, found, Value.flag?, off] at enabled
  · intro kept
    cases v with
    | bool b =>
      cases b with
      | false => exact absurd .flag kept
      | true => rfl
    | map entries =>
      cases found : Entries.get? entries "enabled" with
      | none => simp [isEnabled, found]
      | some v =>
        cases shape : v.untagged with
        | bool b =>
          cases b with
          | false => exact absurd (.setting found shape) kept
          | true => simp [isEnabled, found, Value.flag?, shape]
        | _ => simp [isEnabled, found, Value.flag?, shape]
    | _ => rfl

/-- A target has a key that names the kind. -/
def Mentions (m : Model) (kind : OutputKind) : Prop :=
  ∃ target ∈ m.targets.entries, Text.lower target.1 ∈ kind.aliases

/-- A target has a key that names the kind, and a value that does not decline. -/
def Requests (m : Model) (kind : OutputKind) : Prop :=
  ∃ target ∈ m.targets.entries, Text.lower target.1 ∈ kind.aliases ∧ ¬ Declines target.2

/-- Some kind is mentioned, but none is requested. -/
def Muted (m : Model) : Prop :=
  (∃ kind, m.Mentions kind) ∧ ∀ kind, ¬ m.Requests kind

/-- The targets whose keys name kinds. -/
def selectors (m : Model) : List (String × Value) :=
  m.targets.entries.filter fun target => (OutputKind.ofKey? target.1).isSome

theorem Requests.mentions (requests : m.Requests kind) : m.Mentions kind := by
  obtain ⟨target, member, named, _⟩ := requests
  exact ⟨target, member, named⟩

theorem asksFor_iff : m.asksFor kind = true ↔ m.Requests kind := by
  simp [asksFor, Requests, OutputKind.ofKey?_eq_some_iff, isEnabled_iff]

theorem namesKinds_iff : m.namesKinds = true ↔ ∃ kind, m.Mentions kind := by
  simp only [namesKinds, Catalog.names, List.any_map, List.any_eq_true, Function.comp_apply,
    Option.isSome_iff_exists, OutputKind.ofKey?_eq_some_iff, Mentions]
  constructor
  · rintro ⟨target, member, kind, named⟩
    exact ⟨kind, target, member, named⟩
  · rintro ⟨kind, target, member, named⟩
    exact ⟨target, member, kind, named⟩

/-! ## Wanted kinds -/

/-- **The wanted kinds** are the requested ones, or all where none is mentioned. -/
theorem mem_outputs_iff :
    kind ∈ m.outputs ↔ m.Requests kind ∨ ∀ other, ¬ m.Mentions other := by
  have listed : kind ∈ OutputKind.all := by cases kind <;> decide
  unfold outputs
  by_cases named : m.namesKinds = true
  · obtain ⟨other, mentioned⟩ := namesKinds_iff.mp named
    rw [if_pos named, List.mem_filter, asksFor_iff]
    constructor
    · rintro ⟨_, requested⟩
      exact .inl requested
    · rintro (requested | unmentioned)
      · exact ⟨listed, requested⟩
      · exact absurd mentioned (unmentioned other)
  · have unmentioned : ∀ other, ¬ m.Mentions other := fun other mentions =>
      named (namesKinds_iff.mpr ⟨other, mentions⟩)
    rw [if_neg named]
    simp [listed, unmentioned]

/-- No kind is wanted just where every target that mentions one declines. -/
theorem outputs_eq_nil_iff : m.outputs = [] ↔ m.Muted := by
  simp only [List.eq_nil_iff_forall_not_mem, mem_outputs_iff, not_or]
  constructor
  · intro none
    obtain ⟨kind, mentioned⟩ := not_forall_not.mp (none .sourceModel).2
    exact ⟨⟨kind, mentioned⟩, fun other => (none other).1⟩
  · rintro ⟨⟨kind, mentioned⟩, silent⟩ other
    exact ⟨silent other, fun unmentioned => unmentioned kind mentioned⟩

/-- Targets whose keys name no kind do not matter. -/
theorem outputs_eq_of_selectors (same : n.selectors = m.selectors) : n.outputs = m.outputs := by
  have asks : ∀ (m : Model) kind, m.asksFor kind = m.selectors.any fun target =>
      OutputKind.ofKey? target.1 = some kind && isEnabled target.2 := by
    intro m kind
    rw [selectors, List.any_filter, asksFor]
    congr 1
    funext target
    cases OutputKind.ofKey? target.1 <;> simp
  have names : ∀ m : Model, m.namesKinds =
      m.selectors.any fun target => (OutputKind.ofKey? target.1).isSome := by
    intro m
    simp [selectors, List.any_filter, namesKinds, Catalog.names, Function.comp_def]
  have wants : n.asksFor = m.asksFor := by
    funext kind
    rw [asks, asks, same]
  rw [outputs, outputs, names, names, same, wants]

/-- The wanted kinds are the requested ones, or all if there are none, just where the model
is not muted. -/
theorem requested_or_all_iff :
    (∀ kind, kind ∈ m.outputs ↔ m.Requests kind ∨ ∀ other, ¬ m.Requests other) ↔ ¬ m.Muted := by
  constructor
  · rintro rule ⟨mentioned, silent⟩
    have wanted := (rule .sourceModel).mpr (.inr silent)
    rw [outputs_eq_nil_iff.mpr ⟨mentioned, silent⟩] at wanted
    cases wanted
  · intro heard kind
    rw [mem_outputs_iff]
    refine or_congr_right ⟨?_, ?_⟩
    · intro unmentioned other requests
      exact unmentioned other requests.mentions
    · intro silent other mentions
      exact heard ⟨⟨other, mentions⟩, silent⟩

end Model

namespace Generation

/-! ## Runs -/

/-- The run has made a file for the entity. -/
def MakesFileFor (root : FilePath) (run : Run) (files : List FilePath) (name : String) : Prop :=
  ∃ (kind : OutputKind) (path : FilePath), kind.pathFor root name = .ok path ∧ path ∈ files ∧
    .stage (.written path) ∈ run.events

theorem mem_written_iff {events : List Event} {path : FilePath} :
    path ∈ events.filterMap Event.written? ↔ .stage (.written path) ∈ events := by
  rw [List.mem_filterMap]
  constructor
  · rintro ⟨event, member, told⟩
    unfold Event.written? at told
    split at told
    · rename_i path'
      obtain rfl := Option.some.inj told
      exact member
    · cases told
  · intro member
    exact ⟨_, member, rfl⟩

section

variable {engine : Engine} {base : FilePath} {config : Config} {fragments : List Fragment}
  {merged : Merged} {d : Disk} {summary : Summary}

/-- A run that succeeds counts all entities and tells of a file for each claim. -/
theorem told_of_ok (merges : mergeFragments config.markerKey fragments = .ok merged)
    (succeeds : (generate engine base config (.ok fragments) d).result = .ok summary) :
    summary.entities = merged.model.entities.names.length ∧
      HavePaths (config.outputPath base) (claims merged.model) summary.files ∧
      ∀ path ∈ summary.files,
        .stage (.written path) ∈ (generate engine base config (.ok fragments) d).events := by
  have told := (course_generate engine base config (.ok fragments) d).told
  rw [succeeds] at told
  rcases told with ⟨e, cut, failed, _⟩ |
    ⟨fragments', merged', paths, source, merges', paired, result, events⟩
  · cases failed
  · obtain rfl := Except.ok.inj source
    obtain rfl := Except.ok.inj (merges.symm.trans merges')
    obtain rfl := Except.ok.inj result
    refine ⟨?_, paired, fun path member => ?_⟩
    · simp [Catalog.size, Catalog.names]
    · rw [events, ← mem_written_iff, written_story paired]
      exact member

/-- Where nothing is wanted, a run that succeeds makes nothing. -/
theorem files_of_muted (merges : mergeFragments config.markerKey fragments = .ok merged)
    (muted : merged.model.Muted)
    (succeeds : (generate engine base config (.ok fragments) d).result = .ok summary) :
    summary.files = [] ∧ (generate engine base config (.ok fragments) d).disk = d := by
  obtain ⟨_, _, source, merges', _, makes, _⟩ :=
    (course_generate engine base config (.ok fragments) d).exists_makes_of_ok succeeds
  obtain rfl := Except.ok.inj source
  obtain rfl := Except.ok.inj (merges.symm.trans merges')
  have nothing : plan merged.model config.fallbackSchema = [] := by
    simp [plan, Model.outputs_eq_nil_iff.mpr muted]
  rw [nothing] at makes
  generalize summary.files = files at makes ⊢
  generalize (generate engine base config (.ok fragments) d).disk = d' at makes ⊢
  cases makes
  exact ⟨rfl, rfl⟩

end

/-- **What is selected.** The wanted kinds stand in their order, each once. They are the
requested ones, or all where no kind is mentioned, and other targets do not matter. So
they are the requested ones, or all if there are none, just where the model is not muted;
and just there a run that succeeds makes a file for every entity that it counts. In a
muted model it counts them and makes none. -/
theorem selection_iff_not_muted (m : Model) :
    m.outputs.Sublist OutputKind.all ∧
    (∀ kind, kind ∈ m.outputs ↔ m.Requests kind ∨ ∀ other, ¬ m.Mentions other) ∧
    (∀ n : Model, n.selectors = m.selectors → n.outputs = m.outputs) ∧
    ((∀ kind, kind ∈ m.outputs ↔ m.Requests kind ∨ ∀ other, ¬ m.Requests other) ↔ ¬ m.Muted) ∧
    ∀ (engine : Engine) (base : FilePath) (config : Config) (fragments : List Fragment)
      (collisions : List Collision) (d : Disk) (summary : Summary),
      mergeFragments config.markerKey fragments = .ok ⟨m, collisions⟩ →
      (generate engine base config (.ok fragments) d).result = .ok summary →
      let run := generate engine base config (.ok fragments) d
      summary.entities = m.entities.names.length ∧ 0 < summary.entities ∧
      ((∀ name ∈ m.entities.names,
        MakesFileFor (config.outputPath base) run summary.files name) ↔ ¬ m.Muted) ∧
      (m.Muted → summary.files = [] ∧ run.disk = d) := by
  refine ⟨m.sublist_outputs, fun _ => Model.mem_outputs_iff,
    fun _ => Model.outputs_eq_of_selectors, Model.requested_or_all_iff, ?_⟩
  intro engine base config fragments collisions d summary merges succeeds run
  obtain ⟨count, paired, written⟩ := told_of_ok merges succeeds
  have quiet := fun muted => files_of_muted merges muted succeeds
  -- A merge has an entity, so there is one to make no file for.
  obtain ⟨name, named⟩ := List.exists_mem_of_ne_nil _ (entityNames_ne_nil merges)
  have member := (mem_names_mergeFragments merges name).mpr named
  refine ⟨count, ?_, ?_, quiet⟩
  · rw [count]
    exact List.length_pos_of_mem member
  · constructor
    · intro made muted
      obtain ⟨kind, path, _, listed, _⟩ := made name member
      rw [(quiet muted).1] at listed
      cases listed
    · intro heard name member
      obtain ⟨kind, wanted⟩ :=
        List.exists_mem_of_ne_nil _ fun none => heard (Model.outputs_eq_nil_iff.mp none)
      have claim : (name, kind) ∈ claims m :=
        List.mem_flatMap.mpr ⟨name, member, List.mem_map.mpr ⟨kind, wanted, rfl⟩⟩
      obtain ⟨path, listed, found⟩ := exists_left paired.flip claim
      exact ⟨kind, path, found, listed, written path listed⟩

/-! ## A bar, open and closed -/

/-- An entity, and some targets. -/
def bar (targets : Entries) : List Fragment :=
  [⟨⟨"bar.yaml"⟩, .map [(.str "entities", .map [(.str "Drink", .null)]),
    (.str "targets", .map targets)]⟩]

/-- The bar that asks for its tables, under an alias. -/
def openBar : List Fragment :=
  bar [(.str "SQLite", .map [(.str "enabled", .str "no")]), (.str "python", .bool false),
    (.str "docs", .bool true)]

/-- What the open bar is merged to. -/
def openBarMerged : Merged :=
  { model :=
      { entities := ⟨[("Drink", {})]⟩
        targets := ⟨[("SQLite", .map [(.str "enabled", .str "no")]), ("docs", .bool true),
          ("python", .bool false)]⟩ }
    collisions := [] }

/-- The bar that declines both kinds. -/
def closedBar : List Fragment :=
  bar [(.str "sql", .map [(.str "enabled", .bool false)]), (.str "python", .bool false)]

/-- What the closed bar is merged to. -/
def closedBarMerged : Merged :=
  { model :=
      { entities := ⟨[("Drink", {})]⟩
        targets := ⟨[("python", .bool false), ("sql", .map [(.str "enabled", .bool false)])]⟩ }
    collisions := [] }

/-- An engine that renders the name of the template. -/
def namer : Engine := fun template _ => .ok template

theorem selection_openBar :
    mergeFragments Setting.markerKey.default openBar = .ok ⟨openBarMerged.model, []⟩ ∧
    (generate namer ⟨""⟩ {} (.ok openBar) .fresh).result =
      .ok ⟨1, [⟨"generated/sql/drink_table.sql"⟩], []⟩ ∧
    ¬ openBarMerged.model.Muted ∧
    ∀ name ∈ openBarMerged.model.entities.names, MakesFileFor (Config.outputPath {} ⟨""⟩)
      (generate namer ⟨""⟩ {} (.ok openBar) .fresh) [⟨"generated/sql/drink_table.sql"⟩] name := by
  have merges : mergeFragments Setting.markerKey.default openBar =
      .ok ⟨openBarMerged.model, []⟩ := by decide +kernel
  have succeeds : (generate namer ⟨""⟩ {} (.ok openBar) .fresh).result =
      .ok ⟨1, [⟨"generated/sql/drink_table.sql"⟩], []⟩ := by decide +kernel
  have requested : openBarMerged.model.Requests .tableDefinition :=
    Model.asksFor_iff.mp (by decide +kernel)
  have heard : ¬ openBarMerged.model.Muted := fun muted => muted.2 _ requested
  obtain ⟨_, _, _, _, runs⟩ := selection_iff_not_muted openBarMerged.model
  obtain ⟨_, _, makes, _⟩ := runs namer ⟨""⟩ {} openBar [] .fresh _ merges succeeds
  exact ⟨merges, succeeds, heard, makes.mpr heard⟩

/-- **Nothing is made for the closed bar.** No kind is requested, and none is wanted all the
same; the run succeeds and counts an entity that it makes no file for. -/
theorem nothing_made_closedBar :
    mergeFragments Setting.markerKey.default closedBar = .ok closedBarMerged ∧
    (∀ kind, ¬ closedBarMerged.model.Requests kind) ∧ closedBarMerged.model.outputs = [] ∧
    ¬ (∀ kind, kind ∈ closedBarMerged.model.outputs ↔
      closedBarMerged.model.Requests kind ∨ ∀ other, ¬ closedBarMerged.model.Requests other) ∧
    (generate namer ⟨""⟩ {} (.ok closedBar) .fresh).result = .ok ⟨1, [], []⟩ ∧
    ¬ ∀ name ∈ closedBarMerged.model.entities.names, MakesFileFor (Config.outputPath {} ⟨""⟩)
      (generate namer ⟨""⟩ {} (.ok closedBar) .fresh) [] name := by
  have silent : ∀ kind, ¬ closedBarMerged.model.Requests kind := by
    intro kind
    rw [← Model.asksFor_iff]
    cases kind <;> decide +kernel
  have nothing : closedBarMerged.model.outputs = [] := by decide +kernel
  refine ⟨by decide +kernel, silent, nothing, ?_, by decide +kernel, ?_⟩
  · intro rule
    have wanted := (rule .sourceModel).mpr (.inr silent)
    rw [nothing] at wanted
    cases wanted
  · intro made
    obtain ⟨kind, path, _, listed, _⟩ := made "Drink" (by decide)
    cases listed

end Generation

end SchemaGen
