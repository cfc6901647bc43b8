import Mathlib.Data.List.Induction
import Mathlib.Data.List.Perm.Subperm
import SchemaGen.Config.Load
import SchemaGen.Proofs.Yaml.Composing

/-!
# The layers of a configuration

A setting has the value of its variable if that is set, else the value that the
configuration file gives it, else its default (`effective`). The file can be read
just if its text is blank, or its document is empty or a mapping that gives scalars
to settings, to none of them twice (`ofText_eq_ok_iff`). The check sees the final
values, and an override changes its own setting only, but a file that cannot be read
is an error whatever the environment has (`load_layers`).
-/

namespace SchemaGen

open SchemaGen.File SchemaGen.Text SchemaGen.Yaml

namespace Setting

/-- The variable that overrides a setting. -/
def overriddenBy? : Setting → Option String
  | .schemaDir => some "MODELGEN_SCHEMA_DIR"
  | .templateDir => some "MODELGEN_TEMPLATE_DIR"
  | .outputDir => some "MODELGEN_OUTPUT_DIR"
  | .markerKey | .schemaExtension | .fallbackSchema => none

theorem ofKey?_eq_some_iff {key : String} {s : Setting} : ofKey? key = some s ↔ s.key = key := by
  constructor
  · exact fun found => by simpa using List.find?_some found
  · rintro rfl
    cases s <;> decide

theorem mem_all (s : Setting) : s ∈ all := by
  cases s <;> decide

theorem overriddenBy?_inj {s t : Setting} {name : String} (here : s.overriddenBy? = some name)
    (there : t.overriddenBy? = some name) : s = t := by
  have same := here.trans there.symm
  cases s <;> cases t <;> first | rfl | exact absurd same (by decide) | cases here

end Setting

namespace Config

/-! ## Scalars of a document -/

section

variable {doc : Document} {n m : Node} {left left' : Nat} {text : String}

/-- The node is a scalar with this text, or an alias for one. -/
def Spells (doc : Document) (n : Node) (text : String) : Prop :=
  ∃ props style, doc.Means n (.scalar props style text)

theorem Spells.unique {text' : String} (spells : Spells doc n text)
    (spells' : Spells doc n text') : text = text' := by
  obtain ⟨_, _, means⟩ := spells
  obtain ⟨_, _, means'⟩ := spells'
  cases means.unique means' (fun _ => nofun) (fun _ => nofun)
  rfl

/-- A node with a meaning can be followed while an alias is left for it. -/
theorem exists_run_follow (means : doc.Means n m) (solid : ∀ number, m ≠ .alias number)
    (some : 0 < left) :
    ∃ left', (doc.follow n).run left = .ok (m, left') ∧ left ≤ left' + 1 := by
  rcases means with rfl | ⟨number, rfl, found⟩
  · refine ⟨left, ?_, Nat.le_succ left⟩
    cases n with
    | «alias» number => exact absurd rfl (solid number)
    | _ => rfl
  · obtain ⟨left', rfl⟩ := Nat.exists_eq_succ_of_ne_zero (Nat.pos_iff_ne_zero.mp some)
    refine ⟨left', ?_, Nat.le_refl _⟩
    unfold Document.follow
    simp [found]
    rfl

theorem spells_of_scalarText (run : (scalarText doc n).run left = .ok (text, left')) :
    Spells doc n text := by
  obtain ⟨m, _, followed, run⟩ := run_bind_eq_ok.mp run
  split at run
  · cases run
    exact ⟨_, _, Document.means_of_follow followed⟩
  · cases run

theorem Spells.exists_run (spells : Spells doc n text) (some : 0 < left) :
    ∃ left', (scalarText doc n).run left = .ok (text, left') ∧ left ≤ left' + 1 := by
  obtain ⟨_, _, means⟩ := spells
  obtain ⟨left', followed, less⟩ := exists_run_follow means (fun _ => nofun) some
  exact ⟨left', run_bind_eq_ok.mpr ⟨_, left', followed, rfl⟩, less⟩

end

/-! ## Settings of a document -/

section

variable {doc : Document} {nodes front : List (Node × Node)} {e : Node × Node}
  {sofar sofar' : List Setting × Config} {left left' : Nat} {s : Setting}

/-- The entry gives the setting a value. -/
def EntryGives (doc : Document) (e : Node × Node) (s : Setting) (x : String) : Prop :=
  Spells doc e.1 s.key ∧ Spells doc e.2 x

/-- **One entry** gives one setting that was not given before. -/
theorem entryGives_of_addEntry (run : (addEntry doc sofar e).run left = .ok (sofar', left')) :
    ∃ s x, EntryGives doc e s x ∧ s ∉ sofar.1 ∧ sofar' = (s :: sofar.1, sofar.2.set s x) := by
  obtain ⟨seen, config⟩ := sofar
  obtain ⟨key, _, readKey, run⟩ := run_bind_eq_ok.mp run
  split at run
  · cases run
  · rename_i s known
    obtain rfl := Setting.ofKey?_eq_some_iff.mp known
    dsimp only at run
    split at run
    · cases run
    · rename_i fresh
      obtain ⟨x, _, readText, run⟩ := run_bind_eq_ok.mp run
      cases run
      exact ⟨s, x, ⟨spells_of_scalarText readKey, spells_of_scalarText readText⟩,
        by simpa using fresh, rfl⟩

/-- Two aliases are enough for an entry. -/
theorem EntryGives.exists_run {x : String} (gives : EntryGives doc e s x) (fresh : s ∉ sofar.1)
    (some : 1 < left) : ∃ left', (addEntry doc sofar e).run left =
      .ok ((s :: sofar.1, sofar.2.set s x), left') ∧ left ≤ left' + 2 := by
  obtain ⟨seen, config⟩ := sofar
  obtain ⟨left₁, readKey, less⟩ := gives.1.exists_run (Nat.zero_lt_of_lt some)
  have more : 0 < left₁ := by omega
  obtain ⟨left₂, readText, less'⟩ := gives.2.exists_run more
  refine ⟨left₂, run_bind_eq_ok.mpr ⟨_, left₁, readKey, ?_⟩, by omega⟩
  have absent : ¬ seen.contains s = true := by simpa using fresh
  rw [Setting.ofKey?_eq_some_iff.mpr rfl]
  dsimp only
  rw [if_neg absent]
  exact run_bind_eq_ok.mpr ⟨x, left₂, readText, rfl⟩

/-- The entries give these values to settings, in their order and to none of them
twice. -/
structure Gives (doc : Document) (nodes : List (Node × Node))
    (givens : List (Setting × String)) : Prop where
  each : List.Forall₂ (fun e given => EntryGives doc e given.1 given.2) nodes givens
  distinct : (givens.map (·.1)).Nodup

/-- What reading the entries has come to when they gave these values. -/
def reached (givens : List (Setting × String)) : List Setting × Config :=
  givens.foldl (fun sofar given => (given.1 :: sofar.1, sofar.2.set given.1 given.2)) ([], {})

theorem reached_append_singleton (givens : List (Setting × String)) (given : Setting × String) :
    reached (givens ++ [given]) =
      (given.1 :: (reached givens).1, (reached givens).2.set given.1 given.2) :=
  List.foldl_concat ..

theorem mem_reached {givens : List (Setting × String)} :
    s ∈ (reached givens).1 ↔ s ∈ givens.map (·.1) := by
  induction givens using List.reverseRecOn with
  | nil => rfl
  | append_singleton givens given ih =>
    simp [reached_append_singleton, ih, or_comm]

theorem exists_gives_of_foldlM
    (run : (nodes.foldlM (addEntry doc) ([], {})).run left = .ok (sofar, left')) :
    ∃ givens, Gives doc nodes givens ∧ sofar = reached givens := by
  refine run_foldlM_front_induction
    (P := fun nodes sofar => ∃ givens, Gives doc nodes givens ∧ sofar = reached givens) ?_
    ⟨[], ⟨.nil, .nil⟩, rfl⟩ run
  rintro front _ e left sofar' left' ⟨givens, ⟨each, distinct⟩, rfl⟩ run
  obtain ⟨s, x, gives, fresh, rfl⟩ := entryGives_of_addEntry run
  refine ⟨givens ++ [(s, x)], ⟨List.rel_append each (.cons gives .nil), ?_⟩,
    (reached_append_singleton givens (s, x)).symm⟩
  rw [List.map_append, List.nodup_append]
  refine ⟨distinct, List.pairwise_singleton _ _, fun t member t' last same => ?_⟩
  obtain rfl : t' = s := List.mem_singleton.mp last
  exact fresh (mem_reached.mpr (same ▸ member))

/-- Two aliases are enough for each entry of a mapping. -/
theorem Gives.exists_run {givens : List (Setting × String)} (gives : Gives doc nodes givens)
    (some : 2 * nodes.length ≤ left) :
    ∃ left', (nodes.foldlM (addEntry doc) ([], {})).run left = .ok (reached givens, left') := by
  -- The first entries have been read, and the others give settings not met so far.
  suffices further : ∀ (rest : List (Node × Node)) (front back : List (Setting × String)) left,
      List.Forall₂ (fun e given => EntryGives doc e given.1 given.2) rest back →
      ((front ++ back).map (·.1)).Nodup → 2 * rest.length ≤ left →
      ∃ left', (rest.foldlM (addEntry doc) (reached front)).run left =
        .ok (reached (front ++ back), left') from
    further nodes [] givens left gives.each gives.distinct some
  intro rest
  induction rest with
  | nil =>
    rintro front _ left ⟨⟩ _ _
    exact ⟨left, by rw [List.append_nil]; rfl⟩
  | cons e rest ih =>
    rintro front _ left (_ | ⟨here, later⟩) distinct some
    rename_i given back
    have fresh : given.1 ∉ (reached front).1 := by
      rw [mem_reached]
      rw [List.map_append, List.map_cons, List.nodup_append] at distinct
      exact fun member => distinct.2.2 _ member _ List.mem_cons_self rfl
    rw [List.length_cons] at some
    have two : 1 < left := by omega
    obtain ⟨left₁, added, less⟩ := here.exists_run fresh two
    rw [List.append_cons] at distinct ⊢
    obtain ⟨left', run⟩ := ih (front ++ [given]) back left₁ later distinct (by omega)
    rw [reached_append_singleton] at run
    refine ⟨left', ?_⟩
    rw [List.foldlM_cons]
    exact run_bind_eq_ok.mpr ⟨_, left₁, added, run⟩

end

/-! ## Texts -/

/-- A text gives these values to settings: none if it is blank or its document is
empty, else those of a mapping. -/
inductive Lists (text : String) : List (Setting × String) → Prop
  | blank (blank : isAllBlank text = true) : Lists text []
  | bare {doc : Document} (filled : isAllBlank text = false)
      (parsed : Document.ofText text = .ok doc) (bare : doc.root = none) : Lists text []
  | empty {doc : Document} {root : Node} {props : Props} (filled : isAllBlank text = false)
      (parsed : Document.ofText text = .ok doc) (top : doc.root = some root)
      (means : doc.Means root (.scalar props .plain "")) : Lists text []
  | mapping {doc : Document} {root : Node} {props : Props} {nodes : List (Node × Node)}
      {givens : List (Setting × String)} (filled : isAllBlank text = false)
      (parsed : Document.ofText text = .ok doc) (top : doc.root = some root)
      (means : doc.Means root (.map props nodes)) (gives : Gives doc nodes givens) :
      Lists text givens

/-- The number of settings bounds how many an entry can give. -/
theorem Gives.length_le {doc : Document} {nodes : List (Node × Node)}
    {givens : List (Setting × String)} (gives : Gives doc nodes givens) : nodes.length ≤ 6 := by
  rw [gives.each.length_eq, ← List.length_map (·.1)]
  exact (List.Nodup.subperm gives.distinct fun s _ => s.mem_all).length_le

theorem le_aliasLimit {text : String} {doc : Document} (parsed : Document.ofText text = .ok doc) :
    100 ≤ doc.aliasLimit := by
  obtain ⟨tokens, _, built⟩ := bind_eq_ok.mp parsed
  obtain ⟨root, _, built⟩ := bind_eq_ok.mp built
  cases built
  have counted : 1 ≤ root.elim 1 Node.eventCount := by
    cases root with
    | none => exact Nat.le_refl 1
    | some root => cases root <;> simp [Node.eventCount] <;> omega
  exact Nat.mul_le_mul_left 100 counted

/-- What a node is read as. -/
theorem run_ofNode_eq_ok {doc : Document} {root : Node} {c : Config} {left left' : Nat}
    (run : (ofNode doc root).run left = .ok (c, left')) :
    (∃ props, doc.Means root (.scalar props .plain "")) ∧ c = {} ∨
      ∃ props nodes givens, doc.Means root (.map props nodes) ∧ Gives doc nodes givens ∧
        c = (reached givens).2 := by
  obtain ⟨m, _, followed, run⟩ := run_bind_eq_ok.mp run
  have means := Document.means_of_follow followed
  split at run
  · rename_i props nodes
    obtain ⟨sofar, _, folded, run⟩ := run_bind_eq_ok.mp run
    cases run
    obtain ⟨givens, gives, rfl⟩ := exists_gives_of_foldlM folded
    exact .inr ⟨props, nodes, givens, means, gives, rfl⟩
  · rename_i props
    cases run
    exact .inl ⟨⟨props, means⟩, rfl⟩
  · cases run

/-- A mapping is read if the aliases are enough for its entries. -/
theorem Gives.exists_run_ofNode {doc : Document} {root : Node} {props : Props}
    {nodes : List (Node × Node)} {givens : List (Setting × String)} {left : Nat}
    (gives : Gives doc nodes givens) (means : doc.Means root (.map props nodes))
    (some : 12 < left) :
    ∃ left', (ofNode doc root).run left = .ok ((reached givens).2, left') := by
  obtain ⟨left₁, followed, less⟩ :=
    exists_run_follow means (fun _ => nofun) (Nat.zero_lt_of_lt some)
  have short := gives.length_le
  have enough : 2 * nodes.length ≤ left₁ := by omega
  obtain ⟨left', run⟩ := gives.exists_run enough
  exact ⟨left', run_bind_eq_ok.mpr ⟨_, left₁, followed,
    run_bind_eq_ok.mpr ⟨_, left', run, rfl⟩⟩⟩

/-- What is read lists what it is read as. -/
theorem exists_lists_of_ofText {text : String} {c : Config} (read : ofText text = .ok c) :
    ∃ givens, Lists text givens ∧ c = (reached givens).2 := by
  unfold ofText at read
  split at read
  · rename_i blank
    cases read
    exact ⟨[], .blank blank, rfl⟩
  · rename_i kept
    have filled : isAllBlank text = false := by simpa using kept
    obtain ⟨doc, parsed, read⟩ := bind_eq_ok.mp read
    split at read
    · rename_i bare
      cases read
      exact ⟨[], .bare filled parsed bare, rfl⟩
    · rename_i root top
      obtain ⟨⟨c', left'⟩, run, read⟩ := bind_eq_ok.mp read
      cases read
      rcases run_ofNode_eq_ok run with ⟨⟨props, means⟩, rfl⟩ |
        ⟨props, nodes, givens, means, gives, rfl⟩
      · exact ⟨[], .empty filled parsed top means, rfl⟩
      · exact ⟨givens, .mapping filled parsed top means gives, rfl⟩

/-- A document is read as its top node is. -/
theorem ofText_of_run {text : String} {doc : Document} {root : Node} {c : Config} {left : Nat}
    (filled : isAllBlank text = false) (parsed : Document.ofText text = .ok doc)
    (top : doc.root = some root) (run : (ofNode doc root).run doc.aliasLimit = .ok (c, left)) :
    ofText text = .ok c := by
  rw [ofText, if_neg (by simp [filled])]
  refine bind_eq_ok.mpr ⟨doc, parsed, ?_⟩
  rw [top]
  exact bind_eq_ok.mpr ⟨_, run, rfl⟩

/-- A text that lists settings can be read. -/
theorem Lists.ofText_eq {text : String} {givens : List (Setting × String)}
    (lists : Lists text givens) : ofText text = .ok (reached givens).2 := by
  cases lists with
  | blank blank =>
    rw [ofText, if_pos blank]
    rfl
  | bare filled parsed bare =>
    rw [ofText, if_neg (by simp [filled])]
    refine bind_eq_ok.mpr ⟨_, parsed, ?_⟩
    rw [bare]
    rfl
  | empty filled parsed top means =>
    obtain ⟨left, followed, _⟩ := exists_run_follow means (fun _ => nofun)
      (Nat.lt_of_lt_of_le (by decide) (le_aliasLimit parsed))
    exact ofText_of_run filled parsed top (run_bind_eq_ok.mpr ⟨_, left, followed, rfl⟩)
  | mapping filled parsed top means gives =>
    obtain ⟨left, run⟩ := gives.exists_run_ofNode means
      (Nat.lt_of_lt_of_le (by decide) (le_aliasLimit parsed))
    exact ofText_of_run filled parsed top run

/-- **The texts that can be read**, and what they are read as. -/
theorem ofText_eq_ok_iff {text : String} {c : Config} :
    ofText text = .ok c ↔ ∃ givens, Lists text givens ∧ c = (reached givens).2 :=
  ⟨exists_lists_of_ofText, fun ⟨_, lists, same⟩ => same ▸ lists.ofText_eq⟩

theorem Lists.distinct {text : String} {givens : List (Setting × String)}
    (lists : Lists text givens) : (givens.map (·.1)).Nodup := by
  cases lists with
  | blank | bare | empty => exact .nil
  | mapping _ _ _ _ gives => exact gives.distinct

/-- What is given is what is read, and the rest has its defaults. -/
theorem get_reached {givens : List (Setting × String)} (distinct : (givens.map (·.1)).Nodup)
    (s : Setting) : (reached givens).2.get s = (givens.lookup s).getD s.default := by
  induction givens using List.reverseRecOn with
  | nil => cases s <;> rfl
  | append_singleton givens given ih =>
    obtain ⟨t, x⟩ := given
    rw [List.map_append, List.nodup_append] at distinct
    rw [reached_append_singleton, get_set, List.lookup_append]
    by_cases same : s = t
    · subst same
      have absent : givens.lookup s = none := by
        rw [List.lookup_eq_none_iff]
        intro other member
        have apart := distinct.2.2 other.1 (List.mem_map_of_mem member) s List.mem_cons_self
        simpa using apart.symm
      simp [absent]
    · have other : List.lookup s [(t, x)] = none := by simp [same]
      simp [same, other, ih distinct.1]

/-! ## Files -/

section

variable {d : Disk} {base : FilePath} {givens : List (Setting × String)} {e : Error}

/-- The configuration file gives these values to settings. One that is not there gives
none. -/
inductive FileLists (d : Disk) (base : FilePath) : List (Setting × String) → Prop
  | absent (absent : d.pathExists (base.join fileName) = false) : FileLists d base []
  | there {text : String} {givens : List (Setting × String)}
      (there : d.pathExists (base.join fileName) = true)
      (read : d.readText (base.join fileName) = .ok text) (lists : Lists text givens) :
      FileLists d base givens

/-- The configuration file cannot be read or parsed, for this reason. -/
inductive FileFails (d : Disk) (base : FilePath) : Error → Prop
  | unread {fault : File.Fault} (there : d.pathExists (base.join fileName) = true)
      (failed : d.readText (base.join fileName) = .error fault) :
      FileFails d base (.readFailed (base.join fileName) fault)
  | malformed {text : String} {fault : Yaml.Fault}
      (there : d.pathExists (base.join fileName) = true)
      (read : d.readText (base.join fileName) = .ok text) (failed : ofText text = .error fault) :
      FileFails d base (.dataFile (base.join fileName) fault)

theorem fileLists_or_fileFails (d : Disk) (base : FilePath) :
    (∃ givens, FileLists d base givens) ∨ ∃ e, FileFails d base e := by
  cases there : d.pathExists (base.join fileName) with
  | false => exact .inl ⟨_, .absent there⟩
  | true =>
    cases read : d.readText (base.join fileName) with
    | error fault => exact .inr ⟨_, .unread there read⟩
    | ok text =>
      cases parsed : ofText text with
      | error fault => exact .inr ⟨_, .malformed there read parsed⟩
      | ok c =>
        obtain ⟨givens, lists, _⟩ := ofText_eq_ok_iff.mp parsed
        exact .inl ⟨givens, .there there read lists⟩

theorem FileLists.distinct (lists : FileLists d base givens) : (givens.map (·.1)).Nodup := by
  cases lists with
  | absent => exact .nil
  | there _ _ lists => exact lists.distinct

theorem FileLists.ofFile_eq (lists : FileLists d base givens) :
    (ofFile d base).1 = .ok (reached givens).2 := by
  unfold ofFile
  cases lists with
  | absent absent =>
    dsimp only
    rw [absent]
    rfl
  | there there read lists =>
    dsimp only
    rw [if_pos there, read]
    have parsed := ofText_eq_ok_iff.mpr ⟨givens, lists, rfl⟩
    exact congrArg (Except.mapError _) parsed

theorem FileFails.ofFile_eq (fails : FileFails d base e) : (ofFile d base).1 = .error e := by
  unfold ofFile
  dsimp only
  cases fails with
  | unread there failed =>
    rw [if_pos there, failed]
    rfl
  | malformed there read failed =>
    rw [if_pos there, read]
    exact congrArg (Except.mapError _) failed

/-- A file that fails is an error, whatever the environment has. -/
theorem FileFails.load_eq (fails : FileFails d base e) (env : Environment) :
    (load d env base).1 = .error e := by
  have failed := fails.ofFile_eq
  unfold load
  split
  · rename_i same
    rw [same] at failed
    exact failed
  · rename_i same
    rw [same] at failed
    cases failed

/-! ## The environment -/

/-- The value of a setting: that of its variable if it is set, else what the file gives,
else its default. -/
def effective (env : Environment) (givens : List (Setting × String)) (s : Setting) : String :=
  ((s.overriddenBy?.bind env).or (givens.lookup s)).getD s.default

/-- An override replaces the value of one setting. -/
theorem get_override (env : Environment) (sofar : Config × List LogLine)
    (o : Setting × String × String) (s : Setting) :
    (override env sofar o).1.get s =
      if s = o.1 then (env o.2.1).getD (sofar.1.get s) else sofar.1.get s := by
  obtain ⟨setting, name, message⟩ := o
  unfold override
  dsimp only
  cases env name with
  | none => simp
  | some value => simp [get_set]

/-- **All overrides** leave to each setting the value of its variable, if that is set. -/
theorem get_foldl_override (env : Environment) (sofar : Config × List LogLine) (s : Setting) :
    (overrides.foldl (override env) sofar).1.get s =
      (s.overriddenBy?.bind env).getD (sofar.1.get s) := by
  simp only [overrides, List.foldl_cons, List.foldl_nil, get_override]
  cases s <;> rfl

/-- The settings that are empty, of given values. -/
def emptyOf (value : Setting → String) : List Setting :=
  Setting.all.filter fun s => value s = ""

theorem mem_emptyOf {value : Setting → String} {s : Setting} :
    s ∈ emptyOf value ↔ value s = "" := by
  simp [emptyOf, Setting.mem_all]

theorem emptyOf_eq_singleton {value : Setting → String} {s : Setting} (empty : value s = "")
    (others : ∀ t, t ≠ s → value t ≠ "") : emptyOf value = [s] := by
  have only : emptyOf value = Setting.all.filter (· = s) := List.filter_congr fun t _ => by
    by_cases same : t = s
    · simp [same, empty]
    · simp [same, others t same]
  rw [only]
  cases s <;> decide

/-- **The check** passes just if no value is empty, and names those that are. -/
theorem check_eq {c : Config} {value : Setting → String} (values : ∀ s, c.get s = value s) :
    c.check = match emptyOf value with
      | [] => .ok c
      | empty => .error (.emptySettings empty) := by
  have listed : c.emptySettings = emptyOf value :=
    List.filter_congr fun s _ => by rw [values, Bool.eq_iff_iff]; simp
  unfold check
  rw [listed]
  cases emptyOf value <;> rfl

/-- **What is loaded** when the file gives these values. -/
theorem FileLists.load_eq (lists : FileLists d base givens) (env : Environment) :
    ∃ c : Config, (∀ s, c.get s = effective env givens s) ∧ (load d env base).1 = c.check := by
  have read := lists.ofFile_eq
  unfold load
  split
  · rename_i same
    rw [same] at read
    cases read
  · rename_i config lines same
    rw [same] at read
    cases read
    refine ⟨_, fun s => ?_, rfl⟩
    rw [get_foldl_override, get_reached lists.distinct, effective]
    cases s.overriddenBy?.bind env <;> rfl

/-- The outcome is decided by the values of the settings. -/
theorem FileLists.load_eq_match (lists : FileLists d base givens) (env : Environment) :
    ∃ c : Config, (∀ s, c.get s = effective env givens s) ∧
      (load d env base).1 = match emptyOf (effective env givens) with
        | [] => .ok c
        | empty => .error (.emptySettings empty) := by
  obtain ⟨c, values, loaded⟩ := lists.load_eq env
  exact ⟨c, values, loaded.trans (check_eq values)⟩

theorem FileLists.exists_ok_iff (lists : FileLists d base givens) (env : Environment) :
    (∃ c, (load d env base).1 = .ok c) ↔ ∀ s, effective env givens s ≠ "" := by
  obtain ⟨c, _, loaded⟩ := lists.load_eq_match env
  have none : emptyOf (effective env givens) = [] ↔ ∀ s, effective env givens s ≠ "" := by
    simp only [List.eq_nil_iff_forall_not_mem, mem_emptyOf, Ne]
  rw [loaded, ← none]
  cases emptyOf (effective env givens) <;> simp

theorem FileLists.get_of_ok (lists : FileLists d base givens) {env : Environment} {c : Config}
    (loaded : (load d env base).1 = .ok c) (s : Setting) : c.get s = effective env givens s := by
  obtain ⟨c', values, eq⟩ := lists.load_eq_match env
  rw [loaded] at eq
  split at eq
  · cases eq
    exact values s
  · cases eq

theorem FileLists.eq_of_error (lists : FileLists d base givens) {env : Environment}
    (failed : (load d env base).1 = .error e) :
    e = .emptySettings (emptyOf (effective env givens)) := by
  obtain ⟨c', values, eq⟩ := lists.load_eq_match env
  rw [failed] at eq
  split at eq
  · cases eq
  · exact Except.error.inj eq

/-- A file whose values are refused as empty can be read. -/
theorem exists_fileLists_of_load {env : Environment}
    (loaded : (∃ c, (load d env base).1 = .ok c) ∨
      ∃ settings, (load d env base).1 = .error (.emptySettings settings)) :
    ∃ givens, FileLists d base givens := by
  rcases fileLists_or_fileFails d base with lists | ⟨e, fails⟩
  · exact lists
  · rw [fails.load_eq env] at loaded
    rcases loaded with ⟨c, other⟩ | ⟨settings, other⟩
    · cases other
    · cases Except.error.inj other
      cases fails

theorem effective_update (env : Environment) (givens : List (Setting × String))
    (name value : String) (s : Setting) :
    effective (Function.update env name (some value)) givens s =
      if s.overriddenBy? = some name then value else effective env givens s := by
  unfold effective
  cases s.overriddenBy? with
  | none => simp
  | some own => by_cases same : own = name <;> simp [same]

end

/-- **The layers of a configuration.** Whatever the file, it gives values to settings or
fails. If it fails, that is the error, whatever the environment has. Else the
variables go before the file and the file before the defaults; it is checked that no
value is empty, and those that are get named. An override changes its own setting
only. It can mend one that is empty, and spoil one that is not. -/
theorem load_layers (d : Disk) (base : FilePath) :
    ((∃ givens, FileLists d base givens) ∨ ∃ e, FileFails d base e) ∧
    (∀ e, FileFails d base e → ∀ env, (load d env base).1 = .error e) ∧
    (∀ givens, FileLists d base givens → ∀ env,
      ((∃ c, (load d env base).1 = .ok c) ↔ ∀ s, effective env givens s ≠ "") ∧
      (∀ c, (load d env base).1 = .ok c → ∀ s, c.get s = effective env givens s) ∧
      (∀ e, (load d env base).1 = .error e →
        e = .emptySettings (Setting.all.filter fun s => effective env givens s = "")) ∧
      ∀ name value s, effective (Function.update env name (some value)) givens s =
        if s.overriddenBy? = some name then value else effective env givens s) ∧
    ∀ (env : Environment) (s : Setting) (name : String), s.overriddenBy? = some name →
      (∀ value, value ≠ "" → (load d env base).1 = .error (.emptySettings [s]) →
        ∃ c, (load d (Function.update env name (some value)) base).1 = .ok c ∧
          c.get s = value) ∧
      ∀ c, (load d env base).1 = .ok c →
        (load d (Function.update env name (some "")) base).1 = .error (.emptySettings [s]) := by
  refine ⟨fileLists_or_fileFails d base, fun e fails => fails.load_eq, fun givens lists env => ?_,
    fun env s name own => ⟨fun value filled failed => ?_, fun c loaded => ?_⟩⟩
  · exact ⟨lists.exists_ok_iff env, fun c loaded => lists.get_of_ok loaded,
      fun e failed => lists.eq_of_error failed, effective_update env givens⟩
  · -- Only the one setting is empty, and the override fills it.
    obtain ⟨givens, lists⟩ := exists_fileLists_of_load (.inr ⟨_, failed⟩)
    have only : [s] = emptyOf (effective env givens) := by
      have named := lists.eq_of_error failed
      simpa using named
    obtain ⟨c, loaded⟩ := (lists.exists_ok_iff (Function.update env name (some value))).mpr
      fun t => by
        rw [effective_update]
        split
        · exact filled
        · rename_i other
          intro empty
          have member := mem_emptyOf.mpr empty
          rw [← only, List.mem_singleton] at member
          exact other (member ▸ own)
    refine ⟨c, loaded, ?_⟩
    rw [lists.get_of_ok loaded, effective_update, if_pos own]
  · obtain ⟨givens, lists⟩ := exists_fileLists_of_load (.inl ⟨c, loaded⟩)
    have filled := (lists.exists_ok_iff env).mp ⟨c, loaded⟩
    have only : emptyOf (effective (Function.update env name (some "")) givens) = [s] := by
      refine emptyOf_eq_singleton ?_ fun t other => ?_
      · rw [effective_update, if_pos own]
      · rw [effective_update, if_neg fun same => other (Setting.overriddenBy?_inj same own)]
        exact filled t
    obtain ⟨_, _, eq⟩ := lists.load_eq_match (Function.update env name (some ""))
    rw [eq, only]

/-- A directory with a configuration file. -/
def study (text : String) : Disk :=
  { items := [(["work"], .directory), (["work", "modelgen.yaml"], .file text.toUTF8)]
    home := ["work"] }

/-- The environment in which nothing is set. -/
def unset : Environment := fun _ => none

theorem load_layers_study :
    (FileFails (study "outptu-dir: typo") ⟨"."⟩ (.dataFile ⟨"./modelgen.yaml"⟩ .wrongShape) ∧
      ∀ env, (load (study "outptu-dir: typo") env ⟨"."⟩).1 =
        .error (.dataFile ⟨"./modelgen.yaml"⟩ .wrongShape)) ∧
    (∃ givens, FileLists (study "template-dir: ''") ⟨"."⟩ givens ∧
      (load (study "template-dir: ''") unset ⟨"."⟩).1 = .error (.emptySettings [.templateDir]) ∧
      [.templateDir] = Setting.all.filter fun s => effective unset givens s = "") ∧
    ∃ c, Setting.overriddenBy? .templateDir = some "MODELGEN_TEMPLATE_DIR" ∧
      (load (study "template-dir: ''")
        (Function.update unset "MODELGEN_TEMPLATE_DIR" (some "views")) ⟨"."⟩).1 = .ok c ∧
      c.get .templateDir = "views" ∧
      (load (study "template-dir: ''") (Function.update
        (Function.update unset "MODELGEN_TEMPLATE_DIR" (some "views"))
        "MODELGEN_OUTPUT_DIR" (some "")) ⟨"."⟩).1 = .error (.emptySettings [.outputDir]) := by
  obtain ⟨_, failing, _, _⟩ := load_layers (study "outptu-dir: typo") ⟨"."⟩
  obtain ⟨_, _, layers, overriding⟩ := load_layers (study "template-dir: ''") ⟨"."⟩
  have read : (study "outptu-dir: typo").readText ⟨"./modelgen.yaml"⟩ =
      .ok "outptu-dir: typo" := by decide +kernel
  have fails : FileFails (study "outptu-dir: typo") ⟨"."⟩
      (.dataFile ⟨"./modelgen.yaml"⟩ .wrongShape) :=
    .malformed (by decide) read (by decide +kernel)
  have empty : (load (study "template-dir: ''") unset ⟨"."⟩).1 =
      .error (.emptySettings [.templateDir]) := by decide +kernel
  obtain ⟨givens, lists⟩ := exists_fileLists_of_load (.inr ⟨_, empty⟩)
  obtain ⟨_, _, named, _⟩ := layers givens lists unset
  obtain ⟨c, mended, views⟩ :=
    (overriding unset .templateDir "MODELGEN_TEMPLATE_DIR" rfl).1 "views" (by decide) empty
  exact ⟨⟨fails, failing _ fails⟩, ⟨givens, lists, empty, by simpa using named _ empty⟩,
    c, rfl, mended, views,
    (overriding _ .outputDir "MODELGEN_OUTPUT_DIR" rfl).2 c mended⟩

end Config

end SchemaGen
