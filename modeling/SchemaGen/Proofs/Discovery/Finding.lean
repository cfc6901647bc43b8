import SchemaGen.Discovery
import SchemaGen.Proofs.Steps

/-!
# What finding fragments takes

Fragments are found only if every schema file below the directory can be read
and parsed, those without the marker included (`load_ok`). The fragments are
then those of all files with the marker.
-/

namespace SchemaGen.Search

open SchemaGen.File
open SchemaGen.Yaml (Value)

/-- The file is a data file with this value. -/
def Parses (d : Disk) (p : FilePath) (value : Value) : Prop :=
  ∃ text, d.readText p = .ok text ∧ document text = .ok value

theorem Parses.unique {d : Disk} {p : FilePath} {value other : Value}
    (parses : Parses d p value) (again : Parses d p other) : value = other := by
  obtain ⟨text, read, parsed⟩ := parses
  obtain ⟨text', read', parsed'⟩ := again
  obtain rfl := Except.ok.inj (read.symm.trans read')
  exact Except.ok.inj (parsed.symm.trans parsed')

/-- The file is no data file, for this reason. -/
inductive Refuses (d : Disk) (p : FilePath) : Error → Prop
  | unread {fault} (failed : d.readText p = .error fault) : Refuses d p (.readFailed p fault)
  | malformed {text fault} (read : d.readText p = .ok text)
      (failed : Value.ofText text = .error fault) : Refuses d p (.dataFile p fault)
  | unresolved {text value fault} (read : d.readText p = .ok text)
      (parsed : Value.ofText text = .ok value)
      (failed : Yaml.MergeKey.apply value = .error fault) : Refuses d p (.dataFile p fault)

variable {s : Search} {d : Disk} {p : FilePath}

theorem refuses_or_parses (d : Disk) (p : FilePath) :
    (∃ e, Refuses d p e) ∨ ∃ value, Parses d p value := by
  cases read : d.readText p with
  | error fault => exact .inl ⟨_, .unread read⟩
  | ok text =>
    cases parsed : Value.ofText text with
    | error fault => exact .inl ⟨_, .malformed read parsed⟩
    | ok written =>
      cases resolved : Yaml.MergeKey.apply written with
      | error fault => exact .inl ⟨_, .unresolved read parsed resolved⟩
      | ok value => exact .inr ⟨value, text, read, bind_eq_ok.mpr ⟨written, parsed, resolved⟩⟩

private theorem fragment?_of_read {text : String} (read : d.readText p = .ok text) :
    s.fragment? d p = ((document text).mapError (Error.dataFile p)).map
      fun value => (s.bodyOf? value).map (⟨p, ·⟩) := by
  rw [fragment?, read]
  change ((document text).mapError (Error.dataFile p)).bind
    (fun value => .ok ((s.bodyOf? value).map (Fragment.mk p))) = _
  cases document text <;> rfl

theorem fragment?_of_parses {value : Value} (parses : Parses d p value) :
    s.fragment? d p = .ok ((s.bodyOf? value).map (⟨p, ·⟩)) := by
  obtain ⟨text, read, done⟩ := parses
  rw [fragment?_of_read read, done]
  rfl

theorem fragment?_of_refuses {e : Error} (refuses : Refuses d p e) :
    s.fragment? d p = .error e := by
  cases refuses with
  | unread failed =>
    rw [fragment?, failed]
    rfl
  | malformed read failed =>
    rw [fragment?_of_read read, document, failed]
    rfl
  | @unresolved text _ _ read parsed failed =>
    have done : document text = _ := (congrArg (· >>= Yaml.MergeKey.apply) parsed).trans failed
    rw [fragment?_of_read read, done]
    rfl

/-- A file has a fragment, or none, only if it is a data file. -/
theorem fragment?_ok {found : Option Fragment} (taken : s.fragment? d p = .ok found) :
    ∃ value, Parses d p value ∧ found = (s.bodyOf? value).map (⟨p, ·⟩) := by
  rcases refuses_or_parses d p with ⟨e, refuses⟩ | ⟨value, parses⟩
  · exact nomatch (fragment?_of_refuses refuses).symm.trans taken
  · exact ⟨value, parses, Except.ok.inj (taken.symm.trans (fragment?_of_parses parses))⟩

theorem fragment?_eq_error_iff {e : Error} : s.fragment? d p = .error e ↔ Refuses d p e := by
  refine ⟨fun failed => ?_, fragment?_of_refuses⟩
  rcases refuses_or_parses d p with ⟨e', refuses⟩ | ⟨value, parses⟩
  · obtain rfl := Except.error.inj (failed.symm.trans (fragment?_of_refuses refuses))
    exact refuses
  · exact nomatch failed.symm.trans (fragment?_of_parses parses)

/-- Files that read the same bear the same fragments. -/
theorem fragment?_congr {e : Disk} (same : d.readText p = e.readText p) :
    s.fragment? d p = s.fragment? e p := by
  rw [fragment?, fragment?, same]

/-- The fragment is that of a schema file with the marker. -/
def Marks (s : Search) (d : Disk) (f : Fragment) : Prop :=
  s.accepts f.path = true ∧ ∃ value, Parses d f.path value ∧ s.bodyOf? value = some f.body

/-- The visits of a walk can all be searched, and the fragments are those of the
schema files that bear the marker. -/
structure Finds (s : Search) (d : Disk) (visits : List Visit) (fragments : List Fragment) :
    Prop where
  walked : ∀ cause, .fault cause ∉ visits
  parsed : ∀ p, .file p ∈ visits → s.accepts p = true → ∃ value, Parses d p value
  marked : ∀ f, f ∈ fragments ↔ .file f.path ∈ visits ∧ s.Marks d f

/-! ## One visit after another -/

/-- What stops a search at a visit. -/
def stop? (s : Search) (d : Disk) : Visit → Option Error
  | .fault cause => some (.walk cause)
  | .directory _ => none
  | .file p =>
    if s.accepts p then
      match s.fragment? d p with
      | .error e => some e
      | .ok _ => none
    else none

/-- The fragment that a search takes from a visit. -/
def given? (s : Search) (d : Disk) : Visit → Option Fragment
  | .fault _ | .directory _ => none
  | .file p =>
    if s.accepts p then
      match s.fragment? d p with
      | .error _ => none
      | .ok found => found
    else none

/-- **A search** ends with what stops it first, or else takes all there is. -/
theorem collect_eq (s : Search) (d : Disk) (visits : List Visit) :
    (s.collect d visits).1 = match visits.findSome? (s.stop? d) with
      | some e => .error e
      | none => .ok (visits.filterMap (s.given? d)) := by
  unfold collect
  induction visits with
  | nil => rfl
  | cons visit rest ih =>
    cases visit with
    | fault cause => rfl
    | directory p =>
      rw [collectWith, ih, List.findSome?_cons, List.filterMap_cons]
      rfl
    | file p =>
      rw [collectWith]
      by_cases accepted : s.accepts p = true
      · cases taken : s.fragment? d p with
        | error e => simp [accepted, taken, stop?]
        | ok found =>
          cases found with
          | none => simpa [accepted, taken, stop?, given?] using ih
          | some f =>
            simp only [accepted, taken, stop?, given?, if_true, List.findSome?_cons,
              List.filterMap_cons, ih]
            cases rest.findSome? (s.stop? d) <;> rfl
      · simpa [accepted, stop?, given?] using ih

theorem stop?_file_eq_some_iff {e : Error} :
    s.stop? d (.file p) = some e ↔ s.accepts p = true ∧ Refuses d p e := by
  rw [← fragment?_eq_error_iff (s := s), stop?]
  by_cases accepted : s.accepts p = true
  · cases taken : s.fragment? d p <;> simp [accepted]
  · simp [accepted]

theorem given?_eq_some_iff {visit : Visit} {f : Fragment} :
    s.given? d visit = some f ↔ visit = .file f.path ∧ s.Marks d f := by
  constructor
  · intro given
    unfold given? at given
    split at given
    · cases given
    · cases given
    · rename_i p
      split at given
      · rename_i accepted
        split at given
        · cases given
        · rename_i taken
          obtain ⟨value, parses, found⟩ := fragment?_ok taken
          rw [given] at found
          obtain ⟨body, has, rfl⟩ := Option.map_eq_some_iff.mp found.symm
          exact ⟨rfl, accepted, value, parses, has⟩
      · cases given
  · rintro ⟨rfl, accepted, value, parses, has⟩
    simp [given?, accepted, fragment?_of_parses parses, has]

theorem collect_eq_ok_iff {visits : List Visit} {fragments : List Fragment} :
    (s.collect d visits).1 = .ok fragments ↔
      (∀ visit ∈ visits, s.stop? d visit = none) ∧ fragments = visits.filterMap (s.given? d) := by
  rw [collect_eq, ← List.findSome?_eq_none_iff]
  cases visits.findSome? (s.stop? d) with
  | none => simp [eq_comm]
  | some e => simp

theorem collect_eq_error_iff {visits : List Visit} {e : Error} :
    (s.collect d visits).1 = .error e ↔ visits.findSome? (s.stop? d) = some e := by
  rw [collect_eq]
  cases visits.findSome? (s.stop? d) <;> simp

theorem collect_ok {visits : List Visit} {fragments : List Fragment}
    (collected : (s.collect d visits).1 = .ok fragments) : s.Finds d visits fragments := by
  obtain ⟨free, rfl⟩ := collect_eq_ok_iff.mp collected
  refine ⟨fun cause met => ?_, fun p met accepted => ?_, fun f => ?_⟩
  · cases free _ met
  · rcases refuses_or_parses d p with ⟨e, refuses⟩ | ⟨value, parses⟩
    · have stops := stop?_file_eq_some_iff.mpr ⟨accepted, refuses⟩
      exact nomatch (free _ met).symm.trans stops
    · exact ⟨value, parses⟩
  · simp only [List.mem_filterMap, given?_eq_some_iff]
    constructor
    · rintro ⟨_, met, rfl, marks⟩
      exact ⟨met, marks⟩
    · rintro ⟨met, marks⟩
      exact ⟨_, met, rfl, marks⟩

/-- **Finding fragments** takes a tree whose schema files all parse, and one of
them with the marker. -/
theorem load_ok {root : FilePath} {fragments : List Fragment}
    (loaded : (s.load d root).1 = .ok fragments) :
    d.pathExists root = true ∧ fragments ≠ [] ∧ s.Finds d (d.walk root) fragments := by
  unfold load at loaded
  cases searched : s.discover d root with
  | mk found lines =>
    rw [searched] at loaded
    match found, loaded with
    | .ok (f :: others), loaded =>
      obtain rfl := Except.ok.inj loaded
      unfold discover at searched
      split at searched
      · rename_i there
        exact ⟨there, by simp, collect_ok (congrArg Prod.fst searched)⟩
      · cases searched

end SchemaGen.Search
