import SchemaGen.Proofs.Discovery.Finding
import SchemaGen.Proofs.File.Traversal

/-!
# What searches come to

A search takes every fragment there is at or below its root (`Sought`), in the order
of the paths, unless something stands in its way (`Obstacle`); then it reports what
comes first in that order. Neither says how the tree is walked: `discover_eq_ok_iff`
and `discover_eq_error_iff` are for every disk without loops.
-/

namespace SchemaGen.Search

open SchemaGen.File
open SchemaGen.Yaml (Value Entries)

/-- The name is a stem and the extension, with a dot between them. -/
def Names (s : Search) (name : List Char) : Prop :=
  ∃ stem, stem ≠ [] ∧ name = stem ++ '.' :: s.extension.toList

/-- The file name bears the extension. -/
def Bears (s : Search) (p : FilePath) : Prop :=
  ∃ name, p.fileName? = some name ∧ s.Names name

/-- The fragment is what a file below the root holds under the marker key. -/
structure Sought (s : Search) (d : Disk) (root : FilePath) (f : Fragment) : Prop where
  met : d.Meets root (.file f.path)
  bears : s.Bears f.path
  held : ∃ entries, Parses d f.path (.map entries) ∧ Entries.get? entries s.marker = some f.body

/-- What stops a search at a path. -/
inductive Obstacle (s : Search) (d : Disk) (root : FilePath) : FilePath → Error → Prop
  /-- A directory or a link that cannot be opened. -/
  | closed {cause} (met : d.Meets root (.fault cause)) :
      Obstacle s d root cause.path (.walk cause)
  /-- A file with the extension that cannot be read, parsed or resolved. -/
  | refused {p e} (met : d.Meets root (.file p)) (bears : s.Bears p) (refuses : Refuses d p e) :
      Obstacle s d root p e

variable {s : Search} {d : Disk} {root p : FilePath} {e : Error} {f : Fragment} {visit : Visit}

/-- The obstacle comes before all others. -/
def FirstObstacle (s : Search) (d : Disk) (root p : FilePath) (e : Error) : Prop :=
  s.Obstacle d root p e ∧
    ∀ q e', s.Obstacle d root q e' → q = p ∧ e' = e ∨ p.Before q

/-! ## Extensions -/

/-- What follows the last dot is what has none. -/
private theorem afterDot_append (stem : List Char) {after : List Char} (plain : '.' ∉ after) :
    ((stem ++ '.' :: after).reverse.takeWhile (· != '.')).reverse = after := by
  have kept : ∀ c ∈ after.reverse, (c != '.') = true := by
    intro c member
    simpa using fun same : c = '.' => plain (same ▸ List.mem_reverse.mp member)
  rw [List.reverse_append, List.reverse_cons, List.append_assoc, List.takeWhile_append_of_pos kept]
  simp

/-- A name has a dot where what follows the last one begins. -/
private theorem exists_stem_of_afterDot (name : List Char)
    (more : 1 ≤ name.length - (name.reverse.takeWhile (· != '.')).length) :
    ∃ stem, name = stem ++ '.' :: (name.reverse.takeWhile (· != '.')).reverse := by
  have whole := List.takeWhile_append_dropWhile (p := (· != '.')) (l := name.reverse)
  cases rest : name.reverse.dropWhile (· != '.') with
  | nil =>
    rw [rest, List.append_nil] at whole
    rw [whole, List.length_reverse] at more
    omega
  | cons c others =>
    have dot : c = '.' := by
      have first := List.head_dropWhile_not (· != '.') (l := name.reverse) (by simp [rest])
      simpa [rest] using first
    rw [rest, dot] at whole
    have turned := congrArg List.reverse whole
    exact ⟨others.reverse, by simpa using turned.symm⟩

theorem accepts_iff (dotFree : '.' ∉ s.extension.toList) : s.accepts p = true ↔ s.Bears p := by
  rw [accepts, decide_eq_true_eq, FilePath.extension?, Bears]
  cases p.fileName? with
  | none => simp
  | some name =>
    simp only [Option.some.injEq, bind, Option.bind, List.length_reverse, List.length_take,
      exists_eq_left', Names]
    constructor
    · intro found
      split at found
      · cases found
      · rename_i long
        rw [Option.some.injEq] at found
        obtain ⟨stem, split⟩ := exists_stem_of_afterDot name (by omega)
        have after : (name.reverse.takeWhile (· != '.')).reverse = s.extension.toList := by
          rw [← found, String.toList_ofList]
        rw [after] at split
        refine ⟨stem, ?_, split⟩
        -- A name that begins with its only dot is too short.
        rintro rfl
        have lengths := congrArg List.length split
        rw [← after] at lengths
        simp only [List.nil_append, List.length_cons, List.length_reverse] at lengths
        omega
    · rintro ⟨stem, filled, rfl⟩
      have after := afterDot_append stem dotFree
      have lengths := congrArg List.length after
      have some := List.length_pos_of_ne_nil filled
      rw [List.length_reverse] at lengths
      rw [lengths, after, if_neg, String.ofList_toList]
      simp only [List.length_append, List.length_cons]
      omega

/-! ## One visit -/

theorem obstacle_iff (dotFree : '.' ∉ s.extension.toList) : s.Obstacle d root p e ↔
    ∃ visit, d.Meets root visit ∧ visit.path = p ∧ s.stop? d visit = some e := by
  constructor
  · rintro (met | ⟨met, bears, refuses⟩)
    · exact ⟨_, met, rfl, rfl⟩
    · exact ⟨_, met, rfl, stop?_file_eq_some_iff.mpr ⟨(accepts_iff dotFree).mpr bears, refuses⟩⟩
  · rintro ⟨visit, met, rfl, stops⟩
    cases visit with
    | file q =>
      obtain ⟨accepted, refuses⟩ := stop?_file_eq_some_iff.mp stops
      exact .refused met ((accepts_iff dotFree).mp accepted) refuses
    | directory q => cases stops
    | fault cause =>
      obtain rfl := Option.some.inj stops
      exact .closed met

theorem sought_iff (dotFree : '.' ∉ s.extension.toList) : s.Sought d root f ↔
    ∃ visit, d.Meets root visit ∧ s.given? d visit = some f := by
  simp only [given?_eq_some_iff]
  constructor
  · rintro ⟨met, bears, entries, parses, has⟩
    exact ⟨_, met, rfl, (accepts_iff dotFree).mpr bears, .map entries, parses, has⟩
  · rintro ⟨_, met, rfl, accepted, value, parses, has⟩
    unfold bodyOf? at has
    split at has
    · exact ⟨met, (accepts_iff dotFree).mp accepted, _, parses, has⟩
    · cases has

/-! ## All visits -/

section

variable (formed : d.WellFormed) (free : d.LoopFree root) (dotFree : '.' ∉ s.extension.toList)

include formed in
/-- The fragments of a walk are in order. -/
theorem ordered_given : ((d.walk root).filterMap (s.given? d)).Pairwise (·.path.Before ·.path) := by
  refine List.Pairwise.filterMap _ ?_ (formed.ordered_walk root)
  intro visit visit' before f given f' given'
  rw [(given?_eq_some_iff.mp given).1, (given?_eq_some_iff.mp given').1] at before
  exact before

include formed free dotFree

theorem mem_given_iff : f ∈ (d.walk root).filterMap (s.given? d) ↔ s.Sought d root f := by
  rw [sought_iff dotFree, List.mem_filterMap]
  simp only [formed.mem_walk_iff free]

/-- **What a search finds**, if nothing stands in its way, is all there is, in order. -/
theorem discover_eq_ok_iff (there : d.pathExists root = true) (fragments : List Fragment) :
    (s.discover d root).1 = .ok fragments ↔ (∀ p e, ¬ s.Obstacle d root p e) ∧
      fragments.Pairwise (·.path.Before ·.path) ∧
      ∀ f, f ∈ fragments ↔ s.Sought d root f := by
  have members := fun f => mem_given_iff (s := s) (f := f) formed free dotFree
  rw [discover, if_pos there, collect_eq_ok_iff]
  constructor
  · rintro ⟨clear, rfl⟩
    refine ⟨fun p e obstacle => ?_, ordered_given formed, members⟩
    obtain ⟨visit, met, _, stops⟩ := (obstacle_iff dotFree).mp obstacle
    exact nomatch (clear visit ((formed.mem_walk_iff free).mpr met)).symm.trans stops
  · rintro ⟨clear, ordered, same⟩
    refine ⟨fun visit met => Option.eq_none_iff_forall_ne_some.mpr fun e stops => ?_,
      FilePath.eq_of_ordered ordered (ordered_given formed)
        fun f => (same f).trans (members f).symm⟩
    exact clear visit.path e
      ((obstacle_iff dotFree).mpr ⟨visit, (formed.mem_walk_iff free).mp met, rfl, stops⟩)

/-- **What stops a search** is what comes first of all that stands in its way. -/
theorem discover_eq_error_iff (there : d.pathExists root = true) (e : Error) :
    (s.discover d root).1 = .error e ↔ ∃ p, s.FirstObstacle d root p e := by
  have stands : ∀ {q e'}, s.Obstacle d root q e' ↔
      ∃ visit ∈ d.walk root, visit.path = q ∧ s.stop? d visit = some e' := by
    intro q e'
    rw [obstacle_iff dotFree]
    simp only [formed.mem_walk_iff free]
  rw [discover, if_pos there, collect_eq_error_iff]
  -- The walk, cut at the first visit that stops the search.
  have first : ∀ {e}, (d.walk root).findSome? (s.stop? d) = some e →
      ∃ p, s.FirstObstacle d root p e := by
    intro e found
    obtain ⟨front, visit, back, walk, stops, clear⟩ := List.findSome?_eq_some_iff.mp found
    have ordered := formed.ordered_walk root
    rw [walk] at ordered stands
    refine ⟨visit.path, stands.mpr ⟨visit, by simp, rfl, stops⟩, fun q e' obstacle => ?_⟩
    obtain ⟨other, member, rfl, stops'⟩ := stands.mp obstacle
    rcases List.mem_append.mp member with before | here
    · exact nomatch (clear other before).symm.trans stops'
    · rcases List.mem_cons.mp here with rfl | after
      · exact .inl ⟨rfl, Option.some.inj (stops'.symm.trans stops)⟩
      · exact .inr (List.rel_of_pairwise_cons (List.pairwise_append.mp ordered).2.1 after)
  refine ⟨first, ?_⟩
  rintro ⟨p, obstacle, least⟩
  cases found : (d.walk root).findSome? (s.stop? d) with
  | none =>
    obtain ⟨visit, member, _, stops⟩ := stands.mp obstacle
    exact nomatch (List.findSome?_eq_none_iff.mp found visit member).symm.trans stops
  | some e' =>
    obtain ⟨p', obstacle', least'⟩ := first found
    rcases least p' e' obstacle' with ⟨_, same⟩ | before
    · rw [same]
    · rcases least' p e obstacle with ⟨_, same⟩ | after
      · rw [same]
      · exact absurd after before.asymm

end

end SchemaGen.Search
