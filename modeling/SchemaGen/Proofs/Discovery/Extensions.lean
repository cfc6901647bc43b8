import SchemaGen.Proofs.Discovery.OneFile
import SchemaGen.Proofs.Discovery.Unseen

/-!
# Which files a search parses

A search parses a file if its outcome depends on what parsing it gives (`Consults`). Of the
files that it comes to, it parses those whose names bear the extension, if the extension has
no dot; with a dot in the extension it parses none, also if names bear it (`consults_iff`).
-/

namespace SchemaGen

open SchemaGen.File

namespace Search

/-! ## Other answers -/

/-- What is found below a directory if parsing files gives other answers. With their own
answers it is `discover`. -/
def discoverWith (s : Search) (parse : FilePath → Except Error (Option Fragment)) (d : Disk)
    (root : FilePath) : Except Error (List Fragment) × List LogLine :=
  if d.pathExists root then s.collectWith parse (d.walk root) else (.ok [], [missingLine root])

/-- The search parses the file: with another answer there it may come to something else. -/
def Consults (s : Search) (d : Disk) (root p : FilePath) : Prop :=
  ∃ parse, (∀ q, q ≠ p → parse q = s.fragment? d q) ∧
    s.discoverWith parse d root ≠ s.discover d root

/-- The search comes to the file: nothing before it on the walk stops it. -/
def ComesTo (s : Search) (d : Disk) (root p : FilePath) : Prop :=
  d.pathExists root = true ∧ ∃ front back, d.walk root = front ++ .file p :: back ∧
    ∀ visit ∈ front, s.stop? d visit = none

variable {s : Search} {d : Disk} {root p : FilePath} {visits front back : List Visit}
  {parse : FilePath → Except Error (Option Fragment)}

/-- A file that is accepted and stops nothing has been parsed. -/
theorem exists_fragment?_of_stop?_eq_none {q : FilePath} (accepted : s.accepts q = true)
    (passed : s.stop? d (.file q) = none) : ∃ found, s.fragment? d q = .ok found := by
  cases parsed : s.fragment? d q with
  | ok found => exact ⟨found, rfl⟩
  | error e => simp [stop?, accepted, parsed] at passed

section

variable (same : ∀ q, q ≠ p → parse q = s.fragment? d q)

include same

/-- An answer that is not asked for changes nothing. -/
theorem collectWith_eq_of_unasked
    (unasked : ∀ front back, visits = front ++ .file p :: back →
      (∀ visit ∈ front, s.stop? d visit = none) → s.accepts p = false) :
    s.collectWith parse visits = s.collect d visits := by
  induction visits with
  | nil => rfl
  | cons visit rest ih =>
    -- Behind a visit that stops the search, the file need not be passed over.
    have later : s.stop? d visit = none → s.collectWith parse rest = s.collect d rest := by
      intro passed
      refine ih fun front back split clear => unasked (visit :: front) back (by rw [split]; rfl) ?_
      exact List.forall_mem_cons.mpr ⟨passed, clear⟩
    cases visit with
    | fault cause => rfl
    | directory q => exact later rfl
    | file q =>
      rw [collect] at later ⊢
      rw [collectWith, collectWith]
      by_cases accepted : s.accepts q = true
      · have other : q ≠ p := by
          rintro rfl
          exact absurd accepted (by simp [unasked [] rest rfl])
        rw [if_pos accepted, if_pos accepted, same q other]
        cases parsed : s.fragment? d q with
        | error e => rfl
        | ok found => rw [later (by simp [stop?, accepted, parsed])]
      · rw [if_neg accepted, if_neg accepted, later (by simp [stop?, accepted])]

/-- An error at a file that the search comes to is the outcome. -/
theorem collectWith_eq_error {e : Error} (refused : parse p = .error e)
    (accepted : s.accepts p = true) (clear : ∀ visit ∈ front, s.stop? d visit = none) :
    (s.collectWith parse (front ++ .file p :: back)).1 = .error e := by
  induction front with
  | nil => rw [List.nil_append, collectWith, if_pos accepted, refused]
  | cons visit rest ih =>
    obtain ⟨passed, clear⟩ := List.forall_mem_cons.mp clear
    have failed := ih clear
    rw [List.cons_append]
    cases visit with
    | fault cause => cases passed
    | directory q => exact failed
    | file q =>
      rw [collectWith]
      by_cases own : s.accepts q = true
      · rw [if_pos own]
        by_cases here : q = p
        · rw [here, refused]
        · obtain ⟨found, parsed⟩ := exists_fragment?_of_stop?_eq_none own passed
          rw [same q here, parsed]
          cases found with
          | none => exact failed
          | some f => exact congrArg (·.map (f :: ·)) failed
      · rw [if_neg own]
        exact failed

end

/-- **A search parses** the files that it accepts and comes to, and no others. -/
theorem consults_iff_accepts :
    s.Consults d root p ↔ s.ComesTo d root p ∧ s.accepts p = true := by
  constructor
  · rintro ⟨parse, same, differs⟩
    by_contra unasked
    refine differs ?_
    rw [discoverWith, discover]
    split
    · rename_i there
      refine collectWith_eq_of_unasked same fun front back split clear => ?_
      by_contra accepted
      exact unasked ⟨⟨there, front, back, split, clear⟩, by simpa using accepted⟩
    · rfl
  · rintro ⟨⟨there, front, back, split, clear⟩, accepted⟩
    -- Of two errors at the file, one is not the outcome of the search as it is.
    obtain ⟨e, other⟩ : ∃ e, (s.discover d root).1 ≠ .error e := by
      by_cases first : (s.discover d root).1 = .error (.fileSystem "")
      · exact ⟨.noEntities "", by rw [first]; simp⟩
      · exact ⟨_, first⟩
    let parse := fun q => if q = p then .error e else s.fragment? d q
    have same : ∀ q, q ≠ p → parse q = s.fragment? d q := fun q away => if_neg away
    refine ⟨parse, same, fun unchanged => other ?_⟩
    rw [← unchanged, discoverWith, if_pos there, split]
    exact collectWith_eq_error same (if_pos rfl) accepted clear

/-! ## The extension -/

/-- An extension has no dot. -/
theorem extension?_dotFree {extension : String} (found : p.extension? = some extension) :
    '.' ∉ extension.toList := by
  rw [FilePath.extension?] at found
  cases named : p.fileName? with
  | none => simp [named] at found
  | some name =>
    simp only [named, bind, Option.bind] at found
    split at found
    · cases found
    · rw [← Option.some.inj found, String.toList_ofList, List.mem_reverse]
      intro dot
      simpa using List.mem_takeWhile_imp dot

/-- **The extension selects** the files that bear it, but with a dot in it none. -/
theorem accepts_iff_bears : s.accepts p = true ↔ s.Bears p ∧ '.' ∉ s.extension.toList := by
  constructor
  · intro accepted
    have dotFree := extension?_dotFree (of_decide_eq_true accepted)
    exact ⟨(accepts_iff dotFree).mp accepted, dotFree⟩
  · rintro ⟨bears, dotFree⟩
    exact (accepts_iff dotFree).mpr bears

theorem toList_extension_ofConfig {c : Config} {n : Nat} {x : List Char}
    (written : c.schemaExtension.toList = List.replicate n '.' ++ x) (bare : x.head? ≠ some '.') :
    (ofConfig c).extension.toList = x := by
  have dots : ∀ ch ∈ List.replicate n '.', decide (ch = '.') = true := by
    intro ch member
    simpa using List.eq_of_mem_replicate member
  rw [ofConfig, ofSettings, Text.trimStartWhere, String.toList_ofList, written,
    List.dropWhile_append_of_pos dots]
  cases x with
  | nil => rfl
  | cons ch rest => exact List.dropWhile_cons_of_neg (by simpa using bare)

/-! ## What a search comes to -/

/-- A file is met below what exists. -/
theorem pathExists_of_meets (formed : d.WellFormed) (met : d.Meets root (.file p)) :
    d.pathExists root = true := by
  rw [Disk.pathExists_iff]
  cases met with
  | here shows =>
    cases shows with
    | file found => exact ⟨_, found⟩
  | listed opens there =>
    exact ⟨_, Disk.lookup_eq_ok_iff.mpr ⟨_, opens.1, formed.parent there⟩⟩
  | further opens there _ _ =>
    exact ⟨_, Disk.lookup_eq_ok_iff.mpr ⟨_, opens.1, formed.parent there⟩⟩

/-- A search comes to every file below its root that has no obstacle before it. -/
theorem comesTo_iff (formed : d.WellFormed) (free : d.LoopFree root)
    (dotFree : '.' ∉ s.extension.toList) : s.ComesTo d root p ↔
    d.Meets root (.file p) ∧ ∀ q e, s.Obstacle d root q e → ¬ q.Before p := by
  constructor
  · rintro ⟨there, front, back, split, clear⟩
    have ordered := formed.ordered_walk root
    rw [split] at ordered
    refine ⟨(formed.mem_walk_iff free).mp (by simp [split]), fun q e obstacle before => ?_⟩
    obtain ⟨visit, met, rfl, stops⟩ := (obstacle_iff dotFree).mp obstacle
    have member := (formed.mem_walk_iff free).mpr met
    rw [split] at member
    rcases List.mem_append.mp member with early | late
    · exact nomatch (clear visit early).symm.trans stops
    · rcases List.mem_cons.mp late with rfl | after
      · exact FilePath.before_irrefl _ before
      · have behind := List.rel_of_pairwise_cons (List.pairwise_append.mp ordered).2.1 after
        exact before.asymm behind
  · rintro ⟨met, unobstructed⟩
    obtain ⟨front, back, split⟩ := List.append_of_mem ((formed.mem_walk_iff free).mpr met)
    have ordered := formed.ordered_walk root
    rw [split] at ordered
    refine ⟨pathExists_of_meets formed met, front, back, split, fun visit early => ?_⟩
    rw [Option.eq_none_iff_forall_ne_some]
    intro e stops
    have member : visit ∈ d.walk root := by
      rw [split]
      exact List.mem_append_left _ early
    have obstacle := (obstacle_iff dotFree).mpr
      ⟨visit, (formed.mem_walk_iff free).mp member, rfl, stops⟩
    have before : visit.path.Before p :=
      (List.pairwise_append.mp ordered).2.2 visit early (.file p) List.mem_cons_self
    exact unobstructed _ e obstacle before

/-- **The configured extension** selects files that bear it, as it is without its leading
dots: of the files that the search comes to, it parses those named by a stem, a dot and the
extension. With a dot left in the extension it parses none. Below a directory without loops
the search comes to every file that has no obstacle before it. -/
theorem consults_iff {c : Config} {n : Nat} {x : List Char}
    (written : c.schemaExtension.toList = List.replicate n '.' ++ x) (bare : x.head? ≠ some '.')
    (d : Disk) (root p : FilePath) :
    ((ofConfig c).Consults d root p ↔ (ofConfig c).ComesTo d root p ∧
      (∃ stem, stem ≠ [] ∧ p.fileName? = some (stem ++ '.' :: x)) ∧ '.' ∉ x) ∧
    (d.WellFormed → d.LoopFree root →
      ((ofConfig c).Consults d root p ↔
        (d.Meets root (.file p) ∧ ∀ q e, (ofConfig c).Obstacle d root q e → ¬ q.Before p) ∧
        (∃ stem, stem ≠ [] ∧ p.fileName? = some (stem ++ '.' :: x)) ∧ '.' ∉ x)) := by
  have extension := toList_extension_ofConfig written bare
  have bears : (ofConfig c).Bears p ↔
      ∃ stem, stem ≠ [] ∧ p.fileName? = some (stem ++ '.' :: x) := by
    simp only [Bears, Names, extension]
    constructor
    · rintro ⟨name, named, stem, filled, rfl⟩
      exact ⟨stem, filled, named⟩
    · rintro ⟨stem, filled, named⟩
      exact ⟨_, named, stem, filled, rfl⟩
  have parsed : (ofConfig c).Consults d root p ↔ (ofConfig c).ComesTo d root p ∧
      (∃ stem, stem ≠ [] ∧ p.fileName? = some (stem ++ '.' :: x)) ∧ '.' ∉ x := by
    rw [consults_iff_accepts, accepts_iff_bears, bears, extension]
  refine ⟨parsed, fun formed free => parsed.trans ?_⟩
  refine and_congr_left fun bearing => ?_
  exact comesTo_iff formed free (extension ▸ bearing.2)

/-- The one file on a shelf is parsed; it has nothing before it. -/
theorem consults_iff_yaml :
    ".yaml".toList = List.replicate 1 '.' ++ "yaml".toList ∧ "yaml".toList.head? ≠ some '.' ∧
    (ofConfig { schemaExtension := ".yaml" }).Consults (shelf "") ⟨"schemas"⟩
      ⟨"schemas/order.yaml"⟩ ∧
    ∀ q e, (ofConfig { schemaExtension := ".yaml" }).Obstacle (shelf "") ⟨"schemas"⟩ q e →
      ¬ q.Before ⟨"schemas/order.yaml"⟩ := by
  have written : ".yaml".toList = List.replicate 1 '.' ++ "yaml".toList := by decide
  have bare : "yaml".toList.head? ≠ some '.' := by decide
  have rule := consults_iff (c := { schemaExtension := ".yaml" }) written bare (shelf "")
    ⟨"schemas"⟩ ⟨"schemas/order.yaml"⟩
  have comes : (ofConfig { schemaExtension := ".yaml" }).ComesTo (shelf "") ⟨"schemas"⟩
      ⟨"schemas/order.yaml"⟩ :=
    ⟨rfl, [.directory ⟨"schemas"⟩], [], Shelf.walk "", by simp [stop?]⟩
  have named : ∃ stem, stem ≠ [] ∧
      FilePath.fileName? ⟨"schemas/order.yaml"⟩ = some (stem ++ '.' :: "yaml".toList) :=
    ⟨"order".toList, by decide, by decide⟩
  have asked := rule.1.mpr ⟨comes, named, by decide⟩
  have tree := Shelf.tree ""
  have below := (rule.2 tree.wellFormed (tree.loopFree _)).mp asked
  exact ⟨written, bare, asked, below.1.2⟩

/-! ## An extension with a dot -/

/-- A schema directory with a file that has a second extension. -/
def domains : Disk :=
  oneFile "order.domain.yaml" "botecopro_domain: {}"

theorem walk_domains : domains.walk ⟨"schemas"⟩ =
    [.directory ⟨"schemas"⟩, .file ⟨"schemas/order.domain.yaml"⟩] :=
  OneFile.walk (by decide) _

/-- The file is named by a stem, a dot and the extension, and the search comes to it, but it
is not parsed: the search finds nothing, and says nothing. -/
theorem dotted_unparsed :
    "domain.yaml".toList.head? ≠ some '.' ∧
    (ofConfig { schemaExtension := "domain.yaml" }).ComesTo domains ⟨"schemas"⟩
      ⟨"schemas/order.domain.yaml"⟩ ∧
    FilePath.fileName? ⟨"schemas/order.domain.yaml"⟩ =
      some ("order".toList ++ '.' :: "domain.yaml".toList) ∧
    ¬ (ofConfig { schemaExtension := "domain.yaml" }).Consults domains ⟨"schemas"⟩
      ⟨"schemas/order.domain.yaml"⟩ ∧
    (ofConfig { schemaExtension := "domain.yaml" }).discover domains ⟨"schemas"⟩ =
      (.ok [], []) := by
  have refused : (ofConfig { schemaExtension := "domain.yaml" }).accepts
      ⟨"schemas/order.domain.yaml"⟩ = false := by decide
  have there : domains.pathExists ⟨"schemas"⟩ = true := rfl
  refine ⟨by decide,
    ⟨there, [.directory ⟨"schemas"⟩], [], walk_domains, by simp [stop?]⟩, by decide, ?_, ?_⟩
  · rw [consults_iff_accepts, refused]
    exact fun asked => absurd asked.2 Bool.false_ne_true
  · rw [discover, if_pos there, walk_domains]
    simp [collect, collectWith, refused]

end Search

end SchemaGen
