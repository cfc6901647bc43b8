import SchemaGen.Proofs.Discovery.Searching

/-!
# What searches do not see

Two disks may differ in regular files without the extension (`SameBut`): a search of
a directory comes to the same on both (`discover_eq_of_sameBut`). Directories and
links are the same, so the same ways lead to them, and what is met differs in such
files only. Nor does it matter in which order a disk lists what stands on it
(`discover_eq_of_perm`).
-/

namespace SchemaGen

open SchemaGen.File
open SchemaGen.Yaml (Value)

/-! ## Disks that hold the same -/

namespace File.Disk

variable {d e : Disk}

theorem locate_congr (home : e.home = d.home) (items : e.get? = d.get?) (followLast : Bool)
    (p : FilePath) : e.locate followLast p = d.locate followLast p := by
  have segments : ∀ jump rest loc,
      e.followSegments jump followLast loc rest = d.followSegments jump followLast loc rest := by
    intro jump rest
    induction rest with
    | nil => exact fun _ => rfl
    | cons segment rest ih =>
      intro loc
      rw [followSegments, followSegments, items]
      simp only [ih]
  have ways : ∀ links, e.follow followLast links = d.follow followLast links := by
    intro links
    induction links with
    | zero => exact funext fun loc => funext fun rest => segments _ rest loc
    | succ links ih =>
      refine funext fun loc => funext fun rest => ?_
      rw [follow, follow, ih]
      exact segments _ rest loc
  simp only [locate, home, ways]

theorem lookup_congr (home : e.home = d.home) (items : e.get? = d.get?) (p : FilePath) :
    e.lookup p = d.lookup p := by
  rw [lookup, lookup, items, locate_congr home items]

theorem WellFormed.of_perm (formed : d.WellFormed) (closed : e.closed = d.closed)
    (perm : e.items.Perm d.items) : e.WellFormed ∧ e.get? = d.get? := by
  have distinct : (e.items.map (·.1)).Nodup := (perm.map _).nodup_iff.mpr formed.distinct
  have items : e.get? = d.get? := by
    funext loc
    by_cases top : loc = []
    · simp [get?, top]
    · refine Option.ext fun item => ?_
      rw [← mem_items_iff_of_distinct distinct top, ← formed.mem_items_iff top, perm.mem_iff]
  exact ⟨⟨distinct, fun entry member => items ▸ formed.inside entry (perm.mem_iff.mp member),
    fun entry member => formed.named entry (perm.mem_iff.mp member),
    fun entry member => items ▸ formed.shut entry (closed ▸ member)⟩, items⟩

end File.Disk

namespace Search

/-! ## Disks that differ in other files -/

/-- Nothing stands at the location, or a regular file without the extension. -/
structure Ignored (s : Search) (d : Disk) (loc : Location) : Prop where
  unnamed : ∀ name, loc.getLast? = some name → ¬ s.Names name.toList
  plain : ∀ item, d.get? loc = some item → item.isFile = true

/-- The path leads to the same, or to files whose name at the path lacks the
extension. -/
def Alike (s : Search) (d e : Disk) (p : FilePath) : Prop :=
  e.lookup p = d.lookup p ∨
    ¬ s.Bears p ∧ ∃ bytes bytes', d.lookup p = .ok (.file bytes) ∧ e.lookup p = .ok (.file bytes')

/-- The disks differ in nothing but regular files without the extension, and the
links below the root still lead to the same or to such files. -/
structure SameBut (s : Search) (d e : Disk) (root : FilePath) : Prop where
  home : e.home = d.home
  closed : e.closed = d.closed
  items : ∀ loc, e.get? loc = d.get? loc ∨ s.Ignored d loc ∧ s.Ignored e loc
  links : ∀ visit, d.Meets root visit → d.endsInLink visit.path = true → s.Alike d e visit.path

variable {s : Search} {d e : Disk} {root p q : FilePath} {loc : Location} {name : String}
  {item : Item} {visit : Visit}

theorem names_of_bears (proper : ProperName name) :
    s.Bears (p.join name) ↔ s.Names name.toList := by
  simp [Bears, FilePath.fileName?, FilePath.components_join p proper]

namespace SameBut

variable (but : s.SameBut d e root)

include but

/-- Directories and links are the same. -/
theorem get?_iff (other : item.isFile = false) :
    e.get? loc = some item ↔ d.get? loc = some item := by
  rcases but.items loc with same | ⟨left, right⟩
  · rw [same]
  · constructor
    · intro there
      exact nomatch other.symm.trans (right.plain item there)
    · intro there
      exact nomatch other.symm.trans (left.plain item there)

/-- Files with the extension are the same. -/
theorem get?_eq (names : s.Names name.toList) :
    e.get? (loc ++ [name]) = d.get? (loc ++ [name]) := by
  rcases but.items (loc ++ [name]) with same | ⟨left, _⟩
  · exact same
  · exact absurd names (left.unnamed name (by simp))

/-- The same directories can be listed. -/
theorem closed?_eq : e.closed? = d.closed? := by
  funext loc
  rw [Disk.closed?, Disk.closed?, but.closed]

/-- The same ways lead to directories. -/
theorem locate (located : d.locate true p = .ok loc) (inside : d.get? loc = some .directory) :
    e.locate true p = .ok loc := by
  obtain ⟨fits, way⟩ := Disk.locate_eq_ok_iff.mp located
  have directory : ∀ {loc}, d.get? loc = some .directory → e.get? loc = some .directory :=
    (but.get?_iff rfl).mpr
  have start : e.start p = d.start p := by rw [Disk.start, Disk.start, but.home]
  rw [Disk.locate_eq_ok_iff, start]
  exact ⟨fits, way.of_kept directory (but.get?_iff rfl).mpr inside (directory inside)
    fun _ target => by simp⟩

/-- The same paths end in a link. -/
theorem endsInLink_eq : e.endsInLink p = d.endsInLink p := by
  have start : e.start p = d.start p := by rw [Disk.start, Disk.start, but.home]
  have directory : ∀ {loc}, e.get? loc = some .directory ↔ d.get? loc = some .directory :=
    but.get?_iff rfl
  have link : ∀ {loc target}, e.get? loc = some (.link target) ↔ d.get? loc = some (.link target) :=
    but.get?_iff rfl
  rw [Bool.eq_iff_iff, Disk.endsInLink_iff, Disk.endsInLink_iff]
  refine exists_congr fun loc => exists_congr fun target => ?_
  rw [link, and_congr_left_iff, Disk.locate_eq_ok_iff, Disk.locate_eq_ok_iff, start]
  refine fun there => and_congr_right fun _ => ⟨fun way => ?_, fun way => ?_⟩
  · exact way.of_kept directory.mp link.mp (link.mpr there) there id
  · exact way.of_kept directory.mpr link.mpr there (link.mpr there) id

theorem lookup_directory (found : d.lookup p = .ok .directory) : e.lookup p = .ok .directory := by
  obtain ⟨loc, located, inside⟩ := Disk.lookup_eq_ok_iff.mp found
  exact Disk.lookup_eq_ok_iff.mpr ⟨loc, but.locate located inside, (but.get?_iff rfl).mpr inside⟩

end SameBut

/-- Disks that differ in nothing else below the path, and at the path itself. -/
structure SameFrom (s : Search) (d e : Disk) (p : FilePath) : Prop extends SameBut s d e p where
  alike : s.Alike d e p

namespace SameFrom

variable (same : s.SameFrom d e p)

include same

/-- The path leads to a directory on both disks, and to the same one. -/
theorem locate_iff : e.locate true p = .ok loc ∧ e.get? loc = some .directory ↔
    d.locate true p = .ok loc ∧ d.get? loc = some .directory := by
  constructor
  · rintro ⟨located, inside⟩
    have found := Disk.lookup_eq_ok_iff.mpr ⟨loc, located, inside⟩
    rcases same.alike with alike | ⟨_, _, _, _, file⟩
    · rw [alike] at found
      obtain ⟨loc', located', inside'⟩ := Disk.lookup_eq_ok_iff.mp found
      obtain rfl := Except.ok.inj (located.symm.trans (same.locate located' inside'))
      exact ⟨located', inside'⟩
    · exact nomatch file.symm.trans found
  · rintro ⟨located, inside⟩
    exact ⟨same.locate located inside, (same.get?_iff rfl).mpr inside⟩

/-- The path shows the same, whatever a file without the extension holds. -/
theorem shows_iff : e.Shows p visit ↔ d.Shows p visit := by
  rcases same.alike with alike | ⟨_, _, _, file, file'⟩
  · exact ⟨.of_lookup_eq alike.symm same.endsInLink_eq.symm
      (fun located inside => same.locate_iff.mp ⟨located, inside⟩) same.closed?_eq.symm,
      .of_lookup_eq alike same.endsInLink_eq
        (fun located inside => same.locate_iff.mpr ⟨located, inside⟩) same.closed?_eq⟩
  · rw [Disk.shows_of_file file, Disk.shows_of_file file']

/-- Where something stands below it, a directory can be listed on both disks or on
neither. -/
theorem opens_before (formed' : e.WellFormed) (opens : e.Opens p loc)
    (there : e.get? (loc ++ [name]) = some item) : d.Opens p loc :=
  ⟨(same.locate_iff.mp ⟨opens.1, formed'.parent there⟩).1, same.closed?_eq ▸ opens.2⟩

theorem opens_after (formed : d.WellFormed) (opens : d.Opens p loc)
    (there : d.get? (loc ++ [name]) = some item) : e.Opens p loc :=
  ⟨same.locate opens.1 (formed.parent there), same.closed?_eq ▸ opens.2⟩

/-- From a name on, the disks differ in nothing else. -/
theorem join (formed : d.WellFormed) (opens : d.Opens p loc)
    (there : d.get? (loc ++ [name]) = some item) (other : item.isFile = false) :
    s.SameFrom d e (p.join name) := by
  have links : ∀ visit, d.Meets (p.join name) visit → d.endsInLink visit.path = true →
      s.Alike d e visit.path :=
    fun visit met => same.links visit (.further opens there other met)
  refine ⟨⟨same.home, same.closed, same.items, links⟩, ?_⟩
  by_cases short : (p.join name).text.utf8ByteSize ≤ Disk.pathLimit
  · cases item with
    | file bytes => cases other
    | link target =>
      obtain ⟨visit, here, shows⟩ := formed.exists_shows (p.join name)
      have ends := formed.endsInLink_join there opens.1 short
      exact here ▸ links visit (.here shows) (here ▸ ends)
    | directory =>
      have found := formed.locate_join there (by simp) opens.1 short
      exact .inl ((same.lookup_directory (Disk.lookup_eq_ok_iff.mpr ⟨_, found, there⟩)).trans
        (Disk.lookup_eq_ok_iff.mpr ⟨_, found, there⟩).symm)
  · exact .inl (Disk.lookup_eq_of_long (Nat.lt_of_not_le short))

section

variable (formed : d.WellFormed) (formed' : e.WellFormed)

include formed formed'

/-- **The same is met**, files without the extension apart. -/
theorem meets_iff (seen : ∀ q, visit = .file q → s.Bears q) :
    e.Meets p visit ↔ d.Meets p visit := by
  constructor
  · intro met
    induction met with
    | here shows => exact .here (same.shows_iff.mp shows)
    | listed opens there =>
      have names := (names_of_bears (formed'.proper there)).mp (seen _ rfl)
      exact .listed (same.opens_before formed' opens there) ((same.get?_eq names).symm.trans there)
    | further opens there other _ ih =>
      have opens' := same.opens_before formed' opens there
      have there' := (same.get?_iff other).mp there
      exact .further opens' there' other (ih (same.join formed opens' there' other) seen)
  · intro met
    induction met with
    | here shows => exact .here (same.shows_iff.mpr shows)
    | listed opens there =>
      have names := (names_of_bears (formed.proper there)).mp (seen _ rfl)
      exact .listed (same.opens_after formed opens there) ((same.get?_eq names).trans there)
    | further opens there other _ ih =>
      exact .further (same.opens_after formed opens there) ((same.get?_iff other).mpr there)
        other (ih (same.join formed opens there other) seen)

/-- A file with the extension that is met holds the same. -/
theorem lookup_eq (met : d.Meets p (.file q)) (bears : s.Bears q) : e.lookup q = d.lookup q := by
  generalize file : Visit.file q = visit at met
  induction met with
  | here shows =>
    cases shows with
    | file _ =>
      cases file
      rcases same.alike with alike | ⟨unseen, _⟩
      · exact alike
      · exact absurd bears unseen
    | directory | closed | fault => cases file
  | @listed p loc name bytes opens there =>
    cases file
    by_cases short : (p.join name).text.utf8ByteSize ≤ Disk.pathLimit
    · have located := opens.1
      have located' := (same.opens_after formed opens there).1
      have there' := (same.get?_eq ((names_of_bears (formed.proper there)).mp bears)).trans there
      have found := formed.locate_join there (by simp) located short
      have found' := formed'.locate_join there' (by simp) located' short
      exact (Disk.lookup_eq_ok_iff.mpr ⟨_, found', there'⟩).trans
        (Disk.lookup_eq_ok_iff.mpr ⟨_, found, there⟩).symm
    · exact Disk.lookup_eq_of_long (Nat.lt_of_not_le short)
  | further opens there other _ ih =>
    exact ih (same.join formed opens there other) file

end

/-- From a directory that is met, the disks differ in nothing else. -/
theorem descend (formed : d.WellFormed) (met : d.Meets p (.directory q)) : s.SameFrom d e q := by
  generalize directory : Visit.directory q = visit at met
  induction met with
  | here shows =>
    cases shows with
    | directory _ _ =>
      cases directory
      exact same
    | file | closed | fault => cases directory
  | listed _ _ => cases directory
  | further opens there other _ ih =>
    exact ih (same.join formed opens there other) directory

/-! ## Searches that come to the same -/

section

variable (formed : d.WellFormed) (formed' : e.WellFormed)

include formed formed'

/-- There are loops on neither disk if there are none on one. -/
theorem loopFree (free : d.LoopFree p) : e.LoopFree p := by
  intro q r loc met met' located located'
  have metBefore := (same.meets_iff formed formed' (by simp)).mp met
  have sameAt := same.descend formed metBefore
  have metBefore' := (sameAt.meets_iff formed formed' (by simp)).mp met'
  have sameAt' := sameAt.descend formed metBefore'
  have inside : e.get? loc = some .directory := by
    obtain ⟨loc', again, there⟩ := Disk.lookup_eq_ok_iff.mp met.lookup_directory
    rwa [Except.ok.inj (located.symm.trans again)]
  exact free q r loc metBefore metBefore' (sameAt.locate_iff.mp ⟨located, inside⟩).1
    (sameAt'.locate_iff.mp ⟨located', inside⟩).1

theorem readText_eq (met : d.Meets p (.file q)) (bears : s.Bears q) : e.readText q = d.readText q :=
  Disk.readText_congr (same.lookup_eq formed formed' met bears)

theorem parses_iff {value : Value} (met : d.Meets p (.file q)) (bears : s.Bears q) :
    Parses e q value ↔ Parses d q value := by
  rw [Parses, Parses, same.readText_eq formed formed' met bears]

theorem refuses_iff {error : Error} (met : d.Meets p (.file q)) (bears : s.Bears q) :
    Refuses e q error ↔ Refuses d q error := by
  rw [← fragment?_eq_error_iff (s := s), ← fragment?_eq_error_iff (s := s),
    fragment?_congr (same.readText_eq formed formed' met bears)]

theorem sought_iff_sought {f : Fragment} : s.Sought e p f ↔ s.Sought d p f := by
  constructor
  · rintro ⟨met, bears, entries, parses, has⟩
    have met' := (same.meets_iff formed formed' (by rintro _ ⟨⟩; exact bears)).mp met
    exact ⟨met', bears, entries, (same.parses_iff formed formed' met' bears).mp parses, has⟩
  · rintro ⟨met, bears, entries, parses, has⟩
    exact ⟨(same.meets_iff formed formed' (by rintro _ ⟨⟩; exact bears)).mpr met, bears, entries,
      (same.parses_iff formed formed' met bears).mpr parses, has⟩

theorem obstacle_iff_obstacle {error : Error} :
    s.Obstacle e p q error ↔ s.Obstacle d p q error := by
  constructor
  · rintro (met | ⟨met, bears, refuses⟩)
    · exact .closed ((same.meets_iff formed formed' (by simp)).mp met)
    · have met' := (same.meets_iff formed formed' (by rintro _ ⟨⟩; exact bears)).mp met
      exact .refused met' bears ((same.refuses_iff formed formed' met' bears).mp refuses)
  · rintro (met | ⟨met, bears, refuses⟩)
    · exact .closed ((same.meets_iff formed formed' (by simp)).mpr met)
    · exact .refused ((same.meets_iff formed formed' (by rintro _ ⟨⟩; exact bears)).mpr met) bears
        ((same.refuses_iff formed formed' met bears).mpr refuses)

omit formed formed' in
theorem pathExists_eq : e.pathExists p = d.pathExists p := by
  rw [Disk.pathExists, Disk.pathExists]
  rcases same.alike with alike | ⟨_, _, _, file, file'⟩
  · rw [alike]
  · rw [file, file']
    rfl

theorem discover_eq (free : d.LoopFree p) (dotFree : '.' ∉ s.extension.toList) :
    (s.discover e p).1 = (s.discover d p).1 := by
  cases there : d.pathExists p with
  | false =>
    have there' := same.pathExists_eq.trans there
    simp [discover, there, there']
  | true =>
    have there' := same.pathExists_eq.trans there
    have free' := same.loopFree formed formed' free
    cases result : (s.discover d p).1 with
    | ok fragments =>
      rw [discover_eq_ok_iff formed free dotFree there] at result
      rw [discover_eq_ok_iff formed' free' dotFree there']
      simpa only [same.obstacle_iff_obstacle formed formed',
        same.sought_iff_sought formed formed'] using result
    | error error =>
      rw [discover_eq_error_iff formed free dotFree there] at result
      rw [discover_eq_error_iff formed' free' dotFree there']
      simpa only [FirstObstacle, same.obstacle_iff_obstacle formed formed'] using result

end

end SameFrom

section

variable (formed : d.WellFormed) (free : d.LoopFree root) (dotFree : '.' ∉ s.extension.toList)

include formed free dotFree

/-- **Files without the extension are not seen** by a search of a directory. -/
theorem discover_eq_of_sameBut (formed' : e.WellFormed) (directory : d.isDirectory root = true)
    (but : s.SameBut d e root) : (s.discover e root).1 = (s.discover d root).1 := by
  have found : d.lookup root = .ok .directory := by
    unfold Disk.isDirectory at directory
    split at directory
    · assumption
    · cases directory
  have same : s.SameFrom d e root := ⟨but, .inl ((but.lookup_directory found).trans found.symm)⟩
  exact same.discover_eq formed formed' free dotFree

/-- **The order of a listing is not seen** either. -/
theorem discover_eq_of_perm (home : e.home = d.home) (closed : e.closed = d.closed)
    (perm : e.items.Perm d.items) : (s.discover e root).1 = (s.discover d root).1 := by
  obtain ⟨formed', items⟩ := formed.of_perm closed perm
  have alike : ∀ p, s.Alike d e p := fun p => .inl (Disk.lookup_congr home items p)
  have same : s.SameFrom d e root :=
    ⟨⟨home, closed, fun loc => .inl (congrFun items loc), fun visit _ _ => alike visit.path⟩,
      alike root⟩
  exact same.discover_eq formed formed' free dotFree

end

end Search

end SchemaGen
