import Mathlib.Data.List.Perm.Subperm
import SchemaGen.Proofs.File.Order
import SchemaGen.Proofs.File.Walks

/-!
# What walks meet, and in which order

`Meets` says what stands at a path and below it, links followed, without a word on
how it is gone through. Where no directory is met again below itself (`LoopFree`), a
walk meets just that (`mem_walk_iff`): it goes through distinct directories on its
way down, so its fuel lasts. What it meets comes in the order of the paths
(`ordered_walk`), whatever the shape of the tree.
-/

namespace SchemaGen.File

/-- The path that is visited. -/
def Visit.path : Visit → FilePath
  | .file p | .directory p => p
  | .fault cause => cause.path

namespace Disk

/-- The path leads to this place, and what stands there may be listed. -/
def Opens (d : Disk) (p : FilePath) (loc : Location) : Prop :=
  d.locate true p = .ok loc ∧ d.closed? loc = none

/-- What looking up a path comes to, and opening what stands there if it is a directory. -/
inductive Shows (d : Disk) (p : FilePath) : Visit → Prop
  | file {bytes} (found : d.lookup p = .ok (.file bytes)) : Shows d p (.file p)
  | directory {loc} (opens : d.Opens p loc) (inside : d.get? loc = some .directory) :
      Shows d p (.directory p)
  | closed {loc reason} (located : d.locate true p = .ok loc)
      (inside : d.get? loc = some .directory) (shut : d.closed? loc = some reason) :
      Shows d p (.fault (d.unlisted p reason))
  | fault {fault} (found : d.lookup p = .error fault) : Shows d p (.fault (.unreadable p fault))

/-- What stands at a path and below it, links followed. A file is met where it is
listed; anything else has to be looked up by its path. -/
inductive Meets (d : Disk) : FilePath → Visit → Prop
  | here {p visit} (shows : d.Shows p visit) : Meets d p visit
  | listed {p loc name bytes} (opens : d.Opens p loc)
      (there : d.get? (loc ++ [name]) = some (.file bytes)) : Meets d p (.file (p.join name))
  | further {p loc name item visit} (opens : d.Opens p loc)
      (there : d.get? (loc ++ [name]) = some item) (other : item.isFile = false)
      (met : Meets d (p.join name) visit) : Meets d p visit

/-- The way from the root down to a path, with the directories that it goes through. -/
inductive Way (d : Disk) (root : FilePath) : Ancestors → FilePath → Prop
  | top : Way d root [] root
  | next {ancestors p loc name item} (way : Way d root ancestors p)
      (opens : d.Opens p loc) (there : d.get? (loc ++ [name]) = some item)
      (other : item.isFile = false) : Way d root ((loc, p) :: ancestors) (p.join name)

/-- What keeps the directory or the link at a path from being opened. -/
inductive Bars (d : Disk) (p : FilePath) : WalkFault → Prop
  /-- A link that cannot be followed. -/
  | dangling {fault} (link : d.endsInLink p = true) (failed : d.lookup p = .error fault) :
      Bars d p (.unreadable p fault)
  /-- A path that is longer than the system allows. -/
  | long {fault} (long : pathLimit < p.text.utf8ByteSize) (failed : d.lookup p = .error fault) :
      Bars d p (.unreadable p fault)
  /-- A directory that the system does not let be listed. -/
  | closed {loc reason} (located : d.locate true p = .ok loc)
      (inside : d.get? loc = some .directory) (shut : d.closed? loc = some reason) :
      Bars d p (d.unlisted p reason)

/-- No directory below the root is met again below itself. -/
def LoopFree (d : Disk) (root : FilePath) : Prop :=
  ∀ p q loc, d.Meets root (.directory p) → d.Meets p (.directory q) →
    d.locate true p = .ok loc → d.locate true q = .ok loc → q = p

variable {d : Disk} {root p q : FilePath} {loc place : Location} {name : String} {item : Item}
  {visit : Visit} {fuel : Nat} {ancestors : Ancestors}

/-! ## Looking up -/

/-- Links are followed to their end. -/
theorem WellFormed.solid_of_follows (formed : d.WellFormed) {n : Nat}
    {segments : List (List Char)} (way : Follows d true n loc segments place)
    (start : segments ≠ [] ∨ ∀ target, d.get? loc ≠ some (.link target)) (target : String) :
    d.get? place ≠ some (.link target) := by
  have solid : ∀ {loc}, d.get? loc = some .directory → ∀ target, d.get? loc ≠ some (.link target) :=
    fun inside target link => nomatch inside.symm.trans link
  induction way with
  | here => exact start.resolve_left (by simp) target
  | idle inside _ _ ih => exact ih (.inr (solid inside))
  | up inside _ ih => exact ih (.inr (solid (formed.get?_dropLast inside)))
  | into _ _ _ there plain _ ih =>
    exact ih (.inr fun target link => plain target (Option.some.inj (there.symm.trans link)))
  | missing _ _ _ absent _ => simp [absent]
  | halt _ _ _ _ stop => cases stop
  | jump _ _ _ _ _ _ ih =>
    exact ih (.inl (by simp [FilePath.segments, FilePath.splitSlashes_ne_nil]))

theorem WellFormed.solid_of_locate (formed : d.WellFormed) (located : d.locate true p = .ok loc)
    (target : String) : d.get? loc ≠ some (.link target) :=
  formed.solid_of_follows (locate_eq_ok_iff.mp located).2
    (.inl (FilePath.splitSlashes_ne_nil _)) target

theorem lookup_of_locate (located : d.locate true p = .ok loc) :
    d.lookup p = match d.get? loc with
      | some item => .ok item
      | none => .error .notFound := by
  rw [lookup, located]
  rfl

theorem lookup_of_locate_error {fault : Fault} (failed : d.locate true p = .error fault) :
    d.lookup p = .error fault := by
  rw [lookup, failed]
  rfl

@[simp]
theorem unlisted_path (reason : String) : (d.unlisted p reason).path = p := by
  unfold unlisted
  split <;> rfl

/-- What a path shows it shows on every disk where it leads to the same, and to the same
place if that is a directory. -/
theorem Shows.of_lookup_eq {e : Disk} (same : e.lookup p = d.lookup p)
    (link : e.endsInLink p = d.endsInLink p)
    (place : ∀ {loc}, d.locate true p = .ok loc → d.get? loc = some .directory →
      e.locate true p = .ok loc ∧ e.get? loc = some .directory)
    (closed : e.closed? = d.closed?) (shows : d.Shows p visit) : e.Shows p visit := by
  cases shows with
  | file found => exact .file (same.trans found)
  | directory opens inside =>
    obtain ⟨located', inside'⟩ := place opens.1 inside
    exact .directory ⟨located', closed ▸ opens.2⟩ inside'
  | closed located inside shut =>
    obtain ⟨located', inside'⟩ := place located inside
    rw [unlisted, ← link]
    exact .closed located' inside' (closed ▸ shut)
  | fault found => exact .fault (same.trans found)

theorem shows_of_error {fault : Fault} (failed : d.lookup p = .error fault) :
    d.Shows p visit ↔ visit = .fault (.unreadable p fault) := by
  have other : ∀ {item}, d.lookup p ≠ .ok item := by simp [failed]
  constructor
  · rintro (found | ⟨opens, inside⟩ | ⟨located, inside, _⟩ | found)
    · exact absurd found other
    · exact absurd (lookup_eq_ok_iff.mpr ⟨_, opens.1, inside⟩) other
    · exact absurd (lookup_eq_ok_iff.mpr ⟨_, located, inside⟩) other
    · rw [Except.error.inj (failed.symm.trans found)]
  · rintro rfl
    exact .fault failed

theorem shows_of_file {bytes : ByteArray} (file : d.lookup p = .ok (.file bytes)) :
    d.Shows p visit ↔ visit = .file p := by
  have other : d.lookup p ≠ .ok .directory := by simp [file]
  constructor
  · rintro (_ | ⟨opens, inside⟩ | ⟨located, inside, _⟩ | found)
    · rfl
    · exact absurd (lookup_eq_ok_iff.mpr ⟨_, opens.1, inside⟩) other
    · exact absurd (lookup_eq_ok_iff.mpr ⟨_, located, inside⟩) other
    · exact nomatch file.symm.trans found
  · rintro rfl
    exact .file file

theorem shows_of_directory (located : d.locate true p = .ok loc)
    (inside : d.get? loc = some .directory) : d.Shows p visit ↔ visit = match d.closed? loc with
      | some reason => .fault (d.unlisted p reason)
      | none => .directory p := by
  have found := lookup_eq_ok_iff.mpr ⟨loc, located, inside⟩
  constructor
  · rintro (file | ⟨⟨located', isOpen⟩, _⟩ | ⟨located', _, shut⟩ | failed)
    · exact nomatch found.symm.trans file
    · rw [Except.ok.inj (located.symm.trans located'), isOpen]
    · rw [Except.ok.inj (located.symm.trans located'), shut]
    · exact nomatch found.symm.trans failed
  · rintro rfl
    split
    · rename_i shut
      exact .closed located inside shut
    · rename_i isOpen
      exact .directory ⟨located, isOpen⟩ inside

/-- Something is shown at every path. -/
theorem WellFormed.exists_shows (formed : d.WellFormed) (p : FilePath) :
    ∃ visit, visit.path = p ∧ d.Shows p visit := by
  cases found : d.lookup p with
  | error fault => exact ⟨_, rfl, .fault found⟩
  | ok item =>
    cases item with
    | file bytes => exact ⟨_, rfl, .file found⟩
    | directory =>
      obtain ⟨loc, located, inside⟩ := lookup_eq_ok_iff.mp found
      refine ⟨_, ?_, (shows_of_directory located inside).mpr rfl⟩
      split
      · exact unlisted_path _
      · rfl
    | link target =>
      obtain ⟨loc, located, link⟩ := lookup_eq_ok_iff.mp found
      exact absurd link (formed.solid_of_locate located target)

theorem endsInLink_iff : d.endsInLink p = true ↔
    ∃ loc target, d.locate false p = .ok loc ∧ d.get? loc = some (.link target) := by
  unfold endsInLink
  cases d.locate false p with
  | error fault => simp
  | ok loc =>
    simp only [Except.ok.injEq, exists_eq_left', exists_and_left]
    split
    · rename_i target link
      simp [link]
    · rename_i other
      simpa using other

/-- A path that goes on by the name of a link ends in a link, unless it has become
too long. -/
theorem WellFormed.endsInLink_join (formed : d.WellFormed) {target : String}
    (there : d.get? (loc ++ [name]) = some (.link target)) (located : d.locate true p = .ok loc)
    (short : (p.join name).text.utf8ByteSize ≤ pathLimit) : d.endsInLink (p.join name) = true := by
  have halted := formed.locate_join_of_halt there (fun _ _ => rfl) located short
  rw [endsInLink, halted]
  simp only [there]

/-- A path with one name more is longer. -/
theorem size_lt_join (p : FilePath) (proper : ProperName name) :
    p.text.utf8ByteSize < (p.join name).text.utf8ByteSize := by
  have longer := p.size_join proper.noSlash
  have filled : name.utf8ByteSize ≠ 0 := by
    simpa [String.utf8ByteSize_eq_zero_iff] using proper.isName.1
  omega

/-! ## The way down -/

namespace Way

variable (way : d.Way root ancestors p)

include way

/-- What is met below is met from above. -/
theorem meets (met : d.Meets p visit) : d.Meets root visit := by
  induction way with
  | top => exact met
  | next _ opens there other ih => exact ih (.further opens there other met)

/-- What the way goes through are directories above its end. -/
theorem above (formed : d.WellFormed) {a : FilePath} (member : (loc, a) ∈ ancestors) :
    d.Opens a loc ∧ d.get? loc = some .directory ∧ d.Meets root (.directory a) ∧
      (∀ visit, d.Meets p visit → d.Meets a visit) ∧
      a.text.utf8ByteSize < p.text.utf8ByteSize := by
  induction way with
  | top => cases member
  | @next _ p _ name _ way opens there other ih =>
    have longer := size_lt_join p (formed.proper there)
    rcases List.mem_cons.mp member with same | member
    · cases same
      have inside := formed.parent there
      exact ⟨opens, inside, way.meets (.here (.directory opens inside)),
        fun visit met => .further opens there other met, longer⟩
    · obtain ⟨atAbove, inside, met, on, shorter⟩ := ih member
      exact ⟨atAbove, inside, met, fun visit later => on visit (.further opens there other later),
        Nat.lt_trans shorter longer⟩

/-- Without loops the way does not end in a directory that it goes through. -/
theorem fresh (formed : d.WellFormed) (free : d.LoopFree root)
    (located : d.locate true p = .ok loc) (inside : d.get? loc = some .directory) :
    loc ∉ ancestors.map (·.1) := by
  intro again
  obtain ⟨⟨_, a⟩, member, rfl⟩ := List.mem_map.mp again
  -- What the way goes through is open, so this is, too.
  obtain ⟨⟨located', isOpen⟩, _, met, on, shorter⟩ := way.above formed member
  obtain rfl := free a p _ met (on _ (.here (.directory ⟨located, isOpen⟩ inside))) located' located
  exact Nat.lt_irrefl _ shorter

/-- On the way no loop is seen. -/
theorem walkWithin_directory (formed : d.WellFormed) (free : d.LoopFree root)
    (located : d.locate true p = .ok loc) (inside : d.get? loc = some .directory) :
    d.walkWithin (fuel + 1) ancestors p = match d.closed? loc with
      | some reason => [.fault (d.unlisted p reason)]
      | none => .directory p :: (d.namesIn loc).flatMap
          (d.visitsAt loc p (d.walkWithin fuel ((loc, p) :: ancestors))) := by
  have fresh := way.fresh formed free located inside
  have onward : (if d.endsInLink p then ancestors.find? (·.1 = loc) else none) = none := by
    split
    · refine List.find?_eq_none.mpr fun a member => ?_
      simpa using fun same : a.1 = loc => fresh (same ▸ List.mem_map_of_mem member)
    · rfl
  cases shut : d.closed? loc with
  | none => simp only [walkWithin, located, inside, onward, shut]
  | some reason => simp only [walkWithin, located, inside, onward, shut]

theorem distinct (formed : d.WellFormed) (free : d.LoopFree root) :
    (ancestors.map (·.1)).Nodup := by
  induction way with
  | top => exact List.nodup_nil
  | next way opens there _ ih =>
    rw [List.map_cons, List.nodup_cons]
    exact ⟨way.fresh formed free opens.1 (formed.parent there), ih⟩

/-- The way is no longer than there are directories. -/
theorem length_le (formed : d.WellFormed) (free : d.LoopFree root) :
    ancestors.length ≤ d.items.length + 1 := by
  have listed : ancestors.map (·.1) ⊆ [] :: d.items.map (·.1) := by
    intro _ listed
    obtain ⟨⟨loc, a⟩, member, rfl⟩ := List.mem_map.mp listed
    obtain ⟨_, inside, _⟩ := way.above formed member
    by_cases top : loc = []
    · exact List.mem_cons.mpr (.inl top)
    · exact List.mem_cons_of_mem _ (List.mem_map_of_mem (mem_items_of_get? inside top))
  simpa using ((way.distinct formed free).subperm listed).length_le

end Way

/-! ## What is met -/

theorem mem_visitsAt_iff {further : FilePath → List Visit}
    (there : d.get? (loc ++ [name]) = some item) :
    visit ∈ d.visitsAt loc p further name ↔
      item.isFile = true ∧ visit = .file (p.join name) ∨
        item.isFile = false ∧ visit ∈ further (p.join name) := by
  unfold visitsAt
  rw [there, Option.any_some]
  cases item.isFile <;> simp

/-- What is met is met here, or at a name in the directory that the path leads to. -/
theorem meets_iff : d.Meets p visit ↔ d.Shows p visit ∨
    ∃ loc name item, d.Opens p loc ∧ d.get? (loc ++ [name]) = some item ∧
      (item.isFile = true ∧ visit = .file (p.join name) ∨
        item.isFile = false ∧ d.Meets (p.join name) visit) := by
  constructor
  · intro met
    cases met with
    | here shows => exact .inl shows
    | listed opens there => exact .inr ⟨_, _, _, opens, there, .inl ⟨rfl, rfl⟩⟩
    | further opens there other met => exact .inr ⟨_, _, _, opens, there, .inr ⟨other, met⟩⟩
  · rintro (shows | ⟨loc, name, item, opens, there, ⟨file, rfl⟩ | ⟨other, met⟩⟩)
    · exact .here shows
    · cases item with
      | file bytes => exact .listed opens there
      | link target => cases file
      | directory => cases file
    · exact .further opens there other met

/-- **One step of a walk**: what is met at a path and, if a directory stands there,
what is met at its names. -/
theorem Way.mem_walkWithin_iff (formed : d.WellFormed) (free : d.LoopFree root)
    (way : d.Way root ancestors p) : visit ∈ d.walkWithin (fuel + 1) ancestors p ↔
      d.Shows p visit ∨
        ∃ loc name item, d.Opens p loc ∧ d.get? (loc ++ [name]) = some item ∧
          visit ∈ d.visitsAt loc p (d.walkWithin fuel ((loc, p) :: ancestors)) name := by
  have alone : (∀ loc, d.Opens p loc → d.get? loc ≠ some .directory) →
      (d.Shows p visit ↔ d.Shows p visit ∨
        ∃ loc name item, d.Opens p loc ∧ d.get? (loc ++ [name]) = some item ∧
          visit ∈ d.visitsAt loc p (d.walkWithin fuel ((loc, p) :: ancestors)) name) := by
    intro outside
    refine (or_iff_left ?_).symm
    rintro ⟨loc, name, item, opens, there, _⟩
    exact outside loc opens (formed.parent there)
  cases located : d.locate true p with
  | error fault =>
    rw [← alone (by simp [Opens, located]), shows_of_error (lookup_of_locate_error located)]
    simp [walkWithin, located]
  | ok loc =>
    have found := lookup_of_locate located
    cases there : d.get? loc with
    | none =>
      rw [there] at found
      rw [← alone (by simp [Opens, located, there]), shows_of_error found]
      simp [walkWithin, located, there]
    | some item =>
      rw [there] at found
      cases item with
      | link target => exact absurd there (formed.solid_of_locate located target)
      | file bytes =>
        rw [← alone (by simp [Opens, located, there]), shows_of_file found,
          walkWithin_file located there, List.mem_singleton]
      | directory =>
        rw [way.walkWithin_directory formed free located there]
        cases shut : d.closed? loc with
        | some reason =>
          rw [← alone (by simp [Opens, located, shut]), shows_of_directory located there, shut,
            List.mem_singleton]
        | none =>
          rw [shows_of_directory located there, shut]
          simp only [List.mem_cons, List.mem_flatMap, formed.mem_namesIn]
          refine or_congr_right ?_
          constructor
          · rintro ⟨name, ⟨item, stands⟩, met⟩
            exact ⟨loc, name, item, ⟨located, shut⟩, stands, met⟩
          · rintro ⟨loc', name, item, ⟨located', _⟩, stands, met⟩
            obtain rfl := Except.ok.inj (located.symm.trans located')
            exact ⟨name, ⟨item, stands⟩, met⟩

theorem Way.mem_walkWithin (formed : d.WellFormed) (free : d.LoopFree root)
    (way : d.Way root ancestors p) (enough : d.items.length + 2 ≤ fuel + ancestors.length) :
    visit ∈ d.walkWithin fuel ancestors p ↔ d.Meets p visit := by
  induction fuel generalizing p ancestors with
  | zero =>
    have := way.length_le formed free
    omega
  | succ fuel ih =>
    rw [way.mem_walkWithin_iff formed free, meets_iff]
    refine or_congr_right (exists_congr fun loc => exists_congr fun name => exists_congr fun item =>
      and_congr_right fun opens => and_congr_right fun there => ?_)
    rw [mem_visitsAt_iff there]
    refine or_congr_right (and_congr_right fun other => ih (way.next opens there other) ?_)
    rw [List.length_cons]
    omega

/-- **A walk meets what there is**, and nothing else. -/
theorem WellFormed.mem_walk_iff (formed : d.WellFormed) (free : d.LoopFree root) :
    visit ∈ d.walk root ↔ d.Meets root visit := by
  refine Way.mem_walkWithin formed free .top ?_
  simp only [List.length_nil, Nat.add_zero]
  exact Nat.le_mul_of_pos_left _ (by omega)

/-- Where a directory is met, the path leads to one. -/
theorem Meets.lookup_directory (met : d.Meets root (.directory p)) :
    d.lookup p = .ok .directory := by
  generalize directory : Visit.directory p = visit at met
  induction met with
  | here shows =>
    cases shows with
    | directory opens inside =>
      cases directory
      exact lookup_eq_ok_iff.mpr ⟨_, opens.1, inside⟩
    | file | closed | fault => cases directory
  | listed _ _ => cases directory
  | further _ _ _ _ ih => exact ih directory

/-- A directory is met only from a directory. -/
theorem WellFormed.lookup_of_meets (formed : d.WellFormed) (met : d.Meets p (.directory q)) :
    d.lookup p = .ok .directory := by
  cases met with
  | here shows =>
    cases shows with
    | directory opens inside => exact lookup_eq_ok_iff.mpr ⟨_, opens.1, inside⟩
  | further opens there _ _ => exact lookup_eq_ok_iff.mpr ⟨_, opens.1, formed.parent there⟩

/-- **What cannot be opened** at or below something that can be looked up is a link that
cannot be followed, or its path has become too long, or it is a directory that the system
does not let be listed. -/
theorem WellFormed.bars_of_meets (formed : d.WellFormed) {cause : WalkFault}
    (there : d.pathExists root = true) (met : d.Meets root (.fault cause)) :
    d.Bars cause.path cause := by
  have above : ∀ {top visit}, d.Meets top visit → visit = .fault cause →
      (∃ item, d.lookup top = .ok item) ∨ d.endsInLink top = true ∨
        pathLimit < top.text.utf8ByteSize → d.Bars cause.path cause := by
    intro top visit met
    induction met with
    | here shows =>
      rintro rfl known
      cases shows with
      | closed located inside shut =>
        rw [unlisted_path]
        exact .closed located inside shut
      | fault failed =>
        rcases known with ⟨item, found⟩ | link | long
        · exact nomatch failed.symm.trans found
        · exact .dangling link failed
        · exact .long long failed
    | listed _ _ => rintro ⟨⟩
    | @further top loc name item _ opens there other _ ih =>
      intro closed _
      refine ih closed ?_
      by_cases short : (top.join name).text.utf8ByteSize ≤ pathLimit
      · cases item with
        | file bytes => cases other
        | link target => exact .inr (.inl (formed.endsInLink_join there opens.1 short))
        | directory =>
          have found := formed.locate_join there (by simp) opens.1 short
          exact .inl ⟨_, lookup_eq_ok_iff.mpr ⟨_, found, there⟩⟩
      · exact .inr (.inr (Nat.lt_of_not_le short))
  exact above met rfl (.inl (pathExists_iff.mp there))

/-! ## Disks without loops -/

/-- **A link leads where its target leads.** -/
theorem WellFormed.get?_of_link (formed : d.WellFormed) {target : String}
    (link : d.get? (loc ++ [name]) = some (.link target)) (located : d.locate true p = .ok loc)
    (way : Follows d true 0 (if (FilePath.mk target).isAbsolute then [] else loc)
      (FilePath.mk target).segments place)
    (found : d.lookup (p.join name) = .ok item) : d.get? place = some item := by
  have proper := formed.proper link
  obtain ⟨end', located', there⟩ := lookup_eq_ok_iff.mp found
  obtain ⟨_, whole⟩ := locate_eq_ok_iff.mp located'
  have start : d.start (p.join name) = d.start p := by
    simp [start, FilePath.isAbsolute_join p proper.noSlash]
  rw [FilePath.segments_join p proper.noSlash, start] at whole
  obtain ⟨m, mid, leads, last⟩ := whole.split ⟨_, List.mem_cons_self, proper.isName.1⟩
  obtain rfl := leads.unique (leads_of_locate located)
  rw [← mid.under_toList] at link
  have isName := proper.isName
  generalize name.toList = segment at last link isName
  cases last with
  | idle _ passed _ => exact absurd passed (by simp [isName.1, isName.2.1])
  | up _ _ => exact absurd rfl isName.2.2
  | into _ _ _ stands solid _ => exact absurd (Option.some.inj (stands.symm.trans link)) (solid _)
  | missing _ _ _ absent _ =>
    rw [link] at absent
    cases absent
  | halt _ _ _ _ stop => cases stop
  | jump _ _ _ link' _ next =>
    obtain rfl := Item.link.inj (Option.some.inj (link'.symm.trans link))
    rw [List.append_nil] at next
    rwa [(way.more (Nat.zero_le _)).unique next]

/-- Without links to directories, what is met below a directory stands below it. -/
private theorem exists_below (formed : d.WellFormed)
    (straight : ∀ p loc name target, d.get? (loc ++ [name]) = some (.link target) →
      d.locate true p = .ok loc → d.lookup (p.join name) ≠ .ok .directory)
    (met : d.Meets p (.directory q)) (located : d.locate true p = .ok loc) :
    ∃ rest, d.locate true q = .ok (loc ++ rest) ∧ (rest = [] → q = p) := by
  generalize directory : Visit.directory q = visit at met
  induction met generalizing loc with
  | here shows =>
    cases shows with
    | directory _ _ =>
      cases directory
      exact ⟨[], by simpa using located, fun _ => rfl⟩
    | file | closed | fault => cases directory
  | listed _ _ => cases directory
  | @further top loc' name item visit opens there other met ih =>
    subst directory
    obtain ⟨located', _⟩ := opens
    obtain rfl := Except.ok.inj (located.symm.trans located')
    have found := formed.lookup_of_meets met
    cases item with
    | file bytes => cases other
    | link target => exact absurd found (straight _ _ _ _ there located')
    | directory =>
      obtain ⟨place, onward, _⟩ := lookup_eq_ok_iff.mp found
      have next := formed.locate_join there (by simp) located' (locate_eq_ok_iff.mp onward).1.short
      obtain ⟨rest, deeper, _⟩ := ih next rfl
      exact ⟨name :: rest, by simpa using deeper, by simp⟩

/-- Where no link leads to a directory there are no loops. -/
theorem WellFormed.loopFree_of_straight (formed : d.WellFormed)
    (straight : ∀ p loc name target, d.get? (loc ++ [name]) = some (.link target) →
      d.locate true p = .ok loc → d.lookup (p.join name) ≠ .ok .directory)
    (root : FilePath) : d.LoopFree root := by
  intro p q loc _ met located located'
  obtain ⟨rest, below, same⟩ := exists_below formed straight met located
  have whole := Except.ok.inj (located'.symm.trans below)
  exact same (List.append_right_eq_self.mp whole.symm)

/-- There are no loops on a tree. -/
theorem Tree.loopFree (tree : d.Tree) (root : FilePath) : d.LoopFree root :=
  tree.wellFormed.loopFree_of_straight
    (fun _ _ _ target link => absurd link (tree.linkFree _ target)) root

/-! ## The order -/

/-- A walk ends where it begins, or goes through the names in a directory. -/
theorem walkWithin_cases (d : Disk) (fuel : Nat) (ancestors : Ancestors) (p : FilePath) :
    (∃ visit, visit.path = p ∧ d.walkWithin (fuel + 1) ancestors p = [visit]) ∨
      ∃ loc, d.walkWithin (fuel + 1) ancestors p = .directory p ::
        (d.namesIn loc).flatMap (d.visitsAt loc p (d.walkWithin fuel ((loc, p) :: ancestors))) := by
  rw [walkWithin]
  split
  · exact .inl ⟨_, rfl, rfl⟩
  · split
    · exact .inl ⟨_, rfl, rfl⟩
    · exact .inl ⟨_, rfl, rfl⟩
    · exact .inl ⟨_, rfl, rfl⟩
    · split
      · exact .inl ⟨_, rfl, rfl⟩
      · split
        · exact .inl ⟨.fault _, unlisted_path _, rfl⟩
        · exact .inr ⟨_, rfl⟩

/-- What is met at a name is at or below the path that goes on by it, if this holds
of what is met further on. -/
theorem below_of_mem_visitsAt {further : FilePath → List Visit}
    (below : ∀ q, ∀ visit ∈ further q, q.components <+: visit.path.components)
    (met : visit ∈ d.visitsAt loc p further name) :
    (p.join name).components <+: visit.path.components := by
  unfold visitsAt at met
  split at met
  · rw [List.mem_singleton.mp met]
    exact List.prefix_rfl
  · exact below _ _ met

/-- What is met is at or below the path where the walk began. -/
theorem WellFormed.below_of_mem (formed : d.WellFormed)
    (met : visit ∈ d.walkWithin fuel ancestors p) :
    p.components <+: visit.path.components := by
  induction fuel generalizing p ancestors visit with
  | zero => cases met
  | succ fuel ih =>
    rcases d.walkWithin_cases fuel ancestors p with ⟨only, rfl, alone⟩ | ⟨loc, through⟩
    · rw [alone, List.mem_singleton] at met
      exact met ▸ List.prefix_rfl
    · rw [through] at met
      rcases List.mem_cons.mp met with rfl | met
      · exact List.prefix_rfl
      · obtain ⟨name, member, met⟩ := List.mem_flatMap.mp met
        obtain ⟨item, there⟩ := formed.mem_namesIn.mp member
        have below := below_of_mem_visitsAt (fun _ _ => ih) met
        rw [FilePath.components_join p (formed.proper there)] at below
        exact (List.prefix_append _ _).trans below

/-- **Walks are in order.** -/
theorem WellFormed.ordered_walkWithin (formed : d.WellFormed) (fuel : Nat) (ancestors : Ancestors)
    (p : FilePath) : (d.walkWithin fuel ancestors p).Pairwise (·.path.Before ·.path) := by
  induction fuel generalizing p ancestors with
  | zero => exact .nil
  | succ fuel ih =>
    rcases d.walkWithin_cases fuel ancestors p with ⟨only, _, alone⟩ | ⟨loc, through⟩
    · rw [alone]
      exact List.pairwise_singleton _ _
    · have proper : ∀ name ∈ d.namesIn loc, ProperName name := by
        intro name member
        obtain ⟨item, there⟩ := formed.mem_namesIn.mp member
        exact formed.proper there
      have below : ∀ {name visit},
          visit ∈ d.visitsAt loc p (d.walkWithin fuel ((loc, p) :: ancestors)) name →
            (p.join name).components <+: visit.path.components :=
        below_of_mem_visitsAt fun _ _ => formed.below_of_mem
      rw [through, List.pairwise_cons, List.pairwise_flatMap]
      refine ⟨fun visit met => ?_, fun name member => ?_, ?_⟩
      · obtain ⟨name, member, met⟩ := List.mem_flatMap.mp met
        exact FilePath.before_of_below (proper name member) (below met)
      · unfold visitsAt
        split
        · exact List.pairwise_singleton _ _
        · exact ih _ _
      · refine (formed.sorted_namesIn loc).imp_of_mem fun member member' less => ?_
        exact fun visit met visit' met' => FilePath.before_of_names (proper _ member)
          (proper _ member') less (below met) (below met')

theorem WellFormed.ordered_walk (formed : d.WellFormed) (root : FilePath) :
    (d.walk root).Pairwise (·.path.Before ·.path) :=
  formed.ordered_walkWithin _ _ _

end Disk

end SchemaGen.File
