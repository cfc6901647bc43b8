import SchemaGen.Proofs.File.Trees

/-!
# Making directories on trees

On a tree a path leads where its steps lead one by one (`Disk.goal`), as far as
directories stand where the steps begin (`Reaches`). Directories can be made up to a
path if each place that it and the paths above it lead to is a directory or open for
one (`Makeable`). That is exactly when making them succeeds
(`Tree.makeDirectories_eq_ok_iff`), and they are made at these places only
(`Tree.after_makeDirectoriesWithin`).
-/

namespace SchemaGen.File

open FilePath

/-! ## Steps from a location -/

/-- Where one step leads. -/
def Location.step (loc : Location) (segment : List Char) : Location :=
  if segment = ['.', '.'] then loc.dropLast else loc.under segment

/-- Where steps lead. -/
def Location.along (loc : Location) (steps : List (List Char)) : Location :=
  steps.foldl Location.step loc

theorem Location.step_name (loc : Location) {segment : List Char} (name : IsName segment) :
    loc.step segment = loc.under segment :=
  if_neg name.2.2

/-- Every location from which one of the steps is taken is like this. -/
def AtEach (P : Location → Prop) : Location → List (List Char) → Prop
  | _, [] => True
  | loc, s :: rest => P loc ∧ AtEach P (loc.step s) rest

theorem atEach_iff {P : Location → Prop} {loc : Location} {steps : List (List Char)} :
    AtEach P loc steps ↔ ∀ front s back, steps = front ++ s :: back → P (loc.along front) := by
  induction steps generalizing loc with
  | nil => exact ⟨fun _ front s back whole => by simp at whole, fun _ => trivial⟩
  | cons first rest ih =>
    constructor
    · rintro ⟨here, later⟩ (_ | ⟨s, front⟩) s' back whole
      · exact here
      · obtain ⟨rfl, rfl⟩ := List.cons.inj whole
        exact ih.mp later front s' back rfl
    · intro each
      exact ⟨each [] first rest rfl, ih.mpr fun front s back whole =>
        each (first :: front) s back (whole ▸ rfl)⟩

theorem AtEach.imp {P Q : Location → Prop} (imp : ∀ l, P l → Q l) {loc : Location}
    {steps : List (List Char)} (each : AtEach P loc steps) : AtEach Q loc steps :=
  atEach_iff.mpr fun front s back whole => imp _ (atEach_iff.mp each front s back whole)

theorem atEach_concat {P : Location → Prop} {loc : Location} {steps : List (List Char)}
    {s : List Char} :
    AtEach P loc (steps ++ [s]) ↔ AtEach P loc steps ∧ P (loc.along steps) := by
  induction steps generalizing loc with
  | nil => exact and_comm
  | cons first rest ih => exact (and_congr_right fun _ => ih).trans and_assoc.symm

/-! ## Ways on trees -/

namespace Disk

variable {d d' : Disk} {p a : FilePath} {loc place : Location} {followLast : Bool}
  {segments : List (List Char)}

/-- A directory stands there. -/
abbrev IsDirectory (d : Disk) (loc : Location) : Prop :=
  d.get? loc = some .directory

/-- Where the steps of a path lead. -/
def goal (d : Disk) (p : FilePath) : Location :=
  (d.start p).along p.steps

/-- The steps can be stored as names. -/
def Storable (steps : List (List Char)) : Prop :=
  ∀ s ∈ steps, (String.ofList s).utf8ByteSize ≤ nameLimit

instance (steps : List (List Char)) : Decidable (Storable steps) :=
  inferInstanceAs (Decidable (∀ s ∈ steps, _))

theorem storable_cons {s : List Char} {rest : List (List Char)} : Storable (s :: rest) ↔
    (String.ofList s).utf8ByteSize ≤ nameLimit ∧ Storable rest :=
  List.forall_mem_cons

/-- On a tree a way leads along its steps, and each of them begins in a directory. -/
theorem Tree.along_of_follows (tree : d.Tree) {n : Nat}
    (way : Follows d followLast n loc segments place) :
    place = loc.along (stepsOf segments) ∧ AtEach d.IsDirectory loc (stepsOf segments) ∧
      Storable (stepsOf segments) := by
  induction way with
  | here => exact ⟨rfl, trivial, fun _ member => nomatch member⟩
  | idle _ passed _ ih =>
    rw [stepsOf_cons_idle (idle_iff.mpr passed)]
    exact ih
  | up inside _ ih =>
    rw [stepsOf_cons (not_idle_iff.mpr (.inl rfl))]
    exact ⟨ih.1, ⟨inside, ih.2.1⟩, storable_cons.mpr ⟨by decide, ih.2.2⟩⟩
  | @into n loc segment rest place item inside name fits there solid next ih =>
    rw [stepsOf_cons (not_idle_iff.mpr (.inr name))]
    have step := loc.step_name name
    rw [← step] at ih
    exact ⟨ih.1, ⟨inside, ih.2.1⟩, storable_cons.mpr ⟨fits, ih.2.2⟩⟩
  | @missing n loc segment rest inside name fits absent last =>
    have none : stepsOf rest = [] :=
      stepsOf_eq_nil_iff.mpr fun s member => idle_iff.mpr (.inl (last s member))
    rw [stepsOf_cons (not_idle_iff.mpr (.inr name)), none]
    exact ⟨(loc.step_name name).symm, ⟨inside, trivial⟩,
      storable_cons.mpr ⟨fits, fun _ member => nomatch member⟩⟩
  | halt _ _ _ link _ => exact absurd link (tree.linkFree _ _)
  | jump _ _ _ link _ _ => exact absurd link (tree.linkFree _ _)

/-- Steps that begin in directories are a way, if nothing idle comes after them. -/
theorem Tree.follows_along (tree : d.Tree) {n : Nat} (begins : d.IsDirectory loc)
    (through : AtEach d.IsDirectory loc (stepsOf segments))
    (storable : Storable (stepsOf segments)) (ends : EndsInStep segments) :
    Follows d followLast n loc segments (loc.along (stepsOf segments)) := by
  induction segments generalizing loc with
  | nil => exact .here
  | cons segment rest ih =>
    by_cases idle : Idle segment
    · rw [stepsOf_cons_idle idle] at through storable ⊢
      exact .idle begins (idle_iff.mp idle) (ih begins through storable ends.tail)
    · have more := ends.goesOn idle
      rw [stepsOf_cons idle] at through storable ⊢
      obtain ⟨fits, later⟩ := storable_cons.mp storable
      rcases not_idle_iff.mp idle with rfl | name
      · exact .up begins (ih (tree.wellFormed.get?_dropLast begins) through.2 later ends.tail)
      · have step := loc.step_name name
        have onward : AtEach d.IsDirectory (loc.under segment) (stepsOf rest) :=
          step ▸ through.2
        have whole : loc.along (segment :: stepsOf rest) =
            (loc.under segment).along (stepsOf rest) := by
          rw [← step]
          rfl
        rw [whole]
        rcases Decidable.em (rest = []) with rfl | goesOn
        · cases there : d.get? (loc.under segment) with
          | none => exact .missing begins name fits there (by simp)
          | some item =>
            exact .into begins name fits there
              (fun target link => tree.linkFree _ target (link ▸ there)) .here
        · -- More steps come, so a directory has the name.
          have inside : d.IsDirectory (loc.under segment) := by
            obtain ⟨next, steps, split⟩ := List.exists_cons_of_ne_nil (more goesOn)
            rw [split] at onward
            exact onward.1
          exact .into begins name fits inside (by simp) (ih inside onward later ends.tail)

/-- **A gap on the way**: if a step begins where nothing stands, nothing is found. -/
theorem Tree.followSegments_of_gap (tree : d.Tree)
    {jump : Location → List (List Char) → Except Fault Location} (begins : d.IsDirectory loc)
    (free : AtEach (fun l => d.IsDirectory l ∨ d.get? l = none) loc (stepsOf segments))
    (storable : Storable (stepsOf segments))
    (gap : ¬ AtEach d.IsDirectory loc (stepsOf segments)) :
    d.followSegments jump followLast loc segments = .error .notFound := by
  induction segments generalizing loc with
  | nil => exact absurd trivial gap
  | cons segment rest ih =>
    rw [followSegments, begins]
    by_cases idle : Idle segment
    · rw [stepsOf_cons_idle idle] at free storable gap
      have passed : (segment = [] || segment = ['.']) = true := by simpa using idle_iff.mp idle
      simp only [passed, if_true]
      exact ih begins free storable gap
    · rw [stepsOf_cons idle] at free storable gap
      obtain ⟨fits, later⟩ := storable_cons.mp storable
      have gap' : ¬ AtEach d.IsDirectory (loc.step segment) (stepsOf rest) :=
        fun through => gap ⟨begins, through⟩
      have kept : (segment = [] || segment = ['.']) = false := by
        simpa [not_or] using mt idle_iff.mpr idle
      simp only [kept, Bool.false_eq_true, if_false]
      rcases not_idle_iff.mp idle with rfl | name
      · exact ih (tree.wellFormed.get?_dropLast begins) free.2 later gap'
      · obtain ⟨next, steps, more⟩ : ∃ next steps, stepsOf rest = next :: steps :=
          List.exists_cons_of_ne_nil fun none => gap' (none ▸ trivial)
        rw [if_neg name.2.2, if_neg (Nat.not_lt.mpr fits)]
        have free' := free.2
        rw [loc.step_name name] at free' gap'
        have here := free'
        rw [more] at here
        rcases here.1 with inside | absent
        · simp only [inside]
          exact ih inside free' later gap'
        · have goesOn : ¬ (rest.all (· = [])) = true := by
            intro slashes
            have none : stepsOf rest = [] := stepsOf_eq_nil_iff.mpr fun s member =>
              idle_iff.mpr (.inl (by simpa using List.all_eq_true.mp slashes s member))
            rw [none] at more
            cases more
          simp only [absent, if_neg goesOn]

/-! ## Paths on trees -/

/-- The path can be followed up to its last step. -/
structure Reaches (d : Disk) (p : FilePath) : Prop where
  fits : p.Fits
  begins : d.IsDirectory (d.start p)
  storable : Storable p.steps
  through : AtEach d.IsDirectory (d.start p) p.steps

/-- Where a path is located, it leads step by step. -/
theorem Tree.reaches_of_locate (tree : d.Tree) (located : d.locate followLast p = .ok place) :
    d.Reaches p ∧ place = d.goal p := by
  obtain ⟨fits, way⟩ := locate_eq_ok_iff.mp located
  obtain ⟨same, through, storable⟩ := tree.along_of_follows way
  obtain ⟨first, rest, segments⟩ := List.exists_cons_of_ne_nil (splitSlashes_ne_nil p.text.toList)
  have begins : d.IsDirectory (d.start p) := by
    rw [FilePath.segments, segments] at way
    exact way.inside
  exact ⟨⟨fits, begins, storable, through⟩, same⟩

theorem Tree.locate_of_reaches (tree : d.Tree) (reaches : d.Reaches p)
    (ends : EndsInStep p.segments) : d.locate followLast p = .ok (d.goal p) :=
  locate_eq_ok_iff.mpr ⟨reaches.fits,
    tree.follows_along reaches.begins reaches.through reaches.storable ends⟩

theorem Tree.isDirectory_iff_reaches (tree : d.Tree) (ends : EndsInStep p.segments) :
    d.isDirectory p = true ↔ d.Reaches p ∧ d.IsDirectory (d.goal p) := by
  rw [isDirectory_iff]
  constructor
  · rintro ⟨place, located, inside⟩
    obtain ⟨reaches, rfl⟩ := tree.reaches_of_locate located
    exact ⟨reaches, inside⟩
  · rintro ⟨reaches, inside⟩
    exact ⟨_, tree.locate_of_reaches reaches ends, inside⟩

/-- What does not end in a name leads to a directory, or to nothing with a slash after it. -/
theorem Tree.idle_of_follows (tree : d.Tree) {n : Nat} {front : List (List Char)}
    {last : List Char} (nameless : ¬ IsName last)
    (way : Follows d followLast n loc (front ++ [last]) place) :
    d.IsDirectory place ∨ last = [] ∧ d.get? place = none := by
  generalize whole : front ++ [last] = segments at way
  induction way generalizing front with
  | here => simp at whole
  | @idle n loc segment rest place inside passed next ih =>
    rcases front with _ | ⟨s, front⟩
    · obtain ⟨rfl, rfl⟩ := List.cons.inj whole
      cases next
      exact .inl inside
    · exact ih (List.cons.inj whole).2
  | @up n loc rest place inside next ih =>
    rcases front with _ | ⟨s, front⟩
    · obtain ⟨_, rfl⟩ := List.cons.inj whole
      cases next
      exact .inl (tree.wellFormed.get?_dropLast inside)
    · exact ih (List.cons.inj whole).2
  | @into n loc segment rest place item inside name fits there solid next ih =>
    rcases front with _ | ⟨s, front⟩
    · exact absurd name ((List.cons.inj whole).1 ▸ nameless)
    · exact ih (List.cons.inj whole).2
  | @missing n loc segment rest inside name fits absent slashes =>
    rcases front with _ | ⟨s, front⟩
    · exact absurd name ((List.cons.inj whole).1 ▸ nameless)
    · exact .inr ⟨slashes last ((List.cons.inj whole).2 ▸ by simp), absent⟩
  | halt _ _ _ link _ => exact absurd link (tree.linkFree _ _)
  | jump _ _ _ link _ _ => exact absurd link (tree.linkFree _ _)

theorem start_of_above (d : Disk) (above : a.Above p) : d.start a = d.start p := by
  rw [start, start, above.isAbsolute]

/-- Something holds of all places to which the paths above lead if it holds of those
where steps begin. -/
theorem forall_above_iff {P : Location → Prop} (begins : P (d.start p)) :
    (∀ a : FilePath, a.Above p → P (d.goal a)) ↔ AtEach P (d.start p) p.steps := by
  have goal : ∀ a : FilePath, a.Above p → d.goal a = (d.start p).along a.steps := fun a above => by
    rw [Disk.goal, d.start_of_above above]
  rw [atEach_iff]
  constructor
  · intro each front s back split
    obtain ⟨a, above, rfl⟩ := exists_above split
    exact goal a above ▸ each a above
  · intro each a above
    rw [goal a above]
    rcases List.eq_nil_or_concat p.steps with none | ⟨init, last, whole⟩
    · have steps := above.steps
      rw [none, List.dropLast_nil, List.prefix_nil] at steps
      rw [steps]
      exact begins
    · rw [List.concat_eq_append] at whole
      obtain ⟨more, steps⟩ := above.steps
      rw [whole, List.dropLast_concat] at steps
      -- A step comes after those of the path above.
      obtain ⟨s, back, after⟩ := List.exists_cons_of_ne_nil (l := more ++ [last]) (by simp)
      refine each a.steps s back ?_
      rw [whole, ← steps, List.append_assoc, after]

theorem AddsDirectories.goal (adds : d.AddsDirectories d') (p : FilePath) :
    d'.goal p = d.goal p := by
  rw [Disk.goal, Disk.goal, adds.grows.start]

/-! ## When directories can be made -/

/-- A directory stands there, or one can be made there. -/
def Open (d : Disk) (loc : Location) : Prop :=
  d.IsDirectory loc ∨ d.get? loc = none ∧ d.refusal? loc = none

/-- A directory can be made at the path, with those above it that are missing. -/
structure Makeable (d : Disk) (a : FilePath) : Prop where
  fits : a.Fits
  begins : d.IsDirectory (d.start a)
  storable : Storable a.steps
  isOpen : ∀ b : FilePath, b = a ∨ b.Above a → d.Open (d.goal b)

theorem Open.mono (adds : d.AddsDirectories d') (isOpen : d.Open loc) : d'.Open loc := by
  rcases isOpen with inside | ⟨absent, allowed⟩
  · exact .inl (adds.keeps inside)
  · rcases adds.get? loc with same | ⟨_, made⟩
    · exact .inr ⟨same.trans absent, adds.refusal? ▸ allowed⟩
    · exact .inl made

theorem Makeable.mono (adds : d.AddsDirectories d') (makeable : d.Makeable a) :
    d'.Makeable a := by
  refine ⟨makeable.fits, ?_, makeable.storable, fun b onWay => ?_⟩
  · rw [adds.grows.start]
    exact adds.keeps makeable.begins
  · rw [adds.goal]
    exact .mono adds (makeable.isOpen b onWay)

/-- **One directory** is made, or there, if the way to it is there and its place open. -/
theorem Tree.ensureDirectory_eq_ok_iff (tree : d.Tree) (ends : EndsInStep a.segments) :
    (d.ensureDirectory a).1 = .ok () ↔ d.Reaches a ∧ d.Open (d.goal a) := by
  constructor
  · intro ensured
    unfold ensureDirectory at ensured
    split at ensured
    · rename_i d' made
      obtain ⟨loc, located, absent, allowed, _⟩ := makeDirectory_eq_ok_iff.mp made
      obtain ⟨reaches, rfl⟩ := tree.reaches_of_locate located
      exact ⟨reaches, .inr ⟨absent, allowed⟩⟩
    · split at ensured
      · rename_i there
        obtain ⟨reaches, inside⟩ := (tree.isDirectory_iff_reaches ends).mp there
        exact ⟨reaches, .inl inside⟩
      · cases ensured
  · rintro ⟨reaches, inside | ⟨absent, allowed⟩⟩
    · have there := (tree.isDirectory_iff_reaches ends).mpr ⟨reaches, inside⟩
      rw [tree.ensureDirectory_eq_self there]
    · have located : d.locate false a = .ok (d.goal a) := tree.locate_of_reaches reaches ends
      have made := makeDirectory_eq_ok_iff.mpr ⟨_, located, absent, allowed, rfl⟩
      rw [ensureDirectory, made]

theorem eq_of_ensureDirectory_error {fault : Fault}
    (failed : d.ensureDirectory a = (.error fault, d')) : d' = d := by
  unfold ensureDirectory at failed
  split at failed
  · cases failed
  · exact (Prod.mk.inj failed).2.symm

theorem Makeable.parent {above : FilePath} (makeable : d.Makeable a)
    (found : a.parent? = some above) (filled : above.text.isEmpty = false) :
    d.Makeable above := by
  have onWay := Above.parent found
  refine ⟨onWay.fits filled makeable.fits, ?_, ?_, ?_⟩
  · rw [d.start_of_above onWay]
    exact makeable.begins
  · exact fun s member => makeable.storable s (onWay.mem_steps member)
  · exact fun b onWay => makeable.isOpen b (.inr ((above_iff found).mpr onWay))

/-- Where a directory above is missing, nothing is found. -/
theorem Tree.ensureDirectory_of_gap (tree : d.Tree) (makeable : d.Makeable a)
    (ends : EndsInStep a.segments) (gap : ¬ AtEach d.IsDirectory (d.start a) a.steps) :
    d.ensureDirectory a = (.error .notFound, d) := by
  have free : AtEach (fun l => d.IsDirectory l ∨ d.get? l = none) (d.start a) a.steps :=
    (forall_above_iff (.inl makeable.begins)).mp fun b above =>
      (makeable.isOpen b (.inr above)).imp_right And.left
  have missing : d.locate false a = .error .notFound := by
    have noNul : ¬ a.text.toList.contains '\x00' = true := by simpa using makeable.fits.noNul
    rw [locate, if_neg (by simp [makeable.fits.filled]), if_neg noNul,
      if_neg (Nat.not_lt.mpr makeable.fits.short), follow_eq]
    exact tree.followSegments_of_gap makeable.begins free makeable.storable gap
  have absent : ¬ d.isDirectory a = true := fun there =>
    gap ((tree.isDirectory_iff_reaches ends).mp there).1.through
  have made : d.makeDirectory a = .error .notFound := by
    rw [Disk.makeDirectory, missing]
    rfl
  rw [ensureDirectory, made]
  simp only [if_neg absent]

/-- The second disk has more directories, where nothing stood and the system lets them be
made, at places to which such paths lead. -/
def MakesAt (d : Disk) (paths : FilePath → Prop) (d' : Disk) : Prop :=
  ∀ l, d'.get? l = d.get? l ∨
    d.get? l = none ∧ d.refusal? l = none ∧ d'.get? l = some .directory ∧
      ∃ b, paths b ∧ l = d.goal b

/-- **Where directories are made.** -/
theorem Tree.after_makeDirectoriesWithin (tree : d.Tree) {fuel : Nat}
    {result : Except Fault Unit} (made : Disk.makeDirectoriesWithin fuel d a = (result, d')) :
    d'.Tree ∧ d.AddsDirectories d' ∧ d.MakesAt (fun b => b = a ∨ b.Above a) d' := by
  let Reached (d' : Disk) : Prop :=
    d'.Tree ∧ d.AddsDirectories d' ∧ d.MakesAt (fun b => b = a ∨ b.Above a) d'
  suffices all : Reached (Disk.makeDirectoriesWithin fuel d a).2 by
    rwa [made] at all
  refine makeDirectoriesWithin_induction fuel a ?_ ⟨tree, .refl d, fun l => .inl rfl⟩
  rintro d₁ q d₂ onWay ⟨tree₁, adds, made⟩ step
  refine ⟨tree₁.makeDirectory step, adds.trans (addsDirectories_makeDirectory step), fun l => ?_⟩
  obtain ⟨loc, located, absent, allowed, rfl⟩ := makeDirectory_eq_ok_iff.mp step
  obtain ⟨_, rfl⟩ := tree₁.reaches_of_locate located
  have below : d₁.goal q ≠ [] := ne_nil_of_get? (d := d₁) (by simp [absent])
  rw [d₁.get?_put below]
  split
  · rename_i here
    have absent' : d.get? l = none := by
      rcases made l with same | ⟨absent', _⟩
      · rw [← same, here, absent]
      · exact absent'
    exact .inr ⟨absent', by rw [← adds.refusal?, here, allowed], rfl, q, onWay,
      by rw [here, adds.goal]⟩
  · exact made l

/-- A place that is open once directories are made was so before. -/
theorem MakesAt.isOpen {paths : FilePath → Prop} (made : d.MakesAt paths d')
    (adds : d.AddsDirectories d') (isOpen : d'.Open loc) : d.Open loc := by
  rcases made loc with same | ⟨absent, allowed, _⟩
  · rw [Open, IsDirectory, same, adds.refusal?] at isOpen
    exact isOpen
  · exact .inr ⟨absent, allowed⟩

theorem Tree.makeable_of_ensureDirectory (tree : d.Tree) (ends : EndsInStep a.segments)
    (ensured : (d.ensureDirectory a).1 = .ok ()) : d.Makeable a := by
  obtain ⟨reaches, isOpen⟩ := (tree.ensureDirectory_eq_ok_iff ends).mp ensured
  refine ⟨reaches.fits, reaches.begins, reaches.storable, ?_⟩
  rintro b (rfl | above)
  · exact isOpen
  · exact (forall_above_iff (.inl reaches.begins)).mpr (reaches.through.imp fun _ => .inl) b above

/-- Making directories succeeds at once, or because it does above first. -/
theorem makeDirectoriesWithin_succ_ok_iff {fuel : Nat} (filled : a.text.isEmpty = false) :
    (makeDirectoriesWithin (fuel + 1) d a).1 = .ok () ↔
      (d.ensureDirectory a).1 = .ok () ∨
        d.ensureDirectory a = (.error .notFound, d) ∧ ∃ above, a.parent? = some above ∧
          ∃ d₁, makeDirectoriesWithin fuel d above = (.ok (), d₁) ∧
            (d₁.ensureDirectory a).1 = .ok () := by
  rw [makeDirectoriesWithin, if_neg (by simp [filled])]
  split
  · rename_i d₁ missing
    obtain rfl := eq_of_ensureDirectory_error missing
    simp only [missing, reduceCtorEq, false_or, true_and]
    split
    · rename_i none
      simp [none]
    · rename_i above found
      simp only [found, Option.some.injEq, exists_eq_left']
      split
      · rename_i d₂ made
        simp [made]
      · rename_i fault d₂ failed
        simp [failed]
  · rename_i result d₁ other ensured
    rw [ensured]
    refine ⟨.inl, fun done => done.elim id ?_⟩
    rintro ⟨same, _⟩
    exact absurd (Prod.mk.inj same).1 other

/-- The empty path makes nothing. -/
private theorem eq_of_makeDirectoriesWithin {fuel : Nat} (empty : a.text.isEmpty = true)
    (made : makeDirectoriesWithin fuel d a = (.ok (), d')) : d' = d := by
  cases fuel with
  | zero =>
    rw [makeDirectoriesWithin, ensureDirectory] at made
    split at made
    · rename_i step
      obtain ⟨_, located, _⟩ := makeDirectory_eq_ok_iff.mp step
      exact absurd empty (by simp [(locate_eq_ok_iff.mp located).1.filled])
    · exact (Prod.mk.inj made).2.symm
  | succ fuel =>
    rw [makeDirectoriesWithin, if_pos empty] at made
    exact (Prod.mk.inj made).2.symm

private theorem Tree.makeable_of_makeDirectoriesWithin (tree : d.Tree) {fuel : Nat}
    (ends : EndsInStep a.segments) (filled : a.text.isEmpty = false)
    (made : (Disk.makeDirectoriesWithin fuel d a).1 = .ok ()) : d.Makeable a := by
  induction fuel generalizing a with
  | zero => exact tree.makeable_of_ensureDirectory ends made
  | succ fuel ih =>
    rcases (makeDirectoriesWithin_succ_ok_iff filled).mp made with ensured | ⟨missing, further⟩
    · exact tree.makeable_of_ensureDirectory ends ensured
    · obtain ⟨above, found, d₁, above_made, ensured⟩ := further
      have heads := heads_of_parent? found
      obtain ⟨tree₁, adds, makes⟩ := tree.after_makeDirectoriesWithin above_made
      obtain ⟨reaches, isOpen⟩ := (tree₁.ensureDirectory_eq_ok_iff ends).mp ensured
      -- The directory above was made, since the empty path would have changed nothing.
      have filled' : above.text.isEmpty = false := by
        rw [Bool.eq_false_iff]
        intro empty
        obtain rfl := eq_of_makeDirectoriesWithin empty above_made
        rw [missing] at ensured
        cases ensured
      have higher := ih heads.ends filled' (by rw [above_made])
      refine ⟨reaches.fits, ?_, reaches.storable, ?_⟩
      · rw [← d.start_of_above (.parent found)]
        exact higher.begins
      · rintro b (rfl | onWay)
        · rw [adds.goal] at isOpen
          exact makes.isOpen adds isOpen
        · exact higher.isOpen b ((above_iff found).mp onWay)

/-- If a step begins where nothing stands, there is a step before it. -/
private theorem exists_parent_of_gap (begins : d.IsDirectory (d.start a))
    (gap : ¬ AtEach d.IsDirectory (d.start a) a.steps) :
    ∃ above, a.parent? = some above ∧ above.text.isEmpty = false ∧
      above.steps.length < a.steps.length := by
  have goesOn : a.steps ≠ [] := fun none => gap (none ▸ trivial)
  obtain ⟨init, last, whole⟩ := (List.eq_nil_or_concat a.steps).resolve_left goesOn
  rw [List.concat_eq_append] at whole
  obtain ⟨above, found⟩ := exists_parent? goesOn
  have steps : above.steps = init := by
    rw [(heads_of_parent? found).steps, whole, List.dropLast_concat]
  refine ⟨above, found, ?_, by simp [steps, whole]⟩
  rw [Bool.eq_false_iff]
  intro empty
  rw [whole, ← steps, steps_of_isEmpty empty] at gap
  exact gap ⟨begins, trivial⟩

/-- If the parent is a directory, the path can be followed up to its last step. -/
theorem Tree.through_of_parent {above : FilePath} (tree : d.Tree)
    (found : a.parent? = some above) (there : d.isDirectory above = true) :
    d.IsDirectory (d.start a) ∧ AtEach d.IsDirectory (d.start a) a.steps := by
  have heads := heads_of_parent? found
  obtain ⟨reaches, inside⟩ := (tree.isDirectory_iff_reaches heads.ends).mp there
  have start := d.start_of_above (.parent found)
  refine ⟨start ▸ reaches.begins, ?_⟩
  rcases List.eq_nil_or_concat a.steps with none | ⟨init, last, whole⟩
  · rw [none]
    trivial
  · rw [List.concat_eq_append] at whole
    have steps : above.steps = init := by rw [heads.steps, whole, List.dropLast_concat]
    rw [whole, atEach_concat, ← steps, ← start]
    exact ⟨reaches.through, inside⟩

private theorem Tree.ensureDirectory_of_makeable (tree : d.Tree) (ends : EndsInStep a.segments)
    (makeable : d.Makeable a) (through : AtEach d.IsDirectory (d.start a) a.steps) :
    (d.ensureDirectory a).1 = .ok () :=
  (tree.ensureDirectory_eq_ok_iff ends).mpr
    ⟨⟨makeable.fits, makeable.begins, makeable.storable, through⟩, makeable.isOpen a (.inl rfl)⟩

private theorem Tree.makeDirectoriesWithin_of_makeable (tree : d.Tree) {fuel : Nat}
    (enough : a.steps.length ≤ fuel) (ends : EndsInStep a.segments) (makeable : d.Makeable a) :
    (Disk.makeDirectoriesWithin fuel d a).1 = .ok () := by
  induction fuel generalizing a with
  | zero =>
    have none : a.steps = [] := List.eq_nil_of_length_eq_zero (Nat.le_zero.mp enough)
    exact tree.ensureDirectory_of_makeable ends makeable (none ▸ trivial)
  | succ fuel ih =>
    refine (makeDirectoriesWithin_succ_ok_iff makeable.fits.filled).mpr ?_
    by_cases through : AtEach d.IsDirectory (d.start a) a.steps
    · exact .inl (tree.ensureDirectory_of_makeable ends makeable through)
    · right
      refine ⟨tree.ensureDirectory_of_gap makeable ends through, ?_⟩
      obtain ⟨above, found, filled, shorter⟩ := exists_parent_of_gap makeable.begins through
      obtain ⟨d₁, made⟩ : ∃ d₁, Disk.makeDirectoriesWithin fuel d above = (.ok (), d₁) :=
        ⟨_, Prod.ext (ih (by omega) (heads_of_parent? found).ends
          (makeable.parent found filled)) rfl⟩
      -- Now the parent is a directory, and what was open still is.
      obtain ⟨tree₁, adds, _⟩ := tree.after_makeDirectoriesWithin made
      obtain ⟨_, through₁⟩ := tree₁.through_of_parent found
        (tree.isDirectory_of_makeDirectoriesWithin filled made)
      exact ⟨above, found, d₁, made,
        tree₁.ensureDirectory_of_makeable ends (.mono adds makeable) through₁⟩

/-- **When directories can be made** up to a path. -/
theorem Tree.makeDirectories_eq_ok_iff (tree : d.Tree) (ends : EndsInStep a.segments)
    (filled : a.text.isEmpty = false) :
    (d.makeDirectories a).1 = .ok () ↔ d.Makeable a :=
  ⟨tree.makeable_of_makeDirectoriesWithin ends filled,
    tree.makeDirectoriesWithin_of_makeable (length_steps_le a) ends⟩

end Disk

end SchemaGen.File
