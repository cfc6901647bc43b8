import SchemaGen.Proofs.File.Traversal

/-!
# Walks of trees

On a tree the walk of a directory meets what stands below it under the names it
has there. It meets a fault only where the path of a directory is too long to be
looked up, or the directory cannot be listed (`Tree.sound_walk_iff`). Of a sound walk
the files that it meets, and their order, depend only on which files stand below the
directory (`Tree.walk_agree`): directories without files leave no trace.
-/

namespace SchemaGen.File.Disk

variable {d e : Disk} {p q : FilePath} {loc place : Location} {name : String} {item : Item}
  {visit : Visit}

theorem Tree.mem_walk_iff (tree : d.Tree) : visit ∈ d.walk p ↔ d.Meets p visit :=
  tree.wellFormed.mem_walk_iff (tree.loopFree p)

/-- What is met and no fault is met from a path that can be looked up. -/
theorem Meets.exists_locate (met : d.Meets p visit) (sound : ∀ cause, visit ≠ .fault cause) :
    ∃ loc, d.locate true p = .ok loc := by
  cases met with
  | here shows =>
    cases shows with
    | file found =>
      obtain ⟨loc, located, _⟩ := lookup_eq_ok_iff.mp found
      exact ⟨loc, located⟩
    | directory opens _ => exact ⟨_, opens.1⟩
    | closed | fault => exact absurd rfl (sound _)
  | listed opens _ => exact ⟨_, opens.1⟩
  | further opens _ _ _ => exact ⟨_, opens.1⟩

/-- **Every file that is met** stands at or below where the walk began, and its path
says where. -/
theorem Tree.exists_of_meets_file (tree : d.Tree) (located : d.locate true p = .ok loc)
    (met : d.Meets p (.file q)) :
    ∃ rest bytes, q = p.below rest ∧ d.get? (loc ++ rest) = some (.file bytes) := by
  generalize file : Visit.file q = visit at met
  induction met generalizing loc with
  | here shows =>
    cases shows with
    | file found =>
      cases file
      obtain ⟨loc', located', there⟩ := lookup_eq_ok_iff.mp found
      obtain rfl := Except.ok.inj (located.symm.trans located')
      exact ⟨[], _, rfl, by simpa using there⟩
    | directory | closed | fault => cases file
  | listed opens there =>
    cases file
    obtain rfl := Except.ok.inj (located.symm.trans opens.1)
    exact ⟨[_], _, rfl, there⟩
  | @further top loc' name item visit opens there other met ih =>
    subst file
    obtain rfl := Except.ok.inj (located.symm.trans opens.1)
    obtain ⟨place, next⟩ := met.exists_locate (by simp)
    obtain rfl := tree.eq_of_locate_join (tree.proper there) located next
    obtain ⟨rest, bytes, rfl, stands⟩ := ih next rfl
    exact ⟨name :: rest, bytes, rfl, by simpa using stands⟩

theorem Tree.exists_of_file_mem (tree : d.Tree) (located : d.locate true p = .ok loc)
    (met : .file q ∈ d.walk p) :
    ∃ rest bytes, q = p.below rest ∧ d.get? (loc ++ rest) = some (.file bytes) :=
  tree.exists_of_meets_file located (tree.mem_walk_iff.mp met)

/-- A fault is met only where a directory stands whose path is too long, or that cannot be
listed. -/
theorem Tree.exists_of_meets_fault (tree : d.Tree) {cause : WalkFault}
    (located : d.locate true p = .ok loc) (there : d.get? loc = some item)
    (met : d.Meets p (.fault cause)) :
    ∃ rest, d.get? (loc ++ rest) = some .directory ∧
      (pathLimit < (p.below rest).text.utf8ByteSize ∨ d.closed? (loc ++ rest) ≠ none) := by
  generalize fault : Visit.fault cause = visit at met
  induction met generalizing loc item with
  | here shows =>
    cases shows with
    | file | directory => cases fault
    | closed located' inside shut =>
      obtain rfl := Except.ok.inj (located.symm.trans located')
      exact ⟨[], by simpa using inside, .inr (by simp [shut])⟩
    | fault failed => exact nomatch failed.symm.trans (lookup_eq_ok_iff.mpr ⟨_, located, there⟩)
  | listed _ _ => cases fault
  | @further top loc' name item' visit opens stands other met ih =>
    obtain rfl := Except.ok.inj (located.symm.trans opens.1)
    cases item' with
    | file bytes => cases other
    | link target => exact absurd stands (tree.linkFree _ _)
    | directory =>
      by_cases short : (top.join name).text.utf8ByteSize ≤ pathLimit
      · obtain ⟨rest, below, closed⟩ := ih (tree.locate_join stands located short) stands fault
        exact ⟨name :: rest, by simpa using below, by simpa using closed⟩
      · exact ⟨[name], stands, .inl (Nat.lt_of_not_le short)⟩

/-- A directory where no fault is met can be listed. -/
theorem opens_of_sound (located : d.locate true p = .ok loc) (inside : d.get? loc = some .directory)
    (sound : ∀ cause, ¬ d.Meets p (.fault cause)) : d.Opens p loc := by
  refine ⟨located, Option.eq_none_iff_forall_ne_some.mpr fun reason shut => ?_⟩
  exact sound _ (.here (.closed located inside shut))

/-- Where no fault is met, one step on the way to a directory comes to a directory that
can be looked up, and no fault is met from there. -/
theorem Tree.next_below (tree : d.Tree) {name : String} {rest : Location}
    (located : d.locate true p = .ok loc)
    (inside : d.get? (loc ++ name :: rest) = some .directory)
    (sound : ∀ cause, ¬ d.Meets p (.fault cause)) :
    d.Opens p loc ∧ d.get? (loc ++ [name]) = some .directory ∧
      d.locate true (p.join name) = .ok (loc ++ [name]) ∧
      d.get? ((loc ++ [name]) ++ rest) = some .directory ∧
      ∀ cause, ¬ d.Meets (p.join name) (.fault cause) := by
  have split : loc ++ name :: rest = (loc ++ [name]) ++ rest := by simp
  rw [split] at inside
  have next : d.get? (loc ++ [name]) = some .directory := by
    rcases rest with _ | ⟨name', rest⟩
    · simpa using inside
    · exact tree.above inside (by simp)
  have opens := opens_of_sound located (tree.parent next) sound
  have goesOn : ∀ cause, ¬ d.Meets (p.join name) (.fault cause) :=
    fun cause met => sound cause (.further opens next rfl met)
  refine ⟨opens, next, ?_, inside, goesOn⟩
  cases located' : d.locate true (p.join name) with
  | ok place => rw [tree.eq_of_locate_join (tree.proper next) located located']
  | error fault => exact absurd (.here (.fault (lookup_of_locate_error located'))) (goesOn _)

/-- Every directory below a path where no fault is met can be looked up, and be listed. -/
theorem Tree.opens_below (tree : d.Tree) {rest : Location} (located : d.locate true p = .ok loc)
    (inside : d.get? (loc ++ rest) = some .directory)
    (sound : ∀ cause, ¬ d.Meets p (.fault cause)) : d.Opens (p.below rest) (loc ++ rest) := by
  induction rest generalizing p loc with
  | nil =>
    rw [List.append_nil] at inside ⊢
    exact opens_of_sound located inside sound
  | cons name rest ih =>
    obtain ⟨_, _, next, inside, sound⟩ := tree.next_below located inside sound
    simpa using ih next inside sound

theorem Tree.opens_of_sound_walk (tree : d.Tree) {rest : Location}
    (located : d.locate true p = .ok loc) (inside : d.get? (loc ++ rest) = some .directory)
    (sound : ∀ cause, .fault cause ∉ d.walk p) : d.Opens (p.below rest) (loc ++ rest) :=
  tree.opens_below located inside fun cause met => sound cause (tree.mem_walk_iff.mpr met)

/-- **A tree can be walked** just when no path of a directory in it is too long, and each
can be listed. -/
theorem Tree.sound_walk_iff (tree : d.Tree) (located : d.locate true p = .ok loc)
    (there : d.get? loc = some item) : (∀ cause, .fault cause ∉ d.walk p) ↔
      ∀ rest, d.get? (loc ++ rest) = some .directory →
        (p.below rest).text.utf8ByteSize ≤ pathLimit ∧ d.closed? (loc ++ rest) = none := by
  constructor
  · intro sound rest inside
    obtain ⟨located', isOpen⟩ := tree.opens_of_sound_walk located inside sound
    exact ⟨(locate_eq_ok_iff.mp located').1.short, isOpen⟩
  · intro fine cause met
    obtain ⟨rest, inside, closed⟩ :=
      tree.exists_of_meets_fault located there (tree.mem_walk_iff.mp met)
    obtain ⟨short, isOpen⟩ := fine rest inside
    exact closed.elim (Nat.not_lt.mpr short) fun shut => shut isOpen

/-- A file below the beginning of sound walks of two trees is found on both, or its
path is too long. -/
theorem Tree.lookup_eq_of_file (tree : d.Tree) (tree' : e.Tree) {rest : Location}
    {bytes : ByteArray} (located : d.locate true p = .ok loc) (located' : e.locate true p = .ok loc)
    (file : d.get? (loc ++ rest) = some (.file bytes))
    (file' : e.get? (loc ++ rest) = some (.file bytes)) (sound : ∀ cause, .fault cause ∉ d.walk p)
    (sound' : ∀ cause, .fault cause ∉ e.walk p) :
    d.lookup (p.below rest) = e.lookup (p.below rest) := by
  rcases List.eq_nil_or_concat rest with rfl | ⟨front, name, rfl⟩
  · rw [List.append_nil] at file file'
    exact (lookup_eq_ok_iff.mpr ⟨loc, located, file⟩).trans
      (lookup_eq_ok_iff.mpr ⟨loc, located', file'⟩).symm
  · rw [List.concat_eq_append, ← List.append_assoc] at file file'
    have here := (tree.opens_of_sound_walk located (tree.parent file) sound).1
    have here' := (tree'.opens_of_sound_walk located' (tree'.parent file') sound').1
    have path : p.below (front.concat name) = (p.below front).join name := by
      simp [FilePath.below]
    rw [path]
    by_cases short : ((p.below front).join name).text.utf8ByteSize ≤ pathLimit
    · exact (lookup_eq_ok_iff.mpr ⟨_, tree.locate_join file here short, file⟩).trans
        (lookup_eq_ok_iff.mpr ⟨_, tree'.locate_join file' here' short, file'⟩).symm
    · exact lookup_eq_of_long (Nat.lt_of_not_le short)

/-! ## Walks that agree -/

/-- Below the location files stand at the same places on both disks. -/
def SameFilePlaces (d e : Disk) (loc : Location) : Prop :=
  ∀ rest, (∃ bytes, d.get? (loc ++ rest) = some (.file bytes)) ↔
    ∃ bytes, e.get? (loc ++ rest) = some (.file bytes)

theorem SameFilePlaces.symm (same : d.SameFilePlaces e loc) : e.SameFilePlaces d loc :=
  fun rest => (same rest).symm

/-- What is met below is met from above, where directories can be looked up. -/
theorem Tree.meets_of_below (tree : d.Tree) {rest : Location} (located : d.locate true p = .ok loc)
    (inside : d.get? (loc ++ rest) = some .directory)
    (sound : ∀ cause, ¬ d.Meets p (.fault cause)) (met : d.Meets (p.below rest) visit) :
    d.Meets p visit := by
  induction rest generalizing p loc with
  | nil => exact met
  | cons name rest ih =>
    obtain ⟨opens, stands, next, inside, sound⟩ := tree.next_below located inside sound
    exact .further opens stands rfl (ih next inside sound met)

/-- A sound walk meets every file below its beginning. -/
theorem Tree.file_mem_walk (tree : d.Tree) {rest : Location} {bytes : ByteArray}
    (located : d.locate true p = .ok loc) (file : d.get? (loc ++ rest) = some (.file bytes))
    (sound : ∀ cause, .fault cause ∉ d.walk p) : .file (p.below rest) ∈ d.walk p := by
  have free : ∀ cause, ¬ d.Meets p (.fault cause) :=
    fun cause met => sound cause (tree.mem_walk_iff.mpr met)
  rw [tree.mem_walk_iff]
  rcases List.eq_nil_or_concat rest with rfl | ⟨front, name, rfl⟩
  · exact .here (.file (lookup_eq_ok_iff.mpr ⟨loc, located, by simpa using file⟩))
  · rw [List.concat_eq_append, ← List.append_assoc] at file
    have inside := tree.parent file
    have path : p.below (front.concat name) = (p.below front).join name := by
      simp [FilePath.below]
    rw [path]
    exact tree.meets_of_below located inside free
      (.listed (tree.opens_below located inside free) file)

/-- **Sound walks agree** if files stand at the same places below where they
begin: they meet the same files in the same order. -/
theorem Tree.walk_agree (tree : d.Tree) (tree' : e.Tree) (same : d.SameFilePlaces e loc)
    (located : d.locate true p = .ok loc) (located' : e.locate true p = .ok loc)
    (sound : ∀ cause, .fault cause ∉ d.walk p) (sound' : ∀ cause, .fault cause ∉ e.walk p) :
    (d.walk p).filter Visit.isLeaf = (e.walk p).filter Visit.isLeaf := by
  have files : ∀ {d e : Disk}, d.Tree → e.Tree → d.SameFilePlaces e loc →
      d.locate true p = .ok loc → e.locate true p = .ok loc →
      (∀ cause, .fault cause ∉ d.walk p) → (∀ cause, .fault cause ∉ e.walk p) →
      ∀ visit, visit ∈ (d.walk p).filter Visit.isLeaf →
        visit ∈ (e.walk p).filter Visit.isLeaf := by
    intro d e tree tree' same located located' sound sound' visit member
    obtain ⟨met, leaf⟩ := List.mem_filter.mp member
    refine List.mem_filter.mpr ⟨?_, leaf⟩
    cases visit with
    | directory q => cases leaf
    | fault cause => exact absurd met (sound cause)
    | file q =>
      obtain ⟨rest, bytes, rfl, file⟩ := tree.exists_of_file_mem located met
      obtain ⟨bytes', file'⟩ := (same rest).mp ⟨bytes, file⟩
      exact tree'.file_mem_walk located' file' sound'
  exact FilePath.eq_of_ordered ((tree.wellFormed.ordered_walk p).filter _)
    ((tree'.wellFormed.ordered_walk p).filter _) fun visit =>
      ⟨files tree tree' same located located' sound sound' visit,
        files tree' tree same.symm located' located sound' sound visit⟩

end SchemaGen.File.Disk
