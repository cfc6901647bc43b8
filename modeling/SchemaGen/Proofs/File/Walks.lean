import SchemaGen.File.Walk
import SchemaGen.Proofs.File.Trees

/-!
# The steps of walks

A walk goes through the names in a directory in their order (`sorted_namesIn`), and
meets at each of them a file or what it finds further on. A directory that holds
nothing but files takes one step (`Tree.walk_files`).
-/

namespace SchemaGen.File

/-- The path with names after it. -/
def FilePath.below (p : FilePath) (names : Location) : FilePath :=
  names.foldl FilePath.join p

@[simp]
theorem FilePath.below_nil (p : FilePath) : p.below [] = p :=
  rfl

@[simp]
theorem FilePath.below_cons (p : FilePath) (name : String) (names : Location) :
    p.below (name :: names) = (p.join name).below names :=
  rfl

/-- Is the visit anything but that of a directory? -/
def Visit.isLeaf : Visit → Bool
  | .directory _ => false
  | .file _ | .fault _ => true

namespace Disk

variable {d e : Disk} {p : FilePath} {loc place : Location} {name : String} {item : Item}

/-! ## The names in a directory -/

theorem WellFormed.mem_namesIn (formed : d.WellFormed) :
    name ∈ d.namesIn loc ↔ ∃ item, d.get? (loc ++ [name]) = some item := by
  rw [namesIn, Text.sortBy, List.mem_mergeSort, List.mem_filterMap]
  constructor
  · rintro ⟨⟨loc', item⟩, member, found⟩
    split at found
    · rename_i here
      obtain ⟨front, rfl⟩ := List.getLast?_eq_some_iff.mp found
      rw [List.dropLast_concat] at here
      subst here
      exact ⟨item, (formed.mem_items_iff (by simp)).mp member⟩
    · cases found
  · rintro ⟨item, there⟩
    exact ⟨(loc ++ [name], item), mem_items_of_get? there (by simp), by simp⟩

theorem Tree.mem_namesIn (tree : d.Tree) :
    name ∈ d.namesIn loc ↔ ∃ item, d.get? (loc ++ [name]) = some item :=
  tree.wellFormed.mem_namesIn

/-- The names of a directory are those that are listed, if they are in order. -/
theorem namesIn_eq {names : List String}
    (listed : (d.items.filterMap fun e =>
      if e.1.dropLast = loc then e.1.getLast? else none) = names)
    (sorted : names.Pairwise fun a b => Text.precedes a b = true) : d.namesIn loc = names := by
  rw [namesIn, Text.sortBy, listed]
  exact List.mergeSort_of_pairwise sorted

private theorem precedes_iff {a b : String} : Text.precedes a b = true ↔ a ≤ b := by
  rw [Text.precedes, Bool.not_eq_true', decide_eq_false_iff_not, String.not_lt]

/-- Names stand in their order, and each one once. -/
theorem WellFormed.sorted_namesIn (formed : d.WellFormed) (loc : Location) :
    (d.namesIn loc).Pairwise (· < ·) := by
  have distinct : (d.namesIn loc).Nodup := by
    rw [namesIn, Text.sortBy, (List.mergeSort_perm _ _).nodup_iff]
    refine List.Pairwise.filterMap _ ?_ (List.pairwise_map.mp formed.distinct)
    intro a a' other b found b' found' same
    subst same
    split at found
    · split at found'
      · rename_i here here'
        obtain ⟨front, loc₁⟩ := List.getLast?_eq_some_iff.mp found
        obtain ⟨front', loc₂⟩ := List.getLast?_eq_some_iff.mp found'
        rw [loc₁, List.dropLast_concat] at here
        rw [loc₂, List.dropLast_concat] at here'
        exact other (by rw [loc₁, loc₂, here, here'])
      · cases found'
    · cases found
  have ordered : (d.namesIn loc).Pairwise (· ≤ ·) := by
    refine (List.pairwise_mergeSort ?_ ?_ _).imp (fun h => precedes_iff.mp h)
    · intro a b c before after
      exact precedes_iff.mpr (String.le_trans (precedes_iff.mp before) (precedes_iff.mp after))
    · intro a b
      rw [Bool.or_eq_true, precedes_iff, precedes_iff]
      exact String.le_total a b
  refine (ordered.and distinct).imp fun ⟨le, other⟩ => ?_
  exact String.not_le.mp fun ge => other (String.le_antisymm le ge)

/-! ## One step of a walk -/

section

variable {fuel : Nat} {ancestors : Ancestors}

theorem Tree.endsInLink_eq_false (tree : d.Tree) (p : FilePath) : d.endsInLink p = false := by
  unfold endsInLink
  split
  · split
    · rename_i link
      exact absurd link (tree.linkFree _ _)
    · rfl
  · rfl

/-- A directory that is not reached by a link is gone through. -/
theorem walkWithin_directory (plain : d.endsInLink p = false) (located : d.locate true p = .ok loc)
    (inside : d.get? loc = some .directory) (isOpen : d.closed? loc = none) :
    d.walkWithin (fuel + 1) ancestors p =
      .directory p :: (d.namesIn loc).flatMap
        (d.visitsAt loc p (d.walkWithin fuel ((loc, p) :: ancestors))) := by
  simp [walkWithin, located, inside, plain, isOpen]

theorem Tree.walkWithin_directory (tree : d.Tree) (located : d.locate true p = .ok loc)
    (inside : d.get? loc = some .directory) (isOpen : d.closed? loc = none) :
    d.walkWithin (fuel + 1) ancestors p =
      .directory p :: (d.namesIn loc).flatMap
        (d.visitsAt loc p (d.walkWithin fuel ((loc, p) :: ancestors))) :=
  Disk.walkWithin_directory (tree.endsInLink_eq_false p) located inside isOpen

theorem visitsAt_file {bytes : ByteArray} {further : FilePath → List Visit}
    (there : d.get? (loc ++ [name]) = some (.file bytes)) :
    d.visitsAt loc p further name = [.file (p.join name)] := by
  simp [visitsAt, there, Item.isFile]

theorem visitsAt_other {further : FilePath → List Visit}
    (there : d.get? (loc ++ [name]) = some item) (other : item.isFile = false) :
    d.visitsAt loc p further name = further (p.join name) := by
  simp [visitsAt, there, other]

theorem visitsAt_directory {further : FilePath → List Visit}
    (there : d.get? (loc ++ [name]) = some .directory) :
    d.visitsAt loc p further name = further (p.join name) :=
  visitsAt_other there rfl

theorem walkWithin_file {bytes : ByteArray} (located : d.locate true p = .ok loc)
    (there : d.get? loc = some (.file bytes)) :
    d.walkWithin (fuel + 1) ancestors p = [.file p] := by
  simp [walkWithin, located, there]

end

/-- A directory that holds nothing but files is gone through name by name. -/
theorem Tree.walk_files (tree : d.Tree) {names : List String} (located : d.locate true p = .ok loc)
    (inside : d.get? loc = some .directory) (isOpen : d.closed? loc = none)
    (held : d.namesIn loc = names)
    (files : ∀ name ∈ names, ∃ bytes, d.get? (loc ++ [name]) = some (.file bytes)) :
    d.walk p = .directory p :: names.map fun name => .file (p.join name) := by
  have square : 1 * 1 ≤ (d.items.length + 2) * (d.items.length + 2) :=
    Nat.mul_le_mul (by omega) (by omega)
  obtain ⟨fuel, lasts⟩ := Nat.exists_eq_add_of_le' square
  rw [walk, lasts, tree.walkWithin_directory located inside isOpen, held, List.map_eq_flatMap]
  congr 1
  refine List.flatMap_congr fun name member => ?_
  obtain ⟨bytes, there⟩ := files name member
  exact visitsAt_file there

end Disk

end SchemaGen.File
