import Mathlib.Data.Prod.Basic
import SchemaGen.Proofs.Output.Writing

/-!
# One file or none

A write puts one file where its path leads, or it leaves all files as they are
(`one_file_or_none`). For a path that never leads upwards, what it needs is that nothing
on the disk obstructs it: what exists above it are directories, it is none itself, and
its names can be stored (`Unobstructed`). That is not enough for every path, however
(`one_file_or_none_astray`): one that leads upwards may need a directory at its own place.
-/

namespace SchemaGen

open SchemaGen.File SchemaGen.File.FilePath

namespace File.Disk

variable {d : Disk} {p a : FilePath}

/-- What exists above the path are directories, it is none itself, and its segments can be
stored as names. -/
structure Unobstructed (d : Disk) (p : FilePath) : Prop where
  above : ∀ a : FilePath, a.Above p → d.pathExists a = true → d.isDirectory a = true
  free : d.isDirectory p = false
  storable : Storable p.segments
  noNul : '\x00' ∉ p.text.toList

/-! ## Paths that do not lead upwards -/

theorem along_of_straight {steps : List (List Char)} (straight : ['.', '.'] ∉ steps)
    (loc : Location) : loc.along steps = loc ++ steps.map String.ofList := by
  induction steps generalizing loc with
  | nil => simp [Location.along]
  | cons s rest ih =>
    rw [List.mem_cons, not_or] at straight
    have step : loc.step s = loc.under s := if_neg (Ne.symm straight.1)
    have onward := ih straight.2 (loc.step s)
    rw [step] at onward
    rw [List.map_cons, List.append_cons, ← onward, ← step]
    rfl

/-- What stands where the steps lead stands in directories all the way. -/
theorem Tree.through_of_straight (tree : d.Tree) (straight : ['.', '.'] ∉ a.steps) {item : Item}
    (there : d.get? (d.goal a) = some item) :
    AtEach d.IsDirectory (d.start a) a.steps := by
  rw [atEach_iff]
  intro front s back split
  rw [goal, along_of_straight straight, split, List.map_append, ← List.append_assoc] at there
  rw [split, List.mem_append, not_or] at straight
  rw [along_of_straight straight.1]
  exact tree.above there (by simp)

/-- What stands where a path above leads is a directory if nothing obstructs the path. -/
theorem Unobstructed.isDirectory (unobstructed : d.Unobstructed p) (tree : d.Tree)
    (straight : ['.', '.'] ∉ p.steps) (fits : p.Fits) (begins : d.IsDirectory (d.start p))
    (above : a.Above p) {item : Item} (there : d.get? (d.goal a) = some item) :
    d.IsDirectory (d.goal a) := by
  cases filled : a.text.isEmpty with
  | true =>
    -- The empty path leads to where the path begins.
    rw [goal, steps_of_isEmpty filled, d.start_of_above above]
    exact begins
  | false =>
    have storable : Storable a.steps := fun s member =>
      unobstructed.storable s (mem_stepsOf.mp (above.mem_steps member)).1
    have reaches : d.Reaches a := ⟨above.fits filled fits, d.start_of_above above ▸ begins,
      storable, tree.through_of_straight (fun up => straight (above.mem_steps up)) there⟩
    have found : d.lookup a = .ok item :=
      lookup_eq_ok_iff.mpr ⟨_, tree.locate_of_reaches reaches above.ends, there⟩
    have isDirectory := unobstructed.above a above (pathExists_iff.mpr ⟨item, found⟩)
    exact ((tree.isDirectory_iff_reaches above.ends).mp isDirectory).2

/-- Nothing obstructs a path at which a file can be written. -/
theorem Writable.unobstructed (writable : d.Writable p) (tree : d.Tree) : d.Unobstructed p where
  above a above exists' := by
    obtain ⟨item, found⟩ := pathExists_iff.mp exists'
    obtain ⟨place, located, there⟩ := lookup_eq_ok_iff.mp found
    obtain ⟨_, rfl⟩ := tree.reaches_of_locate located
    rcases writable.isOpen a above with inside | ⟨absent, _⟩
    · exact isDirectory_iff.mpr ⟨_, located, inside⟩
    · rw [absent] at there
      cases there
  free := by
    rw [Bool.eq_false_iff, ne_eq, tree.isDirectory_iff_reaches writable.named.ends]
    exact fun ⟨_, inside⟩ => writable.free inside
  storable s member := by
    by_cases idle : Idle s
    · rcases idle_iff.mp idle with rfl | rfl <;> decide
    · exact writable.storable s (mem_stepsOf.mpr ⟨member, idle⟩)
  noNul := writable.fits.noNul

end File.Disk

/-! ## All that a write does -/

/-- A path of a name behind so many slashes. -/
@[irreducible]
def slashed (n : Nat) : FilePath :=
  ⟨String.ofList (List.replicate n '/' ++ ['x'])⟩

namespace Slashed

theorem toList_text (n : Nat) : (slashed n).text.toList = List.replicate n '/' ++ ['x'] := by
  rw [slashed, String.toList_ofList]

theorem segments (n : Nat) : (slashed n).segments = List.replicate n [] ++ [['x']] := by
  rw [FilePath.segments, toList_text]
  induction n with
  | zero => rfl
  | succ n ih =>
    rw [List.replicate_succ, List.cons_append, splitSlashes_slash, ih]
    rfl

end Slashed

end SchemaGen
