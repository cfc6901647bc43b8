import SchemaGen.Proofs.File.Making
import SchemaGen.Proofs.Output.Placement

/-!
# Writing a file

Writing a file makes the directories above it and then puts the file where its path
leads. `Disk.Writable` says what the path and the disk have to be like for that, and
`writeFile_eq_ok_iff` that no more and no less is needed. Of the places on the way the
file needs one more thing than directories do: none of them may be its own.
-/

namespace SchemaGen

open SchemaGen.File SchemaGen.File.FilePath

namespace File.Disk

variable {d d' : Disk} {p a : FilePath} {bytes : ByteArray}

/-! ## Writing where the directories are -/

/-- The paths above a path that can be followed lead to directories. -/
theorem Reaches.above (reaches : d.Reaches p) (above : a.Above p) :
    d.IsDirectory (d.goal a) :=
  (forall_above_iff reaches.begins).mpr reaches.through a above

/-- A file can be put where the path leads. -/
structure Receives (d : Disk) (p : FilePath) : Prop where
  reaches : d.Reaches p
  named : p.EndsInName
  free : ¬ d.IsDirectory (d.goal p)
  allowed : d.refusal? (d.goal p) = none

/-- **When a file is written** whose directories are there, and what then has changed. -/
theorem Tree.writeBytes_eq_ok_iff (tree : d.Tree) :
    d.writeBytes p bytes = .ok d' ↔ d.Receives p ∧ d' = d.put (d.goal p) (.file bytes) := by
  rw [Disk.writeBytes_eq_ok_iff]
  constructor
  · rintro ⟨place, located, notDirectory, slash, allowed, rfl⟩
    obtain ⟨reaches, rfl⟩ := tree.reaches_of_locate located
    refine ⟨⟨reaches, ?_, notDirectory, allowed⟩, rfl⟩
    obtain ⟨front, last, whole⟩ :=
      (List.eq_nil_or_concat p.segments).resolve_left (splitSlashes_ne_nil _)
    rw [List.concat_eq_append] at whole
    by_cases name : IsName last
    · exact ⟨front, last, whole, name⟩
    · have way := (locate_eq_ok_iff.mp located).2
      rw [whole] at way
      rcases tree.idle_of_follows name way with inside | ⟨rfl, absent⟩
      · exact absurd inside notDirectory
      · have ends := (endsInSlash_iff reaches.fits.filled).mpr (by simp [whole])
        rw [slash absent] at ends
        cases ends
  · rintro ⟨⟨reaches, named, free, allowed⟩, rfl⟩
    refine ⟨_, tree.locate_of_reaches reaches named.ends, free, fun _ => ?_, allowed, rfl⟩
    obtain ⟨front, last, whole, name⟩ := named
    rw [Bool.eq_false_iff, ne_eq, endsInSlash_iff reaches.fits.filled, whole,
      List.getLast?_concat]
    exact fun empty => name.1 (Option.some.inj empty)

/-! ## Writing with the directories above -/

/-- A file can be written at the path, with the directories above that are missing. -/
structure Writable (d : Disk) (p : FilePath) : Prop where
  fits : p.Fits
  begins : d.IsDirectory (d.start p)
  storable : Storable p.steps
  named : p.EndsInName
  isOpen : ∀ a : FilePath, a.Above p → d.Open (d.goal a)
  apart : ∀ a : FilePath, a.Above p → d.goal a ≠ d.goal p
  free : ¬ d.IsDirectory (d.goal p)
  allowed : d.refusal? (d.goal p) = none

theorem Receives.writable (receives : d.Receives p) : d.Writable p where
  fits := receives.reaches.fits
  begins := receives.reaches.begins
  storable := receives.reaches.storable
  named := receives.named
  isOpen _ above := .inl (receives.reaches.above above)
  apart _ above same := receives.free (same ▸ receives.reaches.above above)
  free := receives.free
  allowed := receives.allowed

/-- The file can be put at its place once the directories above are made, since that is
none of theirs. -/
theorem Writable.receives (adds : d.AddsDirectories d')
    (made : d.MakesAt (fun b => b.Above p) d') (reaches : d'.Reaches p)
    (writable : d.Writable p) : d'.Receives p where
  reaches := reaches
  named := writable.named
  free inside := by
    rw [IsDirectory, adds.goal] at inside
    rcases made (d.goal p) with same | ⟨_, _, _, a, above, same⟩
    · exact writable.free (same.symm.trans inside)
    · exact writable.apart a above same.symm
  allowed := by
    rw [adds.refusal?, adds.goal]
    exact writable.allowed

/-- The directory above a writable file can be made. -/
theorem Writable.makeable {above : FilePath} (writable : d.Writable p)
    (found : p.parent? = some above) (filled : above.text.isEmpty = false) :
    d.Makeable above := by
  have onWay := Above.parent found
  refine ⟨onWay.fits filled writable.fits, ?_, fun s member => ?_, ?_⟩
  · rw [d.start_of_above onWay]
    exact writable.begins
  · exact writable.storable s (onWay.mem_steps member)
  · exact fun b onWay => writable.isOpen b ((above_iff found).mpr onWay)

end File.Disk

variable {d d' : Disk} {p : FilePath} {content : String} {e : Error}

theorem directoryOf?_eq_some_iff {above : FilePath} :
    directoryOf? p = some above ↔ p.parent? = some above ∧ above.text.isEmpty = false := by
  simp [directoryOf?, Option.filter_eq_some_iff]

/-- A path of several steps has a directory. -/
theorem length_steps_of_directoryOf? (none : directoryOf? p = none) : p.steps.length ≤ 1 := by
  by_cases empty : p.steps = []
  · simp [empty]
  · obtain ⟨above, found⟩ := exists_parent? empty
    have noText : above.text.isEmpty = true := by
      simpa [directoryOf?, found, String.isEmpty_iff] using none
    have steps := (heads_of_parent? found).steps
    have length := congrArg List.length ((steps_of_isEmpty noText).symm.trans steps)
    rw [List.length_nil, List.length_dropLast] at length
    omega

/-! ## The course of a write -/

/-- The directory of the path has been made, if it has one. -/
inductive Prepares (d : Disk) (p : FilePath) : Disk → Prop where
  | bare (none : directoryOf? p = none) : Prepares d p d
  | within {above : FilePath} {d' : Disk} (parent : directoryOf? p = some above)
      (made : d.makeDirectories above = (.ok (), d')) : Prepares d p d'

/-- **The course of a write**: the file is written once the directory is prepared, or the
directory cannot be made. -/
theorem writeFile_cases (d : Disk) (p : FilePath) (content : String) :
    (∃ d₁, Prepares d p d₁ ∧ writeFile d p content = writeInPlace d₁ p content) ∨
    ∃ above fault d₁, directoryOf? p = some above ∧
      d.makeDirectories above = (.error fault, d₁) ∧
      writeFile d p content = (.error (.writeFailed above fault), d₁) := by
  unfold writeFile
  cases found : directoryOf? p with
  | none => exact .inl ⟨d, .bare found, rfl⟩
  | some above =>
    rcases ran : d.makeDirectories above with ⟨result, d₁⟩
    cases result with
    | error fault => exact .inr ⟨above, fault, d₁, rfl, ran, by simp only [ran]⟩
    | ok _ => exact .inl ⟨d₁, .within found ran, by simp only [ran]⟩

/-- A write that succeeds has prepared the directory. -/
theorem exists_prepares_of_writeFile (written : writeFile d p content = (.ok (), d')) :
    ∃ d₁, Prepares d p d₁ ∧ d₁.writeBytes p content.toUTF8 = .ok d' := by
  rcases writeFile_cases d p content with ⟨d₁, prepares, ran⟩ | ⟨_, _, _, _, _, ran⟩
  · exact ⟨d₁, prepares, writeInPlace_ok (ran.symm.trans written)⟩
  · rw [ran] at written
    cases written

namespace Prepares

variable {d₁ : Disk}

theorem tree (prepares : Prepares d p d₁) (tree : d.Tree) :
    d₁.Tree ∧ d.AddsDirectories d₁ := by
  cases prepares with
  | bare none => exact ⟨tree, .refl _⟩
  | within parent made =>
    obtain ⟨tree₁, adds, _⟩ := tree.after_makeDirectoriesWithin made
    exact ⟨tree₁, adds⟩

theorem makeable (prepares : Prepares d p d₁) (tree : d.Tree) {above : FilePath}
    (parent : directoryOf? p = some above) : d.Makeable above := by
  obtain ⟨found, filled⟩ := directoryOf?_eq_some_iff.mp parent
  refine (tree.makeDirectories_eq_ok_iff (heads_of_parent? found).ends filled).mp ?_
  cases prepares with
  | bare none => exact nomatch none.symm.trans parent
  | within parent' made =>
    obtain rfl := Option.some.inj (parent'.symm.trans parent)
    rw [made]

/-- The path can be followed to the file then. -/
theorem reaches (prepares : Prepares d p d₁) (tree : d.Tree) (writable : d.Writable p) :
    d₁.Reaches p := by
  cases prepares with
  | bare none =>
    refine ⟨writable.fits, writable.begins, writable.storable, ?_⟩
    match p.steps, length_steps_of_directoryOf? none with
    | [], _ => trivial
    | [_], _ => exact ⟨writable.begins, trivial⟩
  | within parent made =>
    obtain ⟨found, filled⟩ := directoryOf?_eq_some_iff.mp parent
    obtain ⟨tree₁, _⟩ := tree.after_makeDirectoriesWithin made
    obtain ⟨begins, through⟩ := tree₁.through_of_parent found
      (tree.isDirectory_of_makeDirectories filled made)
    exact ⟨writable.fits, begins, writable.storable, through⟩

end Prepares

/-- The file holds the content, in directories all the way, and nothing else has changed but
directories made above it. -/
structure Written (d : Disk) (p : FilePath) (content : String) (d' : Disk) : Prop where
  holds : d'.readText p = .ok content
  inside : ∀ a : FilePath, a.Above p → a.text.isEmpty = false → d'.isDirectory a = true
  others : ∀ l, l ≠ d.goal p → d'.get? l = d.get? l ∨
    d.get? l = none ∧ d'.get? l = some .directory ∧ ∃ a : FilePath, a.Above p ∧ l = d.goal a

end SchemaGen
