import SchemaGen.Proofs.Generation.Files
import SchemaGen.Proofs.Output.Writing

/-!
# Files made again

On a tree where all files of a run stand, making them again changes nothing: the
directories are there, and every file is written with what it holds already
(`writeOutput_again`, `Makes.again`). A run that succeeded is therefore repeated,
step by step, on the disk that it left (`generate_again`).
-/

namespace SchemaGen

open SchemaGen.File

/-! ## One file -/

section

variable {d d' e : Disk} {root path : FilePath} {entity content : String} {kind : OutputKind}

/-- A write keeps a tree, and what the system refuses and does not let be listed. -/
theorem tree_writeOutput (tree : d.Tree)
    (written : writeOutput d root entity kind content = (.ok path, d')) :
    d'.Tree ∧ d'.refusal? = d.refusal? ∧ d'.closed = d.closed := by
  obtain ⟨_, done⟩ := writeOutput_eq_ok written
  obtain ⟨d₁, prepares, done⟩ := exists_prepares_of_writeFile done
  obtain ⟨tree₁, adds⟩ := prepares.tree tree
  refine ⟨tree₁.writeBytes done, ?_⟩
  obtain ⟨loc, _, _, rfl⟩ := Disk.writeBytes_eq_ok done
  rw [Disk.refusal?_put, adds.refusal?, Disk.closed_put, adds.closed]
  exact ⟨rfl, rfl⟩

/-- The place of an output file is where its path leads from then on. -/
private theorem locate_of_writeBytes {bytes : ByteArray} {loc : Location} (tree : d.Tree)
    (found : kind.pathFor root entity = .ok path) (located : d.locate true path = .ok loc)
    (written : d.writeBytes path bytes = .ok d') (grows : d'.Grows e) :
    e.locate true path = .ok loc := by
  obtain ⟨loc', located', notDirectory, rfl⟩ := Disk.writeBytes_eq_ok written
  obtain rfl := Except.ok.inj (located.symm.trans located')
  have solid : ∀ target, d.get? loc ≠ some (.link target) := tree.linkFree loc
  have below := Disk.ne_nil_of_get? notDirectory
  have holds := d.get?_put below (.file bytes) loc
  rw [if_pos rfl] at holds
  obtain ⟨bytes', holds'⟩ := grows.file holds
  obtain ⟨_, _, _, _, _, again⟩ :=
    OutputKind.stands_of_locate (tree.linkFree.linkFreeBelow root) found located
  exact again e bytes' ((Disk.grows_put_file bytes notDirectory solid).trans grows) holds'

/-- **A file that was written can be written again**, which changes nothing if it
still holds the same. -/
theorem writeOutput_again (tree : d.Tree) (tree' : e.Tree)
    (written : writeOutput d root entity kind content = (.ok path, d')) (grows : d'.Grows e)
    (refusals : e.refusal? = d.refusal?) (holds : e.lookup path = .ok (.file content.toUTF8)) :
    writeOutput e root entity kind content = (.ok path, e) := by
  obtain ⟨found, done⟩ := writeOutput_eq_ok written
  obtain ⟨d₁, prepares, done⟩ := exists_prepares_of_writeFile done
  obtain ⟨tree₁, adds⟩ := prepares.tree tree
  -- The write itself: same place, same content, and no refusal there.
  obtain ⟨loc, located, notDirectory, put⟩ := Disk.writeBytes_eq_ok done
  have located' := locate_of_writeBytes tree₁ found located done grows
  have stands : e.get? loc = some (.file content.toUTF8) := by
    obtain ⟨loc', located'', stands⟩ := Disk.lookup_eq_ok_iff.mp holds
    obtain rfl := Except.ok.inj (located'.symm.trans located'')
    exact stands
  have allowed : e.refusal? loc = none := by
    rw [refusals, ← adds.refusal?]
    exact Disk.refusal?_of_writeBytes located done
  have inPlace : writeInPlace e path content = (.ok (), e) := by
    rw [writeInPlace, tree'.writeBytes_eq_self located' stands allowed]
  -- The directories above it: those that were made are still there.
  have file : writeFile e path content = (.ok (), e) := by
    unfold writeFile
    cases prepares with
    | bare none => simpa only [none] using inPlace
    | @within above _ parent made =>
      have filled : above.text.isEmpty = false := by
        have kept := (Option.filter_eq_some_iff.mp parent).2
        simpa using kept
      have grows₁ : d₁.Grows d' := by
        rw [put]
        exact Disk.grows_put_file _ notDirectory (tree₁.linkFree loc)
      have there : e.isDirectory above = true :=
        (grows₁.trans grows).isDirectory (tree.isDirectory_of_makeDirectories filled made)
      simpa only [parent, tree'.makeDirectories_eq_self there] using inPlace
  rw [writeOutput, found]
  simp only [file]

end

namespace Generation

/-! ## All files of a plan -/

section

variable {engine : Engine} {root : FilePath} {d d' e : Disk} {jobs : List Job}
  {paths : List FilePath}

theorem Makes.tree (makes : Makes engine root d jobs paths d') (tree : d.Tree) :
    d'.Tree ∧ d'.refusal? = d.refusal? ∧ d'.closed = d.closed := by
  induction makes with
  | nil => exact ⟨tree, rfl, rfl⟩
  | cons _ written _ ih =>
    obtain ⟨tree₁, refusals, closed⟩ := tree_writeOutput tree written
    obtain ⟨tree', refusals', closed'⟩ := ih tree₁
    exact ⟨tree', refusals'.trans refusals, closed'.trans closed⟩

theorem Makes.grows (makes : Makes engine root d jobs paths d') (free : d.LinkFreeBelow root) :
    d.Grows d' := by
  induction makes with
  | nil => exact .refl _
  | cons _ written _ ih =>
    obtain ⟨loc, writes⟩ := writeOutput_ok free written
    exact writes.grows.trans (ih (free.grows writes.grows))

/-- **Files that were made can be made again** where they stand, which changes
nothing. -/
theorem Makes.again (makes : Makes engine root d jobs paths d') (tree : d.Tree) (tree' : e.Tree)
    (grows : d'.Grows e) (refusals : e.refusal? = d.refusal?)
    (stand : List.Forall₂ (Stands engine root e) jobs paths) :
    Makes engine root e jobs paths e := by
  induction makes with
  | nil => exact .nil
  | cons rendered written others ih =>
    rename_i d d₁ d' job rest path paths text
    obtain ⟨tree₁, refusals₁, _⟩ := tree_writeOutput tree written
    cases stand with
    | cons here stand =>
      have grows₁ := (others.grows (tree₁.linkFree.linkFreeBelow root)).trans grows
      obtain ⟨text', rendered', holds⟩ := here.holds
      obtain rfl := Except.ok.inj (rendered.symm.trans rendered')
      refine .cons rendered (writeOutput_again tree tree' written grows₁ refusals holds) ?_
      exact ih tree₁ grows (refusals.trans refusals₁.symm) stand

/-- What can be made is what is computed. -/
theorem Makes.makeFiles_eq (makes : Makes engine root d jobs paths d') :
    makeFiles engine root jobs d = (.ok paths, madeEvents jobs paths, d') := by
  induction makes with
  | nil => rfl
  | cons rendered written _ ih =>
    rw [makeFiles, rendered]
    simp only [written, ih]
    rfl

end

/-! ## Whole runs -/

/-- The run in which all files of a merged model are made. -/
theorem Makes.generate_eq {engine : Engine} {base : FilePath} {config : Config}
    {fragments : List Fragment} {merged : Merged} {paths : List FilePath} {d d' : Disk}
    (merges : mergeFragments config.markerKey fragments = .ok merged)
    (checked : checkPaths (config.outputPath base) [] (claims merged.model) = .ok ())
    (makes : Makes engine (config.outputPath base) d (plan merged.model config.fallbackSchema)
      paths d') :
    generate engine base config (.ok fragments) d =
      ⟨.ok ⟨merged.model.entities.size, paths, merged.collisions⟩,
        preparing fragments merged ++
          madeEvents (plan merged.model config.fallbackSchema) paths ++
          [.stage (.done merged.model.entities.size)], d'⟩ := by
  simp only [generate, proceed, merges, finish, checked, makes.makeFiles_eq]
  simp [failure, opening, preparing]

/-- **A run that succeeded is repeated** on the disk that it left: its result, its
events and the disk are the same. -/
theorem generate_again {engine : Engine} {base : FilePath} {config : Config}
    {fragments : List Fragment} {merged : Merged} {paths : List FilePath} {d d' : Disk}
    (tree : d.Tree) (merges : mergeFragments config.markerKey fragments = .ok merged)
    (checked : checkPaths (config.outputPath base) [] (claims merged.model) = .ok ())
    (makes : Makes engine (config.outputPath base) d (plan merged.model config.fallbackSchema)
      paths d') :
    generate engine base config (.ok fragments) d' =
      generate engine base config (.ok fragments) d := by
  obtain ⟨tree', refusals, _⟩ := makes.tree tree
  have delivers := makes.delivers (tree.linkFree.linkFreeBelow _)
    (makes.paths_of_checked checked).2
  have again := makes.again tree tree' (.refl d') refusals delivers.files
  rw [again.generate_eq merges checked, makes.generate_eq merges checked]

end Generation

end SchemaGen
