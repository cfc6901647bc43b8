import SchemaGen.Proofs.Output.Placement
import SchemaGen.Proofs.Text.Lowering

/-!
# Which names make output files

A path is given for exactly the names that are not empty and have no slash, dots or
not (`pathFor_eq`). The guard looks at the file name, not at the entity, and passes over
idle segments; it comes to the same because lower-casing keeps slashes and no file name
ends in one. The path then stands right below the directory of its kind, and two paths
below one root are the same for one kind and one lower-case form only
(`pathFor_guards`).
-/

namespace SchemaGen

open SchemaGen.File

/-- The name makes file names: there is something in it, and no slash. -/
def Nameable (entity : String) : Prop :=
  entity ≠ "" ∧ '/' ∉ entity.toList

instance (entity : String) : Decidable (Nameable entity) :=
  inferInstanceAs (Decidable (_ ∧ _))

namespace OutputKind

variable {kind other : OutputKind} {root : FilePath} {entity name : String}

/-- Where the file for an entity stands, if its name is a good one. -/
def target (kind : OutputKind) (root : FilePath) (entity : String) : FilePath :=
  (root.join kind.directory).join (kind.fileName entity)

/-! ## File names -/

theorem mem_fileName_iff : '/' ∈ (kind.fileName entity).toList ↔ '/' ∈ entity.toList := by
  have ending : '/' ∉ kind.ending.toList := by cases kind <;> decide
  rw [fileName, String.toList_append, List.mem_append, Text.mem_lower_iff]
  simp [ending]

/-- File names of one kind are the same for one lower-case form only. -/
theorem fileName_eq_iff :
    kind.fileName entity = kind.fileName name ↔ Text.lower entity = Text.lower name := by
  constructor
  · intro same
    have chars := congrArg String.toList same
    simp only [fileName, String.toList_append] at chars
    exact String.toList_inj.mp (List.append_cancel_right chars)
  · intro same
    simp only [fileName, same]

/-- A file name without slashes is one component. -/
theorem components_fileName (plain : '/' ∉ entity.toList) :
    (FilePath.mk (kind.fileName entity)).components = [.name (kind.fileName entity).toList] := by
  have slashFree : '/' ∉ (kind.fileName entity).toList := fun slash =>
    plain (mem_fileName_iff.mp slash)
  have relative := FilePath.isAbsolute_of_not_mem slashFree
  have named := kind.isName_fileName entity
  have segments : (FilePath.mk (kind.fileName entity)).segments =
      [(kind.fileName entity).toList] := FilePath.splitSlashes_of_not_mem slashFree
  simp [FilePath.components, segments, relative, named.2.1, named.component?_eq]

theorem isPlainName_fileName_iff :
    isPlainName (kind.fileName entity) = true ↔ '/' ∉ entity.toList := by
  constructor
  · intro plain slash
    obtain ⟨xs, c, ends, notSlash, notDot⟩ := kind.fileName_concat entity
    exact not_mem_of_isPlainName ends notSlash notDot plain (mem_fileName_iff.mpr slash)
  · intro plain
    simp [isPlainName, components_fileName plain]

/-! ## Paths -/

/-- **A path is given for nameable entities**, and all others are unsafe. -/
theorem pathFor_eq (kind : OutputKind) (root : FilePath) (entity : String) :
    kind.pathFor root entity =
      if Nameable entity then .ok (kind.target root entity) else .error (.unsafePath entity) := by
  have refused : (entity.isEmpty || !isPlainName (kind.fileName entity)) = true ↔
      ¬ Nameable entity := by
    rw [Bool.or_eq_true, Bool.not_eq_true', ← Bool.not_eq_true, isPlainName_fileName_iff,
      String.isEmpty_iff, Nameable, ne_eq, Decidable.not_and_iff_not_or_not, Decidable.not_not,
      Decidable.not_not]
  unfold pathFor
  by_cases safe : Nameable entity
  · rw [if_neg (by simpa [refused] using safe), if_pos safe]
    rfl
  · rw [if_pos (refused.mpr safe), if_neg safe]

theorem pathFor_eq_ok_iff {path : FilePath} :
    kind.pathFor root entity = .ok path ↔ Nameable entity ∧ path = kind.target root entity := by
  rw [pathFor_eq]
  by_cases safe : Nameable entity
  · simp [safe, eq_comm]
  · simp [safe]

/-- The file stands two names below the root. -/
theorem components_target (safe : Nameable entity) :
    (kind.target root entity).components =
      root.components ++ [.name kind.directory.toList, .name (kind.fileName entity).toList] := by
  have slashFree : '/' ∉ (kind.fileName entity).toList := fun slash =>
    safe.2 (mem_fileName_iff.mp slash)
  rw [target,
    FilePath.components_join_name _ slashFree (kind.isName_fileName entity).component?_eq,
    FilePath.components_join_name _ kind.not_mem_directory kind.isName_directory.component?_eq]
  simp

theorem parent?_target (safe : Nameable entity) :
    (kind.target root entity).parent? = some (root.join kind.directory) := by
  have slashFree : '/' ∉ (kind.fileName entity).toList := fun slash =>
    safe.2 (mem_fileName_iff.mp slash)
  refine FilePath.parent?_join (FilePath.segments_join root kind.not_mem_directory) ?_ slashFree ?_
  · simp [kind.isName_directory.component?_eq]
  · simp [(kind.isName_fileName entity).component?_eq]

theorem directory_inj : kind.directory = other.directory ↔ kind = other := by
  cases kind <;> cases other <;> decide

/-- **Paths are told apart** by their kinds and the lower-case forms of their names, even
component by component. -/
theorem components_target_inj (safe : Nameable entity) (safe' : Nameable name) :
    (other.target root name).components = (kind.target root entity).components ↔
      other = kind ∧ Text.lower name = Text.lower entity := by
  rw [components_target safe, components_target safe', List.append_cancel_left_eq]
  constructor
  · intro same
    simp only [List.cons.injEq, Component.name.injEq, String.toList_inj, and_true] at same
    obtain ⟨directories, files⟩ := same
    obtain rfl := directory_inj.mp directories
    exact ⟨rfl, fileName_eq_iff.mp files⟩
  · rintro ⟨rfl, same⟩
    rw [fileName_eq_iff.mpr same]

theorem target_inj (safe : Nameable entity) (safe' : Nameable name) :
    other.target root name = kind.target root entity ↔
      other = kind ∧ Text.lower name = Text.lower entity := by
  constructor
  · intro same
    exact (components_target_inj safe safe').mp (congrArg FilePath.components same)
  · rintro ⟨rfl, same⟩
    rw [target, target, fileName_eq_iff.mpr same]

/-- Only nameable texts have nameable lower-case forms. -/
theorem nameable_of_lower (same : Text.lower name = Text.lower entity) (safe : Nameable entity) :
    Nameable name := by
  constructor
  · intro empty
    exact safe.1 (Text.lower_eq_empty_iff.mp (same ▸ Text.lower_eq_empty_iff.mpr empty))
  · intro slash
    have lowered := Text.mem_lower_iff.mpr slash
    rw [same] at lowered
    exact safe.2 (Text.mem_lower_iff.mp lowered)

/-! ## The guard -/

/-- The path stands right below the directory of its kind, whatever the name. -/
structure Contained (kind : OutputKind) (root : FilePath) (entity : String) (path : FilePath) :
    Prop where
  joined : path = (root.join kind.directory).join (Text.lower entity ++ kind.ending)
  /-- The file name has no slash, is no dots that lead elsewhere, and begins at no root. -/
  slashFree : '/' ∉ (Text.lower entity ++ kind.ending).toList
  named : IsName (Text.lower entity ++ kind.ending).toList
  relative : (FilePath.mk (Text.lower entity ++ kind.ending)).isAbsolute = false
  /-- It is one component, and the last one of the path. -/
  single : (FilePath.mk (Text.lower entity ++ kind.ending)).components =
    [.name (Text.lower entity ++ kind.ending).toList]
  components : path.components = root.components ++
    [.name kind.directory.toList, .name (Text.lower entity ++ kind.ending).toList]
  parent : path.parent? = some (root.join kind.directory)

theorem contained_target (safe : Nameable entity) :
    Contained kind root entity (kind.target root entity) where
  joined := rfl
  slashFree slash := safe.2 (mem_fileName_iff.mp slash)
  named := kind.isName_fileName entity
  relative := FilePath.isAbsolute_of_not_mem fun slash => safe.2 (mem_fileName_iff.mp slash)
  single := components_fileName safe.2
  components := components_target safe
  parent := parent?_target safe

/-- **The guard of paths.** A path is given just for names that are not empty and have no
slash. It stands right below the directory of its kind, and another name or kind has the
same path, or one with the same components, just if the kind is the same and the name is
in lower case. -/
theorem pathFor_guards (kind : OutputKind) (root : FilePath) (entity : String) :
    ((∃ path, kind.pathFor root entity = .ok path) ↔ entity ≠ "" ∧ '/' ∉ entity.toList) ∧
    (¬ (entity ≠ "" ∧ '/' ∉ entity.toList) →
      kind.pathFor root entity = .error (.unsafePath entity)) ∧
    ∀ path, kind.pathFor root entity = .ok path →
      Contained kind root entity path ∧
      ∀ (other : OutputKind) (name : String),
        (other.pathFor root name = .ok path ↔
          other = kind ∧ Text.lower name = Text.lower entity) ∧
        ∀ path', other.pathFor root name = .ok path' →
          (path'.components = path.components ↔
            other = kind ∧ Text.lower name = Text.lower entity) := by
  refine ⟨?_, ?_, ?_⟩
  · simp [pathFor_eq_ok_iff, Nameable]
  · intro bad
    rw [pathFor_eq]
    exact if_neg bad
  · intro path found
    obtain ⟨safe, rfl⟩ := pathFor_eq_ok_iff.mp found
    refine ⟨contained_target safe, fun other name => ⟨?_, ?_⟩⟩
    · rw [pathFor_eq_ok_iff]
      constructor
      · rintro ⟨safe', same⟩
        exact (target_inj safe safe').mp same.symm
      · rintro ⟨rfl, same⟩
        have safe' := nameable_of_lower same safe
        exact ⟨safe', ((target_inj safe safe').mpr ⟨rfl, same⟩).symm⟩
    · intro path' found'
      obtain ⟨safe', rfl⟩ := pathFor_eq_ok_iff.mp found'
      exact components_target_inj safe safe'

theorem pathFor_guards_dots :
    OutputKind.sourceModel.pathFor ⟨"out/./"⟩ ".." = .ok ⟨"out/./python/.._model.py"⟩ ∧
    OutputKind.tableDefinition.pathFor ⟨"out/./"⟩ ".." = .ok ⟨"out/./sql/.._table.sql"⟩ ∧
    Contained .sourceModel ⟨"out/./"⟩ ".." ⟨"out/./python/.._model.py"⟩ ∧
    (OutputKind.tableDefinition.pathFor ⟨"out/./"⟩ ".." = .ok ⟨"out/./python/.._model.py"⟩ ↔
      OutputKind.tableDefinition = .sourceModel ∧ Text.lower ".." = Text.lower "..") ∧
    ((FilePath.mk "out/./sql/.._table.sql").components =
        (FilePath.mk "out/./python/.._model.py").components ↔
      OutputKind.tableDefinition = .sourceModel ∧ Text.lower ".." = Text.lower "..") := by
  have found : OutputKind.sourceModel.pathFor ⟨"out/./"⟩ ".." =
      .ok ⟨"out/./python/.._model.py"⟩ := pathFor_eq_ok_iff.mpr ⟨by decide, by decide +kernel⟩
  have found' : OutputKind.tableDefinition.pathFor ⟨"out/./"⟩ ".." =
      .ok ⟨"out/./sql/.._table.sql"⟩ := pathFor_eq_ok_iff.mpr ⟨by decide, by decide +kernel⟩
  obtain ⟨contained, apart⟩ := (pathFor_guards .sourceModel ⟨"out/./"⟩ "..").2.2 _ found
  obtain ⟨given, components⟩ := apart .tableDefinition ".."
  exact ⟨found, found', contained, given, components _ found'⟩

/-- Dots alone make a name. Dots and slashes do not, even those that a path passes over. -/
example : Nameable "." ∧ Nameable ".." ∧
    ∀ entity ∈ ["", "./x", "x/.", "//x", "x//"], ¬ Nameable entity := by
  decide

end OutputKind

end SchemaGen
