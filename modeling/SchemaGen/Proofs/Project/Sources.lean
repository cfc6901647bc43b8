import SchemaGen.Proofs.File.TreeWalks
import SchemaGen.Proofs.Project.Validity

/-!
# What a project is read from

An execution reads the configuration file, the files below the template directory
and the schema files, and nothing else: on two trees on which these are the same
(`SameSources`), if they can all be read, the same configuration, the same
library and the same fragments are found (`Config.load_eq`,
`loadTemplates_eq`, `Search.load_eq`).
-/

namespace SchemaGen

open SchemaGen.File

/-! ## Walks that are gone through -/

/-- Directories on a walk are passed over in a search. -/
theorem Search.collect_leaves (s : Search) (d : Disk) (visits : List Visit) :
    s.collect d (visits.filter Visit.isLeaf) = s.collect d visits := by
  unfold Search.collect
  induction visits with
  | nil => rfl
  | cons visit rest ih =>
    cases visit with
    | directory p =>
      rw [List.filter_cons_of_neg (by simp [Visit.isLeaf]), ih]
      rfl
    | fault cause => rfl
    | file p =>
      rw [List.filter_cons_of_pos rfl]
      unfold collectWith
      rw [ih]

/-- A search looks into the files with its extension only. -/
theorem Search.collect_congr {s : Search} {d e : Disk} {visits : List Visit}
    (same : ∀ p, .file p ∈ visits → s.accepts p = true → s.fragment? d p = s.fragment? e p) :
    s.collect d visits = s.collect e visits := by
  unfold Search.collect
  induction visits with
  | nil => rfl
  | cons visit rest ih =>
    have others := ih fun p member => same p (List.mem_cons_of_mem _ member)
    cases visit with
    | directory p => exact others
    | fault cause => rfl
    | file p =>
      unfold collectWith
      split
      · rename_i accepted
        rw [same p List.mem_cons_self accepted, others]
      · exact others

namespace Template.Library

/-- Directories on a walk give no templates. -/
theorem collect_leaves (d : Disk) (dir : FilePath) (l : Library) (visits : List Visit) :
    collect d dir l (visits.filter Visit.isLeaf) = collect d dir l visits := by
  induction visits generalizing l with
  | nil => rfl
  | cons visit rest ih =>
    cases visit with
    | directory p =>
      rw [List.filter_cons_of_neg (by simp [Visit.isLeaf]), ih]
      rfl
    | fault cause => rfl
    | file p =>
      rw [List.filter_cons_of_pos rfl]
      unfold collect
      simp only [ih]

/-- A library is loaded from the texts of the files. -/
theorem collect_congr {d e : Disk} {dir : FilePath} {l : Library} {visits : List Visit}
    (same : ∀ p, .file p ∈ visits → d.readText p = e.readText p) :
    collect d dir l visits = collect e dir l visits := by
  induction visits generalizing l with
  | nil => rfl
  | cons visit rest ih =>
    have others := fun l => ih (l := l) fun p member => same p (List.mem_cons_of_mem _ member)
    cases visit with
    | directory p => exact others l
    | fault cause => rfl
    | file p =>
      unfold collect
      rw [same p List.mem_cons_self]
      simp only [others]

end Template.Library

/-! ## Files that are the same -/

namespace File.Disk

/-- The path leads to the same place on both disks, and the files there and below
are the same. -/
structure SameFilesAt (d e : Disk) (p : FilePath) : Prop where
  place : e.locate true p = d.locate true p
  files : ∀ place, d.locate true p = .ok place → ∀ rest bytes,
    d.get? (place ++ rest) = some (.file bytes) ↔ e.get? (place ++ rest) = some (.file bytes)

variable {d e : Disk} {p : FilePath} {loc : Location}

theorem SameFilesAt.samePlaces (same : d.SameFilesAt e p) (located : d.locate true p = .ok loc) :
    d.SameFilePlaces e loc :=
  fun rest => exists_congr fun bytes => same.files loc located rest bytes

/-- On two trees the files that a walk meets read the same if they are the same. -/
theorem SameFilesAt.readText_eq (same : d.SameFilesAt e p) (tree : d.Tree) (tree' : e.Tree)
    (located : d.locate true p = .ok loc) (sound : ∀ cause, .fault cause ∉ d.walk p)
    (sound' : ∀ cause, .fault cause ∉ e.walk p) {q : FilePath} (met : .file q ∈ d.walk p) :
    d.readText q = e.readText q := by
  obtain ⟨rest, bytes, rfl, file⟩ := tree.exists_of_file_mem located met
  have file' := (same.files loc located rest bytes).mp file
  exact readText_congr (tree.lookup_eq_of_file tree' located (same.place.trans located) file file'
    sound sound')

theorem Grows.pathExists {d' : Disk} (grows : d.Grows d') (there : d.pathExists p = true) :
    d'.pathExists p = true := by
  obtain ⟨item, found⟩ := pathExists_iff.mp there
  obtain ⟨loc, located, stands⟩ := lookup_eq_ok_iff.mp found
  obtain ⟨item', stands', _⟩ := grows.there stands
  exact pathExists_iff.mpr
    ⟨item', lookup_eq_ok_iff.mpr ⟨loc, grows.locate located stands, stands'⟩⟩

end File.Disk

/-! ## Templates that are the same -/

theorem Template.Library.ofDirectory_eq {d e : Disk} {dir : FilePath}
    (same : d.SameFilesAt e dir) (tree : d.Tree) (tree' : e.Tree)
    (there : d.isDirectory dir = true) (there' : e.isDirectory dir = true)
    (sound : ∀ cause, .fault cause ∉ d.walk dir) (sound' : ∀ cause, .fault cause ∉ e.walk dir) :
    ofDirectory d dir = ofDirectory e dir := by
  obtain ⟨place, located, inside⟩ := Disk.isDirectory_iff.mp there
  obtain ⟨place', located', inside'⟩ := Disk.isDirectory_iff.mp there'
  obtain rfl := Except.ok.inj ((same.place.trans located).symm.trans located')
  have leaves := tree.walk_agree tree' (same.samePlaces located) located located' sound sound'
  rw [ofDirectory, if_pos there, ofDirectory, if_pos there']
  calc collect d dir {} (d.walk dir)
      = collect e dir {} (d.walk dir) :=
        collect_congr fun q met => same.readText_eq tree tree' located sound sound' met
    _ = collect e dir {} ((d.walk dir).filter Visit.isLeaf) := (collect_leaves e dir {} _).symm
    _ = collect e dir {} ((e.walk dir).filter Visit.isLeaf) := by rw [leaves]
    _ = collect e dir {} (e.walk dir) := collect_leaves e dir {} _

theorem Project.loadTemplates_eq {d e : Disk} {dir : FilePath}
    (same : Template.Library.ofDirectory d dir = Template.Library.ofDirectory e dir) :
    loadTemplates d dir = loadTemplates e dir := by
  rw [loadTemplates, loadTemplates, same]

/-! ## Schema files that are the same -/

namespace Search

variable {s : Search} {d e : Disk} {root : FilePath}

/-- The path leads to the same place on both disks, files stand at the same places
there and below, and those that bear fragments bear the same. What other files
hold may differ. -/
structure SameSchemas (s : Search) (d e : Disk) (root : FilePath) : Prop where
  place : e.locate true root = d.locate true root
  files : ∀ place, d.locate true root = .ok place → d.SameFilePlaces e place
  fragments : ∀ place, d.locate true root = .ok place → ∀ rest bytes,
    d.get? (place ++ rest) = some (.file bytes) → s.accepts (root.below rest) = true →
    ∀ f, s.fragment? d (root.below rest) = .ok (some f) ↔
      s.fragment? e (root.below rest) = .ok (some f)

/-- The same files bear the same fragments, where they can be walked. -/
theorem sameSchemas_of_sameFilesAt (same : d.SameFilesAt e root) (tree : d.Tree) (tree' : e.Tree)
    (sound : ∀ cause, .fault cause ∉ d.walk root) (sound' : ∀ cause, .fault cause ∉ e.walk root) :
    s.SameSchemas d e root where
  place := same.place
  files place located := same.samePlaces located
  fragments place located rest bytes file accepted f := by
    have file' := (same.files place located rest bytes).mp file
    have found := tree.lookup_eq_of_file tree' located (same.place.trans located) file file'
      sound sound'
    rw [fragment?_congr (Disk.readText_congr found)]

/-- Two searches find the same, with the same log, if they look into the same
files and these bear the same. -/
theorem load_eq (tree : d.Tree) (tree' : e.Tree) (place : e.locate true root = d.locate true root)
    (files : ∀ place, d.locate true root = .ok place → d.SameFilePlaces e place)
    (there : d.pathExists root = true) (there' : e.pathExists root = true)
    (sound : ∀ cause, .fault cause ∉ d.walk root) (sound' : ∀ cause, .fault cause ∉ e.walk root)
    (same : ∀ q, .file q ∈ d.walk root → .file q ∈ e.walk root → s.accepts q = true →
      s.fragment? d q = s.fragment? e q) : s.load d root = s.load e root := by
  obtain ⟨item, found⟩ := Disk.pathExists_iff.mp there
  obtain ⟨item', found'⟩ := Disk.pathExists_iff.mp there'
  obtain ⟨loc, located, stands⟩ := Disk.lookup_eq_ok_iff.mp found
  obtain ⟨loc', located', stands'⟩ := Disk.lookup_eq_ok_iff.mp found'
  obtain rfl := Except.ok.inj ((place.trans located).symm.trans located')
  have leaves := tree.walk_agree tree' (files _ located) located located' sound sound'
  have met : ∀ q, .file q ∈ d.walk root → .file q ∈ e.walk root := by
    intro q member
    have leaf : .file q ∈ (d.walk root).filter Visit.isLeaf := List.mem_filter.mpr ⟨member, rfl⟩
    rw [leaves] at leaf
    exact (List.mem_filter.mp leaf).1
  have collected : s.collect d (d.walk root) = s.collect e (e.walk root) :=
    calc s.collect d (d.walk root)
        = s.collect e (d.walk root) := collect_congr fun q member => same q member (met q member)
      _ = s.collect e ((d.walk root).filter Visit.isLeaf) := (collect_leaves s e _).symm
      _ = s.collect e ((e.walk root).filter Visit.isLeaf) := by rw [leaves]
      _ = s.collect e (e.walk root) := collect_leaves s e _
  have discovered : s.discover d root = s.discover e root := by
    rw [discover, if_pos there, discover, if_pos there', collected]
  rw [load, load, discovered]

end Search

/-! ## Configurations that are the same -/

theorem Config.load_eq {d e : Disk} {base : FilePath} (env : Environment)
    (same : ∀ item, d.lookup (base.join fileName) = .ok item ↔
      e.lookup (base.join fileName) = .ok item) : load d env base = load e env base := by
  have read : ofFile d base = ofFile e base := by
    unfold ofFile
    by_cases there : d.pathExists (base.join fileName) = true
    · obtain ⟨item, found⟩ := Disk.pathExists_iff.mp there
      have found' := (same item).mp found
      have there' := Disk.pathExists_iff.mpr ⟨item, found'⟩
      rw [if_pos there, if_pos there', Disk.readText_congr (found.trans found'.symm)]
    · have absent : ¬ e.pathExists (base.join fileName) = true := by
        intro there'
        obtain ⟨item, found'⟩ := Disk.pathExists_iff.mp there'
        exact there (Disk.pathExists_iff.mpr ⟨item, (same item).mpr found'⟩)
      rw [if_neg there, if_neg absent]
  unfold load
  rw [read]

/-! ## What is logged of the sources -/

/-- An override is logged in its own words, if it is one. -/
theorem Config.exists_lines_override (env : Environment) (sofar : Config × List LogLine)
    (o : Setting × String × String) :
    ∃ lines, (override env sofar o).2 = sofar.2 ++ lines ∧
      ∀ line ∈ lines, line.message = o.2.2 := by
  unfold override
  dsimp only
  split
  · exact ⟨_, rfl, by simp⟩
  · exact ⟨[], by simp⟩

/-- A configuration is loaded with a line on its file, if there is one, and lines on
what is overridden. -/
theorem Config.exists_lines_load (d : Disk) (env : Environment) (base : FilePath) :
    ∃ lines, (load d env base).2 = (ofFile d base).2 ++ lines ∧
      ∀ line ∈ lines, line.message ∈ overrides.map (·.2.2) := by
  have overridden : ∀ (os : List (Setting × String × String)) sofar, os ⊆ overrides →
      ∃ lines, (os.foldl (override env) sofar).2 = sofar.2 ++ lines ∧
        ∀ line ∈ lines, line.message ∈ overrides.map (·.2.2) := by
    intro os
    induction os with
    | nil => exact fun _ _ => ⟨[], by simp⟩
    | cons o rest ih =>
      intro sofar within
      obtain ⟨own, rest⟩ := List.cons_subset.mp within
      obtain ⟨first, one, words⟩ := exists_lines_override env sofar o
      obtain ⟨others, more, words'⟩ := ih (override env sofar o) rest
      refine ⟨first ++ others, by rw [List.foldl_cons, more, one, List.append_assoc], ?_⟩
      refine List.forall_mem_append.mpr ⟨fun line member => ?_, words'⟩
      exact words line member ▸ List.mem_map_of_mem own
  unfold load
  cases ofFile d base with
  | mk result start =>
    cases result with
    | error e => exact ⟨[], by simp⟩
    | ok config => exact overridden overrides (config, start) (List.Subset.refl _)

theorem Config.lines_ofFile (d : Disk) (base : FilePath) :
    (ofFile d base).2 =
      if d.pathExists (base.join fileName) then [loadingLine (base.join fileName)] else [] := by
  unfold ofFile
  dsimp only
  split <;> rfl

theorem Template.Library.level_collect {d : Disk} {dir : FilePath} {l : Library}
    {visits : List Visit} : ∀ line ∈ (collect d dir l visits).2, line.level = .debug := by
  induction visits generalizing l with
  | nil => nofun
  | cons visit rest ih =>
    cases visit with
    | fault cause => nofun
    | directory p => exact ih
    | file p =>
      unfold collect
      split
      · nofun
      · dsimp only
        split
        · simp [loadedLine]
        · exact List.forall_mem_cons.mpr ⟨rfl, ih⟩

/-- Templates are logged for who wants to know. -/
theorem Project.level_loadTemplates {d : Disk} {dir : FilePath} :
    ∀ line ∈ (loadTemplates d dir).2, line.level = .debug := by
  have loaded : ∀ line ∈ (Template.Library.ofDirectory d dir).2, line.level = .debug := by
    unfold Template.Library.ofDirectory
    split
    · exact Template.Library.level_collect
    · nofun
  unfold loadTemplates
  generalize Template.Library.ofDirectory d dir = ofDirectory at loaded ⊢
  obtain ⟨result, lines⟩ := ofDirectory
  cases result with
  | error e => exact loaded
  | ok library =>
    dsimp only
    split
    · exact loaded
    · exact List.forall_mem_append.mpr ⟨loaded, by simp [readyLine]⟩

theorem Project.lines_loadTemplates_ne_nil {d : Disk} {dir : FilePath}
    {library : Template.Library} (ready : (loadTemplates d dir).1 = .ok library) :
    (loadTemplates d dir).2 ≠ [] := by
  unfold loadTemplates at ready ⊢
  generalize Template.Library.ofDirectory d dir = ofDirectory at ready ⊢
  obtain ⟨result, lines⟩ := ofDirectory
  cases result with
  | error e => cases ready
  | ok loaded =>
    dsimp only at ready ⊢
    split at ready
    · cases ready
    · simp

end SchemaGen
