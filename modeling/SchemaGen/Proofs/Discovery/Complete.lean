import SchemaGen.Proofs.Discovery.OneFile
import SchemaGen.Proofs.Discovery.Unseen

/-!
# What a search promises

A search of a directory finds every fragment below it, in the order of the paths, or
stops at the first path in that order that is in its way (`discover_complete`). It
sees neither the order in which a directory is listed nor files with another
extension. Directories are in its way too when their paths are too long
(`discover_corridor`).
-/

namespace SchemaGen

open SchemaGen.File
open SchemaGen.Yaml (Value)

namespace Search

variable {s : Search} {d : Disk} {root : FilePath}

private theorem load_fst (s : Search) (d : Disk) (root : FilePath) :
    (s.load d root).1 = match (s.discover d root).1 with
      | .ok [] => .error (.noFragments root s.marker)
      | found => found := by
  unfold load
  rcases s.discover d root with ⟨_ | ⟨_ | _⟩, lines⟩ <;> rfl

theorem load_eq_ok_iff {fragments : List Fragment} :
    (s.load d root).1 = .ok fragments ↔
      (s.discover d root).1 = .ok fragments ∧ fragments ≠ [] := by
  rw [load_fst]
  rcases (s.discover d root).1 with _ | ⟨_ | ⟨f, others⟩⟩
  · simp
  · simp only [Except.ok.injEq, reduceCtorEq, false_iff, not_and, not_not]
    exact Eq.symm
  · simp only [Except.ok.injEq]
    exact ⟨fun same => ⟨same, same ▸ List.cons_ne_nil f others⟩, And.left⟩

theorem load_eq_error_iff {e : Error} :
    (s.load d root).1 = .error e ↔ (s.discover d root).1 = .error e ∨
      (s.discover d root).1 = .ok [] ∧ e = .noFragments root s.marker := by
  rw [load_fst]
  rcases (s.discover d root).1 with _ | ⟨_ | _⟩
  · simp
  · simp [eq_comm]
  · simp

/-- **A search is complete, in order and to the point.** It takes what is sought, each
path once and in order, unless something is in its way; then it reports what comes
first. Of directories and links only those are in its way whose path is too long, that the
system does not let be listed, or that cannot be followed. It does not matter in which
order directories are listed, nor which files without the extension there are. Where a
fragment is asked for, finding none is an error. -/
theorem discover_complete (formed : d.WellFormed) (free : d.LoopFree root)
    (there : d.pathExists root = true) (dotFree : '.' ∉ s.extension.toList) :
    (∀ fragments, (s.discover d root).1 = .ok fragments ↔
      (∀ p e, ¬ s.Obstacle d root p e) ∧ fragments.Pairwise (·.path.Before ·.path) ∧
        ∀ f, f ∈ fragments ↔ s.Sought d root f) ∧
    ((∃ e, (s.discover d root).1 = .error e) ↔ ∃ p e, s.Obstacle d root p e) ∧
    (∀ e, (s.discover d root).1 = .error e ↔ ∃ p, s.FirstObstacle d root p e) ∧
    (∀ cause, d.Meets root (.fault cause) → d.Bars cause.path cause) ∧
    (∀ d' : Disk, d'.home = d.home → d'.closed = d.closed → d'.items.Perm d.items →
      (s.discover d' root).1 = (s.discover d root).1) ∧
    (∀ d' : Disk, d'.WellFormed → d.isDirectory root = true → s.SameBut d d' root →
      (s.discover d' root).1 = (s.discover d root).1) ∧
    (∀ fragments, (s.load d root).1 = .ok fragments ↔
      (s.discover d root).1 = .ok fragments ∧ fragments ≠ []) ∧
    ∀ e, (s.load d root).1 = .error e ↔ (s.discover d root).1 = .error e ∨
      (s.discover d root).1 = .ok [] ∧ e = .noFragments root s.marker := by
  have found := discover_eq_ok_iff formed free dotFree there
  have stopped := discover_eq_error_iff formed free dotFree there
  refine ⟨found, ?_, stopped, fun cause => formed.bars_of_meets there,
    fun d' => discover_eq_of_perm formed free dotFree,
    fun d' formed' directory => discover_eq_of_sameBut formed free dotFree formed' directory,
    fun fragments => load_eq_ok_iff, fun e => load_eq_error_iff⟩
  constructor
  · rintro ⟨e, failed⟩
    obtain ⟨p, obstacle, _⟩ := (stopped e).mp failed
    exact ⟨p, e, obstacle⟩
  · rintro ⟨p, e, obstacle⟩
    cases result : (s.discover d root).1 with
    | error e' => exact ⟨e', rfl⟩
    | ok fragments => exact absurd obstacle (((found fragments).mp result).1 p e)

end Search

/-! ## A directory with a link -/

/-- A schema directory with a directory, a link and perhaps some notes in it. -/
def archive (notes : List String) : Disk :=
  { items :=
      [(["work"], .directory), (["work", "schemas"], .directory),
        (["work", "schemas", "a"], .directory),
        (["work", "schemas", "a", "x.yaml"], .file "{? botecopro_domain : {}}".toUTF8),
        (["work", "schemas", "a-b.yaml"], .file "{? botecopro_domain : {}}".toUTF8),
        (["work", "schemas", "b.yaml"], .link "a/x.yaml")] ++
      notes.map fun text => (["work", "schemas", "notes.txt"], .file text.toUTF8)
    home := ["work"] }

namespace Archive

theorem wellFormed_draft : (archive ["draft"]).WellFormed := by
  decide

theorem wellFormed_empty : (archive []).WellFormed := by
  decide

theorem loopFree : (archive ["draft"]).LoopFree ⟨"schemas"⟩ := by
  refine wellFormed_draft.loopFree_of_straight (fun p loc name target link located found => ?_) _
  -- The only link leads to a file.
  have listed := Disk.mem_items_of_get? link (by simp)
  obtain ⟨here, rfl⟩ : loc ++ [name] = ["work", "schemas"] ++ ["b.yaml"] ∧ target = "a/x.yaml" := by
    simpa [archive] using listed
  obtain ⟨rfl, rfl⟩ : loc = ["work", "schemas"] ∧ name = "b.yaml" := by
    simpa using List.append_inj' here rfl
  have way : Follows (archive ["draft"]) true 0 ["work", "schemas"]
      (FilePath.mk "a/x.yaml").segments ["work", "schemas", "a", "x.yaml"] :=
    Disk.follow_eq_ok_iff.mp rfl
  exact nomatch wellFormed_draft.get?_of_link link located way found

theorem locate_schemas : (archive ["draft"]).locate true ⟨"schemas"⟩ = .ok ["work", "schemas"] :=
  rfl

theorem locate_a : (archive ["draft"]).locate true ⟨"schemas/a"⟩ = .ok ["work", "schemas", "a"] :=
  rfl

/-- The link leads to the file in the directory, with the notes or without them. -/
theorem locate_b : ∀ notes ∈ [["draft"], []], (archive notes).locate true ⟨"schemas/b.yaml"⟩ =
    .ok ["work", "schemas", "a", "x.yaml"] := by
  decide +kernel

theorem lookup_b : (archive ["draft"]).lookup ⟨"schemas/b.yaml"⟩ =
    .ok (.file "{? botecopro_domain : {}}".toUTF8) :=
  Disk.lookup_eq_ok_iff.mpr ⟨_, locate_b _ List.mem_cons_self, rfl⟩

theorem walkWithin_a (fuel : Nat) (ancestors : Ancestors) :
    (archive ["draft"]).walkWithin (fuel + 1) ancestors ⟨"schemas/a"⟩ =
      [.directory ⟨"schemas/a"⟩, .file ⟨"schemas/a/x.yaml"⟩] := by
  have names : (archive ["draft"]).namesIn ["work", "schemas", "a"] = ["x.yaml"] :=
    Disk.namesIn_eq rfl (List.pairwise_singleton _ _)
  rw [Disk.walkWithin_directory rfl locate_a rfl rfl, names, List.flatMap_singleton,
    Disk.visitsAt_file rfl]
  rfl

theorem walk : (archive ["draft"]).walk ⟨"schemas"⟩ =
    [.directory ⟨"schemas"⟩, .directory ⟨"schemas/a"⟩, .file ⟨"schemas/a/x.yaml"⟩,
      .file ⟨"schemas/a-b.yaml"⟩, .file ⟨"schemas/b.yaml"⟩, .file ⟨"schemas/notes.txt"⟩] := by
  have names : (archive ["draft"]).namesIn ["work", "schemas"] =
      ["a", "a-b.yaml", "b.yaml", "notes.txt"] := Disk.namesIn_eq rfl (by decide)
  have standsA : (archive ["draft"]).get? (["work", "schemas"] ++ ["a"]) = some .directory := rfl
  have standsAB : (archive ["draft"]).get? (["work", "schemas"] ++ ["a-b.yaml"]) =
      some (.file "{? botecopro_domain : {}}".toUTF8) := rfl
  have standsB : (archive ["draft"]).get? (["work", "schemas"] ++ ["b.yaml"]) =
      some (.link "a/x.yaml") := rfl
  have standsNotes : (archive ["draft"]).get? (["work", "schemas"] ++ ["notes.txt"]) =
      some (.file "draft".toUTF8) := rfl
  have steps : ((archive ["draft"]).items.length + 2) * ((archive ["draft"]).items.length + 2) =
      79 + 1 + 1 := rfl
  rw [Disk.walk, steps, Disk.walkWithin_directory rfl locate_schemas rfl rfl, names]
  simp only [List.flatMap_cons, List.flatMap_nil]
  rw [Disk.visitsAt_directory standsA, Disk.visitsAt_file standsAB,
    Disk.visitsAt_other standsB rfl, Disk.visitsAt_file standsNotes]
  change _ :: ((archive ["draft"]).walkWithin (79 + 1) _ ⟨"schemas/a"⟩ ++ (_ ++
    ((archive ["draft"]).walkWithin (79 + 1) _ ⟨"schemas/b.yaml"⟩ ++ _))) = _
  rw [walkWithin_a, Disk.walkWithin_file (locate_b _ List.mem_cons_self) rfl]
  rfl

/-- What the archive holds: the file in the directory comes before the one whose name
begins alike, and is found once more through the link. -/
def found : List Fragment :=
  [⟨⟨"schemas/a/x.yaml"⟩, .map []⟩, ⟨⟨"schemas/a-b.yaml"⟩, .map []⟩, ⟨⟨"schemas/b.yaml"⟩, .map []⟩]

theorem discover : (Search.sample.discover (archive ["draft"]) ⟨"schemas"⟩).1 = .ok found := by
  have parsed : Search.document "{? botecopro_domain : {}}" =
      .ok (.map [(.str "botecopro_domain", .map [])]) := by
    decide +kernel
  have taken : ∀ {p : FilePath},
      (archive ["draft"]).lookup p = .ok (.file "{? botecopro_domain : {}}".toUTF8) →
        Search.sample.fragment? (archive ["draft"]) p = .ok (some ⟨p, .map []⟩) :=
    fun looked => Search.fragment?_of_parses ⟨_, Disk.readText_of_lookup looked, parsed⟩
  have first : (archive ["draft"]).lookup ⟨"schemas/a/x.yaml"⟩ = _ :=
    Disk.lookup_eq_ok_iff.mpr ⟨["work", "schemas", "a", "x.yaml"], by rfl, rfl⟩
  have second : (archive ["draft"]).lookup ⟨"schemas/a-b.yaml"⟩ = _ :=
    Disk.lookup_eq_ok_iff.mpr ⟨["work", "schemas", "a-b.yaml"], by rfl, rfl⟩
  have there : (archive ["draft"]).pathExists ⟨"schemas"⟩ = true :=
    Disk.pathExists_iff.mpr ⟨_, Disk.lookup_eq_ok_iff.mpr ⟨_, locate_schemas, rfl⟩⟩
  have accepted : Search.sample.accepts ⟨"schemas/a/x.yaml"⟩ = true ∧
      Search.sample.accepts ⟨"schemas/a-b.yaml"⟩ = true ∧
      Search.sample.accepts ⟨"schemas/b.yaml"⟩ = true ∧
      Search.sample.accepts ⟨"schemas/notes.txt"⟩ = false :=
    ⟨rfl, rfl, rfl, rfl⟩
  obtain ⟨accepted₁, accepted₂, accepted₃, refused⟩ := accepted
  rw [Search.discover, if_pos there, walk]
  simp only [Search.collect, Search.collectWith, accepted₁, accepted₂, accepted₃, refused,
    taken first, taken second, taken lookup_b, if_true, Bool.false_eq_true, if_false]
  rfl

/-- Without the notes the archive is the same for the search. -/
theorem sameBut : Search.sample.SameBut (archive ["draft"]) (archive []) ⟨"schemas"⟩ := by
  have unnamed : ∀ name, ["work", "schemas", "notes.txt"].getLast? = some name →
      ¬ Search.sample.Names name.toList := by
    rintro _ ⟨⟩ ⟨stem, _, same⟩
    have ends : ".yaml".toList <:+ "notes.txt".toList := ⟨stem, same.symm⟩
    exact absurd ends (by decide)
  refine ⟨rfl, rfl, fun loc => ?_, fun visit met link => ?_⟩
  · by_cases notes : loc = ["work", "schemas", "notes.txt"]
    · subst notes
      exact .inr ⟨⟨unnamed, by rintro _ ⟨⟩; rfl⟩, ⟨unnamed, by rintro _ ⟨⟩⟩⟩
    · left
      have other : (loc == ["work", "schemas", "notes.txt"]) = false := by simpa using notes
      simp [Disk.get?, archive, List.lookup_cons, other]
  · have member := (wellFormed_draft.mem_walk_iff loopFree).mpr met
    rw [walk] at member
    simp only [List.mem_cons, List.not_mem_nil, or_false] at member
    -- One case for each visit; only one of them ends in a link.
    rcases member with rfl | rfl | rfl | rfl | rfl | rfl
    · exact absurd link (by decide)
    · exact absurd link (by decide)
    · exact absurd link (by decide)
    · exact absurd link (by decide)
    · have located := locate_b [] (List.mem_cons_of_mem _ List.mem_cons_self)
      exact .inl ((Disk.lookup_eq_ok_iff.mpr ⟨_, located, rfl⟩).trans lookup_b.symm)
    · exact absurd link (by decide)

end Archive

/-- The archive, listed in another order or without its notes, gives the same. -/
theorem Search.discover_complete_archive :
    (sample.discover (archive ["draft"]) ⟨"schemas"⟩).1 = .ok Archive.found ∧
      Archive.found.Pairwise (·.path.Before ·.path) ∧
      (∀ p e, ¬ sample.Obstacle (archive ["draft"]) ⟨"schemas"⟩ p e) ∧
      (sample.discover { archive ["draft"] with items := (archive ["draft"]).items.reverse }
        ⟨"schemas"⟩).1 = .ok Archive.found ∧
      (sample.discover (archive []) ⟨"schemas"⟩).1 = .ok Archive.found ∧
      (sample.load (archive ["draft"]) ⟨"schemas"⟩).1 = .ok Archive.found := by
  have looked : (archive ["draft"]).lookup ⟨"schemas"⟩ = .ok .directory :=
    Disk.lookup_eq_ok_iff.mpr ⟨_, Archive.locate_schemas, rfl⟩
  have directory : (archive ["draft"]).isDirectory ⟨"schemas"⟩ = true := by
    simp [Disk.isDirectory, looked]
  obtain ⟨found, _, _, _, relisted, unseen, loaded, _⟩ :=
    discover_complete (s := sample) Archive.wellFormed_draft Archive.loopFree
      (Disk.pathExists_iff.mpr ⟨_, looked⟩) (by decide)
  obtain ⟨clear, ordered, _⟩ := (found Archive.found).mp Archive.discover
  have turned := relisted { archive ["draft"] with items := (archive ["draft"]).items.reverse } rfl
    rfl (List.reverse_perm _)
  exact ⟨Archive.discover, ordered, clear, turned.trans Archive.discover,
    (unseen _ Archive.wellFormed_empty directory Archive.sameBut).trans Archive.discover,
    (loaded _).mpr ⟨Archive.discover, by simp [Archive.found]⟩⟩

/-! ## A directory that cannot be opened -/

/-- A schema directory with an empty directory in it. -/
def corridor : Disk :=
  { items := [(["work"], .directory), (["work", "schemas"], .directory),
      (["work", "schemas", "sub"], .directory)]
    home := ["work"] }

namespace Corridor

/-- So many times "here". -/
def idle : Nat → String
  | 0 => ""
  | n + 1 => "/." ++ idle n

/-- The longest path to the schema directory that can be looked up. -/
@[irreducible]
def root : FilePath :=
  ⟨"schemas" ++ idle 2044⟩

theorem utf8ByteSize_idle (n : Nat) : (idle n).utf8ByteSize = 2 * n := by
  induction n with
  | zero => rfl
  | succ n ih =>
    rw [idle, String.utf8ByteSize_append, ih]
    have two : "/.".utf8ByteSize = 2 := rfl
    omega

theorem splitSlashes_idle {segment : List Char} (plain : '/' ∉ segment) (n : Nat) :
    FilePath.splitSlashes (segment ++ (idle n).toList) = segment :: List.replicate n ['.'] := by
  induction n generalizing segment with
  | zero => simpa [idle] using FilePath.splitSlashes_of_not_mem plain
  | succ n ih =>
    have chars : (idle (n + 1)).toList = '/' :: (['.'] ++ (idle n).toList) := by
      rw [idle, String.toList_append]
      rfl
    rw [chars, FilePath.splitSlashes_append, FilePath.splitSlashes_of_not_mem plain,
      ih (by decide)]
    rfl

theorem not_mem_idle {c : Char} (slash : c ≠ '/') (dot : c ≠ '.') (n : Nat) :
    c ∉ (idle n).toList := by
  induction n with
  | zero => simp [idle]
  | succ n ih => simp [idle, slash, dot, ih]

theorem tree : corridor.Tree := by
  decide

theorem utf8ByteSize_root : root.text.utf8ByteSize = Disk.pathLimit := by
  rw [root, String.utf8ByteSize_append, utf8ByteSize_idle]
  rfl

theorem not_mem_root {c : Char} (other : c ∉ "/.schemas".toList) : c ∉ root.text.toList := by
  have apart : c ≠ '/' ∧ c ≠ '.' ∧ c ∉ "schemas".toList := by
    simpa using other
  rw [root, String.toList_append, List.mem_append, not_or]
  exact ⟨apart.2.2, not_mem_idle apart.1 apart.2.1 2044⟩

theorem fits : root.Fits where
  filled := by
    have filled : root.text ≠ "" := fun none => by
      have size := utf8ByteSize_root
      rw [none] at size
      exact absurd size (by decide)
    simpa [String.isEmpty_iff] using filled
  noNul := not_mem_root (by decide)
  short := Nat.le_of_eq utf8ByteSize_root

theorem segments_root : root.segments = "schemas".toList :: List.replicate 2044 ['.'] := by
  rw [FilePath.segments, root, String.toList_append]
  exact splitSlashes_idle (by decide) 2044

theorem follows_idle {d : Disk} {loc : Location} (inside : d.get? loc = some .directory) (k : Nat) :
    Follows d true Disk.linkLimit loc (List.replicate k ['.']) loc := by
  induction k with
  | zero => exact .here
  | succ k ih => exact .idle inside (.inr rfl) ih

theorem locate_root : corridor.locate true root = .ok ["work", "schemas"] := by
  have start : corridor.start root = ["work"] := by
    simp [Disk.start, FilePath.isAbsolute, root, corridor]
  rw [Disk.locate_eq_ok_iff, segments_root, start]
  have there : corridor.get? (Location.under ["work"] "schemas".toList) = some .directory := rfl
  exact ⟨fits, .into rfl (by decide) (by decide) there (by simp) (follows_idle there 2044)⟩

/-- With one name more the path is too long. -/
theorem locate_sub : corridor.locate true (root.join "sub") = .error .nameTooLong := by
  have long : Disk.pathLimit < (root.join "sub").text.utf8ByteSize := by
    have longer : root.text.utf8ByteSize + "sub".utf8ByteSize ≤ _ := root.size_join (by decide)
    rw [utf8ByteSize_root] at longer
    exact Nat.lt_of_lt_of_le (by decide) longer
  have proper : ProperName "sub" := by decide
  have noNul : (root.join "sub").text.toList.contains '\x00' = false := by
    simpa using FilePath.noNul_join proper fits.noNul
  rw [Disk.locate, FilePath.filled_join root proper, noNul]
  simp only [Bool.false_eq_true, if_false, if_pos long]

theorem walk : corridor.walk root =
    [.directory root, .fault (.unreadable (root.join "sub") .nameTooLong)] := by
  have names : corridor.namesIn ["work", "schemas"] = ["sub"] :=
    Disk.namesIn_eq rfl (List.pairwise_singleton _ _)
  have steps : (corridor.items.length + 2) * (corridor.items.length + 2) = 23 + 1 + 1 := rfl
  rw [Disk.walk, steps, tree.walkWithin_directory locate_root rfl rfl, names,
    List.flatMap_singleton, Disk.visitsAt_directory rfl, Disk.walkWithin]
  simp only [locate_sub]

end Corridor

/-- **A directory whose path is too long** stops a search, though there is no file, and
no link, that could. -/
theorem Search.discover_corridor :
    corridor.WellFormed ∧ corridor.LoopFree Corridor.root ∧
      corridor.isDirectory Corridor.root = true ∧
      (∀ loc target, corridor.get? loc ≠ some (.link target)) ∧
      '.' ∉ sample.extension.toList ∧ (∀ p, ¬ corridor.Meets Corridor.root (.file p)) ∧
      (sample.discover corridor Corridor.root).1 =
        .error (.walk (.unreadable (Corridor.root.join "sub") .nameTooLong)) := by
  have free := Corridor.tree.loopFree Corridor.root
  have looked : corridor.lookup Corridor.root = .ok .directory :=
    Disk.lookup_eq_ok_iff.mpr ⟨["work", "schemas"], Corridor.locate_root, rfl⟩
  have directory : corridor.isDirectory Corridor.root = true := by
    rw [Disk.isDirectory, looked]
  refine ⟨Corridor.tree.wellFormed, free, directory, Corridor.tree.linkFree,
    by decide, fun p met => ?_, ?_⟩
  · have member := (Corridor.tree.wellFormed.mem_walk_iff free).mpr met
    rw [Corridor.walk] at member
    simp at member
  · rw [discover, if_pos (Disk.pathExists_iff.mpr ⟨_, looked⟩), Corridor.walk, collect,
      collectWith, collectWith]

end SchemaGen
