import SchemaGen.Output
import SchemaGen.Proofs.File.Growth

/-!
# Where output files stand

The path of an output file is the output root, the directory of its kind and one
plain name, so the file stands exactly two names below the place to which the
root leads (`stands_of_locate`). The links that could make it stand elsewhere
are those below the root; `Disk.LinkFreeBelow` says that there are none.
`writeOutput_ok` and `writeOutput_error` say all that writing one file does.
-/

namespace SchemaGen

open SchemaGen.File

/-! ## Plain names -/

private theorem head?_of_splitSlashes {xs segment : List Char} {more : List (List Char)}
    (split : FilePath.splitSlashes xs = [] :: segment :: more) : xs.head? = some '/' := by
  cases xs with
  | nil => simp [FilePath.splitSlashes] at split
  | cons c rest =>
    by_cases h : c = '/'
    · simp [h]
    · obtain ⟨first, others, tail⟩ := List.exists_cons_of_ne_nil (FilePath.splitSlashes_ne_nil rest)
      simp [FilePath.splitSlashes_cons h tail] at split

private theorem component?_concat {xs : List Char} {c : Char} (notDot : c ≠ '.') :
    FilePath.component? (xs ++ [c]) = some (.name (xs ++ [c])) := by
  have notHere : xs ++ [c] ≠ ['.'] := fun h => notDot (by simpa using congrArg List.getLast? h)
  have notUp : xs ++ [c] ≠ ['.', '.'] := fun h => notDot (by simpa using congrArg List.getLast? h)
  simp [FilePath.component?, notHere, notUp]

/-- A plain name that does not end in a slash or a dot has no slash at all: what
stands before a slash would be a component of its own. -/
theorem not_mem_of_isPlainName {text : String} {xs : List Char} {c : Char}
    (ends : text.toList = xs ++ [c]) (notSlash : c ≠ '/') (notDot : c ≠ '.')
    (plain : isPlainName text = true) : '/' ∉ text.toList := by
  obtain ⟨front, last, split⟩ := FilePath.splitSlashes_concat xs notSlash
  have segments : (FilePath.mk text).segments = front ++ [last ++ [c]] := by
    rw [FilePath.segments, ends, split]
  cases front with
  | nil =>
    rw [FilePath.segments] at segments
    exact (FilePath.not_mem_of_splitSlashes segments).1
  | cons first more =>
    exfalso
    -- The last segment is one component, and the first gives another one.
    have later : (more ++ [last ++ [c]]).filterMap FilePath.component? =
        more.filterMap FilePath.component? ++ [.name (last ++ [c])] := by
      simp [component?_concat notDot]
    unfold isPlainName FilePath.components at plain
    rw [segments] at plain
    simp only [List.cons_append, later] at plain
    split at plain
    · rename_i single
      by_cases absolute : (FilePath.mk text).isAbsolute = true
      · simp [absolute] at single
      · by_cases here : first = ['.']
        · simp [absolute, here] at single
        · have filled : first ≠ [] := by
            rintro rfl
            apply absolute
            rw [FilePath.segments] at segments
            cases more <;> simpa [FilePath.isAbsolute] using head?_of_splitSlashes segments
          by_cases up : first = ['.', '.']
          · simp [absolute, up, FilePath.component?] at single
          · simp [absolute, here, up, filled, FilePath.component?] at single
    · cases plain

namespace OutputKind

/-- The names of an output file below the output root. -/
def place (kind : OutputKind) (entity : String) : Location :=
  [kind.directory, kind.fileName entity]

theorem fileName_concat (kind : OutputKind) (entity : String) :
    ∃ xs c, (kind.fileName entity).toList = xs ++ [c] ∧ c ≠ '/' ∧ c ≠ '.' := by
  cases kind with
  | sourceModel =>
    refine ⟨(Text.lower entity).toList ++ "_model.p".toList, 'y', ?_, by decide, by decide⟩
    rw [fileName, String.toList_append, List.append_assoc]
    rfl
  | tableDefinition =>
    refine ⟨(Text.lower entity).toList ++ "_table.sq".toList, 'l', ?_, by decide, by decide⟩
    rw [fileName, String.toList_append, List.append_assoc]
    rfl

theorem isName_fileName (kind : OutputKind) (entity : String) :
    IsName (kind.fileName entity).toList := by
  obtain ⟨xs, c, ends, _, notDot⟩ := kind.fileName_concat entity
  rw [ends]
  exact ⟨by simp, fun h => notDot (by simpa using congrArg List.getLast? h),
    fun h => notDot (by simpa using congrArg List.getLast? h)⟩

theorem isName_directory (kind : OutputKind) : IsName kind.directory.toList := by
  cases kind <;> exact ⟨by decide, by decide, by decide⟩

theorem not_mem_directory (kind : OutputKind) : '/' ∉ kind.directory.toList := by
  cases kind <;> decide

/-- A path is given for names without slashes only. -/
theorem pathFor_eq_ok {kind : OutputKind} {root path : FilePath} {entity : String}
    (found : kind.pathFor root entity = .ok path) :
    path = (root.join kind.directory).join (kind.fileName entity) ∧
      '/' ∉ (kind.fileName entity).toList := by
  unfold pathFor at found
  split at found
  · cases found
  · rename_i safe
    simp only [Bool.or_eq_true, Bool.not_eq_true', not_or, Bool.not_eq_false] at safe
    obtain ⟨xs, c, ends, notSlash, notDot⟩ := kind.fileName_concat entity
    exact ⟨(Except.ok.inj found).symm, not_mem_of_isPlainName ends notSlash notDot safe.2⟩

/-- **The path of an output file** is the stem of the root and two names. -/
theorem segments_of_pathFor {kind : OutputKind} {root path : FilePath} {entity : String}
    (found : kind.pathFor root entity = .ok path) :
    path.segments = root.stem ++ [kind.directory.toList, (kind.fileName entity).toList] ∧
      path.isAbsolute = root.isAbsolute := by
  obtain ⟨rfl, plain⟩ := pathFor_eq_ok found
  have inner := kind.not_mem_directory
  constructor
  · rw [FilePath.segments_join _ plain, FilePath.stem_join _ inner kind.isName_directory.1]
    simp
  · rw [FilePath.isAbsolute_join _ plain, FilePath.isAbsolute_join _ inner]

/-- Different paths stand at different places below one root. -/
theorem place_inj {kind other : OutputKind} {root path path' : FilePath} {entity name : String}
    (found : kind.pathFor root entity = .ok path) (found' : other.pathFor root name = .ok path')
    (same : kind.place entity = other.place name) : path = path' := by
  simp only [place, List.cons.injEq, and_true] at same
  rw [(pathFor_eq_ok found).1, (pathFor_eq_ok found').1, same.1, same.2]

/-- **An output file stands two names below the root** where no links are, and
the path leads to it on every disk that this one grows to. -/
theorem stands_of_locate {kind : OutputKind} {root path : FilePath} {entity : String} {d : Disk}
    {loc : Location} (free : d.LinkFreeBelow root) (found : kind.pathFor root entity = .ok path)
    (located : d.locate true path = .ok loc) :
    ∃ top, d.Leads root top ∧ d.get? top = some .directory ∧ d.LinkFreeUnder top ∧
      loc = top ++ kind.place entity ∧
      ∀ d' bytes, d.Grows d' → d'.get? loc = some (.file bytes) →
        d'.locate true path = .ok loc := by
  obtain ⟨segments, absolute⟩ := segments_of_pathFor found
  obtain ⟨fits, way⟩ := Disk.locate_eq_ok_iff.mp located
  have start : ∀ d' : Disk, d'.start path = d'.start root := by simp [Disk.start, absolute]
  rw [segments, start] at way
  have plain : ∀ s ∈ [kind.directory.toList, (kind.fileName entity).toList], IsName s := by
    simp [kind.isName_directory, kind.isName_fileName entity]
  -- The way to the file is the way to the root, and the two names from there.
  obtain ⟨m, top, leads, below⟩ := way.split ⟨_, List.mem_cons_self, kind.isName_directory.1⟩
  have freeTop := free d top (.refl d) leads
  refine ⟨top, leads, below.inside, freeTop, ?_, ?_⟩
  · simpa [place] using below.of_names plain freeTop
  · intro d' bytes grows there
    rw [Disk.locate_eq_ok_iff, segments, start, grows.start]
    exact ⟨fits, (leads.grows grows below.inside).append (by simp)
      (below.names_grow plain freeTop grows there)⟩

/-- Different paths lead to different locations, where no links are. -/
theorem locate_inj {kind other : OutputKind} {root path path' : FilePath} {entity name : String}
    {d : Disk} {loc : Location} (free : d.LinkFreeBelow root)
    (found : kind.pathFor root entity = .ok path) (found' : other.pathFor root name = .ok path')
    (located : d.locate true path = .ok loc) (located' : d.locate true path' = .ok loc) :
    path = path' := by
  obtain ⟨top, leads, _, _, rfl, _⟩ := stands_of_locate free found located
  obtain ⟨top', leads', _, _, same, _⟩ := stands_of_locate free found' located'
  obtain rfl := leads.unique leads'
  exact place_inj found found' (List.append_cancel_left same)

end OutputKind

/-! ## Writing one file -/

/-- A file with the content stands at the location to which the path leads, and
apart from new directories nothing else has changed. -/
structure Writes (d d' : Disk) (path : FilePath) (content : String) (loc : Location) : Prop where
  grows : d.Grows d'
  located : d'.locate true path = .ok loc
  holds : d'.get? loc = some (.file content.toUTF8)
  others : ∀ l, l ≠ loc →
    d'.get? l = d.get? l ∨ d.get? l = none ∧ d'.get? l = some .directory

/-- Elsewhere no file is made or changed. -/
theorem Writes.file_iff {d d' : Disk} {path : FilePath} {content : String} {loc : Location}
    (writes : Writes d d' path content loc) {l : Location} (other : l ≠ loc)
    (bytes : ByteArray) : d'.get? l = some (.file bytes) ↔ d.get? l = some (.file bytes) := by
  rcases writes.others l other with same | ⟨absent, made⟩
  · rw [same]
  · rw [absent, made]
    simp

theorem writeInPlace_ok {d d' : Disk} {p : FilePath} {content : String}
    (written : writeInPlace d p content = (.ok (), d')) :
    d.writeBytes p content.toUTF8 = .ok d' := by
  unfold writeInPlace at written
  split at written
  · rename_i done
    rw [done, (Prod.mk.inj written).2]
  · cases written

theorem writeInPlace_error {d d' : Disk} {p : FilePath} {content : String} {e : Error}
    (failed : writeInPlace d p content = (.error e, d')) :
    d' = d ∧ ∃ fault, e = .writeFailed p fault := by
  unfold writeInPlace at failed
  split at failed
  · cases failed
  · rename_i fault _
    obtain ⟨same, rfl⟩ := Prod.mk.inj failed
    exact ⟨rfl, fault, (Except.error.inj same).symm⟩

theorem writeFile_ok {d d' : Disk} {p : FilePath} {content : String}
    (written : writeFile d p content = (.ok (), d')) :
    ∃ d₁, d.AddsDirectories d₁ ∧ d₁.writeBytes p content.toUTF8 = .ok d' := by
  unfold writeFile at written
  split at written
  · exact ⟨d, .refl d, writeInPlace_ok written⟩
  · rename_i above _
    have adds := d.addsDirectories_makeDirectories above
    split at written
    · rename_i d₁ made
      rw [made] at adds
      exact ⟨d₁, adds, writeInPlace_ok written⟩
    · cases written

/-- A write that fails leaves directories at most, and names the file or the
directory above it. -/
theorem writeFile_error {d d' : Disk} {p : FilePath} {content : String} {e : Error}
    (failed : writeFile d p content = (.error e, d')) :
    d.AddsDirectories d' ∧
      ∃ named fault, e = .writeFailed named fault ∧ (named = p ∨ directoryOf? p = some named) := by
  unfold writeFile at failed
  split at failed
  · obtain ⟨rfl, fault, rfl⟩ := writeInPlace_error failed
    exact ⟨.refl _, p, fault, rfl, .inl rfl⟩
  · rename_i above parent
    have adds := d.addsDirectories_makeDirectories above
    split at failed
    · rename_i d₁ made
      rw [made] at adds
      obtain ⟨rfl, fault, rfl⟩ := writeInPlace_error failed
      exact ⟨adds, p, fault, rfl, .inl rfl⟩
    · rename_i fault d₁ made
      rw [made] at adds
      obtain ⟨same, rfl⟩ := Prod.mk.inj failed
      exact ⟨adds, above, fault, (Except.error.inj same).symm, .inr parent⟩

theorem writeOutput_eq_ok {d d' : Disk} {root path : FilePath} {entity content : String}
    {kind : OutputKind} (written : writeOutput d root entity kind content = (.ok path, d')) :
    kind.pathFor root entity = .ok path ∧ writeFile d path content = (.ok (), d') := by
  unfold writeOutput at written
  split at written
  · cases written
  · rename_i path' found
    split at written
    · rename_i done
      obtain ⟨same, rfl⟩ := Prod.mk.inj written
      obtain rfl := Except.ok.inj same
      exact ⟨found, done⟩
    · cases written

/-- **All that writing an output file does** when it succeeds. -/
theorem writeOutput_ok {d d' : Disk} {root path : FilePath} {entity content : String}
    {kind : OutputKind} (free : d.LinkFreeBelow root)
    (written : writeOutput d root entity kind content = (.ok path, d')) :
    ∃ loc, Writes d d' path content loc := by
  obtain ⟨found, done⟩ := writeOutput_eq_ok written
  obtain ⟨d₁, adds, done⟩ := writeFile_ok done
  obtain ⟨loc, located, notDirectory, rfl⟩ := Disk.writeBytes_eq_ok done
  obtain ⟨top, _, _, freeTop, rfl, again⟩ :=
    OutputKind.stands_of_locate (free.grows adds.grows) found located
  -- No link stands at the end, so the write replaces a file or makes one.
  have below := Disk.ne_nil_of_get? notDirectory
  have solid : ∀ target, d₁.get? (top ++ kind.place entity) ≠ some (.link target) :=
    fun target => freeTop (kind.place entity) target (by simp [OutputKind.place])
  have grows := Disk.grows_put_file content.toUTF8 notDirectory solid
  have holds := d₁.get?_put below (.file content.toUTF8) (top ++ kind.place entity)
  rw [if_pos rfl] at holds
  refine ⟨_, adds.grows.trans grows, again _ _ grows holds, holds, fun l other => ?_⟩
  rw [d₁.get?_put below, if_neg other]
  exact adds.get? l

/-- **All that writing an output file does** when it fails: directories may have
been made. The path was refused, or the error names it or the directory above. -/
theorem writeOutput_error {d d' : Disk} {root : FilePath} {entity content : String}
    {kind : OutputKind} {e : Error}
    (failed : writeOutput d root entity kind content = (.error e, d')) :
    d.AddsDirectories d' ∧ (kind.pathFor root entity = .error e ∨
      ∃ path named fault, kind.pathFor root entity = .ok path ∧ e = .writeFailed named fault ∧
        (named = path ∨ directoryOf? path = some named)) := by
  unfold writeOutput at failed
  split at failed
  · rename_i refused
    obtain ⟨same, rfl⟩ := Prod.mk.inj failed
    exact ⟨.refl d, .inl (Except.error.inj same ▸ refused)⟩
  · rename_i path found
    split at failed
    · cases failed
    · rename_i d₁ failed'
      obtain ⟨same, rfl⟩ := Prod.mk.inj failed
      obtain rfl := Except.error.inj same
      obtain ⟨adds, named, fault, shape, names⟩ := writeFile_error failed'
      exact ⟨adds, .inr ⟨path, named, fault, found, shape, names⟩⟩

end SchemaGen
