import SchemaGen.File.Path

/-!
# The segments of joined paths

Joining a path with one name adds one segment: `segments_join`. What stands
before it is the `stem` of the path, which is the same whether or not the path
is written with a slash at its end, and which the empty path does not have.
-/

namespace SchemaGen.File.FilePath

/-- The segments of a path, less the empty one after a slash at its end. -/
def stem (p : FilePath) : List (List Char) :=
  if p.segments.getLast? = some [] then p.segments.dropLast else p.segments

/-! ## Splitting at slashes -/

@[simp]
theorem splitSlashes_nil : splitSlashes [] = [[]] :=
  rfl

@[simp]
theorem splitSlashes_slash (xs : List Char) : splitSlashes ('/' :: xs) = [] :: splitSlashes xs :=
  rfl

theorem splitSlashes_ne_nil (xs : List Char) : splitSlashes xs ≠ [] := by
  cases xs with
  | nil => simp
  | cons c rest =>
    unfold splitSlashes
    split
    · simp
    · split <;> simp

theorem splitSlashes_cons {c : Char} (h : c ≠ '/') {xs segment : List Char}
    {more : List (List Char)} (split : splitSlashes xs = segment :: more) :
    splitSlashes (c :: xs) = (c :: segment) :: more := by
  rw [splitSlashes, if_neg h, split]

theorem splitSlashes_append (xs ys : List Char) :
    splitSlashes (xs ++ '/' :: ys) = splitSlashes xs ++ splitSlashes ys := by
  induction xs with
  | nil => rfl
  | cons c rest ih =>
    by_cases h : c = '/'
    · subst h
      rw [List.cons_append, splitSlashes_slash, splitSlashes_slash, ih]
      rfl
    · obtain ⟨segment, more, split⟩ := List.exists_cons_of_ne_nil (splitSlashes_ne_nil rest)
      rw [List.cons_append, splitSlashes_cons h split,
        splitSlashes_cons h (by rw [ih, split]; rfl)]
      rfl

theorem splitSlashes_of_not_mem {xs : List Char} (plain : '/' ∉ xs) :
    splitSlashes xs = [xs] := by
  induction xs with
  | nil => rfl
  | cons c rest ih =>
    simp only [List.mem_cons, not_or] at plain
    exact splitSlashes_cons (Ne.symm plain.1) (ih plain.2)

/-- The first segment and what follows it hold the slashes there are. -/
theorem not_mem_of_splitSlashes {xs segment : List Char}
    (split : splitSlashes xs = [segment]) : '/' ∉ xs ∧ segment = xs := by
  induction xs generalizing segment with
  | nil => simpa using split.symm
  | cons c rest ih =>
    by_cases h : c = '/'
    · subst h
      rw [splitSlashes_slash] at split
      exact absurd (List.cons.inj split).2 (splitSlashes_ne_nil rest)
    · obtain ⟨first, more, tail⟩ := List.exists_cons_of_ne_nil (splitSlashes_ne_nil rest)
      rw [splitSlashes_cons h tail, List.cons.injEq] at split
      obtain ⟨rfl, rfl⟩ := split
      obtain ⟨plain, rfl⟩ := ih tail
      exact ⟨by simp [plain, Ne.symm h], rfl⟩

/-- The last segment ends as the text does. -/
theorem splitSlashes_concat (xs : List Char) {c : Char} (h : c ≠ '/') :
    ∃ front last, splitSlashes (xs ++ [c]) = front ++ [last ++ [c]] := by
  induction xs with
  | nil => exact ⟨[], [], splitSlashes_cons h splitSlashes_nil⟩
  | cons d rest ih =>
    obtain ⟨front, last, split⟩ := ih
    by_cases hd : d = '/'
    · subst hd
      refine ⟨[] :: front, last, ?_⟩
      rw [List.cons_append, splitSlashes_slash, split]
      rfl
    · cases front with
      | nil => exact ⟨[], d :: last, splitSlashes_cons hd split⟩
      | cons segment front => exact ⟨(d :: segment) :: front, last, splitSlashes_cons hd split⟩

/-- Segments hold no slashes, and only what the text holds. -/
theorem mem_of_mem_splitSlashes {xs segment : List Char} (member : segment ∈ splitSlashes xs)
    {c : Char} (held : c ∈ segment) : c ∈ xs ∧ c ≠ '/' := by
  induction xs generalizing segment with
  | nil =>
    obtain rfl : segment = [] := by simpa using member
    cases held
  | cons d rest ih =>
    by_cases slash : d = '/'
    · subst slash
      have later : segment ∈ splitSlashes rest := by
        rcases List.mem_cons.mp member with rfl | later
        · cases held
        · exact later
      obtain ⟨there, plain⟩ := ih later held
      exact ⟨List.mem_cons_of_mem _ there, plain⟩
    · obtain ⟨first, more, tail⟩ := List.exists_cons_of_ne_nil (splitSlashes_ne_nil rest)
      rw [splitSlashes_cons slash tail] at member
      -- Only the first segment has a character more.
      rcases List.mem_cons.mp member with rfl | member
      · rcases List.mem_cons.mp held with rfl | held
        · exact ⟨List.mem_cons_self, slash⟩
        · obtain ⟨there, plain⟩ := ih (tail ▸ List.mem_cons_self) held
          exact ⟨List.mem_cons_of_mem _ there, plain⟩
      · obtain ⟨there, plain⟩ := ih (tail ▸ List.mem_cons_of_mem _ member) held
        exact ⟨List.mem_cons_of_mem _ there, plain⟩

/-! ## Stems -/

/-- A path is written with its stem, and with one slash after it at most. -/
theorem segments_eq_stem (p : FilePath) :
    p.segments = p.stem ∨ p.segments = p.stem ++ [[]] := by
  unfold stem
  split
  · rename_i ends
    obtain ⟨front, split⟩ := List.getLast?_eq_some_iff.mp ends
    right
    rw [split, List.dropLast_concat]
  · exact .inl rfl

theorem stem_of_text_nil {p : FilePath} (h : p.text.toList = []) : p.stem = [] := by
  simp [stem, segments, h]

theorem stem_of_text_concat_slash {p : FilePath} {xs : List Char}
    (h : p.text.toList = xs ++ ['/']) : p.stem = splitSlashes xs := by
  have split : p.segments = splitSlashes xs ++ [[]] := by
    rw [segments, h, splitSlashes_append]
    rfl
  simp [stem, split]

theorem stem_of_text_concat {p : FilePath} {xs : List Char} {c : Char} (hc : c ≠ '/')
    (h : p.text.toList = xs ++ [c]) : p.stem = p.segments := by
  obtain ⟨front, last, split⟩ := splitSlashes_concat xs hc
  simp [stem, segments, h, split]

/-! ## Joining -/

theorem isAbsolute_of_not_mem {name : String} (plain : '/' ∉ name.toList) :
    (FilePath.mk name).isAbsolute = false := by
  cases hn : name.toList with
  | nil => simp [isAbsolute, hn]
  | cons c rest =>
    have : c ≠ '/' := fun h => plain (by simp [hn, h])
    simp [isAbsolute, hn, this]

/-- The joined text is that of both, with a slash between them or none. -/
theorem toList_join (p : FilePath) {name : String} (plain : '/' ∉ name.toList) :
    ∃ between, (∀ c ∈ between, c = '/') ∧
      (p.join name).text.toList = p.text.toList ++ between ++ name.toList := by
  have relative := isAbsolute_of_not_mem plain
  by_cases direct : (p.text.toList.isEmpty || p.text.toList.getLast? = some '/') = true
  · refine ⟨[], by simp, ?_⟩
    rw [join, if_neg (by simp [relative]), if_pos direct]
    simp
  · refine ⟨['/'], by simp, ?_⟩
    rw [join, if_neg (by simp [relative]), if_neg direct]
    simp

/-- The joined path is as long as both, or longer. -/
theorem size_join (p : FilePath) {name : String} (plain : '/' ∉ name.toList) :
    p.text.utf8ByteSize + name.utf8ByteSize ≤ (p.join name).text.utf8ByteSize := by
  have relative := isAbsolute_of_not_mem plain
  unfold join
  rw [if_neg (by simp [relative])]
  split
  · exact Nat.le_of_eq (String.utf8ByteSize_append ..).symm
  · simp only [String.utf8ByteSize_append]
    omega

/-- **Joining with a name adds a segment**, however the left path ends. -/
theorem segments_join (p : FilePath) {name : String} (plain : '/' ∉ name.toList) :
    (p.join name).segments = p.stem ++ [name.toList] := by
  have relative := isAbsolute_of_not_mem plain
  have alone := splitSlashes_of_not_mem plain
  rcases List.eq_nil_or_concat p.text.toList with empty | ⟨xs, c, ends⟩
  · simp [join, relative, stem_of_text_nil empty, segments, empty, alone]
  · rw [List.concat_eq_append] at ends
    by_cases hc : c = '/'
    · subst hc
      simp [join, relative, stem_of_text_concat_slash ends, segments, ends,
        splitSlashes_append, alone]
    · have text : (p.join name).text.toList = (xs ++ [c]) ++ '/' :: name.toList := by
        simp [join, relative, ends, hc]
      rw [segments, text, splitSlashes_append, alone, stem_of_text_concat hc ends, segments, ends]

/-- A path that ends in a name is its own stem. -/
theorem stem_join (p : FilePath) {name : String} (plain : '/' ∉ name.toList)
    (filled : name.toList ≠ []) : (p.join name).stem = p.stem ++ [name.toList] := by
  simp [stem, segments_join p plain, filled]

/-- A name does not change where a path begins. -/
theorem isAbsolute_join (p : FilePath) {name : String} (plain : '/' ∉ name.toList) :
    (p.join name).isAbsolute = p.isAbsolute := by
  have relative := isAbsolute_of_not_mem plain
  unfold join
  rw [if_neg (by simp [relative])]
  cases ht : p.text.toList with
  | nil => simpa [isAbsolute, ht] using relative
  | cons c rest => split <;> simp [isAbsolute, ht]

/-! ## Components and parents -/

/-- **Joining with a name adds a component**, however the left path ends. -/
theorem components_join_name (p : FilePath) {name : String} (plain : '/' ∉ name.toList)
    (named : component? name.toList = some (.name name.toList)) :
    (p.join name).components = p.components ++ [.name name.toList] := by
  have empty : component? [] = none := rfl
  have notHere : name.toList ≠ ['.'] := by
    intro here
    rw [here] at named
    cases named
  have absolute := isAbsolute_join p plain
  have segments := segments_join p plain
  cases stem : p.stem with
  | nil =>
    -- Only the empty path has no stem.
    have alone : p.segments = [[]] := by
      rcases p.segments_eq_stem with plain | ended
      · exact absurd (plain.trans stem) (splitSlashes_ne_nil _)
      · rw [ended, stem, List.nil_append]
    have relative : p.isAbsolute = false := by
      rw [isAbsolute, ← (not_mem_of_splitSlashes alone).2]
      rfl
    rw [stem] at segments
    simp [components, segments, absolute, relative, alone, empty, notHere, named]
  | cons first rest =>
    rw [stem] at segments
    rcases p.segments_eq_stem with plain | ended
    · rw [stem] at plain
      simp [components, segments, absolute, plain, named]
    · rw [stem] at ended
      simp [components, segments, absolute, ended, named, empty]

/-- The segments of a text, with slashes between them, are the text. -/
theorem unsplit_splitSlashes (xs : List Char) : unsplit (splitSlashes xs) = xs := by
  induction xs with
  | nil => rfl
  | cons c rest ih =>
    obtain ⟨segment, more, split⟩ := List.exists_cons_of_ne_nil (splitSlashes_ne_nil rest)
    rw [split] at ih
    by_cases slash : c = '/'
    · subst slash
      rw [splitSlashes_slash, split, unsplit, List.intercalate_cons_cons, ← unsplit, ih]
      rfl
    · rw [splitSlashes_cons slash split]
      cases more with
      | nil => simpa [unsplit] using ih
      | cons second more => simpa [unsplit, List.intercalate_cons_cons] using ih

theorem dropIdle_concat {segment : List Char} (kept : component? segment ≠ none)
    (front : List (List Char)) : dropIdle (front ++ [segment]) = front ++ [segment] := by
  simp [dropIdle, kept]

/-- **The parent of a joined path** is the left path, written as it was, if that ends in
a component. -/
theorem parent?_join {p : FilePath} {name : String} {front : List (List Char)}
    {last : List Char} (ends : p.segments = front ++ [last]) (kept : component? last ≠ none)
    (plain : '/' ∉ name.toList) (named : component? name.toList ≠ none) :
    (p.join name).parent? = some p := by
  have filled : last ≠ [] := by
    rintro rfl
    exact kept rfl
  have stem : p.stem = front ++ [last] := by simp [FilePath.stem, ends, filled]
  have segments : (p.join name).segments = front ++ [last] ++ [name.toList] := by
    rw [segments_join p plain, stem]
  cases front with
  | nil =>
    -- A path of one segment has no slash, so it is not absolute.
    obtain ⟨slashFree, same⟩ := not_mem_of_splitSlashes ends
    have relative : (p.join name).isAbsolute = false := by
      rw [isAbsolute_join p plain]
      exact isAbsolute_of_not_mem slashFree
    have rest : dropIdle [name.toList] = [name.toList] := dropIdle_concat named []
    have none : dropIdle [] = [] := rfl
    simp [parent?, segments, rest, none, relative, same]
  | cons first front =>
    obtain ⟨head, more, inner⟩ : ∃ head more, front ++ [last] = head :: more :=
      List.exists_cons_of_ne_nil (by simp)
    have above : dropIdle (head :: more) = head :: more := inner ▸ dropIdle_concat kept front
    have rest : dropIdle (head :: (more ++ [name.toList])) = head :: (more ++ [name.toList]) :=
      dropIdle_concat named (head :: more)
    have butLast : (head :: (more ++ [name.toList])).dropLast = head :: more := by
      rw [← List.cons_append, List.dropLast_concat]
    have whole : unsplit (first :: head :: more) = p.text.toList := by
      rw [← inner, ← List.cons_append, ← ends]
      exact unsplit_splitSlashes _
    rw [List.cons_append, inner] at segments
    simp [parent?, segments, rest, butLast, above, whole]

end SchemaGen.File.FilePath
