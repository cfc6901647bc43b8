import Mathlib.Data.List.Induction
import Mathlib.Data.List.TakeWhile
import SchemaGen.Proofs.File.Following

/-!
# The steps of a path, and the paths above it

A path is followed in steps: empty segments and dots are passed over. The parent of a
path has the steps of the path but the last (`Parent.steps`), so the paths `Above` it
are its proper beginnings, each written without anything idle at its end
(`exists_above_iff`). Since a parent is written as the beginning of the path, it may be
looked up if the path may be (`Parent.fits`).
-/

namespace SchemaGen.File.FilePath

variable {p a b : FilePath}

/-- Is the segment one that is passed over? -/
abbrev Idle (segment : List Char) : Prop :=
  component? segment = none

theorem idle_iff {segment : List Char} : Idle segment ↔ segment = [] ∨ segment = ['.'] := by
  unfold Idle component?
  split
  · rename_i passed
    simpa using passed
  · rename_i kept
    simp only [Bool.or_eq_true, decide_eq_true_eq] at kept
    split <;> simp [kept]

theorem not_idle_iff {segment : List Char} :
    ¬ Idle segment ↔ segment = ['.', '.'] ∨ IsName segment := by
  rw [idle_iff, IsName]
  by_cases up : segment = ['.', '.']
  · simp [up]
  · simp [up, not_or]

/-- The segments that are not passed over. -/
def stepsOf (segments : List (List Char)) : List (List Char) :=
  segments.filter fun s => (component? s).isSome

/-- The steps of a path. -/
def steps (p : FilePath) : List (List Char) :=
  stepsOf p.segments

theorem stepsOf_cons_idle {segment : List Char} (idle : Idle segment)
    (rest : List (List Char)) : stepsOf (segment :: rest) = stepsOf rest := by
  simp [stepsOf, idle]

theorem stepsOf_cons {segment : List Char} (kept : ¬ Idle segment) (rest : List (List Char)) :
    stepsOf (segment :: rest) = segment :: stepsOf rest := by
  have isSome : (component? segment).isSome = true := Option.isSome_iff_ne_none.mpr kept
  simp [stepsOf, isSome]

theorem stepsOf_append (front back : List (List Char)) :
    stepsOf (front ++ back) = stepsOf front ++ stepsOf back :=
  List.filter_append ..

theorem stepsOf_eq_nil_iff {segments : List (List Char)} :
    stepsOf segments = [] ↔ ∀ s ∈ segments, Idle s := by
  simp [stepsOf]

theorem mem_stepsOf {segments : List (List Char)} {s : List Char} :
    s ∈ stepsOf segments ↔ s ∈ segments ∧ ¬ Idle s := by
  simp [stepsOf, Option.isSome_iff_ne_none]

/-- The empty path has no steps. -/
theorem steps_of_isEmpty (empty : p.text.isEmpty = true) : p.steps = [] := by
  rw [FilePath.steps, FilePath.segments, String.isEmpty_iff.mp empty]
  rfl

/-- A path has no more steps than characters. -/
theorem length_steps_le (p : FilePath) : p.steps.length ≤ p.text.length := by
  rw [FilePath.steps, FilePath.segments, ← String.length_toList]
  induction p.text.toList with
  | nil => exact Nat.le_refl 0
  | cons c rest ih =>
    by_cases slash : c = '/'
    · rw [slash, splitSlashes_slash, stepsOf_cons_idle rfl]
      exact Nat.le_succ_of_le ih
    · obtain ⟨segment, more, split⟩ := List.exists_cons_of_ne_nil (splitSlashes_ne_nil rest)
      rw [split, ← List.singleton_append, stepsOf_append, List.length_append] at ih
      rw [splitSlashes_cons slash split, ← List.singleton_append, stepsOf_append,
        List.length_append, List.length_cons]
      have one : (stepsOf [c :: segment]).length ≤ 1 := List.length_filter_le ..
      omega

/-! ## What is idle at the end -/

/-- What is dropped is idle, and what is kept ends in a step. -/
theorem exists_dropIdle (segments : List (List Char)) :
    ∃ idle, segments = dropIdle segments ++ idle ∧ (∀ s ∈ idle, Idle s) ∧
      ∀ front last, dropIdle segments = front ++ [last] → ¬ Idle last := by
  have split := List.takeWhile_append_dropWhile (p := fun s => (component? s).isNone)
    (l := segments.reverse)
  refine ⟨(segments.reverse.takeWhile fun s => (component? s).isNone).reverse, ?_, ?_, ?_⟩
  · rw [dropIdle, ← List.reverse_append, split, List.reverse_reverse]
  · intro s member
    simpa using List.mem_takeWhile_imp (List.mem_reverse.mp member)
  · intro front last ends
    have first : (segments.reverse.dropWhile fun s => (component? s).isNone) =
        last :: front.reverse := by
      rw [← List.reverse_reverse (List.dropWhile ..), ← dropIdle, ends]
      simp
    have kept := List.head_dropWhile_not (fun s => (component? s).isNone)
      (l := segments.reverse) (by simp [first])
    simpa [first, Option.isSome_iff_ne_none] using kept

theorem stepsOf_dropIdle (segments : List (List Char)) :
    stepsOf (dropIdle segments) = stepsOf segments := by
  obtain ⟨idle, split, passed, _⟩ := exists_dropIdle segments
  have whole := congrArg stepsOf split
  rw [stepsOf_append, stepsOf_eq_nil_iff.mpr passed, List.append_nil] at whole
  exact whole.symm

/-- The segments end in a step, if there are steps. -/
def EndsInStep (segments : List (List Char)) : Prop :=
  stepsOf segments = [] ∨ ∃ front last, segments = front ++ [last] ∧ ¬ Idle last

theorem EndsInStep.tail {segment : List Char} {rest : List (List Char)}
    (ends : EndsInStep (segment :: rest)) : EndsInStep rest := by
  rcases ends with none | ⟨front, last, whole, step⟩
  · refine .inl (stepsOf_eq_nil_iff.mpr fun s member => ?_)
    exact stepsOf_eq_nil_iff.mp none s (List.mem_cons_of_mem _ member)
  · rcases front with _ | ⟨first, front⟩
    · obtain ⟨_, rfl⟩ := List.cons.inj whole
      exact .inl rfl
    · exact .inr ⟨front, last, (List.cons.inj whole).2, step⟩

/-- What comes after a step has steps, if anything comes. -/
theorem EndsInStep.goesOn {segment : List Char} {rest : List (List Char)}
    (ends : EndsInStep (segment :: rest)) (kept : ¬ Idle segment) (more : rest ≠ []) :
    stepsOf rest ≠ [] := by
  intro none
  have idle := stepsOf_eq_nil_iff.mp none
  rcases ends with none' | ⟨front, last, whole, step⟩
  · exact kept (stepsOf_eq_nil_iff.mp none' segment List.mem_cons_self)
  · rcases front with _ | ⟨first, front⟩
    · exact more (List.cons.inj whole).2
    · exact step (idle last ((List.cons.inj whole).2 ▸ by simp))

/-- The path ends in the name of something. -/
def EndsInName (p : FilePath) : Prop :=
  ∃ front last, p.segments = front ++ [last] ∧ IsName last

theorem EndsInName.ends (named : p.EndsInName) : EndsInStep p.segments :=
  let ⟨front, last, whole, name⟩ := named
  .inr ⟨front, last, whole, not_idle_iff.mpr (.inr name)⟩

/-- The last segment is empty if the text ends in a slash. -/
theorem endsInSlash_iff (filled : p.text.isEmpty = false) :
    Disk.endsInSlash p = true ↔ p.segments.getLast? = some [] := by
  have text : p.text.toList ≠ [] := by
    simpa [String.isEmpty_iff] using filled
  obtain ⟨chars, c, whole⟩ := (List.eq_nil_or_concat p.text.toList).resolve_left text
  rw [List.concat_eq_append] at whole
  rw [Disk.endsInSlash, FilePath.segments, whole, List.getLast?_concat, decide_eq_true_iff]
  by_cases slash : c = '/'
  · rw [slash, splitSlashes_append, splitSlashes_nil, List.getLast?_concat]
    exact iff_of_true rfl rfl
  · obtain ⟨front, last, split⟩ := splitSlashes_concat chars slash
    rw [split, List.getLast?_concat]
    exact iff_of_false (by simpa using slash) (by simp)

/-! ## Texts of segments -/

theorem unsplit_append {front back : List (List Char)} (first : front ≠ []) :
    unsplit front <+: unsplit (front ++ back) := by
  induction front with
  | nil => exact absurd rfl first
  | cons segment front ih =>
    cases front with
    | nil =>
      cases back with
      | nil => exact List.prefix_rfl
      | cons next back =>
        rw [List.singleton_append, unsplit, unsplit, List.intercalate_cons_cons,
          List.intercalate_singleton, List.append_assoc]
        exact List.prefix_append ..
    | cons next front =>
      have more := ih (by simp)
      simp only [unsplit, List.cons_append, List.intercalate_cons_cons] at more ⊢
      exact (List.prefix_append_right_inj _).mpr more

/-- Segments are read back from their text. -/
theorem splitSlashes_unsplit {segments : List (List Char)} (filled : segments ≠ [])
    (plain : ∀ s ∈ segments, '/' ∉ s) : splitSlashes (unsplit segments) = segments := by
  induction segments with
  | nil => exact absurd rfl filled
  | cons segment rest ih =>
    have alone := splitSlashes_of_not_mem (plain segment List.mem_cons_self)
    cases rest with
    | nil => simpa [unsplit] using alone
    | cons next rest =>
      have text : unsplit (segment :: next :: rest) = segment ++ '/' :: unsplit (next :: rest) := by
        simp [unsplit, List.intercalate_cons_cons]
      rw [text, splitSlashes_append, alone,
        ih (by simp) fun s member => plain s (List.mem_cons_of_mem _ member)]
      rfl

/-! ## Parents -/

/-- A path is absolute if it begins with an empty segment and goes on. -/
theorem isAbsolute_iff {first : List Char} {rest : List (List Char)}
    (segments : p.segments = first :: rest) : p.isAbsolute = true ↔ first = [] ∧ rest ≠ [] := by
  unfold FilePath.segments at segments
  unfold isAbsolute
  cases text : p.text.toList with
  | nil =>
    rw [text, splitSlashes_nil, List.cons.injEq] at segments
    simp [← segments.2]
  | cons c chars =>
    rw [text] at segments
    by_cases slash : c = '/'
    · subst slash
      rw [splitSlashes_slash, List.cons.injEq] at segments
      obtain ⟨rfl, rfl⟩ := segments
      simp [splitSlashes_ne_nil]
    · obtain ⟨segment, more, tail⟩ := List.exists_cons_of_ne_nil (splitSlashes_ne_nil chars)
      rw [splitSlashes_cons slash tail, List.cons.injEq] at segments
      simp [slash, ← segments.1]

/-- What the parent of a path is like. -/
structure Heads (a p : FilePath) : Prop where
  steps : a.steps = p.steps.dropLast
  isAbsolute : a.isAbsolute = p.isAbsolute
  ends : EndsInStep a.segments
  text : a.text.toList <+: p.text.toList

/-- Some segments at the beginning, written as a path. -/
private theorem heads_of_prefix {first last : List Char} {above more : List (List Char)}
    (split : p.segments = (first :: above) ++ more) (goesOn : more ≠ [])
    (steps : stepsOf more = [last])
    (ends : ∀ front last, above = front ++ [last] → ¬ Idle last)
    (relative : above = [] → p.isAbsolute = false) :
    (FilePath.mk (String.ofList (unsplit (first :: above)))).Heads p := by
  have plain : ∀ s ∈ first :: above, '/' ∉ s := fun s member slash => by
    have member' : s ∈ p.segments := split ▸ List.mem_append_left more member
    exact (mem_of_mem_splitSlashes member' slash).2 rfl
  have written : (FilePath.mk (String.ofList (unsplit (first :: above)))).segments =
      first :: above := by
    rw [segments, String.toList_ofList, splitSlashes_unsplit (by simp) plain]
  refine ⟨?_, ?_, ?_, ?_⟩
  · rw [FilePath.steps, FilePath.steps, written, split, stepsOf_append, steps,
      List.dropLast_concat]
  · have whole : p.isAbsolute = true ↔ first = [] ∧ above ++ more ≠ [] := isAbsolute_iff split
    rw [Bool.eq_iff_iff, isAbsolute_iff written]
    constructor
    · rintro ⟨empty, _⟩
      exact whole.mpr ⟨empty, by simp [goesOn]⟩
    · intro absolute
      refine ⟨(whole.mp absolute).1, fun none => ?_⟩
      rw [relative none] at absolute
      cases absolute
  · rcases List.eq_nil_or_concat above with rfl | ⟨front, last, rfl⟩
    · by_cases idle : Idle first
      · exact .inl (by rw [written, stepsOf_cons_idle idle]; rfl)
      · exact .inr ⟨[], first, written, idle⟩
    · rw [List.concat_eq_append] at written ends ⊢
      exact .inr ⟨first :: front, last, written, ends front last rfl⟩
  · have text : p.text.toList = unsplit p.segments := (unsplit_splitSlashes _).symm
    rw [String.toList_ofList, text, split]
    exact unsplit_append (by simp)

/-- Above a relative path without further steps stands the path that has none. -/
private theorem heads_of_alone {first : List Char} {rest : List (List Char)}
    (segments : p.segments = first :: rest) (filled : first ≠ []) (none : dropIdle rest = []) :
    (FilePath.mk "").Heads p := by
  have relative : p.isAbsolute = false := by
    rw [Bool.eq_false_iff, ne_eq, isAbsolute_iff segments]
    exact fun ⟨empty, _⟩ => filled empty
  have alone : p.steps = stepsOf [first] := by
    rw [FilePath.steps, segments, ← List.singleton_append, stepsOf_append,
      ← stepsOf_dropIdle rest, none]
    exact List.append_nil _
  refine ⟨?_, relative.symm, .inl rfl, List.nil_prefix⟩
  rw [alone]
  by_cases idle : Idle first
  · rw [stepsOf_cons_idle idle]
    rfl
  · rw [stepsOf_cons idle]
    rfl

/-- Above the first name of an absolute path stands the root. -/
private theorem heads_of_root {last : List Char} (absolute : p.isAbsolute = true)
    (steps : p.steps = [last]) : (FilePath.mk "/").Heads p := by
  refine ⟨by rw [steps]; rfl, absolute.symm, .inl rfl, ?_⟩
  unfold isAbsolute at absolute
  obtain ⟨chars, text⟩ := List.head?_eq_some_iff.mp (by simpa using absolute)
  exact ⟨chars, text.symm⟩

/-- The last step, with what is passed over before it and behind it. -/
private theorem exists_last_of_dropIdle {rest : List (List Char)} (kept : dropIdle rest ≠ []) :
    ∃ last more, rest = dropIdle (dropIdle rest).dropLast ++ more ∧ more ≠ [] ∧
      stepsOf more = [last] := by
  obtain ⟨idle, split, passed, ends⟩ := exists_dropIdle rest
  obtain ⟨front, last, whole⟩ := (List.eq_nil_or_concat (dropIdle rest)).resolve_left kept
  rw [List.concat_eq_append] at whole
  obtain ⟨idle', split', passed', _⟩ := exists_dropIdle front
  refine ⟨last, idle' ++ [last] ++ idle, ?_, by simp, ?_⟩
  · have inner : front ++ [last] = dropIdle front ++ (idle' ++ [last]) := by
      rw [← List.append_assoc, ← split']
    rw [whole, List.dropLast_concat, ← List.append_assoc, ← inner, ← whole]
    exact split
  · rw [stepsOf_append, stepsOf_append, stepsOf_eq_nil_iff.mpr passed,
      stepsOf_eq_nil_iff.mpr passed', stepsOf_cons (ends front last whole)]
    rfl

/-- **The parent** has the steps of the path but the last, and is written as its
beginning. -/
theorem heads_of_parent? (found : p.parent? = some a) : a.Heads p := by
  unfold parent? at found
  split at found
  · cases found
  · rename_i first rest segments
    split at found
    · rename_i none
      split at found
      · cases found
      · rename_i filled
        obtain rfl := Option.some.inj found
        exact heads_of_alone segments filled none
    · rename_i next kept kept_eq
      have some : dropIdle rest ≠ [] := by simp [kept_eq]
      obtain ⟨last, more, behind, goesOn, step⟩ := exists_last_of_dropIdle some
      rw [kept_eq] at behind
      obtain ⟨_, _, _, ends⟩ := exists_dropIdle (next :: kept).dropLast
      have beginning : p.segments = (first :: dropIdle (next :: kept).dropLast) ++ more := by
        rw [segments, List.cons_append, ← behind]
      split at found
      · rename_i none
        obtain rfl := Option.some.inj found
        rw [none] at beginning
        split
        · rename_i absolute
          obtain ⟨rfl, _⟩ := (isAbsolute_iff segments).mp absolute
          have steps : p.steps = [last] := by
            rw [FilePath.steps, beginning, stepsOf_append, step]
            rfl
          exact heads_of_root absolute steps
        · rename_i relative
          have heads := heads_of_prefix beginning goesOn step (by simp)
            (fun _ => by simpa using relative)
          simpa [unsplit] using heads
      · rename_i above
        obtain rfl := Option.some.inj found
        exact heads_of_prefix beginning goesOn step ends fun none => absurd none above

private theorem steps_of_parent?_eq_none (found : p.parent? = none) : p.steps = [] := by
  unfold parent? at found
  split at found
  · rename_i none
    rw [FilePath.steps, none]
    rfl
  · rename_i first rest segments
    split at found
    · rename_i none
      split at found
      · rename_i empty
        subst empty
        rw [FilePath.steps, segments, stepsOf_cons_idle rfl, ← stepsOf_dropIdle, none]
        rfl
      · cases found
    · split at found <;> cases found

/-- A path with steps has a parent. -/
theorem exists_parent? (goesOn : p.steps ≠ []) : ∃ a, p.parent? = some a :=
  Option.ne_none_iff_exists'.mp fun none => goesOn (steps_of_parent?_eq_none none)

/-! ## The paths above a path -/

/-- Going from parent to parent, one comes from the second path to the first. -/
inductive Above : FilePath → FilePath → Prop
  | parent {p a : FilePath} (found : p.parent? = some a) : Above a p
  | further {p a b : FilePath} (found : p.parent? = some a) (above : Above b a) : Above b p

/-- Above a path stand its parent and what is above that. -/
theorem above_iff (found : p.parent? = some a) : b.Above p ↔ b = a ∨ b.Above a := by
  constructor
  · rintro (found' | ⟨found', above⟩)
    · exact .inl (Option.some.inj (found'.symm.trans found))
    · obtain rfl := Option.some.inj (found'.symm.trans found)
      exact .inr above
  · rintro (rfl | above)
    · exact .parent found
    · exact .further found above

namespace Above

theorem trans (above : b.Above a) (further : a.Above p) : b.Above p := by
  induction further with
  | parent found => exact .further found above
  | further found _ ih => exact .further found (ih above)

theorem ends (above : a.Above p) : EndsInStep a.segments := by
  induction above with
  | parent found => exact (heads_of_parent? found).ends
  | further _ _ ih => exact ih

theorem isAbsolute (above : a.Above p) : a.isAbsolute = p.isAbsolute := by
  induction above with
  | parent found => exact (heads_of_parent? found).isAbsolute
  | further found _ ih => exact ih.trans (heads_of_parent? found).isAbsolute

theorem steps (above : a.Above p) : a.steps <+: p.steps.dropLast := by
  induction above with
  | parent found => exact (heads_of_parent? found).steps ▸ List.prefix_rfl
  | further found _ ih =>
    rw [(heads_of_parent? found).steps] at ih
    exact ih.trans (List.dropLast_prefix _)

theorem mem_steps (above : a.Above p) {s : List Char} (member : s ∈ a.steps) : s ∈ p.steps :=
  (List.dropLast_prefix _).subset (above.steps.subset member)

theorem text (above : a.Above p) : a.text.toList <+: p.text.toList := by
  induction above with
  | parent found => exact (heads_of_parent? found).text
  | further found _ ih => exact ih.trans (heads_of_parent? found).text

/-- A path above one that may be looked up may be looked up, unless it is empty. -/
theorem fits (above : a.Above p) (filled : a.text.isEmpty = false) (fits : p.Fits) : a.Fits := by
  obtain ⟨chars, text⟩ := above.text
  refine ⟨filled, fun nul => fits.noNul (text ▸ List.mem_append_left _ nul), ?_⟩
  have longer : p.text = a.text ++ String.ofList chars := by
    rw [← String.toList_inj, String.toList_append, String.toList_ofList, text]
  have short := fits.short
  rw [longer, String.utf8ByteSize_append] at short
  omega

end Above

/-- **The paths above a path** have its proper beginnings for their steps. -/
theorem exists_above {front back : List (List Char)} {s : List Char}
    (split : p.steps = front ++ s :: back) : ∃ a : FilePath, a.Above p ∧ a.steps = front := by
  -- The parent has one step less, and it is the path looked for if none are left.
  induction back using List.reverseRecOn generalizing p with
  | nil =>
    obtain ⟨a, found⟩ := exists_parent? (p := p) (by simp [split])
    have steps := (heads_of_parent? found).steps
    rw [split, List.dropLast_concat] at steps
    exact ⟨a, .parent found, steps⟩
  | append_singleton back last ih =>
    obtain ⟨a, found⟩ := exists_parent? (p := p) (by simp [split])
    have steps := (heads_of_parent? found).steps
    rw [split, ← List.cons_append, ← List.append_assoc, List.dropLast_concat] at steps
    obtain ⟨b, above, same⟩ := ih steps
    exact ⟨b, .further found above, same⟩

end SchemaGen.File.FilePath
