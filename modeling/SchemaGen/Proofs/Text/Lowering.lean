import SchemaGen.Text.Blank
import SchemaGen.Text.Case

/-!
# What lower-casing leaves alone

Lower-casing may change how long a text is, and which texts are the same. It makes no
slash and takes none away (`mem_lower_iff`): below the letters every character is its
own lower-case form, and no run of the case tables leads there from above
(`lowerRuns_reach`). Nor does it move a blank: a text that ends in one still does
(`exists_lower_concat`).
-/

namespace SchemaGen.Text

/-! ## Characters -/

/-- Every run leads to the letters, or beyond them. -/
theorem lowerRuns_reach : ∀ run ∈ lowerRuns, 65 ≤ (run.first : Int) + run.shift := by
  decide +kernel

/-- The tables never lead below the letters. -/
theorem le_shiftBy_lowerRuns {n : Nat} (high : 128 ≤ n) : 65 ≤ shiftBy lowerRuns n := by
  unfold shiftBy
  split
  · rename_i run found
    have reach := lowerRuns_reach run (List.mem_of_find?_eq_some found)
    have covers := List.find?_some found
    simp only [CaseRun.covers, Bool.and_eq_true, decide_eq_true_eq] at covers
    omega
  · omega

/-- A code that gives a character is its code: all other codes give the null character. -/
private theorem eq_toNat_of_ofNat {n : Nat} {c : Char} (same : Char.ofNat n = c)
    (filled : c ≠ '\x00') : n = c.toNat := by
  subst same
  by_cases valid : n.isValidChar
  · rw [Char.ofNat, dif_pos valid]
    rfl
  · rw [Char.ofNat, dif_neg valid] at filled
    exact absurd rfl filled

/-- A slash is the lower-case form of itself, and of nothing else. -/
theorem lowerChar_eq_slash_iff {c : Char} : lowerChar c = '/' ↔ c = '/' := by
  unfold lowerChar
  by_cases ascii : c.toNat < 128
  · rw [if_pos ascii]
    by_cases capital : 'A' ≤ c ∧ c ≤ 'Z'
    · have low : 65 ≤ c.toNat := capital.1
      have high : c.toNat ≤ 90 := capital.2
      rw [if_pos capital]
      constructor
      · intro same
        have code : c.toNat + 32 = 47 := eq_toNat_of_ofNat same (by decide)
        omega
      · rintro rfl
        exact absurd low (by decide)
    · rw [if_neg capital]
  · rw [if_neg ascii]
    constructor
    · intro same
      have reach := le_shiftBy_lowerRuns (Nat.le_of_not_lt ascii)
      have code : shiftBy lowerRuns c.toNat = 47 := eq_toNat_of_ofNat same (by decide)
      omega
    · rintro rfl
      exact absurd (by decide) ascii

theorem mem_lowerFull_iff {c : Char} : '/' ∈ lowerFull c ↔ c = '/' := by
  unfold lowerFull
  split
  · rename_i dotted
    subst dotted
    decide
  · rw [List.mem_singleton, eq_comm, lowerChar_eq_slash_iff]

/-- No run of the tables covers a blank. -/
theorem lowerRuns_apart : ∀ run ∈ lowerRuns, ∀ range ∈ blankRanges,
    range.2 < run.first ∨ run.last < range.1 := by
  decide +kernel

/-- A blank is its own lower-case form. -/
theorem lowerChar_of_isBlank {c : Char} (blank : isBlank c = true) : lowerChar c = c := by
  obtain ⟨first, last, member, low, high⟩ :
      ∃ first last, (first, last) ∈ blankRanges ∧ first ≤ c.toNat ∧ c.toNat ≤ last := by
    simpa [isBlank, Ranges.holds] using blank
  unfold lowerChar
  by_cases ascii : c.toNat < 128
  · have noLetters : ∀ range ∈ blankRanges, range.2 < 65 ∨ 90 < range.1 := by decide
    rw [if_pos ascii, if_neg]
    rintro ⟨above, below⟩
    have above : 65 ≤ c.toNat := above
    have below : c.toNat ≤ 90 := below
    have apart := noLetters _ member
    omega
  · have uncovered : lowerRuns.find? (·.covers c.toNat) = none := by
      refine List.find?_eq_none.mpr fun run listed => ?_
      have apart := lowerRuns_apart run listed _ member
      simp only [CaseRun.covers, Bool.and_eq_true, decide_eq_true_eq]
      omega
    rw [if_neg ascii, shiftBy, uncovered, Char.ofNat_toNat]

/-! ## Texts -/

/-- A blank at the end stays there. -/
theorem exists_lowerFrom_concat {c : Char} (blank : isBlank c = true) (before cs : List Char) :
    ∃ front, lowerFrom before (cs ++ [c]) = front ++ [c] := by
  induction cs generalizing before with
  | nil =>
    have noSigma : c ≠ 'Σ' := fun same => absurd (same ▸ blank) (by decide)
    have undotted : c ≠ 'İ' := fun same => absurd (same ▸ blank) (by decide)
    refine ⟨[], ?_⟩
    rw [List.nil_append, lowerFrom, if_neg noSigma, lowerFull, if_neg undotted,
      lowerChar_of_isBlank blank]
    rfl
  | cons d rest ih =>
    obtain ⟨front, lowered⟩ := ih (d :: before)
    rw [List.cons_append, lowerFrom, lowered]
    exact ⟨_, (List.append_assoc _ _ _).symm⟩

/-- A text that ends in a blank still does so in lower case. -/
theorem exists_lower_concat {c : Char} (blank : isBlank c = true) (cs : List Char) :
    ∃ front, (lower (String.ofList (cs ++ [c]))).toList = front ++ [c] := by
  rw [lower, String.toList_ofList, String.toList_ofList]
  exact exists_lowerFrom_concat blank [] cs

theorem mem_lowerFrom_iff {before cs : List Char} : '/' ∈ lowerFrom before cs ↔ '/' ∈ cs := by
  induction cs generalizing before with
  | nil => simp [lowerFrom]
  | cons c rest ih =>
    rw [lowerFrom, List.mem_append, ih, List.mem_cons, eq_comm (a := '/')]
    by_cases sigma : c = 'Σ'
    · -- Neither form of the sigma is a slash.
      subst sigma
      rw [if_pos rfl]
      split <;> simp
    · rw [if_neg sigma, mem_lowerFull_iff]

/-- **Lower-casing keeps slashes**, and makes none. -/
theorem mem_lower_iff {s : String} : '/' ∈ (lower s).toList ↔ '/' ∈ s.toList := by
  rw [lower, String.toList_ofList, mem_lowerFrom_iff]

/-- Only the empty text is empty in lower case. -/
theorem lower_eq_empty_iff {s : String} : lower s = "" ↔ s = "" := by
  rw [lower, String.ofList_eq_empty_iff, lowerFrom_eq_nil_iff, String.toList_eq_nil_iff]

end SchemaGen.Text
