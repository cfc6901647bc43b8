import Mathlib.Data.List.Basic
import Mathlib.Data.List.TakeWhile
import SchemaGen.Text.Blank

/-!
# What trimming takes away

Blanks at the end of a text go only if nothing else follows them. A text that does not
end in blanks loses those at its start (`trim_of_not_endsBlank`), any other text loses
more (`trim_of_endsBlank`).
-/

namespace SchemaGen.Text

variable {p : Char → Bool} {c : Char} {s : String}

theorem length_dropTail_le (p : Char → Bool) (cs : List Char) :
    (dropTail p cs).length ≤ cs.length := by
  simpa [dropTail] using (List.dropWhile_sublist p (l := cs.reverse)).length_le

/-- A last character that fails `p` stays where the start is dropped. -/
theorem dropWhile_concat_of_not (fails : p c = false) (cs : List Char) :
    (cs ++ [c]).dropWhile p = cs.dropWhile p ++ [c] := by
  induction cs with
  | nil => simp [fails]
  | cons d rest ih => cases own : p d <;> simp [own, ih]

/-- So does any last character behind one that fails `p`. -/
theorem dropWhile_concat_of_stop {cs : List Char} (stop : ∃ d ∈ cs, p d = false) (c : Char) :
    (cs ++ [c]).dropWhile p = cs.dropWhile p ++ [c] := by
  induction cs with
  | nil => simp at stop
  | cons d rest ih =>
    cases own : p d with
    | false => simp [own]
    | true =>
      have later : ∃ d ∈ rest, p d = false := by simpa [own] using stop
      simpa [own] using ih later

/-- The text ends in a blank, but is not blank throughout. -/
def EndsBlank (s : String) : Prop :=
  isAllBlank s = false ∧ ∃ front blank, s.toList = front ++ [blank] ∧ isBlank blank = true

/-- A last character that is no blank stays, and so do the blanks before it. -/
theorem trim_concat {cs : List Char} (filled : isBlank c = false) (split : s.toList = cs ++ [c]) :
    trim s = String.ofList (cs.dropWhile isBlank ++ [c]) := by
  rw [trim, trimChars, split, dropWhile_concat_of_not filled, dropTail_concat_of_not filled]

/-- Where no blanks are at the end, only those at the start go. -/
theorem trim_of_not_endsBlank (plain : ¬ EndsBlank s) : trim s = trimStartWhere isBlank s := by
  by_cases all : isAllBlank s = true
  · rw [trim, trimChars, trimStartWhere, List.dropWhile_eq_nil_iff.mpr (List.all_eq_true.mp all)]
    rfl
  · have filled : isAllBlank s = false := by simpa using all
    rcases List.eq_nil_or_concat' s.toList with none | ⟨front, last, split⟩
    · exact absurd (by rw [isAllBlank, none]; rfl) all
    · have lastFilled : isBlank last = false := by
        by_contra blank
        exact plain ⟨filled, front, last, split, by simpa using blank⟩
      rw [trim_concat lastFilled split, trimStartWhere, split, dropWhile_concat_of_not lastFilled]

/-- Where blanks are at the end of other characters, more goes. -/
theorem trim_of_endsBlank (ends : EndsBlank s) : ∃ front blank, isBlank blank = true ∧
    trimStartWhere isBlank s = String.ofList (front ++ [blank]) ∧
      (trim s).toList.length ≤ front.length := by
  obtain ⟨filled, front, last, split, blank⟩ := ends
  have stop : ∃ c ∈ front, isBlank c = false := by
    simpa [isAllBlank, split, blank] using filled
  have kept : s.toList.dropWhile isBlank = front.dropWhile isBlank ++ [last] := by
    rw [split, dropWhile_concat_of_stop stop]
  refine ⟨front.dropWhile isBlank, last, blank, by rw [trimStartWhere, kept], ?_⟩
  rw [trim, trimChars, kept, dropTail_concat_of_pos blank, String.toList_ofList]
  exact length_dropTail_le _ _

end SchemaGen.Text
