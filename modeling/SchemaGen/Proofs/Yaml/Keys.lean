import SchemaGen.Yaml.MergeKey

/-!
# Keys

Every value is one key with itself (`alike_refl`), and nothing but a text is one with
this text (`alike_str_iff`). So in a mapping whose keys are distinct there is one
merge key at most, and one entry at most to be found under a text
(`Entries.get?_eq_some_iff`).
-/

namespace SchemaGen.Yaml

open SchemaGen.Number

namespace Value

private theorem alikeFloat_refl (x : Binary64) : (Value.float x).alike (.float x) = true := by
  rw [alike]
  cases number : x.isNaN with
  | true => rfl
  | false => simp [Binary64.numEq, number]

mutual

theorem alike_refl : (v : Value) → v.alike v = true
  | .null => rfl
  | .bool b => by simp [alike]
  | .int n => by simp [alike]
  | .float x => alikeFloat_refl x
  | .str s => by simp [alike]
  | .seq items => by rw [alike, alikeItems_refl items]
  | .map es => by rw [alike, alikeEntries_of_subset es es (fun _ member => member)]; simp
  | .tagged t v => by rw [alike, alike_refl v]; simp

theorem alikeItems_refl : (items : List Value) → alikeItems items items = true
  | [] => rfl
  | v :: rest => by rw [alikeItems, alike_refl v, alikeItems_refl rest]; rfl

theorem alikeEntries_of_subset : (es other : List (Value × Value)) → (∀ e ∈ es, e ∈ other) →
    alikeEntries es other = true
  | [], _, _ => rfl
  | (k, v) :: rest, other, subset => by
    have here : (other.any fun e => k.alike e.1 && v.alike e.2) = true :=
      List.any_eq_true.mpr
        ⟨(k, v), subset _ List.mem_cons_self, by rw [alike_refl k, alike_refl v]; rfl⟩
    rw [alikeEntries, here,
      alikeEntries_of_subset rest other fun e member => subset e (List.mem_cons_of_mem _ member)]
    rfl

end

end Value

open MergeKey

theorem alike_str_iff {k : Value} {key : String} : k.alike (.str key) = true ↔ k = .str key := by
  cases k <;> simp [Value.alike]

theorem alike_mark_iff {k : Value} : k.alike mark = true ↔ k = mark :=
  alike_str_iff

/-- The keys are distinct. -/
def Entries.Distinct (es : Entries) : Prop :=
  es.Pairwise fun a b => a.1.alike b.1 = false

instance (es : Entries) : Decidable (Entries.Distinct es) :=
  inferInstanceAs (Decidable (es.Pairwise _))

/-- What stands under a text is found, since no other key is like it. -/
theorem Entries.get?_eq_some_iff {es : Entries} (distinct : Entries.Distinct es) {key : String}
    {v : Value} : Entries.get? es key = some v ↔ (.str key, v) ∈ es := by
  unfold Entries.get?
  induction es with
  | nil => simp
  | cons e rest ih =>
    obtain ⟨k, w⟩ := e
    obtain ⟨apart, later⟩ := List.pairwise_cons.mp distinct
    by_cases same : k = .str key
    · subst same
      have absent : (.str key, v) ∉ rest := by
        intro member
        have other := apart _ member
        rw [Value.alike_refl] at other
        cases other
      simp [absent, eq_comm]
    · have other : (Value.str key == k) = false := by simpa using Ne.symm same
      rw [List.lookup_cons, other, ih later]
      simp [Ne.symm same]

theorem Entries.get?_eq_none_iff {es : Entries} {key : String} :
    Entries.get? es key = none ↔ Entries.hasAlike es (.str key) = false := by
  rw [Entries.get?, List.lookup_eq_none_iff, Bool.eq_false_iff, Ne, Entries.hasAlike,
    List.any_eq_true]
  simp only [alike_str_iff, bne_iff_ne, ne_eq, not_exists, not_and, eq_comm (a := Value.str key)]

theorem Entries.Distinct.unmarked_after {front back : Entries} {v : Value}
    (distinct : Entries.Distinct (front ++ (mark, v) :: back)) : ∀ e ∈ back, e.1 ≠ mark := by
  intro e member same
  have later := (List.pairwise_cons.mp (List.pairwise_append.mp distinct).2.1).1 e member
  rw [same, Value.alike_refl] at later
  cases later

end SchemaGen.Yaml
