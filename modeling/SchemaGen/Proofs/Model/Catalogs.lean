import Mathlib.Data.List.Dedup
import SchemaGen.Model.Catalog

/-!
# The names of catalogs

A catalog that is built by insertion has its names in strictly ascending order
(`Ascending`), so no name occurs twice, and its size is the number of different
names that were put into it. What such a catalog holds under each name is all
there is to it (`Ascending.ext`), and an overlay holds what the upper catalog
has, else what the lower one has (`get?_overlay`).
-/

namespace SchemaGen.Catalog

variable {α : Type}

/-- The names stand in strictly ascending order. -/
def Ascending (c : Catalog α) : Prop :=
  c.names.Pairwise (· < ·)

/-! ## Insertion -/

private theorem mem_insertInto {name : String} {value : α} {entries : List (String × α)}
    {n : String} : n ∈ (insertInto name value entries).map (·.1) ↔
      n = name ∨ n ∈ entries.map (·.1) := by
  induction entries with
  | nil => simp [insertInto]
  | cons e rest ih =>
    obtain ⟨m, v⟩ := e
    unfold insertInto
    split
    · rename_i same
      simp [same]
    · split
      · simp
      · simp only [List.map_cons, List.mem_cons, ih]
        exact or_left_comm

theorem mem_names_insert {c : Catalog α} {name : String} {value : α} {n : String} :
    n ∈ (c.insert name value).names ↔ n = name ∨ n ∈ c.names :=
  mem_insertInto

private theorem ascending_insertInto {name : String} {value : α} {entries : List (String × α)}
    (ascending : (entries.map (·.1)).Pairwise (· < ·)) :
    ((insertInto name value entries).map (·.1)).Pairwise (· < ·) := by
  induction entries with
  | nil => simp [insertInto]
  | cons e rest ih =>
    obtain ⟨m, v⟩ := e
    obtain ⟨least, later⟩ := List.pairwise_cons.mp ascending
    unfold insertInto
    split
    · rename_i same
      exact List.pairwise_cons.mpr ⟨fun n member => same ▸ least n member, later⟩
    · rename_i other
      split
      · rename_i before
        refine List.pairwise_cons.mpr ⟨fun n member => ?_, ascending⟩
        rcases List.mem_cons.mp member with rfl | member
        · exact before
        · exact String.lt_trans before (least n member)
      · -- Neither the same nor before: the first name stays first.
        rename_i notBefore
        refine List.pairwise_cons.mpr ⟨fun n member => ?_, ih later⟩
        rcases mem_insertInto.mp member with rfl | member
        · rcases String.le_total m n with le | le
          · exact Decidable.byContradiction fun notLt =>
              other (String.le_antisymm le (String.not_lt.mp notLt))
          · exact absurd (Decidable.byContradiction fun notLt =>
              other (String.le_antisymm (String.not_lt.mp notLt) le)) notBefore
        · exact least n member

theorem Ascending.insert {c : Catalog α} (ascending : c.Ascending) (name : String) (value : α) :
    (c.insert name value).Ascending :=
  ascending_insertInto ascending

/-! ## Overlays -/

theorem mem_names_overlay {c d : Catalog α} {n : String} :
    n ∈ (c.overlay d).names ↔ n ∈ c.names ∨ n ∈ d.names := by
  unfold overlay names
  generalize d.entries = entries
  induction entries generalizing c with
  | nil => simp
  | cons e rest ih =>
    rw [List.foldl_cons, ih]
    have inserted : n ∈ (c.insert e.1 e.2).entries.map (·.1) ↔ _ := mem_names_insert
    rw [inserted, List.map_cons, List.mem_cons, names]
    tauto

theorem Ascending.overlay {c : Catalog α} (ascending : c.Ascending) (d : Catalog α) :
    (c.overlay d).Ascending := by
  unfold Catalog.overlay
  generalize d.entries = entries
  induction entries generalizing c with
  | nil => exact ascending
  | cons e rest ih => exact ih (ascending.insert e.1 e.2)

theorem ascending_empty : ({} : Catalog α).Ascending :=
  .nil

/-! ## Counting -/

theorem Ascending.nodup {c : Catalog α} (ascending : c.Ascending) : c.names.Nodup :=
  List.Pairwise.imp String.ne_of_lt ascending

/-- The size is the number of different names among those put in. -/
theorem Ascending.size_eq {c : Catalog α} (ascending : c.Ascending) {given : List String}
    (same : ∀ n, n ∈ c.names ↔ n ∈ given) : c.size = given.dedup.length := by
  have perm : c.names.Perm given.dedup :=
    (List.perm_ext_iff_of_nodup ascending.nodup given.nodup_dedup).mpr
      fun n => (same n).trans List.mem_dedup.symm
  rw [← perm.length_eq, size, names, List.length_map]

/-! ## Values under names -/

theorem mem_names_iff_isSome {c : Catalog α} {n : String} :
    n ∈ c.names ↔ (c.get? n).isSome = true := by
  obtain ⟨entries⟩ := c
  simp only [names, get?]
  induction entries with
  | nil => simp
  | cons e rest ih =>
    obtain ⟨m, v⟩ := e
    rw [List.map_cons, List.mem_cons, lookup_cons_eq_ite, ih]
    by_cases same : n = m <;> simp [same]

private theorem lookup_eq_none_of_not_mem {entries : List (String × α)} {n : String}
    (absent : n ∉ entries.map (·.1)) : entries.lookup n = none := by
  have unnamed : ¬ (entries.lookup n).isSome = true := fun found =>
    absent (mem_names_iff_isSome (c := ⟨entries⟩) |>.mpr found)
  exact Option.not_isSome_iff_eq_none.mp unnamed

/-- **What the upper catalog has wins**, name by name. -/
theorem get?_overlay {c d : Catalog α} (ascending : d.Ascending) (n : String) :
    (c.overlay d).get? n = (d.get? n).or (c.get? n) := by
  obtain ⟨entries⟩ := d
  have distinct : (entries.map (·.1)).Nodup := ascending.nodup
  clear ascending
  change (entries.foldl (fun c e => c.insert e.1 e.2) c).get? n =
    (entries.lookup n).or (c.get? n)
  induction entries generalizing c with
  | nil => simp
  | cons e rest ih =>
    obtain ⟨m, v⟩ := e
    obtain ⟨new, distinct⟩ := List.nodup_cons.mp distinct
    rw [List.foldl_cons, ih distinct, get?_insert, lookup_cons_eq_ite]
    by_cases same : n = m
    · -- No later entry has the name, so the first one stays.
      subst same
      rw [lookup_eq_none_of_not_mem new]
      simp
    · simp [same]

/-- A sorted catalog holds under each name what it has there. -/
theorem Ascending.mem_entries_iff {c : Catalog α} (ascending : c.Ascending) {e : String × α} :
    e ∈ c.entries ↔ c.get? e.1 = some e.2 := by
  obtain ⟨entries⟩ := c
  have distinct : (entries.map (·.1)).Nodup := ascending.nodup
  clear ascending
  change e ∈ entries ↔ entries.lookup e.1 = some e.2
  induction entries with
  | nil => simp
  | cons f rest ih =>
    obtain ⟨m, v⟩ := f
    obtain ⟨n, w⟩ := e
    obtain ⟨new, distinct⟩ := List.nodup_cons.mp distinct
    rw [List.mem_cons, ih distinct, lookup_cons_eq_ite]
    by_cases same : n = m
    · subst same
      simp [lookup_eq_none_of_not_mem new, eq_comm]
    · simp [same]

/-- Catalogs that hold the same under every name are the same. -/
theorem Ascending.ext {c d : Catalog α} (first : c.Ascending) (second : d.Ascending)
    (same : ∀ n, c.get? n = d.get? n) : c = d := by
  have distinct : ∀ {b : Catalog α}, b.Ascending → b.entries.Nodup := fun ascending =>
    List.Nodup.of_map _ ascending.nodup
  have perm : c.entries.Perm d.entries := by
    refine (List.perm_ext_iff_of_nodup (distinct first) (distinct second)).mpr fun e => ?_
    rw [first.mem_entries_iff, second.mem_entries_iff, same]
  -- Both are in the order of their names, so they are one list.
  have sorted : ∀ {b : Catalog α}, b.Ascending → b.entries.Pairwise (·.1 < ·.1) :=
    fun ascending => List.pairwise_map.mp ascending
  have entries : c.entries = d.entries :=
    perm.eq_of_pairwise (fun a b _ _ before after => absurd after (String.lt_asymm before))
      (sorted first) (sorted second)
  obtain ⟨_⟩ := c
  obtain ⟨_⟩ := d
  exact congrArg Catalog.mk entries

end SchemaGen.Catalog
