import Mathlib.Data.List.TakeWhile
import SchemaGen.Proofs.Yaml.Inheriting

/-!
# The order of keys

A mapping declares the keys that are written in it, in their order, and then those
that it inherits, source by source (`declaredKeys`). Resolving its merge key keeps
this order just if no source has a merge key itself and no more than one entry
follows the merge key (`keys_spread_eq_iff`): the last entry is moved to the place
of the merge key, in front of those that stood between them.
-/

namespace SchemaGen.Yaml.MergeKey

/-! ## Declared keys -/

/-- Append a key unless one like it is present. -/
def addKey (keys : List Value) (k : Value) : List Value :=
  if keys.any (·.alike k) then keys else keys ++ [k]

/-- The keys that are written in the mapping itself, but for its merge key. -/
def ownKeys (es : Entries) : List Value :=
  (es.filter (·.1 ≠ mark)).map (·.1)

mutual

/-- The keys that a value brings in under a merge key, with those that its mappings
inherit themselves. -/
def keysOf : Value → List Value
  | .map es => (inheritedKeys es).foldl addKey (ownKeys es)
  | .seq items => keysOfItems items
  | .null | .bool _ | .int _ | .float _ | .str _ | .tagged _ _ => []

/-- The keys that all items bring in. -/
def keysOfItems : List Value → List Value
  | [] => []
  | v :: rest => keysOf v ++ keysOfItems rest

/-- The keys that the merge key brings in. -/
def inheritedKeys : List (Value × Value) → List Value
  | [] => []
  | (k, v) :: rest => if k = mark then keysOf v else inheritedKeys rest

end

/-- The keys of a mapping in the order of their declaration: those written in it, then
those that it inherits and that are not written in it. -/
def declaredKeys (es : Entries) : List Value :=
  keysOf (.map es)

/-- What follows the merge key. -/
def afterMark (es : Entries) : Entries :=
  (es.dropWhile (·.1 ≠ mark)).tail

/-- Neither a chain nor the place of its merge key disturbs the order of a mapping. -/
structure KeepsOrder (es : Entries) : Prop where
  flat : ∀ src, Source es src → ∀ e ∈ src, e.1 ≠ mark
  atEnd : (afterMark es).length ≤ 1

/-! ## Adding keys -/

/-- The keys that are there stay in front, and those behind them are added ones. -/
theorem exists_foldl_addKey_eq (more base : List Value) :
    ∃ added, added.Sublist more ∧ more.foldl addKey base = base ++ added := by
  refine exists_foldl_eq_append (fun keys k => ?_) more base
  unfold addKey
  split
  · exact .inl rfl
  · exact .inr rfl

theorem mem_foldl_addKey {more base : List Value} {k : Value}
    (member : k ∈ more.foldl addKey base) : k ∈ base ∨ k ∈ more := by
  obtain ⟨added, taken, same⟩ := exists_foldl_addKey_eq more base
  rw [same] at member
  exact (List.mem_append.mp member).imp_right (taken.subset ·)

theorem prefix_foldl_addKey (more base : List Value) : base <+: more.foldl addKey base := by
  obtain ⟨added, _, same⟩ := exists_foldl_addKey_eq more base
  exact ⟨added, same.symm⟩

theorem keys_foldl_bringIn (more base : Entries) :
    (more.foldl bringIn base).map (·.1) = (more.map (·.1)).foldl addKey (base.map (·.1)) := by
  have one : ∀ (base : Entries) (e : Value × Value),
      (bringIn base e).map (·.1) = addKey (base.map (·.1)) e.1 := by
    intro base e
    unfold bringIn addKey
    rw [List.any_map, Function.comp_def]
    split <;> simp
  induction more generalizing base with
  | nil => rfl
  | cons e rest ih => rw [List.foldl_cons, ih, one, List.map_cons, List.foldl_cons]

theorem lastFirst_map {α β : Type} (f : α → β) (xs : List α) :
    (lastFirst xs).map f = lastFirst (xs.map f) := by
  rcases List.eq_nil_or_concat xs with rfl | ⟨front, last, rfl⟩
  · rfl
  · simp

@[simp]
theorem length_lastFirst {α : Type} (xs : List α) : (lastFirst xs).length = xs.length := by
  rcases List.eq_nil_or_concat xs with rfl | ⟨front, last, rfl⟩
  · rfl
  · simp

theorem lastFirst_eq_self_iff {α : Type} {xs : List α} (distinct : xs.Nodup) :
    lastFirst xs = xs ↔ xs.length ≤ 1 := by
  rcases List.eq_nil_or_concat xs with rfl | ⟨front, last, rfl⟩
  · simp
  · rw [List.concat_eq_append] at distinct ⊢
    rw [lastFirst_concat]
    cases front with
    | nil => simp
    | cons x rest =>
      constructor
      · intro same
        obtain ⟨rfl, _⟩ := List.cons.inj same
        simp at distinct
      · simp

/-! ## Merge keys are not declared -/

mutual

theorem mark_not_mem_keysOf : (v : Value) → mark ∉ keysOf v
  | .map es => by
    rw [keysOf]
    intro member
    rcases mem_foldl_addKey member with own | inherited
    · simp [ownKeys] at own
    · exact mark_not_mem_inheritedKeys es inherited
  | .seq items => by
    rw [keysOf]
    exact mark_not_mem_keysOfItems items
  | .null | .bool _ | .int _ | .float _ | .str _ | .tagged _ _ => by simp [keysOf]

theorem mark_not_mem_keysOfItems : (items : List Value) → mark ∉ keysOfItems items
  | [] => by simp [keysOfItems]
  | v :: rest => by
    rw [keysOfItems, List.mem_append, not_or]
    exact ⟨mark_not_mem_keysOf v, mark_not_mem_keysOfItems rest⟩

theorem mark_not_mem_inheritedKeys : (es : List (Value × Value)) → mark ∉ inheritedKeys es
  | [] => by simp [inheritedKeys]
  | (k, v) :: rest => by
    rw [inheritedKeys]
    split
    · exact mark_not_mem_keysOf v
    · exact mark_not_mem_inheritedKeys rest

end

/-! ## The keys after a step -/

theorem ownKeys_of_unmarked {es : Entries} (unmarked : ∀ e ∈ es, e.1 ≠ mark) :
    ownKeys es = es.map (·.1) := by
  rw [ownKeys, List.filter_eq_self.mpr fun e member => decide_eq_true (unmarked e member)]

theorem inheritedKeys_of_unmarked {es : Entries} (unmarked : ∀ e ∈ es, e.1 ≠ mark) :
    inheritedKeys es = [] := by
  induction es with
  | nil => rfl
  | cons e rest ih =>
    obtain ⟨here, later⟩ := List.forall_mem_cons.mp unmarked
    rw [inheritedKeys, if_neg here, ih later]

theorem declaredKeys_of_unmarked {es : Entries} (unmarked : ∀ e ∈ es, e.1 ≠ mark) :
    declaredKeys es = es.map (·.1) := by
  rw [declaredKeys, keysOf, inheritedKeys_of_unmarked unmarked, ownKeys_of_unmarked unmarked]
  rfl

theorem declaredKeys_marked {front back : Entries} {v : Value}
    (before : ∀ e ∈ front, e.1 ≠ mark) (after : ∀ e ∈ back, e.1 ≠ mark) :
    declaredKeys (front ++ (mark, v) :: back) =
      (keysOf v).foldl addKey (front.map (·.1) ++ back.map (·.1)) := by
  have own : ownKeys (front ++ (mark, v) :: back) = front.map (·.1) ++ back.map (·.1) := by
    rw [← ownKeys_of_unmarked before, ← ownKeys_of_unmarked after]
    simp [ownKeys]
  have inherited : inheritedKeys (front ++ (mark, v) :: back) = keysOf v := by
    clear own
    induction front with
    | nil => rw [List.nil_append, inheritedKeys, if_pos rfl]
    | cons e rest ih =>
      obtain ⟨here, later⟩ := List.forall_mem_cons.mp before
      rw [List.cons_append, inheritedKeys, if_neg here, ih later]
  rw [declaredKeys, keysOf, own, inherited]

theorem afterMark_marked {front back : Entries} {v : Value} (before : ∀ e ∈ front, e.1 ≠ mark) :
    afterMark (front ++ (mark, v) :: back) = back := by
  rw [afterMark, List.dropWhile_append_of_pos fun e member => decide_eq_true (before e member)]
  simp

theorem afterMark_of_unmarked {es : Entries} (unmarked : ∀ e ∈ es, e.1 ≠ mark) :
    afterMark es = [] := by
  have dropped : es.dropWhile (·.1 ≠ mark) = [] :=
    List.dropWhile_eq_nil_iff.mpr fun e member => decide_eq_true (unmarked e member)
  rw [afterMark, dropped]
  rfl

/-- Sources without merge keys bring in just the keys that are written in them. -/
theorem keysOf_of_brought {v : Value} {more : Entries} (brings : brought v = .ok more)
    (flat : ∀ src, Brings v src → ∀ e ∈ src, e.1 ≠ mark) : keysOf v = more.map (·.1) := by
  cases v with
  | map es =>
    cases brings
    exact declaredKeys_of_unmarked (flat more (.inl rfl))
  | seq items =>
    obtain ⟨found, all, same⟩ := bind_eq_ok.mp brings
    cases same
    obtain rfl := mapM_entriesOf all
    have each : ∀ src ∈ found, ∀ e ∈ src, e.1 ≠ mark := fun src member =>
      flat src (.inr ⟨_, rfl, List.mem_map_of_mem member⟩)
    rw [keysOf]
    clear all flat brings
    induction found with
    | nil => rfl
    | cons src rest ih =>
      obtain ⟨here, later⟩ := List.forall_mem_cons.mp each
      rw [List.map_cons, keysOfItems, ih later, List.flatten_cons, List.map_append,
        ← declaredKeys_of_unmarked here]
      rfl
  | _ => cases brings

/-- **The order is kept** just if no source has a merge key, and if the merge key does
not stand before two others. -/
theorem keys_spread_eq_iff {es around : Entries} (distinct : Entries.Distinct es)
    (step : spread es = .ok around) : around.map (·.1) = declaredKeys es ↔ KeepsOrder es := by
  have marks := mark_mem_spread_iff distinct step
  cases spreads_of_spread step with
  | plain unmarked =>
    refine iff_of_true (declaredKeys_of_unmarked unmarked).symm ⟨?_, ?_⟩
    · rintro src ⟨v, marked, _⟩
      exact absurd rfl (unmarked _ marked)
    · rw [afterMark_of_unmarked unmarked]
      simp
  | @marked front back more v before brings =>
    have after := distinct.unmarked_after
    have nodup : (back.map (·.1)).Nodup := by
      have later := (List.pairwise_cons.mp (List.pairwise_append.mp distinct).2.1).2
      refine List.pairwise_map.mpr (later.imp fun apart same => ?_)
      rw [same, Value.alike_refl] at apart
      cases apart
    rw [keys_foldl_bringIn, List.map_append, lastFirst_map, declaredKeys_marked before after]
    constructor
    · intro same
      refine ⟨fun src source e member marked => ?_, ?_⟩
      · -- No merge key is declared, so none came in.
        obtain ⟨o, there, left⟩ := marks.mpr ⟨src, source, e, member, marked⟩
        have declared : mark ∈ declaredKeys (front ++ (mark, v) :: back) := by
          rw [declaredKeys_marked before after, ← same, ← lastFirst_map, ← List.map_append,
            ← keys_foldl_bringIn]
          exact List.mem_map.mpr ⟨o, there, left⟩
        exact mark_not_mem_keysOf _ declared
      · rw [afterMark_marked before]
        have own := prefix_foldl_addKey (more.map (·.1))
          (front.map (·.1) ++ lastFirst (back.map (·.1)))
        have declared := prefix_foldl_addKey (keysOf v) (front.map (·.1) ++ back.map (·.1))
        rw [same] at own
        have kept := (List.prefix_of_prefix_length_le own declared (by simp)).eq_of_length (by simp)
        simpa using (lastFirst_eq_self_iff nodup).mp (List.append_cancel_left kept)
    · rintro ⟨flat, atEnd⟩
      rw [afterMark_marked before] at atEnd
      rw [(lastFirst_eq_self_iff nodup).mpr (by simpa using atEnd),
        keysOf_of_brought brings fun src brings =>
          flat src ((source_marked_iff distinct before).mpr brings)]

end SchemaGen.Yaml.MergeKey
