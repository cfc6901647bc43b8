import SchemaGen.Proofs.Yaml.Keys

/-!
# Likeness of keys

Likeness is transitive (`alike_trans`). It looks for the entries of one mapping
among those of another, so it is symmetric only if no key is in the mapping twice
(`alike_symm`): then as many entries cannot be alike to fewer. Values whose
mappings have distinct keys, keys of keys included, are `Neat`.
-/

namespace SchemaGen.Yaml

open SchemaGen.Number

/-! ## Neat values -/

/-- The value is the other one or a part of it, at any depth and in keys as well. -/
inductive Value.Part (w : Value) : Value → Prop where
  | here : Part w w
  | item {v : Value} {items : List Value} (member : v ∈ items) (within : Part w v) :
      Part w (.seq items)
  | key {e : Value × Value} {es : Entries} (member : e ∈ es) (within : Part w e.1) :
      Part w (.map es)
  | entry {e : Value × Value} {es : Entries} (member : e ∈ es) (within : Part w e.2) :
      Part w (.map es)
  | under {t : String} {v : Value} (within : Part w v) : Part w (.tagged t v)

theorem Value.Part.trans {u v w : Value} (within : u.Part v) (around : v.Part w) : u.Part w := by
  induction around with
  | here => exact within
  | item member _ ih => exact .item member ih
  | key member _ ih => exact .key member ih
  | entry member _ ih => exact .entry member ih
  | under _ ih => exact .under ih

/-- No mapping that is a part of the value has a key twice. -/
def Value.Neat (v : Value) : Prop :=
  ∀ es, (Value.map es).Part v → Entries.Distinct es

theorem Value.Neat.part {v w : Value} (neat : w.Neat) (within : v.Part w) : v.Neat :=
  fun es inner => neat es (inner.trans within)

/-! ## Matching lists -/

/-- If everything on the left has a match on the right, no two the same one, and there is
no more on the right, then everything on the right has one on the left. -/
theorem exists_left_of_matching {α β : Type} {R : α → β → Prop} {xs : List α} {ys : List β}
    (each : ∀ x ∈ xs, ∃ y ∈ ys, R x y) (apart : xs.Pairwise fun a b => ∀ y, R a y → ¬ R b y)
    (less : ys.length ≤ xs.length) : ∀ y ∈ ys, ∃ x ∈ xs, R x y := by
  induction xs generalizing ys with
  | nil =>
    rw [List.eq_nil_of_length_eq_zero (Nat.le_zero.mp less)]
    exact nofun
  | cons x rest ih =>
    obtain ⟨y, member, here⟩ := each x List.mem_cons_self
    obtain ⟨front, back, rfl⟩ := List.append_of_mem member
    obtain ⟨apart, later⟩ := List.pairwise_cons.mp apart
    -- The others have their matches beside that of the first.
    have others : ∀ x' ∈ rest, ∃ y' ∈ front ++ back, R x' y' := by
      intro x' member'
      obtain ⟨y', among, there⟩ := each x' (List.mem_cons_of_mem x member')
      refine ⟨y', ?_, there⟩
      rcases List.mem_append.mp among with before | after
      · exact List.mem_append_left _ before
      · rcases List.mem_cons.mp after with rfl | after
        · exact absurd there (apart x' member' _ here)
        · exact List.mem_append_right _ after
    have less' : (front ++ back).length ≤ rest.length := by
      simp only [List.length_append, List.length_cons] at less ⊢
      omega
    have found := ih others later less'
    intro y' among
    rcases List.mem_append.mp among with before | after
    · obtain ⟨x', member', there⟩ := found y' (List.mem_append_left _ before)
      exact ⟨x', List.mem_cons_of_mem x member', there⟩
    · rcases List.mem_cons.mp after with rfl | after
      · exact ⟨x, List.mem_cons_self, here⟩
      · obtain ⟨x', member', there⟩ := found y' (List.mem_append_right _ after)
        exact ⟨x', List.mem_cons_of_mem x member', there⟩

/-! ## Likeness -/

namespace Value

theorem alikeEntries_iff {es fs : Entries} : alikeEntries es fs = true ↔
    ∀ e ∈ es, ∃ f ∈ fs, e.1.alike f.1 = true ∧ e.2.alike f.2 = true := by
  induction es with
  | nil => simp [alikeEntries]
  | cons e rest ih =>
    rw [alikeEntries, Bool.and_eq_true, ih, List.forall_mem_cons]
    simp only [List.any_eq_true, Bool.and_eq_true]

private theorem alikeFloat_symm {x y : Binary64}
    (alike : (Value.float x).alike (.float y) = true) :
    (Value.float y).alike (.float x) = true := by
  simp only [Value.alike, Binary64.numEq, Bool.or_eq_true, Bool.and_eq_true, beq_iff_eq,
    Bool.not_eq_true'] at alike ⊢
  rcases alike with ⟨nan, nan'⟩ | ⟨⟨number, number'⟩, same⟩
  · exact .inl ⟨nan', nan⟩
  · exact .inr ⟨⟨number', number⟩, same.symm⟩

private theorem alikeFloat_trans {x y z : Binary64}
    (first : (Value.float x).alike (.float y) = true)
    (second : (Value.float y).alike (.float z) = true) :
    (Value.float x).alike (.float z) = true := by
  simp only [Value.alike, Binary64.numEq, Bool.or_eq_true, Bool.and_eq_true, beq_iff_eq,
    Bool.not_eq_true'] at first second ⊢
  rcases first with ⟨nan, nan'⟩ | ⟨⟨number, number'⟩, same⟩ <;>
    rcases second with ⟨nan'', nan₃⟩ | ⟨⟨number'', number₃⟩, same'⟩
  · exact .inl ⟨nan, nan₃⟩
  · exact absurd (nan'.symm.trans number'') (by decide)
  · exact absurd (nan''.symm.trans number') (by decide)
  · exact .inr ⟨⟨number, number₃⟩, same.trans same'⟩

mutual

/-- **Likeness is transitive.** -/
theorem alike_trans : (u : Value) → {v w : Value} → u.alike v = true → v.alike w = true →
    u.alike w = true
  | .null, v, w, first, second => by
    cases v <;> first | exact second | cases first
  | .bool x, v, w, first, second => by
    cases v with
    | bool y =>
      obtain rfl : x = y := by simpa [Value.alike] using first
      exact second
    | _ => cases first
  | .int x, v, w, first, second => by
    cases v with
    | int y =>
      obtain rfl : x = y := by simpa [Value.alike] using first
      exact second
    | _ => cases first
  | .str x, v, w, first, second => by
    cases v with
    | str y =>
      obtain rfl : x = y := by simpa [Value.alike] using first
      exact second
    | _ => cases first
  | .float x, v, w, first, second => by
    cases v with
    | float y =>
      cases w with
      | float z => exact alikeFloat_trans first second
      | _ => cases second
    | _ => cases first
  | .seq xs, v, w, first, second => by
    cases v with
    | seq ys =>
      cases w with
      | seq zs =>
        rw [Value.alike] at first second ⊢
        exact alikeItems_trans xs first second
      | _ => cases second
    | _ => cases first
  | .map es, v, w, first, second => by
    cases v with
    | map fs =>
      cases w with
      | map gs =>
        rw [Value.alike, Bool.and_eq_true, beq_iff_eq] at first second ⊢
        exact ⟨first.1.trans second.1, alikeEntries_trans es first.2 second.2⟩
      | _ => cases second
    | _ => cases first
  | .tagged t u, v, w, first, second => by
    cases v with
    | tagged t' v =>
      cases w with
      | tagged t'' w =>
        rw [Value.alike, Bool.and_eq_true, beq_iff_eq] at first second ⊢
        exact ⟨first.1.trans second.1, alike_trans u first.2 second.2⟩
      | _ => cases second
    | _ => cases first

theorem alikeItems_trans : (xs : List Value) → {ys zs : List Value} →
    alikeItems xs ys = true → alikeItems ys zs = true → alikeItems xs zs = true
  | [], ys, zs, first, second => by
    cases ys with
    | nil => exact second
    | cons _ _ => cases first
  | x :: xs, ys, zs, first, second => by
    cases ys with
    | nil => cases first
    | cons y ys =>
      cases zs with
      | nil => cases second
      | cons z zs =>
        rw [alikeItems, Bool.and_eq_true] at first second ⊢
        exact ⟨alike_trans x first.1 second.1, alikeItems_trans xs first.2 second.2⟩

theorem alikeEntries_trans : (es : List (Value × Value)) → {fs gs : List (Value × Value)} →
    alikeEntries es fs = true → alikeEntries fs gs = true → alikeEntries es gs = true
  | [], _, _, _, _ => rfl
  | (k, v) :: rest, fs, gs, first, second => by
    rw [alikeEntries, Bool.and_eq_true, List.any_eq_true] at first ⊢
    obtain ⟨⟨f, member, alike⟩, others⟩ := first
    rw [Bool.and_eq_true] at alike
    obtain ⟨g, member', key, value⟩ := alikeEntries_iff.mp second f member
    refine ⟨⟨g, member', ?_⟩, alikeEntries_trans rest others second⟩
    rw [Bool.and_eq_true]
    exact ⟨alike_trans k alike.1 key, alike_trans v alike.2 value⟩

end

mutual

/-- **Likeness is symmetric** for values without a key that is there twice. -/
theorem alike_symm : (u : Value) → u.Neat → {v : Value} → u.alike v = true → v.alike u = true
  | .null, _, v, alike => by
    cases v <;> first | rfl | cases alike
  | .bool x, _, v, alike => by
    cases v with
    | bool y =>
      obtain rfl : x = y := by simpa [Value.alike] using alike
      exact alike
    | _ => cases alike
  | .int x, _, v, alike => by
    cases v with
    | int y =>
      obtain rfl : x = y := by simpa [Value.alike] using alike
      exact alike
    | _ => cases alike
  | .str x, _, v, alike => by
    cases v with
    | str y =>
      obtain rfl : x = y := by simpa [Value.alike] using alike
      exact alike
    | _ => cases alike
  | .float x, _, v, alike => by
    cases v with
    | float y => exact alikeFloat_symm alike
    | _ => cases alike
  | .seq xs, neat, v, alike => by
    cases v with
    | seq ys =>
      rw [Value.alike] at alike ⊢
      exact alikeItems_symm xs (fun x member => neat.part (.item member .here)) alike
    | _ => cases alike
  | .map es, neat, v, alike => by
    cases v with
    | map fs =>
      rw [Value.alike, Bool.and_eq_true, beq_iff_eq] at alike ⊢
      obtain ⟨length, each⟩ := alike
      have back := entry_symm es fun e member =>
        ⟨neat.part (.key member .here), neat.part (.entry member .here)⟩
      refine ⟨length.symm, alikeEntries_iff.mpr ?_⟩
      -- No two entries are alike to one, since then their keys would be alike.
      have apart : es.Pairwise fun e e' => ∀ f : Value × Value,
          e.1.alike f.1 = true ∧ e.2.alike f.2 = true →
          ¬ (e'.1.alike f.1 = true ∧ e'.2.alike f.2 = true) := by
        refine (List.Pairwise.and_mem.mp (neat es .here)).imp ?_
        rintro e e' ⟨_, member', distinct⟩ f ⟨key, _⟩ ⟨key', _⟩
        have same := alike_trans e.1 key ((back e' member').1 key')
        rw [distinct] at same
        cases same
      intro f member
      obtain ⟨e, member', key, value⟩ := exists_left_of_matching (alikeEntries_iff.mp each) apart
        (Nat.le_of_eq length.symm) f member
      exact ⟨e, member', (back e member').1 key, (back e member').2 value⟩
    | _ => cases alike
  | .tagged t u, neat, v, alike => by
    cases v with
    | tagged t' v =>
      rw [Value.alike, Bool.and_eq_true, beq_iff_eq] at alike ⊢
      exact ⟨alike.1.symm, alike_symm u (neat.part (.under .here)) alike.2⟩
    | _ => cases alike

theorem alikeItems_symm : (xs : List Value) → (∀ x ∈ xs, x.Neat) → {ys : List Value} →
    alikeItems xs ys = true → alikeItems ys xs = true
  | [], _, ys, alike => by
    cases ys with
    | nil => rfl
    | cons _ _ => cases alike
  | x :: xs, neat, ys, alike => by
    cases ys with
    | nil => cases alike
    | cons y ys =>
      rw [alikeItems, Bool.and_eq_true] at alike ⊢
      obtain ⟨here, others⟩ := List.forall_mem_cons.mp neat
      exact ⟨alike_symm x here alike.1, alikeItems_symm xs others alike.2⟩

theorem entry_symm : (es : List (Value × Value)) → (∀ e ∈ es, e.1.Neat ∧ e.2.Neat) →
    ∀ e ∈ es, (∀ {k : Value}, e.1.alike k = true → k.alike e.1 = true) ∧
      ∀ {v : Value}, e.2.alike v = true → v.alike e.2 = true
  | [], _, _, member => nomatch member
  | (k, v) :: rest, neat, e, member => by
    obtain ⟨here, others⟩ := List.forall_mem_cons.mp neat
    rcases List.mem_cons.mp member with rfl | member
    · exact ⟨alike_symm k here.1, alike_symm v here.2⟩
    · exact entry_symm rest others e member

end

end Value

end SchemaGen.Yaml
