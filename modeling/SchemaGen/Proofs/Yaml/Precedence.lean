import SchemaGen.Proofs.Yaml.Inheriting

/-!
# Which entry counts

A mapping has its own entries and those of its sources, the ones that its merge key
stands for (`Sources`). Once it is resolved it has the keys of all of them, each
one time: its own entries count first, and then the first source that has a key
(`Layers`). What stands at a place in a value stands there, resolved, in the
resolved value (`Stands.exists_stands`).
-/

namespace SchemaGen.Yaml.MergeKey

/-! ## Places -/

/-- A step from a collection or a tag to what is in it or below it. -/
inductive Step where
  | item (i : Nat)
  | key (k : Value)
  | under (tag : String)

/-- The value stands at a place in the other one. No merge key is on the way. -/
inductive Stands (w : Value) : List Step → Value → Prop where
  | here : Stands w [] w
  | item {path : List Step} {i : Nat} {v : Value} {items : List Value}
      (found : items[i]? = some v) (within : Stands w path v) :
      Stands w (.item i :: path) (.seq items)
  | entry {path : List Step} {e : Value × Value} {es : Entries} (member : e ∈ es)
      (plain : e.1 ≠ mark) (within : Stands w path e.2) :
      Stands w (.key e.1 :: path) (.map es)
  | under {path : List Step} {t : String} {v : Value} (within : Stands w path v) :
      Stands w (.under t :: path) (.tagged t v)

theorem Stands.inside {path : List Step} {v w : Value} (stands : Stands w path v) :
    w.Inside v := by
  induction stands with
  | here => exact .here
  | item found _ ih => exact .item (List.mem_of_getElem? found) ih
  | entry member _ _ ih => exact .entry member ih
  | under _ ih => exact .under ih

/-! ## What a mapping is made of -/

/-- The entries that are written in a mapping, but for its merge key. -/
def own (es : Entries) : Entries :=
  es.filter (·.1 ≠ mark)

/-- The mappings that the merge key of a mapping stands for, in their order. -/
inductive Sources (es : Entries) : List Entries → Prop where
  | none (unmarked : ∀ e ∈ es, e.1 ≠ mark) : Sources es []
  | one {src : Entries} (marked : (mark, .map src) ∈ es) : Sources es [src]
  | many {sources : List Entries} (marked : (mark, .seq (sources.map .map)) ∈ es) :
      Sources es sources

/-- The mapping has the keys of these entries and of the sources, each once. Its own
entries count before those of the sources, and an earlier source before a later one;
the values that count are resolved. -/
structure Layers (entries : Entries) (sources : List Entries) (out : Entries) : Prop where
  distinct : Entries.Distinct out
  keys : ∀ k, Entries.hasAlike out k = true ↔
    Entries.hasAlike entries k = true ∨ ∃ src ∈ sources, Entries.hasAlike src k = true
  own : ∀ e ∈ entries, ∃ u, resolve e.2 = .ok u ∧ (e.1, u) ∈ out
  inherited : ∀ before src after, sources = before ++ src :: after → ∀ e ∈ src,
    Entries.hasAlike entries e.1 = false → (∀ s ∈ before, Entries.hasAlike s e.1 = false) →
    ∃ u, resolve e.2 = .ok u ∧ (e.1, u) ∈ out

/-! ## Entries that are brought in -/

section

variable {base more : Entries} {k : Value}

theorem hasAlike_iff {es : Entries} :
    Entries.hasAlike es k = true ↔ ∃ e ∈ es, e.1.alike k = true :=
  List.any_eq_true

theorem hasAlike_append {es fs : Entries} : Entries.hasAlike (es ++ fs) k = true ↔
    Entries.hasAlike es k = true ∨ Entries.hasAlike fs k = true := by
  rw [Entries.hasAlike, List.any_append, Bool.or_eq_true]
  rfl

theorem distinct_foldl_bringIn (distinct : Entries.Distinct base) :
    Entries.Distinct (more.foldl bringIn base) := by
  induction more generalizing base with
  | nil => exact distinct
  | cons e rest ih =>
    refine ih ?_
    unfold bringIn
    split
    · exact distinct
    · rename_i absent
      refine List.pairwise_append.mpr ⟨distinct, List.pairwise_singleton _ _, ?_⟩
      intro o member e' last
      rw [List.mem_singleton.mp last]
      exact Bool.eq_false_iff.mpr fun alike => absent (List.any_eq_true.mpr ⟨o, member, alike⟩)

/-- The keys that were there and those that are brought in are all the keys. -/
theorem hasAlike_foldl_bringIn : Entries.hasAlike (more.foldl bringIn base) k = true ↔
    Entries.hasAlike base k = true ∨ Entries.hasAlike more k = true := by
  simp only [hasAlike_iff]
  constructor
  · rintro ⟨o, member, alike⟩
    rcases exists_of_mem_foldl_bringIn member with there | new
    · exact .inl ⟨o, there, alike⟩
    · exact .inr ⟨o, new, alike⟩
  · rintro (⟨o, there, alike⟩ | ⟨e, new, alike⟩)
    · exact ⟨o, (prefix_foldl_bringIn more base).subset there, alike⟩
    · obtain ⟨o, member, same⟩ : ∃ o ∈ more.foldl bringIn base, o.1.alike e.1 = true :=
        exists_alike_of_mem new
      exact ⟨o, member, Value.alike_trans o.1 same alike⟩

/-- **The first entry of its key** is brought in. -/
theorem mem_foldl_bringIn {front back : Entries} {e : Value × Value}
    (fresh : Entries.hasAlike base e.1 = false) (first : Entries.hasAlike front e.1 = false) :
    e ∈ (front ++ e :: back).foldl bringIn base := by
  rw [List.foldl_append, List.foldl_cons]
  refine (prefix_foldl_bringIn back _).subset ?_
  have absent : ¬ ((front.foldl bringIn base).any fun o => o.1.alike e.1) = true := by
    rw [← Entries.hasAlike, hasAlike_foldl_bringIn]
    simp [fresh, first]
  rw [bringIn, if_neg absent]
  exact List.mem_append_right _ (List.mem_singleton_self e)

end

/-- Moving the last entry to the front keeps the keys distinct. -/
theorem distinct_lastFirst {front back : Entries} (neat : ∀ e ∈ back, e.1.Neat)
    (distinct : Entries.Distinct (front ++ back)) :
    Entries.Distinct (front ++ lastFirst back) := by
  rcases List.eq_nil_or_concat back with rfl | ⟨init, last, rfl⟩
  · exact distinct
  · rw [List.concat_eq_append] at distinct neat ⊢
    rw [lastFirst_concat]
    obtain ⟨before, after, apart⟩ := List.pairwise_append.mp distinct
    obtain ⟨middle, _, apart'⟩ := List.pairwise_append.mp after
    refine List.pairwise_append.mpr ⟨before, List.pairwise_cons.mpr ⟨?_, middle⟩, ?_⟩
    · -- Only here does the order of two keys change.
      intro e member
      have old := apart' e member last (List.mem_singleton_self last)
      refine Bool.eq_false_iff.mpr fun alike => ?_
      rw [Value.alike_symm last.1 (neat last (by simp)) alike] at old
      cases old
    · intro e member o moved
      refine apart e member o ?_
      rcases List.mem_cons.mp moved with rfl | moved
      · simp
      · exact List.mem_append_left _ moved

/-! ## One step -/

section

variable {es around : Entries}

theorem mem_own {e : Value × Value} : e ∈ own es ↔ e ∈ es ∧ e.1 ≠ mark := by
  simp [own]

theorem own_of_unmarked (unmarked : ∀ e ∈ es, e.1 ≠ mark) : own es = es :=
  List.filter_eq_self.mpr fun e member => decide_eq_true (unmarked e member)

/-- What a value brings in under a merge key is what the sources have, one after the
other. -/
theorem exists_sources_of_brought {v : Value} {more : Entries} (brings : brought v = .ok more) :
    ∃ sources : List Entries, more = sources.flatten ∧
      ∀ es, (mark, v) ∈ es → Sources es sources := by
  cases v with
  | map src =>
    cases brings
    exact ⟨[more], by simp, fun es => .one⟩
  | seq items =>
    obtain ⟨sources, all, same⟩ := bind_eq_ok.mp brings
    obtain rfl := mapM_entriesOf all
    exact ⟨sources, (Except.ok.inj same).symm, fun es => .many⟩
  | _ => cases brings

/-- A mapping has only one merge key. -/
theorem eq_of_marked (distinct : Entries.Distinct es) {v v' : Value} (here : (mark, v) ∈ es)
    (there : (mark, v') ∈ es) : v = v' := by
  obtain ⟨front, back, rfl⟩ := List.append_of_mem here
  rcases List.mem_append.mp there with early | late
  · have apart := (List.pairwise_append.mp distinct).2.2 _ early _ List.mem_cons_self
    rw [Value.alike_refl] at apart
    cases apart
  · rcases List.mem_cons.mp late with same | late
    · exact (Prod.mk.inj same).2.symm
    · exact absurd rfl (distinct.unmarked_after _ late)

/-- The sources of a mapping are determined. -/
theorem Sources.unique {sources sources' : List Entries} (distinct : Entries.Distinct es)
    (has : Sources es sources) (has' : Sources es sources') : sources = sources' := by
  have inj : Function.Injective (List.map Value.map) :=
    List.map_injective_iff.mpr fun _ _ => Value.map.inj
  cases has with
  | none unmarked =>
    cases has' with
    | none => rfl
    | one marked | many marked => exact absurd rfl (unmarked _ marked)
  | one marked =>
    cases has' with
    | none unmarked => exact absurd rfl (unmarked _ marked)
    | one marked' =>
      cases eq_of_marked distinct marked marked'
      rfl
    | many marked' => cases eq_of_marked distinct marked marked'
  | many marked =>
    cases has' with
    | none unmarked => exact absurd rfl (unmarked _ marked)
    | one marked' => cases eq_of_marked distinct marked marked'
    | many marked' => exact inj (Value.seq.inj (eq_of_marked distinct marked marked'))

/-- Without a merge key there is nothing to do. -/
theorem spread_of_unmarked (unmarked : ∀ e ∈ es, e.1 ≠ mark) (step : spread es = .ok around) :
    around = es := by
  cases spreads_of_spread step with
  | plain => rfl
  | marked => exact absurd rfl (unmarked _ (List.mem_append_right _ List.mem_cons_self))

/-- **One step** puts the entries of the sources behind the own ones. -/
theorem exists_sources_of_spread (distinct : Entries.Distinct es) (neat : ∀ e ∈ es, e.1.Neat)
    (step : spread es = .ok around) :
    ∃ sources base, Sources es sources ∧ around = sources.flatten.foldl bringIn base ∧
      Entries.Distinct base ∧ ∀ e, e ∈ base ↔ e ∈ own es := by
  cases spreads_of_spread step with
  | plain unmarked =>
    refine ⟨[], es, .none unmarked, rfl, distinct, fun e => ?_⟩
    rw [own_of_unmarked unmarked]
  | @marked front back more v before brings =>
    obtain ⟨sources, rfl, sourced⟩ := exists_sources_of_brought brings
    have after := distinct.unmarked_after
    refine ⟨sources, front ++ lastFirst back, sourced _ (by simp), rfl, ?_, fun e => ?_⟩
    · refine distinct_lastFirst (fun e member => neat e (by simp [member])) ?_
      exact distinct.sublist (by simp)
    · rw [mem_own]
      simp only [List.mem_append, List.mem_cons, mem_lastFirst]
      constructor
      · rintro (early | late)
        · exact ⟨.inl early, before e early⟩
        · exact ⟨.inr (.inr late), after e late⟩
      · rintro ⟨early | rfl | late, plain⟩
        · exact .inl early
        · exact absurd rfl plain
        · exact .inr late

end

/-! ## Resolved mappings -/

theorem Resolves.hasAlike_eq {around out : Entries} (resolves : Resolves around out) (k : Value) :
    Entries.hasAlike out k = Entries.hasAlike around k := by
  have keys : ∀ es : Entries, Entries.hasAlike es k = (es.map (·.1)).any (·.alike k) := by
    intro es
    rw [List.any_map]
    rfl
  rw [keys, keys, resolves.keys]

theorem Resolves.distinct {around out : Entries} (resolves : Resolves around out)
    (distinct : Entries.Distinct around) : Entries.Distinct out := by
  have keys : ∀ es : Entries, Entries.Distinct es ↔
      (es.map (·.1)).Pairwise fun a b => a.alike b = false := by
    intro es
    rw [List.pairwise_map]
    rfl
  rw [keys, resolves.keys, ← keys]
  exact distinct

/-- What is there before is there after, with its value resolved. -/
theorem Resolves.exists_mem {around out : Entries} (resolves : Resolves around out)
    {e : Value × Value} (member : e ∈ around) : ∃ u, resolve e.2 = .ok u ∧ (e.1, u) ∈ out := by
  obtain ⟨o, member', key, resolved⟩ := exists_left resolves.flip member
  exact ⟨o.2, resolved, key ▸ member'⟩

theorem hasAlike_congr {es fs : Entries} (same : ∀ e, e ∈ es ↔ e ∈ fs) (k : Value) :
    Entries.hasAlike es k = Entries.hasAlike fs k := by
  rw [Bool.eq_iff_iff, hasAlike_iff, hasAlike_iff]
  simp only [same]

theorem hasAlike_flatten {sources : List Entries} {k : Value} :
    Entries.hasAlike sources.flatten k = true ↔ ∃ src ∈ sources, Entries.hasAlike src k = true := by
  simp only [hasAlike_iff, List.mem_flatten]
  constructor
  · rintro ⟨e, ⟨src, listed, member⟩, alike⟩
    exact ⟨src, listed, e, member, alike⟩
  · rintro ⟨src, listed, e, member, alike⟩
    exact ⟨e, ⟨src, listed, member⟩, alike⟩

theorem Sources.part {es src : Entries} {sources : List Entries} (has : Sources es sources)
    (listed : src ∈ sources) : (Value.map src).Inside (.map es) := by
  cases has with
  | none => cases listed
  | one marked =>
    rw [List.mem_singleton.mp listed]
    exact .entry marked .here
  | many marked => exact .entry marked (.item (List.mem_map_of_mem listed) .here)

/-- **Resolving a mapping** gives it the layers that it has. -/
theorem exists_layers {es out : Entries} (neat : (Value.map es).Neat)
    (done : resolve (.map es) = .ok (.map out)) :
    ∃ sources, Sources es sources ∧ Layers (own es) sources out := by
  obtain ⟨around, out', step, resolves, same⟩ := resolve_eq_ok_map.mp done
  cases same
  obtain ⟨sources, base, sourced, rfl, distinct, members⟩ := exists_sources_of_spread
    (neat es .here) (fun e member => neat.part (.key member .here)) step
  have owned := hasAlike_congr members
  refine ⟨sources, sourced, ?_, fun k => ?_, fun e member => ?_, ?_⟩
  · exact resolves.distinct (distinct_foldl_bringIn distinct)
  · rw [resolves.hasAlike_eq, hasAlike_foldl_bringIn, owned, hasAlike_flatten]
  · exact resolves.exists_mem
      ((prefix_foldl_bringIn _ base).subset ((members e).mpr member))
  · rintro before src after rfl e member absent first
    -- The entry is the first of its key: the sources before have none, nor has its own.
    obtain ⟨front, back, rfl⟩ := List.append_of_mem member
    have src : Entries.Distinct (front ++ e :: back) :=
      neat _ (sourced.part (by simp)).part
    refine resolves.exists_mem ?_
    rw [List.flatten_append, List.flatten_cons, List.append_assoc, List.cons_append,
      ← List.append_assoc]
    refine mem_foldl_bringIn (by rw [owned, absent]) ?_
    refine Bool.eq_false_iff.mpr fun earlier => ?_
    rcases hasAlike_append.mp earlier with earlier | earlier
    · obtain ⟨s, listed, there⟩ := hasAlike_flatten.mp earlier
      rw [first s listed] at there
      cases there
    · obtain ⟨o, there, alike⟩ := hasAlike_iff.mp earlier
      rw [(List.pairwise_append.mp src).2.2 o there e List.mem_cons_self] at alike
      cases alike

/-- What stands at a place stands there once it is resolved. -/
theorem Stands.exists_stands {path : List Step} {v w u : Value} (stands : Stands w path v)
    (done : resolve v = .ok u) : ∃ w', resolve w = .ok w' ∧ Stands w' path u := by
  induction stands generalizing u with
  | here => exact ⟨u, done, .here⟩
  | @item path i v items found _ ih =>
    obtain ⟨out, pairs, rfl⟩ := resolve_eq_ok_seq.mp done
    obtain ⟨less, same⟩ := List.getElem?_eq_some_iff.mp found
    have less' : i < out.length := pairs.length_eq ▸ less
    have resolved := (List.forall₂_iff_get.mp pairs).2 i less less'
    simp only [List.get_eq_getElem, same] at resolved
    obtain ⟨w', done', stands⟩ := ih resolved
    exact ⟨w', done', .item (List.getElem?_eq_getElem less') stands⟩
  | @entry path e es member plain _ ih =>
    obtain ⟨around, out, step, resolves, rfl⟩ := resolve_eq_ok_map.mp done
    obtain ⟨v, resolved, there⟩ := resolves.exists_mem (mem_spread_of_mem step member plain)
    obtain ⟨w', done', stands⟩ := ih resolved
    exact ⟨w', done', .entry (e := (e.1, v)) there plain stands⟩
  | under _ ih =>
    obtain ⟨v, inner, rfl⟩ := resolve_eq_ok_tagged.mp done
    obtain ⟨w', done', stands⟩ := ih inner
    exact ⟨w', done', .under stands⟩

end SchemaGen.Yaml.MergeKey
