import SchemaGen.Proofs.Yaml.Likeness
import SchemaGen.Proofs.Yaml.Spreading

/-!
# What mappings inherit

A merge key brings in the entries of its sources (`Source`), and a source may have
a merge key itself, so keys are inherited along chains (`Inherits`). One step takes
only the first link of a chain: the merge key of a source comes in as a key like
any other. A value is therefore without merge keys once it is resolved just if no
mapping that is come to on the way has a source with one (`markFree_iff`), and then
every mapping has all the keys that it inherits (`exists_alike_of_inherits`).
-/

namespace SchemaGen.Yaml

/-- The value stands at a position for values in the other: it is the other one,
or an item, the value of an entry or what is below a tag, at any depth. -/
inductive Value.Inside (w : Value) : Value → Prop where
  | here : Inside w w
  | item {v : Value} {items : List Value} (member : v ∈ items) (within : Inside w v) :
      Inside w (.seq items)
  | entry {e : Value × Value} {es : Entries} (member : e ∈ es) (within : Inside w e.2) :
      Inside w (.map es)
  | under {t : String} {v : Value} (within : Inside w v) : Inside w (.tagged t v)

theorem Value.Inside.trans {u v w : Value} (within : u.Inside v) (around : v.Inside w) :
    u.Inside w := by
  induction around with
  | here => exact within
  | item member _ ih => exact .item member ih
  | entry member _ ih => exact .entry member ih
  | under _ ih => exact .under ih

/-- What stands at a position for values is a part. -/
theorem Value.Inside.part {v w : Value} (within : v.Inside w) : v.Part w := by
  induction within with
  | here => exact .here
  | item member _ ih => exact .item member ih
  | entry member _ ih => exact .entry member ih
  | under _ ih => exact .under ih

theorem Value.entries?_eq_some_iff {v : Value} {es : Entries} :
    v.entries? = some es ↔ v.untagged = .map es := by
  unfold Value.entries?
  cases v.untagged <;> simp

theorem Value.inside_untagged (v : Value) : v.untagged.Inside v := by
  fun_induction Value.untagged v with
  | case1 t v ih => exact .under ih
  | case2 v _ => exact .here

theorem Value.inside_of_entries? {v : Value} {es : Entries} (mapping : v.entries? = some es) :
    (Value.map es).Inside v :=
  entries?_eq_some_iff.mp mapping ▸ inside_untagged v

/-- No mapping in the value has a key twice. -/
def Value.Tidy (v : Value) : Prop :=
  ∀ es, (Value.map es).Inside v → Entries.Distinct es

theorem Value.Tidy.inside {v w : Value} (tidy : w.Tidy) (within : v.Inside w) : v.Tidy :=
  fun es inner => tidy es (inner.trans within)

namespace MergeKey

/-! ## Sources -/

/-- The mapping is one of those that the value of a merge key stands for. -/
def Brings (v : Value) (src : Entries) : Prop :=
  v = .map src ∨ ∃ items, v = .seq items ∧ .map src ∈ items

/-- The mapping is a source of the other: it is what its merge key stands for. -/
def Source (es src : Entries) : Prop :=
  ∃ v, (mark, v) ∈ es ∧ Brings v src

/-- The mapping has the key, or inherits it along a chain of merge keys. -/
inductive Inherits : Entries → Value → Prop where
  | own {es : Entries} {e : Value × Value} (member : e ∈ es) (plain : e.1 ≠ mark) :
      Inherits es e.1
  | through {es src : Entries} {k : Value} (source : Source es src) (further : Inherits src k) :
      Inherits es k

theorem mapM_entriesOf {items : List Value} {found : List Entries}
    (brings : items.mapM entriesOf = .ok found) : items = found.map .map := by
  have pairs := mapM_eq_ok_iff.mp brings
  clear brings
  induction pairs with
  | nil => rfl
  | @cons v es rest found here _ ih =>
    cases v with
    | map es' =>
      cases here
      rw [List.map_cons, ← ih]
    | _ => cases here

/-- The entries that are brought in are those of the sources, in their order. -/
theorem exists_of_brought {v : Value} {more : Entries} (brings : brought v = .ok more) :
    ∃ found : List Entries, more = found.flatten ∧ ∀ src, src ∈ found ↔ Brings v src := by
  cases v with
  | map es =>
    cases brings
    refine ⟨[more], by simp, fun src => ?_⟩
    simp [Brings, eq_comm]
  | seq items =>
    obtain ⟨found, all, same⟩ := bind_eq_ok.mp brings
    obtain rfl := mapM_entriesOf all
    exact ⟨found, (Except.ok.inj same).symm, fun src => by simp [Brings]⟩
  | _ => cases brings

theorem mem_brought {v : Value} {more : Entries} (brings : brought v = .ok more)
    {e : Value × Value} : e ∈ more ↔ ∃ src, Brings v src ∧ e ∈ src := by
  obtain ⟨found, rfl, sources⟩ := exists_of_brought brings
  simp only [List.mem_flatten, sources]

theorem inside_of_brings {v : Value} {src : Entries} (brings : Brings v src) {e : Value × Value}
    (member : e ∈ src) : e.2.Inside v := by
  rcases brings with rfl | ⟨items, rfl, listed⟩
  · exact .entry member .here
  · exact .item listed (.entry member .here)

/-! ## The entries after a step -/

/-- The last one comes first. -/
def lastFirst {α : Type} (xs : List α) : List α :=
  match xs.getLast? with
  | some last => last :: xs.dropLast
  | none => []

@[simp]
theorem lastFirst_nil {α : Type} : lastFirst ([] : List α) = [] :=
  rfl

@[simp]
theorem lastFirst_concat {α : Type} (xs : List α) (last : α) :
    lastFirst (xs ++ [last]) = last :: xs := by
  simp [lastFirst]

theorem mem_lastFirst {α : Type} {x : α} {xs : List α} : x ∈ lastFirst xs ↔ x ∈ xs := by
  rcases List.eq_nil_or_concat xs with rfl | ⟨front, last, rfl⟩
  · simp
  · rw [List.concat_eq_append, lastFirst_concat]
    simp [or_comm]

/-- What is swapped out leaves its place to the last one behind it. -/
theorem swapRemove_append {α : Type} (front : List α) (x : α) (back : List α) :
    swapRemove (front ++ x :: back) front.length = front ++ lastFirst back := by
  rcases List.eq_nil_or_concat back with rfl | ⟨init, last, rfl⟩
  · simp [swapRemove]
  · have whole : front ++ x :: (init ++ [last]) = (front ++ x :: init) ++ [last] := by simp
    rw [List.concat_eq_append, lastFirst_concat, swapRemove, whole, List.getLast?_concat,
      List.dropLast_concat]
    simp

/-- What one step makes of the entries of a mapping. -/
inductive Spreads : Entries → Entries → Prop where
  | plain {es : Entries} (unmarked : ∀ e ∈ es, e.1 ≠ mark) : Spreads es es
  | marked {front back more : Entries} {v : Value} (unmarked : ∀ e ∈ front, e.1 ≠ mark)
      (brings : brought v = .ok more) :
      Spreads (front ++ (mark, v) :: back) (more.foldl bringIn (front ++ lastFirst back))

theorem spreads_of_spread {es around : Entries} (step : spread es = .ok around) :
    Spreads es around := by
  unfold spread at step
  split at step
  · rename_i none
    cases step
    exact .plain (by simpa using none)
  · rename_i i found
    obtain ⟨less, marked, before⟩ := List.findIdx?_eq_some_iff_getElem.mp found
    -- The entry that was found splits the list.
    have split : es = es.take i ++ (es[i].1, es[i].2) :: es.drop (i + 1) := by
      rw [Prod.eta, List.getElem_cons_drop less, List.take_append_drop]
    have length : (es.take i).length = i := by simp; omega
    have unmarked : ∀ e ∈ es.take i, e.1 ≠ mark := by
      intro e member
      obtain ⟨j, less', rfl⟩ := List.mem_iff_getElem.mp member
      rw [length] at less'
      simpa using before j less'
    rw [List.getElem?_eq_getElem less] at step
    obtain ⟨more, brings, same⟩ := bind_eq_ok.mp step
    cases same
    have swapped := swapRemove_append (es.take i) (es[i].1, es[i].2) (es.drop (i + 1))
    rw [← split, length] at swapped
    rw [swapped]
    rw [of_decide_eq_true marked] at split
    have spreads : Spreads (es.take i ++ (mark, es[i].2) :: es.drop (i + 1))
        (more.foldl bringIn (es.take i ++ lastFirst (es.drop (i + 1)))) :=
      .marked unmarked brings
    rwa [← split] at spreads

/-- A fold that keeps what it has, or appends the next item to it, appends some of the items
in their order. -/
theorem exists_foldl_eq_append {α : Type} {f : List α → α → List α}
    (step : ∀ xs x, f xs x = xs ∨ f xs x = xs ++ [x]) (more base : List α) :
    ∃ added, added.Sublist more ∧ more.foldl f base = base ++ added := by
  induction more generalizing base with
  | nil => exact ⟨[], .slnil, (List.append_nil base).symm⟩
  | cons x rest ih =>
    obtain ⟨added, taken, same⟩ := ih (f base x)
    rw [List.foldl_cons, same]
    rcases step base x with kept | appended
    · exact ⟨added, taken.cons x, by rw [kept]⟩
    · refine ⟨x :: added, taken.cons_cons x, ?_⟩
      rw [appended, List.append_assoc, List.singleton_append]

/-- What is there is not touched, and what comes behind it is brought in. -/
theorem exists_foldl_bringIn_eq {α : Type} (more base : List (Value × α)) :
    ∃ added, added.Sublist more ∧ more.foldl bringIn base = base ++ added := by
  refine exists_foldl_eq_append (fun es e => ?_) more base
  unfold bringIn
  split
  · exact .inl rfl
  · exact .inr rfl

theorem exists_of_mem_foldl_bringIn {more base : Entries} {e : Value × Value}
    (member : e ∈ more.foldl bringIn base) : e ∈ base ∨ e ∈ more := by
  obtain ⟨added, taken, same⟩ := exists_foldl_bringIn_eq more base
  rw [same] at member
  exact (List.mem_append.mp member).imp_right (taken.subset ·)

theorem prefix_foldl_bringIn {α : Type} (more base : List (Value × α)) :
    base <+: more.foldl bringIn base := by
  obtain ⟨added, _, same⟩ := exists_foldl_bringIn_eq more base
  exact ⟨added, same.symm⟩

/-- What is brought in is there in the end, unless its key was. -/
theorem exists_alike_of_mem {more base : Entries} {e : Value × Value} (member : e ∈ more) :
    ∃ o ∈ more.foldl bringIn base, o.1.alike e.1 = true := by
  induction more generalizing base with
  | nil => cases member
  | cons x rest ih =>
    rcases List.mem_cons.mp member with rfl | member
    · obtain ⟨o, there, alike⟩ : ∃ o ∈ bringIn base e, o.1.alike e.1 = true := by
        unfold bringIn
        split
        · rename_i present
          exact List.any_eq_true.mp present
        · exact ⟨e, by simp, Value.alike_refl e.1⟩
      exact ⟨o, (prefix_foldl_bringIn rest _).subset there, alike⟩
    · exact ih member

section

variable {es around src : Entries}

/-- Each value that a step comes to stood in the mapping. -/
theorem inside_of_mem_spread (step : spread es = .ok around) {e : Value × Value}
    (member : e ∈ around) : e.2.Inside (.map es) := by
  cases spreads_of_spread step with
  | plain => exact .entry member .here
  | @marked front back more v _ brings =>
    rcases exists_of_mem_foldl_bringIn member with own | new
    · refine .entry ?_ .here
      rcases List.mem_append.mp own with before | after
      · exact List.mem_append_left _ before
      · exact List.mem_append_right _ (List.mem_cons_of_mem _ (mem_lastFirst.mp after))
    · obtain ⟨src, source, member⟩ := (mem_brought brings).mp new
      have marked : (mark, v) ∈ front ++ (mark, v) :: back := by simp
      exact .entry marked (inside_of_brings source member)

/-- A mapping keeps its own entries, but for its merge key. -/
theorem mem_spread_of_mem (step : spread es = .ok around) {e : Value × Value} (member : e ∈ es)
    (plain : e.1 ≠ mark) : e ∈ around := by
  cases spreads_of_spread step with
  | plain => exact member
  | @marked front back more v _ _ =>
    refine (prefix_foldl_bringIn more _).subset ?_
    rcases List.mem_append.mp member with before | after
    · exact List.mem_append_left _ before
    · rcases List.mem_cons.mp after with rfl | after
      · exact absurd rfl plain
      · exact List.mem_append_right _ (mem_lastFirst.mpr after)

/-- The sources of a mapping whose keys are distinct are what its one merge key brings
in. -/
theorem source_marked_iff {front back : Entries} {v : Value}
    (distinct : Entries.Distinct (front ++ (mark, v) :: back))
    (before : ∀ e ∈ front, e.1 ≠ mark) :
    Source (front ++ (mark, v) :: back) src ↔ Brings v src := by
  refine ⟨fun ⟨v', marked, brings⟩ => ?_, fun brings => ⟨v, by simp, brings⟩⟩
  rcases List.mem_append.mp marked with early | late
  · exact absurd rfl (before _ early)
  · rcases List.mem_cons.mp late with same | late
    · exact (Prod.mk.inj same).2 ▸ brings
    · exact absurd rfl (distinct.unmarked_after _ late)

/-- A mapping whose keys are distinct gets the keys of all its sources. -/
theorem exists_alike_of_source (distinct : Entries.Distinct es) (step : spread es = .ok around)
    (source : Source es src) {e : Value × Value} (member : e ∈ src) :
    ∃ o ∈ around, o.1.alike e.1 = true := by
  cases spreads_of_spread step with
  | plain unmarked =>
    obtain ⟨v, marked, _⟩ := source
    exact absurd rfl (unmarked _ marked)
  | marked before brings =>
    have source := (source_marked_iff distinct before).mp source
    exact exists_alike_of_mem ((mem_brought brings).mpr ⟨src, source, member⟩)

/-- **A merge key is left** just if a source has one. -/
theorem mark_mem_spread_iff (distinct : Entries.Distinct es) (step : spread es = .ok around) :
    (∃ e ∈ around, e.1 = mark) ↔ ∃ src, Source es src ∧ ∃ e ∈ src, e.1 = mark := by
  constructor
  · rintro ⟨e, member, marked⟩
    cases spreads_of_spread step with
    | plain unmarked => exact absurd marked (unmarked e member)
    | @marked front back more v unmarked brings =>
      rcases exists_of_mem_foldl_bringIn member with own | new
      · rcases List.mem_append.mp own with before | after
        · exact absurd marked (unmarked e before)
        · exact absurd marked (distinct.unmarked_after e (mem_lastFirst.mp after))
      · obtain ⟨src, source, member⟩ := (mem_brought brings).mp new
        exact ⟨src, ⟨v, by simp, source⟩, e, member, marked⟩
  · rintro ⟨src, source, e, member, marked⟩
    obtain ⟨o, there, alike⟩ := exists_alike_of_source distinct step source member
    rw [marked] at alike
    exact ⟨o, there, alike_mark_iff.mp alike⟩

/-- Without merge keys in its sources a mapping gets all that it inherits. -/
theorem exists_alike_of_inherits (distinct : Entries.Distinct es) (step : spread es = .ok around)
    (plain : ∀ src, Source es src → ∀ e ∈ src, e.1 ≠ mark) {k : Value} (inherits : Inherits es k) :
    ∃ o ∈ around, o.1.alike k = true := by
  cases inherits with
  | own member unmarked =>
    exact ⟨_, mem_spread_of_mem step member unmarked, Value.alike_refl _⟩
  | through source further =>
    -- The chain ends here: the source has no merge key to follow.
    cases further with
    | own member _ => exact exists_alike_of_source distinct step source member
    | through source' _ =>
      obtain ⟨v, marked, _⟩ := source'
      exact absurd rfl (plain _ source _ marked)

end

/-! ## Whole values -/

/-- Resolving the value comes to the other one at some position. -/
inductive Reached (r : Value) : Value → Prop where
  | here : Reached r r
  | item {v : Value} {items : List Value} (member : v ∈ items) (within : Reached r v) :
      Reached r (.seq items)
  | entry {e : Value × Value} {es around : Entries} (step : spread es = .ok around)
      (member : e ∈ around) (within : Reached r e.2) : Reached r (.map es)
  | under {t : String} {v : Value} (within : Reached r v) : Reached r (.tagged t v)

theorem Reached.inside {r v : Value} (reached : Reached r v) : r.Inside v := by
  induction reached with
  | here => exact .here
  | item member _ ih => exact .item member ih
  | entry step member _ ih => exact ih.trans (inside_of_mem_spread step member)
  | under _ ih => exact .under ih

theorem Reached.trans {r s v : Value} (first : Reached r s) (then' : Reached s v) :
    Reached r v := by
  induction then' with
  | here => exact first
  | item member _ ih => exact .item member ih
  | entry step member _ ih => exact .entry step member ih
  | under _ ih => exact .under ih

/-- What stands in a resolved value was come to, and resolved. -/
theorem exists_reached_of_inside {u v w : Value} (done : resolve v = .ok w) (within : u.Inside w) :
    ∃ r, Reached r v ∧ resolve r = .ok u := by
  induction within generalizing v with
  | here => exact ⟨v, .here, done⟩
  | item member _ ih =>
    cases v with
    | seq items =>
      obtain ⟨out, pairs, same⟩ := resolve_eq_ok_seq.mp done
      cases same
      obtain ⟨x, member', inner⟩ := exists_left pairs member
      obtain ⟨r, reached, resolved⟩ := ih inner
      exact ⟨r, .item member' reached, resolved⟩
    | map es =>
      obtain ⟨_, _, _, _, same⟩ := resolve_eq_ok_map.mp done
      cases same
    | tagged t v =>
      obtain ⟨_, _, same⟩ := resolve_eq_ok_tagged.mp done
      cases same
    | _ => cases done
  | entry member _ ih =>
    obtain ⟨es, around, rfl, step, resolves⟩ := exists_of_resolve_eq_map done
    obtain ⟨e, member', _, inner⟩ := exists_left resolves member
    obtain ⟨r, reached, resolved⟩ := ih inner
    exact ⟨r, .entry step member' reached, resolved⟩
  | under _ ih =>
    cases v with
    | tagged t v =>
      obtain ⟨u, inner, same⟩ := resolve_eq_ok_tagged.mp done
      cases same
      obtain ⟨r, reached, resolved⟩ := ih inner
      exact ⟨r, .under reached, resolved⟩
    | map es =>
      obtain ⟨_, _, _, _, same⟩ := resolve_eq_ok_map.mp done
      cases same
    | seq items =>
      obtain ⟨_, _, same⟩ := resolve_eq_ok_seq.mp done
      cases same
    | _ => cases done

/-- What is come to stands, once it is resolved, in the resolved value. -/
theorem Reached.exists_inside {r v w : Value} (reached : Reached r v) (done : resolve v = .ok w) :
    ∃ u, u.Inside w ∧ resolve r = .ok u := by
  induction reached generalizing w with
  | here => exact ⟨w, .here, done⟩
  | item member _ ih =>
    obtain ⟨out, pairs, rfl⟩ := resolve_eq_ok_seq.mp done
    obtain ⟨y, member', inner⟩ := exists_left pairs.flip member
    obtain ⟨u, within, resolved⟩ := ih inner
    exact ⟨u, .item member' within, resolved⟩
  | entry step member _ ih =>
    obtain ⟨around, out, step', resolves, rfl⟩ := resolve_eq_ok_map.mp done
    obtain rfl := Except.ok.inj (step.symm.trans step')
    obtain ⟨o, member', _, inner⟩ := exists_left resolves.flip member
    obtain ⟨u, within, resolved⟩ := ih inner
    exact ⟨u, .entry member' within, resolved⟩
  | under _ ih =>
    obtain ⟨u, inner, rfl⟩ := resolve_eq_ok_tagged.mp done
    obtain ⟨u', within, resolved⟩ := ih inner
    exact ⟨u', .under within, resolved⟩

/-- No mapping in the value has a merge key. -/
def MarkFree (v : Value) : Prop :=
  ∀ es, (Value.map es).Inside v → ∀ e ∈ es, e.1 ≠ mark

theorem markFree_map_iff {es : Entries} :
    MarkFree (.map es) ↔ ∀ e ∈ es, e.1 ≠ mark ∧ MarkFree e.2 := by
  constructor
  · exact fun free e member =>
      ⟨free es .here e member, fun es' within => free es' (.entry member within)⟩
  · intro free es' within
    cases within with
    | here => exact fun e member => (free e member).1
    | entry member within => exact (free _ member).2 es' within

theorem markFree_str (text : String) : MarkFree (.str text) := by
  intro es within
  cases within

/-- Every mapping that resolving the value comes to gets all the keys that it
inherits, however long the chain. -/
def Whole (v : Value) : Prop :=
  ∀ es, Reached (.map es) v → ∀ out, resolve (.map es) = .ok (.map out) →
    ∀ k, Inherits es k → Entries.hasAlike out k = true

/-- A mapping that resolving the value comes to has a source with a merge key. -/
def Chained (v : Value) : Prop :=
  ∃ es src, Reached (.map es) v ∧ Source es src ∧ ∃ e ∈ src, e.1 = mark

/-- **No merge key is left** just if there are no chains. -/
theorem markFree_iff {v w : Value} (tidy : v.Tidy) (done : resolve v = .ok w) :
    MarkFree w ↔ ¬ Chained v := by
  constructor
  · rintro free ⟨es, src, reached, source, marked⟩
    obtain ⟨u, within, resolved⟩ := reached.exists_inside done
    obtain ⟨around, out, step, resolves, rfl⟩ := resolve_eq_ok_map.mp resolved
    obtain ⟨e, member, same⟩ :=
      (mark_mem_spread_iff (tidy es reached.inside) step).mpr ⟨src, source, marked⟩
    obtain ⟨o, member', key, _⟩ := exists_left resolves.flip member
    exact free out within o member' (key.trans same)
  · intro plain out within o member marked
    obtain ⟨r, reached, resolved⟩ := exists_reached_of_inside done within
    obtain ⟨es, around, rfl, step, resolves⟩ := exists_of_resolve_eq_map resolved
    obtain ⟨e, member', key, _⟩ := exists_left resolves member
    obtain ⟨src, source, marked'⟩ := (mark_mem_spread_iff (tidy es reached.inside) step).mp
      ⟨e, member', key.symm.trans marked⟩
    exact plain ⟨es, src, reached, source, marked'⟩

/-- Without chains all that is inherited is there. -/
theorem whole_of_not_chained {v : Value} (tidy : v.Tidy) (plain : ¬ Chained v) : Whole v := by
  intro es reached out resolved k inherits
  obtain ⟨around, out', step, resolves, same⟩ := resolve_eq_ok_map.mp resolved
  cases same
  have sources : ∀ src, Source es src → ∀ e ∈ src, e.1 ≠ mark := fun src source e member marked =>
    plain ⟨es, src, reached, source, e, member, marked⟩
  obtain ⟨e, member, alike⟩ :=
    exists_alike_of_inherits (tidy es reached.inside) step sources inherits
  obtain ⟨o, member', key, _⟩ := exists_left resolves.flip member
  rw [← key] at alike
  exact List.any_eq_true.mpr ⟨o, member', alike⟩

end MergeKey

end SchemaGen.Yaml
