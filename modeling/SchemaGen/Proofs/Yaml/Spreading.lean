import SchemaGen.Proofs.Steps
import SchemaGen.Yaml.MergeKey

/-!
# One merge key at a time

Merge keys can be resolved by recursion on the value, each mapping after what is in
it. `Resolved` keeps both readings of a value, since it may be brought in: the value
it becomes, and the entries it would bring in. This is what visiting one address after
the other comes to.

Resolving a mapping is one step, `spread`, in which its own merge key and no other
is resolved, and then resolving the values that it has come to (`resolve_map`).
What a step brings in is not looked at again as part of the mapping.

`resolve_eq_ok_map` and its like read a value that was resolved from the outside
to the inside.
-/

namespace SchemaGen.Yaml

namespace MergeKey

/-! ## By recursion -/

/-- Entries whose values may be faulty. -/
abbrev Pending := List (Value × Except Fault Value)

/-- The two readings of a value. -/
structure Resolved where
  /-- The value with all merge keys resolved. -/
  value : Except Fault Value
  /-- The entries, if the value is a mapping itself. -/
  entries : Except Fault Pending
  /-- What the value brings in under a merge key. -/
  source : Except Fault Pending

/-- The entries of a mapping after its own merge key is resolved. -/
def resolveMark (entries : List (Value × Resolved)) : Except Fault Pending :=
  let plain : Pending := entries.map fun e => (e.1, e.2.value)
  match entries.findIdx? (·.1 = mark) with
  | none => .ok plain
  | some i => do
    let brought ← match entries[i]? with
      | some (_, r) => r.source
      | none => .ok []
    return brought.foldl bringIn (swapRemove plain i)

/-- The mapping that entries form, if none is faulty. -/
def assemble (entries : Pending) : Except Fault Value := do
  return .map (← entries.mapM fun e => do return (e.1, ← e.2))

mutual

/-- The two readings of a value. -/
def resolved : Value → Resolved
  | .map entries =>
    let entries := resolvedEntries entries
    let plain : Pending := entries.map fun e => (e.1, e.2.value)
    ⟨do assemble (← resolveMark entries), .ok plain, .ok plain⟩
  | .seq items =>
    let items := resolvedItems items
    ⟨do return .seq (← items.mapM (·.value)), .error .badMerge,
      do return (← items.mapM (·.entries)).flatten⟩
  | .tagged tag v =>
    ⟨(resolved v).value.map (.tagged tag), .error .badMerge, .error .badMerge⟩
  | .null => ⟨.ok .null, .error .badMerge, .error .badMerge⟩
  | .bool b => ⟨.ok (.bool b), .error .badMerge, .error .badMerge⟩
  | .int n => ⟨.ok (.int n), .error .badMerge, .error .badMerge⟩
  | .float x => ⟨.ok (.float x), .error .badMerge, .error .badMerge⟩
  | .str s => ⟨.ok (.str s), .error .badMerge, .error .badMerge⟩

/-- The readings of the items of a sequence. -/
def resolvedItems : List Value → List Resolved
  | [] => []
  | v :: rest => resolved v :: resolvedItems rest

/-- The readings of the values of a mapping. -/
def resolvedEntries : List (Value × Value) → List (Value × Resolved)
  | [] => []
  | (k, v) :: rest => (k, resolved v) :: resolvedEntries rest

end

/-- The value with all merge keys resolved. -/
def resolve (v : Value) : Except Fault Value :=
  (resolved v).value

/-- Entries with what becomes of their values. -/
def pending (es : Entries) : Pending :=
  es.map fun e => (e.1, resolve e.2)

/-! ## Values under their keys

No part of a step looks at the values. -/

section

variable {α β : Type} (f : α → β)

theorem swapRemove_map (xs : List α) (i : Nat) :
    swapRemove (xs.map f) i = (swapRemove xs i).map f := by
  unfold swapRemove
  rw [List.getLast?_map]
  cases xs.getLast? with
  | none => rfl
  | some last =>
    simp only [Option.map_some, List.length_map]
    split
    · rw [← List.map_dropLast, List.map_set]
    · rw [← List.map_dropLast]

theorem bringIn_map (es : List (Value × α)) (e : Value × α) :
    bringIn (es.map fun e => (e.1, f e.2)) (e.1, f e.2) =
      (bringIn es e).map fun e => (e.1, f e.2) := by
  unfold bringIn
  rw [List.any_map, Function.comp_def]
  split <;> simp

theorem foldl_bringIn_map (more es : List (Value × α)) :
    (more.map fun e => (e.1, f e.2)).foldl bringIn (es.map fun e => (e.1, f e.2)) =
      (more.foldl bringIn es).map fun e => (e.1, f e.2) := by
  induction more generalizing es with
  | nil => rfl
  | cons e rest ih => rw [List.map_cons, List.foldl_cons, List.foldl_cons, bringIn_map, ih]

end

/-! ## Resolving step by step -/

theorem resolvedItems_eq (items : List Value) : resolvedItems items = items.map resolved := by
  induction items with
  | nil => rfl
  | cons v rest ih => rw [resolvedItems, ih, List.map_cons]

theorem resolvedEntries_eq (es : Entries) :
    resolvedEntries es = es.map fun e => (e.1, resolved e.2) := by
  induction es with
  | nil => rfl
  | cons e rest ih => rw [resolvedEntries, ih, List.map_cons]

private theorem plain_eq (es : Entries) :
    ((resolvedEntries es).map fun e => (e.1, e.2.value)) = pending es := by
  rw [resolvedEntries_eq, List.map_map]
  rfl

theorem entries_resolved (v : Value) : (resolved v).entries = (entriesOf v).map pending := by
  cases v with
  | map es =>
    rw [resolved]
    exact congrArg Except.ok (plain_eq es)
  | _ => rfl

private theorem mapM_entries_resolved (items : List Value) :
    (items.map resolved).mapM (·.entries) =
      (items.mapM entriesOf).map fun found => found.map pending := by
  induction items with
  | nil => rfl
  | cons v rest ih =>
    rw [List.map_cons, List.mapM_cons, List.mapM_cons, ih, entries_resolved]
    cases entriesOf v <;> cases rest.mapM entriesOf <;> rfl

theorem source_resolved (v : Value) : (resolved v).source = (brought v).map pending := by
  cases v with
  | map es =>
    rw [resolved]
    exact congrArg Except.ok (plain_eq es)
  | seq items =>
    rw [resolved, resolvedItems_eq]
    simp only [mapM_entries_resolved, brought]
    cases items.mapM entriesOf with
    | error fault => rfl
    | ok found => exact congrArg Except.ok List.map_flatten.symm
  | _ => rfl

theorem resolveMark_resolvedEntries (es : Entries) :
    resolveMark (resolvedEntries es) = (spread es).map pending := by
  unfold resolveMark spread
  simp only [plain_eq]
  rw [resolvedEntries_eq, List.findIdx?_map, Function.comp_def]
  cases es.findIdx? (·.1 = mark) with
  | none => rfl
  | some i =>
    simp only [List.getElem?_map]
    cases es[i]? with
    | none => exact congrArg Except.ok (swapRemove_map _ es i)
    | some e =>
      simp only [Option.map_some, source_resolved]
      cases brought e.2 with
      | error fault => rfl
      | ok more =>
        refine congrArg Except.ok ?_
        rw [pending, pending, swapRemove_map, foldl_bringIn_map]
        rfl

/-- **Resolving a mapping** is a step, and resolving the values it comes to. -/
theorem resolve_map (es : Entries) : resolve (.map es) = do
    let around ← spread es
    return .map (← around.mapM fun e => do return (e.1, ← resolve e.2)) := by
  have opened : resolve (.map es) = (resolveMark (resolvedEntries es) >>= assemble) := by
    rw [resolve, resolved]
  rw [opened, resolveMark_resolvedEntries]
  cases spread es with
  | error fault => rfl
  | ok around =>
    change assemble (pending around) = _
    rw [assemble, pending, List.mapM_map]
    rfl

theorem resolve_seq (items : List Value) :
    resolve (.seq items) = do return .seq (← items.mapM resolve) := by
  rw [resolve, resolved, resolvedItems_eq, List.mapM_map]
  rfl

theorem resolve_tagged (t : String) (v : Value) :
    resolve (.tagged t v) = (resolve v).map (.tagged t) := by
  rw [resolve, resolved]
  rfl

/-! ## Values that were resolved -/

/-- What becomes of entries: the keys stay, and the values are resolved. -/
def Resolves (es out : Entries) : Prop :=
  List.Forall₂ (fun e o => o.1 = e.1 ∧ resolve e.2 = .ok o.2) es out

theorem Resolves.keys {es out : Entries} (resolves : Resolves es out) :
    out.map (·.1) = es.map (·.1) := by
  induction resolves with
  | nil => rfl
  | cons here _ ih => rw [List.map_cons, List.map_cons, here.1, ih]

/-- What stands under a string key was resolved. -/
theorem Resolves.exists_get? {es out : Entries} (resolves : Resolves es out) {key : String}
    {u : Value} (found : Entries.get? out key = some u) :
    ∃ v, Entries.get? es key = some v ∧ resolve v = .ok u := by
  induction resolves with
  | nil => cases found
  | @cons e o es out here _ ih =>
    obtain ⟨same, resolved⟩ := here
    rw [Entries.get?, List.lookup_cons, same] at found
    rw [Entries.get?, List.lookup_cons]
    split at found
    · cases found
      exact ⟨e.2, rfl, resolved⟩
    · exact ih found

theorem resolve_eq_ok_map {es : Entries} {w : Value} : resolve (.map es) = .ok w ↔
    ∃ around out, spread es = .ok around ∧ Resolves around out ∧ w = .map out := by
  have entry : ∀ {e o : Value × Value},
      (do return (e.1, ← resolve e.2) : Except Fault (Value × Value)) = .ok o ↔
        o.1 = e.1 ∧ resolve e.2 = .ok o.2 := by
    intro e o
    cases resolved : resolve e.2 with
    | error fault => exact ⟨nofun, fun done => nomatch done.2⟩
    | ok u =>
      change Except.ok (e.1, u) = .ok o ↔ _
      rw [Except.ok.injEq, Except.ok.injEq, Prod.ext_iff, eq_comm (a := e.1)]
  rw [resolve_map, bind_eq_ok]
  simp only [bind_eq_ok, mapM_eq_ok_iff, entry]
  constructor
  · rintro ⟨around, step, out, resolves, same⟩
    exact ⟨around, out, step, resolves, (Except.ok.inj same).symm⟩
  · rintro ⟨around, out, step, resolves, rfl⟩
    exact ⟨around, step, out, resolves, rfl⟩

theorem resolve_eq_ok_seq {items : List Value} {w : Value} : resolve (.seq items) = .ok w ↔
    ∃ out, List.Forall₂ (fun v u => resolve v = .ok u) items out ∧ w = .seq out := by
  rw [resolve_seq, bind_eq_ok]
  simp only [mapM_eq_ok_iff]
  constructor
  · rintro ⟨out, resolves, same⟩
    exact ⟨out, resolves, (Except.ok.inj same).symm⟩
  · rintro ⟨out, resolves, rfl⟩
    exact ⟨out, resolves, rfl⟩

theorem resolve_eq_ok_tagged {t : String} {v w : Value} : resolve (.tagged t v) = .ok w ↔
    ∃ u, resolve v = .ok u ∧ w = .tagged t u := by
  rw [resolve_tagged]
  cases resolve v with
  | error fault => exact ⟨nofun, fun ⟨_, other, _⟩ => nomatch other⟩
  | ok u =>
    constructor
    · exact fun done => ⟨u, rfl, (Except.ok.inj done).symm⟩
    · rintro ⟨_, same, rfl⟩
      cases same
      rfl

/-- Tags stay where they are. -/
theorem resolve_untagged {v w : Value} (done : resolve v = .ok w) :
    resolve v.untagged = .ok w.untagged := by
  fun_induction Value.untagged v generalizing w with
  | case1 t v ih =>
    obtain ⟨u, inner, rfl⟩ := resolve_eq_ok_tagged.mp done
    rw [Value.untagged_tagged]
    exact ih inner
  | case2 v untagged =>
    cases v with
    | tagged t v => exact absurd rfl (untagged t v)
    | map es =>
      obtain ⟨_, _, _, _, rfl⟩ := resolve_eq_ok_map.mp done
      exact done
    | seq items =>
      obtain ⟨_, _, rfl⟩ := resolve_eq_ok_seq.mp done
      exact done
    | null | bool | int | float | str =>
      cases done
      rfl

/-- A mapping comes of a mapping. -/
theorem exists_of_resolve_eq_map {v : Value} {out : Entries} (done : resolve v = .ok (.map out)) :
    ∃ es around, v = .map es ∧ spread es = .ok around ∧ Resolves around out := by
  cases v with
  | map es =>
    obtain ⟨around, out', step, resolves, same⟩ := resolve_eq_ok_map.mp done
    cases same
    exact ⟨es, around, rfl, step, resolves⟩
  | seq items =>
    obtain ⟨_, _, same⟩ := resolve_eq_ok_seq.mp done
    cases same
  | tagged t v =>
    obtain ⟨_, _, same⟩ := resolve_eq_ok_tagged.mp done
    cases same
  | null | bool | int | float | str => cases done

end MergeKey

end SchemaGen.Yaml
