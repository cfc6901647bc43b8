import Mathlib.Data.List.Induction
import SchemaGen.Proofs.Yaml.Inheriting

/-!
# Visiting addresses

Merge keys are resolved where they stand, by visits to the addresses on a stack. That
comes to what recursion on the value gives (`apply_eq_resolve`). The value at the address
on top of the stack is resolved as a whole before anything below it on the stack is
visited, whatever stands there (`Settles`), and a value takes no more visits than there
are values in it (`exists_settles`).
-/

namespace SchemaGen.Yaml

/-! ## Addresses -/

namespace Value

section

variable {u v w w' : Value} {vs ws : List Value} {p q : Address}

theorem parts_withParts (long : ws.length = v.parts.length) : (v.withParts ws).parts = ws := by
  cases v with
  | seq items => rfl
  | map es =>
    rw [parts, List.length_map] at long
    exact List.map_snd_zip (by simp [long])
  | tagged t v =>
    obtain ⟨w, rfl⟩ := List.length_eq_one_iff.mp long
    rfl
  | null | bool | int | float | str => exact (List.length_eq_zero_iff.mp long).symm

theorem withParts_parts (v : Value) : v.withParts v.parts = v := by
  cases v with
  | map es => rw [parts, withParts, ← List.zip_of_prod (l := es.map (·.1)) rfl rfl]
  | _ => rfl

theorem withParts_withParts (long : vs.length = v.parts.length)
    (long' : ws.length = v.parts.length) : (v.withParts vs).withParts ws = v.withParts ws := by
  cases v with
  | map es =>
    rw [parts, List.length_map] at long
    rw [withParts, withParts, withParts, List.map_fst_zip (by simp [long])]
  | tagged t v =>
    obtain ⟨_, rfl⟩ := List.length_eq_one_iff.mp long
    obtain ⟨_, rfl⟩ := List.length_eq_one_iff.mp long'
    rfl
  | seq | null | bool | int | float | str => rfl

theorem at?_append : v.at? (p ++ q) = (v.at? p).bind (·.at? q) := by
  induction p generalizing v with
  | nil => rfl
  | cons i rest ih =>
    rw [List.cons_append, at?, at?, Option.bind_assoc]
    exact congrArg _ (funext fun part => ih)

theorem length_modify_parts (v : Value) (i : Nat) (f : Value → Value) :
    (v.parts.modify i f).length = v.parts.length :=
  List.length_modify f v.parts i

/-- What is put at an address is there. -/
theorem at?_setAt (there : v.at? p = some u) : (v.setAt p w).at? p = some w := by
  induction p generalizing v with
  | nil => rfl
  | cons i rest ih =>
    obtain ⟨part, held, there⟩ := Option.bind_eq_some_iff.mp there
    rw [setAt, at?, parts_withParts (length_modify_parts _ _ _), List.getElem?_modify_eq, held]
    exact ih there

/-- What is put at an address takes the place of all that was put there before. -/
theorem setAt_setAt : (v.setAt p w).setAt p w' = v.setAt p w' := by
  induction p generalizing v with
  | nil => rfl
  | cons i rest ih =>
    have long := length_modify_parts v i
    rw [setAt, setAt, setAt, parts_withParts (long _), withParts_withParts (long _)
      (by rw [List.length_modify, long]), List.modify_modify_eq]
    exact congrArg (fun f => v.withParts (v.parts.modify i f)) (funext fun part => ih)

/-- To put a value inside what is at an address is to put that there, with the value in
it. -/
theorem setAt_append (there : v.at? p = some u) :
    v.setAt (p ++ q) w = v.setAt p (u.setAt q w) := by
  induction p generalizing v with
  | nil => rw [Option.some.inj there, List.nil_append, setAt]
  | cons i rest ih =>
    obtain ⟨part, held, there⟩ := Option.bind_eq_some_iff.mp there
    rw [List.cons_append, setAt, setAt]
    congr 1
    refine List.ext_getElem? fun j => ?_
    rw [List.getElem?_modify, List.getElem?_modify]
    by_cases same : i = j
    · subst same
      simp [held, ih there]
    · simp [same]

end

/-! ## Counting -/

theorem countEntries_eq (es : Entries) : countEntries es = countItems (es.map (·.2)) := by
  induction es with
  | nil => rfl
  | cons e rest ih => rw [countEntries, ih, List.map_cons, countItems]

theorem count_eq (v : Value) : v.count = countItems v.parts + 1 := by
  cases v with
  | map es => rw [count, countEntries_eq, parts]
  | _ => rfl

theorem countItems_append (vs ws : List Value) :
    countItems (vs ++ ws) = countItems vs + countItems ws := by
  induction vs with
  | nil => exact (Nat.zero_add _).symm
  | cons v rest ih => rw [List.cons_append, countItems, countItems, ih, Nat.add_assoc]

theorem countItems_le_of_sublist {vs ws : List Value} (fewer : vs.Sublist ws) :
    countItems vs ≤ countItems ws := by
  induction fewer with
  | slnil => exact Nat.le_refl _
  | cons v _ ih => exact Nat.le_trans ih (Nat.le_add_left _ _)
  | cons_cons v _ ih => exact Nat.add_le_add_left ih _

theorem countEntries_append (es fs : Entries) :
    countEntries (es ++ fs) = countEntries es + countEntries fs := by
  rw [countEntries_eq, countEntries_eq, countEntries_eq, List.map_append, countItems_append]

theorem count_lt_of_mem {v part : Value} (member : part ∈ v.parts) : part.count < v.count := by
  have held : countItems [part] ≤ countItems v.parts :=
    countItems_le_of_sublist (List.singleton_sublist.mpr member)
  rw [count_eq v]
  exact Nat.lt_succ_of_le held

end Value

namespace MergeKey

/-- Entries that are brought in come from the value of the merge key. -/
theorem countEntries_brought {v : Value} {more : Entries} (brings : brought v = .ok more) :
    Value.countEntries more ≤ v.count := by
  cases v with
  | map es =>
    cases brings
    exact Nat.le_succ _
  | seq items =>
    obtain ⟨found, all, same⟩ := bind_eq_ok.mp brings
    obtain rfl := mapM_entriesOf all
    cases same
    rw [Value.count]
    clear all brings
    induction found with
    | nil => exact Nat.zero_le _
    | cons es rest ih =>
      rw [List.flatten_cons, Value.countEntries_append, List.map_cons, Value.countItems,
        Value.count]
      omega
  | _ => cases brings

theorem countEntries_spread {es around : Entries} (step : spread es = .ok around) :
    Value.countEntries around ≤ Value.countEntries es := by
  cases spreads_of_spread step with
  | plain => exact Nat.le_refl _
  | @marked front back more v _ brings =>
    obtain ⟨added, taken, same⟩ := exists_foldl_bringIn_eq more (front ++ lastFirst back)
    have fewer := countEntries_brought brings
    have fewer' : Value.countEntries added ≤ Value.countEntries more := by
      rw [Value.countEntries_eq, Value.countEntries_eq]
      exact Value.countItems_le_of_sublist (taken.map _)
    have moved : Value.countEntries (lastFirst back) = Value.countEntries back := by
      rcases List.eq_nil_or_concat back with rfl | ⟨others, last, rfl⟩
      · rfl
      · rw [List.concat_eq_append, lastFirst_concat, Value.countEntries_append,
          Value.countEntries, Value.countEntries, Value.countEntries]
        omega
    rw [same, Value.countEntries_append, Value.countEntries_append, Value.countEntries_append,
      Value.countEntries, moved]
    omega

/-- A merge key makes no new values. -/
theorem count_merged {v here : Value} (step : merged v = .ok here) : here.count ≤ v.count := by
  cases v with
  | map es =>
    obtain ⟨around, spreads, rfl⟩ := map_eq_ok.mp step
    exact Nat.add_le_add_right (countEntries_spread spreads) 1
  | _ =>
    cases step
    exact Nat.le_refl _

/-! ## One value after the other -/

/-- **Resolving a value** is a step, and resolving the parts it comes to. -/
theorem resolve_eq (v : Value) :
    resolve v = merged v >>= fun here => (here.parts.mapM resolve).map here.withParts := by
  have entries : ∀ es : Entries,
      es.mapM (fun e => do return (e.1, ← resolve e.2) : Value × Value → Except Fault _) =
        ((es.map (·.2)).mapM resolve).map ((es.map (·.1)).zip ·) := by
    intro es
    induction es with
    | nil => rfl
    | cons e rest ih =>
      rw [List.mapM_cons, ih, List.map_cons, List.map_cons, List.mapM_cons]
      cases resolve e.2 with
      | error fault => rfl
      | ok u => cases (rest.map (·.2)).mapM resolve <;> rfl
  cases v with
  | map es =>
    rw [resolve_map, merged]
    cases spread es with
    | error fault => rfl
    | ok around =>
      change around.mapM _ >>= _ =
        ((around.map (·.2)).mapM resolve).map (Value.map around).withParts
      rw [entries]
      cases (around.map (·.2)).mapM resolve <;> rfl
  | seq items => exact resolve_seq items
  | tagged t v =>
    change _ = ([v].mapM resolve).map _
    rw [resolve_tagged, List.mapM_cons]
    cases resolve v <;> rfl
  | null | bool | int | float | str => rfl

theorem merged_fault {v : Value} {fault : Fault} (failed : merged v = .error fault) :
    fault = .badMerge := by
  have entries : ∀ {v : Value}, entriesOf v = .error fault → fault = .badMerge := by
    rintro (_ | _ | _ | _ | _ | _ | _ | _) failed <;> cases failed <;> rfl
  have sources : ∀ {v : Value}, brought v = .error fault → fault = .badMerge := by
    intro v failed
    cases v with
    | seq items =>
      rcases bind_eq_error.mp failed with failed | ⟨_, _, failed⟩
      · obtain ⟨item, _, failed⟩ := exists_error_of_mapM failed
        exact entries failed
      · cases failed
    | _ => cases failed <;> rfl
  cases v with
  | map es =>
    have failed := map_eq_error.mp failed
    unfold spread at failed
    split at failed
    · cases failed
    · split at failed
      · rcases bind_eq_error.mp failed with failed | ⟨_, _, failed⟩
        · exact sources failed
        · cases failed
      · cases failed
  | _ => cases failed

/-- There is one fault that merge keys may have. -/
theorem resolve_fault {v : Value} {fault : Fault} (failed : resolve v = .error fault) :
    fault = .badMerge := by
  induction size : v.count using Nat.strongRecOn generalizing v with
  | ind n ih =>
    subst size
    rw [resolve_eq, bind_eq_error] at failed
    rcases failed with step | ⟨here, step, failed⟩
    · exact merged_fault step
    · obtain ⟨part, member, failed⟩ := exists_error_of_mapM (map_eq_error.mp failed)
      exact ih _ (Nat.lt_of_lt_of_le (Value.count_lt_of_mem member) (count_merged step)) failed rfl

/-- So the last one of several values may as well be resolved first. -/
theorem mapM_resolve_concat {α : Type} (init : List Value) (last : Value)
    (further : List Value → Except Fault α) :
    (init ++ [last]).mapM resolve >>= further =
      resolve last >>= fun w => init.mapM resolve >>= fun ws => further (ws ++ [w]) := by
  rw [List.mapM_append, List.mapM_cons, List.mapM_nil]
  cases later : resolve last with
  | ok w => cases init.mapM resolve <;> rfl
  | error fault =>
    cases earlier : init.mapM resolve with
    | ok ws => rfl
    | error fault' =>
      obtain ⟨_, _, failed⟩ := exists_error_of_mapM earlier
      rw [resolve_fault later, resolve_fault failed]
      rfl

/-! ## Visits -/

/-- So many visits resolve the value, wherever it stands, and leave alone what else is on
the stack. -/
def Settles (u : Value) (visits : Nat) : Prop :=
  ∀ (v : Value) (address : Value.Address) (left : Nat) (rest : List Value.Address),
    v.at? address = some u → visitAll (visits + left) v (address :: rest) =
      resolve u >>= fun w => visitAll left (v.setAt address w) rest

/-- The addresses of the first parts of what is at an address, in the order of a stack. -/
def partsAt (address : Value.Address) (n : Nat) : List Value.Address :=
  ((List.range n).map fun i => address ++ [i]).reverse

theorem partsAt_succ (address : Value.Address) (n : Nat) :
    partsAt address (n + 1) = (address ++ [n]) :: partsAt address n := by
  simp [partsAt, List.range_succ]

private theorem modify_middle (init back : List Value) (last w : Value) :
    (init ++ last :: back).modify init.length (fun _ => w) = init ++ w :: back := by
  induction init with
  | nil => rfl
  | cons v rest ih => simpa using ih

/-- The parts of a value are resolved from the last one to the first. -/
theorem exists_settles_parts (front : List Value)
    (each : ∀ u ∈ front, ∃ visits ≤ u.count, Settles u visits) :
    ∃ visits ≤ Value.countItems front,
      ∀ (here v : Value) (address : Value.Address) (left : Nat) (back : List Value)
        (rest : List Value.Address), (v.at? address).isSome →
        here.parts.length = (front ++ back).length →
        visitAll (visits + left) (v.setAt address (here.withParts (front ++ back)))
            (partsAt address front.length ++ rest) =
          front.mapM resolve >>= fun ws =>
            visitAll left (v.setAt address (here.withParts (ws ++ back))) rest := by
  induction front using List.reverseRecOn with
  | nil => exact ⟨0, Nat.le_refl 0, fun here v address left back rest _ _ => by simp [partsAt]⟩
  | append_singleton init last ih =>
    obtain ⟨m, few, inits⟩ := ih fun u member => each u (List.mem_append_left _ member)
    obtain ⟨n, few', lasts⟩ := each last (by simp)
    have within : n + m ≤ Value.countItems (init ++ [last]) := by
      rw [Value.countItems_append, Value.countItems, Value.countItems]
      omega
    refine ⟨n + m, within, fun here v address left back rest there long => ?_⟩
    obtain ⟨u, there⟩ := Option.isSome_iff_exists.mp there
    have long' : (init ++ last :: back).length = here.parts.length := by simpa using long.symm
    have held : (v.setAt address (here.withParts (init ++ last :: back))).at?
        (address ++ [init.length]) = some last := by
      rw [Value.at?_append, Value.at?_setAt there, Option.bind_some, Value.at?,
        Value.parts_withParts long']
      simp [Value.at?]
    have put : ∀ w, (v.setAt address (here.withParts (init ++ last :: back))).setAt
        (address ++ [init.length]) w = v.setAt address (here.withParts (init ++ w :: back)) := by
      intro w
      rw [Value.setAt_append (Value.at?_setAt there), Value.setAt_setAt, Value.setAt,
        Value.parts_withParts long', Value.withParts_withParts long' (by simpa using long')]
      simp [Value.setAt, modify_middle]
    rw [List.length_append, List.length_singleton, partsAt_succ, List.append_assoc,
      List.singleton_append, List.cons_append, Nat.add_assoc, lasts _ _ _ _ held,
      mapM_resolve_concat]
    refine congrArg _ (funext fun w => ?_)
    rw [put, inits here v address left (w :: back) rest (by rw [there]; rfl) (by simpa using long)]
    simp

/-- **A value is settled** in no more visits than there are values in it. -/
theorem exists_settles (u : Value) : ∃ visits ≤ u.count, Settles u visits := by
  induction size : u.count using Nat.strongRecOn generalizing u with
  | ind n ih =>
    subst size
    have some : 1 ≤ u.count := by rw [Value.count_eq]; omega
    cases step : merged u with
    | error fault =>
      refine ⟨1, some, fun v address left rest there => ?_⟩
      rw [Nat.add_comm, visitAll, visit, resolve_eq, step]
      simp only [there, step]
      rfl
    | ok here =>
      have less := count_merged step
      obtain ⟨m, few, parts⟩ := exists_settles_parts here.parts fun part member =>
        ih part.count (Nat.lt_of_lt_of_le (Value.count_lt_of_mem member) less) part rfl
      rw [Value.count_eq here] at less
      refine ⟨m + 1, by omega, fun v address left rest there => ?_⟩
      have visited : visitAll (m + 1 + left) v (address :: rest) =
          visitAll (m + left) (v.setAt address here)
            (partsAt address here.parts.length ++ rest) := by
        rw [Nat.add_right_comm, visitAll, visit]
        simp only [there, step]
        rfl
      have inner := parts here v address left [] rest (by rw [there]; rfl) (by simp)
      rw [List.append_nil, Value.withParts_parts] at inner
      rw [visited, inner, resolve_eq, step]
      simp only [List.append_nil]
      change _ = ((here.parts.mapM resolve).map here.withParts >>= _)
      cases here.parts.mapM resolve <;> rfl

/-- **Visiting addresses** comes to recursion on the value. -/
theorem apply_eq_resolve (v : Value) : apply v = resolve v := by
  obtain ⟨visits, few, settles⟩ := exists_settles v
  have enough : v.count = visits + (v.count - visits) := by omega
  have done : ∀ left w, visitAll left w [] = .ok w := by
    intro left w
    cases left <;> rfl
  rw [apply, enough, settles v [] _ [] rfl]
  simp only [done]
  cases resolve v <;> rfl

end MergeKey

end SchemaGen.Yaml
