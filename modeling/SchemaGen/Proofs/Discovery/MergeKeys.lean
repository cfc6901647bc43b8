import SchemaGen.Proofs.Discovery.OneFile
import SchemaGen.Proofs.Yaml.Composing
import SchemaGen.Proofs.Yaml.Visiting

/-!
# Merge keys in fragments

The body of a fragment is what the marker stood for in its file (`RawBody`), with
merge keys resolved. No merge key is left in it, and every mapping in it has all the
keys that it inherits, unless a source of one of its mappings has a merge key itself
(`markFree_iff_of_discover`): such a merge key comes in as a key like any other, in
the place of what it stands for (`not_markFree_withChain`).
-/

namespace SchemaGen.Search

open SchemaGen.File
open SchemaGen.Yaml (Value Entries)
open SchemaGen.Yaml.MergeKey

variable {s : Search} {d : Disk}

/-- The value that the marker stands for, once the merge key of the document itself,
and no other, is resolved. -/
def RawBody (s : Search) (d : Disk) (p : FilePath) (raw : Value) : Prop :=
  ∃ text es around, d.readText p = .ok text ∧ Value.ofText text = .ok (.map es) ∧
    spread es = .ok around ∧ Entries.get? around s.marker = some raw

theorem RawBody.unique {p : FilePath} {raw raw' : Value} (bears : s.RawBody d p raw)
    (again : s.RawBody d p raw') : raw = raw' := by
  obtain ⟨text, es, around, read, composed, step, has⟩ := bears
  obtain ⟨text', es', around', read', composed', step', has'⟩ := again
  obtain rfl := Except.ok.inj (read.symm.trans read')
  cases Except.ok.inj (composed.symm.trans composed')
  obtain rfl := Except.ok.inj (step.symm.trans step')
  exact Option.some.inj (has.symm.trans has')

theorem RawBody.inside {p : FilePath} {raw : Value} (bears : s.RawBody d p raw) :
    ∃ text v, d.readText p = .ok text ∧ Value.ofText text = .ok v ∧ raw.Inside v := by
  obtain ⟨text, es, around, read, composed, step, has⟩ := bears
  obtain ⟨front, back, split, _⟩ := List.lookup_eq_some_iff.mp has
  have member : (Value.str s.marker, raw) ∈ around := by
    rw [split]
    simp
  exact ⟨text, .map es, read, composed, inside_of_mem_spread step member⟩

/-- A body comes of what the marker stood for. -/
theorem Marks.exists_rawBody {f : Fragment} (marks : s.Marks d f) :
    ∃ raw, s.RawBody d f.path raw ∧ resolve raw = .ok f.body := by
  obtain ⟨_, value, ⟨text, read, parsed⟩, has⟩ := marks
  obtain ⟨v, composed, done⟩ := bind_eq_ok.mp parsed
  rw [apply_eq_resolve] at done
  cases value with
  | map out =>
    obtain ⟨es, around, rfl, step, resolves⟩ := exists_of_resolve_eq_map done
    obtain ⟨raw, there, resolved⟩ := resolves.exists_get? has
    exact ⟨raw, ⟨text, es, around, read, composed, step, there⟩, resolved⟩
  | _ => cases has

theorem marks_of_discover {root : FilePath} {fragments : List Fragment}
    (found : (s.discover d root).1 = .ok fragments) {f : Fragment} (member : f ∈ fragments) :
    s.Marks d f := by
  unfold discover at found
  split at found
  · exact ((collect_ok found).marked f).mp member |>.2
  · cases found
    cases member

/-- **No merge key is left** in a fragment just if no source of a mapping in its body
has a merge key itself, and then nothing inherited is lost. -/
theorem markFree_iff_of_discover {root : FilePath} {fragments : List Fragment}
    (found : (s.discover d root).1 = .ok fragments) {f : Fragment} (member : f ∈ fragments) :
    ∃ raw, s.RawBody d f.path raw ∧ resolve raw = .ok f.body ∧
      (MarkFree f.body ↔ ¬ Chained raw) ∧ (¬ Chained raw → Whole raw) := by
  obtain ⟨raw, bears, done⟩ := (marks_of_discover found member).exists_rawBody
  obtain ⟨text, v, _, composed, within⟩ := bears.inside
  have tidy : raw.Tidy := (Yaml.tidy_ofText composed).inside within
  exact ⟨raw, bears, done, markFree_iff tidy done, whole_of_not_chained tidy⟩

/-! ## Entities with sources -/

/-- A body with one entity. -/
def bodyWith (attributes : Entries) : Value :=
  .map [(.str "entities", .map [(.str "Order", .map [(.str "attributes", .map attributes)])])]

theorem markFree_bodyWith_iff {attributes : Entries} :
    MarkFree (bodyWith attributes) ↔ MarkFree (.map attributes) := by
  have inner : ∀ {key : String} {v : Value}, key ≠ "<<" →
      (MarkFree (.map [(.str key, v)]) ↔ MarkFree v) := by
    intro key v plain
    rw [markFree_map_iff]
    simp [mark, plain]
  exact (inner (by decide)).trans ((inner (by decide)).trans (inner (by decide)))

/-- The attributes are come to. -/
theorem reached_bodyWith (attributes : Entries) :
    Reached (.map attributes) (bodyWith attributes) := by
  have inner : ∀ {key : String} {v : Value}, key ≠ "<<" → Reached (.map attributes) v →
      Reached (.map attributes) (.map [(.str key, v)]) := by
    intro key v plain reached
    have step : spread [(.str key, v)] = .ok [(.str key, v)] := by
      simp [spread, mark, plain]
    exact .entry step List.mem_cons_self reached
  exact inner (by decide) (inner (by decide) (inner (by decide) .here))

/-- An entity with a source that has no source of its own. -/
def withSource : String :=
  "{? a : &a {? z : str}, ? botecopro_domain : {? entities : {? Order : {? attributes : {? << : *a, ? x : str}}}}}"

/-- The attributes of that entity as they are written. -/
def sourced : Entries :=
  [(mark, .map [(.str "z", .str "str")]), (.str "x", .str "str")]

/-- The attributes of that entity as they are found. -/
def sourcedFound : Entries :=
  [(.str "x", .str "str"), (.str "z", .str "str")]

theorem ofText_withSource : Value.ofText withSource = .ok (.map
    [(.str "a", .map [(.str "z", .str "str")]), (.str "botecopro_domain", bodyWith sourced)]) := by
  decide +kernel

theorem discover_withSource : (sample.discover (shelf withSource) ⟨"schemas"⟩).1 =
    .ok [⟨⟨"schemas/order.yaml"⟩, bodyWith sourcedFound⟩] := by
  have parsed : document withSource = .ok (.map [(.str "a", .map [(.str "z", .str "str")]),
      (.str "botecopro_domain", bodyWith sourcedFound)]) := by
    rw [document, ofText_withSource]
    decide +kernel
  exact discover_shelf rfl parsed rfl

theorem markFree_withSource :
    (sample.discover (shelf withSource) ⟨"schemas"⟩).1 =
        .ok [⟨⟨"schemas/order.yaml"⟩, bodyWith sourcedFound⟩] ∧
      sample.RawBody (shelf withSource) ⟨"schemas/order.yaml"⟩ (bodyWith sourced) ∧
      ¬ Chained (bodyWith sourced) ∧ Whole (bodyWith sourced) := by
  obtain ⟨raw, bears, _, free, whole⟩ :=
    markFree_iff_of_discover discover_withSource List.mem_cons_self
  have bears' : sample.RawBody (shelf withSource) ⟨"schemas/order.yaml"⟩ (bodyWith sourced) :=
    ⟨withSource, _, _, Shelf.readText withSource, ofText_withSource, rfl, rfl⟩
  obtain rfl := bears'.unique bears
  have plain : ¬ Chained (bodyWith sourced) := by
    refine free.mp (markFree_bodyWith_iff.mpr (markFree_map_iff.mpr ?_))
    simp [sourcedFound, markFree_str, mark]
  exact ⟨discover_withSource, bears', plain, whole plain⟩

/-- An entity with a source that has a source. -/
def withChain : String :=
  "{? a : &a {? z : str}, ? b : &b {? << : *a, ? y : int}, ? botecopro_domain : {? entities : {? Order : {? attributes : {? << : *b, ? x : str}}}}}"

/-- The attributes of that entity as they are written. -/
def chain : Entries :=
  [(mark, .map [(mark, .map [(.str "z", .str "str")]), (.str "y", .str "int")]),
    (.str "x", .str "str")]

/-- The attributes of that entity as they are found. -/
def chainFound : Entries :=
  [(.str "x", .str "str"), (mark, .map [(.str "z", .str "str")]), (.str "y", .str "int")]

/-- **A chain is not followed.** The merge key of the source comes to stand among the
attributes, and what it brings in does not. -/
theorem not_markFree_withChain :
    (sample.discover (shelf withChain) ⟨"schemas"⟩).1 =
        .ok [⟨⟨"schemas/order.yaml"⟩, bodyWith chainFound⟩] ∧
      ¬ MarkFree (bodyWith chainFound) ∧
      sample.RawBody (shelf withChain) ⟨"schemas/order.yaml"⟩ (bodyWith chain) ∧
      resolve (bodyWith chain) = .ok (bodyWith chainFound) ∧ ¬ Whole (bodyWith chain) := by
  have composed : Value.ofText withChain = .ok (.map [(.str "a", .map [(.str "z", .str "str")]),
      (.str "b", .map [(mark, .map [(.str "z", .str "str")]), (.str "y", .str "int")]),
      (.str "botecopro_domain", bodyWith chain)]) := by
    decide +kernel
  have parsed : document withChain = .ok (.map [(.str "a", .map [(.str "z", .str "str")]),
      (.str "b", .map [(.str "y", .str "int"), (.str "z", .str "str")]),
      (.str "botecopro_domain", bodyWith chainFound)]) := by
    rw [document, composed]
    decide +kernel
  have inherits : Inherits chain (.str "z") := by
    have deepest : Inherits [(.str "z", .str "str")] (.str "z") :=
      .own (e := (_, _)) List.mem_cons_self (by decide)
    exact .through ⟨_, List.mem_cons_self, .inl rfl⟩
      (.through ⟨_, List.mem_cons_self, .inl rfl⟩ deepest)
  refine ⟨discover_shelf rfl parsed rfl, ?_, ?_, by decide +kernel, ?_⟩
  · rw [markFree_bodyWith_iff, markFree_map_iff]
    exact fun free => (free _ (List.mem_cons_of_mem _ List.mem_cons_self)).1 rfl
  · exact ⟨withChain, _, _, Shelf.readText withChain, composed, rfl, rfl⟩
  · intro whole
    have there := whole chain (reached_bodyWith chain) chainFound (by decide +kernel) _ inherits
    exact absurd there (by decide)

end SchemaGen.Search
