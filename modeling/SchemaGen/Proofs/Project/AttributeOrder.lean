import SchemaGen.Model.Context
import SchemaGen.Proofs.Discovery.Attributes
import SchemaGen.Proofs.Model.History

/-!
# The order of attributes

The templates are told the attributes of an entity in the order of the last file that
declares it: first those written there, then those inherited. The order is kept just if
the merge key of the attributes stands before one of them at most and its sources have
none themselves (`attributes_inOrder_iff`); else the last attribute that is written
comes to stand where the merge key stood (`attributes_swapped`).
-/

namespace SchemaGen

open SchemaGen.File
open SchemaGen.Yaml (Value Entries)
open SchemaGen.Yaml.MergeKey

/-- The contexts are those of the entities. -/
theorem Model.mem_contexts_iff {m : Model} (ordered : m.Ordered) {fallback : String} {c : Context} :
    c ∈ m.contexts fallback ↔
      ∃ e, m.entities.get? c.entity = some e ∧ c = m.contextOf fallback c.entity e := by
  constructor
  · intro member
    obtain ⟨⟨name, e⟩, listed, rfl⟩ := List.mem_map.mp member
    exact ⟨e, ordered.entities.mem_entries_iff.mp listed, rfl⟩
  · rintro ⟨e, has, same⟩
    exact List.mem_map.mpr ⟨(c.entity, e), ordered.entities.mem_entries_iff.mpr has, same.symm⟩

namespace Search

variable {s : Search} {d : Disk} {root : FilePath} {front back : List Fragment} {f : Fragment}
  {merged : Merged} {name : String}

/-- **The attributes of an entity** come in the order in which the last file that has
the entity declares them, those written there and then those inherited, just if no
source has a merge key itself and the merge key does not stand before two others. -/
theorem attributes_inOrder_iff (found : (s.discover d root).1 = .ok (front ++ f :: back))
    (done : mergeFragments s.marker (front ++ f :: back) = .ok merged)
    (own : name ∈ (f.described s.marker).keys .entities)
    (others : ∀ g ∈ back, name ∉ (g.described s.marker).keys .entities) (fallback : String) :
    ∃ written, s.Declares d f.path name written ∧
      (written = [] ∨ ∃ text, d.readText f.path = .ok text ∧ Yaml.Writes text written) ∧
      (∃ c ∈ merged.model.contexts fallback, c.entity = name) ∧
      ∀ c ∈ merged.model.contexts fallback, c.entity = name →
        (c.attributes.map (·.1) = declaredKeys written ↔ KeepsOrder written) := by
  have same := definition?_of_last done rfl own others
  obtain ⟨m, records, model, _⟩ := records_of_mergeFragments done
  have ordered := records.ordered
  rw [model] at ordered
  have member : f ∈ front ++ f :: back := by simp
  obtain ⟨e, defined⟩ : ∃ e, (f.described s.marker).entities.get? name = some e :=
    Option.isSome_iff_exists.mp (Catalog.mem_names_iff_isSome.mp own)
  have has : merged.model.entities.get? name = some e := by
    rw [Model.definition?, Model.definition?, defined] at same
    obtain ⟨e', has, same⟩ := Option.map_eq_some_iff.mp same
    cases same
    exact has
  obtain ⟨written, around, declares, step, keys⟩ :=
    exists_declares (marks_of_discover found member) (records.decoded f member) defined
  obtain ⟨distinct, writes⟩ := declares.writes
  refine ⟨written, declares, writes,
    ⟨merged.model.contextOf fallback name e, (Model.mem_contexts_iff ordered).mpr ⟨e, has, rfl⟩,
      rfl⟩, ?_⟩
  rintro c listed rfl
  obtain ⟨e', has', same⟩ := (Model.mem_contexts_iff ordered).mp listed
  obtain rfl : e = e' := Option.some.inj (has.symm.trans has')
  have attributes : c.attributes = e.attributes := congrArg Context.attributes same
  rw [attributes, keys]
  exact keys_spread_eq_iff distinct step

/-! ## Entities on a shelf -/

/-- What one entity with these attributes is merged to. -/
def mergedWith (attributes : Entries) : Merged :=
  { model := { entities := ⟨[("Order", { attributes })]⟩ }, collisions := [] }

/-- The file on the shelf declares the entity with the attributes of its body. -/
theorem declares_shelf {text : String} {es around attributes : Entries}
    (composed : Value.ofText text = .ok (.map es)) (step : spread es = .ok around)
    (has : Entries.get? around sample.marker = some (bodyWith attributes)) :
    sample.Declares (shelf text) ⟨"schemas/order.yaml"⟩ "Order" attributes :=
  ⟨_, _, _, ⟨text, es, around, Shelf.readText text, composed, step, has⟩, rfl, rfl, rfl⟩

theorem attributes_inOrder_withSource :
    (sample.discover (shelf withSource) ⟨"schemas"⟩).1 =
        .ok ([] ++ ⟨⟨"schemas/order.yaml"⟩, bodyWith sourcedFound⟩ :: []) ∧
      mergeFragments sample.marker
        ([] ++ ⟨⟨"schemas/order.yaml"⟩, bodyWith sourcedFound⟩ :: []) =
          .ok (mergedWith sourcedFound) ∧
      "Order" ∈ ((⟨⟨"schemas/order.yaml"⟩, bodyWith sourcedFound⟩ : Fragment).described
        sample.marker).keys .entities ∧
      sample.Declares (shelf withSource) ⟨"schemas/order.yaml"⟩ "Order" sourced ∧
      KeepsOrder sourced := by
  have done : mergeFragments sample.marker
      ([] ++ ⟨⟨"schemas/order.yaml"⟩, bodyWith sourcedFound⟩ :: []) =
        .ok (mergedWith sourcedFound) := by
    decide +kernel
  have own : "Order" ∈ ((⟨⟨"schemas/order.yaml"⟩, bodyWith sourcedFound⟩ : Fragment).described
      sample.marker).keys .entities := by
    decide +kernel
  have declares := declares_shelf ofText_withSource rfl rfl
  obtain ⟨written, declares', _, _, order⟩ :=
    attributes_inOrder_iff discover_withSource done own nofun "main"
  obtain rfl := declares.unique declares'
  exact ⟨discover_withSource, done, own, declares, (order _ List.mem_cons_self rfl).mp rfl⟩

/-- An entity with two attributes after the merge key. -/
def withTwo : String :=
  "{? a : &a {? z : str}, ? botecopro_domain : {? entities : {? Order : {? attributes : {? << : *a, ? x : str, ? y : int}}}}}"

/-- The attributes of that entity as they are written. -/
def two : Entries :=
  [(mark, .map [(.str "z", .str "str")]), (.str "x", .str "str"), (.str "y", .str "int")]

/-- The attributes of that entity as they are found. -/
def twoFound : Entries :=
  [(.str "y", .str "int"), (.str "x", .str "str"), (.str "z", .str "str")]

/-- **The last attribute is moved** to the place of the merge key. -/
theorem attributes_swapped :
    (sample.discover (shelf withTwo) ⟨"schemas"⟩).1 =
        .ok [⟨⟨"schemas/order.yaml"⟩, bodyWith twoFound⟩] ∧
      mergeFragments sample.marker [⟨⟨"schemas/order.yaml"⟩, bodyWith twoFound⟩] =
        .ok (mergedWith twoFound) ∧
      sample.Declares (shelf withTwo) ⟨"schemas/order.yaml"⟩ "Order" two ∧
      ((mergedWith twoFound).model.contexts "main").map
        (fun c => (c.entity, c.attributes.map (·.1))) =
          [("Order", [.str "y", .str "x", .str "z"])] ∧
      declaredKeys two = [.str "x", .str "y", .str "z"] := by
  have composed : Value.ofText withTwo = .ok (.map [(.str "a", .map [(.str "z", .str "str")]),
      (.str "botecopro_domain", bodyWith two)]) := by
    decide +kernel
  have parsed : document withTwo = .ok (.map [(.str "a", .map [(.str "z", .str "str")]),
      (.str "botecopro_domain", bodyWith twoFound)]) := by
    rw [document, composed]
    decide +kernel
  exact ⟨discover_shelf rfl parsed rfl, by decide +kernel, declares_shelf composed rfl rfl, rfl,
    by decide⟩

end Search

end SchemaGen
