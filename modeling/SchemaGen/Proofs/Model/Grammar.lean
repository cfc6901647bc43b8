import SchemaGen.Proofs.Model.Demands
import SchemaGen.Proofs.Model.Merging

/-!
# The grammar of fragments

Which bodies are accepted is a grammar of three levels (`Grammar.Body`): sections, entities
and what an entity has. Null is an empty collection everywhere, tags are looked through, and
what no name stands for may be anything. Where no key is tagged and no setting has a tag, a
fragment is absorbed just if its body is in the grammar, and else the first node in the order
of the document that is not of its type is the fault (`absorb_by_grammar`).
-/

namespace SchemaGen

open SchemaGen.Yaml (Value Entries)
open SchemaGen.Decode

/-! ## The nodes of a value -/

namespace Yaml.Value

mutual

/-- All nodes of a value in the order of the document: each stands before what it is made
of, and a key before its value. -/
def nodes : Value → List Value
  | .null => [.null]
  | .bool b => [.bool b]
  | .int n => [.int n]
  | .float x => [.float x]
  | .str s => [.str s]
  | .seq items => .seq items :: itemNodes items
  | .map es => .map es :: entryNodes es
  | .tagged t v => .tagged t v :: nodes v

/-- The nodes of the items. -/
def itemNodes : List Value → List Value
  | [] => []
  | v :: rest => nodes v ++ itemNodes rest

/-- The nodes of the entries. -/
def entryNodes : List (Value × Value) → List Value
  | [] => []
  | (k, v) :: rest => nodes k ++ nodes v ++ entryNodes rest

end

theorem cons_entryNodes_sublist (v : Value) : (v :: entryNodes v.inner).Sublist v.nodes := by
  fun_induction Value.untagged v with
  | case1 t v ih => exact ((List.sublist_cons_self v _).trans ih).cons_cons _
  | case2 v plain =>
    cases v with
    | map es => exact List.Sublist.refl _
    | tagged t v => exact absurd rfl (plain t v)
    | seq items => exact (List.nil_sublist _).cons_cons _
    | _ => exact List.Sublist.refl _

theorem sublist_nodes (v : Value) : [v].Sublist v.nodes :=
  (List.singleton_sublist.mpr List.mem_cons_self).trans (cons_entryNodes_sublist v)

/-- No mapping in the value has a key with a tag. -/
def PlainKeyed (v : Value) : Prop :=
  ∀ es, (Value.map es).Inside v → ∀ e ∈ es, ∀ t k, e.1 ≠ .tagged t k

end Yaml.Value

/-! ## The grammar -/

namespace Grammar

/-- All keys are texts. -/
def Named (es : Entries) : Prop :=
  ∀ e ∈ es, ∃ name, e.1.text? = some name

/-- What stands under the name, if anything, is of the kind. -/
def At (name : String) (Kind : Value → Prop) (es : Entries) : Prop :=
  ∀ e ∈ es, e.1.text? = some name → Kind e.2

instance (name : String) (Kind : Value → Prop) [DecidablePred Kind] (es : Entries) :
    Decidable (At name Kind es) :=
  inferInstanceAs (Decidable (∀ e ∈ es, e.1.text? = some name → Kind e.2))

/-- Null or a mapping, tags aside, with entries of the kind. -/
def IsMapping (Kind : Entries → Prop) (v : Value) : Prop :=
  v.untagged = .null ∨ ∃ es, v.untagged = .map es ∧ Kind es

/-- Null or a sequence, tags aside. -/
def IsSequence (v : Value) : Prop :=
  v.untagged = .null ∨ ∃ items, v.untagged = .seq items

/-- Names with values of the kind. -/
def Catalog (Kind : Value → Prop) : Value → Prop :=
  IsMapping fun es => Named es ∧ ∀ e ∈ es, Kind e.2

/-- The storage of an entity: settings with names, and any values. -/
def Storage : Value → Prop :=
  IsMapping Named

/-- An entity. Fields of other names may be anything. -/
def Entity : Value → Prop :=
  IsMapping fun es => Named es ∧ At "storage" Storage es ∧
    At "attributes" (IsMapping fun _ => True) es ∧ At "indexes" IsSequence es

/-- The body of a fragment. Fields of other names may be anything. -/
structure Body (es : Entries) : Prop where
  named : Named es
  entities : At Section.entities.name (Catalog Entity) es
  others : ∀ s, s ≠ Section.entities → At s.name (Catalog fun _ => True) es

/-- The settings without fixed meaning, in the storages of all entities, have no tags. -/
def PlainSettings (body : Entries) : Prop :=
  At Section.entities.name (fun entities => ∀ entity ∈ entities.inner,
    At "storage" (fun storage => ∀ setting ∈ storage.inner,
      setting.1.text? ∉ [some "table", some "schema"] → setting.2.isTagFree = true)
      entity.2.inner) body

instance (body : Entries) : Decidable (PlainSettings body) :=
  inferInstanceAs (Decidable (At _ _ body))

section

variable {v : Value} {expected : Expected}

theorem fits_iff_mapping (mapping : expected ∈ [.sectionMap, .entity, .storage, .attributes]) :
    expected.fits v = true ↔ IsMapping (fun _ => True) v := by
  unfold Expected.fits IsMapping
  simp only [List.mem_cons, List.not_mem_nil, or_false] at mapping
  rcases mapping with rfl | rfl | rfl | rfl <;> cases v.untagged <;> simp

theorem fits_iff_sequence : Expected.indexes.fits v = true ↔ IsSequence v := by
  unfold Expected.fits IsSequence
  cases v.untagged <;> simp

theorem fits_iff_text (name : expected = .fieldName ∨ expected = .key) :
    expected.fits v = true ↔ ∃ s, v.text? = some s := by
  unfold Expected.fits Value.text?
  rcases name with rfl | rfl <;> cases v.untagged <;> simp

/-- Where nothing is of the kind, a mapping of it is a mapping whose entries are. -/
theorem isMapping_iff {Kind : Entries → Prop} (empty : Kind []) :
    IsMapping Kind v ↔ IsMapping (fun _ => True) v ∧ Kind v.inner := by
  unfold IsMapping Value.inner Value.entries?
  cases v.untagged <;> simp [empty]

end

/-! ## Types and the grammar -/

/-- The node of the demand, if it asks for one, is what is expected. -/
def NodeFits (d : Demand) : Prop :=
  ∀ n, d.node? = some n → n.2.fits n.1 = true

@[simp]
theorem nodeFits_node {v : Value} {expected : Expected} :
    NodeFits (.node v expected) ↔ expected.fits v = true := by
  simp [NodeFits, Demand.node?]

@[simp]
theorem nodeFits_fresh {k : Value} {taken : List String} : NodeFits (.fresh k taken) := by
  simp [NodeFits, Demand.node?]

@[simp]
theorem nodeFits_plain {v : Value} : NodeFits (.plain v) := by
  simp [NodeFits, Demand.node?]

theorem nodeFits_freshDemands {known taken : List String} {keys : List Value} :
    ∀ d ∈ freshDemands known taken keys, NodeFits d := by
  induction keys generalizing taken with
  | nil => simp [freshDemands]
  | cons k rest ih => simpa [freshDemands] using ih

theorem nodesFit_fields_iff {known taken : List String} {below : String → Value → List Demand}
    {es : Entries} : (∀ d ∈ fieldDemands known below taken es, NodeFits d) ↔
      Named es ∧ ∀ e ∈ es, ∀ name, e.1.text? = some name → ∀ d ∈ below name e.2, NodeFits d := by
  rw [forall_fieldDemands]
  simp only [nodeFits_node, fits_iff_text (.inl rfl), Named]
  exact and_congr_right' (and_iff_right nodeFits_freshDemands)

theorem nodesFit_catalog_iff {below : Value → List Demand} {Kind : Value → Prop}
    (reads : ∀ v, (∀ d ∈ below v, NodeFits d) ↔ Kind v) {v : Value} :
    (∀ d ∈ catalogDemands below v, NodeFits d) ↔ Catalog Kind v := by
  rw [forall_catalogDemands, Catalog, isMapping_iff (by simp [Named])]
  simp only [nodeFits_node, fits_iff_text (.inr rfl), reads, Named]
  rw [fits_iff_mapping (by simp)]
  exact and_congr_right' forall₂_and

theorem nodesFit_storage_iff {v : Value} :
    (∀ d ∈ storageDemands v, NodeFits d) ↔ Storage v := by
  rw [storageDemands, List.forall_mem_cons, nodesFit_fields_iff, Storage,
    isMapping_iff (by simp [Named]), nodeFits_node, fits_iff_mapping (by simp)]
  refine and_congr_right' (and_iff_left fun e _ name _ d member => ?_)
  -- Settings are asked for their tags only.
  split at member
  · cases member
  · obtain rfl := List.mem_singleton.mp member
    exact nodeFits_plain

theorem nodesFit_entity_iff {v : Value} : (∀ d ∈ entityDemands v, NodeFits d) ↔ Entity v := by
  rw [entityDemands, List.forall_mem_cons, nodesFit_fields_iff, Entity,
    isMapping_iff (by simp [Named, At]), nodeFits_node, fits_iff_mapping (by simp)]
  refine and_congr_right' (and_congr_right' ?_)
  constructor
  · intro all
    refine ⟨fun e member named => ?_, fun e member named => ?_, fun e member named => ?_⟩
    · exact nodesFit_storage_iff.mp (all e member _ named)
    · simpa [fits_iff_mapping] using all e member _ named
    · simpa [fits_iff_sequence] using all e member _ named
  · rintro ⟨storage, attributes, indexes⟩ e member name named d asked
    split at asked
    · rename_i same
      exact nodesFit_storage_iff.mpr (storage e member (same ▸ named)) d asked
    · split at asked
      · rename_i same
        obtain rfl := List.mem_singleton.mp asked
        exact nodeFits_node.mpr ((fits_iff_mapping (by simp)).mpr
          (attributes e member (same ▸ named)))
      · split at asked
        · rename_i same
          obtain rfl := List.mem_singleton.mp asked
          exact nodeFits_node.mpr (fits_iff_sequence.mpr (indexes e member (same ▸ named)))
        · cases asked

/-- **The grammar** is that every node has its type. -/
theorem nodesFit_iff {es : Entries} : (∀ d ∈ demands es, NodeFits d) ↔ Body es := by
  have entities_iff (v : Value) :
      (∀ d ∈ sectionDemands Section.entities.name v, NodeFits d) ↔ Catalog Entity v := by
    rw [sectionDemands_entities]
    exact nodesFit_catalog_iff fun v => nodesFit_entity_iff
  have others_iff (s : Section) (other : s ≠ .entities) (v : Value) :
      (∀ d ∈ sectionDemands s.name v, NodeFits d) ↔ Catalog (fun _ => True) v := by
    rw [sectionDemands_of_ne other]
    exact nodesFit_catalog_iff fun v => by simp
  rw [demands, nodesFit_fields_iff]
  constructor
  · rintro ⟨named, all⟩
    exact ⟨named, fun e member here => (entities_iff e.2).mp (all e member _ here),
      fun s other e member here => (others_iff s other e.2).mp (all e member _ here)⟩
  · rintro ⟨named, entities, others⟩
    refine ⟨named, fun e member name here => ?_⟩
    rcases sectionDemands_cases name e.2 with none | rfl | ⟨s, other, rfl⟩
    · simp [none]
    · exact (entities_iff e.2).mpr (entities e member here)
    · exact (others_iff s other e.2).mpr (others s other e member here)

/-! ## Plain bodies -/

/-- No mapping in the value has a key twice, or one with a tag. -/
structure Plain (v : Value) : Prop where
  tidy : v.Tidy
  keyed : v.PlainKeyed

theorem Plain.inside {v w : Value} (plain : Plain w) (within : v.Inside w) : Plain v :=
  ⟨plain.tidy.inside within, fun es inner => plain.keyed es (inner.trans within)⟩

theorem plain_str (s : String) : Plain (.str s) :=
  ⟨nofun, nofun⟩

theorem plain_null : Plain .null :=
  ⟨nofun, nofun⟩

theorem plain_tagged_iff {t : String} {v : Value} : Plain (.tagged t v) ↔ Plain v := by
  refine ⟨fun plain => plain.inside (.under .here), fun plain => ⟨?_, ?_⟩⟩
  · rintro es (_ | _ | _ | within)
    exact plain.tidy es within
  · rintro es (_ | _ | _ | within)
    exact plain.keyed es within

/-- A mapping is plain if its keys are different and have no tags, and its values are. -/
theorem plain_map {es : Entries} (distinct : Entries.Distinct es)
    (keys : ∀ e ∈ es, ∀ t k, e.1 ≠ .tagged t k) (values : ∀ e ∈ es, Plain e.2) :
    Plain (.map es) := by
  constructor
  · rintro es' (_ | _ | ⟨member, within⟩)
    · exact distinct
    · exact (values _ member).tidy es' within
  · rintro es' (_ | _ | ⟨member, within⟩)
    · exact keys
    · exact (values _ member).keyed es' within

section

variable {v : Value} (plain : Plain v)
include plain

theorem Plain.key {e : Value × Value} (member : e ∈ v.inner) : e.1.untagged = e.1 := by
  cases mapping : v.entries? with
  | none => simp [Value.inner, mapping] at member
  | some es =>
    rw [Value.inner, mapping] at member
    have untagged := plain.keyed es (Value.inside_of_entries? mapping) e member
    cases key : e.1 with
    | tagged t k => exact absurd key (untagged t k)
    | _ => rfl

theorem Plain.value {e : Value × Value} (member : e ∈ v.inner) : Plain e.2 := by
  cases mapping : v.entries? with
  | none => simp [Value.inner, mapping] at member
  | some es =>
    rw [Value.inner, mapping] at member
    exact plain.inside ((Value.Inside.entry member .here).trans (Value.inside_of_entries? mapping))

omit plain in
theorem eq_str_of_text? {k : Value} {name : String} (untagged : k.untagged = k)
    (named : k.text? = some name) : k = .str name := by
  rw [Value.text?, untagged] at named
  split at named
  · exact congrArg _ (Option.some.inj named)
  · cases named

/-- The texts of the keys are different. -/
theorem Plain.distinct :
    (v.inner.map (·.1)).Pairwise fun k l => ∀ name, k.text? = some name → l.text? ≠ some name := by
  have keyed := fun e member => plain.key (e := e) member
  cases mapping : v.entries? with
  | none => simp [Value.inner, mapping]
  | some es =>
    have distinct := plain.tidy es (Value.inside_of_entries? mapping)
    rw [Value.inner, mapping] at keyed ⊢
    refine List.pairwise_map.mpr (distinct.imp_of_mem ?_)
    intro a b first second apart name here there
    rw [eq_str_of_text? (keyed a first) here, eq_str_of_text? (keyed b second) there,
      Value.alike_refl] at apart
    cases apart

end

/-- Only a wrong type can be amiss here, and the value is shown without its tags. -/
def TypeOnly : Demand → Prop
  | .node v expected => expected.shown v = v.untagged
  | .fresh k taken => (Demand.fresh k taken).Met
  | .plain v => (Demand.plain v).Met

theorem TypeOnly.met_iff {d : Demand} (only : TypeOnly d) : d.Met ↔ NodeFits d := by
  cases d with
  | node v expected => rw [Demand.met_node, nodeFits_node]
  | fresh k taken => exact iff_of_true only nodeFits_fresh
  | plain v => exact iff_of_true only nodeFits_plain

/-- Keys whose texts are different are new, each of them. -/
theorem typeOnly_freshDemands {known taken : List String} {keys : List Value}
    (distinct : keys.Pairwise fun k l => ∀ name, k.text? = some name → l.text? ≠ some name)
    (new : ∀ k ∈ keys, ∀ name, k.text? = some name → name ∉ taken) :
    ∀ d ∈ freshDemands known taken keys, TypeOnly d := by
  induction keys generalizing taken with
  | nil => simp [freshDemands]
  | cons k rest ih =>
    obtain ⟨apart, distinct⟩ := List.pairwise_cons.mp distinct
    obtain ⟨here, later⟩ := List.forall_mem_cons.mp new
    refine List.forall_mem_cons.mpr ⟨Demand.met_fresh.mpr here, ih distinct ?_⟩
    intro l member name named
    rw [List.mem_append, List.mem_filter, Option.mem_toList]
    rintro (⟨same, _⟩ | earlier)
    · exact apart l member name same named
    · exact later l member name named earlier

section

variable {v : Value} (plain : Plain v)
include plain

theorem Plain.fields {known : List String} {below : String → Value → List Demand}
    (values : ∀ e ∈ v.inner, ∀ name, e.1.text? = some name → ∀ d ∈ below name e.2, TypeOnly d) :
    ∀ d ∈ fieldDemands known below [] v.inner, TypeOnly d :=
  forall_fieldDemands.mpr ⟨fun _ member => (plain.key member).symm,
    typeOnly_freshDemands plain.distinct fun _ _ _ _ => List.not_mem_nil, values⟩

theorem Plain.catalog {below : Value → List Demand}
    (values : ∀ e ∈ v.inner, ∀ d ∈ below e.2, TypeOnly d) :
    ∀ d ∈ catalogDemands below v, TypeOnly d :=
  forall_catalogDemands.mpr ⟨rfl, fun e member => ⟨(plain.key member).symm, values e member⟩⟩

theorem Plain.storage
    (settings : ∀ e ∈ v.inner, e.1.text? ∉ [some "table", some "schema"] → e.2.isTagFree = true) :
    ∀ d ∈ storageDemands v, TypeOnly d := by
  refine List.forall_mem_cons.mpr ⟨rfl, plain.fields fun e member name named d asked => ?_⟩
  split at asked
  · cases asked
  · rename_i other
    obtain rfl := List.mem_singleton.mp asked
    exact Demand.met_plain.mpr (settings e member (by simpa [named] using other))

theorem Plain.entity
    (settings : At "storage" (fun storage => ∀ e ∈ storage.inner,
      e.1.text? ∉ [some "table", some "schema"] → e.2.isTagFree = true) v.inner) :
    ∀ d ∈ entityDemands v, TypeOnly d := by
  refine List.forall_mem_cons.mpr ⟨rfl, plain.fields fun e member name named d asked => ?_⟩
  split at asked
  · rename_i same
    exact (plain.value member).storage (settings e member (same ▸ named)) d asked
  · split at asked
    · obtain rfl := List.mem_singleton.mp asked
      rfl
    · split at asked
      · obtain rfl := List.mem_singleton.mp asked
        rfl
      · cases asked

/-- In a plain body without tags in its settings only wrong types can be amiss. -/
theorem Plain.body (settings : PlainSettings v.inner) : ∀ d ∈ demands v.inner, TypeOnly d := by
  refine plain.fields fun e member name named => ?_
  have value := plain.value member
  rcases sectionDemands_cases name e.2 with none | rfl | ⟨s, other, rfl⟩
  · simp [none]
  · rw [sectionDemands_entities]
    exact value.catalog fun entity here =>
      (value.value here).entity (settings e member named entity here)
  · rw [sectionDemands_of_ne other]
    exact value.catalog (by simp)

end

/-! ## The first fault -/

/-- The nodes of a body that have to be of a type, with the type. -/
def typed (body : Entries) : List (Value × Expected) :=
  (demands body).filterMap Demand.node?

theorem forall_typed_iff {body : Entries} :
    (∀ n ∈ typed body, n.2.fits n.1 = true) ↔ Body body := by
  rw [← nodesFit_iff, typed, List.forall_mem_filterMap]
  rfl

instance (body : Entries) : Decidable (Body body) :=
  decidable_of_iff _ forall_typed_iff

/-- Where only types can be amiss, the first wrong one is the misfit. -/
theorem findSome?_misfit? {ds : List Demand} (only : ∀ d ∈ ds, TypeOnly d)
    {front back : List (Value × Expected)} {v : Value} {expected : Expected}
    (split : ds.filterMap Demand.node? = front ++ (v, expected) :: back)
    (before : ∀ n ∈ front, n.2.fits n.1 = true) (here : expected.fits v = false) :
    ds.findSome? Demand.misfit? = some (.wrongType v.untagged expected) := by
  induction ds generalizing front with
  | nil => simp at split
  | cons d rest ih =>
    obtain ⟨first, others⟩ := List.forall_mem_cons.mp only
    rw [List.findSome?_cons]
    cases d with
    | node u x =>
      change (u, x) :: rest.filterMap Demand.node? = _ at split
      cases front with
      | nil =>
        obtain ⟨rfl, rfl⟩ := Prod.mk.inj (List.cons.inj split).1
        have shown : x.shown u = u.untagged := first
        simp [Demand.misfit?, here, shown]
      | cons n front =>
        obtain ⟨rfl, later⟩ := List.cons.inj split
        obtain ⟨fits, fitting⟩ := List.forall_mem_cons.mp before
        rw [show Demand.misfit? (.node u x) = none from Demand.met_node.mpr fits]
        exact ih others later fitting
    | fresh k taken =>
      rw [show Demand.misfit? (.fresh k taken) = none from first]
      exact ih others split before
    | plain u =>
      rw [show Demand.misfit? (.plain u) = none from first]
      exact ih others split before

/-! ## The order of the document -/

/-- The nodes that have to be of a type. -/
def askedNodes (ds : List Demand) : List Value :=
  (ds.filterMap Demand.node?).map (·.1)

theorem askedNodes_append (d e : List Demand) :
    askedNodes (d ++ e) = askedNodes d ++ askedNodes e := by
  simp [askedNodes]

theorem askedNodes_fields_sublist {known : List String} {below : String → Value → List Demand}
    (values : ∀ name v, (askedNodes (below name v)).Sublist v.nodes) (taken : List String)
    (es : Entries) :
    (askedNodes (fieldDemands known below taken es)).Sublist (Value.entryNodes es) := by
  induction es generalizing taken with
  | nil => exact List.Sublist.refl _
  | cons e rest ih =>
    obtain ⟨k, v⟩ := e
    have value : (askedNodes (k.text?.elim [] fun name => below name v)).Sublist v.nodes := by
      cases k.text? with
      | none => exact List.nil_sublist _
      | some name => exact values name v
    have entry := ((Value.sublist_nodes k).append value).append
      (ih (k.text?.toList.filter (known.contains ·) ++ taken))
    rwa [List.append_assoc, ← askedNodes_append] at entry

/-- A value that has to be of a type stands before what is asked of its entries. -/
theorem askedNodes_node_sublist {v : Value} {expected : Expected} {ds : List Demand}
    (entries : (askedNodes ds).Sublist (Value.entryNodes v.inner)) :
    (askedNodes (.node v expected :: ds)).Sublist v.nodes :=
  (entries.cons_cons v).trans (Value.cons_entryNodes_sublist v)

theorem askedNodes_catalog_sublist {below : Value → List Demand}
    (values : ∀ v, (askedNodes (below v)).Sublist v.nodes) (v : Value) :
    (askedNodes (catalogDemands below v)).Sublist v.nodes := by
  refine askedNodes_node_sublist ?_
  generalize v.inner = es
  induction es with
  | nil => exact List.Sublist.refl _
  | cons e rest ih =>
    obtain ⟨k, v⟩ := e
    rw [List.flatMap_cons, askedNodes_append]
    exact ((Value.sublist_nodes k).append (values v)).append ih

theorem askedNodes_storage_sublist (v : Value) :
    (askedNodes (storageDemands v)).Sublist v.nodes := by
  refine askedNodes_node_sublist (askedNodes_fields_sublist (fun name v => ?_) _ _)
  split <;> exact List.nil_sublist _

theorem askedNodes_entity_sublist (v : Value) :
    (askedNodes (entityDemands v)).Sublist v.nodes := by
  refine askedNodes_node_sublist (askedNodes_fields_sublist (fun name v => ?_) _ _)
  split
  · exact askedNodes_storage_sublist v
  · split
    · exact Value.sublist_nodes v
    · split
      · exact Value.sublist_nodes v
      · exact List.nil_sublist _

/-- The nodes that have to be of a type come in the order of the document. -/
theorem typed_sublist (v : Value) : ((typed v.inner).map (·.1)).Sublist v.nodes := by
  have entries := (List.sublist_cons_self v _).trans (Value.cons_entryNodes_sublist v)
  refine List.Sublist.trans ?_ entries
  refine askedNodes_fields_sublist (fun name v => ?_) [] v.inner
  rcases sectionDemands_cases name v with none | rfl | ⟨s, other, rfl⟩
  · rw [none]
    exact List.nil_sublist _
  · rw [sectionDemands_entities]
    exact askedNodes_catalog_sublist askedNodes_entity_sublist v
  · rw [sectionDemands_of_ne other]
    refine askedNodes_catalog_sublist (fun v => ?_) v
    exact List.nil_sublist _

end Grammar

/-! ## Absorbing -/

open Grammar

/-- **What is absorbed is the grammar.** A body without tagged keys and without tags in its
settings has to be a mapping, and is absorbed just if it is in the grammar, whatever was
absorbed before. Else the fault is the first node in the order of the document that is not
of its type. -/
theorem absorb_by_grammar (marker : String) (m : Merge) {f : Fragment} (plain : Plain f.body)
    (settings : PlainSettings f.body.inner) :
    (m.absorb marker f = .error (.markerNotMapping f.path marker) ↔
      ¬ ∃ es, f.body.untagged = .map es) ∧
    ∀ es, f.body.untagged = .map es →
      ((∃ m', m.absorb marker f = .ok m') ↔ Body es) ∧
      (Body es ↔ ∀ n ∈ typed es, n.2.fits n.1 = true) ∧
      ((typed es).map (·.1)).Sublist f.body.nodes ∧
      (¬ Body es → ∃ front v expected back, typed es = front ++ (v, expected) :: back ∧
        (∀ n ∈ front, n.2.fits n.1 = true) ∧ expected.fits v = false ∧
        m.absorb marker f =
          .error (.invalidFragment f.path marker (.wrongType v.untagged expected))) := by
  refine ⟨?_, fun es mapping => ?_⟩
  · rw [Merge.absorb_eq_error_iff]
    simp only [← Value.entries?_eq_some_iff]
    cases mapping : f.body.entries? with
    | none => simp [Fragment.decode, mapping]
    | some es =>
      rw [Fragment.decode_of_entries? mapping]
      cases sections es <;> simp [Except.mapError]
  · have inner : f.body.entries? = some es := Value.entries?_eq_some_iff.mpr mapping
    have same : f.body.inner = es := by rw [Value.inner, inner, Option.getD_some]
    have types := plain.body settings
    rw [same] at types
    refine ⟨?_, forall_typed_iff.symm, same ▸ typed_sublist f.body, fun outside => ?_⟩
    · rw [Merge.exists_absorb_ok_iff, Fragment.reads_iff_met inner, ← nodesFit_iff]
      exact forall₂_congr fun d member => (types d member).met_iff
    · -- Some node is not of its type, so there is a first one.
      rw [← forall_typed_iff] at outside
      push Not at outside
      obtain ⟨n, member, misfit⟩ := outside
      have exists_first : ((typed es).find? fun n => !n.2.fits n.1).isSome = true :=
        List.find?_isSome.mpr ⟨n, member, by simpa using misfit⟩
      obtain ⟨⟨v, expected⟩, found⟩ := Option.isSome_iff_exists.mp exists_first
      obtain ⟨wrong, front, back, split, before⟩ := List.find?_eq_some_iff_append.mp found
      have before : ∀ n ∈ front, n.2.fits n.1 = true := by simpa using before
      have wrong : expected.fits v = false := by simpa using wrong
      refine ⟨front, v, expected, back, split, before, wrong, ?_⟩
      rw [Merge.absorb_eq_error_iff, Fragment.decode_of_entries? inner,
        (follows_sections es).eq_error (findSome?_misfit? types split before wrong)]
      rfl

/-- A tavern has beer on tap, with a storage and indexes that say nothing, and a note that
nobody reads. -/
def tavern : Entries :=
  [(.str "entities", .tagged "tap" (.map [(.str "Beer", .map
      [(.str "storage", .null), (.str "indexes", .tagged "none" .null),
        (.str "attributes", .map [(.null, .str "ale")]), (.str "note", .str "cold")])])),
    (.str "types", .null)]

theorem absorb_by_grammar_tavern :
    Plain (.map tavern) ∧ PlainSettings tavern ∧ Body tavern ∧
      ∃ m', ({} : Merge).absorb "bar" ⟨⟨"tavern.yaml"⟩, .map tavern⟩ = .ok m' := by
  have plain : Plain (.map tavern) := by
    refine plain_map (by decide) (by simp [tavern]) ?_
    simp only [tavern, List.forall_mem_cons, plain_tagged_iff, plain_null]
    refine ⟨plain_map (by decide) (by simp) ?_, by simp⟩
    simp only [List.forall_mem_cons]
    refine ⟨plain_map (by decide) (by simp) ?_, by simp⟩
    simp only [List.forall_mem_cons, plain_tagged_iff, plain_null, plain_str]
    have attributes : Plain (.map [(.null, .str "ale")]) :=
      plain_map (by decide) (by simp) (by simp [plain_str])
    exact ⟨trivial, trivial, attributes, trivial, by simp⟩
  have settings : PlainSettings tavern := by decide
  have body : Body tavern := by decide
  obtain ⟨_, accepted⟩ :=
    absorb_by_grammar "bar" {} (f := ⟨⟨"tavern.yaml"⟩, .map tavern⟩) plain settings
  exact ⟨plain, settings, body, (accepted tavern rfl).1.mpr body⟩

/-- Both the attributes and the types are of a wrong type, and the attributes stand first. -/
example : ({} : Merge).absorb "bar" ⟨⟨"tavern.yaml"⟩, .map
      [(.str "entities", .map [(.str "Beer", .map [(.str "attributes", .seq [])])]),
        (.str "types", .int 5)]⟩ =
    .error (.invalidFragment ⟨"tavern.yaml"⟩ "bar" (.wrongType (.seq []) .attributes)) := by
  decide +kernel

end SchemaGen
