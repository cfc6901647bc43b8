import SchemaGen.Proofs.Model.Demands
import SchemaGen.Proofs.Model.Keeping

/-!
# Free-form values

Some values of a body mean nothing to reading and are taken as they are: what a key of a
section other than the entities has, an attribute, an index, a setting of no fixed meaning
(`FreeForm`). A body with a gap at such a place (`Place`) can be filled with one value as
well as with another, and the model has the value that was filled in
(`free_form_refilled`). There are two exceptions. A setting is passed through a reader that
knows no tags, so a value with one somewhere cannot stand there
(`tagged_setting_rejected`), and an entry behind which another one has the same name is
passed over.
-/

namespace SchemaGen

open SchemaGen.Yaml (Value Entries)
open SchemaGen.Decode

/-! ## Mappings with a gap -/

theorem Yaml.Value.untagged_foldr_tagged (tags : List String) (v : Value) :
    (tags.foldr .tagged v).untagged = v.untagged := by
  induction tags with
  | nil => rfl
  | cons t rest ih => rwa [List.foldr_cons, Value.untagged_tagged]

theorem Yaml.Value.exists_eq_foldr_tagged (v : Value) :
    ∃ tags : List String, v = tags.foldr .tagged v.untagged := by
  fun_induction Value.untagged v with
  | case1 t v ih =>
    obtain ⟨tags, same⟩ := ih
    exact ⟨t :: tags, congrArg (Value.tagged t) same⟩
  | case2 v _ => exact ⟨[], rfl⟩

/-- The mapping, tags aside, has the value under a key with this name, or under one that is
no text. -/
def Yaml.Value.Has (v : Value) (name? : Option String) (u : Value) : Prop :=
  ∃ es e, v.untagged = .map es ∧ e ∈ es ∧ e.1.text? = name? ∧ e.2 = u

/-- A mapping below tags with a gap for the value of a key, which has this name if it is a
text. -/
structure Frame (name? : Option String) where
  tags : List String
  front : Entries
  key : Value
  back : Entries
  named : key.text? = name?

namespace Frame

variable {name? : Option String} {name : String} {v w : Value}

/-- The entries with the value in the gap. -/
def entries (c : Frame name?) (v : Value) : Entries :=
  c.front ++ (c.key, v) :: c.back

/-- The mapping with the value in the gap. -/
def fill (c : Frame name?) (v : Value) : Value :=
  c.tags.foldr .tagged (.map (c.entries v))

theorem mem_entries (c : Frame name?) (v : Value) : (c.key, v) ∈ c.entries v :=
  List.mem_append_cons_self

/-- A later entry has the same name. -/
def Shadowed (c : Frame (some name)) : Prop :=
  ∃ u, Entries.last? c.back name = some u

theorem last?_entries (c : Frame (some name)) (unshadowed : ¬ c.Shadowed) (v : Value) :
    Entries.last? (c.entries v) name = some v := by
  have none_behind : Entries.last? c.back name = none :=
    Option.eq_none_iff_forall_ne_some.mpr fun u found => unshadowed ⟨u, found⟩
  rw [entries, List.append_cons, Entries.last?_append, Entries.last?_concat, if_pos c.named,
    none_behind]
  rfl

@[simp]
theorem untagged_fill (c : Frame name?) (v : Value) : (c.fill v).untagged = .map (c.entries v) :=
  Value.untagged_foldr_tagged c.tags _

theorem entries?_fill (c : Frame name?) (v : Value) : (c.fill v).entries? = some (c.entries v) :=
  Value.entries?_eq_some_iff.mpr (c.untagged_fill v)

@[simp]
theorem inner_fill (c : Frame name?) (v : Value) : (c.fill v).inner = c.entries v := by
  rw [Value.inner, entries?_fill, Option.getD_some]

theorem has_fill (c : Frame name?) (v : Value) : (c.fill v).Has name? v :=
  ⟨c.entries v, (c.key, v), c.untagged_fill v, c.mem_entries v, c.named, rfl⟩

/-- Whatever a mapping has is in the gap of a frame. -/
theorem exists_fill_of_has (has : v.Has name? w) : ∃ c : Frame name?, c.fill w = v := by
  obtain ⟨es, ⟨k, u⟩, mapping, member, named, rfl⟩ := has
  obtain ⟨tags, same⟩ := Value.exists_eq_foldr_tagged v
  obtain ⟨front, back, split⟩ := List.append_of_mem member
  refine ⟨⟨tags, front, k, back, named⟩, ?_⟩
  rw [same, mapping, split]
  rfl

theorem fits_fill (c : Frame name?) (v : Value) {expected : Expected}
    (mapping : expected ∈ [.sectionMap, .entity, .storage, .attributes]) :
    expected.fits (c.fill v) = true := by
  unfold Expected.fits
  rw [untagged_fill]
  simp only [List.mem_cons, List.not_mem_nil, or_false] at mapping
  rcases mapping with rfl | rfl | rfl | rfl <;> rfl

/-! ## What is asked of a filled gap -/

/-- Fields that meet their demands with one value in the gap do so with another just if that
value meets its own. -/
theorem met_fields_iff (c : Frame (some name)) {known taken : List String}
    {below : String → Value → List Demand}
    (met : ∀ d ∈ fieldDemands known below taken (c.entries v), d.Met) :
    (∀ d ∈ fieldDemands known below taken (c.entries w), d.Met) ↔ ∀ d ∈ below name w, d.Met := by
  have keys : (c.entries w).map (·.1) = (c.entries v).map (·.1) := by simp [entries]
  rw [forall_fieldDemands] at met ⊢
  rw [keys]
  obtain ⟨texts, fresh, values⟩ := met
  simp only [entries, List.forall_mem_append, List.forall_mem_cons] at texts values ⊢
  constructor
  · rintro ⟨_, _, _, here, _⟩
    exact here name c.named
  · intro here
    refine ⟨texts, fresh, values.1, fun n named => ?_, values.2.2⟩
    rwa [← Option.some.inj (c.named.symm.trans named)]

/-- So does a catalog. -/
theorem met_catalog_iff (c : Frame (some name)) {below : Value → List Demand}
    (met : ∀ d ∈ catalogDemands below (c.fill v), d.Met) :
    (∀ d ∈ catalogDemands below (c.fill w), d.Met) ↔ ∀ d ∈ below w, d.Met := by
  rw [forall_catalogDemands, inner_fill] at met ⊢
  obtain ⟨_, each⟩ := met
  simp only [entries, List.forall_mem_append, List.forall_mem_cons] at each ⊢
  constructor
  · rintro ⟨_, _, ⟨_, here⟩, _⟩
    exact here
  · intro here
    exact ⟨Demand.met_node.mpr (c.fits_fill w (by simp)), each.1, ⟨each.2.1.1, here⟩, each.2.2⟩

/-- A mapping that is asked for its fields meets these demands if its fields do. -/
theorem met_node_fields_iff (c : Frame (some name)) {expected : Expected} {known : List String}
    {below : String → Value → List Demand}
    (mapping : expected ∈ [.sectionMap, .entity, .storage, .attributes])
    (met : ∀ d ∈ .node (c.fill v) expected :: fieldDemands known below [] (c.fill v).inner,
      d.Met) :
    (∀ d ∈ .node (c.fill w) expected :: fieldDemands known below [] (c.fill w).inner, d.Met) ↔
      ∀ d ∈ below name w, d.Met := by
  rw [List.forall_mem_cons, inner_fill] at met ⊢
  rw [c.met_fields_iff met.2]
  exact and_iff_right (Demand.met_node.mpr (c.fits_fill w mapping))

/-- A field of an entity that means something is what the gap is filled with. -/
theorem entityFrom (c : Frame (some name)) (means : name ∈ ["storage", "attributes", "indexes"])
    {e : Entity} (read : entity (c.fill v) = .ok e) :
    ∃ es, EntityFrom es e ∧ Entries.last? es name = some v := by
  obtain ⟨es, mapping, source⟩ := entity_from read
  refine ⟨es, source, ?_⟩
  obtain ⟨es', mapping', fields⟩ := bind_eq_ok.mp read
  obtain rfl := Except.ok.inj (mapping.symm.trans mapping')
  obtain rfl := (eq_inner_of_entries mapping).trans (c.inner_fill v)
  exact fields_once fields means (c.mem_entries v) c.named

/-- What is read of a body of a section is read of what the gap is filled with. -/
theorem sectionFrom {s : Section} (c : Frame (some s.name)) {marker : String}
    {path : File.FilePath} {part : Model}
    (decoded : (⟨path, c.fill v⟩ : Fragment).decode marker = .ok part) :
    SectionFrom s (some v) part := by
  have stands : (⟨path, c.fill v⟩ : Fragment).HasSection s v :=
    ⟨_, c.key, c.entries?_fill v, c.mem_entries v, c.named⟩
  have described := Fragment.described_eq decoded
  rw [← described] at decoded ⊢
  exact stands.sectionFrom decoded

end Frame

/-! ## Places -/

/-- A gap in an entity: an attribute, an index, or a setting of no fixed meaning. -/
inductive Spot where
  | inAttributes {name? : Option String} (entity : Frame (some "attributes"))
      (attributes : Frame name?)
  | inIndexes (entity : Frame (some "indexes")) (tags : List String) (front back : List Value)
  | inStorage {name : String} (entity : Frame (some "storage")) (storage : Frame (some name))
      (free : name ∉ ["table", "schema"])

namespace Spot

/-- The value stands in an entity where any value may stand: it is that of an attribute or of
a setting of no fixed meaning, or an index. -/
inductive FreeForm (v entity : Value) : Prop where
  | inAttributes {attributes : Value} {name? : Option String}
      (field : entity.Has (some "attributes") attributes) (entry : attributes.Has name? v)
  | inIndexes {indexes : Value} {items : List Value} (field : entity.Has (some "indexes") indexes)
      (sequence : indexes.untagged = .seq items) (item : v ∈ items)
  | inStorage {storage : Value} {name : String} (field : entity.Has (some "storage") storage)
      (entry : storage.Has (some name) v) (free : name ∉ ["table", "schema"])

/-- The entity with the value in the gap. -/
def fill (v : Value) : Spot → Value
  | .inAttributes entity attributes => entity.fill (attributes.fill v)
  | .inIndexes entity tags front back =>
    entity.fill (tags.foldr .tagged (.seq (front ++ v :: back)))
  | .inStorage entity storage _ => entity.fill (storage.fill v)

/-- The gap is that of a setting. -/
def IsSetting : Spot → Prop
  | .inStorage _ _ _ => True
  | .inAttributes _ _ | .inIndexes _ _ _ _ => False

/-- A later setting has the same name. -/
def Shadowed : Spot → Prop
  | .inStorage _ storage _ => storage.Shadowed
  | .inAttributes _ _ | .inIndexes _ _ _ _ => False

/-- The entity has the value as it is. -/
def Holds (v : Value) (e : Entity) : Spot → Prop
  | .inAttributes _ attributes => e.attributes = attributes.entries v
  | .inIndexes _ _ front back => e.indexes = front ++ v :: back
  | @inStorage name _ _ _ => e.storage.extra.get? name = some v

theorem exists_fill_iff {v entity : Value} :
    (∃ p : Spot, p.fill v = entity) ↔ FreeForm v entity := by
  constructor
  · rintro ⟨p, rfl⟩
    cases p with
    | inAttributes entity attributes =>
      exact .inAttributes (entity.has_fill _) (attributes.has_fill v)
    | inIndexes entity tags front back =>
      exact .inIndexes (entity.has_fill _) (Value.untagged_foldr_tagged tags _)
        List.mem_append_cons_self
    | inStorage entity storage free =>
      exact .inStorage (entity.has_fill _) (storage.has_fill v) free
  · intro stands
    cases stands with
    | inAttributes field entry =>
      obtain ⟨attributes, rfl⟩ := Frame.exists_fill_of_has entry
      obtain ⟨entity, rfl⟩ := Frame.exists_fill_of_has field
      exact ⟨.inAttributes entity attributes, rfl⟩
    | @inIndexes indexes items field sequence item =>
      obtain ⟨tags, same⟩ := Value.exists_eq_foldr_tagged indexes
      obtain ⟨front, back, rfl⟩ := List.append_of_mem item
      rw [sequence] at same
      subst same
      obtain ⟨entity, rfl⟩ := Frame.exists_fill_of_has field
      exact ⟨.inIndexes entity tags front back, rfl⟩
    | inStorage field entry free =>
      obtain ⟨storage, rfl⟩ := Frame.exists_fill_of_has entry
      obtain ⟨entity, rfl⟩ := Frame.exists_fill_of_has field
      exact ⟨.inStorage entity storage free, rfl⟩

/-- An entity with any value in the gap meets its demands, unless a tag comes into its
settings. -/
theorem met_entity_iff {v w : Value} (p : Spot) (met : ∀ d ∈ entityDemands (p.fill v), d.Met) :
    (∀ d ∈ entityDemands (p.fill w), d.Met) ↔ (p.IsSetting → w.isTagFree = true) := by
  cases p with
  | inAttributes entity attributes =>
    refine (entity.met_node_fields_iff (by simp) met).trans (iff_of_true ?_ False.elim)
    intro d asked
    obtain rfl := List.mem_singleton.mp asked
    exact Demand.met_node.mpr (attributes.fits_fill w (by simp))
  | inIndexes entity tags front back =>
    refine (entity.met_node_fields_iff (by simp) met).trans (iff_of_true ?_ False.elim)
    intro d asked
    obtain rfl := List.mem_singleton.mp asked
    rw [Demand.met_node]
    unfold Expected.fits
    rw [Value.untagged_foldr_tagged]
    rfl
  | @inStorage name entity storage free =>
    have inner : ∀ d ∈ storageDemands (storage.fill v), d.Met :=
      (entity.met_node_fields_iff (by simp) met).mp met
    refine (entity.met_node_fields_iff (by simp) met).trans ?_
    refine (storage.met_node_fields_iff (by simp) inner).trans ?_
    rw [if_neg (by simpa using free)]
    simp [IsSetting]

/-- What is read of an entity has the value, unless a later setting has the same name. -/
theorem holds_of_entity {v : Value} {e : Entity} (p : Spot) (read : entity (p.fill v) = .ok e)
    (unshadowed : ¬ p.Shadowed) : p.Holds v e := by
  cases p with
  | inAttributes entity attributes =>
    obtain ⟨es, source, last⟩ := entity.entityFrom (by simp) read
    have attributes_read := source.attributes
    rw [last] at attributes_read
    exact (eq_inner_of_entries attributes_read).trans (attributes.inner_fill v)
  | inIndexes entity tags front back =>
    obtain ⟨es, source, last⟩ := entity.entityFrom (by simp) read
    have indexes_read := source.indexes
    rw [last, ReadOr, items, Value.untagged_foldr_tagged] at indexes_read
    exact (Except.ok.inj indexes_read).symm
  | @inStorage name entity storage free =>
    obtain ⟨es, source, last⟩ := entity.entityFrom (by simp) read
    have storage_read := source.storage
    rw [last] at storage_read
    obtain ⟨settings, mapping, extra⟩ := storage_extra storage_read
    obtain rfl := (eq_inner_of_entries mapping).trans (storage.inner_fill v)
    exact (extra name free).trans (storage.last?_entries unshadowed v)

end Spot

/-- A gap in a body: the value of a key of a section other than the entities, or a gap in an
entity. -/
inductive Place where
  | inSection {name : String} (s : Section) (plain : s ≠ .entities) (body : Frame (some s.name))
      (part : Frame (some name))
  | inEntity {name : String} (body : Frame (some Section.entities.name))
      (entities : Frame (some name)) (spot : Spot)

/-- The value stands in a body where any value may stand: it is that of a key of a section
other than the entities, or stands so in an entity. -/
inductive FreeForm (v body : Value) : Prop where
  | inSection {s : Section} {part : Value} {name : String} (plain : s ≠ .entities)
      (field : body.Has (some s.name) part) (entry : part.Has (some name) v)
  | inEntity {entities entity : Value} {name : String}
      (field : body.Has (some Section.entities.name) entities)
      (entry : entities.Has (some name) entity) (inside : Spot.FreeForm v entity)

namespace Place

/-- The body with the value in the gap. -/
def fill (v : Value) : Place → Value
  | .inSection _ _ body part => body.fill (part.fill v)
  | .inEntity body entities spot => body.fill (entities.fill (spot.fill v))

/-- The gap is that of a setting. -/
def IsSetting : Place → Prop
  | .inSection _ _ _ _ => False
  | .inEntity _ _ spot => spot.IsSetting

/-- A later entry has the name of the entry that the gap is in: a key of the section, an
entity, or a setting. -/
def Shadowed : Place → Prop
  | .inSection _ _ _ part => part.Shadowed
  | .inEntity _ entities spot => entities.Shadowed ∨ spot.Shadowed

/-- The model has the value as it is. -/
def Holds (v : Value) (m : Model) : Place → Prop
  | @inSection name s _ _ _ => m.definition? s name = some (.value v)
  | @inEntity name _ _ spot =>
    ∃ e, m.definition? .entities name = some (.entity e) ∧ spot.Holds v e

variable {marker : String} {path : File.FilePath} {v w : Value}

/-- **The places** are where any value may stand, all of them. -/
theorem exists_fill_iff {body : Value} : (∃ p : Place, p.fill v = body) ↔ FreeForm v body := by
  constructor
  · rintro ⟨p, rfl⟩
    cases p with
    | inSection s plain body part => exact .inSection plain (body.has_fill _) (part.has_fill v)
    | inEntity body entities spot =>
      exact .inEntity (body.has_fill _) (entities.has_fill _) (Spot.exists_fill_iff.mp ⟨spot, rfl⟩)
  · intro stands
    cases stands with
    | inSection plain field entry =>
      obtain ⟨part, rfl⟩ := Frame.exists_fill_of_has entry
      obtain ⟨body, rfl⟩ := Frame.exists_fill_of_has field
      exact ⟨.inSection _ plain body part, rfl⟩
    | inEntity field entry inside =>
      obtain ⟨spot, rfl⟩ := Spot.exists_fill_iff.mpr inside
      obtain ⟨entities, rfl⟩ := Frame.exists_fill_of_has entry
      obtain ⟨body, rfl⟩ := Frame.exists_fill_of_has field
      exact ⟨.inEntity body entities spot, rfl⟩

/-- **A body with another value in the gap** can be read as well, unless a tag comes into its
settings. -/
theorem reads_iff (p : Place) (reads : (⟨path, p.fill v⟩ : Fragment).Reads marker) :
    (⟨path, p.fill w⟩ : Fragment).Reads marker ↔ (p.IsSetting → w.isTagFree = true) := by
  cases p with
  | inSection s plain body part =>
    have met := (Fragment.reads_iff_met (body.entries?_fill _)).mp reads
    have inner := (body.met_fields_iff met).mp met
    rw [Fragment.reads_iff_met (body.entries?_fill _)]
    refine (body.met_fields_iff met).trans ?_
    rw [sectionDemands_of_ne plain] at inner ⊢
    refine (part.met_catalog_iff inner).trans ?_
    simp [IsSetting]
  | inEntity body entities spot =>
    have met := (Fragment.reads_iff_met (body.entries?_fill _)).mp reads
    have inner := (body.met_fields_iff met).mp met
    rw [Fragment.reads_iff_met (body.entries?_fill _)]
    refine (body.met_fields_iff met).trans ?_
    rw [sectionDemands_entities] at inner ⊢
    refine (entities.met_catalog_iff inner).trans ?_
    exact spot.met_entity_iff ((entities.met_catalog_iff inner).mp inner)

/-- What is read of a body has the value, unless a later entry has the same name. -/
theorem holds_of_decode (p : Place) {part : Model}
    (decoded : (⟨path, p.fill v⟩ : Fragment).decode marker = .ok part)
    (unshadowed : ¬ p.Shadowed) : p.Holds v part := by
  cases p with
  | inSection s plain body part =>
    have source := body.sectionFrom decoded
    refine (definition?_of_sectionFrom source (part.untagged_fill v) _ _).mpr
      ⟨v, part.last?_entries unshadowed v, ?_⟩
    cases s with
    | entities => exact absurd rfl plain
    | enums | types | metadata | targets => rfl
  | inEntity body entities spot =>
    obtain ⟨unshadowed, inner⟩ := not_or.mp unshadowed
    have source := body.sectionFrom decoded
    have mapping := entities.untagged_fill (spot.fill v)
    obtain ⟨_, _, _, e, read, rfl⟩ :=
      exists_reads_of_sectionFrom source mapping (entities.mem_entries (spot.fill v))
    have defined := (definition?_of_sectionFrom source mapping _ (.entity e)).mpr
      ⟨_, entities.last?_entries unshadowed _, e, read, rfl⟩
    exact ⟨e, defined, spot.holds_of_entity read inner⟩

/-- What a merge takes in of a model wins. -/
theorem Holds.overlay {p : Place} {m part : Model} (holds : p.Holds v part)
    (ordered : part.Ordered) : p.Holds v (m.overlay part) := by
  cases p with
  | inSection s plain body _ =>
    have defined : part.definition? s _ = some (.value v) := holds
    exact (Model.definition?_overlay ordered).trans (by rw [defined, Option.some_or])
  | inEntity body entities spot =>
    obtain ⟨e, defined, holds⟩ := holds
    exact ⟨e, (Model.definition?_overlay ordered).trans (by rw [defined, Option.some_or]), holds⟩

end Place

/-- **Free-form values do not decide**, but for tags in settings. A body that is absorbed is
absorbed as well with any other value in the place of a free-form one, just unless the place
is that of a setting and there is a tag in the value; and then the model has the value as it
is, unless a later entry of the same mapping has the same name. -/
theorem free_form_refilled {marker : String} {m : Merge} {path : File.FilePath} {p : Place}
    {v : Value} (absorbed : ∃ m', m.absorb marker ⟨path, p.fill v⟩ = .ok m') (w : Value) :
    ((∃ m', m.absorb marker ⟨path, p.fill w⟩ = .ok m') ↔
      (p.IsSetting → w.isTagFree = true)) ∧
    ∀ m', m.absorb marker ⟨path, p.fill w⟩ = .ok m' → ¬ p.Shadowed → p.Holds w m'.model := by
  refine ⟨?_, fun m' absorbed unshadowed => ?_⟩
  · rw [Merge.exists_absorb_ok_iff] at absorbed ⊢
    exact p.reads_iff absorbed
  · obtain ⟨part, decoded, rfl⟩ := Merge.absorb_eq_ok absorbed
    exact (p.holds_of_decode decoded unshadowed).overlay (Fragment.ordered_of_decode decoded)

/-! ## A wine -/

/-- The engine of the storage of a wine. -/
def engine : Place :=
  .inEntity ⟨[], [], .str "entities", [], rfl⟩
    (⟨[], [], .str "Wine", [], rfl⟩ : Frame (some "Wine"))
    (.inStorage ⟨[], [], .str "storage", [], rfl⟩
      (⟨[], [], .str "engine", [], rfl⟩ : Frame (some "engine")) (by decide))

theorem free_form_refilled_engine :
    (∃ m', ({} : Merge).absorb "cellar" ⟨⟨"wine.yaml"⟩, engine.fill (.str "wal")⟩ = .ok m') ∧
    ¬ engine.Shadowed ∧
    ∃ m', ({} : Merge).absorb "cellar" ⟨⟨"wine.yaml"⟩, engine.fill (.seq [.null])⟩ = .ok m' ∧
      engine.Holds (.seq [.null]) m'.model := by
  have absorbed :
      ∃ m', ({} : Merge).absorb "cellar" ⟨⟨"wine.yaml"⟩, engine.fill (.str "wal")⟩ = .ok m' :=
    ⟨_, rfl⟩
  have unshadowed : ¬ engine.Shadowed := by
    rintro (⟨_, found⟩ | ⟨_, found⟩) <;> cases found
  obtain ⟨accepted, holds⟩ := free_form_refilled absorbed (.seq [.null])
  obtain ⟨m', refilled⟩ := accepted.mpr fun _ => rfl
  exact ⟨absorbed, unshadowed, m', refilled, holds m' refilled unshadowed⟩

/-- **A tag decides.** The engine may be a text, but not the same text with a tag. -/
theorem tagged_setting_rejected :
    (∃ m', ({} : Merge).absorb "cellar" ⟨⟨"wine.yaml"⟩, engine.fill (.str "wal")⟩ = .ok m') ∧
    ¬ ∃ m', ({} : Merge).absorb "cellar"
      ⟨⟨"wine.yaml"⟩, engine.fill (.tagged "fast" (.str "wal"))⟩ = .ok m' := by
  refine ⟨⟨_, rfl⟩, ?_⟩
  rintro ⟨m', absorbed⟩
  have fault : ({} : Merge).absorb "cellar"
      ⟨⟨"wine.yaml"⟩, engine.fill (.tagged "fast" (.str "wal"))⟩ =
      .error (.invalidFragment ⟨"wine.yaml"⟩ "cellar" .taggedSetting) := by decide +kernel
  rw [fault] at absorbed
  cases absorbed

end SchemaGen
