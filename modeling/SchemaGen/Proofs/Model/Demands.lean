import SchemaGen.Proofs.Model.Merging
import SchemaGen.Proofs.Model.Reading
import SchemaGen.Proofs.Yaml.Inheriting

/-!
# What reading asks for

Reading a body asks one thing after another: that a key is a text, that a field has not
been there before, that a value is a mapping, that a setting has no tag. All of it is one
list, in the order of the document (`Decode.demands`), and what reading gives follows from
the list: the misfit of the first demand that is not met, and a model if all of them are
(`Decode.follows_sections`).
-/

namespace SchemaGen

open SchemaGen.Yaml (Value Entries)

/-- The entries of the mapping below the tags, none if there is no mapping. -/
def Yaml.Value.inner (v : Value) : Entries :=
  v.entries?.getD []

namespace Expected

/-- Is the value what is expected, tags aside? Null is an empty collection. -/
def fits (expected : Expected) (v : Value) : Bool :=
  match expected, v.untagged with
  | .fieldName, .str _ | .key, .str _ => true
  | .fieldName, _ | .key, _ => false
  | .indexes, .seq _ | .indexes, .null => true
  | .indexes, _ => false
  | _, .map _ | _, .null => true
  | _, _ => false

/-- What is shown of a value that does not fit: a key as it is, another value without its
tags. -/
def shown (expected : Expected) (v : Value) : Value :=
  match expected with
  | .fieldName | .key => v
  | .sectionMap | .entity | .storage | .attributes | .indexes => v.untagged

end Expected

/-- What reading asks. -/
inductive Demand where
  /-- The node is what is expected there. -/
  | node (v : Value) (expected : Expected)
  /-- The key is none of the names that have been there. -/
  | fresh (k : Value) (taken : List String)
  /-- There is no tag in the value. -/
  | plain (v : Value)

namespace Demand

/-- The misfit, if the demand is not met. -/
def misfit? : Demand → Option Misfit
  | .node v expected =>
    if expected.fits v then none else some (.wrongType (expected.shown v) expected)
  | .fresh k taken => (k.text?.filter (taken.contains ·)).map .repeatedField
  | .plain v => if v.isTagFree then none else some .taggedSetting

/-- The demand is met. -/
def Met (d : Demand) : Prop :=
  d.misfit? = none

/-- The node that has to be what is expected. -/
def node? : Demand → Option (Value × Expected)
  | .node v expected => some (v, expected)
  | .fresh _ _ | .plain _ => none

@[simp]
theorem met_node {v : Value} {expected : Expected} :
    (Demand.node v expected).Met ↔ expected.fits v = true := by
  simp [Met, misfit?]

@[simp]
theorem met_plain {v : Value} : (Demand.plain v).Met ↔ v.isTagFree = true := by
  simp [Met, misfit?]

theorem met_fresh {k : Value} {taken : List String} :
    (Demand.fresh k taken).Met ↔ ∀ name, k.text? = some name → name ∉ taken := by
  simp [Met, misfit?, Option.filter_eq_none_iff]

end Demand

namespace Decode

variable {α β : Type}

/-! ## The demands -/

/-- The demands of fields, where `below` has those of their values. -/
def fieldDemands (known : List String) (below : String → Value → List Demand) :
    List String → Entries → List Demand
  | _, [] => []
  | taken, (k, v) :: rest =>
    .node k .fieldName :: .fresh k taken :: ((k.text?.elim [] fun name => below name v) ++
      fieldDemands known below (k.text?.toList.filter (known.contains ·) ++ taken) rest)

/-- The demands of a catalog. -/
def catalogDemands (below : Value → List Demand) (v : Value) : List Demand :=
  .node v .sectionMap :: (v.inner).flatMap fun (k, v) => .node k .key :: below v

/-- The demands of the storage of an entity. -/
def storageDemands (v : Value) : List Demand :=
  .node v .storage :: fieldDemands ["table", "schema"]
    (fun name v => if name = "table" ∨ name = "schema" then [] else [.plain v])
    [] (v.inner)

/-- The demands of an entity. -/
def entityDemands (v : Value) : List Demand :=
  .node v .entity :: fieldDemands ["storage", "attributes", "indexes"]
    (fun name v =>
      if name = "storage" then storageDemands v
      else if name = "attributes" then [.node v .attributes]
      else if name = "indexes" then [.node v .indexes]
      else [])
    [] (v.inner)

/-- The demands of what stands under a name in a body. -/
def sectionDemands (name : String) (v : Value) : List Demand :=
  match Section.ofName? name with
  | none => []
  | some .entities => catalogDemands entityDemands v
  | some _ => catalogDemands (fun _ => []) v

theorem sectionDemands_entities (v : Value) :
    sectionDemands Section.entities.name v = catalogDemands entityDemands v := by
  rw [sectionDemands, ofName?_name]

theorem sectionDemands_of_ne {s : Section} (other : s ≠ .entities) (v : Value) :
    sectionDemands s.name v = catalogDemands (fun _ => []) v := by
  rw [sectionDemands, ofName?_name]
  cases s with
  | entities => exact absurd rfl other
  | enums | types | metadata | targets => rfl

/-- A name asks for something only if a section has it. -/
theorem sectionDemands_cases (name : String) (v : Value) :
    sectionDemands name v = [] ∨ name = Section.entities.name ∨
      ∃ s : Section, s ≠ .entities ∧ name = s.name := by
  cases found : Section.ofName? name with
  | none => exact .inl (by rw [sectionDemands, found])
  | some s =>
    have named := (name_of_ofName? found).symm
    by_cases same : s = .entities
    · exact .inr (.inl (same ▸ named))
    · exact .inr (.inr ⟨s, same, named⟩)

/-- The demands of a body. -/
def demands (body : Entries) : List Demand :=
  fieldDemands (Section.all.map (·.name)) sectionDemands [] body

/-! ## Readings and their demands -/

/-- The reading goes as its demands have it: the first one that is not met is its misfit,
and if all of them are met it gives something. -/
def Follows (x : Except Misfit α) (ds : List Demand) : Prop :=
  match ds.findSome? Demand.misfit? with
  | some misfit => x = .error misfit
  | none => ∃ a, x = .ok a

theorem follows_ok (a : α) : Follows (.ok a) [] :=
  ⟨a, rfl⟩

/-- What is read in two steps has the demands of both. -/
theorem Follows.bind {x : Except Misfit α} {f : α → Except Misfit β} {d e : List Demand}
    (first : Follows x d) (second : ∀ a, x = .ok a → Follows (f a) e) :
    Follows (x >>= f) (d ++ e) := by
  unfold Follows at first ⊢
  rw [List.findSome?_append]
  cases unmet : d.findSome? Demand.misfit? with
  | some misfit =>
    rw [unmet] at first
    rw [first]
    rfl
  | none =>
    rw [unmet] at first
    obtain ⟨a, rfl⟩ := first
    exact second a rfl

theorem Follows.bind_cons {x : Except Misfit α} {f : α → Except Misfit β} {d : Demand}
    {e : List Demand} (first : Follows x [d]) (second : ∀ a, x = .ok a → Follows (f a) e) :
    Follows (x >>= f) (d :: e) :=
  first.bind second

/-- What is made of the result asks nothing more. -/
theorem Follows.map {x : Except Misfit α} {ds : List Demand} (follows : Follows x ds)
    (f : α → β) : Follows (x >>= fun a => .ok (f a)) ds := by
  have mapped := follows.bind (e := []) fun a _ => follows_ok (f a)
  rwa [List.append_nil] at mapped

theorem Follows.exists_ok_iff {x : Except Misfit α} {ds : List Demand} (follows : Follows x ds) :
    (∃ a, x = .ok a) ↔ ∀ d ∈ ds, d.Met := by
  unfold Follows at follows
  have all : (∀ d ∈ ds, d.Met) ↔ ds.findSome? Demand.misfit? = none :=
    List.findSome?_eq_none_iff.symm
  rw [all]
  cases unmet : ds.findSome? Demand.misfit? with
  | some misfit =>
    rw [unmet] at follows
    simp [follows]
  | none =>
    rw [unmet] at follows
    simpa using follows

theorem Follows.eq_error {x : Except Misfit α} {ds : List Demand} {misfit : Misfit}
    (follows : Follows x ds) (first : ds.findSome? Demand.misfit? = some misfit) :
    x = .error misfit := by
  rwa [Follows, first] at follows

theorem Follows.cons {x : Except Misfit α} {d : Demand} {ds : List Demand} (met : d.Met)
    (follows : Follows x ds) : Follows x (d :: ds) := by
  unfold Follows
  rw [List.findSome?_cons, show d.misfit? = none from met]
  exact follows

theorem follows_error {d : Demand} {misfit : Misfit} (unmet : d.misfit? = some misfit)
    (ds : List Demand) : Follows (.error misfit : Except Misfit α) (d :: ds) := by
  unfold Follows
  rw [List.findSome?_cons, unmet]

theorem follows_node {x : Except Misfit α} {v : Value} {expected : Expected}
    (fitting : expected.fits v = true → ∃ a, x = .ok a)
    (other : expected.fits v = false → x = .error (.wrongType (expected.shown v) expected)) :
    Follows x [.node v expected] := by
  unfold Follows
  cases fits : expected.fits v with
  | true => simpa [Demand.misfit?, fits] using fitting fits
  | false => simpa [Demand.misfit?, fits] using other fits

/-! ## Single nodes -/

theorem follows_text {expected : Expected} (name : expected = .fieldName ∨ expected = .key)
    (k : Value) : Follows (text expected k) [.node k expected] := by
  unfold text Value.text?
  rcases name with rfl | rfl <;>
  · apply follows_node <;>
    · intro fits
      unfold Expected.fits at fits
      split at fits <;> simp_all [Expected.shown]

theorem follows_entries {expected : Expected}
    (mapping : expected ∈ [.sectionMap, .entity, .storage, .attributes]) (v : Value) :
    Follows (entries expected v) [.node v expected] := by
  unfold entries
  simp only [List.mem_cons, List.not_mem_nil, or_false] at mapping
  rcases mapping with rfl | rfl | rfl | rfl <;>
  · apply follows_node <;>
    · intro fits
      unfold Expected.fits at fits
      split at fits <;> simp_all [Expected.shown]

theorem follows_items (v : Value) : Follows (items .indexes v) [.node v .indexes] := by
  unfold items
  apply follows_node <;>
  · intro fits
    unfold Expected.fits at fits
    split at fits <;> simp_all [Expected.shown]

/-- The entries that are read are those of the mapping, if there is one. -/
theorem eq_inner_of_entries {expected : Expected} {v : Value} {es : Entries}
    (read : entries expected v = .ok es) : es = v.inner := by
  unfold Value.inner Value.entries?
  rcases entries_eq_ok.mp read with same | ⟨same, rfl⟩ <;> rw [same] <;> rfl

/-! ## Fields and catalogs -/

/-- **Fields** ask for their names and, each under its name, for their values. -/
theorem follows_fields {known : List String} {read : α → String → Value → Except Misfit α}
    {below : String → Value → List Demand}
    (reads : ∀ sofar name v, Follows (read sofar name v) (below name v)) (start : α)
    (es : Entries) : Follows (fields known read start es) (fieldDemands known below [] es) := by
  unfold fields
  refine Follows.map ?_ Prod.snd
  generalize ([] : List String) = taken
  induction es generalizing taken start with
  | nil => exact follows_ok _
  | cons e rest ih =>
    obtain ⟨k, v⟩ := e
    rw [List.foldlM_cons]
    refine Follows.bind (d := .node k .fieldName :: .fresh k taken ::
      k.text?.elim [] fun name => below name v) ?_ ?_
    · refine (follows_text (.inl rfl) k).bind_cons fun name named => ?_
      rw [text_eq_ok] at named
      rw [named, Option.elim_some]
      by_cases again : taken.contains name = true
      · -- The field has been there, which is its misfit.
        rw [if_pos again]
        refine follows_error ?_ _
        simpa [Demand.misfit?, named] using again
      · rw [if_neg again]
        refine .cons ?_ ((reads start name v).map _)
        rw [Demand.met_fresh, named]
        rintro _ ⟨⟩ member
        exact again (List.contains_iff_mem.mpr member)
    · rintro ⟨seen, next⟩ step
      obtain ⟨name, named, step⟩ := bind_eq_ok.mp step
      rw [text_eq_ok] at named
      dsimp only at step
      split at step
      · cases step
      · obtain ⟨_, _, same⟩ := bind_eq_ok.mp step
        cases same
        -- A name that means something is taken from here on.
        have taken_eq : (k.text?.toList.filter (known.contains ·) ++ taken) =
            if known.contains name = true then name :: taken else taken := by
          rw [named, Option.toList_some, List.filter_cons]
          split <;> rfl
        rw [taken_eq]
        exact ih _ _

theorem follows_catalog {read : Value → Except Misfit α} {below : Value → List Demand}
    (reads : ∀ v, Follows (read v) (below v)) (v : Value) :
    Follows (catalog read v) (catalogDemands below v) := by
  refine (follows_entries (by simp) v).bind_cons fun es mapping => ?_
  rw [← eq_inner_of_entries mapping]
  clear mapping
  generalize ({} : Catalog α) = c
  induction es generalizing c with
  | nil => exact follows_ok _
  | cons e rest ih =>
    obtain ⟨k, v⟩ := e
    rw [List.foldlM_cons, List.flatMap_cons]
    refine Follows.bind ?_ fun c' _ => ih c'
    exact (follows_text (.inr rfl) k).bind_cons fun name _ => (reads v).map _

theorem follows_storage (v : Value) : Follows (storage v) (storageDemands v) := by
  refine (follows_entries (by simp) v).bind_cons fun es mapping => ?_
  rw [← eq_inner_of_entries mapping]
  refine follows_fields (fun sofar name v => ?_) _ es
  by_cases table : name = "table"
  · simpa [table] using follows_ok _
  · by_cases schema : name = "schema"
    · simpa [schema] using follows_ok _
    · rw [if_neg table, if_neg schema, if_neg (not_or.mpr ⟨table, schema⟩)]
      split
      · rename_i plain
        exact .cons (Demand.met_plain.mpr plain) (follows_ok _)
      · rename_i tagged
        exact follows_error (by simp [Demand.misfit?, tagged]) _

theorem follows_entity (v : Value) : Follows (entity v) (entityDemands v) := by
  refine (follows_entries (by simp) v).bind_cons fun es mapping => ?_
  rw [← eq_inner_of_entries mapping]
  refine follows_fields (fun sofar name v => ?_) _ es
  split
  · exact (follows_storage v).map _
  · split
    · exact (follows_entries (by simp) v).map _
    · split
      · exact (follows_items v).map _
      · exact follows_ok _

theorem follows_addSection (m : Model) (s : Section) (v : Value) :
    Follows (addSection m s v) (sectionDemands s.name v) := by
  cases s with
  | entities =>
    rw [sectionDemands_entities]
    exact (follows_catalog follows_entity v).map _
  | enums | types | metadata | targets =>
    rw [sectionDemands_of_ne (by simp)]
    exact (follows_catalog follows_ok v).map _

/-- **The sections of a body** are read as the demands of the body have it. -/
theorem follows_sections (body : Entries) : Follows (sections body) (demands body) := by
  refine follows_fields (fun m name v => ?_) _ body
  split
  · rename_i s found
    rw [← name_of_ofName? found]
    exact follows_addSection m s v
  · rename_i unknown
    rw [sectionDemands, unknown]
    exact follows_ok _

/-! ## What holds of all demands -/

/-- The demands of keys that no field has been there before. -/
def freshDemands (known : List String) : List String → List Value → List Demand
  | _, [] => []
  | taken, k :: rest =>
    .fresh k taken :: freshDemands known (k.text?.toList.filter (known.contains ·) ++ taken) rest

section

variable {P : Demand → Prop}

/-- What holds of all demands of fields holds of those of the keys and, under each name, of
those of the value. -/
theorem forall_fieldDemands {known taken : List String} {below : String → Value → List Demand}
    {es : Entries} : (∀ d ∈ fieldDemands known below taken es, P d) ↔
      (∀ e ∈ es, P (.node e.1 .fieldName)) ∧
      (∀ d ∈ freshDemands known taken (es.map (·.1)), P d) ∧
      ∀ e ∈ es, ∀ name, e.1.text? = some name → ∀ d ∈ below name e.2, P d := by
  induction es generalizing taken with
  | nil => simp [fieldDemands, freshDemands]
  | cons e rest ih =>
    obtain ⟨k, v⟩ := e
    have here : (∀ d ∈ k.text?.elim [] fun name => below name v, P d) ↔
        ∀ name, k.text? = some name → ∀ d ∈ below name v, P d := by
      cases k.text? <;> simp
    simp only [fieldDemands, freshDemands, List.forall_mem_cons, List.forall_mem_append, here, ih,
      List.map_cons]
    tauto

theorem forall_catalogDemands {below : Value → List Demand} {v : Value} :
    (∀ d ∈ catalogDemands below v, P d) ↔ P (.node v .sectionMap) ∧
      ∀ e ∈ v.inner, P (.node e.1 .key) ∧ ∀ d ∈ below e.2, P d := by
  simp only [catalogDemands, List.forall_mem_cons, List.forall_mem_flatMap]

end

end Decode

/-- A fragment can be read just if its body meets its demands. -/
theorem Fragment.reads_iff_met {marker : String} {f : Fragment} {body : Entries}
    (mapping : f.body.entries? = some body) :
    f.Reads marker ↔ ∀ d ∈ Decode.demands body, d.Met := by
  rw [Reads, decode_of_entries? mapping, ← (Decode.follows_sections body).exists_ok_iff]
  cases Decode.sections body <;> simp [Except.mapError]

end SchemaGen
