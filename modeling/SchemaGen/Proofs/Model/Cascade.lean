import SchemaGen.Model.Context
import SchemaGen.Proofs.Model.Decoding

/-!
# Where names come from

A table or schema has its name from the first of several settings that is a string, a number
or a flag, and from a fallback if none is (`Resolves`). The table of an entity does so. For
the schema there is a second setting, the default of the metadata, and this one is heard in
another way than the storage is: only a string counts there, tags aside. Contexts keep to the
law with both settings alike just if the default is not misread (`contexts_cascade`);
`default_skipped_yearbook` is a default that is passed over.
-/

namespace SchemaGen

open SchemaGen.Number
open SchemaGen.Yaml (Value)

/-! ## Settings in turn -/

/-- What a setting names: a string itself, a number or a flag its text. -/
inductive Names : Value → String → Prop where
  | string (s : String) : Names (.str s) s
  | integer (n : Int) : Names (.int n) (toString n)
  | float (x : Binary64) : Names (.float x) (dataLayout.text x)
  | yes : Names (.bool true) "true"
  | no : Names (.bool false) "false"

/-- The setting is missing, or names nothing: null, a sequence, a mapping or tagged. -/
def Silent (setting : Option Value) : Prop :=
  ∀ v, setting = some v → ∀ name, ¬ Names v name

/-- The name that the first setting gives that is not silent, else the fallback. -/
inductive Resolves (fallback : String) : List (Option Value) → String → Prop where
  | last : Resolves fallback [] fallback
  | here {v : Value} {name : String} {rest : List (Option Value)} (names : Names v name) :
      Resolves fallback (some v :: rest) name
  | past {setting : Option Value} {name : String} {rest : List (Option Value)}
      (silent : Silent setting) (later : Resolves fallback rest name) :
      Resolves fallback (setting :: rest) name

theorem names_iff {v : Value} {name : String} : Names v name ↔ scalarName? v = some name := by
  constructor
  · intro names
    cases names <;> rfl
  · intro found
    cases v with
    | str s =>
      obtain rfl := Option.some.inj found
      exact .string s
    | int n =>
      obtain rfl := Option.some.inj found
      exact .integer n
    | float x =>
      obtain rfl := Option.some.inj found
      exact .float x
    | bool b =>
      cases b <;> cases found
      · exact .no
      · exact .yes
    | null | seq _ | map _ | tagged _ _ => cases found

theorem silent_iff {setting : Option Value} :
    Silent setting ↔ setting.bind scalarName? = none := by
  unfold Silent
  simp only [names_iff]
  cases setting with
  | none => simp
  | some v => simp [← Option.eq_none_iff_forall_ne_some]

/-- One name resolves, which can be computed. -/
theorem resolves_iff {fallback : String} {settings : List (Option Value)} {name : String} :
    Resolves fallback settings name ↔
      (settings.findSome? fun setting => setting.bind scalarName?).getD fallback = name := by
  induction settings with
  | nil =>
    constructor
    · rintro ⟨⟩
      rfl
    · rintro rfl
      exact .last
  | cons setting rest ih =>
    rw [List.findSome?_cons]
    cases own : setting.bind scalarName? with
    | none =>
      rw [← ih]
      constructor
      · intro resolves
        cases resolves with
        | here names => exact absurd names (silent_iff.mpr own _ rfl _)
        | past _ later => exact later
      · exact .past (silent_iff.mpr own)
    | some found =>
      obtain ⟨v, rfl, named⟩ := Option.bind_eq_some_iff.mp own
      constructor
      · intro resolves
        cases resolves with
        | here names => exact Option.some.inj (named.symm.trans (names_iff.mp names))
        | past silent _ => exact absurd (names_iff.mpr named) (silent v rfl found)
      · rintro rfl
        exact .here (names_iff.mpr named)

theorem resolves_two_iff {fallback : String} {first second : Option Value} {name : String} :
    Resolves fallback [first, second] name ↔
      ((first.bind scalarName?).or (second.bind scalarName?)).getD fallback = name := by
  rw [resolves_iff, List.findSome?_cons, List.findSome?_singleton]
  cases first.bind scalarName? <;> rfl

/-! ## The default of the metadata -/

/-- The default as it is heard: a string, tags aside. -/
def Model.heardDefault? (m : Model) : Option Value :=
  m.defaultSchema?.map .str

/-- The default is heard as something else than it says: it is a number or a flag that does
not happen to name the fallback, and is passed over, or it is tagged and its string counts
nevertheless. -/
inductive Misread (fallback : String) : Value → Prop where
  | passedOver {v : Value} {name : String} (names : Names v name) (noString : v.text? = none)
      (other : name ≠ fallback) : Misread fallback v
  | heard {v : Value} {name : String} (string : v.text? = some name)
      (nameless : ∀ s, ¬ Names v s) (other : name ≠ fallback) : Misread fallback v

/-- Only of a plain string both readings give a name, and then the same. -/
theorem eq_of_names_of_text? {v : Value} {name s : String} (names : Names v name)
    (string : v.text? = some s) : name = s := by
  cases names <;> cases string
  rfl

theorem misread_iff {fallback : String} {v : Value} :
    Misread fallback v ↔ (scalarName? v).getD fallback ≠ v.text?.getD fallback := by
  constructor
  · rintro (⟨names, noString, other⟩ | ⟨string, nameless, other⟩)
    · rw [names_iff.mp names, noString]
      exact other
    · have none : scalarName? v = none :=
        Option.eq_none_iff_forall_ne_some.mpr fun s => mt names_iff.mpr (nameless s)
      rw [none, string]
      exact fun same => other same.symm
  · intro differs
    cases named : scalarName? v with
    | some name =>
      cases string : v.text? with
      | some s =>
        rw [named, string] at differs
        exact absurd (eq_of_names_of_text? (names_iff.mpr named) string) differs
      | none =>
        rw [named, string] at differs
        exact .passedOver (names_iff.mpr named) string differs
    | none =>
      cases string : v.text? with
      | some s =>
        rw [named, string] at differs
        refine .heard string (fun name names => ?_) fun same => differs same.symm
        rw [names_iff.mp names] at named
        cases named
      | none =>
        rw [named, string] at differs
        exact absurd rfl differs

namespace Model

variable {m : Model} {fallback : String}

/-! ## Contexts -/

theorem resolves_tableFor (name : String) (e : Entity) :
    Resolves (Text.lower name) [e.storage.table] (tableFor name e) := by
  rw [resolves_iff, tableFor, Storage.tableName?, List.findSome?_singleton]

theorem resolves_schemaFor (m : Model) (fallback : String) (e : Entity) :
    Resolves fallback [e.storage.schema, m.heardDefault?] (m.schemaFor fallback e) := by
  rw [resolves_two_iff, schemaFor, heardDefault?, Storage.schemaName?]
  cases m.defaultSchema? <;> rfl

/-- Both levels are alike for an entity just if its storage names the schema or the default is
not misread. -/
theorem resolves_alike_iff {e : Entity} :
    Resolves fallback [e.storage.schema, m.metadata.get? "default_schema"]
        (m.schemaFor fallback e) ↔
      (Silent e.storage.schema →
        ∀ v, m.metadata.get? "default_schema" = some v → ¬ Misread fallback v) := by
  simp only [silent_iff, misread_iff, not_not]
  rw [resolves_two_iff, schemaFor, Storage.schemaName?, defaultSchema?]
  cases e.storage.schema.bind scalarName? <;> cases m.metadata.get? "default_schema" <;> simp

/-- **The names of all contexts.** There is one context for each entity, in the order of their
names. Its table is what the storage names, else the name of the entity in lower case; its
schema is what the storage names, else the string that stands as the default, tags aside, else
the fallback. So both settings of the schema count alike just if the default is not misread
where the storage is silent. -/
theorem contexts_cascade (ascending : m.entities.Ascending) (fallback : String) :
    (m.contexts fallback).map (·.entity) = m.entities.names ∧
    ((m.contexts fallback).map (·.entity)).Pairwise (· < ·) ∧
    ∀ c ∈ m.contexts fallback, ∃ e, m.entities.get? c.entity = some e ∧
      Resolves (Text.lower c.entity) [e.storage.table] c.table ∧
      Resolves fallback [e.storage.schema, m.heardDefault?] c.schema ∧
      (Resolves fallback [e.storage.schema, m.metadata.get? "default_schema"] c.schema ↔
        (Silent e.storage.schema →
          ∀ v, m.metadata.get? "default_schema" = some v → ¬ Misread fallback v)) := by
  have names : (m.contexts fallback).map (·.entity) = m.entities.names := by
    rw [contexts, List.map_map]
    rfl
  refine ⟨names, names ▸ ascending, fun c member => ?_⟩
  obtain ⟨⟨name, e⟩, there, rfl⟩ := List.mem_map.mp member
  exact ⟨e, ascending.mem_entries_iff.mp there, resolves_tableFor name e,
    resolves_schemaFor m fallback e, resolves_alike_iff⟩

end Model

/-! ## A yearbook -/

/-- The default schema is a number. One entity has a schema of its own, the other has not. -/
def yearbook : Model :=
  { entities := ⟨[("Guest", {}), ("Table", { storage := { schema := some (.int 7) } })]⟩
    metadata := ⟨[("default_schema", .int 2024)]⟩ }

theorem contexts_cascade_yearbook :
    yearbook.entities.Ascending ∧
    (yearbook.contexts "main").map (·.entity) = ["Guest", "Table"] ∧
    ∃ c ∈ yearbook.contexts "main", c.entity = "Table" ∧
      Resolves "main" [some (.int 7), yearbook.metadata.get? "default_schema"] c.schema := by
  have ascending : yearbook.entities.Ascending := by
    unfold Catalog.Ascending
    decide
  obtain ⟨names, _, each⟩ := Model.contexts_cascade ascending "main"
  have member : yearbook.contextOf "main" "Table" { storage := { schema := some (.int 7) } } ∈
      yearbook.contexts "main" := List.mem_cons_of_mem _ List.mem_cons_self
  obtain ⟨e, found, _, _, alike⟩ := each _ member
  obtain rfl : { storage := { schema := some (.int 7) } } = e := Option.some.inj found
  refine ⟨ascending, names, _, member, rfl, alike.mpr fun silent => ?_⟩
  exact absurd (Names.integer 7) (silent _ rfl _)

/-- **The default is skipped.** It names a schema, and the storage of the guest does not, but
the guest is put into the fallback. -/
theorem default_skipped_yearbook :
    yearbook.entities.Ascending ∧ yearbook.metadata.get? "default_schema" = some (.int 2024) ∧
    ∃ c ∈ yearbook.contexts "main", ∃ e, yearbook.entities.get? c.entity = some e ∧
      Silent e.storage.schema ∧ Names (.int 2024) "2024" ∧ c.schema = "main" ∧
      ¬ Resolves "main" [e.storage.schema, yearbook.metadata.get? "default_schema"] c.schema := by
  have silent : Silent none := fun _ none => nomatch none
  refine ⟨by unfold Catalog.Ascending; decide, rfl, yearbook.contextOf "main" "Guest" {},
    List.mem_cons_self, {}, rfl, silent, .integer 2024, rfl, ?_⟩
  rw [resolves_two_iff]
  decide +kernel

end SchemaGen
