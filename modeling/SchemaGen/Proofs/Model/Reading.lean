import SchemaGen.Proofs.Model.Decoding

/-!
# Where what is read stands

Keys are told apart by their texts, tags aside, and of several entries with one text
the last counts (`Entries.last?`). What a model has of an entity is what stands under
its name, and the attributes of an entity are what stands under theirs
(`sections_entities`, `catalog_get?`, `entity_attributes`).
-/

namespace SchemaGen

open SchemaGen.Yaml (Value Entries)

/-- The value of the last entry whose key has this text. -/
def Yaml.Entries.last? (es : Entries) (key : String) : Option Value :=
  (es.reverse.find? fun e => e.1.text? = some key).map (·.2)

namespace Yaml.Entries

@[simp]
theorem last?_nil (key : String) : last? [] key = none :=
  rfl

theorem last?_concat (es : Entries) (e : Value × Value) (key : String) :
    last? (es ++ [e]) key = if e.1.text? = some key then some e.2 else last? es key := by
  rw [last?, List.reverse_append, List.reverse_singleton, List.singleton_append, List.find?_cons]
  by_cases here : e.1.text? = some key
  · simp [here]
  · simp [here, last?]

theorem last?_append (xs ys : Entries) (key : String) :
    last? (xs ++ ys) key = (last? ys key).or (last? xs key) := by
  rw [last?, List.reverse_append, List.find?_append, Option.map_or]
  rfl

theorem exists_of_last? {es : Entries} {key : String} {v : Value} (last : last? es key = some v) :
    ∃ e ∈ es, e.1.text? = some key ∧ e.2 = v := by
  obtain ⟨e, found, same⟩ := Option.map_eq_some_iff.mp last
  have named := List.find?_some found
  exact ⟨e, List.mem_reverse.mp (List.mem_of_find?_eq_some found), by simpa using named, same⟩

end Yaml.Entries

namespace Decode

variable {α : Type}

theorem text_eq_ok {expected : Expected} {v : Value} {name : String} :
    text expected v = .ok name ↔ v.text? = some name := by
  unfold text
  cases v.text? with
  | none => exact ⟨nofun, nofun⟩
  | some s => exact ⟨fun done => congrArg some (Except.ok.inj done),
      fun same => congrArg Except.ok (Option.some.inj same)⟩

/-- **Induction over fields**, which tells what each entry read so far has added. -/
theorem fields_front_induction {P : Entries → α → Prop} {known : List String}
    {read : α → String → Value → Except Misfit α} {start result : α} {es : Entries}
    (begins : P [] start)
    (keep : ∀ front sofar k v name next, P front sofar → k.text? = some name →
      read sofar name v = .ok next → P (front ++ [(k, v)]) next)
    (done : fields known read start es = .ok result) : P es result := by
  obtain ⟨⟨seen, last⟩, folded, same⟩ := bind_eq_ok.mp done
  cases same
  refine foldlM_front_induction (b := (([] : List String), start))
    (P := fun front (pair : List String × α) => P front pair.2) ?_ begins folded
  rintro front ⟨seen, sofar⟩ ⟨k, v⟩ ⟨seen', next⟩ holds step
  obtain ⟨name, named, step⟩ := bind_eq_ok.mp step
  dsimp only at step holds ⊢
  split at step
  · cases step
  · obtain ⟨next', value, same⟩ := bind_eq_ok.mp step
    cases same
    exact keep front sofar k v name next holds (text_eq_ok.mp named) value

/-- What is read field by field depends, as to one field, on what stands under its
name. -/
theorem fields_last {P : Option Value → α → Prop} {known : List String}
    {read : α → String → Value → Except Misfit α} {start result : α} {es : Entries}
    (key : String) (begins : P none start)
    (keep : ∀ held sofar name v next, name ≠ key → P held sofar → read sofar name v = .ok next →
      P held next)
    (set : ∀ sofar v next, read sofar key v = .ok next → P (some v) next)
    (done : fields known read start es = .ok result) : P (Entries.last? es key) result := by
  refine fields_front_induction (P := fun front a => P (Entries.last? front key) a) begins ?_ done
  intro front sofar k v name next holds named value
  rw [Entries.last?_concat, named]
  by_cases here : name = key
  · subst here
    rw [if_pos rfl]
    exact set sofar v next value
  · rw [if_neg (by simpa using here)]
    exact keep _ sofar name v next here holds value

/-- Of a field whose name means something there is one entry only. -/
theorem fields_once {known : List String} {read : α → String → Value → Except Misfit α}
    {start result : α} {es : Entries} (done : fields known read start es = .ok result)
    {name : String} (means : name ∈ known) {e : Value × Value} (member : e ∈ es)
    (named : e.1.text? = some name) : Entries.last? es name = some e.2 := by
  obtain ⟨⟨seen, last⟩, folded, _⟩ := bind_eq_ok.mp done
  -- A name that means something is seen from its entry on, and never read again.
  have once := foldlM_front_induction (b := (([] : List String), start))
    (P := fun front (pair : List String × α) => ∀ e ∈ front, e.1.text? = some name →
      name ∈ pair.1 ∧ Entries.last? front name = some e.2) ?_ (by simp) folded
  · exact (once e member named).2
  · rintro front ⟨seen, sofar⟩ ⟨k, v⟩ ⟨seen', next⟩ holds step
    obtain ⟨own, text, step⟩ := bind_eq_ok.mp step
    dsimp only at step holds ⊢
    rw [text_eq_ok] at text
    split at step
    · cases step
    · rename_i new
      obtain ⟨next', _, same⟩ := bind_eq_ok.mp step
      cases same
      intro e member named
      rw [Entries.last?_concat, text]
      rcases List.mem_append.mp member with earlier | here
      · obtain ⟨met, last⟩ := holds e earlier named
        have other : some own ≠ some name := by
          rintro ⟨⟩
          exact new (List.contains_iff_mem.mpr met)
        rw [if_neg other]
        refine ⟨?_, last⟩
        split
        · exact List.mem_cons_of_mem _ met
        · exact met
      · obtain rfl := List.mem_singleton.mp here
        obtain rfl : own = name := Option.some.inj (text.symm.trans named)
        simp [means]

theorem entries_eq_ok {expected : Expected} {v : Value} {es : Entries} :
    entries expected v = .ok es ↔ v.untagged = .map es ∨ v.untagged = .null ∧ es = [] := by
  unfold entries
  generalize v.untagged = u
  cases u <;> simp [eq_comm]

/-- **A catalog** has under a name what the last entry with this name is read as. -/
theorem catalog_get? {read : Value → Except Misfit α} {v : Value} {c : Catalog α}
    (done : catalog read v = .ok c) : ∃ es, entries .sectionMap v = .ok es ∧
      ∀ name a, c.get? name = some a ↔
        ∃ u, Entries.last? es name = some u ∧ read u = .ok a := by
  obtain ⟨es, mapping, folded⟩ := bind_eq_ok.mp done
  refine ⟨es, mapping, ?_⟩
  refine foldlM_front_induction (P := fun front (c : Catalog α) => ∀ name a,
    c.get? name = some a ↔ ∃ u, Entries.last? front name = some u ∧ read u = .ok a) ?_ ?_ folded
  · rintro front c ⟨k, v⟩ c' holds step name a
    obtain ⟨own, named, step⟩ := bind_eq_ok.mp step
    obtain ⟨b, value, same⟩ := bind_eq_ok.mp step
    cases same
    rw [text_eq_ok] at named
    rw [Catalog.get?_insert, Entries.last?_concat, named]
    by_cases here : name = own
    · subst here
      simp [value, eq_comm]
    · rw [if_neg here, if_neg (by simpa using Ne.symm here)]
      exact holds name a
  · intro name a
    simp [Catalog.get?]

/-- Every entry of a catalog that is read has a name and can be read. -/
theorem catalog_each {read : Value → Except Misfit α} {v : Value} {c : Catalog α} {es : Entries}
    (done : catalog read v = .ok c) (mapping : entries .sectionMap v = .ok es) :
    ∀ e ∈ es, ∃ name a, e.1.text? = some name ∧ read e.2 = .ok a := by
  obtain ⟨es', mapping', folded⟩ := bind_eq_ok.mp done
  obtain rfl := Except.ok.inj (mapping.symm.trans mapping')
  refine foldlM_front_induction (P := fun front (_ : Catalog α) => ∀ e ∈ front,
    ∃ name a, e.1.text? = some name ∧ read e.2 = .ok a) ?_ (by simp) folded
  rintro front c ⟨k, v⟩ c' holds step e member
  obtain ⟨name, named, step⟩ := bind_eq_ok.mp step
  obtain ⟨a, value, _⟩ := bind_eq_ok.mp step
  rcases List.mem_append.mp member with earlier | here
  · exact holds e earlier
  · obtain rfl := List.mem_singleton.mp here
    exact ⟨name, a, text_eq_ok.mp named, value⟩

theorem name_of_ofName? {name : String} {s : Section} (found : Section.ofName? name = some s) :
    s.name = name := by
  have named := List.find?_some found
  exact of_decide_eq_true named

@[simp]
theorem ofName?_name (s : Section) : Section.ofName? s.name = some s := by
  cases s <;> decide

/-- The catalog is what is read of the value, and empty if there is none. -/
def ReadFrom (read : Value → Except Misfit α) (held : Option Value) (c : Catalog α) : Prop :=
  match held with
  | none => c = {}
  | some v => catalog read v = .ok c

/-- The section of the model is what is read of the value. -/
def SectionFrom (s : Section) (held : Option Value) (m : Model) : Prop :=
  match s with
  | .enums => ReadFrom .ok held m.enums
  | .entities => ReadFrom entity held m.entities
  | .types => ReadFrom .ok held m.types
  | .metadata => ReadFrom .ok held m.metadata
  | .targets => ReadFrom .ok held m.targets

theorem sectionFrom_of_addSection {m m' : Model} {s : Section} {v : Value}
    (added : addSection m s v = .ok m') : SectionFrom s (some v) m' := by
  cases s with
  | enums | entities | types | metadata | targets =>
    obtain ⟨_, read, same⟩ := bind_eq_ok.mp added
    cases same
    exact read

/-- A section that is read leaves the others as they are. -/
theorem SectionFrom.addSection {m m' : Model} {s t : Section} {held : Option Value} {v : Value}
    (holds : SectionFrom s held m) (other : t ≠ s) (added : addSection m t v = .ok m') :
    SectionFrom s held m' := by
  cases t with
  | enums | entities | types | metadata | targets =>
    obtain ⟨_, _, same⟩ := bind_eq_ok.mp added
    cases same
    cases s <;> simp_all [SectionFrom]

/-- **The sections of a body** are what is read of what stands under their names. -/
theorem sections_from {body : Entries} {m : Model} (done : sections body = .ok m) (s : Section) :
    SectionFrom s (Entries.last? body s.name) m := by
  refine fields_last (P := fun held (m : Model) => SectionFrom s held m) s.name ?_ ?_ ?_ done
  · cases s <;> rfl
  · intro held sofar name v next other holds read
    split at read
    · rename_i t found
      refine holds.addSection (fun same => other ?_) read
      rw [← same, name_of_ofName? found]
    · cases read
      exact holds
  · intro sofar v next read
    rw [ofName?_name] at read
    exact sectionFrom_of_addSection read

/-- **The entities of a body** are what is read of its section for them. -/
theorem sections_entities {body : Entries} {m : Model} (done : sections body = .ok m) :
    match Entries.last? body Section.entities.name with
    | none => m.entities = {}
    | some v => catalog entity v = .ok m.entities :=
  sections_from done .entities

/-- The result is what is read of the value, and the empty one if there is none. -/
def ReadOr (read : Value → Except Misfit α) (empty : α) (held : Option Value) (a : α) : Prop :=
  match held with
  | none => a = empty
  | some v => read v = .ok a

/-- What an entity has is what is read of its fields. -/
structure EntityFrom (es : Entries) (e : Entity) : Prop where
  storage : ReadOr storage {} (Entries.last? es "storage") e.storage
  attributes : ReadOr (entries .attributes) [] (Entries.last? es "attributes") e.attributes
  indexes : ReadOr (items .indexes) [] (Entries.last? es "indexes") e.indexes

theorem entity_from {v : Value} {e : Entity} (done : entity v = .ok e) :
    ∃ es, entries .entity v = .ok es ∧ EntityFrom es e := by
  obtain ⟨es, mapping, read⟩ := bind_eq_ok.mp done
  have begins : EntityFrom [] {} := ⟨rfl, rfl, rfl⟩
  refine ⟨es, mapping, fields_front_induction begins ?_ read⟩
  intro front sofar k v name next holds named value
  -- A field that means something takes its own place, and the others stay.
  split at value
  · rename_i same
    obtain ⟨_, done, last⟩ := bind_eq_ok.mp value
    cases last
    constructor <;> rw [Entries.last?_concat, named, same]
    · exact done
    · exact holds.attributes
    · exact holds.indexes
  · split at value
    · rename_i same
      obtain ⟨_, done, last⟩ := bind_eq_ok.mp value
      cases last
      constructor <;> rw [Entries.last?_concat, named, same]
      · exact holds.storage
      · exact done
      · exact holds.indexes
    · split at value
      · rename_i same
        obtain ⟨_, done, last⟩ := bind_eq_ok.mp value
        cases last
        constructor <;> rw [Entries.last?_concat, named, same]
        · exact holds.storage
        · exact holds.attributes
        · exact done
      · rename_i storage attributes indexes
        cases value
        constructor <;> rw [Entries.last?_concat, named, if_neg (by simpa)]
        · exact holds.storage
        · exact holds.attributes
        · exact holds.indexes

/-- The settings of no fixed meaning are what stands under their names. -/
theorem storage_extra {v : Value} {s : Storage} (done : storage v = .ok s) :
    ∃ es, entries .storage v = .ok es ∧
      ∀ key, key ∉ ["table", "schema"] → s.extra.get? key = Entries.last? es key := by
  obtain ⟨es, mapping, read⟩ := bind_eq_ok.mp done
  refine ⟨es, mapping, fun key free => ?_⟩
  simp only [List.mem_cons, List.not_mem_nil, or_false, not_or] at free
  refine fields_last (P := fun held (s : Storage) => s.extra.get? key = held) key rfl ?_ ?_ read
  · intro held sofar name v next other holds value
    split at value
    · cases value
      exact holds
    · split at value
      · cases value
        exact holds
      · split at value
        · cases value
          rw [Catalog.get?_insert, if_neg (Ne.symm other)]
          exact holds
        · cases value
  · intro sofar v next value
    rw [if_neg free.1, if_neg free.2] at value
    split at value
    · cases value
      rw [Catalog.get?_insert, if_pos rfl]
    · cases value

/-- **The attributes of an entity** are what stands under their name. -/
theorem entity_attributes {v : Value} {e : Entity} (done : entity v = .ok e) :
    ∃ es, entries .entity v = .ok es ∧
      match Entries.last? es "attributes" with
      | none => e.attributes = []
      | some u => entries .attributes u = .ok e.attributes :=
  have ⟨es, mapping, source⟩ := entity_from done
  ⟨es, mapping, source.attributes⟩

end Decode

end SchemaGen
