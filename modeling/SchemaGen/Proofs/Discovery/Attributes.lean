import SchemaGen.Proofs.Discovery.MergeKeys
import SchemaGen.Proofs.Model.Reading
import SchemaGen.Proofs.Yaml.Ordering

/-!
# The attributes of an entity in its file

What a fragment says of an entity stands in its file under the marker, the section
for entities and the name (`Declares`), and its attributes are those that are written
there with their merge key resolved (`exists_declares`).
-/

namespace SchemaGen

open SchemaGen.File
open SchemaGen.Yaml (Value Entries)
open SchemaGen.Yaml.MergeKey

/-! ## Below a key -/

/-- What a mapping has under a key with this text, once its own merge key and no
other is resolved. -/
def Yaml.Value.under? (v : Value) (key : String) : Option Value :=
  v.entries?.bind fun es => (spread es).toOption.bind (Entries.last? · key)

namespace Yaml.MergeKey

variable {v w : Value}

theorem Resolves.last?_eq {es out : Entries} (resolves : Resolves es out) (key : String) :
    (Entries.last? out key).map Except.ok = (Entries.last? es key).map resolve := by
  have reversed : Resolves es.reverse out.reverse := List.rel_reverse resolves
  unfold Entries.last?
  generalize es.reverse = front at reversed
  generalize out.reverse = front' at reversed
  clear resolves
  induction reversed with
  | nil => rfl
  | @cons e o front front' here _ ih =>
    obtain ⟨same, done⟩ := here
    rw [List.find?_cons, List.find?_cons, same]
    split
    · simp [done]
    · exact ih

/-- Below its tags a mapping comes of a mapping. -/
theorem exists_entries?_of_resolve {out : Entries} (done : resolve v = .ok w)
    (mapping : w.entries? = some out) :
    ∃ es around, v.entries? = some es ∧ spread es = .ok around ∧ Resolves around out := by
  have inner := resolve_untagged done
  rw [Value.entries?_eq_some_iff.mp mapping] at inner
  obtain ⟨es, around, same, step, resolves⟩ := exists_of_resolve_eq_map inner
  exact ⟨es, around, Value.entries?_eq_some_iff.mpr same, step, resolves⟩

theorem entries?_eq_none_of_resolve (done : resolve v = .ok w) (other : w.entries? = none) :
    v.entries? = none := by
  cases mapping : v.entries? with
  | none => rfl
  | some es =>
    have inner := resolve_untagged done
    rw [Value.entries?_eq_some_iff.mp mapping] at inner
    obtain ⟨_, out, _, _, same⟩ := resolve_eq_ok_map.mp inner
    rw [Value.entries?_eq_some_iff.mpr same] at other
    cases other

/-- What a resolved value has under a key was resolved itself. -/
theorem last?_eq_under? (done : resolve v = .ok w) (key : String) :
    (Entries.last? (w.entries?.getD []) key).map Except.ok = (v.under? key).map resolve := by
  unfold Value.under?
  cases mapping : w.entries? with
  | some out =>
    obtain ⟨es, around, same, step, resolves⟩ := exists_entries?_of_resolve done mapping
    rw [same, Option.bind_some, step]
    exact resolves.last?_eq key
  | none =>
    rw [entries?_eq_none_of_resolve done mapping]
    rfl

theorem inside_of_under? {key : String} (found : v.under? key = some w) : w.Inside v := by
  obtain ⟨es, mapping, found⟩ := Option.bind_eq_some_iff.mp found
  obtain ⟨around, step, found⟩ := Option.bind_eq_some_iff.mp found
  obtain ⟨e, last, rfl⟩ := Option.map_eq_some_iff.mp found
  have member : e ∈ around := List.mem_reverse.mp (List.mem_of_find?_eq_some last)
  refine (inside_of_mem_spread ?_ member).trans (Value.inside_of_entries? mapping)
  cases result : spread es with
  | error fault =>
    rw [result] at step
    cases step
  | ok found =>
    rw [result] at step
    cases step
    rfl

end Yaml.MergeKey

namespace Search

variable {s : Search} {d : Disk}

/-- The attributes that the entity is written with, the merge key among them. -/
def writtenAttributes (entity : Value) : Entries :=
  ((entity.under? "attributes").bind Value.entries?).getD []

/-- The file declares an entity with these attributes. -/
def Declares (s : Search) (d : Disk) (p : FilePath) (name : String) (written : Entries) : Prop :=
  ∃ raw entities entity, s.RawBody d p raw ∧ raw.under? "entities" = some entities ∧
    entities.under? name = some entity ∧ written = writtenAttributes entity

theorem entries_getD {expected : Expected} {v : Value} {es : Entries}
    (read : Decode.entries expected v = .ok es) : es = v.entries?.getD [] := by
  unfold Value.entries?
  rcases Decode.entries_eq_ok.mp read with mapping | ⟨null, rfl⟩
  · rw [mapping]
    rfl
  · rw [null]
    rfl

/-- The attributes that are read are those that are written, with their merge key
resolved. -/
theorem keys_attributes {raw value : Value} {e : Entity} (done : resolve raw = .ok value)
    (read : Decode.entity value = .ok e) : ∃ around, spread (writtenAttributes raw) = .ok around ∧
      e.attributes.map (·.1) = around.map (·.1) := by
  obtain ⟨es, mapping, attributes⟩ := Decode.entity_attributes read
  obtain rfl := entries_getD mapping
  have below := last?_eq_under? done "attributes"
  unfold writtenAttributes
  cases found : Entries.last? (value.entries?.getD []) "attributes" with
  | none =>
    rw [found] at below attributes
    have absent : raw.under? "attributes" = none := by simpa using below.symm
    rw [absent]
    exact ⟨[], rfl, congrArg _ attributes⟩
  | some u =>
    rw [found] at below attributes
    obtain ⟨r, there, resolved⟩ := Option.map_eq_some_iff.mp below.symm
    rw [there, Option.bind_some]
    dsimp only at attributes
    have same := entries_getD attributes
    cases mapping : u.entries? with
    | none =>
      rw [mapping] at same
      rw [entries?_eq_none_of_resolve resolved mapping]
      exact ⟨[], rfl, congrArg _ same⟩
    | some out =>
      rw [mapping] at same
      obtain ⟨es, around, written, step, resolves⟩ := exists_entries?_of_resolve resolved mapping
      rw [written]
      refine ⟨around, step, ?_⟩
      rw [same]
      exact resolves.keys

theorem Declares.unique {p : FilePath} {name : String} {written other : Entries}
    (declares : s.Declares d p name written) (again : s.Declares d p name other) :
    written = other := by
  obtain ⟨raw, entities, entity, bears, there, there', rfl⟩ := declares
  obtain ⟨raw', entities', entity', bears', found, found', rfl⟩ := again
  obtain rfl := bears.unique bears'
  obtain rfl := Option.some.inj (there.symm.trans found)
  obtain rfl := Option.some.inj (there'.symm.trans found')
  rfl

/-- **What a fragment says of an entity** is declared in its file. -/
theorem exists_declares {f : Fragment} {part : Model} {name : String} {e : Entity}
    (marks : s.Marks d f) (decoded : f.decode s.marker = .ok part)
    (has : part.entities.get? name = some e) :
    ∃ written around, s.Declares d f.path name written ∧ spread written = .ok around ∧
      e.attributes.map (·.1) = around.map (·.1) := by
  obtain ⟨raw, bears, done⟩ := marks.exists_rawBody
  obtain ⟨body, mapping, read⟩ := Fragment.exists_sections_of_decode decoded
  have sections := Decode.sections_entities read
  have below := last?_eq_under? done Section.entities.name
  rw [mapping, Option.getD_some] at below
  cases found : Entries.last? body Section.entities.name with
  | none =>
    rw [found] at sections
    dsimp only at sections
    rw [sections] at has
    cases has
  | some u =>
    rw [found] at sections below
    dsimp only at sections
    obtain ⟨entities, there, resolved⟩ := Option.map_eq_some_iff.mp below.symm
    obtain ⟨es, listed, names⟩ := Decode.catalog_get? sections
    obtain rfl := entries_getD listed
    obtain ⟨v, last, read⟩ := (names name e).mp has
    have below' := last?_eq_under? resolved name
    rw [last] at below'
    obtain ⟨entity, there', resolved'⟩ := Option.map_eq_some_iff.mp below'.symm
    obtain ⟨around, step, same⟩ := keys_attributes resolved' read
    exact ⟨_, around, ⟨raw, entities, entity, bears, there, there', rfl⟩, step, same⟩

/-- The attributes that a file declares stand in its text, in the same order, and their
keys are distinct. -/
theorem Declares.writes {p : FilePath} {name : String} {written : Entries}
    (declares : s.Declares d p name written) : Entries.Distinct written ∧
      (written = [] ∨ ∃ text, d.readText p = .ok text ∧ Yaml.Writes text written) := by
  obtain ⟨raw, entities, entity, bears, there, there', rfl⟩ := declares
  obtain ⟨text, v, read, composed, within⟩ := bears.inside
  unfold writtenAttributes
  cases found : (entity.under? "attributes").bind Value.entries? with
  | none => exact ⟨.nil, .inl rfl⟩
  | some es =>
    obtain ⟨u, under, mapping⟩ := Option.bind_eq_some_iff.mp found
    have inside : (Value.map es).Inside v :=
      (Value.inside_of_entries? mapping).trans ((inside_of_under? under).trans
        ((inside_of_under? there').trans ((inside_of_under? there).trans within)))
    obtain ⟨writes, distinct⟩ := Yaml.writes_of_inside composed inside
    exact ⟨distinct, .inr ⟨text, read, writes⟩⟩

end Search

end SchemaGen
