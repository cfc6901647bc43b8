import SchemaGen.Model.Merge
import SchemaGen.Proofs.Model.Catalogs
import SchemaGen.Proofs.Steps

/-!
# What reading gives

A mapping is read entry by entry, so what every entry keeps holds of the whole
(`fields_induction`, `catalog_induction`). That the names of every section that
is read are sorted (`Fragment.ordered_of_decode`) comes from this.
-/

namespace SchemaGen

open SchemaGen.Yaml (Value Entries)

namespace Decode

variable {α : Type}

/-- **Induction over fields.** -/
theorem fields_induction {P : α → Prop} {known : List String}
    {read : α → String → Value → Except Misfit α} {start result : α} {entries : Entries}
    (keep : ∀ sofar name v next, P sofar → read sofar name v = .ok next → P next)
    (begins : P start) (done : fields known read start entries = .ok result) : P result := by
  obtain ⟨⟨seen, last⟩, folded, same⟩ := bind_eq_ok.mp done
  cases same
  refine foldlM_induction (P := fun pair : List String × α => P pair.2) ?_ begins folded
  rintro ⟨seen, sofar⟩ ⟨k, v⟩ ⟨seen', next⟩ holds step
  obtain ⟨name, _, step⟩ := bind_eq_ok.mp step
  dsimp only at step
  split at step
  · cases step
  · obtain ⟨next', value, same⟩ := bind_eq_ok.mp step
    cases same
    exact keep sofar name v next holds value

/-- **Induction over a catalog.** -/
theorem catalog_induction {P : Catalog α → Prop} {read : Value → Except Misfit α} {v : Value}
    {c : Catalog α} (keep : ∀ c name a, P c → P (c.insert name a)) (begins : P {})
    (done : catalog read v = .ok c) : P c := by
  obtain ⟨es, _, folded⟩ := bind_eq_ok.mp done
  refine foldlM_induction ?_ begins folded
  rintro c ⟨k, v⟩ c' holds step
  obtain ⟨name, _, step⟩ := bind_eq_ok.mp step
  obtain ⟨a, _, same⟩ := bind_eq_ok.mp step
  cases same
  exact keep c name a holds

theorem ascending_catalog {read : Value → Except Misfit α} {v : Value} {c : Catalog α}
    (done : catalog read v = .ok c) : c.Ascending :=
  catalog_induction (fun _ name a ascending => ascending.insert name a) Catalog.ascending_empty done

end Decode

namespace Model

/-- The names of every section stand in strictly ascending order. -/
structure Ordered (m : Model) : Prop where
  enums : m.enums.Ascending
  entities : m.entities.Ascending
  types : m.types.Ascending
  metadata : m.metadata.Ascending
  targets : m.targets.Ascending

theorem ordered_empty : ({} : Model).Ordered :=
  ⟨.nil, .nil, .nil, .nil, .nil⟩

end Model

namespace Decode

theorem ordered_addSection {m m' : Model} {s : Section} {v : Value} (ordered : m.Ordered)
    (added : addSection m s v = .ok m') : m'.Ordered := by
  -- A section that is read takes the place of one part, and the others stay.
  cases s with
  | enums =>
    obtain ⟨c, read, same⟩ := bind_eq_ok.mp added
    cases same
    exact { ordered with enums := ascending_catalog read }
  | entities =>
    obtain ⟨c, read, same⟩ := bind_eq_ok.mp added
    cases same
    exact { ordered with entities := ascending_catalog read }
  | types =>
    obtain ⟨c, read, same⟩ := bind_eq_ok.mp added
    cases same
    exact { ordered with types := ascending_catalog read }
  | metadata =>
    obtain ⟨c, read, same⟩ := bind_eq_ok.mp added
    cases same
    exact { ordered with metadata := ascending_catalog read }
  | targets =>
    obtain ⟨c, read, same⟩ := bind_eq_ok.mp added
    cases same
    exact { ordered with targets := ascending_catalog read }

theorem ordered_sections {body : Entries} {m : Model} (done : sections body = .ok m) :
    m.Ordered := by
  refine fields_induction ?_ Model.ordered_empty done
  intro sofar name v next ordered read
  split at read
  · exact ordered_addSection ordered read
  · cases read
    exact ordered

end Decode

/-- A body that is a mapping is read by its sections. -/
theorem Fragment.decode_of_entries? {marker : String} {f : Fragment} {body : Entries}
    (mapping : f.body.entries? = some body) :
    f.decode marker = (Decode.sections body).mapError (.invalidFragment f.path marker) := by
  rw [decode, mapping]

/-- What a fragment describes is read off the sections of its body. -/
theorem Fragment.exists_sections_of_decode {marker : String} {f : Fragment} {part : Model}
    (decoded : f.decode marker = .ok part) :
    ∃ body, f.body.entries? = some body ∧ Decode.sections body = .ok part := by
  unfold decode at decoded
  split at decoded
  · cases decoded
  · rename_i body mapping
    refine ⟨body, mapping, ?_⟩
    cases read : Decode.sections body with
    | error misfit =>
      rw [read] at decoded
      cases decoded
    | ok m =>
      rw [read] at decoded
      cases decoded
      rfl

/-- The names in what a fragment describes are sorted. -/
theorem Fragment.ordered_of_decode {marker : String} {f : Fragment} {part : Model}
    (decoded : f.decode marker = .ok part) : part.Ordered :=
  have ⟨_, _, read⟩ := exists_sections_of_decode decoded
  Decode.ordered_sections read

end SchemaGen
