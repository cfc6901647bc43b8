import SchemaGen.Proofs.Discovery.OneFile
import SchemaGen.Proofs.Yaml.Composing
import SchemaGen.Proofs.Yaml.Precedence
import SchemaGen.Proofs.Yaml.Visiting

/-!
# Which entries count in a schema file

A file that is accepted is looked at with all merge keys resolved: every mapping in
it has the layers that are written, wherever it stands (`merge_precedence`). The
marker is looked up in what the document has come to, so a file may inherit its
fragment.
-/

namespace SchemaGen.Search

open SchemaGen.File
open SchemaGen.Yaml (Value Entries)
open SchemaGen.Yaml.MergeKey

variable {s : Search} {d : Disk} {p : FilePath}

/-- **Which entries count.** Of a file that is accepted every mapping gets the keys that
are written in it, but for its merge key, and those of its sources, each once. What
is written in it counts before what it inherits, and an earlier source before a
later one; the values that count are resolved. A mapping stays where it is, and no
other mapping comes to be. So it is by recursion, and the visits that change the
document where it stands come to the same. The marker is looked up in the document that
this gives. -/
theorem merge_precedence {found : Option Fragment} (accepted : s.fragment? d p = .ok found) :
    ∃ text v w, d.readText p = .ok text ∧ Value.ofText text = .ok v ∧
      Yaml.MergeKey.apply v = .ok w ∧ resolve v = .ok w ∧
      found = (s.bodyOf? w).map (⟨p, ·⟩) ∧
      (∀ path es, Stands (.map es) path v →
        ∃ out, resolve (.map es) = .ok (.map out) ∧ Stands (.map out) path w) ∧
      (∀ out, (Value.map out).Inside w →
        ∃ es, (Value.map es).Inside v ∧ resolve (.map es) = .ok (.map out)) ∧
      (∀ es out, (Value.map es).Inside v → resolve (.map es) = .ok (.map out) →
        (∃ sources, Sources es sources) ∧
        (∀ sources, Sources es sources → Layers (own es) sources out) ∧
        ((∀ e ∈ es, e.1 ≠ mark) → Yaml.MergeKey.Resolves es out)) ∧
      ∀ es sources, v = .map es → Sources es sources →
        (∀ raw, (.str s.marker, raw) ∈ own es →
          ∃ body, resolve raw = .ok body ∧ found = some ⟨p, body⟩) ∧
        (∀ before src after raw, sources = before ++ src :: after →
          (.str s.marker, raw) ∈ src → Entries.hasAlike (own es) (.str s.marker) = false →
          (∀ other ∈ before, Entries.hasAlike other (.str s.marker) = false) →
          ∃ body, resolve raw = .ok body ∧ found = some ⟨p, body⟩) ∧
        (found = none ↔ Entries.hasAlike (own es) (.str s.marker) = false ∧
          ∀ src ∈ sources, Entries.hasAlike src (.str s.marker) = false) := by
  obtain ⟨w, ⟨text, read, parsed⟩, same⟩ := fragment?_ok accepted
  obtain ⟨v, composed, applied⟩ := bind_eq_ok.mp parsed
  have done := (apply_eq_resolve v).symm.trans applied
  have neat := Yaml.neat_ofText composed
  have layers : ∀ es out, (Value.map es).Inside v → resolve (.map es) = .ok (.map out) →
      (∃ sources, Sources es sources) ∧
      ∀ sources, Sources es sources → Layers (own es) sources out := by
    intro es out within resolved
    have neat := neat.part within.part
    obtain ⟨sources, has, layers⟩ := exists_layers neat resolved
    exact ⟨⟨sources, has⟩, fun others has' => has.unique (neat es .here) has' ▸ layers⟩
  refine ⟨text, v, w, read, composed, applied, done, same, fun path es stands => ?_,
    fun out within => ?_, fun es out within resolved => ?_, ?_⟩
  · obtain ⟨w', resolved, stands⟩ := stands.exists_stands done
    obtain ⟨_, out, _, _, rfl⟩ := resolve_eq_ok_map.mp resolved
    exact ⟨out, resolved, stands⟩
  · obtain ⟨r, reached, resolved⟩ := exists_reached_of_inside done within
    obtain ⟨es, _, rfl, _, _⟩ := exists_of_resolve_eq_map resolved
    exact ⟨es, reached.inside, resolved⟩
  · obtain ⟨some, each⟩ := layers es out within resolved
    refine ⟨some, each, fun unmarked => ?_⟩
    obtain ⟨around, out', step, resolves, same⟩ := resolve_eq_ok_map.mp resolved
    cases same
    exact spread_of_unmarked unmarked step ▸ resolves
  · rintro es sources rfl has
    obtain ⟨_, out, _, _, rfl⟩ := resolve_eq_ok_map.mp done
    have layers := (layers es out .here done).2 sources has
    have body : ∀ {raw : Value}, (∃ u, resolve raw = .ok u ∧ (.str s.marker, u) ∈ out) →
        ∃ body, resolve raw = .ok body ∧ found = some ⟨p, body⟩ := by
      rintro raw ⟨u, resolved, member⟩
      refine ⟨u, resolved, ?_⟩
      rw [same, bodyOf?, (Entries.get?_eq_some_iff layers.distinct).mpr member]
      rfl
    refine ⟨fun raw member => body (layers.own _ member), ?_, ?_⟩
    · intro before src after raw split member absent first
      exact body (layers.inherited before src after split _ member absent first)
    · rw [same, Option.map_eq_none_iff, bodyOf?, Entries.get?_eq_none_iff, Bool.eq_false_iff, Ne,
        layers.keys]
      simp

/-- A document with two sources that share a key, and that has a key of the first one
itself. The second source bears the marker. -/
def layered : String :=
  "{? << : [{? x : near, ? y : near}, {? y : far, ? botecopro_domain : {}}], ? x : own}"

/-- The sources of that document. -/
def layeredSources : List Entries :=
  [[(.str "x", .str "near"), (.str "y", .str "near")],
    [(.str "y", .str "far"), (.str "botecopro_domain", .map [])]]

/-- What that document comes to. -/
def layeredFound : Entries :=
  [(.str "x", .str "own"), (.str "y", .str "near"), (.str "botecopro_domain", .map [])]

theorem merge_precedence_layered :
    sample.fragment? (shelf layered) ⟨"schemas/order.yaml"⟩ =
        .ok (some ⟨⟨"schemas/order.yaml"⟩, .map []⟩) ∧
      ∃ es, Value.ofText layered = .ok (.map es) ∧ Sources es layeredSources ∧
        own es = [(.str "x", .str "own")] ∧ resolve (.map es) = .ok (.map layeredFound) ∧
        Layers (own es) layeredSources layeredFound ∧
        ∃ body, resolve (.map []) = .ok body ∧
          some (⟨⟨"schemas/order.yaml"⟩, .map []⟩ : Fragment) =
            some ⟨⟨"schemas/order.yaml"⟩, body⟩ := by
  have composed : Value.ofText layered = .ok (.map [(mark, .seq (layeredSources.map .map)),
      (.str "x", .str "own")]) := by
    decide +kernel
  have parsed : document layered = .ok (.map layeredFound) := by
    rw [document, composed]
    decide +kernel
  have accepted : sample.fragment? (shelf layered) ⟨"schemas/order.yaml"⟩ =
      .ok (some ⟨⟨"schemas/order.yaml"⟩, .map []⟩) :=
    fragment?_of_parses ⟨layered, Shelf.readText layered, parsed⟩
  obtain ⟨text, v, w, read, composed', _, _, _, _, _, layers, marker⟩ := merge_precedence accepted
  obtain rfl := Except.ok.inj ((Shelf.readText layered).symm.trans read)
  obtain rfl := Except.ok.inj (composed.symm.trans composed')
  have resolved : resolve (.map [(mark, .seq (layeredSources.map .map)),
      (.str "x", .str "own")]) = .ok (.map layeredFound) := by
    decide +kernel
  have has : Sources [(mark, .seq (layeredSources.map .map)), (.str "x", .str "own")]
      layeredSources := .many List.mem_cons_self
  exact ⟨accepted, _, composed, has, rfl, resolved, (layers _ _ .here resolved).2.1 _ has,
    (marker _ _ rfl has).2.1 [_] _ [] (.map []) rfl (by decide) (by decide) (by decide)⟩

end SchemaGen.Search
