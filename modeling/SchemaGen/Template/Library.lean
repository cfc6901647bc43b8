import SchemaGen.Model.Catalog
import SchemaGen.Template.Grammar.Statement

/-!
# Template libraries

The templates of a project under their names. Only templates that parse are
held, and a later one takes the place of an earlier one of its name. Whether a
template was added is told by its name alone; rendering looks for the template.
-/

namespace SchemaGen.Template

/-- Templates under their names. The names that were added are kept apart from the
templates that are held for rendering. -/
structure Library where
  /-- What is held for rendering. -/
  templates : Catalog (List Stmt) := {}
  /-- The length of all sources, which bounds how deep templates are nested. -/
  size : Nat := 0
  /-- The names that were added. -/
  known : Catalog Unit := {}

namespace Library

/-- Hold a template for rendering. One that does not parse is not held. -/
def hold (name source : String) : EStateM Fault Library Unit :=
  match parse source with
  | .ok stmts =>
    modify fun l => { l with
      templates := l.templates.insert name stmts
      size := l.size + source.length }
  | .error t => throw ⟨t.kind, name, t.line⟩

/-- Add a template in place. Its name is added once it is held. -/
def put (name source : String) : EStateM Fault Library Unit := do
  hold name source
  modify fun l => { l with known := l.known.insert name () }

/-- The library with a template added to it. -/
def add (l : Library) (name source : String) : Except Fault Library :=
  match (put name source).run l with
  | .ok () m => .ok m
  | .error fault _ => .error fault

/-- The names that were added, sorted. -/
def names (l : Library) : List String :=
  l.known.names

/-- Was a template of the name added? -/
def has (l : Library) (name : String) : Bool :=
  (l.known.get? name).isSome

/-- The template that is held under a name. -/
def get? (l : Library) (name : String) : Option (List Stmt) :=
  l.templates.get? name

/-- Is a template held under the name? -/
def holds (l : Library) (name : String) : Bool :=
  (l.get? name).isSome

/-- What adding a template in place comes to. -/
theorem run_put (l : Library) (name source : String) :
    (put name source).run l = match parse source with
      | .ok stmts => .ok () { templates := l.templates.insert name stmts
                              size := l.size + source.length
                              known := l.known.insert name () }
      | .error t => .error ⟨t.kind, name, t.line⟩ l := by
  unfold put hold
  cases parse source <;> rfl

/-- What adding a template comes to: its name is known, and it is held. -/
theorem add_eq_ok_iff {l m : Library} {name source : String} :
    l.add name source = .ok m ↔ ∃ stmts, parse source = .ok stmts ∧
      m = { templates := l.templates.insert name stmts
            size := l.size + source.length
            known := l.known.insert name () } := by
  unfold add
  rw [run_put]
  cases parse source with
  | error t => exact ⟨nofun, fun ⟨_, other, _⟩ => nomatch other⟩
  | ok stmts =>
    constructor
    · exact fun added => ⟨stmts, rfl, (Except.ok.inj added).symm⟩
    · rintro ⟨_, same, rfl⟩
      cases same
      rfl

/-- Adding a template puts its name, and no other, into the library. -/
theorem has_add {l m : Library} {name source : String} (h : l.add name source = .ok m)
    (n : String) : m.has n = (decide (n = name) || l.has n) := by
  obtain ⟨stmts, _, rfl⟩ := add_eq_ok_iff.mp h
  by_cases hn : n = name <;> simp [has, Catalog.get?_insert, hn]

end Library

/-- The ends of template names that do not count. -/
def templateEndings : List String :=
  [".j2", ".jinja2", ".jinja"]

/-- A name without such an end. -/
def baseName (name : String) : List Char :=
  let cs := name.toList
  match templateEndings.find? fun e => e.toList.isSuffixOf cs with
  | some e => cs.take (cs.length - e.length)
  | none => cs

/-- Is the output of a template marked up, so that values are escaped? The last
part of its name tells. -/
def isMarkedUp (name : String) : Bool :=
  let part := (baseName name).reverse.takeWhile (· != '.')
  ["html", "htm", "xml"].any fun e => e.toList.reverse = part

end SchemaGen.Template
