import SchemaGen.Generation
import SchemaGen.Template.Eval

/-!
# Libraries as engines

A library renders its templates for the context of an entity, and it can be
loaded from a directory. Every file below the directory is a template, named by
its path from there.
-/

namespace SchemaGen

open SchemaGen.File

namespace Template

/-- The names that a template is given for the context of an entity. -/
def namesFor (c : Context) : Names :=
  [("entity", Val.ofData c.toValue), ("enums", Val.ofData c.enums.toValue),
    ("types", Val.ofData c.types.toValue)]

namespace Library

/-- Render a template for the context of an entity. -/
def render (l : Library) : Engine := fun name c =>
  match l.get? name with
  | none => .error (.templateNotFound name)
  | some stmts => (l.renderWith name stmts (namesFor c)).mapError .template

/-- Check that the templates are there, and name the first that is not. -/
def require (l : Library) (names : List String) : Except Error Unit :=
  match names.find? fun name => !l.has name with
  | some missing => .error (.templateNotFound missing)
  | none => .ok ()

/-- The log line on a template. -/
def loadedLine (name : String) : LogLine :=
  ⟨.debug, "Template loaded", [("template", name)]⟩

/-- The name of a template, from its path and that of the directory. -/
def nameOf (dir p : FilePath) : String :=
  let segments := p.components.drop dir.components.length
  "/".intercalate (segments.filterMap fun
    | .name chars => some (String.ofList chars)
    | .root | .here | .up => none)

/-- Load the files among the visits of a walk. -/
def collect (d : Disk) (dir : FilePath) (l : Library) :
    List Visit → Except Error Library × List LogLine
  | [] => (.ok l, [])
  | .fault cause :: _ => (.error (.walk cause), [])
  | .directory _ :: rest => collect d dir l rest
  | .file p :: rest =>
    match d.readText p with
    | .error fault => (.error (.readFailed p fault), [])
    | .ok source =>
      let name := nameOf dir p
      match l.add name source with
      | .error fault => (.error (.template fault), [loadedLine name])
      | .ok l =>
        let (result, lines) := collect d dir l rest
        (result, loadedLine name :: lines)

/-- Load the templates of a directory. -/
def ofDirectory (d : Disk) (dir : FilePath) : Except Error Library × List LogLine :=
  if d.isDirectory dir then collect d dir {} (d.walk dir)
  else (.error (.templateDirNotFound dir), [])

end Library

end Template

end SchemaGen
