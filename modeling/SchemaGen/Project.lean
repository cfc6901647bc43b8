import SchemaGen.Config.Load
import SchemaGen.Discovery
import SchemaGen.Template.Engine

/-!
# Projects

A project is a directory with a configuration, templates and schema files. It is
generated in this order: the configuration is read, the templates are loaded and
checked, and only then are the schema files looked at.
-/

namespace SchemaGen

open SchemaGen.File

/-- What came of generating a project. -/
structure Outcome where
  /-- The number of entities. -/
  result : Except Error Nat
  log : List LogLine
  disk : Disk

namespace Project

/-- The log line on having all templates. -/
def readyLine (l : Template.Library) : LogLine :=
  ⟨.debug, "Templates ready", [("templates", toString l.names.length)]⟩

/-- The templates of a project, with every one that a kind needs. -/
def loadTemplates (d : Disk) (dir : FilePath) : Except Error Template.Library × List LogLine :=
  match Template.Library.ofDirectory d dir with
  | (.error e, lines) => (.error e, lines)
  | (.ok library, lines) =>
    match library.require (OutputKind.all.map (·.template)) with
    | .error e => (.error e, lines)
    | .ok () => (.ok library, lines ++ [readyLine library])

/-- Generate a project. -/
def execute (d : Disk) (env : Environment) (base : FilePath) : Outcome :=
  match Config.load d env base with
  | (.error e, lines) => ⟨.error e, lines, d⟩
  | (.ok config, configLines) =>
    match loadTemplates d (config.templatePath base) with
    | (.error e, lines) => ⟨.error e, configLines ++ lines, d⟩
    | (.ok library, templateLines) =>
      let (source, searchLines) := (Search.ofConfig config).load d (config.schemaPath base)
      let run := generate library.render base config source d
      ⟨run.result.map (·.entities), configLines ++ templateLines ++ run.log searchLines, run.disk⟩

end Project

end SchemaGen
