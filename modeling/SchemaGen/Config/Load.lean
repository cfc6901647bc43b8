import SchemaGen.Report.Log
import SchemaGen.Text.Blank
import SchemaGen.Yaml.Document

/-!
# Reading the configuration

The configuration file gives any of the six settings as scalars, each taken as
it is written. Environment variables then override three of them, empty or not,
and in the end no setting may be empty.
-/

namespace SchemaGen

open SchemaGen.File SchemaGen.Text

/-- The values of environment variables. -/
abbrev Environment := (name : String) → Option String

namespace Config

/-- The name of the configuration file. -/
def fileName : String := "modelgen.yaml"

/-! ## The document -/

/-- The text of a scalar node, whatever its tag. -/
def scalarText (d : Yaml.Document) (n : Yaml.Node) : Yaml.Document.Following String := do
  match ← d.follow n with
  | .scalar _ _ text => return text
  | _ => throw .wrongShape

/-- Read one setting. Each may occur once. -/
def addEntry (d : Yaml.Document) (sofar : List Setting × Config)
    (entry : Yaml.Node × Yaml.Node) : Yaml.Document.Following (List Setting × Config) := do
  let (seen, config) := sofar
  match Setting.ofKey? (← scalarText d entry.1) with
  | none => throw .wrongShape
  | some setting =>
    if seen.contains setting then throw .repeatedKey
    return (setting :: seen, config.set setting (← scalarText d entry.2))

/-- The configuration of a node: a mapping, or nothing. -/
def ofNode (d : Yaml.Document) (n : Yaml.Node) : Yaml.Document.Following Config := do
  match ← d.follow n with
  | .map _ entries => return (← entries.foldlM (addEntry d) ([], {})).2
  | .scalar _ .plain "" => return {}
  | _ => throw .wrongShape

/-- The configuration that a text holds. -/
def ofText (text : String) : Except Yaml.Fault Config := do
  if isAllBlank text then return {}
  let d ← Yaml.Document.ofText text
  match d.root with
  | none => return {}
  | some root => return (← (ofNode d root).run d.aliasLimit).1

/-! ## The file and the environment -/

/-- The log line on reading the file. -/
def loadingLine (p : FilePath) : LogLine :=
  ⟨.info, "Loading generator configuration", [("path", quotedPath p)]⟩

/-- Read the configuration file, if there is one. -/
def ofFile (d : Disk) (base : FilePath) : Except Error Config × List LogLine :=
  let p := base.join fileName
  if d.pathExists p then
    let config := do
      let text ← (d.readText p).mapError (.readFailed p)
      (ofText text).mapError (.dataFile p)
    (config, [loadingLine p])
  else (.ok {}, [])

/-- The settings that the environment can override, with the variables and the
words of the log for it. -/
def overrides : List (Setting × String × String) :=
  [(.schemaDir, "MODELGEN_SCHEMA_DIR", "Overriding schema dir via ENV"),
    (.templateDir, "MODELGEN_TEMPLATE_DIR", "Overriding template dir via ENV"),
    (.outputDir, "MODELGEN_OUTPUT_DIR", "Overriding output dir via ENV")]

/-- Override a setting if its variable is set. -/
def override (env : Environment) (sofar : Config × List LogLine)
    (o : Setting × String × String) : Config × List LogLine :=
  let (config, lines) := sofar
  let (setting, name, message) := o
  match env name with
  | some value =>
    (config.set setting value,
      lines ++ [⟨.info, message,
        [("old", quoted (config.get setting)), ("new", quoted value)]⟩])
  | none => (config, lines)

/-- Refuse empty settings. -/
def check (c : Config) : Except Error Config :=
  if c.emptySettings.isEmpty then .ok c else .error (.emptySettings c.emptySettings)

/-- The configuration of a project. -/
def load (d : Disk) (env : Environment) (base : FilePath) : Except Error Config × List LogLine :=
  match ofFile d base with
  | (.error e, lines) => (.error e, lines)
  | (.ok config, lines) =>
    let (config, lines) := overrides.foldl (override env) (config, lines)
    (config.check, lines)

end Config

end SchemaGen
