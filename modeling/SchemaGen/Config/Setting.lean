import SchemaGen.File.Path
import SchemaGen.Model.Context

/-!
# Settings

The six settings of a project, each a text that may not be empty.
-/

namespace SchemaGen

open SchemaGen.File

/-- A setting. -/
inductive Setting where
  | schemaDir
  | templateDir
  | outputDir
  | markerKey
  | schemaExtension
  | fallbackSchema
  deriving Repr, DecidableEq

namespace Setting

/-- The settings in their order. -/
def all : List Setting :=
  [.schemaDir, .templateDir, .outputDir, .markerKey, .schemaExtension, .fallbackSchema]

/-- The key of a setting in the configuration file. -/
def key : Setting → String
  | .schemaDir => "schema-dir"
  | .templateDir => "template-dir"
  | .outputDir => "output-dir"
  | .markerKey => "marker-key"
  | .schemaExtension => "schema-extension"
  | .fallbackSchema => "fallback-schema"

/-- The name of a setting in reports on empty ones. -/
def fieldName : Setting → String
  | .schemaDir => "schema_dir"
  | .templateDir => "template_dir"
  | .outputDir => "output_dir"
  | .markerKey => "marker_key"
  | .schemaExtension => "schema_extension"
  | .fallbackSchema => "fallback_schema"

/-- The setting of a key. -/
def ofKey? (key : String) : Option Setting :=
  all.find? (·.key = key)

/-- The value of a setting that nothing sets. -/
def default : Setting → String
  | .schemaDir => "db-meta/schemas"
  | .templateDir => "templates"
  | .outputDir => "generated"
  | .markerKey => "botecopro_domain"
  | .schemaExtension => "yaml"
  | .fallbackSchema => Model.lastSchema

end Setting

/-- A configuration: a value for every setting. -/
structure Config where
  schemaDir : String := Setting.schemaDir.default
  templateDir : String := Setting.templateDir.default
  outputDir : String := Setting.outputDir.default
  markerKey : String := Setting.markerKey.default
  schemaExtension : String := Setting.schemaExtension.default
  fallbackSchema : String := Setting.fallbackSchema.default
  deriving Repr, DecidableEq, Inhabited

namespace Config

/-- The value of a setting. -/
def get (c : Config) : Setting → String
  | .schemaDir => c.schemaDir
  | .templateDir => c.templateDir
  | .outputDir => c.outputDir
  | .markerKey => c.markerKey
  | .schemaExtension => c.schemaExtension
  | .fallbackSchema => c.fallbackSchema

/-- Change the value of a setting. -/
def set (c : Config) (s : Setting) (value : String) : Config :=
  match s with
  | .schemaDir => { c with schemaDir := value }
  | .templateDir => { c with templateDir := value }
  | .outputDir => { c with outputDir := value }
  | .markerKey => { c with markerKey := value }
  | .schemaExtension => { c with schemaExtension := value }
  | .fallbackSchema => { c with fallbackSchema := value }

/-- Where the schema files are. -/
def schemaPath (c : Config) (base : FilePath) : FilePath :=
  base.join c.schemaDir

/-- Where the templates are. -/
def templatePath (c : Config) (base : FilePath) : FilePath :=
  base.join c.templateDir

/-- Where the output goes. -/
def outputPath (c : Config) (base : FilePath) : FilePath :=
  base.join c.outputDir

/-- The settings that are empty. -/
def emptySettings (c : Config) : List Setting :=
  Setting.all.filter fun s => (c.get s).isEmpty

/-- Changing one setting leaves the others. -/
theorem get_set (c : Config) (s t : Setting) (value : String) :
    (c.set s value).get t = if t = s then value else c.get t := by
  cases s <;> cases t <;> rfl

end Config

end SchemaGen
