import SchemaGen.Config.Setting
import SchemaGen.File.Walk
import SchemaGen.Model.Decode
import SchemaGen.Template.Fault
import SchemaGen.Yaml.Error

/-!
# Errors

Everything that can stop a run, with the text, the code and the advice that go
with it.
-/

namespace SchemaGen

open SchemaGen.File

/-- Why a run stops. -/
inductive Error where
  /-- No schema file carries the marker key. -/
  | noFragments (root : FilePath) (marker : String)
  /-- The value under the marker key is no mapping. -/
  | markerNotMapping (path : FilePath) (marker : String)
  /-- The value under the marker key does not fit. -/
  | invalidFragment (path : FilePath) (marker : String) (misfit : Misfit)
  /-- The fragments define no entity. -/
  | noEntities (marker : String)
  /-- Two entities would be written to one file. -/
  | outputClash (path : FilePath) (first second : String)
  /-- An entity whose name makes no file name. -/
  | unsafePath (entity : String)
  | writeFailed (path : FilePath) (fault : File.Fault)
  | readFailed (path : FilePath) (fault : File.Fault)
  /-- A fault of the file system outside of reading and writing. -/
  | fileSystem (text : String)
  | walk (fault : WalkFault)
  | dataFile (path : FilePath) (fault : Yaml.Fault)
  /-- Settings that may not be empty but are. -/
  | emptySettings (settings : List Setting)
  | templateNotFound (name : String)
  | templateDirNotFound (path : FilePath)
  | template (fault : Template.Fault)
  deriving Repr, DecidableEq

namespace Error

/-- The text of an error. -/
def message : Error → String
  | .noFragments root _ => "no domain entries found under `" ++ root.text ++ "`"
  | .markerNotMapping path marker =>
    "`" ++ marker ++ "` in " ++ path.text ++ " must be a mapping"
  | .invalidFragment path marker misfit =>
    "invalid `" ++ marker ++ "` fragment in " ++ path.text ++ ": " ++ misfit.message
  | .noEntities marker => "no entities defined in `" ++ marker ++ "` schemas"
  | .outputClash path first second =>
    "entities `" ++ first ++ "` and `" ++ second ++ "` both write " ++ path.text
  | .unsafePath entity => "Unsafe output path for entity `" ++ entity ++ "`"
  | .writeFailed path fault => "Failed to write " ++ path.text ++ ": " ++ fault.message
  | .readFailed path fault => "Failed to read " ++ path.text ++ ": " ++ fault.message
  | .fileSystem text => "File System Error: " ++ text
  | .walk fault => "Directory walk failed: " ++ fault.message
  | .dataFile path fault =>
    "Failed to parse YAML file " ++ path.text ++ ": " ++ fault.message
  | .emptySettings settings =>
    "Configuration Error: " ++
      "\n".intercalate (settings.map fun s => s.fieldName ++ ": must not be empty")
  | .templateNotFound name => "template `" ++ name ++ "` not found"
  | .templateDirNotFound path => "Template directory not found at '" ++ path.text ++ "'"
  | .template fault => "Template Rendering Error: " ++ fault.message

/-- The code of an error. -/
def code? : Error → Option String
  | .noFragments _ _ => some "modelgen::domain::no_entries"
  | .markerNotMapping _ _ => some "modelgen::domain::marker_shape"
  | .invalidFragment _ _ _ => some "modelgen::domain::fragment_shape"
  | .noEntities _ => some "modelgen::domain::no_entities"
  | .outputClash _ _ _ => some "modelgen::domain::output_clash"
  | .unsafePath _ => none
  | .writeFailed _ _ => some "modelgen::infra::write"
  | .readFailed _ _ => some "modelgen::infra::read"
  | .fileSystem _ => some "modelgen::infra::io"
  | .walk _ => some "modelgen::infra::walk"
  | .dataFile _ _ => some "modelgen::infra::yaml"
  | .emptySettings _ => some "modelgen::infra::config"
  | .templateNotFound _ => some "modelgen::infra::template_not_found"
  | .templateDirNotFound _ => some "modelgen::infra::template_dir"
  | .template _ => some "modelgen::infra::template"

/-- What to do about an error. -/
def advice? : Error → Option String
  | .noFragments _ marker =>
    some ("At least one YAML file must carry the `" ++ marker ++ "` top-level key.")
  | .invalidFragment _ _ _ =>
    some "`enums`, `entities`, `types`, `metadata` and `targets` must be mappings."
  | .outputClash _ _ _ =>
    some "Output file names are lower-cased; rename one of the entities."
  | .fileSystem _ => some "Check file permissions or path validity."
  | .dataFile _ _ => some "Check your YAML syntax (indentation, types)."
  | .templateNotFound _ =>
    some "Templates are loaded once from the template directory at startup."
  | .template _ =>
    some "Check your Jinja syntax (\x7b ... \x7d) inside the template file."
  | .markerNotMapping _ _ | .noEntities _ | .unsafePath _ | .writeFailed _ _
  | .readFailed _ _ | .walk _ | .emptySettings _ | .templateDirNotFound _ => none

end Error

end SchemaGen
