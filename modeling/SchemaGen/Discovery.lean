import SchemaGen.Report.Log
import SchemaGen.Text.Blank
import SchemaGen.Yaml.Document
import SchemaGen.Yaml.MergeKey

/-!
# Finding fragments

The schema tree is walked in order, and every file with the schema extension is
read. A file whose document is a mapping with the marker key gives a fragment;
other documents are passed over. The first fault stops the search.
-/

namespace SchemaGen

open SchemaGen.File
open SchemaGen.Yaml (Value Entries)

/-- What a search looks for. -/
structure Search where
  marker : String
  /-- The extension without its dot. -/
  extension : String
  deriving Repr, DecidableEq

namespace Search

/-- A search for a marker in files with an extension, which may be written with
its dot. -/
def ofSettings (marker extension : String) : Search :=
  ⟨marker, Text.trimStartWhere (· = '.') extension⟩

/-- The search that a configuration asks for. -/
def ofConfig (c : Config) : Search :=
  ofSettings c.markerKey c.schemaExtension

/-- The value under the marker key, if the document is a mapping that has it. -/
def bodyOf? (s : Search) : Value → Option Value
  | .map entries => Entries.get? entries s.marker
  | _ => none

/-- The value of a data file, its merge keys resolved. -/
def document (text : String) : Except Yaml.Fault Value := do
  Yaml.MergeKey.apply (← Value.ofText text)

/-- The fragment of a file, if it has one. -/
def fragment? (s : Search) (d : Disk) (p : FilePath) : Except Error (Option Fragment) := do
  let text ← (d.readText p).mapError (.readFailed p)
  let value ← (document text).mapError (.dataFile p)
  return (s.bodyOf? value).map (⟨p, ·⟩)

/-- Does the path bear the extension? -/
def accepts (s : Search) (p : FilePath) : Bool :=
  p.extension? = some s.extension

/-- The log line on a file with a fragment. -/
def foundLine (p : FilePath) : LogLine :=
  ⟨.debug, "📝 Domain fragment found", [("path", quotedPath p)]⟩

/-- The log line on a file without the marker key. -/
def skippedLine (p : FilePath) : LogLine :=
  ⟨.debug, "Skipping YAML file without marker", [("path", quotedPath p)]⟩

/-- The log line on a missing schema directory. -/
def missingLine (root : FilePath) : LogLine :=
  ⟨.debug, "Schema directory does not exist", [("root", quotedPath root)]⟩

/-- The fragments among the visits of a walk if parsing its files gives these answers, with
what is logged. -/
def collectWith (s : Search) (parse : FilePath → Except Error (Option Fragment)) :
    List Visit → Except Error (List Fragment) × List LogLine
  | [] => (.ok [], [])
  | .fault cause :: _ => (.error (.walk cause), [])
  | .directory _ :: rest => collectWith s parse rest
  | .file p :: rest =>
    if s.accepts p then
      match parse p with
      | .error e => (.error e, [])
      | .ok none =>
        let (found, lines) := collectWith s parse rest
        (found, skippedLine p :: lines)
      | .ok (some f) =>
        let (found, lines) := collectWith s parse rest
        (found.map (f :: ·), foundLine p :: lines)
    else collectWith s parse rest

/-- The fragments among the visits of a walk, with what is logged. -/
def collect (s : Search) (d : Disk) (visits : List Visit) :
    Except Error (List Fragment) × List LogLine :=
  s.collectWith (s.fragment? d) visits

/-- The fragments below a directory, which need not exist. -/
def discover (s : Search) (d : Disk) (root : FilePath) :
    Except Error (List Fragment) × List LogLine :=
  if d.pathExists root then s.collect d (d.walk root) else (.ok [], [missingLine root])

/-- The fragments below a directory, of which there must be one. -/
def load (s : Search) (d : Disk) (root : FilePath) :
    Except Error (List Fragment) × List LogLine :=
  let (found, lines) := s.discover d root
  match found with
  | .ok [] => (.error (.noFragments root s.marker), lines)
  | found => (found, lines)

end Search

end SchemaGen
