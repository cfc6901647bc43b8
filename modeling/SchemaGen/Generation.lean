import SchemaGen.Model.Context
import SchemaGen.Output
import SchemaGen.Report.Log

/-!
# Generation runs

One pass over a project: the fragments are merged, every output path is checked,
and then every entity is rendered and written for every wanted kind. The first
error stops the run; files written before it stay. Nothing is written before
all paths are known to be safe and distinct.
-/

namespace SchemaGen

open SchemaGen.File

/-- What renders a template for an entity. -/
abbrev Engine := (template : String) → Context → Except Error String

/-- What a run has done. -/
structure Summary where
  entities : Nat
  files : List FilePath
  collisions : List Collision
  deriving Repr, DecidableEq

/-- A run: its result, the events in their order, and the disk after it. -/
structure Run where
  result : Except Error Summary
  events : List Event
  disk : Disk

/-- One file to be made. -/
structure Job where
  context : Context
  kind : OutputKind

namespace Generation

/-- The files to be made: every wanted kind of every entity in turn. -/
def plan (m : Model) (fallback : String) : List Job :=
  (m.contexts fallback).flatMap fun context => m.outputs.map fun kind => ⟨context, kind⟩

/-- Every entity with every wanted kind, in the order in which paths are checked. -/
def claims (m : Model) : List (String × OutputKind) :=
  m.entities.names.flatMap fun name => m.outputs.map fun kind => (name, kind)

/-- Check that every path is safe and none is claimed twice. `taken` has the
paths claimed so far. -/
def checkPaths (root : FilePath) (taken : List (FilePath × String)) :
    List (String × OutputKind) → Except Error Unit
  | [] => .ok ()
  | (name, kind) :: rest => do
    let path ← kind.pathFor root name
    match taken.lookup path with
    | some first => .error (.outputClash path first name)
    | none => checkPaths root ((path, name) :: taken) rest

/-- Make the files in turn, up to the first error. The paths and events are those
of what was done, oldest first. -/
def makeFiles (engine : Engine) (root : FilePath) :
    List Job → Disk → Except Error (List FilePath) × List Event × Disk
  | [], disk => (.ok [], [], disk)
  | job :: rest, disk =>
    let rendering : Event := .stage (.rendering job.context.entity job.kind)
    match engine job.kind.template job.context with
    | .error e => (.error e, [rendering], disk)
    | .ok text =>
      match writeOutput disk root job.context.entity job.kind text with
      | (.error e, disk) => (.error e, [rendering], disk)
      | (.ok path, disk) =>
        let (paths, events, disk) := makeFiles engine root rest disk
        (paths.map (path :: ·), rendering :: .stage (.written path) :: events, disk)

/-- The run after the fragments are merged. -/
def finish (engine : Engine) (root : FilePath) (fallback : String) (merged : Merged)
    (disk : Disk) : Run :=
  let m := merged.model
  let found : List Event :=
    merged.collisions.map .collision ++ [.stage (.merged m.entities.size)]
  match checkPaths root [] (claims m) with
  | .error e => ⟨.error e, found, disk⟩
  | .ok () =>
    let count := m.entities.size
    let checked : List Event := [.stage .validated, .stage (.contextsBuilt count)]
    let (paths, made, disk) := makeFiles engine root (plan m fallback) disk
    match paths with
    | .error e => ⟨.error e, found ++ checked ++ made, disk⟩
    | .ok files =>
      ⟨.ok ⟨count, files, merged.collisions⟩,
        found ++ checked ++ made ++ [.stage (.done count)], disk⟩

/-- The run after the fragments are found. -/
def proceed (engine : Engine) (base : FilePath) (config : Config) (fragments : List Fragment)
    (disk : Disk) : Run :=
  let discovered : Event := .stage (.discovered fragments.length)
  match mergeFragments config.markerKey fragments with
  | .error e => ⟨.error e, [discovered], disk⟩
  | .ok merged =>
    let run := finish engine (config.outputPath base) config.fallbackSchema merged disk
    { run with events := discovered :: run.events }

/-- The events with which a run ends: one more if it failed. -/
def failure : Except Error Summary → List Event
  | .ok _ => []
  | .error e => [.stage (.failed e.message)]

end Generation

/-- Run a generation over the fragments that were found, or fail as the search
for them did. -/
def generate (engine : Engine) (base : FilePath) (config : Config)
    (source : Except Error (List Fragment)) (disk : Disk) : Run :=
  let run : Run := match source with
    | .error e => ⟨.error e, [], disk⟩
    | .ok fragments => Generation.proceed engine base config fragments disk
  { run with
    events := .stage .idle :: (run.events ++ Generation.failure run.result) }

/-- The log of a run. What the search for fragments logged stands after the first
event. -/
def Run.log (run : Run) (search : List LogLine) : List LogLine :=
  (run.events.take 1).map Event.log ++ search ++ (run.events.drop 1).map Event.log

end SchemaGen
