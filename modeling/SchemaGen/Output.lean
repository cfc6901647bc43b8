import SchemaGen.Error
import SchemaGen.File.Disk

/-!
# Output files

Where the files of an entity go, and how they are written. The file name must
be a single name: an entity cannot lead out of the directory of its kind.
-/

namespace SchemaGen

open SchemaGen.File

/-- Is the text one plain name, with no directories and no dots that lead
elsewhere? -/
def isPlainName (text : String) : Bool :=
  match (FilePath.mk text).components with
  | [.name _] => true
  | _ => false

namespace OutputKind

/-- The path of the file for an entity, below the output directory. -/
def pathFor (kind : OutputKind) (root : FilePath) (entity : String) : Except Error FilePath :=
  if entity.isEmpty || !isPlainName (kind.fileName entity) then .error (.unsafePath entity)
  else .ok ((root.join kind.directory).join (kind.fileName entity))

end OutputKind

/-- The directory of a file, unless it is the one where relative paths begin. -/
def directoryOf? (p : FilePath) : Option FilePath :=
  p.parent?.filter fun above => !above.text.isEmpty

/-- Write a file whose directory exists. -/
def writeInPlace (d : Disk) (p : FilePath) (content : String) : Except Error Unit × Disk :=
  match d.writeBytes p content.toUTF8 with
  | .ok d => (.ok (), d)
  | .error fault => (.error (.writeFailed p fault), d)

/-- Write a file, with the directories above it. An error leaves the directories
that were made, so the disk is returned in either case. -/
def writeFile (d : Disk) (p : FilePath) (content : String) : Except Error Unit × Disk :=
  match directoryOf? p with
  | none => writeInPlace d p content
  | some above =>
    match d.makeDirectories above with
    | (.ok (), d) => writeInPlace d p content
    | (.error fault, d) => (.error (.writeFailed above fault), d)

/-- Write the file of one kind for an entity. -/
def writeOutput (d : Disk) (root : FilePath) (entity : String) (kind : OutputKind)
    (content : String) : Except Error FilePath × Disk :=
  match kind.pathFor root entity with
  | .error e => (.error e, d)
  | .ok path =>
    match writeFile d path content with
    | (.ok (), d) => (.ok path, d)
    | (.error e, d) => (.error e, d)

end SchemaGen
