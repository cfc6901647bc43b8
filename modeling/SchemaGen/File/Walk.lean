import SchemaGen.File.Disk

/-!
# Walks

The entries of a directory tree, each directory before what it holds and the
names in a directory sorted. Links are followed; one that leads back to a
directory on the way to it is a fault, and so is one that leads nowhere. A directory
that cannot be listed is a fault in its own place; a link to one is opened to see where
it leads, and the fault of that does not tell the path. Regular files are met as they
are listed: only directories and links are looked up by their paths.
-/

namespace SchemaGen.File

/-- Why a walk stops. -/
inductive WalkFault where
  /-- A link that leads to a directory it stands below. -/
  | loop (path ancestor : FilePath)
  /-- A path that cannot be looked at. -/
  | unreadable (path : FilePath) (fault : Fault)
  /-- A link to a directory that cannot be opened. -/
  | unopened (path : FilePath) (fault : Fault)
  deriving Repr, DecidableEq

/-- Where the walk stops. -/
def WalkFault.path : WalkFault → FilePath
  | .loop p _ | .unreadable p _ | .unopened p _ => p

/-- The text of a fault. It tells the path, except where a link cannot be opened. -/
def WalkFault.message : WalkFault → String
  | .loop path ancestor =>
    "File system loop found: " ++ path.text ++ " points to an ancestor " ++ ancestor.text
  | .unreadable path fault =>
    "IO error for operation on " ++ path.text ++ ": " ++ fault.message
  | .unopened _ fault => fault.message

/-- What a walk meets. -/
inductive Visit where
  | file (path : FilePath)
  | directory (path : FilePath)
  | fault (cause : WalkFault)
  deriving Repr, DecidableEq

/-- A directory on the way, with the location it was reached at. -/
abbrev Ancestors := List (Location × FilePath)

/-- Does a link stand at the end of the path? -/
def Disk.endsInLink (d : Disk) (p : FilePath) : Bool :=
  match d.locate false p with
  | .ok loc => match d.get? loc with
    | some (.link _) => true
    | _ => false
  | .error _ => false

/-- The fault at a directory that the system does not let be listed. -/
def Disk.unlisted (d : Disk) (p : FilePath) (reason : String) : WalkFault :=
  if d.endsInLink p then .unopened p (.refused reason) else .unreadable p (.refused reason)

/-- Is the item a regular file? -/
def Item.isFile : Item → Bool
  | .file _ => true
  | .link _ | .directory => false

/-- What a walk meets at a name in a directory: a regular file, or what looking
further comes to. -/
def Disk.visitsAt (d : Disk) (loc : Location) (p : FilePath) (further : FilePath → List Visit)
    (name : String) : List Visit :=
  if (d.get? (loc ++ [name])).any Item.isFile then [.file (p.join name)]
  else further (p.join name)

/-- Walk the tree at a path, nested at most `fuel` deep. -/
def Disk.walkWithin (d : Disk) : Nat → Ancestors → FilePath → List Visit
  | 0, _, _ => []
  | fuel + 1, ancestors, p =>
    match d.locate true p with
    | .error fault => [.fault (.unreadable p fault)]
    | .ok loc =>
      match d.get? loc with
      | none | some (.link _) => [.fault (.unreadable p .notFound)]
      | some (.file _) => [.file p]
      | some .directory =>
        match if d.endsInLink p then ancestors.find? (·.1 = loc) else none with
        | some (_, ancestor) => [.fault (.loop p ancestor)]
        | none =>
          match d.closed? loc with
          | some reason => [.fault (d.unlisted p reason)]
          | none =>
            .directory p :: (d.namesIn loc).flatMap
              (d.visitsAt loc p (walkWithin d fuel ((loc, p) :: ancestors)))

/-- Walk the tree at a path. On a way without loops no directory is entered
twice through links, which bounds its depth. -/
def Disk.walk (d : Disk) (p : FilePath) : List Visit :=
  d.walkWithin ((d.items.length + 2) * (d.items.length + 2)) [] p

end SchemaGen.File
