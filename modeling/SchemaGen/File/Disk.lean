import SchemaGen.File.Fault
import SchemaGen.File.Path
import SchemaGen.Text.Order

/-!
# Disks

The state of a file system: what stands at each location, the directory in
which relative paths begin, the places where the system refuses changes, and the
directories that it does not let be listed. It refuses nothing else: every path can
be followed, and every file read.
Paths are followed one segment at a time, and links on the way are followed up
to forty times.
-/

namespace SchemaGen.File

/-- A location: the names from the root down. -/
abbrev Location := List String

/-- What stands at a location. -/
inductive Item where
  | file (bytes : ByteArray)
  | link (target : String)
  | directory

/-- The state of a file system. The root is always a directory. -/
structure Disk where
  items : List (Location × Item)
  /-- Where relative paths begin. -/
  home : Location
  /-- What the system answers at the locations where it lets nothing be made or
  written. -/
  refusal? : Location → Option String := fun _ => none
  /-- The directories that the system lets nobody list, each with what it answers. -/
  closed : List (Location × String) := []

namespace Disk

/-- A disk with one empty directory, where relative paths begin. -/
def fresh : Disk :=
  { items := [(["work"], .directory)], home := ["work"] }

/-! ## Locations -/

/-- What stands at a location. -/
def get? (d : Disk) (loc : Location) : Option Item :=
  if loc = [] then some .directory else d.items.lookup loc

/-- What the system answers if it does not let the directory be listed. -/
def closed? (d : Disk) (loc : Location) : Option String :=
  d.closed.lookup loc

/-- Put an item at a location, in the place of what stood there. -/
def put (d : Disk) (loc : Location) (item : Item) : Disk :=
  if d.items.any (·.1 = loc) then
    { d with items := d.items.map fun e => if e.1 = loc then (loc, item) else e }
  else { d with items := d.items ++ [(loc, item)] }

/-- Put an item at a location, unless the system refuses. -/
def place (d : Disk) (loc : Location) (item : Item) : Except Fault Disk :=
  match d.refusal? loc with
  | some reason => .error (.refused reason)
  | none => .ok (d.put loc item)

/-- Take away what stands at a location, and all below it. -/
def erase (d : Disk) (loc : Location) : Disk :=
  { d with
    items := d.items.filter fun e => !loc.isPrefixOf e.1
    closed := d.closed.filter fun e => !loc.isPrefixOf e.1 }

/-- The names in a directory, sorted. -/
def namesIn (d : Disk) (loc : Location) : List String :=
  Text.sortBy id <| d.items.filterMap fun e =>
    if e.1.dropLast = loc then e.1.getLast? else none

/-- The regular files below a location, with their paths from there, sorted. -/
def filesBelow (d : Disk) (loc : Location) : List (String × ByteArray) :=
  Text.sortBy (·.1) <| d.items.filterMap fun e =>
    match e.2 with
    | .file bytes =>
      if loc.isPrefixOf e.1 then some ("/".intercalate (e.1.drop loc.length), bytes) else none
    | _ => none

/-! ## Following paths -/

/-- How many links are followed on one way. -/
def linkLimit : Nat := 40

/-- How many bytes a name may have. -/
def nameLimit : Nat := 255

/-- How many bytes a path may have. -/
def pathLimit : Nat := 4095

/-- Follow segments from a location. `jump` follows the target of a link and
what comes after it. The last name need not exist. -/
def followSegments (d : Disk) (jump : Location → List (List Char) → Except Fault Location)
    (followLast : Bool) : Location → List (List Char) → Except Fault Location
  | loc, [] => .ok loc
  | loc, segment :: rest =>
    match d.get? loc with
    | none => .error .notFound
    | some (.file _) | some (.link _) => .error .notDirectory
    | some .directory =>
      if segment = [] || segment = ['.'] then followSegments d jump followLast loc rest
      else if segment = ['.', '.'] then followSegments d jump followLast loc.dropLast rest
      else
        let name := String.ofList segment
        let below := loc ++ [name]
        if nameLimit < name.utf8ByteSize then .error .nameTooLong
        else match d.get? below with
          | some (.link target) =>
            if rest = [] && !followLast then .ok below
            else
              let start := if (FilePath.mk target).isAbsolute then [] else loc
              jump start ((FilePath.mk target).segments ++ rest)
          | some (.file _) | some .directory => followSegments d jump followLast below rest
          | none => if rest.all (· = []) then .ok below else .error .notFound

/-- Follow segments, and at most `links` links. -/
def follow (d : Disk) (followLast : Bool) :
    (links : Nat) → Location → List (List Char) → Except Fault Location
  | 0 => followSegments d (fun _ _ => .error .tooManyLinks) followLast
  | links + 1 => followSegments d (follow d followLast links) followLast

/-- The location of a path. Without `followLast`, a link at the end of the path
is the location itself. -/
def locate (d : Disk) (followLast : Bool) (p : FilePath) : Except Fault Location :=
  if p.text.isEmpty then .error .notFound
  else if p.text.toList.contains '\x00' then .error .nulInName
  else if pathLimit < p.text.utf8ByteSize then .error .nameTooLong
  else d.follow followLast linkLimit (if p.isAbsolute then [] else d.home) p.segments

/-- What a path leads to. -/
def lookup (d : Disk) (p : FilePath) : Except Fault Item := do
  match d.get? (← d.locate true p) with
  | some item => return item
  | none => .error .notFound

/-- Does the path lead to something? -/
def pathExists (d : Disk) (p : FilePath) : Bool :=
  (d.lookup p).isOk

/-- Does the path lead to a directory? -/
def isDirectory (d : Disk) (p : FilePath) : Bool :=
  match d.lookup p with
  | .ok .directory => true
  | _ => false

/-! ## Reading and writing -/

/-- The text of a file. -/
def readText (d : Disk) (p : FilePath) : Except Fault String := do
  match ← d.lookup p with
  | .file bytes =>
    match String.fromUTF8? bytes with
    | some text => return text
    | none => .error .notText
  | .directory => .error .isDirectory
  | .link _ => .error .notFound

/-- Does the text of the path end in a slash? -/
def endsInSlash (p : FilePath) : Bool :=
  p.text.toList.getLast? = some '/'

/-- Write a file whose directory exists. -/
def writeBytes (d : Disk) (p : FilePath) (bytes : ByteArray) : Except Fault Disk := do
  let loc ← d.locate true p
  match d.get? loc with
  | some .directory => .error .isDirectory
  | some (.file _) | some (.link _) => d.place loc (.file bytes)
  | none => if endsInSlash p then .error .isDirectory else d.place loc (.file bytes)

/-- Make one directory. -/
def makeDirectory (d : Disk) (p : FilePath) : Except Fault Disk := do
  let loc ← d.locate false p
  match d.get? loc with
  | some _ => .error .fileExists
  | none => d.place loc .directory

/-- Make one directory, which may be there already. -/
def ensureDirectory (d : Disk) (p : FilePath) : Except Fault Unit × Disk :=
  match d.makeDirectory p with
  | .ok d => (.ok (), d)
  | .error fault => (if d.isDirectory p then .ok () else .error fault, d)

/-- Make a directory and those above it, at most `fuel` of them. -/
def makeDirectoriesWithin : Nat → Disk → FilePath → Except Fault Unit × Disk
  | 0, d, p => d.ensureDirectory p
  | fuel + 1, d, p =>
    if p.text.isEmpty then (.ok (), d)
    else match d.ensureDirectory p with
      | (.error .notFound, d) =>
        match p.parent? with
        | none => (.error .notFound, d)
        | some above =>
          match makeDirectoriesWithin fuel d above with
          | (.ok (), d) => d.ensureDirectory p
          | (.error fault, d) => (.error fault, d)
      | (result, d) => (result, d)

/-- Make a directory and those above it, as far as they are missing. The
directories made before a fault stay. -/
def makeDirectories (d : Disk) (p : FilePath) : Except Fault Unit × Disk :=
  makeDirectoriesWithin p.text.length d p

/-- Make a link. -/
def makeLink (d : Disk) (p : FilePath) (target : String) : Except Fault Disk := do
  let loc ← d.locate false p
  match d.get? loc with
  | some _ => .error .fileExists
  | none => return d.put loc (.link target)

/-- Take away a file, a link, or a directory with all below it. -/
def remove (d : Disk) (p : FilePath) : Except Fault Disk := do
  let loc ← d.locate false p
  match d.get? loc with
  | some _ => return d.erase loc
  | none => .error .notFound

end Disk

end SchemaGen.File
