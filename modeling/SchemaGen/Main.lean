import SchemaGen.CommandLine

/-!
# The program

The directory in which the program is started is read, the command is answered
on what was read, and the files that changed are written back.
-/

namespace SchemaGen.Program

open SchemaGen.File

/-- How deep directories are read. -/
def depthLimit : Nat := 64

/-- What is in a directory, or what the system answers if it does not let the
directory be listed. -/
def list (path : String) : IO (Except String (Array IO.FS.DirEntry)) := do
  try return .ok (← (← IO.FS.realPath path).readDir)
  catch
    | .permissionDenied .. => return .error "Permission denied (os error 13)"
    | fault => throw fault

/-- Read what is below a directory. Links are followed. -/
def read : Nat → String → Location → Disk → IO Disk
  | 0, _, _, d => pure d
  | fuel + 1, path, loc, d => do
    let entries ← match ← list path with
      | .ok entries => pure entries
      | .error reason => return { d with closed := d.closed ++ [(loc, reason)] }
    let mut d := d
    for entry in entries do
      let below := path ++ "/" ++ entry.fileName
      let place := loc ++ [entry.fileName]
      if ← entry.path.isDir then
        d ← read fuel below place (d.put place .directory)
      else if ← entry.path.pathExists then
        d := d.put place (.file (← IO.FS.readBinFile below))
    return d

/-- The path that leads to a location. -/
def pathTo (d : Disk) (loc : Location) : FilePath :=
  if d.home.isPrefixOf loc then ⟨"/".intercalate (loc.drop d.home.length)⟩
  else ⟨"/" ++ "/".intercalate loc⟩

/-- Write the files that are not as they were. -/
def write (before after : Disk) : IO Unit := do
  for (loc, item) in after.items do
    if let .file bytes := item then
      let unchanged := match before.get? loc with
        | some (.file old) => old.data == bytes.data
        | _ => false
      if !unchanged then
        let path := pathTo after loc
        if let some above := path.parent? then
          if !above.text.isEmpty then IO.FS.createDirAll above.text
        IO.FS.writeBinFile path.text bytes

/-- The environment variables that matter. -/
def environment : IO Environment := do
  let values ← Config.overrides.filterMapM fun o => do
    return (← IO.getEnv o.2.1).map (o.2.1, ·)
  return fun name => values.lookup name

end SchemaGen.Program

open SchemaGen in
/-- Answer the command. -/
def main (args : List String) : IO UInt32 := do
  let start : File.Disk := .fresh
  let before ← Program.read Program.depthLimit "." start.home start
  let (reply, after) := CommandLine.answer before (← Program.environment) args
  Program.write before after
  IO.print reply.out
  IO.eprint reply.err
  return reply.status.toUInt32
