import Guildkeep.Tool.Run

/-!
# The Save Tool at Work

The program around `Tool.Surroundings.perform`. It copies the part of the real disk that a command
may look at, runs the command on the copy, and carries over what changed. Nothing is decided here.
-/

namespace Guildkeep.Tool

open Save

/-- How a path is written. -/
def writtenPath (p : Path) : String :=
  "/" ++ "/".intercalate p

/-- What there really is at a written path. -/
def lookAt (path : String) : IO (Option Node) := do
  try
    discard (IO.FS.realPath path)
  catch _ => return none
  try
    discard (IO.FS.realPath (path ++ "/."))
    return some .folder
  catch _ =>
    return some (.file (← IO.FS.readBinFile path))

/-- The disk with a copy of what there is at a path. -/
def copy (d : Disk) (p : Path) : IO Disk := do
  match ← lookAt (writtenPath p) with
  | some node => return d.put p node
  | none => return d

/-- The disk with a copy of all that a written path leads through. -/
def copyAlong (d : Disk) (working : Path) (text : String) : IO Disk := do
  let mut disk := d
  let mut here := if isAbsolute text then [] else working
  for part in Disk.parts text do
    if part = ".." then here := here.dropLast
    else if part ≠ "" && part ≠ "." then
      here := here ++ [part]
      disk ← copy disk here
  return disk

/-- The variables that the settings or a file of variables may name. -/
def environmentFor (file : String) : IO Environment := do
  let bare := file.toList.splitBy fun a b => Text.isAlphanumeric a == Text.isAlphanumeric b
  let braced := (file.splitOn "\x7b").map fun part => part.toList.takeWhile (· ≠ '\x7d')
  let names := ["SAVE_COMPRESSION", "SAVE_MAX_SAVES", "SAVE_DATA_DIR", "AUTOSAVE_INTERVAL_SECS",
    "HOME", "XDG_DATA_HOME"] ++ (bare ++ braced).map String.ofList
  names.filterMapM fun name => do
    return (← IO.getEnv name).map fun value => (name, .text value)

/-- The folder of a command, as it is given. -/
def Command.dir : Command → Option String
  | .listSaves dir | .readSave _ dir _ | .deleteSave _ dir _ | .clean dir _ => dir

/-- The save that a command names. -/
def Command.ids : Command → List String
  | .readSave id _ _ | .deleteSave id _ _ => [id]
  | _ => []

/-- The files that a command may use in its folder, given the copy of the manifest. -/
def filesFor (s : Surroundings) (c : Command) (dir : String) : List String :=
  let listed := match s.openSaves dir with
    | (.ok store, _) =>
      match Archive.list store with
      | (.ok entries, _) => entries.map (·.id)
      | _ => []
    | (.error _, _) => []
  let keys := ((Manifest.key :: c.ids ++ listed).filter Store.Folder.isKey).eraseDups
  keys.flatMap fun key => [Store.Folder.fileName key, Store.Folder.draftName key]

/-- Carries a change of one entry over to the real disk. -/
def carryOver (old new : Disk) (p : Path) : IO Unit := do
  let path := writtenPath p
  match old.get? p, new.get? p with
  | some .folder, none => IO.FS.removeDirAll path
  | some (.file _), none => IO.FS.removeFile path
  | before, some (.file content) =>
    if before ≠ some (.file content) then
      IO.FS.writeBinFile (path ++ ".part") content
      IO.FS.rename (path ++ ".part") path
  | _, _ => return ()

/-- Reads the bytes of a line. -/
def readLine (stream : IO.FS.Stream) : IO ByteArray := do
  let mut line := ByteArray.empty
  repeat
    let byte ← stream.read 1
    line := line ++ byte
    if byte.isEmpty || byte.data == #[10] then break
  return line

/-- Runs a command on the real disk. -/
def work (c : Command) : IO UInt32 := do
  let working := (Disk.parts (← IO.currentDir).toString).filter (· ≠ "")
  let disk ← copyAlong {} [] (writtenPath working)
  let disk ← (Disk.outward working).foldlM (fun disk around => copy disk (around ++ [envFile])) disk
  let file := ((disk.readNearest? working envFile).bind String.fromUTF8?).getD ""
  let s := { env := ← environmentFor file, working, disk, input := "" : Surroundings }.withEnvFile
  let dir := s.saveDir c.dir
  let mut s := { s with disk := ← copyAlong s.disk working dir }
  let base := (s.find? dir).getD []
  if base ≠ [] then
    s := { s with disk := ← copy s.disk (base ++ [Store.Folder.fileName Manifest.key]) }
    for name in filesFor s c dir do
      s := { s with disk := ← copy s.disk (base ++ [name]) }
  let out ← IO.getStdout
  let intro := (s.intro? c).getD ""
  if intro ≠ "" then
    out.putStr intro
    out.flush
    s := { s with input := ← readLine (← IO.getStdin) }
  let ending := s.perform c
  if base ≠ [] then
    carryOver s.disk ending.disk base
    if (ending.disk.get? base).isSome then
      for name in filesFor s c dir do
        carryOver s.disk ending.disk (base ++ [name])
  out.putStr (String.ofList (ending.out.toList.drop intro.length))
  out.flush
  (← IO.getStderr).putStr ending.err
  return ending.exit.toUInt32

end Guildkeep.Tool

open Guildkeep.Tool in
/-- The save tool. -/
def main (words : List String) : IO UInt32 := do
  match Invocation.ofWords words with
  | .version => IO.println version; return 0
  | .wrong =>
    IO.eprintln "usage: xtask list-saves | read-save ID | delete-save ID | clean"
    return 2
  | .command c => work c
