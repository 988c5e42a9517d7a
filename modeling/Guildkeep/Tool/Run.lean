import Guildkeep.Store.Folder
import Guildkeep.Text.Column
import Guildkeep.Tool.Arguments
import Guildkeep.Tool.EnvFile
import Guildkeep.Tool.Report
import Guildkeep.Tool.Size

/-!
# The Save Tool

The commands for looking after a folder of saves: list them, show one, delete one, and clean up
altogether. A command is a function of its surroundings; it yields what it prints, how it ends and
the disk that it leaves behind.

## Conventions

Deleting and cleaning ask first, unless told not to, and go on only if the first line of the answer
is `y` or `yes`, blanks and upper case aside. No letter beyond ASCII has one of theirs as its lower
case. What is typed in is bytes; an answer that is no text is no answer.
-/

namespace Guildkeep.Tool

open Game Save

/-- What a command finds **around** it. -/
structure Surroundings where
  env : Environment
  /-- The working folder. -/
  working : Path
  disk : Disk
  /-- What is typed in. -/
  input : ByteArray

/-- A text is typed in as its bytes. -/
instance typedText : Coe String ByteArray := ⟨String.toUTF8⟩

/-- How a command **ends**. -/
structure Ending where
  exit : Nat
  out : String
  err : String
  disk : Disk

/-- The name of the file, in the working folder or around it, that adds to the environment. -/
def envFile : String := ".env"

/-- The version of the tool. -/
def version : String := "xtask 0.1.0"

namespace Surroundings

/-- The surroundings with the variables of the file that is **nearest** to the working folder. -/
def withEnvFile (s : Surroundings) : Surroundings :=
  match s.disk.readNearest? s.working envFile with
  | none => s
  | some content => { s with env := EnvFile.extend s.env content }

/-- The folder of the saves: the one that is given, or the one that the environment names. -/
def saveDir (s : Surroundings) (given : Option String) : String :=
  given.getD ((Settings.ofEnvironment s.env).saveDir s.env)

/-- Where a folder is, if there is anything of its name. -/
def find? (s : Surroundings) (dir : String) : Option Path :=
  s.disk.resolve? s.working dir

/-- A good end. -/
def succeed (s : Surroundings) (out : String) : Ending :=
  ⟨0, out, "", s.disk⟩

/-- A bad end, after something was printed. -/
def fail (s : Surroundings) (out : String) (r : Report) : Ending :=
  ⟨1, out, r.text, s.disk⟩

/-- **Opens** the folder of saves, which has to be there and to have a manifest that can be read.
Yields also the disk that is left. -/
def openSaves (s : Surroundings) (dir : String) : Except Report Store.Folder × Disk :=
  match s.find? dir with
  | none =>
    (.error ⟨"Save directory does not exist: " ++ dir ++
      "\nNo saves found. Run the game first or pass --data-dir.", []⟩, s.disk)
  | some p =>
    match Store.Folder.openAt s.disk p dir with
    | .error why => (.error ⟨"Failed to open save directory: " ++ dir, storeCauses why⟩, s.disk)
    | .ok store =>
      match Archive.manifest store with
      | (.error why, store) =>
        (.error ⟨"Failed to read save index in " ++ dir, saveCauses why⟩, store.disk)
      | (.ok _, store) => (.ok store, store.disk)

/-- The first line that is typed in. -/
def firstLine (s : Surroundings) : ByteArray :=
  ⟨(s.input.data.toList.takeWhile (· ≠ 10)).toArray⟩

/-- Whether the answer to a question is **yes**. -/
def confirmed (s : Surroundings) : Except Report Bool :=
  match String.fromUTF8? s.firstLine with
  | none => .error ⟨Disk.Fault.notText.message, []⟩
  | some line => .ok (["y", "yes"].contains (String.ofList (Text.lower (Text.trim line.toList))))

/-- The answer to a question, which is not asked if it is known to be yes. -/
def answered (s : Surroundings) (yes : Bool) : Except Report Bool :=
  if yes then .ok true else s.confirmed

end Surroundings

/-! ### What is printed -/

/-- One row of the list of saves. -/
def row (number at_ title size id : String) : String :=
  Text.left 4 number ++ " " ++ Text.left 26 at_ ++ " " ++ Text.left 24 title ++ " " ++
    Text.right 10 size ++ "  " ++ id ++ "\n"

/-- The row of a save. -/
def entryRow (store : Store.Folder) (number : Nat) (e : Entry) : String :=
  row (Text.nat number) e.timestamp.displaySeconds (e.title.getD "(untitled)")
    (((store.size? e.id).map sizeText).getD "missing") e.id

/-- The list of saves. -/
def listing (store : Store.Folder) (entries : List Entry) : String :=
  "Save Directory: " ++ store.location ++ "\n\n" ++
    if entries.isEmpty then "No saves found\n"
    else
      row "#" "Saved At" "Title" "Size" "Id" ++
        String.join (entries.zipIdx.map fun (e, n) => entryRow store (n + 1) e) ++
        "\nTotal: " ++ Text.nat entries.length ++ "\n"

/-- The items that are held, numbered. -/
def inventoryLines (items : List String) : String :=
  if items.isEmpty then "  (empty)\n"
  else String.join (items.zipIdx.map fun (item, n) => "  [" ++ Text.nat n ++ "] " ++ item ++ "\n")

/-- A snapshot in short. -/
def summary (s : Snapshot) : String :=
  "=== Session ===\n" ++
    "  Id: " ++ s.state.id ++ "\n" ++
    "  Snapshot Time: " ++ s.state.timestamp.display ++ "\n" ++
    "  Level: " ++ Text.nat s.state.level.toNat ++ " / " ++ Text.nat s.config.maxLevel.toNat ++
      "\n" ++
    "  Score: " ++ Text.int s.state.score.toInt ++ "\n" ++
    "  Health: " ++ Text.int s.state.health.toInt ++ " / " ++
      Text.int s.config.initialHealth.toInt ++ "\n" ++
    "  Position: (" ++ s.state.position.x.twoPlaces ++ ", " ++ s.state.position.y.twoPlaces ++
      ")\n\n" ++
    "=== Inventory ===\n" ++ inventoryLines s.state.inventory ++ "\n" ++
    "=== Config ===\n" ++
    "  Difficulty: " ++ s.config.difficulty.name ++ "\n" ++
    "  Score Multiplier: " ++ s.config.scoreMultiplier.plain ++ "\n" ++
    "  Auto Save: " ++ (if s.config.autoSave then "true" else "false") ++ "\n"

/-- A snapshot in a format. -/
def shown (s : Snapshot) : Format → String
  | .summary => summary s
  | .json => s.toJson.pretty ++ "\n"

/-- The question before anything is deleted, unless it is answered already. -/
def question (yes : Bool) : String :=
  if yes then "" else "Proceed? [y/N] "

/-- What is printed before a save is deleted. -/
def deleteIntro (id : String) (yes : Bool) : String :=
  "Deleting save " ++ id ++ "\n" ++ question yes

/-- What is printed before everything is deleted. -/
def cleanIntro (dir : String) (yes : Bool) : String :=
  "Clean Guild Manager Saves\n\nThe following will be deleted:\n  → " ++ dir ++ "\n\n" ++
    question yes

/-! ### Commands -/

namespace Surroundings

/-- The surroundings with the disk that a store leaves behind. -/
def leave (s : Surroundings) (disk : Disk) : Surroundings :=
  { s with disk }

/-- **Lists** the saves in a folder. -/
def listSaves (s : Surroundings) (dir : String) : Ending :=
  match s.openSaves dir with
  | (.error r, disk) => (s.leave disk).fail "" r
  | (.ok store, _) =>
    match Archive.list store with
    | (.error why, store) => (s.leave store.disk).fail "" ⟨why.message, (saveCauses why).tail⟩
    | (.ok entries, store) => (s.leave store.disk).succeed (listing store entries)

/-- **Shows** a save. -/
def readSave (s : Surroundings) (id dir : String) (format : Format) : Ending :=
  match s.openSaves dir with
  | (.error r, disk) => (s.leave disk).fail "" r
  | (.ok store, _) =>
    match Archive.fetch store id with
    | (.error why, store) =>
      (s.leave store.disk).fail "" ⟨"Failed to load save " ++ id, saveCauses why⟩
    | (.ok snapshot, store) =>
      (s.leave store.disk).succeed ("Save: " ++ id ++ "\n\n" ++ shown snapshot format)

/-- **Deletes** a save, after asking unless told not to. -/
def deleteSave (s : Surroundings) (id dir : String) (yes : Bool) : Ending :=
  let out := deleteIntro id yes
  match s.answered yes with
  | .error r => s.fail out r
  | .ok false => s.succeed (out ++ "Cancelled\n")
  | .ok true =>
    match s.openSaves dir with
    | (.error r, disk) => (s.leave disk).fail out r
    | (.ok store, _) =>
      match Archive.remove store id with
      | (.error why, store) =>
        (s.leave store.disk).fail out ⟨"Failed to delete save " ++ id, saveCauses why⟩
      | (.ok _, store) => (s.leave store.disk).succeed (out ++ "✓ Deleted\n")

/-- **Cleans up**: removes the folder with all that is in it, after asking unless told not to. -/
def clean (s : Surroundings) (dir : String) (yes : Bool) : Ending :=
  match s.find? dir with
  | none => s.succeed "Nothing to clean - save directory doesn't exist yet\n"
  | some _ =>
    let out := cleanIntro dir yes
    match s.answered yes with
    | .error r => s.fail out r
    | .ok false => s.succeed (out ++ "Cancelled\n")
    | .ok true =>
      let out := out ++ "Deleting save data... "
      match s.disk.removeAll s.working dir with
      | (.error why, disk) => (s.leave disk).fail out ⟨"Failed to delete: " ++ dir, [why.message]⟩
      | (.ok _, disk) => (s.leave disk).succeed (out ++ "✓\n")

/-- What a command prints before it reads an answer, if it asks for one. -/
def intro? (s : Surroundings) : Command → Option String
  | .deleteSave id _ false => some (deleteIntro id false)
  | .clean dir false =>
    if (s.find? (s.saveDir dir)).isSome then some (cleanIntro (s.saveDir dir) false) else none
  | _ => none

/-- **Runs** a command. -/
def perform (s : Surroundings) : Command → Ending
  | .listSaves dir => s.listSaves (s.saveDir dir)
  | .readSave id dir format => s.readSave id (s.saveDir dir) format
  | .deleteSave id dir yes => s.deleteSave id (s.saveDir dir) yes
  | .clean dir yes => s.clean (s.saveDir dir) yes

/-- **Runs** a command line. -/
def run (s : Surroundings) (words : List String) : Ending :=
  match Invocation.ofWords words with
  | .version => s.succeed (version ++ "\n")
  | .wrong => ⟨2, "", "", s.disk⟩
  | .command c => s.withEnvFile.perform c

end Surroundings

end Guildkeep.Tool
