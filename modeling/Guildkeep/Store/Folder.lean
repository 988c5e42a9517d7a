import Guildkeep.Disk.Walk
import Guildkeep.Settings
import Guildkeep.Store.Basic

/-!
# Stores of Files

One file per key, in one folder: the text of `key` is in `key.sav`. A save first writes the whole
text to `key.sav.tmp` and then moves that file over `key.sav`, so a save that fails leaves the old
text as it was.

## Conventions

A key becomes part of a file name, so only keys that cannot leave the folder are taken: letters,
digits, dots, underscores and hyphens of ASCII, not empty and with no dot in front. To load or
delete a key that is not there is no error.

## Main results

* `fileName_injective`, `fileName_ne_draftName`: no two keys share a name of either kind.
* `draftName_eq`: the name of the draft is that of the file **with an ending**, for every key.
-/

namespace Guildkeep.Store

/-- A store of files in a **folder**. -/
structure Folder where
  disk : Disk
  /-- Where the folder is. -/
  base : Path
  /-- How the folder was written by whoever opened it. -/
  location : String

namespace Folder

/-- The ending of the files. -/
def extension : String := "sav"

/-- The characters that a key may have. -/
def isKeyChar (c : Char) : Bool :=
  ('a' ≤ c && c ≤ 'z') || ('A' ≤ c && c ≤ 'Z') || ('0' ≤ c && c ≤ '9') ||
    c == '.' || c == '_' || c == '-'

/-- Whether a text can be a **key**. -/
def isKey (key : String) : Bool :=
  key.toList ≠ [] && key.toList.head? ≠ some '.' && key.toList.all isKeyChar

/-- The name of the file for a key. -/
def fileName (key : String) : String :=
  key ++ "." ++ extension

/-- The name of the file that is written before it takes the place of the other: that file with
another extension. -/
def draftName (key : String) : String :=
  Disk.withExtension (fileName key) (extension ++ ".tmp")

/-- Opens the folder at a path that is written in some way, and makes it if it is not there. -/
def openAt (disk : Disk) (base : Path) (location : String) : Except Error Folder :=
  match Disk.misspelt? location with
  | some why => .error (.io why)
  | none =>
    match disk.makeFolders base with
    | .ok disk => .ok ⟨disk, base, location⟩
    | .error why => .error (.io why)

/-- How the file for a key is written. -/
def keyPath (f : Folder) (key : String) : Except Error String :=
  if isKey key then .ok (joinPath f.location (fileName key)) else .error (.invalidKey key)

/-- The bytes that the file for a key takes, if there is one. -/
def size? (f : Folder) (key : String) : Option Nat :=
  if isKey key then
    match f.disk.child f.base (fileName key) with
    | .ok (some (.file content)) => some content.size
    | .ok (some .folder) => some folderSize
    | _ => none
  else none
where
  /-- The bytes that a folder takes. -/
  folderSize : Nat := 4096

/-- Writes the draft and moves it into place. A draft that cannot be moved stays behind. -/
def save (f : Folder) (key text : String) : Except Error Unit × Folder :=
  if isKey key then
    match f.disk.write f.base (draftName key) text.toUTF8 with
    | .error why => (.error (.io why), f)
    | .ok drafted =>
      match drafted.moveOver f.base (draftName key) (fileName key) with
      | .error why => (.error (.io why), { f with disk := drafted })
      | .ok disk => (.ok (), { f with disk })
  else (.error (.invalidKey key), f)

/-- The text of a key. -/
def load (f : Folder) (key : String) : Except Error (Option String) × Folder :=
  if isKey key then
    match f.disk.read f.base (fileName key) with
    | .error .missing => (.ok none, f)
    | .error why => (.error (.io why), f)
    | .ok content =>
      match String.fromUTF8? content with
      | some text => (.ok (some text), f)
      | none => (.error (.io .notText), f)
  else (.error (.invalidKey key), f)

/-- Removes the file for a key. -/
def delete (f : Folder) (key : String) : Except Error Unit × Folder :=
  if isKey key then
    match f.disk.unlink f.base (fileName key) with
    | .error .missing => (.ok (), f)
    | .error why => (.error (.io why), f)
    | .ok disk => (.ok (), { f with disk })
  else (.error (.invalidKey key), f)

/-- A folder of files is a **store**. -/
instance : Store Folder where
  save := save
  load := load
  delete := delete

/-! ### Laws -/

/-- No two keys share a file. -/
theorem fileName_injective {a b : String} (h : fileName a = fileName b) : a = b := by
  have := congrArg String.toList h
  exact String.toList_injective (by simpa [fileName, extension, String.toList_append] using this)

/-- A key is not empty. -/
theorem ne_empty_of_isKey {key : String} (h : isKey key = true) : key ≠ "" := by
  rintro rfl
  cases h

/-- The name of the draft for a key is that of its file **with an ending**. -/
theorem draftName_eq {key : String} (h : isKey key = true) :
    draftName key = fileName key ++ ".tmp" := by
  have hname : draftName key = key ++ "." ++ (extension ++ ".tmp") :=
    Disk.withExtension_append (ne_empty_of_isKey h) (by decide) (by decide) (by decide)
  rw [hname, fileName, String.append_assoc, String.append_assoc, String.append_assoc]

/-- No file of a key has the **ending** of a draft. -/
theorem fileName_ne_append_tmp (key stem : String) : fileName key ≠ stem ++ ".tmp" := by
  intro h
  have hlast := congrArg (fun s => s.toList.getLast?) h
  simp [fileName, extension, String.toList_append] at hlast

/-- No file of one key is the draft of another. -/
theorem fileName_ne_draftName (a : String) {b : String} (h : isKey b = true) :
    fileName a ≠ draftName b := by
  rw [draftName_eq h]
  exact fileName_ne_append_tmp a _

end Folder

end Guildkeep.Store
