import Guildkeep.Table

/-!
# Files and Folders

A disk maps paths to files and folders. A path lists the names from the root down, so the folder of
`p ++ [name]` is `p`, and the root is the empty path. The operations here are those that a store of
files needs; each either changes the named entries and nothing else, or fails and changes nothing.

## Conventions

The order of faults is fixed: first the folder has to be there and be a folder, then the name has to
be short enough, then comes what the entry itself is.

## Main results

* `get?_put`, `get?_erase`: one entry changes, all others stay.
* `child_eq_ok_iff`: when the entry with a name can be looked at.
-/

namespace Guildkeep

/-- A **path**: the names from the root down. -/
abbrev Path := List String

/-- What a path may lead to. -/
inductive Node where
  | file (content : ByteArray)
  | folder

/-- Files are compared by their content. -/
instance : DecidableEq Node
  | .file a, .file b =>
    decidable_of_decidable_of_iff (p := a.data = b.data)
      ⟨fun h => by cases a; cases b; cases h; rfl, fun h => by cases h; rfl⟩
  | .file _, .folder => .isFalse nofun
  | .folder, .file _ => .isFalse nofun
  | .folder, .folder => .isTrue rfl

/-- A **disk**: what there is at each path below the root. -/
structure Disk where
  nodes : Table Path Node := {}

namespace Disk

/-- Why an operation on files fails. -/
inductive Fault where
  | missing
  | alreadyThere
  | notFolder
  | isFolder
  | invalid
  | nameTooLong
  | notEmpty
  | notText
  | nulInName
  deriving DecidableEq

/-- The wording of a fault. -/
def Fault.message : Fault → String
  | missing => "No such file or directory (os error 2)"
  | alreadyThere => "File exists (os error 17)"
  | notFolder => "Not a directory (os error 20)"
  | isFolder => "Is a directory (os error 21)"
  | invalid => "Invalid argument (os error 22)"
  | nameTooLong => "File name too long (os error 36)"
  | notEmpty => "Directory not empty (os error 39)"
  | notText => "stream did not contain valid UTF-8"
  | nulInName => "file name contained an unexpected NUL byte"

/-- The most bytes that a name may have. -/
def maxNameBytes : Nat := 255

/-- The most bytes that a path may have as it is written. -/
def maxPathBytes : Nat := 4095

/-- What there is at a path. The root is a folder. -/
def get? (d : Disk) (p : Path) : Option Node :=
  if p = [] then some .folder else d.nodes.get? p

/-- The disk with an entry set. -/
def put (d : Disk) (p : Path) (n : Node) : Disk :=
  ⟨d.nodes.put p n⟩

/-- The disk without an entry. -/
def erase (d : Disk) (p : Path) : Disk :=
  ⟨d.nodes.erase p⟩

/-- The disk without the entries strictly below a path. -/
def eraseBelow (d : Disk) (p : Path) : Disk :=
  ⟨d.nodes.filter fun q => !(p.isPrefixOf q && q ≠ p)⟩

/-- The paths and nodes strictly below a path. -/
def below (d : Disk) (p : Path) : List (Path × Node) :=
  d.nodes.entries.filterMap fun e =>
    if p.isPrefixOf e.1 ∧ e.1 ≠ p then some (e.1.drop p.length, e.2) else none

/-! ### Operations -/

/-- The entry with a name in a folder. -/
def child (d : Disk) (folder : Path) (name : String) : Except Fault (Option Node) :=
  match d.get? folder with
  | none => .error .missing
  | some (.file _) => .error .notFolder
  | some .folder =>
    if maxNameBytes < name.utf8ByteSize then .error .nameTooLong
    else .ok (d.get? (folder ++ [name]))

/-- Writes a file, which may have been there before. -/
def write (d : Disk) (folder : Path) (name : String) (content : ByteArray) : Except Fault Disk :=
  match d.child folder name with
  | .error why => .error why
  | .ok (some .folder) => .error .isFolder
  | .ok _ => .ok (d.put (folder ++ [name]) (.file content))

/-- The content of a file. -/
def read (d : Disk) (folder : Path) (name : String) : Except Fault ByteArray :=
  match d.child folder name with
  | .error why => .error why
  | .ok none => .error .missing
  | .ok (some .folder) => .error .isFolder
  | .ok (some (.file content)) => .ok content

/-- Removes a file. -/
def unlink (d : Disk) (folder : Path) (name : String) : Except Fault Disk :=
  match d.child folder name with
  | .error why => .error why
  | .ok none => .error .missing
  | .ok (some .folder) => .error .isFolder
  | .ok (some (.file _)) => .ok (d.erase (folder ++ [name]))

/-- Moves a file **over** another name of the same folder: the file that may have had that name is
gone, and at no time is there neither. -/
def moveOver (d : Disk) (folder : Path) (source target : String) : Except Fault Disk :=
  match d.read folder source with
  | .error why => .error why
  | .ok content =>
    match d.child folder target with
    | .error why => .error why
    | .ok (some .folder) => .error .isFolder
    | .ok _ => .ok ((d.erase (folder ++ [source])).put (folder ++ [target]) (.file content))

/-- The paths that lead down from one path by names, each of them below the one before. -/
def pathsDown (above : Path) : List String → List Path
  | [] => []
  | name :: rest => (above ++ [name]) :: pathsDown (above ++ [name]) rest

/-- The folders on the way down are **further down**. -/
theorem length_lt_of_mem_pathsDown {above p : Path} {names : List String}
    (h : p ∈ pathsDown above names) : above.length < p.length := by
  induction names generalizing above with
  | nil => simp [pathsDown] at h
  | cons name rest ih =>
    rcases List.mem_cons.1 h with rfl | h
    · simp
    · have := ih h
      simp only [List.length_append, List.length_singleton] at this
      omega

/-- No folder on the way down comes **twice**. -/
theorem nodup_pathsDown (above : Path) (names : List String) : (pathsDown above names).Nodup := by
  induction names generalizing above with
  | nil => exact List.nodup_nil
  | cons name rest ih =>
    refine List.nodup_cons.2 ⟨fun h => ?_, ih _⟩
    exact Nat.lt_irrefl _ (length_lt_of_mem_pathsDown h)

/-- Adds folders that are not there, one below the other. -/
def addFolders (d : Disk) (above : Path) (names : List String) : Disk :=
  ⟨d.nodes.putAll ((pathsDown above names).map fun p => (p, .folder)) (by
    rw [List.map_map]
    simpa [Function.comp_def] using nodup_pathsDown above names)⟩

/-- Makes a folder and those above it, given the names still to go. Below the first that is not
there, none is. -/
def makeFoldersFrom (d : Disk) (above : Path) : List String → Except Fault Disk
  | [] => .ok d
  | name :: rest =>
    match d.get? (above ++ [name]) with
    | some .folder => makeFoldersFrom d (above ++ [name]) rest
    | some (.file _) => .error (if rest = [] then .alreadyThere else .notFolder)
    | none =>
      if (name :: rest).all (·.utf8ByteSize ≤ maxNameBytes) then
        .ok (d.addFolders above (name :: rest))
      else .error .nameTooLong

/-- Makes a folder and those above it, as far as they are not there. -/
def makeFolders (d : Disk) (p : Path) : Except Fault Disk :=
  d.makeFoldersFrom [] p

/-! ### Laws -/

/-- An entry that is put changes **one path**. -/
theorem get?_put {d : Disk} {p q : Path} {n : Node} (hp : p ≠ []) :
    (d.put p n).get? q = if q = p then some n else d.get? q := by
  by_cases hq : q = []
  · subst hq
    simp [get?, Ne.symm hp]
  · simp [get?, put, hq, Table.get?_put]

/-- An entry that is erased changes **one path**. -/
theorem get?_erase {d : Disk} {p q : Path} (hp : p ≠ []) :
    (d.erase p).get? q = if q = p then none else d.get? q := by
  by_cases hq : q = []
  · subst hq
    simp [get?, Ne.symm hp]
  · simp [get?, erase, hq, Table.get?_erase]

/-- An entry that is found was looked for in a folder, under a name that is short enough. -/
theorem child_eq_ok_iff {d : Disk} {folder : Path} {name : String} {n : Option Node} :
    d.child folder name = .ok n ↔
      d.get? folder = some .folder ∧ name.utf8ByteSize ≤ maxNameBytes ∧
        n = d.get? (folder ++ [name]) := by
  rw [child]
  split
  · simp_all
  · simp_all
  · rename_i h
    split
    · simp only [reduceCtorEq, false_iff, h]
      omega
    · simp only [Except.ok.injEq, h, true_and]
      constructor
      · rintro rfl
        exact ⟨by omega, rfl⟩
      · rintro ⟨-, rfl⟩
        rfl

end Disk

end Guildkeep
