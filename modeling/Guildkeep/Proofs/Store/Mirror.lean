import Guildkeep.Proofs.Store.View
import Guildkeep.Store.Folder

/-!
# A Folder Mirrors a Memory

Whoever saves, loads and deletes texts cannot tell a folder that was empty at first from a memory.
The folder shows all the while what the memory holds: one file per key, with the text of the key,
and no draft left behind.

## Conventions

A key is at most `maxKeyBytes` long, so that the names of its file and of its draft are short enough
for a disk. A folder is empty if there is nothing at any path below it.

## Main results

* `save_of_clear`, `load_of_clear`, `delete_of_clear`: what an access does to a folder where
  **nothing is in its way**.
* `Mirrors.answer`: a folder that mirrors a memory gives the **same answer** and mirrors it
  afterwards.
* `folder_mirrors_memory`: the same for every sequence of requests.
-/

namespace Guildkeep

namespace Store

/-! ### Requests -/

/-- What may be **requested** of a store. -/
inductive Request where
  | save (key text : String)
  | load (key : String)
  | delete (key : String)

namespace Request

/-- The key that a request is about. -/
def key : Request → String
  | save key _ => key
  | load key => key
  | delete key => key

end Request

/-- What a store **answers**. -/
inductive Answer where
  | done (result : Except Error Unit)
  | found (result : Except Error (Option String))

/-- The answer of a store to a request, and the store after it. -/
def answer {σ : Type} [Store σ] (s : σ) : Request → Answer × σ
  | .save key text => ((.done (Store.save s key text).1), (Store.save s key text).2)
  | .load key => ((.found (Store.load s key).1), (Store.load s key).2)
  | .delete key => ((.done (Store.delete s key).1), (Store.delete s key).2)

/-- The answers of a store to requests, one after another, and the store after them. -/
def serve {σ : Type} [Store σ] (s : σ) : List Request → List Answer × σ
  | [] => ([], s)
  | request :: requests =>
    let first := answer s request
    let others := serve first.2 requests
    (first.1 :: others.1, others.2)

end Store

/-! ### Names that are free -/

namespace Disk

variable {d : Disk} {folder : Path} {name : String} {node : Option Node}

/-- A file is written where **no folder** has its name. -/
theorem write_of_free (hchild : d.child folder name = .ok node) (hfree : node ≠ some .folder)
    (content : ByteArray) :
    d.write folder name content = .ok (d.put (folder ++ [name]) (.file content)) := by
  rw [write, hchild]
  cases node with
  | none => rfl
  | some node =>
    cases node with
    | file => rfl
    | folder => exact absurd rfl hfree

/-- A file is moved to where **no folder** has its new name. -/
theorem moveOver_of_free {source : String} {content : ByteArray}
    (hread : d.read folder source = .ok content) (hchild : d.child folder name = .ok node)
    (hfree : node ≠ some .folder) :
    d.moveOver folder source name =
      .ok ((d.erase (folder ++ [source])).put (folder ++ [name]) (.file content)) := by
  rw [moveOver, hread]
  dsimp only
  rw [hchild]
  cases node with
  | none => rfl
  | some node =>
    cases node with
    | file => rfl
    | folder => exact absurd rfl hfree

end Disk

namespace Store.Folder

/-! ### Names -/

/-- The most bytes of a key whose file and draft have names that are short enough. -/
def maxKeyBytes : Nat := 247

/-- The name of the file for a key, **written out**. -/
theorem fileName_eq (key : String) : fileName key = key ++ ".sav" := by
  rw [fileName, extension, String.append_assoc]
  rfl

/-- The name of the draft for a key, **written out**. -/
theorem draftName_eq_append {key : String} (h : isKey key = true) :
    draftName key = key ++ ".sav.tmp" := by
  rw [draftName_eq h, fileName_eq, String.append_assoc]
  rfl

/-- The name of the file for a key is **four bytes** longer than the key. -/
theorem utf8ByteSize_fileName (key : String) :
    (fileName key).utf8ByteSize = key.utf8ByteSize + 4 := by
  rw [fileName_eq, String.utf8ByteSize_append]
  rfl

/-- The name of the draft for a key is **eight bytes** longer than the key. -/
theorem utf8ByteSize_draftName {key : String} (h : isKey key = true) :
    (draftName key).utf8ByteSize = key.utf8ByteSize + 8 := by
  rw [draftName_eq h, String.utf8ByteSize_append, utf8ByteSize_fileName, Nat.add_assoc]
  rfl

/-! ### Accesses that nothing is in the way of -/

/-- The path of the file for a key. -/
def filePath (f : Folder) (key : String) : Path :=
  f.base ++ [fileName key]

/-- The path of the draft for a key. -/
def draftPath (f : Folder) (key : String) : Path :=
  f.base ++ [draftName key]

/-- No file of one key is at the path of the **draft** of another. -/
theorem filePath_ne_draftPath (f : Folder) (a : String) {b : String} (hb : isKey b = true) :
    f.filePath a ≠ f.draftPath b := by
  intro h
  exact fileName_ne_draftName a hb (List.singleton_inj.1 (List.append_cancel_left h))

/-- The disk with the **draft** of a text for a key. -/
def drafted (f : Folder) (key text : String) : Disk :=
  f.disk.put (f.draftPath key) (.file text.toUTF8)

/-- The disk on which the draft of a text has been moved **into place**. -/
def saved (f : Folder) (key text : String) : Disk :=
  ((f.drafted key text).erase (f.draftPath key)).put (f.filePath key) (.file text.toUTF8)

/-- With the draft the disk differs **at the path of the draft**. -/
theorem get?_drafted (f : Folder) (key text : String) (p : Path) :
    (f.drafted key text).get? p =
      if p = f.draftPath key then some (.file text.toUTF8) else f.disk.get? p :=
  Disk.get?_put (by simp [draftPath])

/-- After the save the disk differs at the paths of **the file and the draft**. -/
theorem get?_saved (f : Folder) (key text : String) (p : Path) :
    (f.saved key text).get? p =
      if p = f.filePath key then some (.file text.toUTF8)
      else if p = f.draftPath key then none
      else f.disk.get? p := by
  rw [saved, Disk.get?_put (by simp [filePath]), Disk.get?_erase (by simp [draftPath]),
    get?_drafted]
  split
  · rfl
  · split
    · rfl
    · rfl

/-- **Nothing is in the way** of a key: the folder is there, the names are short enough, and neither
of them is the name of a folder. -/
structure Clear (f : Folder) (key : String) : Prop where
  valid : isKey key = true
  short : key.utf8ByteSize ≤ maxKeyBytes
  folder : f.disk.get? f.base = some .folder
  file : f.disk.get? (f.filePath key) ≠ some .folder
  draft : f.disk.get? (f.draftPath key) ≠ some .folder

section Clear

variable {f : Folder} {key : String}

/-- A folder is **not** what is in it. -/
theorem base_ne_append (f : Folder) (name : String) : f.base ≠ f.base ++ [name] := by
  intro h
  exact absurd (congrArg List.length h) (by simp)

/-- Under a name that is no longer than that of the draft a folder shows **what is there**. -/
theorem Clear.child_of_le (h : Clear f key) {disk : Disk}
    (hfolder : disk.get? f.base = some .folder) {name : String}
    (hname : name.utf8ByteSize ≤ key.utf8ByteSize + 8) :
    disk.child f.base name = .ok (disk.get? (f.base ++ [name])) := by
  have hshort := h.short
  rw [maxKeyBytes] at hshort
  refine Disk.child_eq_ok_iff.2 ⟨hfolder, ?_, rfl⟩
  rw [Disk.maxNameBytes]
  omega

/-- What is there under the name of the **file**. -/
theorem Clear.child_file (h : Clear f key) {disk : Disk}
    (hfolder : disk.get? f.base = some .folder) :
    disk.child f.base (fileName key) = .ok (disk.get? (f.filePath key)) :=
  h.child_of_le hfolder (by rw [utf8ByteSize_fileName]; omega)

/-- What is there under the name of the **draft**. -/
theorem Clear.child_draft (h : Clear f key) {disk : Disk}
    (hfolder : disk.get? f.base = some .folder) :
    disk.child f.base (draftName key) = .ok (disk.get? (f.draftPath key)) :=
  h.child_of_le hfolder (Nat.le_of_eq (utf8ByteSize_draftName h.valid))

/-- A save sets the file, **takes the draft away**, and touches nothing else. -/
theorem save_of_clear (h : Clear f key) (text : String) :
    ∃ disk, f.save key text = (.ok (), { f with disk }) ∧ ∀ p, disk.get? p =
      if p = f.filePath key then some (.file text.toUTF8)
      else if p = f.draftPath key then none
      else f.disk.get? p := by
  have hwrite : f.disk.write f.base (draftName key) text.toUTF8 = .ok (f.drafted key text) :=
    Disk.write_of_free (h.child_draft h.folder) h.draft _
  have hfolder : (f.drafted key text).get? f.base = some .folder := by
    rw [get?_drafted, draftPath, if_neg (base_ne_append f _)]
    exact h.folder
  have hread : (f.drafted key text).read f.base (draftName key) = .ok text.toUTF8 := by
    rw [Disk.read, h.child_draft hfolder, get?_drafted, if_pos rfl]
  have hmove : (f.drafted key text).moveOver f.base (draftName key) (fileName key) =
      .ok (f.saved key text) := by
    refine Disk.moveOver_of_free hread (h.child_file hfolder) ?_
    rw [get?_drafted, if_neg (filePath_ne_draftPath f key h.valid)]
    exact h.file
  refine ⟨f.saved key text, ?_, f.get?_saved key text⟩
  rw [save, if_pos h.valid, hwrite]
  dsimp only
  rw [hmove]

/-- A load finds what the file says, and **changes nothing**. -/
theorem load_of_clear (h : Clear f key) {found : Option String}
    (hfound : f.disk.get? (f.filePath key) = found.map fun text => .file text.toUTF8) :
    f.load key = (.ok found, f) := by
  rw [load, if_pos h.valid, Disk.read, h.child_file h.folder, hfound]
  cases found with
  | none => rfl
  | some text =>
    have htext : String.fromUTF8? text.toUTF8 = some text := by
      rw [String.fromUTF8?, String.toUTF8_eq_toByteArray, dif_pos text.isValidUTF8]
      rfl
    simp only [Option.map_some, htext]

/-- A delete takes the file away, if it is there, and **touches nothing else**. -/
theorem delete_of_clear (h : Clear f key) :
    ∃ disk, f.delete key = (.ok (), { f with disk }) ∧ ∀ p, disk.get? p =
      if p = f.filePath key then none else f.disk.get? p := by
  have hfile : f.filePath key ≠ [] := by simp [filePath]
  have hfree := h.file
  rw [delete, if_pos h.valid, Disk.unlink, h.child_file h.folder]
  cases hfound : f.disk.get? (f.filePath key) with
  | none =>
    refine ⟨f.disk, rfl, ?_⟩
    intro p
    split
    case isTrue hp => rw [hp, hfound]
    case isFalse => rfl
  | some node =>
    cases node with
    | folder => exact absurd hfound hfree
    | file content => exact ⟨f.disk.erase (f.filePath key), rfl, fun p => Disk.get?_erase hfile⟩

end Clear

/-! ### Mirrors -/

/-- The file that a folder has at a path below it when it **shows** texts: the text of a key under
the name of its file, and nothing under any other. -/
def Shows (texts : Texts) (below : Path) (node : Node) : Prop :=
  ∃ key text, texts key = some text ∧ below = [fileName key] ∧ node = .file text.toUTF8

/-- A folder **mirrors** a memory that is switched on: it is there, and what is below it is what the
memory holds. -/
structure Mirrors (f : Folder) (m : Memory) : Prop where
  available : m.available = true
  folder : f.disk.get? f.base = some .folder
  shows : ∀ below node, below ≠ [] →
    (f.disk.get? (f.base ++ below) = some node ↔ Shows m.texts.get? below node)

namespace Mirrors

variable {f : Folder} {m : Memory} {key : String}

/-- The file of a key holds **its text**. -/
theorem file (h : Mirrors f m) (key : String) :
    f.disk.get? (f.filePath key) = (m.texts.get? key).map fun text => .file text.toUTF8 := by
  cases hnode : f.disk.get? (f.filePath key) with
  | some node =>
    obtain ⟨other, text, htext, hname, rfl⟩ := (h.shows [fileName key] node (by simp)).1 hnode
    obtain rfl := fileName_injective (List.singleton_inj.1 hname)
    rw [htext]
    rfl
  | none =>
    cases htext : m.texts.get? key with
    | none => rfl
    | some text =>
      have hthere := (h.shows [fileName key] (.file text.toUTF8) (by simp)).2
        ⟨key, text, htext, rfl, rfl⟩
      rw [filePath, hthere] at hnode
      cases hnode

/-- There is **no draft**, of whatever key. -/
theorem no_draft (h : Mirrors f m) (stem : String) :
    f.disk.get? (f.base ++ [stem ++ ".tmp"]) = none := by
  cases hnode : f.disk.get? (f.base ++ [stem ++ ".tmp"]) with
  | none => rfl
  | some node =>
    obtain ⟨key, text, -, hname, -⟩ := (h.shows [stem ++ ".tmp"] node (by simp)).1 hnode
    exact absurd (List.singleton_inj.1 hname).symm (fileName_ne_append_tmp key stem)

/-- In a folder that mirrors a memory **nothing is in the way**. -/
theorem clear (h : Mirrors f m) (hkey : isKey key = true)
    (hshort : key.utf8ByteSize ≤ maxKeyBytes) : Clear f key where
  valid := hkey
  short := hshort
  folder := h.folder
  file := by
    rw [h.file key]
    cases m.texts.get? key with
    | none => rintro ⟨⟩
    | some text => rintro ⟨⟩
  draft := by
    rw [draftPath, draftName_eq hkey, h.no_draft]
    rintro ⟨⟩

/-- After a change to **one key** the folder mirrors the memory with that change. -/
theorem update (h : Mirrors f m) {disk : Disk} {m' : Memory} {value : Option String}
    (havailable : m'.available = true)
    (htexts : m'.texts.get? = Function.update m.texts.get? key value)
    (hfile : disk.get? (f.filePath key) = value.map fun text => .file text.toUTF8)
    (hothers : ∀ p, p ≠ f.filePath key → disk.get? p = f.disk.get? p) :
    Mirrors { f with disk } m' where
  available := havailable
  folder := (hothers _ (base_ne_append f _)).trans h.folder
  shows below node hbelow := by
    change disk.get? (f.base ++ below) = some node ↔ _
    rw [htexts]
    by_cases hpath : below = [fileName key]
    · subst hpath
      rw [← filePath, hfile]
      constructor
      · intro hnode
        obtain ⟨text, rfl, rfl⟩ := Option.map_eq_some_iff.1 hnode
        exact ⟨key, text, Function.update_self .., rfl, rfl⟩
      · rintro ⟨other, text, htext, hname, rfl⟩
        obtain rfl := fileName_injective (List.singleton_inj.1 hname)
        rw [Function.update_self] at htext
        rw [htext]
        rfl
    · have hne : f.base ++ below ≠ f.filePath key := fun heq => hpath (List.append_cancel_left heq)
      rw [hothers _ hne, h.shows below node hbelow]
      have hother {other : String} (hname : below = [fileName other]) : other ≠ key := by
        rintro rfl
        exact hpath hname
      constructor
      · rintro ⟨other, text, htext, hname, hnode⟩
        exact ⟨other, text, by rw [Function.update_of_ne (hother hname), htext], hname, hnode⟩
      · rintro ⟨other, text, htext, hname, hnode⟩
        rw [Function.update_of_ne (hother hname)] at htext
        exact ⟨other, text, htext, hname, hnode⟩

/-- A folder that mirrors a memory gives the **same answer**, and mirrors it afterwards. -/
theorem answer (h : Mirrors f m) (request : Request) (hkey : isKey request.key = true)
    (hshort : request.key.utf8ByteSize ≤ maxKeyBytes) :
    (Store.answer f request).1 = (Store.answer m request).1 ∧
      Mirrors (Store.answer f request).2 (Store.answer m request).2 := by
  cases request with
  | save key text =>
    have hclear : Clear f key := h.clear hkey hshort
    obtain ⟨disk, hsave, hdisk⟩ := save_of_clear hclear text
    have hsaved : Store.save m key text = (.ok (), { m with texts := m.texts.put key text }) :=
      if_pos h.available
    change Store.save f key text = _ at hsave
    rw [Store.answer, Store.answer, hsave, hsaved]
    refine ⟨rfl, h.update h.available (Memory.get?_put_eq m.texts key text) ?_ ?_⟩
    · rw [hdisk, if_pos rfl]
      rfl
    · intro p hp
      rw [hdisk, if_neg hp]
      split
      case isTrue hdraft =>
        rw [hdraft, draftPath, draftName_eq hclear.valid, h.no_draft]
      case isFalse => rfl
  | load key =>
    have hclear : Clear f key := h.clear hkey hshort
    have hload := load_of_clear hclear (h.file key)
    have hloaded : Store.load m key = (.ok (m.texts.get? key), m) := if_pos h.available
    change Store.load f key = _ at hload
    rw [Store.answer, Store.answer, hload, hloaded]
    exact ⟨rfl, h⟩
  | delete key =>
    have hclear : Clear f key := h.clear hkey hshort
    obtain ⟨disk, hdelete, hdisk⟩ := delete_of_clear hclear
    have hdeleted : Store.delete m key = (.ok (), { m with texts := m.texts.erase key }) :=
      if_pos h.available
    change Store.delete f key = _ at hdelete
    rw [Store.answer, Store.answer, hdelete, hdeleted]
    refine ⟨rfl, h.update h.available (Memory.get?_erase_eq m.texts key) ?_ ?_⟩
    · rw [hdisk, if_pos rfl]
      rfl
    · intro p hp
      rw [hdisk, if_neg hp]

/-- The same answers, however many requests there are. -/
theorem serve (h : Mirrors f m) {requests : List Request}
    (hkeys : ∀ request ∈ requests,
      isKey request.key = true ∧ request.key.utf8ByteSize ≤ maxKeyBytes) :
    (Store.serve f requests).1 = (Store.serve m requests).1 ∧
      Mirrors (Store.serve f requests).2 (Store.serve m requests).2 := by
  induction requests generalizing f m with
  | nil => exact ⟨rfl, h⟩
  | cons request requests ih =>
    obtain ⟨hkey, hshort⟩ := hkeys request List.mem_cons_self
    obtain ⟨hanswer, hmirrors⟩ := h.answer request hkey hshort
    obtain ⟨hothers, hlast⟩ := ih hmirrors fun other hother =>
      hkeys other (List.mem_cons_of_mem request hother)
    exact ⟨List.cons_eq_cons.2 ⟨hanswer, hothers⟩, hlast⟩

end Mirrors

/-- A folder with nothing in it mirrors a **new** memory. -/
theorem mirrors_of_empty {f : Folder} (hfolder : f.disk.get? f.base = some .folder)
    (hempty : ∀ below, below ≠ [] → f.disk.get? (f.base ++ below) = none) : Mirrors f {} where
  available := rfl
  folder := hfolder
  shows below node hbelow := by
    rw [hempty below hbelow]
    exact iff_of_false nofun (fun ⟨_, _, htext, _⟩ => nomatch htext)

/-- **A folder mirrors a memory.** An empty folder and a new memory are asked the same, in the same
order, about keys that are valid and not too long. They give the same answers. Afterwards there is,
below the folder, the file of each key that the memory holds, with its text, and nothing else; so no
draft is left behind. -/
theorem folder_mirrors_memory (f : Folder) (requests : List Request)
    (hfolder : f.disk.get? f.base = some .folder)
    (hempty : ∀ below, below ≠ [] → f.disk.get? (f.base ++ below) = none)
    (hkeys : ∀ request ∈ requests, isKey request.key = true ∧ request.key.utf8ByteSize ≤ 247) :
    let served := Store.serve f requests
    let remembered := Store.serve ({} : Memory) requests
    served.1 = remembered.1 ∧
    (∀ below node, below ≠ [] →
      (served.2.disk.get? (served.2.base ++ below) = some node ↔
        ∃ key text, remembered.2.texts.get? key = some text ∧ below = [key ++ ".sav"] ∧
          node = .file text.toUTF8)) ∧
    ∀ stem, served.2.disk.get? (served.2.base ++ [stem ++ ".tmp"]) = none := by
  intro served remembered
  obtain ⟨hanswers, hmirrors⟩ := (mirrors_of_empty hfolder hempty).serve hkeys
  refine ⟨hanswers, ?_, hmirrors.no_draft⟩
  intro below node hbelow
  rw [hmirrors.shows below node hbelow]
  simp only [Shows, fileName_eq]
  rfl

/-- Keys of dots and dashes, one of them the beginning of another: a folder that was just made and a
new memory answer alike, and one file is left. -/
theorem folder_mirrors_memory_dotted_keys :
    let requests : List Request :=
      [.save "a" "one", .save "a.sav" "two", .save "a" "", .load "a..-", .delete "a.sav", .load "a"]
    ∃ f, openAt {} ["saves"] "saves" = .ok f ∧
      let served := Store.serve f requests
      served.1 = (Store.serve ({} : Memory) requests).1 ∧
      served.2.disk.get? (served.2.base ++ ["a.sav"]) = some (.file "".toUTF8) ∧
      ∀ stem, served.2.disk.get? (served.2.base ++ [stem ++ ".tmp"]) = none := by
  intro requests
  let f : Folder := ⟨({} : Disk).put ["saves"] .folder, ["saves"], "saves"⟩
  have hempty : ∀ below, below ≠ [] → f.disk.get? (f.base ++ below) = none := by
    intro below hbelow
    have hne : ["saves"] ++ below ≠ ["saves"] := by simpa using hbelow
    rw [Disk.get?_put (by decide), if_neg hne]
    rfl
  have hkeys : ∀ request ∈ requests,
      isKey request.key = true ∧ request.key.utf8ByteSize ≤ 247 := by decide
  have htext : (Store.serve ({} : Memory) requests).2.texts.get? "a" = some "" := by decide
  obtain ⟨hanswers, hfiles, hdrafts⟩ := folder_mirrors_memory f requests rfl hempty hkeys
  have hfile := (hfiles ["a.sav"] _ (List.cons_ne_nil _ _)).2 ⟨"a", "", htext, rfl, rfl⟩
  exact ⟨f, rfl, hanswers, hfile, hdrafts⟩

end Store.Folder

end Guildkeep
