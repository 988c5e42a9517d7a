import Guildkeep.Proofs.Store.Mirror
import Mathlib.Data.Char
import Mathlib.Data.List.Basic
import Mathlib.Data.Set.Insert
import Mathlib.Order.Interval.Set.Defs
import Mathlib.Tactic.Push
import Mathlib.Tactic.Tauto

/-!
# A Folder Is Confined

Whatever is asked of a store of files, under whatever key, and whatever is in its way: no more than
the file of the key and its draft are touched, and the file of a key is there as it was or holds the
whole text that was saved.

## Conventions

The disk is any disk at all. The folder of the store may be missing, and any name in it may be that
of a file or of a folder. What a disk holds is compared path by path.

## Main results

* `isKey_eq_false_iff`: which texts are **no keys**.
* `Served`: all that a **request** can come to, and `answer_served`: every request comes to it.
* `names_disjoint`: no two keys **share a name**.
* `accesses_confined`: what a request touches, and what it leaves alone.
-/

namespace Guildkeep

/-! ### Operations that succeeded -/

namespace Disk

variable {d d' : Disk} {folder : Path} {name : String}

/-- A write that succeeds sets **one entry**. -/
theorem write_eq_ok {content : ByteArray} (h : d.write folder name content = .ok d') :
    d' = d.put (folder ++ [name]) (.file content) := by
  rw [write] at h
  split at h
  · cases h
  · cases h
  · exact (Except.ok.inj h).symm

/-- An unlink that succeeds takes **one entry** away. -/
theorem unlink_eq_ok (h : d.unlink folder name = .ok d') : d' = d.erase (folder ++ [name]) := by
  rw [unlink] at h
  split at h
  · cases h
  · cases h
  · cases h
  · exact (Except.ok.inj h).symm

/-- What was **moved** is under its new name what it was under the old one. -/
theorem moveOver_eq_ok {source target : String} (h : d.moveOver folder source target = .ok d') :
    ∃ content, d.read folder source = .ok content ∧
      d' = (d.erase (folder ++ [source])).put (folder ++ [target]) (.file content) := by
  rw [moveOver] at h
  split at h
  · cases h
  case h_2 content hread =>
    split at h
    · cases h
    · cases h
    · exact ⟨content, hread, (Except.ok.inj h).symm⟩

/-- What is read is **what the file holds**. -/
theorem read_eq_ok {content : ByteArray} (h : d.read folder name = .ok content) :
    d.get? (folder ++ [name]) = some (.file content) := by
  rw [read] at h
  split at h
  · cases h
  · cases h
  · cases h
  case h_4 found hchild =>
    rw [← Except.ok.inj h]
    exact (child_eq_ok_iff.1 hchild).2.2.symm

end Disk

namespace Store

/-- The error in an answer, if there is one. -/
def Answer.error? : Answer → Option Error
  | .done (.error why) | .found (.error why) => some why
  | .done (.ok _) | .found (.ok _) => none

namespace Folder

/-! ### Keys -/

/-- The characters that keys are made of. -/
def keyChars : Set Char :=
  Set.Icc 'A' 'Z' ∪ Set.Icc 'a' 'z' ∪ Set.Icc '0' '9' ∪ {'.', '_', '-'}

/-- The check for a character of a key is passed by **those characters** alone. -/
theorem isKeyChar_iff (c : Char) : isKeyChar c = true ↔ c ∈ keyChars := by
  simp only [isKeyChar, keyChars, Bool.or_eq_true, Bool.and_eq_true, decide_eq_true_eq, beq_iff_eq,
    Set.mem_union, Set.mem_Icc, Set.mem_insert_iff, Set.mem_singleton_iff]
  tauto

/-- A text is **no key** if it is empty, has a dot in front or has another character in it. -/
theorem isKey_eq_false_iff (key : String) :
    isKey key = false ↔
      key = "" ∨ key.toList.head? = some '.' ∨ ∃ c ∈ key.toList, c ∉ keyChars := by
  rw [← Bool.not_eq_true, isKey]
  simp only [Bool.and_eq_true, decide_eq_true_eq, List.all_eq_true, isKeyChar_iff, ne_eq,
    String.toList_eq_nil_iff]
  push Not
  tauto

/-! ### Names -/

/-- The **names** that belong to a key: that of its file and that of its draft. -/
def names (key : String) : List String :=
  [key ++ ".sav", key ++ ".sav.tmp"]

/-- No two keys **share a name**. -/
theorem names_disjoint {a b : String} (h : a ≠ b) : (names a).Disjoint (names b) := by
  have hfile : fileName a ≠ fileName b := fun heq => h (fileName_injective heq)
  have hdraft (key : String) : key ++ ".sav.tmp" = fileName key ++ ".tmp" := by
    rw [fileName_eq, String.append_assoc]
    rfl
  intro name ha hb
  simp only [names, ← fileName_eq, hdraft, List.mem_cons, List.not_mem_nil, or_false] at ha hb
  rcases ha with rfl | rfl
  · rcases hb with hb | hb
    · exact hfile hb
    · exact fileName_ne_append_tmp a _ hb
  · rcases hb with hb | hb
    · exact fileName_ne_append_tmp b _ hb.symm
    · exact hfile ((String.append_left_inj _).1 hb)

/-! ### All that a request can come to -/

/-- All that a **request** can come to: the error, if there is one, and the folder afterwards. -/
inductive Served (f : Folder) : Request → Option Error → Folder → Prop where
  /-- Under a text that is no key there is nothing to be had. -/
  | noKey (request : Request) (invalid : isKey request.key = false) :
      Served f request (some (.invalidKey request.key)) f
  /-- The disk refuses before anything is changed. -/
  | refused (request : Request) (valid : isKey request.key = true) (why : Disk.Fault) :
      Served f request (some (.io why)) f
  /-- The draft is written, and cannot be moved. -/
  | drafted {key text : String} (valid : isKey key = true) (why : Disk.Fault) :
      Served f (.save key text) (some (.io why)) { f with disk := f.drafted key text }
  /-- The draft is moved into place. -/
  | saved {key text : String} (valid : isKey key = true) :
      Served f (.save key text) none { f with disk := f.saved key text }
  | loaded {key : String} (valid : isKey key = true) : Served f (.load key) none f
  | deleted {key : String} (valid : isKey key = true) :
      Served f (.delete key) none { f with disk := f.disk.erase (f.filePath key) }
  /-- There is no file to delete. -/
  | absent {key : String} (valid : isKey key = true) : Served f (.delete key) none f

/-- All that a **save** can come to. -/
theorem served_save (f : Folder) (key text : String) :
    Served f (.save key text) (Answer.done (f.save key text).1).error? (f.save key text).2 := by
  rw [save]
  split
  case isFalse hkey => exact .noKey (.save key text) (Bool.eq_false_of_not_eq_true hkey)
  case isTrue hkey =>
    split
    case h_1 why _ => exact .refused (.save key text) hkey why
    case h_2 drafted hwrite =>
      obtain rfl : drafted = f.drafted key text := Disk.write_eq_ok hwrite
      split
      case h_1 why _ => exact .drafted hkey why
      case h_2 moved hmove =>
        obtain ⟨content, hread, rfl⟩ := Disk.moveOver_eq_ok hmove
        -- The draft still holds the text that was written to it.
        have hcontent := Disk.read_eq_ok hread
        rw [← draftPath, get?_drafted, if_pos rfl, Option.some.injEq, Node.file.injEq] at hcontent
        rw [← hcontent]
        exact .saved hkey

/-- All that a **load** can come to. -/
theorem served_load (f : Folder) (key : String) :
    Served f (.load key) (Answer.found (f.load key).1).error? (f.load key).2 := by
  rw [load]
  split
  case isFalse hkey => exact .noKey (.load key) (Bool.eq_false_of_not_eq_true hkey)
  case isTrue hkey =>
    split
    case h_1 => exact .loaded hkey
    case h_2 why _ _ => exact .refused (.load key) hkey why
    case h_3 =>
      split
      · exact .loaded hkey
      · exact .refused (.load key) hkey .notText

/-- All that a **delete** can come to. -/
theorem served_delete (f : Folder) (key : String) :
    Served f (.delete key) (Answer.done (f.delete key).1).error? (f.delete key).2 := by
  rw [delete]
  split
  case isFalse hkey => exact .noKey (.delete key) (Bool.eq_false_of_not_eq_true hkey)
  case isTrue hkey =>
    split
    case h_1 => exact .absent hkey
    case h_2 why _ _ => exact .refused (.delete key) hkey why
    case h_3 disk hunlink =>
      rw [Disk.unlink_eq_ok hunlink]
      exact .deleted hkey

/-- **Every request** comes to one of these. -/
theorem answer_served (f : Folder) (request : Request) :
    Served f request (answer f request).1.error? (answer f request).2 := by
  cases request with
  | save key text => exact f.served_save key text
  | load key => exact f.served_load key
  | delete key => exact f.served_delete key

namespace Served

variable {f f' : Folder} {request : Request} {error : Option Error} {key text : String}

/-- A request is turned away exactly for a text that is **no key**, and then nothing is touched. -/
theorem invalidKey_iff (h : Served f request error f') :
    error = some (.invalidKey request.key) ↔ isKey request.key = false := by
  cases h with
  | noKey _ invalid => exact iff_of_true rfl invalid
  | refused _ valid => exact iff_of_false (fun herror => nomatch herror) (Bool.ne_false_iff.2 valid)
  | drafted valid | saved valid | loaded valid | deleted valid | absent valid =>
    exact iff_of_false (fun herror => nomatch herror) (Bool.ne_false_iff.2 valid)

/-- A request under what is no key **touches nothing**. -/
theorem eq_of_invalidKey (h : Served f request error f')
    (herror : error = some (.invalidKey request.key)) : f' = f := by
  cases h with
  | noKey | refused | loaded | absent => rfl
  | drafted | saved | deleted => cases herror

/-- No path is touched but those of the file and of the draft of the **key**. -/
theorem get?_of_ne (h : Served f request error f') {p : Path} (hfile : p ≠ f.filePath request.key)
    (hdraft : isKey request.key = true → p ≠ f.draftPath request.key) :
    f'.disk.get? p = f.disk.get? p := by
  cases h with
  | noKey | refused | loaded | absent => rfl
  | drafted valid => exact (f.get?_drafted _ _ p).trans (if_neg (hdraft valid))
  | saved valid => exact (f.get?_saved _ _ p).trans ((if_neg hfile).trans (if_neg (hdraft valid)))
  | deleted => exact (Disk.get?_erase (List.concat_ne_nil _ _)).trans (if_neg hfile)

/-- A load **touches nothing**. -/
theorem eq_of_load (h : Served f request error f') (hload : request = .load key) : f' = f := by
  subst hload
  cases h with
  | noKey | refused | loaded => rfl

/-- A save leaves the file **as it was**, unless it succeeds. -/
theorem file_of_save (h : Served f request error f') (hsave : request = .save key text) :
    f'.disk.get? (f.filePath key) =
      if error = none then some (.file text.toUTF8) else f.disk.get? (f.filePath key) := by
  subst hsave
  cases h with
  | noKey | refused => rfl
  | drafted valid why =>
    rw [get?_drafted, if_neg (f.filePath_ne_draftPath key valid)]
    rfl
  | saved valid =>
    rw [get?_saved, if_pos rfl]
    rfl

/-- The folder stays **where it is**. -/
theorem base_eq (h : Served f request error f') : f'.base = f.base := by
  cases h with
  | noKey | refused | drafted | saved | loaded | deleted | absent => rfl

end Served

/-! ### Every request -/

/-- **A folder is confined, and its saves are all or nothing.** Whatever the disk holds: a request
is turned away for its key exactly if that is empty, has a dot in front or has a character in it
that is not for keys, and then nothing is touched. No other path is touched than those of the file
and of the draft of the key; a load touches none. After a save the file holds the whole text, or
there was an error and it is as it was. And two keys never share a name. -/
theorem accesses_confined (f : Folder) (request : Request) :
    let key := request.key
    let error := (answer f request).1.error?
    let f' := (answer f request).2
    let file := f.base ++ [key ++ ".sav"]
    let draft := f.base ++ [key ++ ".sav.tmp"]
    (error = some (.invalidKey key) ↔
      key = "" ∨ key.toList.head? = some '.' ∨ ∃ c ∈ key.toList, c ∉ keyChars) ∧
    (error = some (.invalidKey key) → f' = f) ∧
    (f'.base = f.base ∧ ∀ p, p ≠ file → p ≠ draft → f'.disk.get? p = f.disk.get? p) ∧
    (request = .load key → f' = f) ∧
    (∀ text, request = .save key text →
      f'.disk.get? file = if error = none then some (.file text.toUTF8) else f.disk.get? file) ∧
    ∀ other, other ≠ key →
      List.Disjoint [other ++ ".sav", other ++ ".sav.tmp"] [key ++ ".sav", key ++ ".sav.tmp"] := by
  intro key error f' file draft
  have hserved : Served f request error f' := f.answer_served request
  have hfile : file = f.filePath key := by rw [filePath, fileName_eq]
  have hdraft (hvalid : isKey key = true) : draft = f.draftPath key := by
    rw [draftPath, draftName_eq_append hvalid]
  rw [hfile]
  exact ⟨hserved.invalidKey_iff.trans (isKey_eq_false_iff key), hserved.eq_of_invalidKey,
    ⟨hserved.base_eq, fun p hfile hp => hserved.get?_of_ne hfile fun hvalid => hdraft hvalid ▸ hp⟩,
    hserved.eq_of_load,
    fun text => hserved.file_of_save, fun other => names_disjoint⟩

end Folder

end Store

end Guildkeep
