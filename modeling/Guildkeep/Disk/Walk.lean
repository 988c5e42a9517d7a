import Guildkeep.Disk.Basic

/-!
# Paths as Texts

A path is written as names between slashes. One that starts with a slash counts from the root, any
other from the working folder; a single dot stays and a double dot goes up. Every slash after a name
asks for a folder, so `a/` does not lead to a file `a`. A text that has a NUL or too many bytes is
no path at all.
-/

namespace Guildkeep

namespace Disk

/-- What is wrong with how a path is **written**, wherever it leads. -/
def misspelt? (text : String) : Option Fault :=
  if text.toList.contains '\x00' then some .nulInName
  else if maxPathBytes < text.utf8ByteSize then some .nameTooLong
  else none

/-- The **parts** of a written path, between its slashes. -/
def parts (text : String) : List String :=
  (text.toList.splitOn '/').map String.ofList

/-- Follows the parts of a written path from where one stands. -/
def walk (d : Disk) (here : Path) : List String → Option Path
  | [] => some here
  | part :: rest =>
    if d.get? here = some .folder then
      if part = "" ∨ part = "." then d.walk here rest
      else if part = ".." then d.walk here.dropLast rest
      else if (d.get? (here ++ [part])).isSome then d.walk (here ++ [part]) rest
      else none
    else none

/-- Where a written path **leads**, if there is something. The empty text leads nowhere. -/
def resolve? (d : Disk) (working : Path) (text : String) : Option Path :=
  if text = "" ∨ (misspelt? text).isSome then none
  else if text.toList.head? = some '/' then d.walk [] (parts text)
  else d.walk working (parts text)

/-- The last part of a written path, slashes at its end aside. -/
def lastPart (text : String) : String :=
  ((parts text).filter (· ≠ "")).getLast?.getD ""

/-- Removes a folder with all that is in it, given how it is written and where that leads. A folder
written as a dot, or as two, is emptied and stays. -/
def removeAll (d : Disk) (working : Path) (text : String) : Except Fault Unit × Disk :=
  match d.resolve? working text with
  | none => (.error .missing, d)
  | some p =>
    match d.get? p with
    | some .folder =>
      let emptied := d.eraseBelow p
      match lastPart text with
      | "." => (.error .invalid, emptied)
      | ".." =>
        (.error (if (emptied.resolve? working text).isSome then .notEmpty else .missing), emptied)
      | _ => (.ok (), emptied.erase p)
    | _ => (.error .notFolder, d)

/-! ### Searching outward -/

/-- A folder and those **around** it, from the inside out. -/
def outward (p : Path) : List Path :=
  (List.range (p.length + 1)).map fun up => p.take (p.length - up)

/-- The content of the **nearest** file of a name: of the one in a folder or else of the one in the
next folder around it that has one. Around a folder that is not there nothing is searched. -/
def readNearest? (d : Disk) (folder : Path) (name : String) : Option ByteArray :=
  if d.get? folder = some .folder then
    (outward folder).findSome? fun around => (d.read around name).toOption
  else none

/-! ### Extensions -/

/-- The **stem** of a name: what stands before its last dot. A name without a dot is all stem, one
whose only dot is in front likewise, and so are the two dots. -/
def stem (name : String) : String :=
  if name = ".." then name
  else match name.toList.reverse.dropWhile (· ≠ '.') with
    | [] | [_] => name
    | _ :: before => String.ofList before.reverse

/-- A name with another **extension** behind its stem, in place of the one that it may have. -/
def withExtension (name extension : String) : String :=
  if extension = "" then stem name else stem name ++ "." ++ extension

/-- What stands before the last dot is the stem, if there is something on **both sides** of it. -/
theorem stem_append {before after : String} (hbefore : before ≠ "") (hafter : after ≠ "")
    (hplain : '.' ∉ after.toList) : stem (before ++ "." ++ after) = before := by
  have hlist : (before ++ "." ++ after).toList = before.toList ++ '.' :: after.toList := by
    rw [String.toList_append, String.toList_append, List.append_assoc]
    rfl
  have hdots : before ++ "." ++ after ≠ ".." := by
    intro h
    have hlength := congrArg List.length (hlist.symm.trans (congrArg String.toList h))
    have hfirst := List.length_pos_iff.2 (mt String.toList_eq_nil_iff.1 hbefore)
    have hlast := List.length_pos_iff.2 (mt String.toList_eq_nil_iff.1 hafter)
    rw [List.length_append, List.length_cons] at hlength
    have htwo : "..".toList.length = 2 := rfl
    omega
  have hdrop : (before ++ "." ++ after).toList.reverse.dropWhile (· ≠ '.') =
      '.' :: before.toList.reverse := by
    rw [hlist, List.reverse_append, List.reverse_cons, List.append_assoc,
      List.dropWhile_append_of_pos]
    · rfl
    · intro c hc
      refine decide_eq_true fun h => hplain ?_
      rw [← h]
      exact List.mem_reverse.1 hc
  rw [stem, if_neg hdots, hdrop]
  cases hreverse : before.toList.reverse with
  | nil => exact absurd (String.toList_eq_nil_iff.1 (List.reverse_eq_nil_iff.1 hreverse)) hbefore
  | cons c others =>
    change String.ofList (c :: others).reverse = before
    rw [← hreverse, List.reverse_reverse, String.ofList_toList]

/-- Another extension takes the place of what stands **behind the last dot**. -/
theorem withExtension_append {before after : String} (hbefore : before ≠ "") (hafter : after ≠ "")
    (hplain : '.' ∉ after.toList) {extension : String} (hextension : extension ≠ "") :
    withExtension (before ++ "." ++ after) extension = before ++ "." ++ extension := by
  rw [withExtension, if_neg hextension, stem_append hbefore hafter hplain]

end Disk

end Guildkeep
