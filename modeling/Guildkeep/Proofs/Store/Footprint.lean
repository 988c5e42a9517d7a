import Guildkeep.Proofs.Disk.Tree
import Guildkeep.Proofs.Store.Files

/-!
# Footprints

Which names in which folder an operation on files may touch. Whatever it does to them, no other path
is touched, and no folder comes or goes; so a tree stays a tree, and every written path that leads
to a folder still leads there.

## Main results

* `Touches.isTree`: a **tree** stays a tree.
* `Touches.readNearest?_eq`: a file that is not touched is **found** as before.
* `Folder.touches_save`, `Folder.touches_delete`: the names that belong to the key of a request.
-/

namespace Guildkeep

namespace Disk

variable {d d' d'' : Disk} {folder : Path} {name : String} {names more : List String}

/-- A disk on which at most the files of some **names** in a folder have changed. -/
structure Touches (folder : Path) (names : List String) (d d' : Disk) : Prop where
  /-- Any other path leads to what it led to. -/
  others : ∀ p, (∀ name ∈ names, p ≠ folder ++ [name]) → d'.get? p = d.get? p
  /-- No folder comes or goes. -/
  folders : ∀ p, d'.get? p = some .folder ↔ d.get? p = some .folder
  /-- What is not there holds no files. -/
  inside : d.get? folder = some .folder ∨ d' = d

namespace Touches

/-- What stays as it is is **not touched**. -/
theorem refl (folder : Path) (names : List String) (d : Disk) : Touches folder names d d where
  others := fun _ _ => rfl
  folders := fun _ => Iff.rfl
  inside := .inr rfl

/-- What is touched, and touched again, is **touched**. -/
theorem trans (h : Touches folder names d d') (h' : Touches folder names d' d'') :
    Touches folder names d d'' where
  others p hp := (h'.others p hp).trans (h.others p hp)
  folders p := (h'.folders p).trans (h.folders p)
  inside := by
    rcases h'.inside with hfolder | rfl
    · exact .inl ((h.folders folder).1 hfolder)
    · exact h.inside

/-- What touches some names touches **more names** at most. -/
theorem mono (h : Touches folder names d d') (hnames : names ⊆ more) :
    Touches folder more d d' where
  others p hp := h.others p fun name hname => hp name (hnames hname)
  folders := h.folders
  inside := h.inside

/-- A **tree** stays a tree. -/
theorem isTree (h : Touches folder names d d') (htree : d.IsTree) : d'.IsTree := by
  intro q name hthere
  rw [h.folders]
  by_cases htouched : ∀ touched ∈ names, q ++ [name] ≠ folder ++ [touched]
  · rw [h.others _ htouched] at hthere
    exact htree q name hthere
  · push Not at htouched
    obtain ⟨touched, -, hpath⟩ := htouched
    obtain ⟨rfl, -⟩ := List.append_inj' hpath rfl
    rcases h.inside with hfolder | rfl
    · exact hfolder
    · exact htree q name hthere

end Touches

/-! ### Operations -/

/-- To set a file where no folder has its name is to touch **its name**. -/
theorem touches_put (hfolder : d.get? folder = some .folder)
    (hfree : d.get? (folder ++ [name]) ≠ some .folder) (content : ByteArray) :
    Touches folder [name] d (d.put (folder ++ [name]) (.file content)) where
  others p hp := by
    rw [get?_put (List.concat_ne_nil _ _), if_neg (hp name (List.mem_singleton_self name))]
  folders p := by
    rw [get?_put (List.concat_ne_nil _ _)]
    split
    case isTrue hp =>
      rw [hp]
      exact iff_of_false (by rintro ⟨⟩) hfree
    case isFalse => exact Iff.rfl
  inside := .inl hfolder

/-- To take away what is no folder is to touch **its name**. -/
theorem touches_erase (hfolder : d.get? folder = some .folder)
    (hfree : d.get? (folder ++ [name]) ≠ some .folder) :
    Touches folder [name] d (d.erase (folder ++ [name])) where
  others p hp := by
    rw [get?_erase (List.concat_ne_nil _ _), if_neg (hp name (List.mem_singleton_self name))]
  folders p := by
    rw [get?_erase (List.concat_ne_nil _ _)]
    split
    case isTrue hp =>
      rw [hp]
      exact iff_of_false (by rintro ⟨⟩) hfree
    case isFalse => exact Iff.rfl
  inside := .inl hfolder

/-- A write touches the **name that is written**. -/
theorem touches_write {content : ByteArray} (h : d.write folder name content = .ok d') :
    Touches folder [name] d d' := by
  obtain ⟨node, hchild, hfree⟩ := free_of_write h
  obtain ⟨hfolder, -, rfl⟩ := child_eq_ok_iff.1 hchild
  rw [write_eq_ok h]
  exact touches_put hfolder hfree content

/-- A file can be read if it **is there** under a name that is short enough. -/
theorem read_eq_ok_iff {content : ByteArray} :
    d.read folder name = .ok content ↔ d.get? folder = some .folder ∧
      name.utf8ByteSize ≤ maxNameBytes ∧ d.get? (folder ++ [name]) = some (.file content) := by
  constructor
  · intro h
    refine and_assoc.1 ⟨?_, read_eq_ok h⟩
    rw [read] at h
    split at h
    · cases h
    · cases h
    · cases h
    case h_4 hchild =>
      obtain ⟨hfolder, hshort, -⟩ := child_eq_ok_iff.1 hchild
      exact ⟨hfolder, hshort⟩
  · rintro ⟨hfolder, hshort, hfile⟩
    rw [read, child_eq_ok_iff.2 ⟨hfolder, hshort, hfile.symm⟩]

/-- A move touches the **two names**. -/
theorem touches_moveOver {source target : String} (h : d.moveOver folder source target = .ok d') :
    Touches folder [source, target] d d' := by
  obtain ⟨node, hchild, hfree⟩ := free_of_moveOver h
  obtain ⟨hfolder, -, rfl⟩ := child_eq_ok_iff.1 hchild
  obtain ⟨content, hread, rfl⟩ := moveOver_eq_ok h
  have hsource : d.get? (folder ++ [source]) ≠ some .folder := by
    rw [read_eq_ok hread]
    rintro ⟨⟩
  have herase := touches_erase hfolder hsource
  refine (herase.mono (by simp)).trans ((touches_put ?_ ?_ content).mono (by simp))
  · exact (herase.folders folder).2 hfolder
  · exact fun htarget => hfree ((herase.folders _).1 htarget)

/-- An unlink touches the **name that is unlinked**. -/
theorem touches_unlink (h : d.unlink folder name = .ok d') : Touches folder [name] d d' := by
  rw [unlink_eq_ok h]
  rw [unlink] at h
  split at h
  · cases h
  · cases h
  · cases h
  case h_4 content hchild =>
    obtain ⟨hfolder, -, hfile⟩ := child_eq_ok_iff.1 hchild
    refine touches_erase hfolder ?_
    rw [← hfile]
    rintro ⟨⟩

/-- A file of a name that is not touched is **found as before**, from wherever it is looked for. -/
theorem Touches.readNearest?_eq (h : Touches folder names d d') (hname : name ∉ names)
    (working : Path) : d'.readNearest? working name = d.readNearest? working name := by
  have hread (around : Path) (content : ByteArray) :
      d'.read around name = .ok content ↔ d.read around name = .ok content := by
    rw [read_eq_ok_iff, read_eq_ok_iff, h.folders, h.others]
    rintro other hother heq
    obtain ⟨-, hsame⟩ := List.append_inj' heq rfl
    exact hname (List.singleton_inj.1 hsame ▸ hother)
  have hfound : (fun around => (d'.read around name).toOption) =
      fun around => (d.read around name).toOption := by
    funext around
    cases hbefore : d.read around name with
    | ok content => rw [(hread around content).2 hbefore]
    | error why =>
      cases hafter : d'.read around name with
      | error why => rfl
      | ok content =>
        rw [(hread around content).1 hafter] at hbefore
        cases hbefore
  rw [readNearest?, readNearest?, hfound]
  exact if_congr (h.folders working) rfl rfl

end Disk

namespace Store.Folder

variable {f : Folder} {key text : String}

/-- A **save** touches the file of its key and the draft. -/
theorem touches_save (f : Folder) (key text : String) :
    Disk.Touches f.base [fileName key, draftName key] f.disk (f.save key text).2.disk := by
  rw [save]
  split
  case isFalse => exact .refl _ _ _
  case isTrue =>
    split
    case h_1 => exact .refl _ _ _
    case h_2 drafted hwrite =>
      have hdraft : Disk.Touches f.base [fileName key, draftName key] f.disk drafted :=
        (Disk.touches_write hwrite).mono (by simp)
      split
      case h_1 => exact hdraft
      case h_2 moved hmove => exact hdraft.trans ((Disk.touches_moveOver hmove).mono (by simp))

/-- A **delete** touches the file of its key. -/
theorem touches_delete (f : Folder) (key : String) :
    Disk.Touches f.base [fileName key] f.disk (f.delete key).2.disk := by
  rw [delete]
  split
  case isFalse => exact .refl _ _ _
  case isTrue =>
    split
    case h_1 => exact .refl _ _ _
    case h_2 => exact .refl _ _ _
    case h_3 disk hunlink => exact Disk.touches_unlink hunlink

/-- A request leaves a folder **where it is**. -/
theorem Served.location_eq {f' : Folder} {request : Request} {error : Option Error}
    (h : Served f request error f') : f'.location = f.location := by
  cases h with
  | noKey | refused | drafted | saved | loaded | deleted | absent => rfl

end Store.Folder

end Guildkeep
