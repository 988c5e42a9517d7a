import Guildkeep.Proofs.Store.Confinement

/-!
# The Texts of a Folder

A store of files is seen through the texts that can be read in it, as a store in memory is through
its table, and it has the same law: an access fails and changes no text, or it does what it is for.
A save that breaks off leaves its draft behind, but a draft is no text. A file that cannot be read
holds none either.

## Conventions

The disk is any disk at all, as for `accesses_confined`. The folder need not be there.

## Main results

* `clear_of_save`: a save succeeds only where **nothing is in its way**.
* the instance of `Viewed` for folders.
-/

namespace Guildkeep

namespace Disk

variable {d d' : Disk} {folder : Path} {name : String}

/-- Reading looks at the folder and at **one name** in it. -/
theorem read_congr (hfolder : d'.get? folder = d.get? folder)
    (hfile : d'.get? (folder ++ [name]) = d.get? (folder ++ [name])) :
    d'.read folder name = d.read folder name := by
  rw [read, read, child, child, hfolder, hfile]

/-- A file was written where no folder has its name. -/
theorem free_of_write {content : ByteArray} (h : d.write folder name content = .ok d') :
    ∃ node, d.child folder name = .ok node ∧ node ≠ some .folder := by
  rw [write] at h
  split at h
  · cases h
  · cases h
  case h_3 node hfree hchild => exact ⟨node, hchild, hfree⟩

/-- A file was moved to where no folder has its new name. -/
theorem free_of_moveOver {source target : String} (h : d.moveOver folder source target = .ok d') :
    ∃ node, d.child folder target = .ok node ∧ node ≠ some .folder := by
  rw [moveOver] at h
  split at h
  · cases h
  · split at h
    · cases h
    · cases h
    case h_3 node hfree hchild => exact ⟨node, hchild, hfree⟩

/-- What is not there to be removed is **not there to be read**. -/
theorem read_of_unlink_missing (h : d.unlink folder name = .error .missing) :
    d.read folder name = .error .missing := by
  rw [unlink] at h
  rw [read]
  split at h
  · rw [Except.error.inj h]
  · rfl
  · cases h
  · cases h

end Disk

namespace Store.Folder

variable {f f' : Folder} {request : Request} {error : Option Error} {key other text : String}

/-! ### Loads -/

/-- The text that a load **found**, if it found one. -/
def found : Except Error (Option String) → Option String
  | .ok text => text
  | .error _ => none

/-- A load looks at the folder and at the file of **its key**. -/
theorem load_congr (hbase : f'.base = f.base) (hfolder : f'.disk.get? f.base = f.disk.get? f.base)
    (hfile : f'.disk.get? (f.filePath key) = f.disk.get? (f.filePath key)) :
    (f'.load key).1 = (f.load key).1 := by
  have hread : f'.disk.read f'.base (fileName key) = f.disk.read f.base (fileName key) := by
    rw [hbase]
    exact Disk.read_congr hfolder hfile
  rw [load, load, hread]
  cases isKey key with
  | false => rfl
  | true =>
    cases f.disk.read f.base (fileName key) with
    | error why => cases why <;> rfl
    | ok content =>
      rw [if_pos rfl, if_pos rfl]
      dsimp only
      cases String.fromUTF8? content <;> rfl

/-- A load leaves the folder **as it is**. -/
theorem load_eq (f : Folder) (key : String) : f.load key = ((f.load key).1, f) :=
  Prod.ext rfl ((f.served_load key).eq_of_load rfl)

/-- A request leaves what can be loaded under **any other key**. -/
theorem Served.load_of_ne (h : Served f request error f') (hother : other ≠ request.key) :
    (f'.load other).1 = (f.load other).1 := by
  refine load_congr h.base_eq (h.get?_of_ne (base_ne_append f _) fun _ => base_ne_append f _)
    (h.get?_of_ne ?_ (f.filePath_ne_draftPath other))
  intro heq
  exact hother (fileName_injective (List.singleton_inj.1 (List.append_cancel_left heq)))

/-! ### Saves -/

/-- A save succeeds only where **nothing is in its way**. -/
theorem clear_of_save (h : (f.save key text).1 = .ok ()) : Clear f key := by
  rw [save] at h
  split at h
  case isFalse => cases h
  case isTrue hkey =>
    split at h
    case h_1 => cases h
    case h_2 drafted hwrite =>
      obtain ⟨node, hdraft, hdraftFree⟩ := Disk.free_of_write hwrite
      obtain rfl : drafted = f.drafted key text := Disk.write_eq_ok hwrite
      split at h
      case h_1 => cases h
      case h_2 moved hmove =>
        obtain ⟨target, hfile, hfileFree⟩ := Disk.free_of_moveOver hmove
        obtain ⟨hfolder, hshort, rfl⟩ := Disk.child_eq_ok_iff.1 hdraft
        obtain ⟨-, -, rfl⟩ := Disk.child_eq_ok_iff.1 hfile
        rw [utf8ByteSize_draftName hkey, Disk.maxNameBytes] at hshort
        rw [← filePath, get?_drafted, if_neg (f.filePath_ne_draftPath key hkey)] at hfileFree
        exact
          { valid := hkey
            short := by
              rw [maxKeyBytes]
              omega
            folder := hfolder
            file := hfileFree
            draft := hdraftFree }

/-- What was saved is what is **loaded**. -/
theorem load_of_saved (h : f.save key text = (.ok (), f')) :
    f'.load key = (.ok (some text), f') := by
  have hclear : Clear f key := clear_of_save (congrArg Prod.fst h)
  obtain ⟨disk, hsave, hdisk⟩ := save_of_clear hclear text
  obtain rfl : { f with disk } = f' := congrArg Prod.snd (hsave.symm.trans h)
  have hfile : disk.get? (f.filePath key) = some (.file text.toUTF8) := by rw [hdisk, if_pos rfl]
  refine load_of_clear ?_ hfile
  exact
    { valid := hclear.valid
      short := hclear.short
      folder := by
        change disk.get? f.base = _
        rw [hdisk, filePath, draftPath, if_neg (base_ne_append f _), if_neg (base_ne_append f _)]
        exact hclear.folder
      file := by
        change disk.get? (f.filePath key) ≠ _
        rw [hfile]
        rintro ⟨⟩
      draft := by
        change disk.get? (f.draftPath key) ≠ _
        rw [hdisk, if_neg (f.filePath_ne_draftPath key hclear.valid).symm, if_pos rfl]
        rintro ⟨⟩ }

/-- After a save that failed what can be loaded is **what could be**. -/
theorem load_of_save_failed {why : Error} (h : (f.save key text).1 = .error why) (other : String) :
    ((f.save key text).2.load other).1 = (f.load other).1 := by
  have hserved := f.served_save key text
  rw [h] at hserved
  by_cases hother : other = key
  · rw [hother]
    have hfolder := hserved.get?_of_ne (base_ne_append f _) fun _ => base_ne_append f _
    exact load_congr hserved.base_eq hfolder ((hserved.file_of_save rfl).trans (if_neg nofun))
  · exact hserved.load_of_ne hother

/-! ### Deletes -/

/-- Where there is no file **nothing is found**. -/
theorem found_load_of_none (h : f.disk.get? (f.filePath key) = none) :
    found (f.load key).1 = none := by
  have hread : ∃ why, f.disk.read f.base (fileName key) = .error why := by
    rw [Disk.read]
    cases hchild : f.disk.child f.base (fileName key) with
    | error why => exact ⟨why, rfl⟩
    | ok node =>
      obtain ⟨-, -, rfl⟩ := Disk.child_eq_ok_iff.1 hchild
      rw [← filePath, h]
      exact ⟨.missing, rfl⟩
  obtain ⟨why, hread⟩ := hread
  rw [load, hread]
  cases isKey key with
  | false => rfl
  | true => cases why <;> rfl

/-- What was deleted is **not found**. -/
theorem found_load_of_deleted (h : (f.delete key).1 = .ok ()) :
    found ((f.delete key).2.load key).1 = none := by
  rw [delete] at h ⊢
  split at h
  case isFalse => cases h
  case isTrue hkey =>
    rw [if_pos hkey]
    split at h
    case h_1 hmissing =>
      dsimp only
      rw [load, if_pos hkey, Disk.read_of_unlink_missing hmissing]
      rfl
    case h_2 => cases h
    case h_3 disk hunlink =>
      refine found_load_of_none (f := { f with disk }) ?_
      change disk.get? (f.base ++ [fileName key]) = none
      rw [Disk.unlink_eq_ok hunlink, Disk.get?_erase (List.concat_ne_nil _ _), if_pos rfl]

/-- After a delete that failed the folder is **as it was**. -/
theorem delete_failed {why : Error} (h : (f.delete key).1 = .error why) : (f.delete key).2 = f := by
  have hserved := f.served_delete key
  rw [h] at hserved
  generalize (f.delete key).2 = f' at hserved
  cases hserved with
  | noKey | refused => rfl

/-! ### The law -/

/-- A folder shows the **texts** that can be loaded from it. -/
instance : Viewed Folder where
  texts f key := found (f.load key).1
  load_cases f key := by
    have hload : Store.load f key = ((f.load key).1, f) := f.load_eq key
    rw [hload]
    cases (f.load key).1 with
    | error why => exact .inl ⟨why, f, rfl, rfl⟩
    | ok text => exact .inr ⟨f, rfl, rfl⟩
  save_cases f key text := by
    change (∃ why f', f.save key text = (.error why, f') ∧ _) ∨
      ∃ f', f.save key text = (.ok (), f') ∧ _
    cases hsave : (f.save key text).1 with
    | error why =>
      refine .inl ⟨why, _, Prod.ext hsave rfl, funext fun other => ?_⟩
      rw [load_of_save_failed hsave]
    | ok done =>
      have hsaved : f.save key text = (.ok (), (f.save key text).2) := Prod.ext hsave rfl
      refine .inr ⟨_, hsaved, funext fun other => ?_⟩
      by_cases hother : other = key
      · rw [hother, load_of_saved hsaved, Function.update_self]
        rfl
      · rw [(f.served_save key text).load_of_ne hother, Function.update_of_ne hother]
  delete_cases f key := by
    change (∃ why f', f.delete key = (.error why, f') ∧ _) ∨ ∃ f', f.delete key = (.ok (), f') ∧ _
    cases hdelete : (f.delete key).1 with
    | error why =>
      exact .inl ⟨why, f, Prod.ext hdelete (delete_failed hdelete), rfl⟩
    | ok done =>
      refine .inr ⟨_, Prod.ext hdelete rfl, funext fun other => ?_⟩
      by_cases hother : other = key
      · rw [hother, found_load_of_deleted hdelete, Function.update_self]
      · rw [(f.served_delete key).load_of_ne hother, Function.update_of_ne hother]

end Store.Folder

end Guildkeep
