import Guildkeep.Proofs.Save.Health
import Guildkeep.Proofs.Store.Footprint

/-!
# Removing a Save from a Folder

What it comes to when a save in a folder of files is removed: the outcomes one by one, which files
are touched in each, and what can still be read. Any name in the folder may be in the way, and any
file may be no text.

## Main results

* `remove_removed`: every **removal** comes to one of the outcomes of `Removed`.
* `Removed.touches`: the **names** that are touched.
* `Removed.eq_of`: when **nothing** is touched.
* `Removed.manifest_eq`: what is **listed** afterwards.
* `Removed.reads`: any **other save** is read as before.
-/

namespace Guildkeep.Save

/-- To remove what is **not listed** is to do nothing. -/
theorem Manifest.remove_of_absent {m : Manifest} {id : String} (h : m.find? id = none) :
    m.remove id = m := by
  rw [find?, List.find?_eq_none] at h
  rw [remove, List.eraseP_of_forall_not h]

namespace Archive

open Store (Folder)
open Store.Folder (fileName draftName isKey)

variable {f f' : Folder} {id other : String}

/-! ### Reading -/

/-- Reading the manifest leaves a folder **as it is**. -/
theorem manifest_folder (f : Folder) : manifest f = ((manifest f).1, f) := by
  have hload : Store.load f Manifest.key = ((f.load Manifest.key).1, f) := f.load_eq Manifest.key
  refine Prod.ext rfl ?_
  rw [manifest, hload]
  cases (f.load Manifest.key).1 with
  | error why => rfl
  | ok text =>
    cases text with
    | none => rfl
    | some text =>
      dsimp only
      cases Manifest.ofText text with
      | error why => rfl
      | ok m => rfl

/-- Reading a save leaves a folder **as it is**. -/
theorem fetch_folder (f : Folder) (id : String) : fetch f id = ((fetch f id).1, f) := by
  have hload : Store.load f id = ((f.load id).1, f) := f.load_eq id
  refine Prod.ext rfl ?_
  rw [fetch, hload]
  split
  · rfl
  · cases (f.load id).1 with
    | error why => rfl
    | ok payload =>
      cases payload with
      | none => rfl
      | some payload =>
        dsimp only
        cases Payload.decode payload with
        | error why => rfl
        | ok snapshot => rfl

/-- Listing the saves leaves the folder **as it is**. -/
theorem list_folder (f : Folder) : list f = ((list f).1, f) := by
  rw [list, manifest_folder]
  cases (manifest f).1 with
  | error why => rfl
  | ok m => rfl

/-- What the manifest says depends on the load of **one key**. -/
theorem manifest_congr (h : (f'.load Manifest.key).1 = (f.load Manifest.key).1) :
    (manifest f').1 = (manifest f).1 := by
  have hload (g : Folder) : Store.load g Manifest.key = ((g.load Manifest.key).1, g) :=
    g.load_eq Manifest.key
  rw [manifest, manifest, hload, hload, h]
  cases (f.load Manifest.key).1 with
  | error why => rfl
  | ok text =>
    cases text with
    | none => rfl
    | some text =>
      dsimp only
      cases Manifest.ofText text with
      | error why => rfl
      | ok m => rfl

/-- A manifest that is read is of a **version** that is understood. -/
theorem version_le_of_manifest {m : Manifest} (h : (manifest f).1 = .ok m) :
    m.version ≤ Manifest.currentVersion := by
  rcases manifest_cases f with ⟨why, f', hread, -⟩ | ⟨m', f', hread, -, hlisting⟩
  · rw [hread] at h
    cases h
  · rw [hread] at h
    obtain rfl : m' = m := Except.ok.inj h
    exact version_le_of_listing hlisting

/-- In a file **no manifest** is found. -/
theorem manifest_of_file {content : ByteArray} (h : f.disk.get? f.base = some (.file content)) :
    (manifest f).1 = .error (.store (.io .notFolder)) := by
  have hread : f.disk.read f.base (fileName Manifest.key) = .error .notFolder := by
    rw [Disk.read, Disk.child, h]
  have hload : Store.load f Manifest.key = (.error (.io .notFolder), f) := by
    change f.load Manifest.key = _
    rw [Store.Folder.load, if_pos (by decide), hread]
  rw [manifest, hload]

/-- What a save says depends on the load of **its id**. -/
theorem fetch_congr (h : id ≠ Manifest.key → (f'.load id).1 = (f.load id).1) :
    (fetch f' id).1 = (fetch f id).1 := by
  have hload (g : Folder) : Store.load g id = ((g.load id).1, g) := g.load_eq id
  rw [fetch, fetch, hload, hload]
  by_cases hid : id = Manifest.key
  · rw [if_pos hid, if_pos hid]
  · rw [if_neg hid, if_neg hid, h hid]
    cases (f.load id).1 with
    | error why => rfl
    | ok payload =>
      cases payload with
      | none => rfl
      | some payload =>
        dsimp only
        cases Payload.decode payload with
        | error why => rfl
        | ok snapshot => rfl

/-! ### All that a removal can come to -/

/-- All that the **removal** of a save can come to: what is answered, and the folder afterwards. -/
inductive Removed (f : Folder) (id : String) : Except Error Bool → Folder → Prop where
  /-- The key of the manifest is no id. -/
  | reserved (hid : id = Manifest.key) : Removed f id (.ok false) f
  /-- The manifest cannot be read. -/
  | unread {why : Error} (hid : id ≠ Manifest.key) (unread : (manifest f).1 = .error why) :
      Removed f id (.error why) f
  /-- The save is listed, and the manifest without it cannot be written. -/
  | unwritten {m : Manifest} {why : Store.Error} (hid : id ≠ Manifest.key)
      (read : (manifest f).1 = .ok m) (listed : m.find? id ≠ none)
      (unwritten : (f.save Manifest.key (m.remove id).text).1 = .error why) :
      Removed f id (.error (.store why)) (f.save Manifest.key (m.remove id).text).2
  /-- The save is listed; it is unlisted, and deleted if that is possible. -/
  | unlisted {m : Manifest} (hid : id ≠ Manifest.key) (read : (manifest f).1 = .ok m)
      (listed : m.find? id ≠ none)
      (written : (f.save Manifest.key (m.remove id).text).1 = .ok ()) :
      Removed f id (.ok true) ((f.save Manifest.key (m.remove id).text).2.delete id).2
  /-- The save is not listed, and what there may be of it cannot be deleted. -/
  | undeleted {m : Manifest} {why : Store.Error} (hid : id ≠ Manifest.key)
      (read : (manifest f).1 = .ok m) (absent : m.find? id = none)
      (undeleted : (f.delete id).1 = .error why) : Removed f id (.error (.store why)) f
  /-- The save is not listed, and there is nothing of it afterwards. -/
  | deleted {m : Manifest} (hid : id ≠ Manifest.key) (read : (manifest f).1 = .ok m)
      (absent : m.find? id = none) (deleted : (f.delete id).1 = .ok ()) :
      Removed f id (.ok true) (f.delete id).2

/-- **Every removal** comes to one of these. -/
theorem remove_removed (f : Folder) (id : String) :
    Removed f id (remove f id).1 (remove f id).2 := by
  rw [remove]
  split
  case isTrue hid => exact .reserved hid
  case isFalse hid =>
    rw [manifest_folder]
    cases hread : (manifest f).1 with
    | error why => exact .unread hid hread
    | ok m =>
      dsimp only
      cases hfind : m.find? id with
      | some entry =>
        have hlisted : m.find? id ≠ none := by
          rw [hfind]
          rintro ⟨⟩
        have hsave : Store.save f Manifest.key (m.remove id).text =
          f.save Manifest.key (m.remove id).text := rfl
        dsimp only
        rw [putManifest, hsave]
        cases hwritten : f.save Manifest.key (m.remove id).text with
        | mk result store =>
          cases result with
          | error why =>
            have h := Removed.unwritten hid hread hlisted (congrArg Prod.fst hwritten)
            rwa [hwritten] at h
          | ok done =>
            have h := Removed.unlisted hid hread hlisted (congrArg Prod.fst hwritten)
            rwa [hwritten] at h
      | none =>
        have hdelete : Store.delete f id = f.delete id := rfl
        dsimp only
        rw [hdelete]
        cases hdeleted : f.delete id with
        | mk result store =>
          cases result with
          | error why =>
            have hkept := Store.Folder.delete_failed (congrArg Prod.fst hdeleted)
            rw [hdeleted] at hkept
            obtain rfl : store = f := hkept
            exact .undeleted hid hread hfind (congrArg Prod.fst hdeleted)
          | ok done =>
            have h := Removed.deleted hid hread hfind (congrArg Prod.fst hdeleted)
            rwa [hdeleted] at h

namespace Removed

variable {answer : Except Error Bool}

/-- A removal leaves a folder **where it is**. -/
theorem place_eq (h : Removed f id answer f') : f'.base = f.base ∧ f'.location = f.location := by
  have hsave (text : String) := f.served_save Manifest.key text
  cases h with
  | reserved | unread | undeleted => exact ⟨rfl, rfl⟩
  | unwritten => exact ⟨(hsave _).base_eq, (hsave _).location_eq⟩
  | @unlisted m =>
    have hdelete := (f.save Manifest.key (m.remove id).text).2.served_delete id
    exact ⟨hdelete.base_eq.trans (hsave _).base_eq, hdelete.location_eq.trans (hsave _).location_eq⟩
  | deleted => exact ⟨(f.served_delete id).base_eq, (f.served_delete id).location_eq⟩

/-- A removal touches the **file of the save** and the two of the manifest. -/
theorem touches (h : Removed f id answer f') :
    Disk.Touches f.base [fileName id, fileName Manifest.key, draftName Manifest.key]
      f.disk f'.disk := by
  have hsave (text : String) : Disk.Touches f.base
      [fileName id, fileName Manifest.key, draftName Manifest.key] f.disk
      (f.save Manifest.key text).2.disk :=
    (f.touches_save Manifest.key text).mono (List.subset_cons_self _ _)
  cases h with
  | reserved | unread | undeleted => exact .refl _ _ _
  | unwritten => exact hsave _
  | @unlisted m =>
    have hdelete := (f.save Manifest.key (m.remove id).text).2.touches_delete id
    rw [(f.served_save Manifest.key _).base_eq] at hdelete
    exact (hsave _).trans (hdelete.mono (by simp))
  | deleted => exact (f.touches_delete id).mono (by simp)

/-- **Nothing** is touched for the key of the manifest, for what is no key and not listed, and where
the manifest cannot be read. -/
theorem eq_of (h : Removed f id answer f')
    (hwhy : id = Manifest.key ∨
      (isKey id = false ∧ ∀ m, (manifest f).1 = .ok m → m.find? id = none) ∨
      ∃ why, (manifest f).1 = .error why) : f' = f := by
  cases h with
  | reserved | unread | undeleted => rfl
  | unwritten hid read listed | unlisted hid read listed =>
    rcases hwhy with heq | ⟨-, habsent⟩ | ⟨why, hwhy⟩
    · exact absurd heq hid
    · exact absurd (habsent _ read) listed
    · rw [hwhy] at read
      cases read
  | deleted hid read absent deleted =>
    rcases hwhy with heq | ⟨hkey, -⟩ | ⟨why, hwhy⟩
    · exact absurd heq hid
    · rw [Store.Folder.delete, if_neg (Bool.eq_false_iff.1 hkey)] at deleted
      cases deleted
    · rw [hwhy] at read
      cases read

/-- After a removal that succeeds the manifest is what it was **without the save**. -/
theorem manifest_eq (h : Removed f id answer f') {done : Bool} (hdone : answer = .ok done)
    (hid : id ≠ Manifest.key) {m : Manifest} (hm : (manifest f).1 = .ok m) :
    (manifest f').1 = .ok (m.remove id) := by
  cases h with
  | reserved hkey => exact absurd hkey hid
  | unread | unwritten | undeleted => cases hdone
  | @unlisted read' hid read listed written =>
    obtain rfl : read' = m := Except.ok.inj (read.symm.trans hm)
    have hsaved := Store.Folder.load_of_saved (Prod.ext written rfl)
    -- Deleting the save leaves what was written to the manifest.
    have hload :
        Store.load ((f.save Manifest.key (read'.remove id).text).2.delete id).2 Manifest.key =
        (.ok (some (read'.remove id).text),
          ((f.save Manifest.key (read'.remove id).text).2.delete id).2) := by
      refine (Store.Folder.load_eq _ _).trans (Prod.ext ?_ rfl)
      dsimp only
      rw [(Store.Folder.served_delete _ id).load_of_ne (Ne.symm hid), hsaved]
    have hversion : (read'.remove id).version ≤ Manifest.currentVersion :=
      version_le_of_manifest (m := read') read
    rw [manifest, hload]
    dsimp only
    rw [Manifest.ofText_text hversion]
  | @deleted read' hid read absent =>
    obtain rfl : read' = m := Except.ok.inj (read.symm.trans hm)
    rw [Manifest.remove_of_absent absent]
    exact (manifest_congr ((f.served_delete id).load_of_ne (Ne.symm hid))).trans hm

/-- After a removal that succeeds the manifest **can still be read**. -/
theorem exists_manifest (h : Removed f id answer f') {done : Bool} (hdone : answer = .ok done)
    {m : Manifest} (hm : (manifest f).1 = .ok m) : ∃ m', (manifest f').1 = .ok m' := by
  by_cases hid : id = Manifest.key
  · exact ⟨m, h.eq_of (.inl hid) ▸ hm⟩
  · exact ⟨m.remove id, h.manifest_eq hdone hid hm⟩

/-- Any **other save** is read as before. -/
theorem reads (h : Removed f id answer f') (hother : other ≠ id) :
    (fetch f' other).1 = (fetch f other).1 := by
  refine fetch_congr fun hkey => ?_
  cases h with
  | reserved | unread | undeleted => rfl
  | unwritten => exact (f.served_save Manifest.key _).load_of_ne hkey
  | unlisted =>
    exact ((Store.Folder.served_delete _ id).load_of_ne hother).trans
      ((f.served_save Manifest.key _).load_of_ne hkey)
  | deleted => exact (f.served_delete id).load_of_ne hother

end Removed

end Archive

end Guildkeep.Save
