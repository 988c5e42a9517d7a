import Guildkeep.Proofs.Save.Removal
import Guildkeep.Proofs.Text.Blank
import Guildkeep.Tool.Run

/-!
# What a Command Line May Touch

A command line that looks at saves leaves the disk as it is, and so does one that deletes them and
is not told to go on. One that deletes a save touches the file of that save and the two of the
manifest, and nothing where it has nothing to delete. Once it succeeds the manifest is without that
save, and what is shown of any other stays the same.

## Conventions

The disk is any tree, and the folder of the saves may hold anything. Neither the id nor the name of
the folder has to be one that could be in use. Of cleaning up nothing is said but that it asks
first.

## Main results

* `answered_iff`: when a command that asks **goes on**.
* `Opened.of_openSaves`: all that **opening** a folder of saves comes to.
* `Deletion.of_deleteSave`: all that **deleting** a save comes to.
* `run_within_frame`: the frame of **every command line**.
-/

namespace Guildkeep.Tool

open Save
open Store.Folder (fileName draftName isKey)

/-! ### Answers -/

/-- What is typed in **says yes**: its first line is a text that says `y` or `yes`. -/
def SaysYes (input : ByteArray) : Prop :=
  ∃ line : String, line.toUTF8.data.toList = input.data.toList.takeWhile (· ≠ 10) ∧
    Text.SaysOneOf ["y", "yes"] line

/-- Bytes are a text if they are **its bytes**. -/
theorem fromUTF8?_eq_some_iff {bytes : ByteArray} {text : String} :
    String.fromUTF8? bytes = some text ↔ text.toUTF8 = bytes := by
  rw [String.fromUTF8?]
  constructor
  · intro h
    split at h
    case isTrue hvalid =>
      obtain rfl : String.fromUTF8 bytes hvalid = text := Option.some.inj h
      rfl
    case isFalse => cases h
  · rintro rfl
    rw [String.toUTF8_eq_toByteArray, dif_pos text.isValidUTF8]
    rfl

/-- Two endings that look **alike**: only the disk that is left may differ. -/
def Ending.Alike (a b : Ending) : Prop :=
  a.exit = b.exit ∧ a.out = b.out ∧ a.err = b.err

namespace Surroundings

variable {s : Surroundings} {dir : String}

/-- Only an answer that **says yes** is a confirmation. -/
theorem confirmed_iff : s.confirmed = .ok true ↔ SaysYes s.input := by
  have hbytes {line : String} : line.toUTF8 = s.firstLine ↔
      line.toUTF8.data.toList = s.input.data.toList.takeWhile (· ≠ 10) := by
    rw [firstLine, ByteArray.ext_iff, ← Array.toList_inj]
  constructor
  · intro h
    rw [confirmed] at h
    split at h
    case h_1 => cases h
    case h_2 line hline =>
      exact ⟨line, hbytes.1 (fromUTF8?_eq_some_iff.1 hline),
        Text.contains_lower_trim_iff.1 (Except.ok.inj h)⟩
  · rintro ⟨line, hline, hyes⟩
    rw [confirmed, fromUTF8?_eq_some_iff.2 (hbytes.2 hline)]
    dsimp only
    rw [Text.contains_lower_trim_iff.2 hyes]

/-- A command that asks **goes on** if it is told to, or need not ask. -/
theorem answered_iff {yes : Bool} : s.answered yes = .ok true ↔ yes = true ∨ SaysYes s.input := by
  cases yes with
  | true => exact iff_of_true rfl (.inl rfl)
  | false => exact confirmed_iff.trans (by simp)

/-- Without a yes a command that asks **fails or is told no**. -/
theorem answered_of_not {yes : Bool} (h : ¬ (yes = true ∨ SaysYes s.input)) :
    (∃ r, s.answered yes = .error r) ∨ s.answered yes = .ok false := by
  cases hanswer : s.answered yes with
  | error r => exact .inl ⟨r, rfl⟩
  | ok answer =>
    cases answer with
    | false => exact .inr rfl
    | true => exact absurd (answered_iff.1 hanswer) h

/-! ### Opening -/

/-- The manifest of the saves in a folder, if it can be read. -/
def manifest? (s : Surroundings) (dir : String) : Option Manifest :=
  (s.find? dir).bind fun base => (Archive.manifest (⟨s.disk, base, dir⟩ : Store.Folder)).1.toOption

/-- All that **opening** a folder of saves can come to. -/
inductive Opened (s : Surroundings) (dir : String) : Except Report Store.Folder × Disk → Prop where
  /-- There is no manifest that can be read. -/
  | failed (r : Report) (unread : s.manifest? dir = none) : Opened s dir (.error r, s.disk)
  /-- There is one. -/
  | opened {base : Path} {m : Manifest} (found : s.find? dir = some base)
      (folder : s.disk.get? base = some .folder)
      (read : (Archive.manifest (⟨s.disk, base, dir⟩ : Store.Folder)).1 = .ok m) :
      Opened s dir (.ok ⟨s.disk, base, dir⟩, s.disk)

/-- The manifest of a folder that is there is the one that is **read**. -/
theorem manifest?_of_find? {base : Path} (h : s.find? dir = some base) :
    s.manifest? dir = (Archive.manifest (⟨s.disk, base, dir⟩ : Store.Folder)).1.toOption := by
  rw [manifest?, h, Option.bind_some]

/-- **Every opening** comes to one of these, and leaves the disk as it is. -/
theorem Opened.of_openSaves (htree : s.disk.IsTree) (dir : String) :
    Opened s dir (s.openSaves dir) := by
  rw [openSaves]
  split
  case h_1 hnone => exact .failed _ (by rw [manifest?, hnone, Option.bind_none])
  case h_2 base hfind =>
    obtain ⟨hspelt, -⟩ := Disk.exists_walk_of_resolve? hfind
    rw [Store.Folder.openAt, hspelt, htree.makeFolders_eq (htree.isSome_of_resolve? hfind)]
    by_cases hfolder : s.disk.get? base = some .folder
    · rw [if_pos hfolder]
      dsimp only
      rw [Archive.manifest_folder]
      cases hread : (Archive.manifest (⟨s.disk, base, dir⟩ : Store.Folder)).1 with
      | error why => exact .failed _ (by rw [manifest?_of_find? hfind, hread, Except.toOption])
      | ok m => exact .opened hfind hfolder hread
    · rw [if_neg hfolder]
      refine .failed _ ?_
      obtain ⟨node, hnode⟩ := Option.isSome_iff_exists.1 (htree.isSome_of_resolve? hfind)
      cases node with
      | folder => exact absurd hnode hfolder
      | file content =>
        rw [manifest?_of_find? hfind, Archive.manifest_of_file hnode, Except.toOption]

/-! ### Looking -/

/-- Listing saves leaves the disk **as it is**. -/
theorem listSaves_disk (htree : s.disk.IsTree) (dir : String) :
    (s.listSaves dir).disk = s.disk := by
  have hopened := Opened.of_openSaves htree dir
  rw [listSaves]
  generalize s.openSaves dir = opening at hopened
  cases hopened with
  | failed => rfl
  | @opened base =>
    dsimp only
    rw [Archive.list_folder]
    cases (Archive.list (⟨s.disk, base, dir⟩ : Store.Folder)).1 <;> rfl

/-- What is **shown** of a save in a folder that was opened. -/
theorem readSave_eq {f : Store.Folder} {d : Disk} (h : s.openSaves dir = (.ok f, d)) (id : String)
    (format : Format) : s.readSave id dir format =
      match (Archive.fetch f id).1 with
      | .error why => (s.leave f.disk).fail "" ⟨"Failed to load save " ++ id, saveCauses why⟩
      | .ok snapshot =>
        (s.leave f.disk).succeed ("Save: " ++ id ++ "\n\n" ++ shown snapshot format) := by
  rw [readSave, h]
  dsimp only
  rw [Archive.fetch_folder]
  cases (Archive.fetch f id).1 <;> rfl

/-- Showing a save leaves the disk **as it is**. -/
theorem readSave_disk (htree : s.disk.IsTree) (id dir : String) (format : Format) :
    (s.readSave id dir format).disk = s.disk := by
  have hopened := Opened.of_openSaves htree dir
  generalize hopening : s.openSaves dir = opening at hopened
  cases hopened with
  | failed =>
    rw [readSave, hopening]
    rfl
  | @opened base =>
    rw [readSave_eq hopening]
    cases (Archive.fetch (⟨s.disk, base, dir⟩ : Store.Folder) id).1 <;> rfl

/-! ### Deleting -/

/-- All that **deleting** a save can come to. -/
inductive Deletion (s : Surroundings) (id dir : String) (yes : Bool) (ending : Ending) : Prop where
  /-- It was asked, and not told to go on. -/
  | refused (told : ¬ (yes = true ∨ SaysYes s.input)) (kept : ending.disk = s.disk)
  /-- There is no manifest that can be read. -/
  | unread (told : yes = true ∨ SaysYes s.input) (unread : s.manifest? dir = none)
      (failed : ending.exit = 1) (kept : ending.disk = s.disk)
  /-- The save was to be removed. -/
  | removed {base : Path} {m : Manifest} {answer : Except Error Bool} {f : Store.Folder}
      (told : yes = true ∨ SaysYes s.input) (found : s.find? dir = some base)
      (folder : s.disk.get? base = some .folder)
      (read : (Archive.manifest (⟨s.disk, base, dir⟩ : Store.Folder)).1 = .ok m)
      (removed : Archive.Removed ⟨s.disk, base, dir⟩ id answer f)
      (succeeded : ending.exit = 0 → ∃ done, answer = .ok done) (left : ending.disk = f.disk)

/-- **Every deletion** comes to one of these. -/
theorem Deletion.of_deleteSave (htree : s.disk.IsTree) (id dir : String) (yes : Bool) :
    Deletion s id dir yes (s.deleteSave id dir yes) := by
  by_cases htold : yes = true ∨ SaysYes s.input
  · have hopened := Opened.of_openSaves htree dir
    rw [deleteSave, answered_iff.2 htold]
    dsimp only
    generalize s.openSaves dir = opening at hopened
    cases hopened with
    | failed r unread => exact .unread htold unread rfl rfl
    | @opened base m found folder read =>
      have hremoved := Archive.remove_removed (⟨s.disk, base, dir⟩ : Store.Folder) id
      dsimp only
      generalize Archive.remove (⟨s.disk, base, dir⟩ : Store.Folder) id = removal at hremoved
      obtain ⟨answer, f⟩ := removal
      cases answer with
      | error why =>
        exact .removed htold found folder read hremoved (fun h => absurd h Nat.one_ne_zero) rfl
      | ok done => exact .removed htold found folder read hremoved (fun _ => ⟨done, rfl⟩) rfl
  · refine .refused htold ?_
    rw [deleteSave]
    rcases answered_of_not htold with ⟨r, hanswer⟩ | hanswer <;> rw [hanswer] <;> rfl

/-! ### Looking afterwards -/

/-- Where the folder of the saves is found it is **found again**: no folder has come or gone. -/
theorem find?_of_touches {base folder : Path} {names : List String} {disk : Disk}
    (h : Disk.Touches folder names s.disk disk) (hfind : s.find? dir = some base)
    (hfolder : s.disk.get? base = some .folder) (input : ByteArray) :
    ({ s with disk, input } : Surroundings).find? dir = some base :=
  Disk.resolve?_congr (fun q => (h.folders q).2) hfind hfolder

/-- Once a save is removed, the manifest is what it was **without the save**. -/
theorem manifest?_of_removed {base : Path} {m : Manifest} {id : String} {done : Bool}
    {f : Store.Folder} (hfind : s.find? dir = some base) (hfolder : s.disk.get? base = some .folder)
    (hread : (Archive.manifest (⟨s.disk, base, dir⟩ : Store.Folder)).1 = .ok m)
    (hremoved : Archive.Removed ⟨s.disk, base, dir⟩ id (.ok done) f) (hid : id ≠ Manifest.key)
    (input : ByteArray) :
    ({ s with disk := f.disk, input } : Surroundings).manifest? dir = some (m.remove id) := by
  obtain ⟨disk, base', location⟩ := f
  obtain rfl : base = base' := hremoved.place_eq.1.symm
  obtain rfl : dir = location := hremoved.place_eq.2.symm
  rw [manifest?_of_find? (find?_of_touches hremoved.touches hfind hfolder input)]
  dsimp only
  rw [hremoved.manifest_eq rfl hid hread]
  rfl

/-- A folder with a manifest that can be read is **opened**. -/
theorem openSaves_eq (htree : s.disk.IsTree) {base : Path} {m : Manifest}
    (hfind : s.find? dir = some base)
    (hread : (Archive.manifest (⟨s.disk, base, dir⟩ : Store.Folder)).1 = .ok m) :
    s.openSaves dir = (.ok ⟨s.disk, base, dir⟩, s.disk) := by
  have hopened := Opened.of_openSaves htree dir
  generalize s.openSaves dir = opening at hopened ⊢
  cases hopened with
  | failed r unread =>
    rw [manifest?_of_find? hfind, hread] at unread
    cases unread
  | opened found =>
    obtain rfl := Option.some.inj (hfind.symm.trans found)
    rfl

/-- Once a save is removed, what is **shown** of any other is what was shown before. -/
theorem readSave_of_removed (htree : s.disk.IsTree) {base : Path} {m : Manifest} {id other : String}
    {done : Bool} {f : Store.Folder} (hfind : s.find? dir = some base)
    (hfolder : s.disk.get? base = some .folder)
    (hread : (Archive.manifest (⟨s.disk, base, dir⟩ : Store.Folder)).1 = .ok m)
    (hremoved : Archive.Removed ⟨s.disk, base, dir⟩ id (.ok done) f) (hother : other ≠ id)
    (format : Format) (input : ByteArray) :
    Ending.Alike (({ s with disk := f.disk, input } : Surroundings).readSave other dir format)
      (s.readSave other dir format) := by
  obtain ⟨disk, base', location⟩ := f
  obtain rfl : base = base' := hremoved.place_eq.1.symm
  obtain rfl : dir = location := hremoved.place_eq.2.symm
  have htouches := hremoved.touches
  obtain ⟨m', hread'⟩ := hremoved.exists_manifest rfl hread
  have hfind' := find?_of_touches htouches hfind hfolder input
  have hopen := openSaves_eq (htouches.isTree htree) hfind' hread'
  rw [readSave_eq hopen, readSave_eq (openSaves_eq htree hfind hread), hremoved.reads hother]
  cases (Archive.fetch (⟨s.disk, base, dir⟩ : Store.Folder) other).1 <;> exact ⟨rfl, rfl, rfl⟩

/-! ### Cleaning up -/

/-- Without a yes cleaning up leaves the disk **as it is**. -/
theorem clean_disk {yes : Bool} (h : ¬ (yes = true ∨ SaysYes s.input)) (dir : String) :
    (s.clean dir yes).disk = s.disk := by
  rw [clean]
  split
  case h_1 => rfl
  case h_2 => rcases answered_of_not h with ⟨r, hanswer⟩ | hanswer <;> rw [hanswer] <;> rfl

/-- Cleaning up leaves a **tree**. -/
theorem clean_isTree (htree : s.disk.IsTree) (dir : String) (yes : Bool) :
    (s.clean dir yes).disk.IsTree := by
  rw [clean]
  split
  case h_1 => exact htree
  case h_2 =>
    cases s.answered yes with
    | error r => exact htree
    | ok answer =>
      cases answer with
      | false => exact htree
      | true =>
        have hleft := htree.removeAll s.working dir
        dsimp only
        generalize s.disk.removeAll s.working dir = removal at hleft ⊢
        obtain ⟨result, disk⟩ := removal
        cases result <;> exact hleft

/-! ### The file with variables -/

/-- What is added to the environment is **not taken** from the disk. -/
@[simp] theorem withEnvFile_disk (s : Surroundings) : s.withEnvFile.disk = s.disk := by
  rw [withEnvFile]
  split <;> rfl

/-- What is added to the environment does **not answer** anything. -/
@[simp] theorem withEnvFile_input (s : Surroundings) : s.withEnvFile.input = s.input := by
  rw [withEnvFile]
  split <;> rfl

/-- What is added to the environment stays the same unless **the file with it** is touched. -/
theorem withEnvFile_of_touches {folder : Path} {names : List String} {disk : Disk}
    (h : Disk.Touches folder names s.disk disk) (hnames : envFile ∉ names) (input : ByteArray) :
    ({ s with disk, input } : Surroundings).withEnvFile = { s.withEnvFile with disk, input } := by
  rw [withEnvFile, withEnvFile]
  dsimp only
  rw [h.readNearest?_eq hnames]
  cases s.disk.readNearest? s.working envFile <;> rfl

end Surroundings

/-! ### The frame -/

/-- The names of the **files that a deletion may touch**. -/
def deletable (id : String) : List String :=
  [id ++ ".sav", "guild-manager-save-index.sav", "guild-manager-save-index.sav.tmp"]

/-- The files that a deletion may touch are those of **the save and the manifest**. -/
theorem deletable_eq (id : String) :
    deletable id = [fileName id, fileName Manifest.key, draftName Manifest.key] := by
  have hkey : isKey Manifest.key = true := by decide
  rw [deletable, Store.Folder.draftName_eq_append hkey, Store.Folder.fileName_eq,
    Store.Folder.fileName_eq]
  rfl

/-- A deletion does not touch the file with **variables**. -/
theorem envFile_notMem_deletable (id : String) : envFile ∉ deletable id := by
  have hsave : envFile ≠ id ++ ".sav" := by
    intro h
    have hlists : [] ++ ['.', 'e', 'n', 'v'] = id.toList ++ ['.', 's', 'a', 'v'] := by
      have hlists := congrArg String.toList h
      rwa [String.toList_append] at hlists
    obtain ⟨-, hends⟩ := List.append_inj' hlists rfl
    exact absurd hends (by decide)
  simp only [deletable, List.mem_cons, List.not_mem_nil, or_false, not_or]
  exact ⟨hsave, by decide, by decide⟩

namespace Surroundings

/-- **Where** the folder of the saves is that a command is for. -/
def folder? (s : Surroundings) (dir : Option String) : Option Path :=
  s.withEnvFile.find? (s.withEnvFile.saveDir dir)

/-- The manifest of that folder, if it can be **read**. -/
def listed? (s : Surroundings) (dir : Option String) : Option Manifest :=
  s.withEnvFile.manifest? (s.withEnvFile.saveDir dir)

end Surroundings

/-- A deletion that stays **within its frame**, and does what it is for. -/
structure DeletesOnly (s : Surroundings) (id : String) (dir : Option String) (yes : Bool)
    (ending : Ending) : Prop where
  /-- Nothing is touched unless it is told to go on. -/
  asks : ¬ (yes = true ∨ SaysYes s.input) → ending.disk = s.disk
  /-- No other file is touched. -/
  others : ∀ p, (∀ base, s.folder? dir = some base → ∀ name ∈ deletable id, p ≠ base ++ [name]) →
    ending.disk.get? p = s.disk.get? p
  /-- Nothing is touched for the key of the manifest, where the manifest cannot be read, and for
  what is no key and not listed. -/
  nothing : (id = Manifest.key ∨ s.listed? dir = none ∨
      isKey id = false ∧ ∀ m, s.listed? dir = some m → m.find? id = none) → ending.disk = s.disk
  /-- After a success any other save is shown as it was. -/
  reads : ending.exit = 0 → ∀ other, other ≠ id → ∀ format words input,
    Invocation.ofWords words = .command (.readSave other dir format) →
      Ending.Alike (({ s with disk := ending.disk, input } : Surroundings).run words) (s.run words)
  /-- After a success, if it was told to go on, the manifest is what it was without the save. -/
  unlists : (yes = true ∨ SaysYes s.input) → ending.exit = 0 → id ≠ Manifest.key →
    ∀ m, s.listed? dir = some m → (s.leave ending.disk).listed? dir = some (m.remove id)

/-- The **frame** of a command line: what of the disk it may touch. -/
def Frame (s : Surroundings) (ending : Ending) : Invocation → Prop
  | .version | .wrong | .command (.listSaves _) | .command (.readSave ..) => ending.disk = s.disk
  | .command (.deleteSave id dir yes) => DeletesOnly s id dir yes ending
  | .command (.clean _ yes) => ¬ (yes = true ∨ SaysYes s.input) → ending.disk = s.disk

variable {s : Surroundings}

namespace Surroundings

/-- What is listed is what the **manifest** of the folder lists. -/
theorem listed?_of_find? {dir : Option String} {base : Path} {m : Manifest}
    (hfind : s.withEnvFile.find? (s.withEnvFile.saveDir dir) = some base)
    (hread : (Archive.manifest
      (⟨s.withEnvFile.disk, base, s.withEnvFile.saveDir dir⟩ : Store.Folder)).1 = .ok m) :
    s.listed? dir = some m := by
  rw [listed?, manifest?_of_find? hfind, hread]
  rfl

/-- A command line that shows a save **does so**, in the folder that it names. -/
theorem run_readSave {words : List String} {id : String} {dir : Option String} {format : Format}
    (h : Invocation.ofWords words = .command (.readSave id dir format)) :
    s.run words = s.withEnvFile.readSave id (s.withEnvFile.saveDir dir) format := by
  rw [run, h]
  rfl

namespace Deletion

variable {id : String} {dir : Option String} {yes : Bool} {ending : Ending}

/-- What a deletion touches is **in the folder** of the saves. -/
theorem touches (h : Deletion s.withEnvFile id (s.withEnvFile.saveDir dir) yes ending) :
    ∃ base, Disk.Touches base (deletable id) s.disk ending.disk ∧
      (ending.disk = s.disk ∨ s.folder? dir = some base) := by
  cases h with
  | refused _ kept | unread _ _ _ kept =>
    rw [withEnvFile_disk] at kept
    rw [kept]
    exact ⟨[], .refl [] _ _, .inl rfl⟩
  | @removed base m answer f told found folder read removed succeeded left =>
    have htouches := removed.touches
    rw [← deletable_eq, withEnvFile_disk, ← left] at htouches
    exact ⟨base, htouches, .inr found⟩

/-- A deletion deletes **only** what it is asked for. -/
theorem deletesOnly (htree : s.disk.IsTree)
    (h : Deletion s.withEnvFile id (s.withEnvFile.saveDir dir) yes ending) :
    DeletesOnly s id dir yes ending where
  asks hno := by
    rw [← s.withEnvFile_input] at hno
    cases h with
    | refused _ kept => exact kept.trans s.withEnvFile_disk
    | unread told | removed told => exact absurd told hno
  others p hp := by
    obtain ⟨base, htouches, hkept | hfolder⟩ := h.touches
    · rw [hkept]
    · exact htouches.others p (hp base hfolder)
  nothing hwhy := by
    cases h with
    | refused _ kept | unread _ _ _ kept => exact kept.trans s.withEnvFile_disk
    | @removed base m answer f told found folder read removed succeeded left =>
      have hlisted : s.listed? dir = some m := listed?_of_find? found read
      have hkept := removed.eq_of <| by
        rcases hwhy with hkey | hnone | ⟨hkey, habsent⟩
        · exact .inl hkey
        · rw [hnone] at hlisted
          cases hlisted
        · refine .inr (.inl ⟨hkey, fun m' hm' => ?_⟩)
          obtain rfl : m = m' := Except.ok.inj (read.symm.trans hm')
          exact habsent m hlisted
      rw [left, hkept, withEnvFile_disk]
  reads hexit other hother format words input hwords := by
    obtain ⟨folder, htouches, -⟩ := h.touches
    rw [run_readSave hwords, run_readSave hwords,
      withEnvFile_of_touches htouches (envFile_notMem_deletable id)]
    cases h with
    | refused _ kept =>
      rw [kept]
      exact ⟨rfl, rfl, rfl⟩
    | unread _ _ failed => exact absurd (failed.symm.trans hexit) Nat.one_ne_zero
    | @removed base m answer f told found folder read removed succeeded left =>
      obtain ⟨done, rfl⟩ := succeeded hexit
      rw [left]
      exact readSave_of_removed (s.withEnvFile_disk ▸ htree) found folder read removed hother format
        input
  unlists htold hexit hid m hm := by
    obtain ⟨folder, htouches, -⟩ := h.touches
    have henv := withEnvFile_of_touches htouches (envFile_notMem_deletable id) s.input
    rw [← s.withEnvFile_input] at htold
    cases h with
    | refused told => exact absurd htold told
    | unread _ _ failed => exact absurd (failed.symm.trans hexit) Nat.one_ne_zero
    | @removed base m' answer f told found folder read removed succeeded left =>
      obtain ⟨done, rfl⟩ := succeeded hexit
      obtain rfl : m' = m := Option.some.inj ((listed?_of_find? found read).symm.trans hm)
      rw [listed?, leave, henv, left]
      exact manifest?_of_removed found folder read removed hid s.input

end Deletion

end Surroundings

/-- A command line that looks at saves leaves the disk **as it is**, and so does one that deletes
them and is not told to go on; one that deletes a save stays **within its frame**. The disk stays a
tree. -/
theorem run_within_frame (htree : s.disk.IsTree) (words : List String) :
    Frame s (s.run words) (Invocation.ofWords words) ∧ (s.run words).disk.IsTree := by
  have htree' : s.withEnvFile.disk.IsTree := s.withEnvFile_disk ▸ htree
  rw [Surroundings.run]
  generalize Invocation.ofWords words = invocation
  cases invocation with
  | version | wrong => exact ⟨rfl, htree⟩
  | command c =>
    dsimp only
    cases c with
    | listSaves dir =>
      have hkept := s.withEnvFile.listSaves_disk htree' (s.withEnvFile.saveDir dir)
      rw [Surroundings.withEnvFile_disk] at hkept
      exact ⟨hkept, hkept ▸ htree⟩
    | readSave id dir format =>
      have hkept := s.withEnvFile.readSave_disk htree' id (s.withEnvFile.saveDir dir) format
      rw [Surroundings.withEnvFile_disk] at hkept
      exact ⟨hkept, hkept ▸ htree⟩
    | deleteSave id dir yes =>
      have hdeletion :=
        Surroundings.Deletion.of_deleteSave htree' id (s.withEnvFile.saveDir dir) yes
      obtain ⟨base, htouches, -⟩ := hdeletion.touches
      exact ⟨hdeletion.deletesOnly htree, htouches.isTree htree⟩
    | clean dir yes =>
      refine ⟨fun hanswer => ?_, Surroundings.clean_isTree htree' _ yes⟩
      rw [← s.withEnvFile_input] at hanswer
      exact (Surroundings.clean_disk hanswer _).trans s.withEnvFile_disk

/-- A folder with a manifest of **two saves**, and an answer. -/
def twoSaves : Surroundings where
  env := []
  working := []
  disk := (((({} : Disk).put ["saves"] .folder).put ["saves", "guild-manager-save-index.sav"]
    (.file ({ entries := [⟨"run-1", none, .epoch⟩, ⟨"run-2", none, .epoch⟩] } :
      Manifest).text.toUTF8)).put
    ["saves", "run-1.sav"] (.file "".toUTF8)).put ["saves", "run-2.sav"] (.file "".toUTF8)
  input := " Yes\n".toUTF8

/-- Of two saves one is deleted after a yes: it is **gone**, and nothing but what belongs to it. -/
theorem run_within_frame_two_saves :
    let ending := twoSaves.run ["delete-save", "run-1", "-d", "saves"]
    twoSaves.disk.IsTree ∧ ending.exit = 0 ∧ ending.disk ≠ twoSaves.disk ∧
      DeletesOnly twoSaves "run-1" (some "saves") false ending := by
  intro ending
  have hwords : Invocation.ofWords ["delete-save", "run-1", "-d", "saves"] =
      .command (.deleteSave "run-1" (some "saves") false) := by
    simp [Invocation.ofWords, Command.of?, readWords, readShort, Given.addIds, Given.set, isOption,
      Switch.short, Switch.takesValue]
  have hending :
      ending = twoSaves.withEnvFile.perform (.deleteSave "run-1" (some "saves") false) := by
    rw [show ending = twoSaves.run _ from rfl, Surroundings.run, hwords]
  have htree : twoSaves.disk.IsTree := by decide +kernel
  have hframe := (run_within_frame htree ["delete-save", "run-1", "-d", "saves"]).1
  rw [hwords] at hframe
  have hgone : (ending.exit, ending.disk.get? ["saves", "run-1.sav"]) = (0, none) := by
    rw [hending]
    decide +kernel
  obtain ⟨hexit, hnone⟩ := Prod.mk.inj hgone
  refine ⟨htree, hexit, fun hsame => ?_, hframe⟩
  rw [hsame] at hnone
  exact absurd hnone (by decide +kernel)

end Guildkeep.Tool
