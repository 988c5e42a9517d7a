import Guildkeep.Disk.Walk
import Mathlib.Data.List.Induction

/-!
# Disks Are Trees

On a disk as there are any, whatever there is lies in a folder. There a written path leads to
something or nowhere, and to make a folder that is there is to do nothing. Where a path leads
depends on the folders alone, if it leads to a folder.

## Main results

* `IsTree.makeFolders_eq`: making a folder **where something is** changes nothing.
* `IsTree.isSome_of_resolve?`: a written path that leads somewhere leads to **something**.
* `resolve?_congr`: where a path leads to a folder depends on the **folders** alone.
* `IsTree.removeAll`: what is left when a folder is removed is a **tree** again.
-/

namespace Guildkeep.Disk

variable {d d' : Disk}

/-- A disk is a **tree**: whatever there is lies in a folder. -/
def IsTree (d : Disk) : Prop :=
  ∀ (p : Path) (name : String), (d.get? (p ++ [name])).isSome = true → d.get? p = some .folder

/-- The root is a **folder**. -/
@[simp] theorem get?_root (d : Disk) : d.get? [] = some .folder := rfl

/-- Where there is a folder there **is something**. -/
theorem isSome_of_folder {p : Path} (h : d.get? p = some .folder) : (d.get? p).isSome = true := by
  rw [h]
  rfl

/-- On a tree all that there is stands in a **folder**. -/
theorem isTree_iff : d.IsTree ↔ ∀ p ∈ d.nodes.keys, d.get? p.dropLast = some .folder := by
  have hthere {p : Path} {name : String} :
      (d.get? (p ++ [name])).isSome = true ↔ p ++ [name] ∈ d.nodes.keys := by
    rw [get?, if_neg (List.concat_ne_nil _ _), Table.mem_keys_iff]
  constructor
  · intro h p hp
    rcases List.eq_nil_or_concat p with rfl | ⟨above, name, rfl⟩
    · rfl
    · rw [List.concat_eq_append] at hp ⊢
      rw [List.dropLast_concat]
      exact h above name (hthere.2 hp)
  · intro h p name hname
    rw [← h _ (hthere.1 hname), List.dropLast_concat]

/-- Whether a disk is a tree can be **told by its entries**. -/
instance : Decidable d.IsTree :=
  decidable_of_iff _ isTree_iff.symm

namespace IsTree

/-- All that a path leads **through** is folders. -/
theorem folder_above (h : d.IsTree) {p below : Path} (hbelow : below ≠ [])
    (hthere : (d.get? (p ++ below)).isSome = true) : d.get? p = some .folder := by
  induction below using List.reverseRecOn with
  | nil => exact absurd rfl hbelow
  | append_singleton below name ih =>
    rw [← List.append_assoc] at hthere
    have hfolder := h _ _ hthere
    by_cases hnil : below = []
    · rwa [hnil, List.append_nil] at hfolder
    · exact ih hnil (isSome_of_folder hfolder)

/-- The folder of a folder is **there**. -/
theorem folder_dropLast (h : d.IsTree) {p : Path} (hp : d.get? p = some .folder) :
    d.get? p.dropLast = some .folder := by
  rcases List.eq_nil_or_concat p with rfl | ⟨above, name, rfl⟩
  · exact hp
  · rw [List.concat_eq_append] at hp ⊢
    rw [List.dropLast_concat]
    exact h _ _ (isSome_of_folder hp)

/-! ### Making folders -/

/-- On a tree folders that are there are **made** without a change. -/
theorem makeFoldersFrom_eq (h : d.IsTree) {above : Path} {names : List String}
    (habove : d.get? above = some .folder) (hthere : (d.get? (above ++ names)).isSome = true) :
    d.makeFoldersFrom above names =
      if d.get? (above ++ names) = some .folder then .ok d else .error .alreadyThere := by
  induction names generalizing above with
  | nil =>
    rw [List.append_nil, if_pos habove]
    rfl
  | cons name rest ih =>
    have hsplit : above ++ name :: rest = above ++ [name] ++ rest :=
      List.append_cons above name rest
    rw [hsplit] at hthere ⊢
    rw [makeFoldersFrom]
    split
    case h_1 hfolder => exact ih hfolder hthere
    case h_2 content hfile =>
      -- Below a file there is nothing, so the path ends here.
      by_cases hrest : rest = []
      · subst hrest
        rw [List.append_nil, hfile, if_pos rfl, if_neg]
        rintro ⟨⟩
      · have hfolder := h.folder_above hrest hthere
        rw [hfile] at hfolder
        cases hfolder
    case h_3 hnone =>
      by_cases hrest : rest = []
      · rw [hrest, List.append_nil, hnone] at hthere
        cases hthere
      · have hfolder := h.folder_above hrest hthere
        rw [hnone] at hfolder
        cases hfolder

/-- Making a folder **where something is** changes nothing: it is there, or something else is in the
way. -/
theorem makeFolders_eq (h : d.IsTree) {p : Path} (hthere : (d.get? p).isSome = true) :
    d.makeFolders p = if d.get? p = some .folder then .ok d else .error .alreadyThere :=
  h.makeFoldersFrom_eq d.get?_root hthere

end IsTree

/-! ### Written paths -/

/-- A written path has **one part** at least. -/
theorem parts_ne_nil (text : String) : parts text ≠ [] := by
  rw [parts, ne_eq, List.map_eq_nil_iff]
  exact List.splitOn_ne_nil '/' text.toList

section Walk

variable {here p : Path} {part : String} {rest texts : List String}

/-- One walks on **from folders** only. -/
theorem folder_of_walk_cons (h : d.walk here (part :: rest) = some p) :
    d.get? here = some .folder := by
  rw [walk] at h
  split at h
  case isTrue hfolder => exact hfolder
  case isFalse => cases h

/-- What one walks to is **there**. -/
theorem IsTree.isSome_of_walk (htree : d.IsTree) (hhere : (d.get? here).isSome = true)
    (h : d.walk here texts = some p) : (d.get? p).isSome = true := by
  induction texts generalizing here with
  | nil =>
    obtain rfl : here = p := Option.some.inj h
    exact hhere
  | cons part rest ih =>
    have hfolder := folder_of_walk_cons h
    rw [walk, if_pos hfolder] at h
    split at h
    · exact ih hhere h
    · split at h
      · exact ih (isSome_of_folder (htree.folder_dropLast hfolder)) h
      · split at h
        case isTrue hthere => exact ih hthere h
        case isFalse => cases h

/-- Where one walks to a folder depends on the **folders** alone. -/
theorem walk_congr (hfolders : ∀ q, d.get? q = some .folder → d'.get? q = some .folder)
    (h : d.walk here texts = some p) (hp : d.get? p = some .folder) :
    d'.walk here texts = some p := by
  induction texts generalizing here with
  | nil => exact h
  | cons part rest ih =>
    have hfolder := folder_of_walk_cons h
    rw [walk, if_pos hfolder] at h
    rw [walk, if_pos (hfolders here hfolder)]
    split at h
    case isTrue hstay =>
      rw [if_pos hstay]
      exact ih h
    case isFalse hstay =>
      rw [if_neg hstay]
      split at h
      case isTrue hup =>
        rw [if_pos hup]
        exact ih h
      case isFalse hup =>
        rw [if_neg hup]
        split at h
        case isTrue =>
          -- What is walked through is a folder, and so is what is walked to.
          have hnext : d.get? (here ++ [part]) = some .folder := by
            cases rest with
            | nil => rwa [Option.some.inj h]
            | cons next rest => exact folder_of_walk_cons h
          rw [if_pos (isSome_of_folder (hfolders _ hnext))]
          exact ih h
        case isFalse => cases h

end Walk

section Resolve

variable {working p : Path} {text : String}

/-- Where a written path leads somewhere, its **parts** do, from the root or from the working
folder. -/
theorem exists_walk_of_resolve? (h : d.resolve? working text = some p) :
    misspelt? text = none ∧ ∃ here, d.walk here (parts text) = some p ∧
      ∀ d' : Disk, d'.resolve? working text = d'.walk here (parts text) := by
  have hspelt : ¬ (text = "" ∨ (misspelt? text).isSome) := by
    intro hwrong
    rw [resolve?, if_pos hwrong] at h
    cases h
  have hnone : misspelt? text = none :=
    Option.not_isSome_iff_eq_none.1 fun hwrong => hspelt (.inr hwrong)
  rw [resolve?, if_neg hspelt] at h
  by_cases hroot : text.toList.head? = some '/'
  · rw [if_pos hroot] at h
    refine ⟨hnone, [], h, fun d' => ?_⟩
    rw [resolve?, if_neg hspelt, if_pos hroot]
  · rw [if_neg hroot] at h
    refine ⟨hnone, working, h, fun d' => ?_⟩
    rw [resolve?, if_neg hspelt, if_neg hroot]

/-- A written path that leads somewhere leads to **something**. -/
theorem IsTree.isSome_of_resolve? (htree : d.IsTree) (h : d.resolve? working text = some p) :
    (d.get? p).isSome = true := by
  obtain ⟨-, here, hwalk, -⟩ := exists_walk_of_resolve? h
  obtain ⟨part, rest, hparts⟩ := List.exists_cons_of_ne_nil (parts_ne_nil text)
  have hhere : d.get? here = some .folder := folder_of_walk_cons (hparts ▸ hwalk)
  exact htree.isSome_of_walk (isSome_of_folder hhere) hwalk

/-- Where a path leads to a folder depends on the **folders** alone. -/
theorem resolve?_congr (hfolders : ∀ q, d.get? q = some .folder → d'.get? q = some .folder)
    (h : d.resolve? working text = some p) (hp : d.get? p = some .folder) :
    d'.resolve? working text = some p := by
  obtain ⟨-, here, hwalk, hresolve⟩ := exists_walk_of_resolve? h
  rw [hresolve d']
  exact walk_congr hfolders hwalk hp

end Resolve

/-! ### Removing folders -/

/-- What is below a path is **gone**, and all else stays. -/
theorem get?_eraseBelow (d : Disk) (p q : Path) :
    (d.eraseBelow p).get? q = if p <+: q ∧ q ≠ p then none else d.get? q := by
  by_cases hq : q = []
  · subst hq
    rw [get?_root, get?_root, if_neg]
    rintro ⟨hunder, hne⟩
    exact hne (List.prefix_nil.1 hunder).symm
  · have hkeep : (!(p.isPrefixOf q && q ≠ p)) = true ↔ ¬ (p <+: q ∧ q ≠ p) := by
      rw [Bool.not_eq_true', ← Bool.not_eq_true, Bool.and_eq_true, List.isPrefixOf_iff_prefix,
        decide_eq_true_eq]
    have hfilter := Table.get?_filter d.nodes (fun q => !(p.isPrefixOf q && q ≠ p)) q
    rw [get?, get?, if_neg hq, if_neg hq, eraseBelow, hfilter]
    simp only [hkeep, ite_not]

/-- There is always a root, and no entry for it. -/
theorem get?_erase_root (d : Disk) (q : Path) : (d.erase []).get? q = d.get? q := by
  by_cases hq : q = []
  · rw [hq, get?_root, get?_root]
  · rw [get?, get?, if_neg hq, if_neg hq, erase, Table.get?_erase, if_neg hq]

/-- Without what is below a folder a disk is still a **tree**. -/
theorem IsTree.eraseBelow (h : d.IsTree) (p : Path) : (d.eraseBelow p).IsTree := by
  intro q name hthere
  rw [get?_eraseBelow] at hthere ⊢
  split at hthere
  case isTrue => cases hthere
  case isFalse hkept =>
    rw [if_neg, h q name hthere]
    rintro ⟨hunder, hne⟩
    refine hkept ⟨hunder.trans (List.prefix_append q [name]), ?_⟩
    rintro rfl
    exact absurd hunder.length_le (by simp)

/-- Without what is at and below a path a disk is still a **tree**. -/
theorem IsTree.erase_eraseBelow (h : d.IsTree) (p : Path) : ((d.eraseBelow p).erase p).IsTree := by
  by_cases hp : p = []
  · intro q name hthere
    rw [hp, get?_erase_root] at hthere ⊢
    exact h.eraseBelow [] q name hthere
  · intro q name hthere
    rw [get?_erase hp] at hthere ⊢
    split at hthere
    case isTrue => cases hthere
    case isFalse hkept =>
      rw [if_neg, h.eraseBelow p q name hthere]
      rintro rfl
      rw [get?_eraseBelow, if_pos ⟨List.prefix_append _ _, by simp⟩] at hthere
      cases hthere

/-- What is left when a folder is removed is a **tree** again. -/
theorem IsTree.removeAll (h : d.IsTree) (working : Path) (text : String) :
    (d.removeAll working text).2.IsTree := by
  rw [Disk.removeAll]
  split
  · exact h
  case h_2 p _ =>
    split
    · split
      · exact h.eraseBelow p
      · exact h.eraseBelow p
      · exact h.erase_eraseBelow p
    · exact h

end Guildkeep.Disk
