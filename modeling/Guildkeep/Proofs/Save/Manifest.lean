import Guildkeep.Proofs.Game.Record
import Guildkeep.Save.Manifest
import Mathlib.Data.List.Perm.Basic

/-!
# The Manifest Reads Back and Gives Up the Oldest

A manifest reads back from the text that is stored for it. Eviction neither makes nor loses an
entry: what is given up and what is kept are together what there was. In a manifest whose entries
stand in the order of time, which is how a clock that never goes back fills it, the oldest entries
are the first ones.

## Main results

* `ofText_text`: a **manifest** of a version that is understood is read back.
* `takeOldest_place`: where the **oldest** entry stands.
* `evict_perm`, `evict_sublist`: eviction **splits** the entries and keeps their order.
* `evict_of_ordered`, `newestFirst_of_ordered`: eviction and listing on entries in order of time.
-/

namespace Guildkeep.Save.Manifest

open Json

/-! ### Text -/

/-- A title is **read back**. -/
theorem reads_title (title : String) :
    Reads (readOption readString) (string title).text (some title) := by
  refine reads_some (reads_string title) (starts_text _) ?_
  simp [Json.text, stringText]

/-- An entry is **read back**. -/
theorem reads_entry (e : Entry) : Reads readEntry (entryJson e).text e := by
  obtain ⟨id, title, timestamp⟩ := e
  cases title with
  | some title =>
    refine reads_record "SaveMetadata" (
      .cons rfl rfl (reads_slot _ _ _ (reads_string id) _) <|
      .cons rfl rfl (reads_optional (reads_slot _ _ _ (reads_title title) _)) <|
      .cons rfl rfl (reads_slot _ _ _ (Time.reads_instant timestamp) _) <|
      .nil _) ?_
    rfl
  | none =>
    refine reads_record "SaveMetadata" (
      .cons rfl rfl (reads_slot _ _ _ (reads_string id) _) <|
      .cons rfl rfl (reads_slot _ _ _ (Time.reads_instant timestamp) _) <|
      .nil _) ?_
    rfl

/-- A manifest is **read back**. -/
theorem reads_manifest (m : Manifest) : Reads read m.toJson.text m := by
  refine reads_record "SaveIndex" (
    .cons rfl rfl (reads_slot _ _ _ (reads_uint32 m.version) _) <|
    .cons rfl rfl (reads_slot _ _ _ (reads_list fun e _ => reads_entry e) _) <|
    .nil _) ?_
  rfl

/-- A **manifest** of a version that is understood is read back from its text. -/
theorem ofText_text {m : Manifest} (h : m.version ≤ currentVersion) : ofText m.text = .ok m := by
  have hversion : ¬ currentVersion < m.version := UInt32.not_lt.2 h
  rw [ofText, text, run_of_reads (reads_manifest m)]
  simp only [hversion, if_false]

/-- A manifest that can be read has a **known version**. -/
theorem version_le_of_ofText {s : String} {m : Manifest} (h : ofText s = .ok m) :
    m.version ≤ currentVersion := by
  rw [ofText] at h
  split at h
  · cases h
  · split at h
    · cases h
    case isFalse hversion =>
      cases h
      exact UInt32.not_lt.1 hversion

/-! ### Eviction -/

/-- The **oldest** entry stands behind later ones, and no earlier one stands behind it. -/
theorem takeOldest_place {entries others : List Entry} {o : Entry}
    (h : takeOldest entries = some (o, others)) :
    ∃ front back, entries = front ++ o :: back ∧ others = front ++ back ∧
      (∀ e ∈ front, o.timestamp.rank < e.timestamp.rank) ∧
      ∀ e ∈ back, o.timestamp.rank ≤ e.timestamp.rank := by
  induction entries generalizing o others with
  | nil => cases h
  | cons e rest ih =>
    rw [takeOldest] at h
    split at h
    case h_1 hnone =>
      obtain ⟨rfl, rfl⟩ := by simpa using h
      rw [takeOldest_eq_none_iff.1 hnone]
      exact ⟨[], [], rfl, rfl, List.forall_mem_nil _, List.forall_mem_nil _⟩
    case h_2 o' others' hsome =>
      obtain ⟨front, back, rfl, rfl, hfront, hback⟩ := ih hsome
      split at h
      case isTrue hbefore =>
        obtain ⟨rfl, rfl⟩ := by simpa using h
        refine ⟨e :: front, back, rfl, rfl, ?_, hback⟩
        exact List.forall_mem_cons.2 ⟨of_decide_eq_true hbefore, hfront⟩
      case isFalse hbefore =>
        obtain ⟨rfl, rfl⟩ := by simpa using h
        -- The first entry is not later than the oldest of the rest, so than none of them.
        have hfirst : e.timestamp.rank ≤ o'.timestamp.rank := by
          simpa [Time.Instant.before] using hbefore
        refine ⟨[], front ++ o' :: back, rfl, rfl, List.forall_mem_nil _, ?_⟩
        intro x hx
        rcases List.mem_append.1 hx with hx | hx
        · exact hfirst.trans (hfront x hx).le
        · rcases List.mem_cons.1 hx with rfl | hx
          · exact hfirst
          · exact hfirst.trans (hback x hx)

/-- The oldest entry is taken out from **where it stands**. -/
theorem takeOldest_split {entries others : List Entry} {o : Entry}
    (h : takeOldest entries = some (o, others)) :
    ∃ front back, entries = front ++ o :: back ∧ others = front ++ back := by
  obtain ⟨front, back, hentries, hothers, -⟩ := takeOldest_place h
  exact ⟨front, back, hentries, hothers⟩

/-- Eviction **splits** the entries: none is made and none is lost. -/
theorem evict_perm (n : Nat) (entries : List Entry) :
    ((evict n entries).1 ++ (evict n entries).2).Perm entries := by
  induction n generalizing entries with
  | zero => exact .refl _
  | succ n ih =>
    rw [evict]
    split
    case h_1 => exact .refl _
    case h_2 o others hold =>
      obtain ⟨front, back, rfl, rfl⟩ := takeOldest_split hold
      exact ((ih (front ++ back)).cons o).trans List.perm_middle.symm

/-- Eviction leaves the entries that are kept in their **order**. -/
theorem evict_sublist (n : Nat) (entries : List Entry) : (evict n entries).2.Sublist entries := by
  induction n generalizing entries with
  | zero => exact .refl _
  | succ n ih =>
    rw [evict]
    split
    case h_1 => exact .refl _
    case h_2 o others hold =>
      obtain ⟨front, back, rfl, rfl⟩ := takeOldest_split hold
      exact (ih (front ++ back)).trans
        (List.Sublist.append_left (List.sublist_cons_self o back) front)

/-- **No more than the limit** is kept. -/
theorem length_evictOver_le (m : Manifest) (limit : Nat) :
    (m.evictOver limit).2.entries.length ≤ limit := by
  have hlength := (length_evict (Nat.sub_le m.entries.length limit)).2
  change (evict (m.entries.length - limit) m.entries).2.length ≤ limit
  omega

/-- With the newest first a manifest has the **same entries**. -/
theorem newestFirst_perm (m : Manifest) : m.newestFirst.Perm m.entries :=
  (List.mergeSort_perm ..).trans m.entries.reverse_perm

/-! ### Entries in order of time -/

/-- The entries stand in the **order of time**. -/
def Ordered (entries : List Entry) : Prop :=
  entries.Pairwise fun a b => a.timestamp.rank ≤ b.timestamp.rank

/-- In a manifest with the oldest first **the first** is the oldest. -/
theorem takeOldest_of_ordered {e : Entry} {rest : List Entry} (h : Ordered (e :: rest)) :
    takeOldest (e :: rest) = some (e, rest) := by
  rw [takeOldest]
  split
  case h_1 hnone => rw [takeOldest_eq_none_iff.1 hnone]
  case h_2 o others hold =>
    obtain ⟨front, back, rfl, rfl⟩ := takeOldest_split hold
    have hle := List.rel_of_pairwise_cons h (show o ∈ front ++ o :: back by simp)
    rw [if_neg]
    simpa [Time.Instant.before] using hle

/-- In order of time the **first** entries are given up. -/
theorem evict_of_ordered {entries : List Entry} (h : Ordered entries) (n : Nat) :
    evict n entries = (entries.take n, entries.drop n) := by
  induction n generalizing entries with
  | zero => rfl
  | succ n ih =>
    cases entries with
    | nil => rfl
    | cons e rest =>
      simp only [evict, takeOldest_of_ordered h, ih (List.Pairwise.of_cons h), List.take_succ_cons,
        List.drop_succ_cons]

/-- In order of time the list is the manifest **backwards**. -/
theorem newestFirst_of_ordered {m : Manifest} (h : Ordered m.entries) :
    m.newestFirst = m.entries.reverse := by
  refine List.mergeSort_of_pairwise ?_
  rw [List.pairwise_reverse]
  refine List.Pairwise.imp ?_ h
  intro a b hle
  simpa [Time.Instant.before] using hle

end Guildkeep.Save.Manifest
