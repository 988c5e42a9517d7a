import Guildkeep.Save.Payload

/-!
# The Manifest of Saves

A store cannot list its keys, so the saves are listed in a manifest of their own: one entry per
save, in the order in which they were made. Which saves are shown first and which are given up first
are two readings of one order: by time, and among equal times by place in the manifest.

## Main results

* `length_takeOldest`: giving up the oldest entry shortens the list by one.
* `length_evict`: eviction leaves `length - n` entries and yields the others.
-/

namespace Guildkeep.Save

open Time

/-- One save in the manifest. -/
structure Entry where
  id : String
  title : Option String
  timestamp : Instant
  deriving DecidableEq

/-- The **manifest**: a format version and the saves in the order in which they were made. -/
structure Manifest where
  version : UInt32 := 1
  entries : List Entry := []
  deriving DecidableEq

namespace Manifest

/-- The key under which the manifest is stored. -/
def key : String := "guild-manager-save-index"

/-- The newest format version that is understood. -/
def currentVersion : UInt32 := 1

/-! ### Entries -/

/-- The manifest with one more entry, at the end. -/
def push (m : Manifest) (e : Entry) : Manifest :=
  { m with entries := m.entries ++ [e] }

/-- The first entry with an id. -/
def find? (m : Manifest) (id : String) : Option Entry :=
  m.entries.find? (·.id == id)

/-- The manifest without the first entry with an id. -/
def remove (m : Manifest) (id : String) : Manifest :=
  { m with entries := m.entries.eraseP (·.id == id) }

/-- Splits off the **oldest** entry: the earliest one, the first in the list among equals. -/
def takeOldest : List Entry → Option (Entry × List Entry)
  | [] => none
  | e :: rest =>
    match takeOldest rest with
    | none => some (e, [])
    | some (o, others) =>
      if o.timestamp.before e.timestamp then some (o, e :: others) else some (e, rest)

/-- Splits off the `n` oldest entries, the oldest first, and yields them with those that stay. -/
def evict : Nat → List Entry → List Entry × List Entry
  | 0, entries => ([], entries)
  | n + 1, entries =>
    match takeOldest entries with
    | none => ([], entries)
    | some (o, others) =>
      let (evicted, kept) := evict n others
      (o :: evicted, kept)

/-- Gives up the oldest entries beyond a limit: the entries given up, the oldest first, and the
manifest that stays. -/
def evictOver (m : Manifest) (limit : Nat) : List Entry × Manifest :=
  let (evicted, kept) := evict (m.entries.length - limit) m.entries
  (evicted, { m with entries := kept })

/-- The entries **newest first**; among equal times the one made later comes first. -/
def newestFirst (m : Manifest) : List Entry :=
  m.entries.reverse.mergeSort fun a b => !a.timestamp.before b.timestamp

/-! ### JSON form -/

/-- The JSON form of an entry; a title that is missing is left out. -/
def entryJson (e : Entry) : Json :=
  .object
    ([("id", .string e.id)] ++ (match e.title with
      | some title => [("title", .string title)]
      | none => []) ++ [("timestamp", e.timestamp.toJson)])

/-- The JSON form of a manifest. -/
def toJson (m : Manifest) : Json :=
  .object [("version", .ofNat m.version.toNat), ("entries", .array (m.entries.map entryJson))]

/-- An entry in the making. -/
structure EntryDraft where
  id : Option String := none
  title : Option (Option String) := none
  timestamp : Option Instant := none

open Json in
/-- The fields of an entry. -/
def entryFields : List (RecordField EntryDraft) :=
  [.slot "id" (·.id) (fun d v => { d with id := some v }) readString,
   (RecordField.slot "title" (·.title) (fun d v => { d with title := some v })
     (readOption readString)).optional,
   .slot "timestamp" (·.timestamp) (fun d v => { d with timestamp := some v }) readInstant]

open Json in
/-- Reads an entry. -/
def readEntry : Reader Entry :=
  readRecord "SaveMetadata" entryFields {} fun d => do
    let id ← need "id" d.id
    let timestamp ← need "timestamp" d.timestamp
    .ok { id, title := d.title.getD none, timestamp }

/-- A manifest in the making. -/
structure Draft where
  version : Option UInt32 := none
  entries : Option (List Entry) := none

open Json in
/-- The fields of a manifest. -/
def fields : List (RecordField Draft) :=
  [.slot "version" (·.version) (fun d v => { d with version := some v }) readUInt32,
   .slot "entries" (·.entries) (fun d v => { d with entries := some v }) (readList readEntry)]

open Json in
/-- Reads a manifest of any version. -/
def read : Reader Manifest :=
  readRecord "SaveIndex" fields {} fun d => do
    let version ← need "version" d.version
    let entries ← need "entries" d.entries
    .ok { version, entries }

/-- The text that is stored for a manifest. -/
def text (m : Manifest) : String :=
  m.toJson.render

/-- The **manifest** that a stored text holds; a newer version is not understood. -/
def ofText (s : String) : Except CodecFault Manifest :=
  match read.run s with
  | .error why => .error (.json why)
  | .ok m => if currentVersion < m.version then .error (.newerVersion m.version) else .ok m

/-! ### Laws -/

/-- Only the empty list has no oldest entry. -/
theorem takeOldest_eq_none_iff {entries : List Entry} :
    takeOldest entries = none ↔ entries = [] := by
  cases entries with
  | nil => simp [takeOldest]
  | cons e rest =>
    simp only [takeOldest, reduceCtorEq, iff_false]
    split
    · simp
    · split <;> simp

/-- Giving up the oldest entry shortens the list by one. -/
theorem length_takeOldest {entries others : List Entry} {o : Entry}
    (h : takeOldest entries = some (o, others)) : others.length + 1 = entries.length := by
  induction entries generalizing o others with
  | nil => simp [takeOldest] at h
  | cons e rest ih =>
    rw [takeOldest] at h
    split at h
    · rename_i hnone
      obtain ⟨rfl, rfl⟩ := by simpa using h
      simp [takeOldest_eq_none_iff.1 hnone]
    · rename_i o' others' hsome
      split at h
      · obtain ⟨rfl, rfl⟩ := by simpa using h
        simpa using ih hsome
      · obtain ⟨rfl, rfl⟩ := by simpa using h
        rfl

/-- Eviction **splits** the entries into `n` given up and the rest kept. -/
theorem length_evict {n : Nat} {entries : List Entry} (h : n ≤ entries.length) :
    (evict n entries).1.length = n ∧ (evict n entries).2.length = entries.length - n := by
  induction n generalizing entries with
  | zero => simp [evict]
  | succ n ih =>
    cases hold : takeOldest entries with
    | none =>
      have := takeOldest_eq_none_iff.1 hold
      subst this
      simp at h
    | some p =>
      obtain ⟨o, others⟩ := p
      have hlen := length_takeOldest hold
      have hn : n ≤ others.length := by omega
      obtain ⟨h1, h2⟩ := ih hn
      simp only [evict, hold, List.length_cons, h1, h2, true_and]
      omega

end Manifest

end Guildkeep.Save
