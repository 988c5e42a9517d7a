import Guildkeep.Proofs.Save.Health
import Guildkeep.Proofs.Save.Manifest
import Guildkeep.Proofs.Save.Outcome

/-!
# The Ledger

The saves of a store as one list, the newest first: each line has the entry of a save and its
snapshot. A ledger answers every request by looking at the list alone. It is what the manager is
meant to be, without manifest, payloads and keys.

A store holds the lines of a ledger if its manifest lists them, backwards, and the payload of every
listed id and of no other is there. The operations of the archive on a store in memory then do to
the lines what the ledger does.

## Main results

* `Ledger.ask`: what a ledger **answers**.
* `Holds`: a store holds the lines of a ledger.
* `add_of_holds`, `fetch_of_holds`, `remove_of_holds`, `list_of_holds`: the operations of the
  archive, seen through the ledger.
-/

namespace Guildkeep.Save

open Archive Game Store

/-- A **line** of a ledger. -/
structure Line where
  entry : Entry
  snapshot : Snapshot

/-- What a save is **stamped** with: its id and its time. -/
structure Stamp where
  id : String
  time : Time.Instant

/-- The line of a save with a stamp. -/
def Stamp.line (stamp : Stamp) (title : Option String) (s : Snapshot) : Line where
  entry := ⟨stamp.id, title, stamp.time⟩
  snapshot := s

/-- The **ledger**: the saves, the newest first, and what is held at the moment. -/
structure Ledger where
  lines : List Line := []
  current : Option Snapshot := none
  autoSave : Bool := false

namespace Ledger

/-- The line of an id. -/
def find? (lines : List Line) (id : String) : Option Line :=
  lines.find? (·.entry.id == id)

/-- The ledger with a new line in front, cut to the number of lines to keep; or why the snapshot
cannot be saved. -/
def record (l : Ledger) (keep : Nat) (stamp : Stamp) (title : Option String) (s : Snapshot) :
    Except Error Ledger :=
  match (Payload.floats s).find? fun f => !f.2.isFinite with
  | some (field, value) => .error (.codec (.notFinite field value))
  | none => .ok { l with lines := (stamp.line title s :: l.lines).take keep }

/-- The **answer** to a request, and the ledger after it. -/
def ask (l : Ledger) (keep : Nat) (stamp : Stamp) : Request → Answer × Ledger
  | .setState s => (.done, { l with current := some s })
  | .save title =>
    match l.current with
    | none => (.failed .noActiveState, l)
    | some s =>
      match l.record keep stamp title s with
      | .error why => (.failed why, l)
      | .ok l => (.saved stamp.id, l)
  | .load id =>
    match find? l.lines id with
    | none => (.failed (.notFound id), l)
    | some line => (.loaded line.snapshot, l)
  | .delete id => (.done, { l with lines := l.lines.filter (·.entry.id ≠ id) })
  | .list => (.listed (l.lines.map (·.entry)), l)
  | .enableAutoSave => (.done, { l with autoSave := true })
  | .disableAutoSave => (.done, { l with autoSave := false })
  | .tick =>
    match l.autoSave, l.current with
    | true, some s =>
      match l.record keep stamp none s with
      | .error why => (.failed why, l)
      | .ok l => (.ticked (some stamp.id), l)
    | _, _ => (.ticked none, l)

end Ledger

/-! ### Lines -/

/-- Where ids are distinct, removing the first entry with an id removes **every** one. -/
theorem Manifest.eraseP_eq_filter {entries : List Entry} (h : (entries.map (·.id)).Nodup)
    (id : String) : entries.eraseP (·.id == id) = entries.filter (·.id ≠ id) := by
  induction entries with
  | nil => rfl
  | cons e rest ih =>
    obtain ⟨hnew, hrest⟩ := List.nodup_cons.1 h
    by_cases he : e.id = id
    · have hstay : rest.filter (·.id ≠ id) = rest := by
        rw [List.filter_eq_self]
        intro e' he'
        have hne : e'.id ≠ id := by
          intro heq
          exact hnew (List.mem_map.2 ⟨e', he', heq.trans he.symm⟩)
        simpa using hne
      rw [List.eraseP_cons_of_pos (by simpa using he), List.filter_cons_of_neg (by simpa using he),
        hstay]
    · rw [List.eraseP_cons_of_neg (by simpa using he), List.filter_cons_of_pos (by simpa using he),
        ih hrest]

namespace Ledger

/-- The ids of lines. -/
def ids (lines : List Line) : List String :=
  lines.map (·.entry.id)

/-- What is not found is on **no line**. -/
theorem find?_eq_none_iff {lines : List Line} {id : String} :
    find? lines id = none ↔ id ∉ ids lines := by
  simp [find?, ids, List.find?_eq_none]

/-- Whoever is not among the lines that are **cut off** is found as before. -/
theorem find?_take {lines : List Line} {keep : Nat} {id : String}
    (h : id ∉ ids (lines.drop keep)) : find? (lines.take keep) id = find? lines id := by
  have hsplit : find? lines id = (find? (lines.take keep) id).or (find? (lines.drop keep) id) := by
    rw [find?, find?, find?, ← List.find?_append, List.take_append_drop]
  rw [hsplit, find?_eq_none_iff.2 h, Option.or_none]

/-- Whoever is among the lines that are cut off is **gone**. -/
theorem find?_take_eq_none {lines : List Line} {keep : Nat} {id : String}
    (hdistinct : (ids lines).Nodup) (h : id ∈ ids (lines.drop keep)) :
    find? (lines.take keep) id = none := by
  rw [find?_eq_none_iff]
  rw [ids, ← List.take_append_drop keep lines, List.map_append, List.nodup_append] at hdistinct
  intro htake
  exact hdistinct.2.2 id htake id h rfl

/-- With the lines of one id struck out only **that id** is not found any more. -/
theorem find?_filter (lines : List Line) (id id' : String) :
    find? (lines.filter (·.entry.id ≠ id)) id' = if id' = id then none else find? lines id' := by
  rw [find?, List.find?_filter, find?]
  split
  case isTrue heq =>
    rw [List.find?_eq_none]
    intro line _
    simp [heq]
  case isFalse hne =>
    congr 1
    funext line
    by_cases hline : line.entry.id = id'
    · simp [hline, hne]
    · simp [hline]

end Ledger

/-! ### Stores in memory -/

section Memory

variable {m : Memory}

/-- A memory that is switched on **loads** the text. -/
theorem load_memory (hm : m.available = true) (key : String) :
    Store.load m key = (.ok (texts m key), m) :=
  if_pos hm

/-- A memory that is switched on **saves** the text. -/
theorem save_memory (hm : m.available = true) (key text : String) :
    ∃ m' : Memory, Store.save m key text = (.ok (), m') ∧ m'.available = true ∧
      texts m' = Function.update (texts m) key (some text) :=
  ⟨_, if_pos hm, hm, Memory.get?_put_eq m.texts key text⟩

/-- A memory that is switched on **deletes** the text. -/
theorem delete_memory (hm : m.available = true) (key : String) :
    ∃ m' : Memory, Store.delete m key = (.ok (), m') ∧ m'.available = true ∧
      texts m' = Function.update (texts m) key none :=
  ⟨_, if_pos hm, hm, Memory.get?_erase_eq m.texts key⟩

/-- A memory that is switched on **clears** every id. -/
theorem clear_memory (hm : m.available = true) (ids : List String) :
    (clear m ids).available = true ∧ texts (clear m ids) = without ids (texts m) := by
  induction ids generalizing m with
  | nil => exact ⟨hm, (without_nil _).symm⟩
  | cons id ids ih =>
    obtain ⟨m', hdelete, hm', htexts⟩ := delete_memory hm id
    obtain ⟨havailable, hclear⟩ := ih hm'
    rw [clear, List.foldl_cons, hdelete, ← without_cons, ← htexts]
    exact ⟨havailable, hclear⟩

/-- A memory that is switched on **reads** its manifest. -/
theorem manifest_memory (hm : m.available = true) {manifest : Manifest}
    (h : listing (texts m) = .ok manifest) : Archive.manifest m = (.ok manifest, m) := by
  rw [Archive.manifest, load_memory hm]
  rw [listing] at h
  split at h
  case h_1 hkey =>
    cases h
    rw [hkey]
  case h_2 text hkey => simp only [hkey, h]

/-- A memory that is switched on **writes** its manifest. -/
theorem putManifest_memory (hm : m.available = true) (manifest : Manifest) :
    ∃ m' : Memory, putManifest m manifest = (.ok (), m') ∧ m'.available = true ∧
      texts m' = Function.update (texts m) Manifest.key (some manifest.text) := by
  obtain ⟨m', hsave, hm', htexts⟩ := save_memory hm Manifest.key manifest.text
  exact ⟨m', by rw [putManifest, hsave], hm', htexts⟩

/-- **Adding** a save to a store in memory does all that it is for. -/
theorem add_memory (hm : m.available = true) {manifest : Manifest}
    (h : listing (texts m) = .ok manifest) (keep : Nat) (entry : Entry) (payload : String) :
    ∃ m' : Memory,
      add m keep entry payload = (.ok ((manifest.push entry).evictOver keep).1, m') ∧
      m'.available = true ∧
      texts m' = addedTexts (texts m) entry.id payload ((manifest.push entry).evictOver keep).2
        (((manifest.push entry).evictOver keep).1.map (·.id)) := by
  obtain ⟨m₁, hsave, hm₁, htexts₁⟩ := save_memory hm entry.id payload
  obtain ⟨m₂, hput, hm₂, htexts₂⟩ :=
    putManifest_memory hm₁ ((manifest.push entry).evictOver keep).2
  obtain ⟨hm₃, htexts₃⟩ :=
    clear_memory hm₂ (((manifest.push entry).evictOver keep).1.map (·.id))
  refine ⟨_, by simp only [add, manifest_memory hm h, hsave, hput], hm₃, ?_⟩
  rw [htexts₃, htexts₂, htexts₁, addedTexts]

/-- **Reading** a save from a store in memory leaves the store as it is. -/
theorem fetch_memory (hm : m.available = true) (id : String) :
    ∃ result, fetch m id = (result, m) := by
  suffices h : (fetch m id).2 = m from ⟨(fetch m id).1, Prod.ext rfl h⟩
  rw [fetch, load_memory hm]
  split
  · rfl
  cases texts m id with
  | none => rfl
  | some payload =>
    simp only
    split <;> rfl

/-- **Removing** a save from a store in memory takes it from the manifest, if it is listed, and
deletes its payload. -/
theorem remove_memory (hm : m.available = true) {manifest : Manifest}
    (h : listing (texts m) = .ok manifest) {id : String} (hfree : id ≠ Manifest.key) :
    ∃ m' : Memory, remove m id = (.ok true, m') ∧ m'.available = true ∧
      texts m' =
        if id ∈ manifest.ids then
          without [id] (Function.update (texts m) Manifest.key (some (manifest.remove id).text))
        else Function.update (texts m) id none := by
  rw [remove, if_neg hfree, manifest_memory hm h]
  simp only
  cases hfind : manifest.find? id with
  | some entry =>
    have hid : id ∈ manifest.ids := by
      by_contra hnot
      rw [Manifest.find?_eq_none_iff.2 hnot] at hfind
      cases hfind
    obtain ⟨m₁, hput, hm₁, htexts₁⟩ := putManifest_memory hm (manifest.remove id)
    obtain ⟨hm₂, htexts₂⟩ := clear_memory hm₁ [id]
    refine ⟨clear m₁ [id], by simp only [hput], hm₂, ?_⟩
    rw [if_pos hid, htexts₂, htexts₁]
  | none =>
    obtain ⟨m₁, hdelete, hm₁, htexts₁⟩ := delete_memory hm id
    refine ⟨m₁, by simp only [hdelete], hm₁, ?_⟩
    rw [if_neg (Manifest.find?_eq_none_iff.1 hfind), htexts₁]

end Memory

/-! ### What a store holds -/

/-- Texts **hold** the lines of a ledger, and nothing else. -/
structure Holds (texts : Texts) (lines : List Line) : Prop where
  /-- The manifest lists the lines, the oldest first. -/
  listed : listing texts = .ok { entries := (lines.map (·.entry)).reverse }
  /-- Exactly the listed ids have payloads, and these are those of their snapshots. -/
  held : ∀ id, id ≠ Manifest.key →
    (texts id).map Payload.decode = (Ledger.find? lines id).map fun line => .ok line.snapshot
  distinct : (Ledger.ids lines).Nodup
  reserved : Manifest.key ∉ Ledger.ids lines
  /-- No line is younger than the one before. -/
  ordered : lines.Pairwise fun a b => b.entry.timestamp.rank ≤ a.entry.timestamp.rank

namespace Holds

variable {texts : Texts} {lines : List Line}

/-- Lines with the newest first list entries **with the oldest first**. -/
theorem ordered_entries
    (h : lines.Pairwise fun a b => b.entry.timestamp.rank ≤ a.entry.timestamp.rank) :
    Manifest.Ordered (lines.map (·.entry)).reverse := by
  rw [Manifest.Ordered, List.pairwise_reverse, List.pairwise_map]
  exact h

/-- On lines in order, eviction gives up what is **cut off** from the ledger. -/
theorem evictOver_eq
    (h : lines.Pairwise fun a b => b.entry.timestamp.rank ≤ a.entry.timestamp.rank) (keep : Nat) :
    ({ entries := (lines.map (·.entry)).reverse } : Manifest).evictOver keep =
      (((lines.drop keep).map (·.entry)).reverse,
        { entries := ((lines.take keep).map (·.entry)).reverse }) := by
  have htake : (lines.map (·.entry)).reverse.take ((lines.map (·.entry)).length - keep) =
      ((lines.drop keep).map (·.entry)).reverse := by
    rw [List.map_drop, List.reverse_drop]
  have hdrop : (lines.map (·.entry)).reverse.drop ((lines.map (·.entry)).length - keep) =
      ((lines.take keep).map (·.entry)).reverse := by
    rw [List.map_take, List.reverse_take]
  simp only [Manifest.evictOver, Manifest.evict_of_ordered (ordered_entries h), List.length_reverse,
    htake, hdrop]

/-- The texts after a save was **added** hold the ledger with the new line in front. -/
theorem added (h : Holds texts lines) {line : Line} (hnew : line.entry.id ∉ Ledger.ids lines)
    (hfree : line.entry.id ≠ Manifest.key)
    (hlatest : ∀ old ∈ lines, old.entry.timestamp.rank ≤ line.entry.timestamp.rank)
    {payload : String} (hdecode : Payload.decode payload = .ok line.snapshot) (keep : Nat) :
    Holds
      (addedTexts texts line.entry.id payload
        { entries := (((line :: lines).take keep).map (·.entry)).reverse }
        (Ledger.ids ((line :: lines).drop keep)))
      ((line :: lines).take keep) := by
  have hdistinct : (Ledger.ids (line :: lines)).Nodup := List.nodup_cons.2 ⟨hnew, h.distinct⟩
  have hreserved : Manifest.key ∉ Ledger.ids (line :: lines) := by
    intro hkey
    rcases List.mem_cons.1 hkey with hkey | hkey
    · exact hfree hkey.symm
    · exact h.reserved hkey
  have hcut : Manifest.key ∉ Ledger.ids ((line :: lines).drop keep) := fun hkey =>
    hreserved ((List.drop_sublist keep (line :: lines)).map _ |>.subset hkey)
  constructor
  · exact listing_written hcut (UInt32.le_refl _)
  · intro id hid
    rw [addedTexts, without]
    split
    case isTrue hgone =>
      rw [Ledger.find?_take_eq_none hdistinct hgone]
      rfl
    case isFalse hstays =>
      rw [Function.update_of_ne hid, Ledger.find?_take hstays, Ledger.find?, List.find?_cons]
      by_cases hline : line.entry.id = id
      · subst hline
        simp [hdecode]
      · rw [Function.update_of_ne (Ne.symm hline), beq_false_of_ne hline]
        exact h.held id hid
  · exact hdistinct.sublist ((List.take_sublist keep (line :: lines)).map _)
  · exact fun hkey => hreserved ((List.take_sublist keep (line :: lines)).map _ |>.subset hkey)
  · exact (List.pairwise_cons.2 ⟨hlatest, h.ordered⟩).sublist (List.take_sublist keep _)

/-- The texts after a listed save was **removed** hold the ledger without its line. -/
theorem removed (h : Holds texts lines) {id : String} (hfree : id ≠ Manifest.key) :
    Holds
      (without [id] (Function.update texts Manifest.key
        (some (Manifest.text
          { entries := ((lines.filter (·.entry.id ≠ id)).map (·.entry)).reverse }))))
      (lines.filter (·.entry.id ≠ id)) := by
  have hids : (Ledger.ids (lines.filter (·.entry.id ≠ id))).Sublist (Ledger.ids lines) :=
    (List.filter_sublist).map _
  constructor
  · exact listing_written (by simpa using hfree.symm) (UInt32.le_refl _)
  · intro id' hid'
    rw [without, Ledger.find?_filter]
    by_cases heq : id' = id
    · simp [heq]
    · rw [if_neg (by simpa using heq), if_neg heq, Function.update_of_ne hid']
      exact h.held id' hid'
  · exact h.distinct.sublist hids
  · exact fun hkey => h.reserved (hids.subset hkey)
  · exact h.ordered.sublist List.filter_sublist

/-- An id that is **not listed** has no line to lose and no text. -/
theorem absent (h : Holds texts lines) {id : String} (hid : id ∉ Ledger.ids lines)
    (hfree : id ≠ Manifest.key) : Function.update texts id none = texts := by
  have hheld := h.held id hfree
  rw [Ledger.find?_eq_none_iff.2 hid] at hheld
  rw [← Option.map_eq_none_iff.1 hheld, Function.update_eq_self]

/-- Striking out an id that is on no line strikes out **nothing**. -/
theorem filter_eq_self {id : String} (hid : id ∉ Ledger.ids lines) :
    lines.filter (·.entry.id ≠ id) = lines := by
  rw [List.filter_eq_self]
  intro line hline
  have hne : line.entry.id ≠ id := by
    rintro rfl
    exact hid (List.mem_map_of_mem hline)
  simpa using hne

/-- Of distinct lines **one** is removed from the manifest. -/
theorem remove_eq (h : Holds texts lines) (id : String) :
    ({ entries := (lines.map (·.entry)).reverse } : Manifest).remove id =
      { entries := ((lines.filter (·.entry.id ≠ id)).map (·.entry)).reverse } := by
  have hdistinct : ((lines.map (·.entry)).reverse.map (·.id)).Nodup := by
    rw [List.map_reverse, List.map_map, List.nodup_reverse]
    exact h.distinct
  rw [Manifest.remove, Manifest.eraseP_eq_filter hdistinct, List.filter_reverse, List.filter_map]
  rfl

/-- The manifest of a ledger lists the **ids of its lines**. -/
theorem mem_ids_iff (id : String) :
    id ∈ ({ entries := (lines.map (·.entry)).reverse } : Manifest).ids ↔ id ∈ Ledger.ids lines := by
  simp [Manifest.ids, Ledger.ids]

end Holds

/-! ### Operations -/

section Operations

variable {m : Memory} {lines : List Line}

/-- **Adding** a save puts a line in front and cuts the ledger. -/
theorem add_of_holds (hm : m.available = true) (h : Holds (texts m) lines) (line : Line)
    (hnew : line.entry.id ∉ Ledger.ids lines) (hfree : line.entry.id ≠ Manifest.key)
    (hlatest : ∀ old ∈ lines, old.entry.timestamp.rank ≤ line.entry.timestamp.rank)
    {payload : String} (hdecode : Payload.decode payload = .ok line.snapshot) (keep : Nat) :
    ∃ evicted m', add m keep line.entry payload = (.ok evicted, m') ∧ m'.available = true ∧
      Holds (texts m') ((line :: lines).take keep) := by
  have hpush : ({ entries := (lines.map (·.entry)).reverse } : Manifest).push line.entry =
      { entries := ((line :: lines).map (·.entry)).reverse } := by
    simp [Manifest.push]
  have hevict := Holds.evictOver_eq (List.pairwise_cons.2 ⟨hlatest, h.ordered⟩) keep
  have hgone : (((line :: lines).drop keep).map (·.entry)).reverse.map (·.id) =
      (Ledger.ids ((line :: lines).drop keep)).reverse := by
    rw [List.map_reverse, List.map_map]
    rfl
  obtain ⟨m', hadd, hm', htexts⟩ := add_memory hm h.listed keep line.entry payload
  refine ⟨_, m', hadd, hm', ?_⟩
  rw [htexts, hpush, hevict, hgone, addedTexts, without_reverse]
  exact h.added hnew hfree hlatest hdecode keep

/-- **Reading** a save reads its line. -/
theorem fetch_of_holds (hm : m.available = true) (h : Holds (texts m) lines) (id : String) :
    fetch m id =
      (match Ledger.find? lines id with
        | none => .error (.notFound id)
        | some line => .ok line.snapshot, m) := by
  rw [fetch]
  split
  case isTrue hkey =>
    subst hkey
    rw [Ledger.find?_eq_none_iff.2 h.reserved]
  case isFalse hfree =>
    have hheld := h.held id hfree
    rw [load_memory hm]
    cases hfind : Ledger.find? lines id with
    | none =>
      rw [hfind] at hheld
      simp only [Option.map_eq_none_iff.1 hheld]
    | some line =>
      rw [hfind] at hheld
      obtain ⟨payload, hpayload, hdecode⟩ := Option.map_eq_some_iff.1 hheld
      simp only [hpayload, hdecode]

/-- **Removing** a save removes its line. -/
theorem remove_of_holds (hm : m.available = true) (h : Holds (texts m) lines) (id : String) :
    ∃ attempted m', remove m id = (.ok attempted, m') ∧ m'.available = true ∧
      Holds (texts m') (lines.filter (·.entry.id ≠ id)) := by
  by_cases hfree : id = Manifest.key
  · subst hfree
    refine ⟨false, m, if_pos rfl, hm, ?_⟩
    rw [Holds.filter_eq_self h.reserved]
    exact h
  obtain ⟨m', hremove, hm', htexts⟩ := remove_memory hm h.listed hfree
  refine ⟨true, m', hremove, hm', ?_⟩
  rw [htexts, h.remove_eq]
  by_cases hid : id ∈ Ledger.ids lines
  · rw [if_pos ((Holds.mem_ids_iff id).2 hid)]
    exact h.removed hfree
  · rw [if_neg (mt (Holds.mem_ids_iff id).1 hid), h.absent hid hfree, Holds.filter_eq_self hid]
    exact h

/-- **Listing** the saves lists the lines. -/
theorem list_of_holds (hm : m.available = true) (h : Holds (texts m) lines) :
    list m = (.ok (lines.map (·.entry)), m) := by
  have hnewest : ({ entries := (lines.map (·.entry)).reverse } : Manifest).newestFirst =
      lines.map (·.entry) := by
    rw [Manifest.newestFirst_of_ordered (Holds.ordered_entries h.ordered), List.reverse_reverse]
  rw [list, manifest_memory hm h.listed]
  simp only [hnewest]

end Operations

end Guildkeep.Save
