import Guildkeep.Proofs.Save.Ledger

/-!
# When a Save Stays

A save that was made is listed and can be loaded, unless it is given up in the same breath. Which
saves are given up is decided by the times in the manifest. A manifest may list times that the clock
has not reached, and then the save that was just made can be the oldest of all.

## Main results

* `Manifest.mem_evictOver_push_iff`: the entry that was **pushed** is given up exactly if there are
  as many later ones as are kept.
* `saved_stays_iff`: a save **stays** exactly if neither its id nor the key of the manifest is given
  up.

## Conventions

The key of the manifest is no id of a save. Where a manifest lists it all the same and the entry is
given up, the manifest is deleted as if it were a payload, and nothing is listed any more.
-/

namespace Guildkeep.Save

open Archive Game Store

/-! ### Giving up the last entry -/

namespace Manifest

/-- How many entries are **later** than an instant. -/
def countLater (entries : List Entry) (t : Time.Instant) : Nat :=
  entries.countP fun e => t.before e.timestamp

variable {old others : List Entry} {e o : Entry}

/-- An entry behind later ones only is the **oldest**. -/
theorem takeOldest_concat_of_later (h : ∀ x ∈ old, e.timestamp.before x.timestamp = true) :
    takeOldest (old ++ [e]) = some (e, old) := by
  induction old with
  | nil => rfl
  | cons x rest ih =>
    have hrest := ih fun y hy => h y (List.mem_cons_of_mem x hy)
    rw [List.cons_append, takeOldest, hrest]
    exact if_pos (h x List.mem_cons_self)

/-- An entry behind one that is not later **stays** behind, when the oldest is split off. -/
theorem takeOldest_concat_of_not_later (h : ∃ x ∈ old, e.timestamp.before x.timestamp = false) :
    ∃ o others, takeOldest old = some (o, others) ∧
      takeOldest (old ++ [e]) = some (o, others ++ [e]) ∧
      e.timestamp.before o.timestamp = false := by
  induction old with
  | nil => simp at h
  | cons x rest ih =>
    by_cases hrest : ∃ y ∈ rest, e.timestamp.before y.timestamp = false
    · obtain ⟨o, others, hold, hconcat, hnot⟩ := ih hrest
      rw [List.cons_append, takeOldest, takeOldest, hold, hconcat]
      by_cases hbefore : o.timestamp.before x.timestamp = true
      · exact ⟨o, x :: others, if_pos hbefore, if_pos hbefore, hnot⟩
      · refine ⟨x, rest, if_neg hbefore, if_neg hbefore, ?_⟩
        simp only [Time.Instant.before, decide_eq_false_iff_not, decide_eq_true_iff]
          at hbefore hnot ⊢
        omega
    · -- Whatever follows the first entry is later than the last one, and so the first one is older.
      have hlater : ∀ y ∈ rest, e.timestamp.before y.timestamp = true := by
        intro y hy
        cases hy' : e.timestamp.before y.timestamp with
        | true => rfl
        | false => exact absurd ⟨y, hy, hy'⟩ hrest
      have hx : e.timestamp.before x.timestamp = false := by
        obtain ⟨y, hy, hy'⟩ := h
        rcases List.mem_cons.1 hy with rfl | hy
        · exact hy'
        · exact absurd ⟨y, hy, hy'⟩ hrest
      refine ⟨x, rest, ?_, ?_, hx⟩
      · rw [takeOldest]
        split
        case h_1 hnone => rw [takeOldest_eq_none_iff.1 hnone]
        case h_2 o others hold =>
          obtain ⟨front, back, rfl, -⟩ := takeOldest_split hold
          have ho := hlater o (by simp)
          rw [if_neg]
          simp only [Time.Instant.before, decide_eq_false_iff_not, decide_eq_true_iff] at ho hx ⊢
          omega
      · rw [List.cons_append, takeOldest, takeOldest_concat_of_later hlater]
        exact if_neg (by simp [hx])

/-- An entry that is not later does not **count**. -/
theorem countLater_takeOldest (h : takeOldest old = some (o, others)) {t : Time.Instant}
    (hnot : t.before o.timestamp = false) : countLater others t = countLater old t := by
  obtain ⟨front, back, rfl, rfl⟩ := takeOldest_split h
  simp [countLater, hnot]

/-- The **last** entry is given up exactly if the entries given up are more than those before it
that are not later. -/
theorem mem_evict_concat_iff (hnew : e.id ∉ old.map (·.id)) (n : Nat) :
    e.id ∈ (evict n (old ++ [e])).1.map (·.id) ↔ old.length < n + countLater old e.timestamp := by
  induction n generalizing old with
  | zero =>
    have hle : countLater old e.timestamp ≤ old.length := List.countP_le_length
    simp only [evict, List.map_nil, List.not_mem_nil, false_iff]
    omega
  | succ n ih =>
    by_cases hnot : ∃ x ∈ old, e.timestamp.before x.timestamp = false
    · obtain ⟨o, others, hold, hconcat, hbefore⟩ := takeOldest_concat_of_not_later hnot
      have hlength := length_takeOldest hold
      have hcount := countLater_takeOldest hold hbefore
      obtain ⟨front, back, rfl, rfl⟩ := takeOldest_split hold
      have ho : e.id ≠ o.id := fun heq => hnew (by simp [heq])
      have hothers : e.id ∉ (front ++ back).map (·.id) := by
        simp only [List.map_append, List.map_cons, List.mem_append, List.mem_cons] at hnew ⊢
        tauto
      simp only [evict, hconcat, List.map_cons, List.mem_cons, ho, false_or]
      rw [ih hothers, hcount]
      omega
    · have hlater : ∀ x ∈ old, e.timestamp.before x.timestamp = true := by
        intro x hx
        cases hx' : e.timestamp.before x.timestamp with
        | true => rfl
        | false => exact absurd ⟨x, hx, hx'⟩ hnot
      have hcount : countLater old e.timestamp = old.length := List.countP_eq_length.2 hlater
      simp only [evict, takeOldest_concat_of_later hlater, List.map_cons, List.mem_cons, true_or,
        true_iff, hcount]
      omega

/-- The entry that was **pushed** is given up exactly if there are as many later ones as are
kept. -/
theorem mem_evictOver_push_iff {m : Manifest} (hnew : e.id ∉ m.ids) (limit : Nat) :
    e.id ∈ ((m.push e).evictOver limit).1.map (·.id) ↔
      limit ≤ countLater m.entries e.timestamp := by
  have hle : countLater m.entries e.timestamp ≤ m.entries.length := List.countP_le_length
  have hlength : (m.entries ++ [e]).length = m.entries.length + 1 := List.length_append
  refine (mem_evict_concat_iff hnew ((m.entries ++ [e]).length - limit)).trans ?_
  omega

/-- Giving up entries does not change the **version**. -/
theorem version_evictOver_push (m : Manifest) (e : Entry) (limit : Nat) :
    ((m.push e).evictOver limit).2.version = m.version :=
  rfl

/-- With the newest first a manifest has the **same ids**. -/
theorem mem_newestFirst_ids {m : Manifest} {id : String} :
    id ∈ m.newestFirst.map (·.id) ↔ id ∈ m.ids :=
  (m.newestFirst_perm.map (·.id)).mem_iff

end Manifest

/-! ### A save in memory -/

section Memory

variable {store : Memory} {manifest : Manifest} {s : Snapshot} {id : String}

/-- What **saving** a snapshot comes to in a store in memory: the snapshot has no payload, or all is
done that a save is for. -/
theorem Manager.saveSnapshot_memory (m : Manager) (hm : store.available = true)
    (hlisting : listing (texts store) = .ok manifest) (ambient : Ambient) (s : Snapshot)
    (title : Option String) :
    let entry : Entry := ⟨saveId ambient.next.1, title, ambient.next.2.next.1.now⟩
    let split := (manifest.push entry).evictOver m.options.keep
    (∃ why, Payload.encode s m.options.enableCompression = .error why ∧
      m.saveSnapshot store ambient s title =
        (.error (.codec why), store, ambient.next.2.next.2, [])) ∨
    (∃ payload store' events, Payload.encode s m.options.enableCompression = .ok payload ∧
      m.saveSnapshot store ambient s title =
        (.ok entry.id, store', ambient.next.2.next.2, events) ∧
      store'.available = true ∧
      texts store' = addedTexts (texts store) entry.id payload split.2 (split.1.map (·.id))) := by
  intro entry split
  rw [saveSnapshot]
  cases hencode : Payload.encode s m.options.enableCompression with
  | error why => exact .inl ⟨why, rfl, rfl⟩
  | ok payload =>
    obtain ⟨store', hadd, hm', htexts⟩ := add_memory hm hlisting m.options.keep entry payload
    refine .inr ⟨payload, store', split.1.map (fun e => deleted e.id "evicted") ++
      [created entry.id title], rfl, ?_, hm', htexts⟩
    simp only [entry] at hadd
    simp only [hadd]
    rfl

/-- What a request that **saves** comes to in a store in memory: it fails at the payload, or the
save is made. -/
theorem Manager.answer_saves_memory {m : Manager} (hm : store.available = true)
    (hlisting : listing (texts store) = .ok manifest) {request : Request}
    (hsaves : m.toSave? request = some s) (ambient : Ambient) :
    let entry : Entry := ⟨saveId ambient.next.1, request.title?, ambient.next.2.next.1.now⟩
    let split := (manifest.push entry).evictOver m.options.keep
    let turn := m.answer store ambient request
    (∃ why, Payload.encode s m.options.enableCompression = .error why ∧
      turn.answer = .failed (.codec why) ∧ turn.store = store) ∨
    (∃ payload, Payload.encode s m.options.enableCompression = .ok payload ∧
      turn.answer.savedId? = some entry.id ∧ turn.store.available = true ∧
      texts turn.store =
        addedTexts (texts store) entry.id payload split.2 (split.1.map (·.id))) := by
  intro entry split turn
  have hsave := m.saveSnapshot_memory hm hlisting ambient s request.title?
  obtain ⟨hcurrent, hrequest⟩ := toSave?_cases hsaves
  rcases hsave with ⟨why, hencode, hsave⟩ | ⟨payload, store', events, hencode, hsave, hm', htexts⟩
  · refine .inl ⟨why, hencode, ?_⟩
    rcases hrequest with ⟨title, rfl⟩ | ⟨rfl, hauto⟩
    · simp only [turn, answer, hcurrent, Request.title?] at hsave ⊢
      simp only [hsave, and_self]
    · simp only [turn, answer, hcurrent, hauto, Request.title?] at hsave ⊢
      simp only [hsave, and_self]
  · refine .inr ⟨payload, hencode, ?_⟩
    suffices hturn : turn.answer.savedId? = some entry.id ∧ turn.store = store' by
      rw [hturn.2]
      exact ⟨hturn.1, hm', htexts⟩
    rcases hrequest with ⟨title, rfl⟩ | ⟨rfl, hauto⟩
    · simp only [turn, answer, hcurrent, Request.title?] at hsave ⊢
      simp only [hsave, Answer.savedId?, entry, and_self]
    · simp only [turn, answer, hcurrent, hauto, Request.title?] at hsave ⊢
      simp only [hsave, Answer.savedId?, entry, and_self]

/-- What a save that was **made** leaves in a store in memory. -/
theorem Manager.answer_save_memory {m : Manager} (hm : store.available = true)
    (hlisting : listing (texts store) = .ok manifest) (hcurrent : m.current = some s)
    {ambient : Ambient} {title : Option String}
    (hsaved : (m.answer store ambient (.save title)).answer = .saved id) :
    let split := (manifest.push ⟨id, title, ambient.next.2.next.1.now⟩).evictOver m.options.keep
    id = saveId ambient.next.1 ∧ (m.answer store ambient (.save title)).store.available = true ∧
      ∃ payload, Payload.decode payload = .ok s ∧
        texts (m.answer store ambient (.save title)).store =
          addedTexts (texts store) id payload split.2 (split.1.map (·.id)) := by
  have hsaves : m.toSave? (.save title) = some s := hcurrent
  rcases m.answer_saves_memory hm hlisting hsaves ambient with
    ⟨why, -, hfailed, -⟩ | ⟨payload, hencode, hid, hm', htexts⟩
  · cases hsaved.symm.trans hfailed
  · obtain rfl : id = saveId ambient.next.1 := by simpa [hsaved, Answer.savedId?] using hid
    exact ⟨rfl, hm', payload, (Payload.eq_of_encode hencode).2.1, htexts⟩

/-- A snapshot without a number that is not finite **is saved**. -/
theorem Manager.answer_save_of_finite {m : Manager} (hm : store.available = true)
    (hlisting : listing (texts store) = .ok manifest) (hcurrent : m.current = some s)
    (hfinite : (Payload.floats s).find? (fun f => !f.2.isFinite) = none) (ambient : Ambient)
    (title : Option String) :
    (m.answer store ambient (.save title)).answer = .saved (saveId ambient.next.1) := by
  rw [answer, hcurrent]
  rcases m.saveSnapshot_memory hm hlisting ambient s title with
    ⟨why, hencode, -⟩ | ⟨payload, store', events, -, hsave, -, -⟩
  · rw [Payload.encode, hfinite] at hencode
    cases hencode
  · simp only [hsave]

/-- A memory that is switched on **lists** its saves. -/
theorem list_memory (hm : store.available = true)
    (hlisting : listing (texts store) = .ok manifest) :
    list store = (.ok manifest.newestFirst, store) := by
  rw [list, manifest_memory hm hlisting]

/-- What is **listed** after a save: everything is lost with the manifest, and nothing else is. -/
theorem listing_addedTexts {texts : Texts} {payload : String} {kept : Manifest}
    (hversion : kept.version ≤ Manifest.currentVersion) (gone : List String) :
    listing (addedTexts texts id payload kept gone) =
      .ok (if Manifest.key ∈ gone then {} else kept) := by
  split
  case isTrue hkey => rw [listing, addedTexts, without, if_pos hkey]
  case isFalse hkey => exact listing_written hkey hversion

/-- What can be **loaded** after a save: the snapshot, unless its payload is gone. -/
theorem fetch_addedTexts (hm : store.available = true) {before : Texts} {payload : String}
    {kept : Manifest} {gone : List String}
    (htexts : texts store = addedTexts before id payload kept gone)
    (hfree : id ≠ Manifest.key) (hdecode : Payload.decode payload = .ok s) :
    fetch store id = (if id ∈ gone then .error (.notFound id) else .ok s, store) := by
  rw [fetch, if_neg hfree, load_memory hm, htexts, addedTexts, without]
  by_cases hgone : id ∈ gone
  · simp only [if_pos hgone]
  · simp only [if_neg hgone, Function.update_of_ne hfree, Function.update_self, hdecode]

end Memory

/-! ### Staying -/

/-- What a desk answers is what its **manager answers**. -/
theorem Desk.ask_answer {σ : Type} [Store σ] (d : Desk) (store : σ) (request : Request) :
    (d.ask store request).1 = (d.manager.answer store d.scene.ambient request).answer :=
  rfl

/-- A desk **finds** a save in a store: its id is listed, and loading it gives the snapshot. -/
def Desk.Finds (d : Desk) (store : Memory) (id : String) (s : Snapshot) : Prop :=
  (∃ entries, (d.ask store .list).1 = .listed entries ∧ id ∈ entries.map (·.id)) ∧
    (d.ask store (.load id)).1 = .loaded s

/-- Every desk finds what the archive **lists** and **loads**. -/
theorem Desk.finds_iff (d : Desk) {store : Memory} {id : String} {s : Snapshot}
    {entries : List Entry} {loaded : Except Error Snapshot}
    (hlist : list store = (.ok entries, store)) (hfetch : fetch store id = (loaded, store)) :
    d.Finds store id s ↔ id ∈ entries.map (·.id) ∧ loaded = .ok s := by
  have hlisted : (d.ask store .list).1 = .listed entries := by
    rw [ask, Manager.answer, hlist]
  have hloaded : (d.ask store (.load id)).1 = .loaded s ↔ loaded = .ok s := by
    rw [ask, Manager.answer, hfetch]
    cases loaded with
    | error why => simp
    | ok s' => simp
  rw [Finds, hloaded, hlisted]
  simp

/-- **A save stays unless it is given up at once.** Whatever a store in memory lists, whatever the
options, the snapshot and the clock: if a save is made, every desk finds it afterwards exactly if
neither its id nor the key of the manifest is among the ids that were given up for it. An id that
was not listed before is given up exactly if the store lists as many saves that are later than the
new one as are kept. -/
theorem saved_stays_iff (desk : Desk) (store : Memory) (havailable : store.available = true)
    (manifest : Manifest) (hlisting : listing (texts store) = .ok manifest) (s : Snapshot)
    (hcurrent : desk.manager.current = some s) (title : Option String) (id : String)
    (hsaved : (desk.ask store (.save title)).1 = .saved id) :
    let time := desk.scene.ambient.next.2.next.1.now
    let lost := ((manifest.push ⟨id, title, time⟩).evictOver desk.manager.options.keep).1.map (·.id)
    (∀ later : Desk, later.Finds (desk.ask store (.save title)).2.1 id s ↔
      id ∉ lost ∧ Manifest.key ∉ lost) ∧
    (id ∉ manifest.ids →
      (id ∈ lost ↔ desk.manager.options.keep ≤ Manifest.countLater manifest.entries time)) := by
  intro time lost
  obtain ⟨hid, hm, payload, hdecode, htexts⟩ :=
    Manager.answer_save_memory havailable hlisting hcurrent hsaved
  have hfree : id ≠ Manifest.key := by
    rw [hid]
    exact Manager.saveId_ne_key _
  refine ⟨?_, fun hnew => Manifest.mem_evictOver_push_iff (e := ⟨id, title, time⟩) hnew _⟩
  intro later
  have hversion : ((manifest.push ⟨id, title, time⟩).evictOver
      desk.manager.options.keep).2.version ≤ Manifest.currentVersion := by
    rw [Manifest.version_evictOver_push]
    exact version_le_of_listing hlisting
  have hlist := list_memory hm ((congrArg listing htexts).trans (listing_addedTexts hversion lost))
  have hfetch := fetch_addedTexts hm htexts hfree hdecode
  refine (later.finds_iff hlist hfetch).trans ?_
  rw [Manifest.mem_newestFirst_ids]
  -- What is not given up stays listed, since nothing is lost in between.
  have hmem : id ∈ lost ∨ id ∈ _ := List.mem_append.1
    ((Manifest.evictOver_ids_perm manifest ⟨id, title, time⟩ desk.manager.options.keep).mem_iff.2
      List.mem_cons_self)
  by_cases hkey : Manifest.key ∈ lost
  · rw [if_pos hkey]
    exact iff_of_false (fun h => nomatch h.1) (fun h => h.2 hkey)
  by_cases hlost : id ∈ lost
  · rw [if_pos hlost]
    exact iff_of_false (fun h => nomatch h.2) (fun h => h.1 hlost)
  · rw [if_neg hkey, if_neg hlost]
    exact iff_of_true ⟨hmem.resolve_left hlost, rfl⟩ ⟨hlost, hkey⟩

/-- Where one save is kept and the one that is listed is dated ahead of the clock, a save that is
made **does not stay**. -/
theorem saved_stays_iff_dated_ahead :
    let ahead : Time.Instant := ⟨⟨2999, 1, 1, by decide⟩, 0, 0, 0, 0, by decide⟩
    let manifest : Manifest := { entries := [⟨"x", none, ahead⟩] }
    let store : Memory := { texts := ({} : Table _ _).put Manifest.key manifest.text }
    let s : Snapshot := ⟨.opening "s" 100 .epoch, {}⟩
    let desk : Desk :=
      { manager := { options := { maxSaves := 1 }, current := some s }
        scene := { ambient := { moments := fun _ => ⟨.epoch, "0"⟩ } } }
    let id := Manager.saveId ⟨.epoch, "0"⟩
    listing (texts store) = .ok manifest ∧ (desk.ask store (.save none)).1 = .saved id ∧
      ∀ later : Desk, ¬ later.Finds (desk.ask store (.save none)).2.1 id s := by
  intro ahead manifest store s desk id
  have hlisting : listing (texts store) = .ok manifest := by
    refine listing_of_text ?_ (UInt32.le_refl _)
    exact (Table.get?_put ..).trans (if_pos rfl)
  have hfinite : (Payload.floats s).find? (fun f => !f.2.isFinite) = none := by decide
  have hsaved : (desk.ask store (.save none)).1 = .saved id := by
    rw [Desk.ask_answer]
    exact Manager.answer_save_of_finite rfl hlisting rfl hfinite desk.scene.ambient none
  have hnew : id ∉ manifest.ids := by
    intro hmem
    have hx : id = "x" := List.mem_singleton.1 hmem
    have hchars := congrArg (fun text : String => text.toList.head?) hx
    simp [id, Manager.saveId, Manager.idMark] at hchars
  obtain ⟨hfinds, hlost⟩ :=
    saved_stays_iff desk store rfl manifest hlisting s rfl none id hsaved
  refine ⟨hlisting, hsaved, ?_⟩
  intro later hfound
  have hcount : desk.manager.options.keep ≤
      Manifest.countLater manifest.entries desk.scene.ambient.next.2.next.1.now := by
    decide
  exact ((hfinds later).1 hfound).1 ((hlost hnew).2 hcount)

end Guildkeep.Save
