import Guildkeep.Proofs.Save.Manifest
import Guildkeep.Proofs.Save.Outcome
import Guildkeep.Proofs.Save.Payload
import Guildkeep.Save.Desk

/-!
# No Entry Without Its Payload

A store is healthy if its manifest can be read and every save that it lists can be loaded. Whatever
managers ask of a healthy store, and whichever accesses fail meanwhile, it stays healthy: a save is
written before it is listed, and unlisted before it is deleted.

## Main results

* `Healthy`: the invariant, for the texts of a store.
* `Outcome.healthy`: **every outcome keeps it**, leaves the saves that stay listed as they were,
  and a save that is made leaves no more entries than are to be kept.
* `healthy_after_visits`: the same for every run of visits to a store behind a gate.

## Conventions

Nothing is assumed of the managers that visit a store: each of them may be in any state when it is
asked. Of the ids that are generated only one thing is assumed: none of them is a key of the store
when it is generated.
-/

namespace Guildkeep.Save

open Archive Game Store

/-- The ids that a manifest lists. -/
def Manifest.ids (m : Manifest) : List String :=
  m.entries.map (·.id)

/-- The snapshot that the text of a key holds. -/
def Archive.snapshotAt (texts : Texts) (id : String) : Option Snapshot :=
  (texts id).bind fun payload => (Payload.decode payload).toOption

/-- The texts of a store are **healthy** under a manifest. -/
structure Healthy (texts : Texts) (m : Manifest) : Prop where
  /-- The manifest is absent or can be read. -/
  listed : listing texts = .ok m
  distinct : m.ids.Nodup
  reserved : Manifest.key ∉ m.ids
  /-- Every listed save can be loaded. -/
  loadable : ∀ id ∈ m.ids, ∃ payload s, texts id = some payload ∧ Payload.decode payload = .ok s

/-! ### Manifests -/

/-- A manifest that can be read has a **known version**. -/
theorem Archive.version_le_of_listing {texts : Texts} {m : Manifest} (h : listing texts = .ok m) :
    m.version ≤ Manifest.currentVersion := by
  rw [listing] at h
  split at h
  · cases h
    decide
  · exact Manifest.version_le_of_ofText h

/-- A manifest that is **written** is the one that is read. -/
theorem Archive.listing_of_text {texts : Texts} {m : Manifest}
    (htext : texts Manifest.key = some m.text) (hversion : m.version ≤ Manifest.currentVersion) :
    listing texts = .ok m := by
  rw [listing, htext]
  exact Manifest.ofText_text hversion

/-- A manifest that is written **last** is the one that is read, whatever else is given up. -/
theorem Archive.listing_written {texts : Texts} {m : Manifest} {gone : List String}
    (hkey : Manifest.key ∉ gone) (hversion : m.version ≤ Manifest.currentVersion) :
    listing (without gone (Function.update texts Manifest.key (some m.text))) = .ok m := by
  refine listing_of_text ?_ hversion
  rw [without, if_neg hkey, Function.update_self]

namespace Manifest

/-- An entry that is pushed and those that were listed are **given up or kept**, each once. -/
theorem evictOver_ids_perm (m : Manifest) (entry : Entry) (keep : Nat) :
    (((m.push entry).evictOver keep).1.map (·.id) ++ ((m.push entry).evictOver keep).2.ids).Perm
      (entry.id :: m.ids) := by
  have hsplit := evict_perm ((m.push entry).entries.length - keep) (m.push entry).entries
  have hids := hsplit.map (·.id)
  rw [List.map_append] at hids
  refine hids.trans ?_
  simp [push, ids]

/-- Removing an entry removes its **id** once. -/
theorem ids_remove (m : Manifest) (id : String) : (m.remove id).ids = m.ids.erase id := by
  rw [ids, ids, remove, List.erase_eq_eraseP', List.eraseP_map]
  rfl

/-- What is not found is **not listed**. -/
theorem find?_eq_none_iff {m : Manifest} {id : String} : m.find? id = none ↔ id ∉ m.ids := by
  simp [find?, ids, List.find?_eq_none]

end Manifest

/-! ### Outcomes -/

/-- What one outcome **keeps** of a store that is healthy under `m`: there is a manifest under which
it is healthy again, and saves that stay listed have the text that they had. -/
structure Kept (before after : Texts) (m m' : Manifest) : Prop where
  healthy : Healthy after m'
  unchanged : ∀ id ∈ m.ids, id ∈ m'.ids → after id = before id

/-- Texts that differ only where nothing is listed are as healthy. -/
theorem Healthy.congr {before after : Texts} {m : Manifest} (h : Healthy before m)
    (hkey : after Manifest.key = before Manifest.key) (hids : ∀ id ∈ m.ids, after id = before id) :
    Kept before after m m where
  healthy :=
    { listed := (listing_congr hkey).trans h.listed
      distinct := h.distinct
      reserved := h.reserved
      loadable := fun id hid => by
        rw [hids id hid]
        exact h.loadable id hid }
  unchanged := fun id hid _ => hids id hid

/-- An id that is no key is **not listed**. -/
theorem Healthy.notMem_of_absent {texts : Texts} {m : Manifest} (h : Healthy texts m) {id : String}
    (hid : texts id = none) : id ∉ m.ids := by
  intro hlisted
  obtain ⟨payload, s, hpayload, -⟩ := h.loadable id hlisted
  rw [hid] at hpayload
  cases hpayload

/-- A save that is **added** under a new id. -/
theorem Healthy.added {before : Texts} {m : Manifest} (h : Healthy before m) {entry : Entry}
    (hfresh : before entry.id = none) (hfree : entry.id ≠ Manifest.key) {payload : String}
    {s : Snapshot} (hdecode : Payload.decode payload = .ok s) (keep : Nat) {gone : List String}
    (hgone : gone ⊆ ((m.push entry).evictOver keep).1.map (·.id)) :
    Kept before (addedTexts before entry.id payload ((m.push entry).evictOver keep).2 gone) m
      ((m.push entry).evictOver keep).2 := by
  have hversion : m.version ≤ Manifest.currentVersion := version_le_of_listing h.listed
  have hperm := Manifest.evictOver_ids_perm m entry keep
  have hnew : entry.id ∉ m.ids := h.notMem_of_absent hfresh
  have hnodup := hperm.nodup_iff.2 (List.nodup_cons.2 ⟨hnew, h.distinct⟩)
  obtain ⟨-, hdistinct, hdisjoint⟩ := List.nodup_append.1 hnodup
  have hlisted : ∀ id, id ∈ ((m.push entry).evictOver keep).1.map (·.id) ∨
      id ∈ ((m.push entry).evictOver keep).2.ids → id = entry.id ∨ id ∈ m.ids := fun id hid =>
    List.mem_cons.1 (hperm.subset (List.mem_append.2 hid))
  have hnotkey : ∀ id, id = entry.id ∨ id ∈ m.ids → id ≠ Manifest.key := by
    rintro id (rfl | hid) hid'
    · exact hfree hid'
    · exact h.reserved (hid' ▸ hid)
  -- The key of the manifest is not given up, and neither is an entry that stays.
  have hkey : Manifest.key ∉ gone := fun hmem => hnotkey _ (hlisted _ (.inl (hgone hmem))) rfl
  have hstays : ∀ id ∈ ((m.push entry).evictOver keep).2.ids, id ∉ gone := fun id hid hmem =>
    hdisjoint id (hgone hmem) id hid rfl
  have htext : ∀ id ∈ ((m.push entry).evictOver keep).2.ids,
      addedTexts before entry.id payload ((m.push entry).evictOver keep).2 gone id =
        Function.update before entry.id (some payload) id := by
    intro id hid
    rw [addedTexts, without, if_neg (hstays id hid),
      Function.update_of_ne (hnotkey id (hlisted id (.inr hid)))]
  refine ⟨⟨?_, hdistinct, ?_, ?_⟩, ?_⟩
  · exact listing_written hkey hversion
  · exact fun hmem => hnotkey _ (hlisted _ (.inr hmem)) rfl
  · intro id hid
    rw [htext id hid]
    rcases hlisted id (.inr hid) with rfl | hold
    · exact ⟨payload, s, Function.update_self .., hdecode⟩
    · rw [Function.update_of_ne (ne_of_mem_of_not_mem hold hnew)]
      exact h.loadable id hold
  · intro id hold hid
    rw [htext id hid, Function.update_of_ne (ne_of_mem_of_not_mem hold hnew)]

/-- A save that is **unlisted**. -/
theorem Healthy.unlisted {before : Texts} {m : Manifest} (h : Healthy before m) {id : String}
    (hfree : id ≠ Manifest.key) {gone : List String} (hgone : gone ⊆ [id]) :
    Kept before (without gone (Function.update before Manifest.key (some (m.remove id).text))) m
      (m.remove id) := by
  have hversion : m.version ≤ Manifest.currentVersion := version_le_of_listing h.listed
  have hids := Manifest.ids_remove m id
  have hkey : Manifest.key ∉ gone := fun hmem => hfree (List.mem_singleton.1 (hgone hmem)).symm
  have htext : ∀ id' ∈ (m.remove id).ids,
      without gone (Function.update before Manifest.key (some (m.remove id).text)) id' =
        before id' := by
    intro id' hid'
    have hmem := h.distinct.mem_erase_iff.1 (hids ▸ hid')
    have hstays : id' ∉ gone := fun hgone' => hmem.1 (List.mem_singleton.1 (hgone hgone'))
    rw [without, if_neg hstays, Function.update_of_ne (ne_of_mem_of_not_mem hmem.2 h.reserved)]
  refine ⟨⟨?_, ?_, ?_, ?_⟩, fun id' _ hid' => htext id' hid'⟩
  · exact listing_written hkey hversion
  · rw [hids]
    exact h.distinct.erase id
  · rw [hids]
    exact fun hmem => h.reserved (List.mem_of_mem_erase hmem)
  · intro id' hid'
    rw [htext id' hid']
    exact h.loadable id' (List.mem_of_mem_erase (hids ▸ hid'))

/-- **Every outcome** keeps a store healthy, and after one that makes a save no more entries are
listed than are to be kept. -/
theorem Outcome.healthy {fresh : Option String} {keep : Nat} {before after : Texts}
    {answer : Answer}
    {m : Manifest} (h : Outcome fresh keep before answer after) (hhealthy : Healthy before m)
    (hfresh : ∀ id ∈ fresh, before id = none ∧ id ≠ Manifest.key) :
    ∃ m', Kept before after m m' ∧
      (answer.savedId?.isSome = true → m'.entries.length ≤ keep) := by
  cases h with
  | same unsaved => exact ⟨m, hhealthy.congr rfl fun _ _ => rfl, by simp [unsaved]⟩
  | @orphan why id payload s isFresh decodes =>
    obtain ⟨habsent, hfree⟩ := hfresh id isFresh
    refine ⟨m, hhealthy.congr (Function.update_of_ne hfree.symm ..) ?_, nofun⟩
    intro id' hid'
    exact Function.update_of_ne
      (ne_of_mem_of_not_mem hid' (hhealthy.notMem_of_absent habsent)) ..
  | @added _ m' entry payload s gone isFresh saved decodes listed given_up =>
    obtain ⟨habsent, hfree⟩ := hfresh entry.id isFresh
    obtain rfl : m = m' := Except.ok.inj (hhealthy.listed.symm.trans listed)
    exact ⟨_, hhealthy.added habsent hfree decodes keep given_up,
      fun _ => Manifest.length_evictOver_le _ _⟩
  | @unlisted m' id gone free listed there given_up =>
    obtain rfl : m = m' := Except.ok.inj (hhealthy.listed.symm.trans listed)
    exact ⟨_, hhealthy.unlisted free given_up, nofun⟩
  | @deleted m' id free listed absent =>
    obtain rfl : m = m' := Except.ok.inj (hhealthy.listed.symm.trans listed)
    refine ⟨m, hhealthy.congr (Function.update_of_ne free.symm ..) ?_, nofun⟩
    intro id' hid'
    exact Function.update_of_ne
      (ne_of_mem_of_not_mem hid' (Manifest.find?_eq_none_iff.1 absent)) ..

/-! ### Visits -/

/-- A **visit** to a store: a manager is opened on it, or a manager in any state is asked
something. -/
inductive Visit where
  | opens (options : Options) (forwards : Bool)
  | asks (desk : Desk) (request : Request)

namespace Visit

/-- The id that is generated in a visit, if one is. -/
def freshId? : Visit → Option String
  | opens _ _ => none
  | asks desk request => desk.manager.freshId? desk.scene.ambient request

variable {σ : Type} [Store σ]

/-- The store after a visit. -/
def leaves (store : σ) : Visit → σ
  | opens options forwards => (Manager.openOn store options forwards).2
  | asks desk request => (desk.ask store request).2.1

/-- The store after visits, one after another. -/
def leavesAll (store : σ) (visits : List Visit) : σ :=
  visits.foldl leaves store

variable [Viewed σ]

/-- None of the ids that are generated in a run of visits **is a key** of the store by then. -/
def AreFresh (store : σ) : List Visit → Prop
  | [] => True
  | v :: visits => (∀ id ∈ v.freshId?, texts store id = none) ∧ AreFresh (v.leaves store) visits

/-- Opening a store changes **no text**. -/
theorem texts_openOn (store : σ) (options : Options) (forwards : Bool) :
    texts (Manager.openOn store options forwards).2 = texts store := by
  rw [Manager.openOn]
  rcases manifest_cases store with ⟨why, store', hread, htexts⟩ | ⟨m, store', hread, htexts, -⟩
  · rw [hread]
    exact htexts
  · rw [hread]
    exact htexts

/-- An id that was just generated is not the **key of the manifest**. -/
theorem ne_key_of_freshId? {v : Visit} {id : String} (h : id ∈ v.freshId?) : id ≠ Manifest.key := by
  cases v with
  | opens => cases h
  | asks desk request =>
    rintro rfl
    exact desk.manager.freshId?_ne_key _ _ h

/-- **One visit** keeps a store healthy. -/
theorem leaves_kept {store : σ} {m : Manifest} (h : Healthy (texts store) m) (v : Visit)
    (hfresh : ∀ id ∈ v.freshId?, texts store id = none) :
    ∃ m', Kept (texts store) (texts (v.leaves store)) m m' ∧
      ∀ desk request, v = asks desk request →
        (desk.ask store request).1.savedId?.isSome = true →
        m'.entries.length ≤ desk.manager.options.keep := by
  cases v with
  | opens options forwards =>
    refine ⟨m, ?_, fun _ _ hvisit => nomatch hvisit⟩
    rw [leaves, texts_openOn]
    exact h.congr rfl fun _ _ => rfl
  | asks desk request =>
    have houtcome := desk.manager.answer_outcome store desk.scene.ambient request
    obtain ⟨m', hkept, hlength⟩ := houtcome.healthy h
      fun id hid => ⟨hfresh id hid, ne_key_of_freshId? (v := asks desk request) hid⟩
    refine ⟨m', hkept, ?_⟩
    rintro _ _ ⟨⟩ hsaved
    exact hlength hsaved

/-- **A run of visits** keeps a store healthy. -/
theorem leavesAll_healthy {store : σ} {m : Manifest} (h : Healthy (texts store) m)
    {visits : List Visit} (hfresh : AreFresh store visits) :
    ∃ m', Healthy (texts (leavesAll store visits)) m' := by
  induction visits generalizing store m with
  | nil => exact ⟨m, h⟩
  | cons v visits ih =>
    obtain ⟨m', hkept, -⟩ := leaves_kept h v hfresh.1
    exact ih hkept.healthy hfresh.2

/-- The ids of a run are fresh **piece by piece**. -/
theorem areFresh_append {store : σ} {earlier later : List Visit}
    (h : AreFresh store (earlier ++ later)) :
    AreFresh store earlier ∧ AreFresh (leavesAll store earlier) later := by
  induction earlier generalizing store with
  | nil => exact ⟨trivial, h⟩
  | cons v earlier ih =>
    obtain ⟨hfresh, hrest⟩ := h
    exact ⟨⟨hfresh, (ih hrest).1⟩, (ih hrest).2⟩

end Visit

/-- Whether an id is listed in the manifest that texts hold. -/
def Archive.Listed (texts : Texts) (id : String) : Prop :=
  ∃ m, listing texts = .ok m ∧ id ∈ m.ids

/-- A payload that can be decoded is a **snapshot** that is there. -/
theorem Archive.snapshotAt_eq_some {texts : Texts} {id payload : String} {s : Snapshot}
    (hpayload : texts id = some payload) (hdecode : Payload.decode payload = .ok s) :
    snapshotAt texts id = some s := by
  rw [snapshotAt, hpayload, Option.bind_some, hdecode]
  rfl

/-- A store that keeps its health **lists nothing dangling**: whatever is listed before and after is
the same snapshot before and after. -/
theorem Kept.snapshotAt_eq {before after : Texts} {m m' : Manifest} (h : Kept before after m m')
    (hbefore : Healthy before m) {id : String} (hid : Listed before id) (hid' : Listed after id) :
    ∃ s, snapshotAt before id = some s ∧ snapshotAt after id = some s := by
  obtain ⟨_, hlisting, hid⟩ := hid
  obtain rfl := Except.ok.inj (hbefore.listed.symm.trans hlisting)
  obtain ⟨_, hlisting', hid'⟩ := hid'
  obtain rfl := Except.ok.inj (h.healthy.listed.symm.trans hlisting')
  obtain ⟨payload, s, hpayload, hdecode⟩ := hbefore.loadable id hid
  refine ⟨s, snapshotAt_eq_some hpayload hdecode, snapshotAt_eq_some ?_ hdecode⟩
  rw [h.unchanged id hid hid', hpayload]

/-- **No entry dangles.** Whoever visits a healthy store, in whatever order and state, and whichever
accesses the gate refuses: after the last of any run of visits the store is healthy again, a save
that was listed and still is holds the snapshot that it held, and if a save was made no more saves
are listed than its manager keeps. -/
theorem healthy_after_visits (store : Gated Memory) (hhealthy : ∃ m, Healthy (texts store) m)
    (earlier : List Visit) (visit : Visit) (hfresh : Visit.AreFresh store (earlier ++ [visit])) :
    let before := Visit.leavesAll store earlier
    let after := visit.leaves before
    (∃ m, Healthy (texts after) m) ∧
    (∀ id, Listed (texts before) id → Listed (texts after) id →
      ∃ s, snapshotAt (texts before) id = some s ∧ snapshotAt (texts after) id = some s) ∧
    (∀ desk request, visit = .asks desk request →
      (desk.ask before request).1.savedId?.isSome = true →
      ∃ m, listing (texts after) = .ok m ∧ m.entries.length ≤ desk.manager.options.keep) := by
  intro before after
  obtain ⟨m, hhealthy⟩ := hhealthy
  obtain ⟨hearlier, hlast, -⟩ := Visit.areFresh_append hfresh
  obtain ⟨m₁, hbefore⟩ := Visit.leavesAll_healthy hhealthy hearlier
  obtain ⟨m₂, hkept, hlength⟩ := Visit.leaves_kept hbefore visit hlast
  refine ⟨⟨m₂, hkept.healthy⟩, fun id hid hid' => hkept.snapshotAt_eq hbefore hid hid', ?_⟩
  intro desk request hvisit hsaved
  exact ⟨m₂, hkept.healthy.listed, hlength desk request hvisit hsaved⟩

/-- Two saves are listed. A manager that keeps two looks for one that is not there, and then makes a
third behind a gate that is closed to deletions: the one that it gives up is listed no more and
**still there**, and the other is what it was. -/
theorem healthy_after_visits_refused_deletion :
    let s : Snapshot := ⟨.opening "" 100 .epoch, {}⟩
    let listed : Manifest := { entries := [⟨"first", none, .epoch⟩, ⟨"second", none, .epoch⟩] }
    let payload := (Payload.encode s false).toOption.getD ""
    let saves := (({} : Table String String).put "first" payload).put "second" payload
    let store : Gated Memory :=
      { inner := { texts := saves.put Manifest.key listed.text }, outage := .on .delete none }
    let desk : Desk :=
      { manager := { options := { maxSaves := 2 }, current := some s }
        scene := { ambient := { moments := fun _ => ⟨.epoch, "0"⟩ } } }
    let relisted : Manifest :=
      { entries := [⟨"second", none, .epoch⟩, ⟨Manager.saveId ⟨.epoch, "0"⟩, none, .epoch⟩] }
    let earlier : List Visit := [.asks desk (.load "third")]
    let visit : Visit := .asks desk (.save none)
    let before := Visit.leavesAll store earlier
    let after := visit.leaves before
    Healthy (texts store) listed ∧ Visit.AreFresh store (earlier ++ [visit]) ∧
    (∃ m, Healthy (texts after) m) ∧
    (∃ s, snapshotAt (texts before) "second" = some s ∧
      snapshotAt (texts after) "second" = some s) ∧
    (∃ m, listing (texts after) = .ok m ∧ m.entries.length ≤ desk.manager.options.keep) ∧
    listing (texts after) = .ok relisted ∧ (texts after "first").isSome := by
  intro s listed payload saves store desk relisted earlier visit before after
  have hrun : (desk.ask before (.save none)).1.savedId?.isSome = true ∧
      texts before (Manager.saveId ⟨.epoch, "0"⟩) = none ∧
      texts before Manifest.key = some listed.text ∧
      texts after Manifest.key = some relisted.text ∧ (texts after "first").isSome := by
    decide +kernel
  obtain ⟨hsaved, hfree, hbefore, hafter, hleft⟩ := hrun
  have hlisted : listing (texts store) = .ok listed := by
    refine listing_of_text ?_ (UInt32.le_refl _)
    exact (Table.get?_put ..).trans (if_pos rfl)
  have hrelisted : listing (texts after) = .ok relisted := listing_of_text hafter (UInt32.le_refl _)
  have hhealthy : Healthy (texts store) listed := by
    obtain ⟨written, hencode, hdecode, -⟩ := Payload.exists_payload (s := s) ⟨rfl, rfl, rfl⟩ false
    have hpayload : payload = written := by
      simp only [payload, hencode, Except.toOption, Option.getD]
    refine ⟨hlisted, by decide, by decide, fun id hid => ⟨payload, s, ?_, hpayload ▸ hdecode⟩⟩
    have hsaves : texts store id = saves.get? id := by
      refine (Table.get?_put ..).trans (if_neg ?_)
      rintro rfl
      revert hid
      decide
    rw [hsaves, Table.get?_put, Table.get?_put]
    rcases List.mem_pair.1 hid with rfl | rfl
    · exact (if_neg (by decide)).trans (if_pos rfl)
    · exact if_pos rfl
  have hfresh : Visit.AreFresh store (earlier ++ [visit]) := by
    refine ⟨fun id hid => ?_, fun id hid => ?_, trivial⟩
    · cases hid
    · obtain rfl : Manager.saveId ⟨.epoch, "0"⟩ = id := Option.some.inj hid
      exact hfree
  obtain ⟨hkept, hsame, hfew⟩ := healthy_after_visits store ⟨listed, hhealthy⟩ earlier visit hfresh
  replace hsame : Listed (texts before) "second" → Listed (texts after) "second" →
      ∃ s, snapshotAt (texts before) "second" = some s ∧
        snapshotAt (texts after) "second" = some s := by with_reducible exact hsame "second"
  replace hfew : ∃ m, listing (texts after) = .ok m ∧
      m.entries.length ≤ desk.manager.options.keep := by
    with_reducible exact hfew desk (.save none) rfl hsaved
  refine ⟨hhealthy, hfresh, by with_reducible exact hkept, ?_, hfew, hrelisted, hleft⟩
  exact hsame ⟨listed, listing_of_text hbefore (UInt32.le_refl _), by decide⟩
    ⟨relisted, hrelisted, by decide⟩

end Guildkeep.Save
