import Guildkeep.Proofs.Save.Retention

/-!
# When the Manifest Stays

Loading and deleting refuse the key of the manifest, whoever lists it. A save that gives up old ones
deletes whatever they are listed under. So a visit to a store leaves the manifest in its place, with
the entries that it should have, unless it gives up an entry that bears the key of the manifest.

## Main results

* `Visit.revise`: what a visit takes **out** of a manifest, and what is **left** of it.
* `manifest_stays_iff`: the manifest **stays**, and lists what is left, exactly if its key is not
  among the ids that were given up.
* `Visit.leavesAll_manifest_stays`: a manifest that does not list its own key stays for ever.

## Conventions

A manifest that lists its own key is none that a manager writes of itself, for no save has that id.
Others write to the store as well.
-/

namespace Guildkeep.Save

open Archive Game Store

/-! ### Entries taken out -/

namespace Manifest

/-- Removing an entry takes out the **one** that is found, and no other. -/
theorem remove_perm (m : Manifest) (id : String) :
    ((m.find? id).toList ++ (m.remove id).entries).Perm m.entries := by
  obtain ⟨version, entries⟩ := m
  induction entries with
  | nil => exact .refl _
  | cons e rest ih =>
    cases he : e.id == id with
    | true =>
      simp only [find?, remove, List.find?_cons, List.eraseP_cons, he]
      exact .refl _
    | false =>
      simp only [find?, remove, List.find?_cons, List.eraseP_cons, he]
      exact List.perm_middle.trans (ih.cons e)

/-- Removing what is not listed changes **nothing**. -/
theorem remove_of_notMem {m : Manifest} {id : String} (h : id ∉ m.ids) : m.remove id = m := by
  have hnone : ∀ e ∈ m.entries, ¬(e.id == id) = true := by
    intro e he heq
    exact h (List.mem_map.2 ⟨e, he, beq_iff_eq.1 heq⟩)
  rw [remove, List.eraseP_of_forall_not hnone]

end Manifest

/-- What an answered request makes of a manifest, given the entry of the save that was made, if one
was: the entries **taken out**, and the manifest that is **left**. -/
def Request.revise (request : Request) (keep : Nat) (saved : Option Entry) (m : Manifest) :
    List Entry × Manifest :=
  match saved, request with
  | some entry, _ => (m.push entry).evictOver keep
  | none, .delete id => if id = Manifest.key then ([], m) else ((m.find? id).toList, m.remove id)
  | none, _ => ([], m)

namespace Request

variable {request : Request} {keep : Nat} {saved : Option Entry} {m : Manifest}

/-- All that a request can make of a manifest. -/
theorem revise_cases (request : Request) (keep : Nat) (saved : Option Entry) (m : Manifest) :
    (∃ entry, saved = some entry ∧
      request.revise keep saved m = (m.push entry).evictOver keep) ∨
    (∃ id, saved = none ∧ request = .delete id ∧ id ≠ Manifest.key ∧
      request.revise keep saved m = ((m.find? id).toList, m.remove id)) ∨
    (saved = none ∧ request.revise keep saved m = ([], m)) := by
  cases saved with
  | some entry => exact .inl ⟨entry, rfl, rfl⟩
  | none =>
    cases request with
    | delete id =>
      by_cases hid : id = Manifest.key
      · exact .inr (.inr ⟨rfl, if_pos hid⟩)
      · exact .inr (.inl ⟨id, rfl, rfl, hid, if_neg hid⟩)
    | setState | save | load | list | enableAutoSave | disableAutoSave | tick =>
      exact .inr (.inr ⟨rfl, rfl⟩)

/-- A request that makes no save and deletes none leaves the manifest **as it is**. -/
theorem revise_of_ne_delete (h : ∀ id, request ≠ .delete id) :
    request.revise keep none m = ([], m) := by
  rcases revise_cases request keep none m with
    ⟨entry, hnone, -⟩ | ⟨id, -, hdelete, -⟩ | ⟨-, hrevise⟩
  · cases hnone
  · exact absurd hdelete (h id)
  · exact hrevise

/-- Nothing but the new entry is **added**, and nothing is **lost** but what is taken out. -/
theorem revise_perm (request : Request) (keep : Nat) (saved : Option Entry) (m : Manifest) :
    ((request.revise keep saved m).1 ++ (request.revise keep saved m).2.entries).Perm
      (m.entries ++ saved.toList) := by
  rcases revise_cases request keep saved m with
    ⟨entry, rfl, hrevise⟩ | ⟨id, rfl, -, -, hrevise⟩ | ⟨rfl, hrevise⟩
  · rw [hrevise]
    exact Manifest.evict_perm ..
  · rw [hrevise, Option.toList_none, List.append_nil]
    exact m.remove_perm id
  · rw [hrevise, Option.toList_none, List.append_nil]
    exact .refl _

/-- What is left stands in the **order** in which it stood, the new entry last. -/
theorem revise_sublist (request : Request) (keep : Nat) (saved : Option Entry) (m : Manifest) :
    (request.revise keep saved m).2.entries.Sublist (m.entries ++ saved.toList) := by
  rcases revise_cases request keep saved m with
    ⟨entry, rfl, hrevise⟩ | ⟨id, rfl, -, -, hrevise⟩ | ⟨rfl, hrevise⟩
  · rw [hrevise]
    exact Manifest.evict_sublist ..
  · rw [hrevise, Option.toList_none, List.append_nil]
    exact List.eraseP_sublist
  · rw [hrevise, Option.toList_none, List.append_nil]

/-- No request changes the **version** of a manifest. -/
theorem version_revise (request : Request) (keep : Nat) (saved : Option Entry) (m : Manifest) :
    (request.revise keep saved m).2.version = m.version := by
  rcases revise_cases request keep saved m with
    ⟨entry, -, hrevise⟩ | ⟨id, -, -, -, hrevise⟩ | ⟨-, hrevise⟩
  · rw [hrevise, Manifest.version_evictOver_push]
  · rw [hrevise, Manifest.remove]
  · rw [hrevise]

/-- The key of the manifest is taken out only for a **save**, and only if it was listed. -/
theorem key_revise (hsaved : ∀ entry ∈ saved, entry.id ≠ Manifest.key)
    (hkey : Manifest.key ∈ (request.revise keep saved m).1.map (·.id)) :
    saved.isSome = true ∧ Manifest.key ∈ m.ids := by
  have hlisted : ∃ e ∈ m.entries ++ saved.toList, e.id = Manifest.key := by
    obtain ⟨e, he, hid⟩ := List.mem_map.1 hkey
    exact ⟨e, (request.revise_perm keep saved m).subset (List.mem_append_left _ he), hid⟩
  constructor
  · rcases revise_cases request keep saved m with
      ⟨entry, rfl, -⟩ | ⟨id, -, -, hfree, hrevise⟩ | ⟨-, hrevise⟩
    · rfl
    · rw [hrevise] at hkey
      obtain ⟨e, he, hid⟩ := List.mem_map.1 hkey
      have hfound := List.find?_some (Option.mem_toList.1 he)
      exact absurd ((beq_iff_eq.1 hfound).symm.trans hid) hfree
    · rw [hrevise] at hkey
      cases hkey
  · obtain ⟨e, he, hid⟩ := hlisted
    rcases List.mem_append.1 he with he | he
    · exact List.mem_map.2 ⟨e, he, hid⟩
    · exact absurd hid (hsaved e (Option.mem_toList.1 he))

end Request

/-! ### Visits -/

namespace Visit

section

variable {σ : Type} [Store σ]

/-- The entry of the save that is made in a visit, if one is. -/
def saved? (store : σ) : Visit → Option Entry
  | opens _ _ => none
  | asks desk request => (desk.ask store request).1.savedId?.map fun id =>
    ⟨id, request.title?, desk.scene.ambient.next.2.next.1.now⟩

/-- What a visit makes of a manifest: the entries **taken out**, and the manifest that is
**left**. -/
def revise (store : σ) (m : Manifest) (v : Visit) : List Entry × Manifest :=
  match v with
  | opens _ _ => ([], m)
  | asks desk request => request.revise desk.manager.options.keep (v.saved? store) m

end

variable {store : Memory} {manifest : Manifest}

/-- A request that saves **nothing**, in a store in memory: a deletion does what it is for, and
every other request leaves the store and the manifest as they are. -/
theorem answer_unsaved_memory (hm : store.available = true)
    (hlisting : listing (texts store) = .ok manifest) {m : Manager} (ambient : Ambient)
    {request : Request} (hsaves : m.toSave? request = none) :
    (m.answer store ambient request).answer.savedId? = none ∧
      ((∃ id, request = .delete id ∧ id ≠ Manifest.key ∧
        remove store id = (.ok true, (m.answer store ambient request).store)) ∨
      (m.answer store ambient request).store = store ∧
        ∀ keep, request.revise keep none manifest = ([], manifest)) := by
  cases request with
  | setState | enableAutoSave | disableAutoSave => exact ⟨rfl, .inr ⟨rfl, fun _ => rfl⟩⟩
  | save title =>
    rw [Manager.answer, show m.current = none from hsaves]
    exact ⟨rfl, .inr ⟨rfl, fun _ => rfl⟩⟩
  | load id =>
    obtain ⟨result, hfetch⟩ := fetch_memory hm id
    rw [Manager.answer, hfetch]
    cases result with
    | error why => exact ⟨rfl, .inr ⟨rfl, fun _ => rfl⟩⟩
    | ok s => exact ⟨rfl, .inr ⟨rfl, fun _ => rfl⟩⟩
  | delete id =>
    rw [Manager.answer]
    by_cases hid : id = Manifest.key
    · rw [remove, if_pos hid]
      exact ⟨rfl, .inr ⟨rfl, fun _ => if_pos hid⟩⟩
    · obtain ⟨store', hremove, -⟩ := remove_memory hm hlisting hid
      rw [hremove]
      exact ⟨rfl, .inl ⟨id, rfl, hid, hremove⟩⟩
  | list =>
    rw [Manager.answer, list_memory hm hlisting]
    exact ⟨rfl, .inr ⟨rfl, fun _ => rfl⟩⟩
  | tick =>
    rw [Manager.answer]
    rw [Manager.toSave?] at hsaves
    split
    case h_1 hauto hcurrent =>
      rw [if_pos hauto, hcurrent] at hsaves
      cases hsaves
    case h_2 => exact ⟨rfl, .inr ⟨rfl, fun _ => rfl⟩⟩

/-- What a visit leaves under the **key of the manifest**: what was there, if nothing was to be
changed, and otherwise the manifest that is left, unless the key was given up. -/
theorem leaves_memory (hm : store.available = true)
    (hlisting : listing (texts store) = .ok manifest) (visit : Visit) :
    (visit.leaves store).available = true ∧
      (visit.revise store manifest = ([], manifest) ∧
        texts (visit.leaves store) Manifest.key = texts store Manifest.key ∨
      texts (visit.leaves store) Manifest.key =
        if Manifest.key ∈ (visit.revise store manifest).1.map (·.id) then none
        else some (visit.revise store manifest).2.text) := by
  cases visit with
  | opens options forwards =>
    rw [leaves, Manager.openOn, manifest_memory hm hlisting]
    exact ⟨hm, .inl ⟨rfl, rfl⟩⟩
  | asks desk request =>
    rw [revise, leaves, saved?, Desk.ask]
    dsimp only
    cases hsaves : desk.manager.toSave? request with
    | none =>
      obtain ⟨hunsaved, ⟨id, rfl, hfree, hremove⟩ | ⟨hsame, hrevise⟩⟩ :=
        answer_unsaved_memory hm hlisting desk.scene.ambient hsaves
      · obtain ⟨store', hremove', hm', htexts⟩ := remove_memory hm hlisting hfree
        rw [hremove, Prod.mk.injEq] at hremove'
        rw [hunsaved, hremove'.2, Option.map_none, Request.revise, if_neg hfree]
        refine ⟨hm', ?_⟩
        by_cases hid : id ∈ manifest.ids
        · -- The entry that is found bears the id that was asked for, which is not the key.
          have hkept : Manifest.key ∉ (manifest.find? id).toList.map (·.id) := by
            intro hkey
            obtain ⟨e, he, hekey⟩ := List.mem_map.1 hkey
            have hfound := List.find?_some (Option.mem_toList.1 he)
            exact hfree ((beq_iff_eq.1 hfound).symm.trans hekey)
          have hstays : Manifest.key ∉ [id] := mt List.mem_singleton.1 hfree.symm
          refine .inr ?_
          rw [if_neg hkept, htexts, if_pos hid, without, if_neg hstays, Function.update_self]
        · refine .inl ⟨?_, ?_⟩
          · rw [Manifest.find?_eq_none_iff.2 hid, Manifest.remove_of_notMem hid, Option.toList_none]
          · rw [htexts, if_neg hid, Function.update_of_ne hfree.symm]
      · rw [hunsaved, hsame]
        exact ⟨hm, .inl ⟨hrevise _, rfl⟩⟩
    | some s =>
      rcases desk.manager.answer_saves_memory hm hlisting hsaves desk.scene.ambient with
        ⟨why, -, hfailed, hsame⟩ | ⟨payload, -, hsaved, hm', htexts⟩
      · rw [hfailed, hsame]
        refine ⟨hm, .inl ⟨Request.revise_of_ne_delete ?_, rfl⟩⟩
        rintro id rfl
        cases hsaves
      · rw [hsaved, htexts]
        exact ⟨hm', .inr (by rw [addedTexts, without, Function.update_self]; rfl)⟩

/-- A visit makes of a manifest what **some request** would. -/
theorem exists_revise_eq (store : Memory) (manifest : Manifest) (visit : Visit) :
    ∃ (request : Request) (keep : Nat),
      visit.revise store manifest = request.revise keep (visit.saved? store) manifest := by
  cases visit with
  | opens => exact ⟨.list, 0, rfl⟩
  | asks desk request => exact ⟨request, desk.manager.options.keep, rfl⟩

/-- No save is made under the **key of the manifest**. -/
theorem id_ne_key_of_saved {visit : Visit} {entry : Entry} (h : entry ∈ visit.saved? store) :
    entry.id ≠ Manifest.key := by
  cases visit with
  | opens => cases h
  | asks desk request =>
    obtain ⟨id, hsaved, rfl⟩ := Option.map_eq_some_iff.1 h
    have houtcome := desk.manager.answer_outcome store desk.scene.ambient request
    exact ne_key_of_freshId? (v := asks desk request) (houtcome.fresh_of_saved hsaved)

/-- A visit leaves what is left of the manifest in its place, unless its key is **given up**. -/
theorem leaves_stays (hm : store.available = true) {text : String}
    (hpresent : texts store Manifest.key = some text) (hloads : Manifest.ofText text = .ok manifest)
    (visit : Visit) :
    (visit.leaves store).available = true ∧
      if Manifest.key ∈ (visit.revise store manifest).1.map (·.id) then
        texts (visit.leaves store) Manifest.key = none
      else ∃ text', texts (visit.leaves store) Manifest.key = some text' ∧
        Manifest.ofText text' = .ok (visit.revise store manifest).2 := by
  have hlisting : listing (texts store) = .ok manifest := by
    rw [listing, hpresent]
    exact hloads
  obtain ⟨hm', ⟨hrevise, hsame⟩ | hkey⟩ := leaves_memory hm hlisting visit
  · refine ⟨hm', ?_⟩
    simp only [hrevise, List.map_nil, List.not_mem_nil, if_false]
    exact ⟨text, hsame.trans hpresent, hloads⟩
  · refine ⟨hm', ?_⟩
    obtain ⟨request, keep, hrequest⟩ := visit.exists_revise_eq store manifest
    have hversion : (visit.revise store manifest).2.version ≤ Manifest.currentVersion := by
      rw [hrequest, Request.version_revise]
      exact version_le_of_listing hlisting
    split
    case isTrue hlost => rw [hkey, if_pos hlost]
    case isFalse hkept => exact ⟨_, by rw [hkey, if_neg hkept], Manifest.ofText_text hversion⟩

/-- A manifest that does not list its own key **stays** for ever: no run of visits makes it do
so. -/
theorem leavesAll_manifest_stays (hm : store.available = true) {text : String}
    (hpresent : texts store Manifest.key = some text) (hloads : Manifest.ofText text = .ok manifest)
    (hreserved : Manifest.key ∉ manifest.ids) (visits : List Visit) :
    ∃ text' manifest', texts (leavesAll store visits) Manifest.key = some text' ∧
      Manifest.ofText text' = .ok manifest' ∧ Manifest.key ∉ manifest'.ids := by
  induction visits generalizing store manifest text with
  | nil => exact ⟨text, manifest, hpresent, hloads, hreserved⟩
  | cons visit visits ih =>
    obtain ⟨request, keep, hrequest⟩ := visit.exists_revise_eq store manifest
    have hsaved := fun entry (h : entry ∈ visit.saved? store) => id_ne_key_of_saved h
    have hkept : Manifest.key ∉ (visit.revise store manifest).1.map (·.id) := by
      rw [hrequest]
      exact fun hlost => hreserved (Request.key_revise hsaved hlost).2
    have hleft : Manifest.key ∉ (visit.revise store manifest).2.ids := by
      rw [hrequest]
      intro hkey
      obtain ⟨e, he, hid⟩ := List.mem_map.1 hkey
      rcases List.mem_append.1 ((Request.revise_sublist ..).subset he) with he | he
      · exact hreserved (List.mem_map.2 ⟨e, he, hid⟩)
      · exact hsaved e (Option.mem_toList.1 he) hid
    obtain ⟨hm', hstays⟩ := leaves_stays hm hpresent hloads visit
    rw [if_neg hkept] at hstays
    obtain ⟨text', hpresent', hloads'⟩ := hstays
    exact ih hm' hpresent' hloads' hleft

end Visit

/-- **The manifest stays unless its key is given up.** Whatever a manifest in a store in memory
lists, whatever the options and whatever is asked: a visit leaves a text under the key of the
manifest that holds what is left of it, exactly if that key is not among the ids that it took out,
and nothing otherwise. What is taken out and what is left are together what was listed and the save
that was made, and what is left is in the same order. The key is only ever taken out by a save, from
a manifest that lists it. -/
theorem manifest_stays_iff (store : Memory) (havailable : store.available = true) (text : String)
    (hpresent : texts store Manifest.key = some text) (manifest : Manifest)
    (hloads : Manifest.ofText text = .ok manifest) (visit : Visit) :
    let lost := (visit.revise store manifest).1
    let kept := (visit.revise store manifest).2
    let saved := visit.saved? store
    let after := texts (visit.leaves store)
    ((∃ text', after Manifest.key = some text' ∧ Manifest.ofText text' = .ok kept) ↔
      Manifest.key ∉ lost.map (·.id)) ∧
    (Manifest.key ∈ lost.map (·.id) → after Manifest.key = none) ∧
    (lost ++ kept.entries).Perm (manifest.entries ++ saved.toList) ∧
    kept.entries.Sublist (manifest.entries ++ saved.toList) ∧
    (Manifest.key ∈ lost.map (·.id) → saved.isSome = true ∧ Manifest.key ∈ manifest.ids) := by
  intro lost kept saved after
  obtain ⟨request, keep, hrequest⟩ := visit.exists_revise_eq store manifest
  have hstays := (visit.leaves_stays havailable hpresent hloads).2
  refine ⟨?_, ?_, ?_, ?_, ?_⟩
  · by_cases hlost : Manifest.key ∈ lost.map (·.id)
    · rw [if_pos hlost] at hstays
      refine iff_of_false ?_ (not_not_intro hlost)
      rintro ⟨text', hpresent', -⟩
      cases hstays.symm.trans hpresent'
    · rw [if_neg hlost] at hstays
      exact iff_of_true hstays hlost
  · intro hlost
    rw [if_pos hlost] at hstays
    exact hstays
  · simp only [lost, kept, hrequest]
    exact request.revise_perm keep saved manifest
  · simp only [kept, hrequest]
    exact request.revise_sublist keep saved manifest
  · simp only [lost, hrequest]
    exact Request.key_revise fun entry h => Visit.id_ne_key_of_saved h

/-- A manifest that lists its own key, as a save of the same time as the new one: where one save is
kept the manifest is lost, and where two are kept it lists both. -/
theorem manifest_stays_iff_own_key :
    let manifest : Manifest := { entries := [⟨Manifest.key, none, .epoch⟩] }
    let store : Memory := { texts := ({} : Table _ _).put Manifest.key manifest.text }
    let desk (maxSaves : UInt64) : Desk :=
      { manager := { options := { maxSaves }, current := some ⟨.opening "s" 100 .epoch, {}⟩ }
        scene := { ambient := { moments := fun _ => ⟨.epoch, "0"⟩ } } }
    (texts store Manifest.key = some manifest.text ∧
      Manifest.ofText manifest.text = .ok manifest) ∧
    texts (Visit.leaves store (.asks (desk 1) (.save none))) Manifest.key = none ∧
    ∃ text, texts (Visit.leaves store (.asks (desk 2) (.save none))) Manifest.key = some text ∧
      Manifest.ofText text =
        .ok { entries := [⟨Manifest.key, none, .epoch⟩,
          ⟨Manager.saveId ⟨.epoch, "0"⟩, none, .epoch⟩] } := by
  intro manifest store desk
  have hpresent : texts store Manifest.key = some manifest.text :=
    (Table.get?_put ..).trans (if_pos rfl)
  have hloads : Manifest.ofText manifest.text = .ok manifest :=
    Manifest.ofText_text (UInt32.le_refl _)
  have hlisting : listing (texts store) = .ok manifest :=
    listing_of_text hpresent (UInt32.le_refl _)
  have hsaved (maxSaves : UInt64) : Visit.saved? store (.asks (desk maxSaves) (.save none)) =
      some ⟨Manager.saveId ⟨.epoch, "0"⟩, none, .epoch⟩ := by
    rw [Visit.saved?, Desk.ask_answer, Manager.answer_save_of_finite rfl hlisting rfl (by decide)]
    rfl
  have hrevise (maxSaves : UInt64) :
      Visit.revise store manifest (.asks (desk maxSaves) (.save none)) =
        (manifest.push ⟨Manager.saveId ⟨.epoch, "0"⟩, none, .epoch⟩).evictOver
          (Options.keep { maxSaves }) := by
    rw [Visit.revise, hsaved, Request.revise]
  refine ⟨⟨hpresent, hloads⟩, ?_, ?_⟩
  · refine (manifest_stays_iff store rfl _ hpresent manifest hloads
      (.asks (desk 1) (.save none))).2.1 ?_
    rw [hrevise]
    decide
  · have hstays := (manifest_stays_iff store rfl _ hpresent manifest hloads
      (.asks (desk 2) (.save none))).1
    rw [hrevise] at hstays
    exact hstays.2 (by decide)

end Guildkeep.Save
