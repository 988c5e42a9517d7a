import Guildkeep.Proofs.Save.Atomicity
import Guildkeep.Proofs.Save.Persistence
import Guildkeep.Proofs.Save.Retention

/-!
# What a Tick Does

A tick saves the snapshot that is held, if autosave is on and there is one, and is otherwise nothing
at all. Where no access fails it does not fail, but for numbers that have no payload; where it fails
the manifest is as it was.

## Conventions

Whether an access fails is noted by a watch in front of the store. A store that is watched answers
as it does otherwise. A manifest that is readable stays so, whatever is asked and whichever accesses
fail.

## Main results

* `Manager.readable_answer`: every request leaves the manifest **readable**.
* `add_watched`: an access fails, or **all is done** that adding a save is for.
* `Manager.erase_tick`: the watch makes **no difference**.
* `added_made_iff`: when a save that was added is **made** indeed.
* `Manager.tick_skipped`, `Manager.tick_saved`, `Manager.tick_failed`: the three things that a tick
  can come to.
-/

namespace Guildkeep

/-! ### Watches -/

namespace Store

/-- A store that notes whether an access **failed**. -/
structure Watched (σ : Type) where
  inner : σ
  failed : Bool := false

namespace Watched

variable {σ α : Type}

/-- Hands an access on, and notes if it fails. -/
def pass (w : Watched σ) (reach : σ → Except Error α × σ) : Except Error α × Watched σ :=
  let (result, inner) := reach w.inner
  (result, ⟨inner, w.failed || !result.isOk⟩)

/-- A store that is watched is a **store**. -/
instance [Store σ] : Store (Watched σ) where
  save w key text := w.pass (Store.save · key text)
  load w key := w.pass (Store.load · key)
  delete w key := w.pass (Store.delete · key)

/-- A failure is **noted**. -/
theorem failed_of_error {w w' : Watched σ} (reach : σ → Except Error α × σ) {why : Error}
    (h : w.pass reach = (.error why, w')) : w'.failed = true := by
  obtain ⟨hresult, rfl⟩ := Prod.mk.inj h
  change (w.failed || !(reach w.inner).1.isOk) = true
  rw [hresult]
  exact Bool.or_true _

/-- What is noted is **not forgotten**. -/
theorem failed_pass {w : Watched σ} (h : w.failed = true) (reach : σ → Except Error α × σ) :
    (w.pass reach).2.failed = true := by
  change (w.failed || !(reach w.inner).1.isOk) = true
  rw [h, Bool.true_or]

/-- A store that is watched shows the **texts** of the one that it watches. -/
instance [Store σ] [Viewed σ] : Viewed (Watched σ) :=
  .behind Watched.inner (fun _ _ => rfl) (fun _ _ _ => rfl) (fun _ _ => rfl)

end Watched

end Store

namespace Save

open Archive Game Store

/-! ### Readable manifests -/

/-- The manifest that texts hold can be **read**. -/
def Archive.Readable (texts : Texts) : Prop :=
  ∃ m, listing texts = .ok m

/-- **Every outcome** leaves the manifest readable. -/
theorem Outcome.readable {fresh : Option String} {keep : Nat} {before after : Texts}
    {answer : Answer}
    (h : Outcome fresh keep before answer after) (hfresh : fresh ≠ some Manifest.key)
    (hreadable : Readable before) : Readable after := by
  cases h with
  | same => exact hreadable
  | orphan isFresh decodes =>
    obtain ⟨m, hlisting⟩ := hreadable
    refine ⟨m, (listing_congr (Function.update_of_ne ?_ ..)).trans hlisting⟩
    rintro rfl
    exact hfresh isFresh
  | @added _ m entry payload s gone isFresh saved decodes listed given_up =>
    refine ⟨_, listing_addedTexts ?_ gone⟩
    rw [Manifest.version_evictOver_push]
    exact version_le_of_listing listed
  | @unlisted m id gone free listed there given_up =>
    have hversion : (m.remove id).version ≤ Manifest.currentVersion :=
      version_le_of_listing (m := m) listed
    refine ⟨_, listing_written (fun hkey => ?_) hversion⟩
    exact free (List.mem_singleton.1 (given_up hkey)).symm
  | deleted free listed absent =>
    exact ⟨_, (listing_congr (Function.update_of_ne free.symm ..)).trans listed⟩

/-- **Every request** leaves the manifest readable. -/
theorem Manager.readable_answer {σ : Type} [Store σ] [Viewed σ] (m : Manager) {store : σ}
    (h : Readable (texts store)) (ambient : Ambient) (request : Request) :
    Readable (texts (m.answer store ambient request).store) :=
  (m.answer_outcome store ambient request).readable (m.freshId?_ne_key ambient request) h

/-! ### Adding under a watch -/

section Watched

variable {σ : Type} [Store σ]

/-- After a failure the watch **has noted** one, whatever is cleared. -/
theorem failed_clear {w : Watched σ} (h : w.failed = true) (ids : List String) :
    (clear w ids).failed = true := by
  induction ids generalizing w with
  | nil => exact h
  | cons id ids ih => exact ih (Watched.failed_pass h (Store.delete · id))

variable [Viewed σ]

/-- A deletion fails, or **everything** is cleared. -/
theorem clear_watched (w : Watched σ) (ids : List String) :
    (clear w ids).failed = true ∨ texts (clear w ids) = without ids (texts w) := by
  induction ids generalizing w with
  | nil => exact .inr (without_nil _).symm
  | cons id ids ih =>
    rw [Archive.clear, List.foldl_cons, ← Archive.clear]
    rcases Viewed.delete_cases w id with ⟨why, w', hdelete, -⟩ | ⟨w', hdelete, htexts⟩
    · rw [hdelete]
      exact .inl (failed_clear (Watched.failed_of_error (Store.delete · id) hdelete) ids)
    · rw [hdelete, ← without_cons, ← htexts]
      exact ih w'

/-- An access fails, or **all is done** that adding a save is for. -/
theorem add_watched (w : Watched σ) {m : Manifest} (hlisting : listing (texts w) = .ok m)
    (keep : Nat) (entry : Entry) (payload : String) :
    (add w keep entry payload).2.failed = true ∨
    ∃ after, add w keep entry payload = (.ok ((m.push entry).evictOver keep).1, after) ∧
      texts after = addedTexts (texts w) entry.id payload ((m.push entry).evictOver keep).2
        (((m.push entry).evictOver keep).1.map (·.id)) := by
  rw [add]
  rcases Viewed.load_cases w Manifest.key with ⟨why, w₁, hload, -⟩ | ⟨w₁, hload, -⟩
  · rw [manifest, hload]
    exact .inl (Watched.failed_of_error (Store.load · Manifest.key) hload)
  obtain ⟨w₁, htexts₁, hmanifest⟩ := manifest_of_load (congrArg Prod.fst hload)
  rw [hlisting] at hmanifest
  rw [hmanifest]
  dsimp only [Except.mapError]
  rcases Viewed.save_cases w₁ entry.id payload with ⟨why, w₂, hsave, -⟩ | ⟨w₂, hsave, htexts₂⟩
  · simp only [hsave]
    exact .inl (Watched.failed_of_error (Store.save · entry.id payload) hsave)
  rcases Viewed.save_cases w₂ Manifest.key ((m.push entry).evictOver keep).2.text with
    ⟨why, w₃, hput, -⟩ | ⟨w₃, hput, htexts₃⟩
  · simp only [hsave, putManifest, hput]
    exact .inl (Watched.failed_of_error (Store.save · Manifest.key _) hput)
  simp only [hsave, putManifest, hput]
  have hcleared := clear_watched w₃ (((m.push entry).evictOver keep).1.map (·.id))
  refine hcleared.imp_right fun hclear => ?_
  refine ⟨_, rfl, ?_⟩
  rw [hclear, htexts₃, htexts₂, htexts₁, addedTexts]

end Watched

/-! ### The watch makes no difference -/

section Erasure

variable {σ : Type} [Store σ]

/-- Reading the manifest makes **no difference** to what is watched. -/
theorem erase_manifest (w : Watched σ) :
    Prod.map id Watched.inner (manifest w) = manifest w.inner := by
  have hload : Prod.map id Watched.inner (Store.load w Manifest.key) =
      Store.load w.inner Manifest.key := rfl
  rw [manifest, manifest, ← hload]
  rcases Store.load w Manifest.key with ⟨why | text, w'⟩
  · rfl
  · cases text with
    | none => rfl
    | some text =>
      dsimp only [Prod.map_apply, id]
      cases Manifest.ofText text <;> rfl

/-- Writing the manifest makes **no difference** to what is watched. -/
theorem erase_putManifest (w : Watched σ) (m : Manifest) :
    Prod.map id Watched.inner (putManifest w m) = putManifest w.inner m := by
  have hsave : Prod.map id Watched.inner (Store.save w Manifest.key m.text) =
      Store.save w.inner Manifest.key m.text := rfl
  rw [putManifest, putManifest, ← hsave]
  rcases Store.save w Manifest.key m.text with ⟨why | done, w'⟩ <;> rfl

/-- Clearing makes **no difference** to what is watched. -/
theorem erase_clear (w : Watched σ) (ids : List String) :
    (clear w ids).inner = clear w.inner ids := by
  induction ids generalizing w with
  | nil => rfl
  | cons id ids ih => exact ih (Store.delete w id).2

/-- Adding a save makes **no difference** to what is watched. -/
theorem erase_add (w : Watched σ) (keep : Nat) (entry : Entry) (payload : String) :
    Prod.map id Watched.inner (add w keep entry payload) = add w.inner keep entry payload := by
  rw [add, add, ← erase_manifest]
  rcases manifest w with ⟨why | m, w₁⟩
  · rfl
  have hsave : Prod.map id Watched.inner (Store.save w₁ entry.id payload) =
      Store.save w₁.inner entry.id payload := rfl
  dsimp only [Prod.map_apply, id]
  rw [← hsave]
  rcases Store.save w₁ entry.id payload with ⟨why | done, w₂⟩
  · rfl
  dsimp only [Prod.map_apply, id]
  rw [← erase_putManifest]
  rcases putManifest w₂ ((m.push entry).evictOver keep).2 with ⟨why | done, w₃⟩
  · rfl
  exact congrArg (Prod.mk _) (erase_clear w₃ _)

/-- A tick on a store that is watched answers and leaves the store as it does **otherwise**. -/
theorem Manager.erase_tick (m : Manager) (w : Watched σ) (ambient : Ambient) :
    (m.answer w ambient .tick).answer = (m.answer w.inner ambient .tick).answer ∧
      (m.answer w ambient .tick).store.inner = (m.answer w.inner ambient .tick).store := by
  rw [answer, answer]
  cases m.autoSave with
  | false => exact ⟨rfl, rfl⟩
  | true =>
    cases m.current with
    | none => exact ⟨rfl, rfl⟩
    | some s =>
      dsimp only
      rw [saveSnapshot, saveSnapshot]
      dsimp only
      cases Payload.encode s m.options.enableCompression with
      | error why => exact ⟨rfl, rfl⟩
      | ok payload =>
        dsimp only
        rw [← erase_add]
        rcases add w m.options.keep _ payload with ⟨why | evicted, w'⟩ <;> exact ⟨rfl, rfl⟩

end Erasure

/-! ### A new save -/

/-- One save was **made**, and no other: it is listed last, behind entries that were listed before,
and its snapshot is there. -/
def Archive.Made (manifest : Manifest) (e : Entry) (s : Snapshot) (after : Texts) : Prop :=
  (∃ kept, kept.Sublist manifest.entries ∧
    listing after = .ok { manifest with entries := kept ++ [e] }) ∧ snapshotAt after e.id = some s

/-- An entry that was pushed and is **not given up** is listed last. -/
theorem Manifest.evictOver_push_of_stays {m : Manifest} {e : Entry} {limit : Nat}
    (h : e.id ∉ ((m.push e).evictOver limit).1.map (·.id)) :
    ∃ kept, kept.Sublist m.entries ∧
      ((m.push e).evictOver limit).2 = { m with entries := kept ++ [e] } := by
  generalize hsplit : (m.push e).evictOver limit = split at h
  have hperm : (split.1 ++ split.2.entries).Perm (m.entries ++ [e]) := by
    rw [← hsplit]
    exact evict_perm ..
  have hsub : split.2.entries.Sublist (m.entries ++ [e]) := by
    rw [← hsplit]
    exact evict_sublist ..
  have hversion : split.2.version = m.version := by
    rw [← hsplit, version_evictOver_push]
  obtain ⟨kept, last, hleft, hkept, hlast⟩ := List.sublist_append_iff.1 hsub
  rcases List.sublist_singleton.1 hlast with rfl | rfl
  · -- The new entry would be missing from both sides of the split.
    have hgone : split.1.count e = 0 :=
      List.count_eq_zero.2 fun hmem => h (List.mem_map_of_mem hmem)
    have hcount := hperm.count_eq e
    have hle := hkept.count_le e
    rw [List.count_append, List.count_append, hgone, hleft, List.append_nil,
      List.count_singleton_self] at hcount
    omega
  · refine ⟨kept, hkept, ?_⟩
    rw [← hversion, ← hleft]

/-- A save that was added is **made** exactly if neither its id nor the key of the manifest is among
the ids that were given up for it. -/
theorem added_made_iff {before : Texts} {manifest : Manifest}
    (hlisting : listing before = .ok manifest)
    {e : Entry} {payload : String} {s : Snapshot} (hdecode : Payload.decode payload = .ok s)
    (hfree : e.id ≠ Manifest.key) (keep : Nat) :
    let split := (manifest.push e).evictOver keep
    let lost := split.1.map (·.id)
    Made manifest e s (addedTexts before e.id payload split.2 lost) ↔
      e.id ∉ lost ∧ Manifest.key ∉ lost := by
  intro split lost
  have hversion : split.2.version ≤ Manifest.currentVersion := by
    rw [Manifest.version_evictOver_push]
    exact version_le_of_listing hlisting
  have hlisted : listing (addedTexts before e.id payload split.2 lost) =
      .ok (if Manifest.key ∈ lost then {} else split.2) := listing_addedTexts hversion lost
  have htext : addedTexts before e.id payload split.2 lost e.id =
      if e.id ∈ lost then none else some payload := by
    rw [addedTexts, without, Function.update_of_ne hfree, Function.update_self]
  constructor
  · rintro ⟨⟨kept, -, hkept⟩, hsnapshot⟩
    constructor
    · intro hlost
      rw [snapshotAt, htext, if_pos hlost] at hsnapshot
      cases hsnapshot
    · intro hkey
      rw [hlisted, if_pos hkey] at hkept
      have hentries : [] = kept ++ [e] := congrArg Manifest.entries (Except.ok.inj hkept)
      simp at hentries
  · rintro ⟨hstays, hkey⟩
    obtain ⟨kept, hsub, hleft⟩ := Manifest.evictOver_push_of_stays hstays
    refine ⟨⟨kept, hsub, ?_⟩, snapshotAt_eq_some ?_ hdecode⟩
    · rw [hlisted, if_neg hkey]
      exact congrArg Except.ok hleft
    · rw [htext, if_neg hstays]

/-- The key of the manifest is given up for a save only if it was **listed**. -/
theorem Manifest.key_mem_of_lost {m : Manifest} {e : Entry} (hfree : e.id ≠ Manifest.key)
    {limit : Nat} (h : Manifest.key ∈ ((m.push e).evictOver limit).1.map (·.id)) :
    Manifest.key ∈ m.ids := by
  have hmem : Manifest.key ∈ e.id :: m.ids :=
    (m.evictOver_ids_perm e limit).subset (List.mem_append_left _ h)
  exact (List.mem_cons.1 hmem).resolve_left hfree.symm

/-! ### The three kinds of ticks -/

namespace Manager

variable {m : Manager} {ambient : Ambient}

/-- With autosave off, or nothing to save, a tick **does nothing**. -/
theorem tick_skipped {σ : Type} [Store σ] {store : σ} (h : m.autoSave = false ∨ m.current = none) :
    (m.answer store ambient .tick).answer = .ticked none ∧
      (m.answer store ambient .tick).store = store := by
  rw [answer]
  rcases h with hauto | hcurrent
  · rw [hauto]
    exact ⟨rfl, rfl⟩
  · rw [hcurrent]
    cases m.autoSave <;> exact ⟨rfl, rfl⟩

/-- A tick that **fails** leaves the manifest as it is. -/
theorem tick_failed {σ : Type} [Store σ] [Viewed σ] {store : σ} {why : Error}
    (h : (m.answer store ambient .tick).answer = .failed why) :
    texts (m.answer store ambient .tick).store Manifest.key = texts store Manifest.key := by
  have houtcome := m.answer_outcome store ambient .tick
  rw [h] at houtcome
  exact houtcome.texts_eq_of_failed (m.freshId?_ne_key ambient .tick)

/-- With autosave on, a snapshot to save and all its numbers finite, an access fails or **one save
is made**. -/
theorem tick_saved {σ : Type} [Store σ] [Viewed σ] {w : Watched σ} {manifest : Manifest}
    (hlisting : listing (texts w) = .ok manifest) {s : Snapshot} (hauto : m.autoSave = true)
    (hcurrent : m.current = some s) (hfinite : Payload.IsFinite s) :
    let entry : Entry := ⟨saveId ambient.next.1, none, ambient.next.2.next.1.now⟩
    let split := (manifest.push entry).evictOver m.options.keep
    let turn := m.answer w ambient .tick
    turn.store.failed = true ∨
      turn.answer = .ticked (some entry.id) ∧ ∃ payload, Payload.decode payload = .ok s ∧
        texts turn.store =
          addedTexts (texts w) entry.id payload split.2 (split.1.map (·.id)) := by
  intro entry split turn
  obtain ⟨payload, hencode, hdecode, -⟩ :=
    Payload.exists_payload hfinite m.options.enableCompression
  have hadd := add_watched w hlisting m.options.keep entry payload
  simp only [turn, answer, hauto, hcurrent, saveSnapshot, hencode]
  rcases hadd with hfailed | ⟨after, hadd, htexts⟩
  · left
    simp only [entry] at hfailed
    generalize add w m.options.keep _ payload = added at hfailed ⊢
    obtain ⟨why | evicted, after⟩ := added <;> exact hfailed
  · right
    simp only [entry] at hadd
    simp only [hadd]
    exact ⟨rfl, payload, hdecode, htexts⟩

end Manager

end Save

end Guildkeep
