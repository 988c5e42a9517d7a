import Guildkeep.Proofs.Save.Outcome
import Guildkeep.Save.Desk

/-!
# A Request That Fails Leaves No Trace

A request that fails changes nothing that anyone can see: not the manager, not the scene with its
bus and its listeners, and not the texts of the store. There is one exception, which nobody can see
either: a save that breaks off behind its payload leaves the payload under the new id, where no
entry lists it.

## Main results

* `Outcome.texts_eq_of_failed`: what a failed request leaves of the **texts**.
* `Desk.ask_failed`: what it leaves of the **desk**.
* `failed_ask_leaves_no_trace`: both, for every gate, and that nothing is written while the manifest
  cannot be read.
-/

namespace Guildkeep.Save

open Archive Game Store

/-- A request that fails changes **no text** but that of the id that was generated for it. -/
theorem Outcome.texts_eq_of_failed {fresh : Option String} {keep : Nat} {before after : Texts}
    {why : Error} (h : Outcome fresh keep before (.failed why) after) {key : String}
    (hkey : fresh ≠ some key) : after key = before key := by
  cases h with
  | same => rfl
  | @orphan _ id payload s isFresh decodes =>
    have hne : key ≠ id := by
      rintro rfl
      exact hkey isFresh
    exact Function.update_of_ne hne ..
  | added isFresh saved =>
    rw [isFresh] at saved
    cases saved

/-- A request that fails leaves the **desk** as it is; only moments may have passed. -/
theorem Desk.ask_failed {σ : Type} [Store σ] {desk : Desk} {store : σ} {request : Request}
    {why : Error} (h : (desk.ask store request).1 = .failed why) :
    ∃ ambient, (desk.ask store request).2.2 =
      { desk with scene := { desk.scene with ambient } } := by
  obtain ⟨hmanager, hevents⟩ := Manager.answer_failed h
  refine ⟨(desk.manager.answer store desk.scene.ambient request).ambient, ?_⟩
  rw [ask, hmanager, hevents]
  rfl

/-! ### While the manifest cannot be read -/

namespace Archive

/-- Reading the manifest is **one load** of its key. -/
theorem store_manifest {σ : Type} [Store σ] (s : σ) :
    (manifest s).2 = (Store.load s Manifest.key).2 := by
  rw [manifest]
  split
  case h_1 hload => rw [hload]
  case h_2 hload => rw [hload]
  case h_3 hload =>
    rw [hload]
    split <;> rfl

end Archive

/-- Loading from a store in memory behind a gate is **only logged**. -/
theorem load_gated (g : Gated Memory) (key : String) :
    ∃ refused, (Store.load g key).2 = { g with log := g.log ++ [⟨⟨.load, key⟩, refused⟩] } := by
  cases h : g.outage g.log ⟨.load, key⟩ with
  | true => exact ⟨true, congrArg Prod.snd (Gated.pass_of_refused h _)⟩
  | false =>
    have hinner : (Store.load g.inner key).2 = g.inner := by
      change (if g.inner.available then _ else _ : _ × Memory).2 = g.inner
      split <;> rfl
    have hload : Store.load g.inner key = ((Store.load g.inner key).1, g.inner) :=
      Prod.ext rfl hinner
    exact ⟨false, congrArg Prod.snd (Gated.pass_of_passed h hload)⟩

/-- The store behind a gate has been read from at most, **never written** to. -/
def OnlyRead (before after : Gated Memory) : Prop :=
  after.inner = before.inner ∧
    ∃ more, after.log = before.log ++ more ∧ ∀ logged ∈ more, logged.access.verb = .load

/-- A store that nobody touched was **only read**. -/
theorem OnlyRead.refl (g : Gated Memory) : OnlyRead g g :=
  ⟨rfl, [], (List.append_nil _).symm, nofun⟩

/-- The manifest is **only read**. -/
theorem onlyRead_manifest (g : Gated Memory) : OnlyRead g (manifest g).2 := by
  obtain ⟨refused, hload⟩ := load_gated g Manifest.key
  rw [store_manifest, hload]
  exact ⟨rfl, _, rfl, by simp⟩

/-- What failed **is the failure** and what it left. -/
theorem eq_of_fst_error {α σ : Type} {r : Except Error α × σ} {why : Error} (h : r.1 = .error why) :
    r = (.error why, r.2) :=
  Prod.ext h rfl

namespace Manager

/-- While the manifest cannot be read, saving **fails** and writes nothing. -/
theorem save_of_manifest_error {m : Manager} {s : Snapshot} (hcurrent : m.current = some s)
    {store : Gated Memory} {why : Error} (hmanifest : (manifest store).1 = .error why)
    (ambient : Ambient) (title : Option String) :
    ∃ why', (m.answer store ambient (.save title)).answer = .failed why' ∧
      OnlyRead store (m.answer store ambient (.save title)).store := by
  rw [answer, hcurrent]
  simp only [saveSnapshot]
  cases Payload.encode s m.options.enableCompression with
  | error why' => exact ⟨.codec why', rfl, .refl store⟩
  | ok payload =>
    simp only [add_of_manifest_error (eq_of_fst_error hmanifest)]
    exact ⟨why, rfl, onlyRead_manifest store⟩

/-- While the manifest cannot be read, deleting **fails** and writes nothing. -/
theorem delete_of_manifest_error {store : Gated Memory} {why : Error}
    (hmanifest : (manifest store).1 = .error why) {id : String} (hid : id ≠ Manifest.key)
    (m : Manager) (ambient : Ambient) :
    ∃ why', (m.answer store ambient (.delete id)).answer = .failed why' ∧
      OnlyRead store (m.answer store ambient (.delete id)).store := by
  rw [answer]
  simp only [remove_of_manifest_error (eq_of_fst_error hmanifest) hid]
  exact ⟨why, rfl, onlyRead_manifest store⟩

end Manager

/-! ### Every request -/

/-- **A request that fails leaves no trace**, whatever the store holds, whichever accesses the gate
refuses and whatever the state of the manager. The text of the manifest stays, and so does every
text but that of the id that was generated for the request, if one was. The desk stays with all
that belongs to it: current snapshot, autosave, listeners, the queue to the bus, the bus and the
record of what was told; only moments may have passed. And while the manifest cannot be read, to
save the current snapshot and to delete any save fails and writes nothing. -/
theorem failed_ask_leaves_no_trace (desk : Desk) (store : Gated Memory) (request : Request) :
    (∀ why, (desk.ask store request).1 = .failed why →
      texts (desk.ask store request).2.1 Manifest.key = texts store Manifest.key ∧
      (∀ key, desk.manager.freshId? desk.scene.ambient request ≠ some key →
        texts (desk.ask store request).2.1 key = texts store key) ∧
      ∃ ambient, (desk.ask store request).2.2 =
        { desk with scene := { desk.scene with ambient } }) ∧
    (∀ why, (manifest store).1 = .error why →
      (desk.manager.current.isSome = true ∧ (∃ title, request = .save title)) ∨
        (∃ id, id ≠ Manifest.key ∧ request = .delete id) →
      ∃ why', (desk.ask store request).1 = .failed why' ∧
        OnlyRead store (desk.ask store request).2.1) := by
  constructor
  · intro why hfailed
    have houtcome := desk.manager.answer_outcome store desk.scene.ambient request
    change Outcome _ _ _ (desk.ask store request).1 _ at houtcome
    rw [hfailed] at houtcome
    refine ⟨houtcome.texts_eq_of_failed ?_, fun key => houtcome.texts_eq_of_failed,
      Desk.ask_failed hfailed⟩
    intro hfresh
    obtain ⟨s, -, hid⟩ := Option.map_eq_some_iff.1 hfresh
    exact Manager.saveId_ne_key _ hid
  · rintro why hmanifest (⟨hcurrent, title, rfl⟩ | ⟨id, hid, rfl⟩)
    · obtain ⟨s, hcurrent⟩ := Option.isSome_iff_exists.1 hcurrent
      exact Manager.save_of_manifest_error hcurrent hmanifest desk.scene.ambient title
    · exact Manager.delete_of_manifest_error hmanifest hid desk.manager desk.scene.ambient

/-- A save on a store whose manifest is no JSON fails, and the manifest stays as it is. -/
theorem failed_ask_leaves_no_trace_corrupt_manifest :
    let store : Gated Memory := { inner := { texts := ({} : Table _ _).put Manifest.key "?" } }
    let s : Snapshot := ⟨.opening "" 100 .epoch, {}⟩
    let desk : Desk :=
      { manager := { current := some s }
        scene := { ambient := { moments := fun _ => ⟨.epoch, "0"⟩ } } }
    ∃ why, (desk.ask store (.save none)).1 = .failed why ∧
      OnlyRead store (desk.ask store (.save none)).2.1 ∧
      texts (desk.ask store (.save none)).2.1 Manifest.key = some "?" := by
  intro store s desk
  have h := failed_ask_leaves_no_trace desk store (.save none)
  obtain ⟨why, hfailed, hread⟩ := h.2 _ rfl (.inl ⟨rfl, none, rfl⟩)
  exact ⟨why, hfailed, hread, (h.1 why hfailed).1⟩

end Guildkeep.Save
