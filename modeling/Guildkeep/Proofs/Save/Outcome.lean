import Guildkeep.Proofs.Save.Archive
import Guildkeep.Proofs.Save.Payload
import Guildkeep.Save.Manager

/-!
# What a Request Comes To

One relation says what a request can do to the texts of a store, together with the answer and the
events that go with it. It holds of every manager, every request and every store whose accesses fail
without effect, so what the relation keeps is kept by the manager. A second one forgets the events
and which request it was.

## Main results

* `Account`: the **accounts** of a request, with its events; `Outcome`: its **outcomes**, without.
* `Manager.answer_account`, `Manager.answer_outcome`: every request comes to one of them.
* `Manager.answer_failed`: a request that fails leaves the manager as it is and has no events.
-/

namespace Guildkeep.Save

open Archive Game Store

/-- The id of the save that was made, if an answer says so. -/
def Answer.savedId? : Answer → Option String
  | .saved id => some id
  | .ticked id => id
  | _ => none

namespace Manager

/-- The snapshot that a request is to save, if any. -/
def toSave? (m : Manager) : Request → Option Snapshot
  | .save _ => m.current
  | .tick => if m.autoSave then m.current else none
  | _ => none

/-- What is saved is the snapshot that is **held**: because someone asks for it, or because the time
for it has come while autosave is on. -/
theorem toSave?_cases {m : Manager} {request : Request} {s : Snapshot}
    (h : m.toSave? request = some s) :
    m.current = some s ∧
      ((∃ title, request = .save title) ∨ request = .tick ∧ m.autoSave = true) := by
  cases request with
  | save title => exact ⟨h, .inl ⟨title, rfl⟩⟩
  | tick =>
    rw [toSave?] at h
    split at h
    case isTrue hauto => exact ⟨h, .inr ⟨rfl, hauto⟩⟩
    case isFalse => cases h
  | setState | load | delete | list | enableAutoSave | disableAutoSave => cases h

/-- The id that is **generated** for a request, if it is to save anything. -/
def freshId? (m : Manager) (ambient : Ambient) (request : Request) : Option String :=
  (m.toSave? request).map fun _ => saveId ambient.next.1

/-- The key of the manifest is **never generated**. -/
theorem saveId_ne_key (moment : Moment) : saveId moment ≠ Manifest.key := by
  intro h
  have hchars := congrArg (fun s => s.toList.drop 14) h
  simp [saveId, idMark, Manifest.key, String.toList_append] at hchars

/-- An id that is generated is not the **key of the manifest**. -/
theorem freshId?_ne_key (m : Manager) (ambient : Ambient) (request : Request) :
    m.freshId? ambient request ≠ some Manifest.key := by
  intro h
  obtain ⟨s, -, hid⟩ := Option.map_eq_some_iff.1 h
  exact saveId_ne_key _ hid

end Manager

/-! ### Accounts -/

/-- The title under which a request saves. -/
def Request.title? : Request → Option String
  | .save title => title
  | _ => none

/-- The event that a save that nobody asked for **closes** with. -/
def Request.closing (id : String) : Request → List Outline
  | .tick => [Manager.completed id]
  | _ => []

/-- The events of a save: one for each entry **given up**, in their order, and one for the save. -/
def Request.events (request : Request) (evicted : List Entry) (id : String) : List Outline :=
  evicted.map (fun e => Manager.deleted e.id "evicted") ++
    Manager.created id request.title? :: request.closing id

/-- Whether an event tells of a **change** of what is listed. -/
def tellsOfListing (o : Outline) : Bool :=
  o.type == Event.Kind.saveCreated.type || o.type == Event.Kind.saveDeleted.type

/-- What a request can **come to**: its answer, its events and the texts afterwards. -/
inductive Account (m : Manager) (ambient : Ambient) (before : Texts) :
    Request → Answer → List Outline → Texts → Prop
  /-- No text changes, no save is reported, and no event tells of one. -/
  | same {request : Request} {answer : Answer} {events : List Outline}
      (unsaved : answer.savedId? = none) (silent : ∀ o ∈ events, tellsOfListing o = false) :
      Account m ambient before request answer events before
  /-- The request fails behind the payload, which no entry lists. -/
  | orphan {request : Request} {why : Error} {payload : String} {s : Snapshot}
      (saves : m.toSave? request = some s) (decodes : Payload.decode payload = .ok s) :
      Account m ambient before request (.failed why) []
        (Function.update before (Manager.saveId ambient.next.1) (some payload))
  /-- A save is made, and some of those given up for it are gone. -/
  | added {request : Request} {answer : Answer} {manifest : Manifest} {entry : Entry}
      {payload : String} {s : Snapshot} {gone : List String}
      (saves : m.toSave? request = some s) (decodes : Payload.decode payload = .ok s)
      (isEntry : entry = ⟨Manager.saveId ambient.next.1, request.title?, ambient.next.2.next.1.now⟩)
      (saved : answer.savedId? = some entry.id) (listed : listing before = .ok manifest)
      (given_up : gone ⊆ ((manifest.push entry).evictOver m.options.keep).1.map (·.id)) :
      Account m ambient before request answer
        (request.events ((manifest.push entry).evictOver m.options.keep).1 entry.id)
        (addedTexts before entry.id payload ((manifest.push entry).evictOver m.options.keep).2 gone)
  /-- A save is unlisted, and its payload may be gone. -/
  | unlisted {manifest : Manifest} {id : String} {gone : List String} (free : id ≠ Manifest.key)
      (listed : listing before = .ok manifest) (there : (manifest.find? id).isSome = true)
      (given_up : gone ⊆ [id]) :
      Account m ambient before (.delete id) .done [Manager.deleted id "deleted"]
        (without gone (Function.update before Manifest.key (some (manifest.remove id).text)))
  /-- A payload that no entry lists is deleted. -/
  | deleted {manifest : Manifest} {id : String} (free : id ≠ Manifest.key)
      (listed : listing before = .ok manifest) (absent : manifest.find? id = none) :
      Account m ambient before (.delete id) .done [Manager.deleted id "deleted"]
        (Function.update before id none)

namespace Manager

variable {σ : Type} [Store σ] [Viewed σ]

/-- All that **saving** a snapshot can come to. -/
theorem saveSnapshot_cases (m : Manager) (store : σ) (ambient : Ambient) (request : Request)
    {s : Snapshot} (hsaves : m.toSave? request = some s) :
    (∃ why store',
      m.saveSnapshot store ambient s request.title? =
        (.error why, store', ambient.next.2.next.2, []) ∧
      Account m ambient (texts store) request (.failed why) [] (texts store')) ∨
    (∃ store' events,
      m.saveSnapshot store ambient s request.title? =
        (.ok (saveId ambient.next.1), store', ambient.next.2.next.2, events) ∧
      ∀ answer : Answer, answer.savedId? = some (saveId ambient.next.1) →
        Account m ambient (texts store) request answer
          (events ++ request.closing (saveId ambient.next.1)) (texts store')) := by
  rw [saveSnapshot]
  cases hencode : Payload.encode s m.options.enableCompression with
  | error why => exact .inl ⟨.codec why, store, rfl, .same rfl nofun⟩
  | ok payload =>
    have hdecode := (Payload.eq_of_encode hencode).2.1
    simp only
    rcases add_cases store m.options.keep
      ⟨saveId ambient.next.1, request.title?, ambient.next.2.next.1.now⟩ payload with
        ⟨why, store', hadd, htexts⟩ | ⟨manifest, gone, store', hlisting, hgone, hadd, htexts⟩
    · refine .inl ⟨why, store', by rw [hadd], ?_⟩
      rcases htexts with htexts | htexts
      · rw [htexts]
        exact .same rfl nofun
      · rw [htexts]
        exact .orphan hsaves hdecode
    · refine .inr ⟨store', _, by rw [hadd], ?_⟩
      intro answer hsaved
      rw [htexts, List.append_assoc]
      exact .added hsaves hdecode rfl hsaved hlisting hgone

/-- **Every request** has one of the accounts. -/
theorem answer_account (m : Manager) (store : σ) (ambient : Ambient) (request : Request) :
    Account m ambient (texts store) request (m.answer store ambient request).answer
      (m.answer store ambient request).events (texts (m.answer store ambient request).store) := by
  cases request with
  | setState s => exact .same rfl (List.forall_mem_singleton.2 rfl)
  | save title =>
    rw [answer]
    cases hcurrent : m.current with
    | none => exact .same rfl nofun
    | some s =>
      rcases m.saveSnapshot_cases store ambient (.save title) hcurrent with
        ⟨why, store', hsave, haccount⟩ | ⟨store', events, hsave, haccount⟩
      · simp only [Request.title?] at hsave
        simp only [hsave]
        exact haccount
      · simp only [Request.title?] at hsave
        simp only [hsave]
        exact List.append_nil events ▸ haccount _ rfl
  | load id =>
    rw [answer]
    rcases fetch_cases store id with ⟨why, store', hfetch, htexts⟩ | ⟨s, store', hfetch, htexts⟩
    · simp only [hfetch, htexts]
      exact .same rfl nofun
    · simp only [hfetch, htexts]
      exact .same rfl (List.forall_mem_singleton.2 rfl)
  | delete id =>
    rw [answer]
    rcases remove_cases store id with ⟨why, store', hremove, htexts⟩ | hremove |
      ⟨hid, manifest, store', hlisting, hremove,
        ⟨hfind, gone, hgone, htexts⟩ | ⟨hfind, htexts⟩⟩
    · simp only [hremove, htexts]
      exact .same rfl nofun
    · simp only [hremove]
      exact .same rfl nofun
    · simp only [hremove, htexts]
      exact .unlisted hid hlisting hfind hgone
    · simp only [hremove, htexts]
      exact .deleted hid hlisting hfind
  | list =>
    rw [answer]
    rcases list_cases store with ⟨why, store', hlist, htexts⟩ | ⟨m, store', hlist, htexts, -⟩
    · simp only [hlist, htexts]
      exact .same rfl nofun
    · simp only [hlist, htexts]
      exact .same rfl nofun
  | enableAutoSave => exact .same rfl (List.forall_mem_singleton.2 rfl)
  | disableAutoSave => exact .same rfl (List.forall_mem_singleton.2 rfl)
  | tick =>
    rw [answer]
    cases hauto : m.autoSave with
    | false => exact .same rfl nofun
    | true =>
      cases hcurrent : m.current with
      | none => exact .same rfl nofun
      | some s =>
        have hsaves : m.toSave? .tick = some s := by
          rw [toSave?, hauto, hcurrent]
          rfl
        rcases m.saveSnapshot_cases store ambient .tick hsaves with
          ⟨why, store', hsave, haccount⟩ | ⟨store', events, hsave, haccount⟩
        · simp only [Request.title?] at hsave
          simp only [hsave]
          exact haccount
        · simp only [Request.title?] at hsave
          simp only [hsave]
          exact haccount _ rfl

end Manager

/-! ### Outcomes -/

/-- What a request can **come to**: its answer and the texts afterwards. `fresh` is the id that was
generated for it, if one was. -/
inductive Outcome (fresh : Option String) (keep : Nat) (before : Texts) : Answer → Texts → Prop
  /-- No text changes, and no save is reported. -/
  | same {answer : Answer} (unsaved : answer.savedId? = none) :
      Outcome fresh keep before answer before
  /-- The request fails behind the payload, which no entry lists. -/
  | orphan {why : Error} {id payload : String} {s : Snapshot} (isFresh : fresh = some id)
      (decodes : Payload.decode payload = .ok s) :
      Outcome fresh keep before (.failed why) (Function.update before id (some payload))
  /-- A save is made, and some of those given up for it are gone. -/
  | added {answer : Answer} {m : Manifest} {entry : Entry} {payload : String} {s : Snapshot}
      {gone : List String} (isFresh : fresh = some entry.id) (saved : answer.savedId? = fresh)
      (decodes : Payload.decode payload = .ok s) (listed : listing before = .ok m)
      (given_up : gone ⊆ ((m.push entry).evictOver keep).1.map (·.id)) :
      Outcome fresh keep before answer
        (addedTexts before entry.id payload ((m.push entry).evictOver keep).2 gone)
  /-- A save is unlisted, and its payload may be gone. -/
  | unlisted {m : Manifest} {id : String} {gone : List String} (free : id ≠ Manifest.key)
      (listed : listing before = .ok m) (there : (m.find? id).isSome = true)
      (given_up : gone ⊆ [id]) :
      Outcome fresh keep before .done
        (without gone (Function.update before Manifest.key (some (m.remove id).text)))
  /-- A payload that no entry lists is deleted. -/
  | deleted {m : Manifest} {id : String} (free : id ≠ Manifest.key)
      (listed : listing before = .ok m) (absent : m.find? id = none) :
      Outcome fresh keep before .done (Function.update before id none)

/-- The outcome behind an **account**. -/
theorem Account.outcome {m : Manager} {ambient : Ambient} {before after : Texts} {request : Request}
    {answer : Answer} {events : List Outline}
    (h : Account m ambient before request answer events after) :
    Outcome (m.freshId? ambient request) m.options.keep before answer after := by
  cases h with
  | same unsaved => exact .same unsaved
  | orphan saves decodes =>
    refine .orphan ?_ decodes
    rw [Manager.freshId?, saves]
    rfl
  | added saves decodes isEntry saved listed given_up =>
    subst isEntry
    have hfresh : m.freshId? ambient request = some (Manager.saveId ambient.next.1) := by
      rw [Manager.freshId?, saves]
      rfl
    exact .added hfresh (saved.trans hfresh.symm) decodes listed given_up
  | unlisted free listed there given_up => exact .unlisted free listed there given_up
  | deleted free listed absent => exact .deleted free listed absent

/-- Only the id that was **generated** is ever reported as saved. -/
theorem Outcome.fresh_of_saved {fresh : Option String} {keep : Nat} {before after : Texts}
    {answer : Answer} (h : Outcome fresh keep before answer after) {id : String}
    (hsaved : answer.savedId? = some id) : fresh = some id := by
  cases h with
  | same unsaved => cases unsaved.symm.trans hsaved
  | orphan => cases hsaved
  | added _ saved => exact saved.symm.trans hsaved
  | unlisted => cases hsaved
  | deleted => cases hsaved

namespace Manager

variable {σ : Type} [Store σ] [Viewed σ]

/-- **Every request** comes to one of the outcomes. -/
theorem answer_outcome (m : Manager) (store : σ) (ambient : Ambient) (request : Request) :
    Outcome (m.freshId? ambient request) m.options.keep (texts store)
      (m.answer store ambient request).answer (texts (m.answer store ambient request).store) :=
  (m.answer_account store ambient request).outcome

omit [Viewed σ] in
/-- A save takes **two moments**, whether it is made or not. -/
theorem ambient_saveSnapshot (m : Manager) (store : σ) (ambient : Ambient) (s : Snapshot)
    (title : Option String) :
    (m.saveSnapshot store ambient s title).2.2.1 = ambient.next.2.next.2 := by
  rw [saveSnapshot]
  cases Payload.encode s m.options.enableCompression with
  | error why => rfl
  | ok payload =>
    simp only
    split <;> rfl

omit [Viewed σ] in
/-- A request that saves takes two moments, and any other takes **none**. -/
theorem ambient_answer (m : Manager) (store : σ) (ambient : Ambient) (request : Request) :
    (m.answer store ambient request).ambient =
      if (m.toSave? request).isSome then ambient.next.2.next.2 else ambient := by
  cases request with
  | setState s | enableAutoSave | disableAutoSave => rfl
  | save title =>
    rw [answer, toSave?]
    cases m.current with
    | none => rfl
    | some s =>
      have hambient := m.ambient_saveSnapshot store ambient s title
      dsimp only
      split
      case h_1 hsave =>
        rw [hsave] at hambient
        exact hambient
      case h_2 hsave =>
        rw [hsave] at hambient
        exact hambient
  | load id =>
    rw [answer]
    split <;> rfl
  | delete id =>
    rw [answer]
    split <;> rfl
  | list =>
    rw [answer]
    split <;> rfl
  | tick =>
    rw [answer, toSave?]
    cases m.autoSave with
    | false => rfl
    | true =>
      cases m.current with
      | none => rfl
      | some s =>
        have hambient := m.ambient_saveSnapshot store ambient s none
        dsimp only
        split
        case h_1 hsave =>
          rw [hsave] at hambient
          exact hambient
        case h_2 hsave =>
          rw [hsave] at hambient
          exact hambient

omit [Viewed σ] in
/-- A request changes **nothing** of the manager but the current snapshot and whether autosave is
on. -/
theorem manager_answer (m : Manager) (store : σ) (ambient : Ambient) (request : Request) :
    ∃ current autoSave,
      (m.answer store ambient request).manager = { m with current, autoSave } := by
  cases request with
  | setState s => exact ⟨some s, m.autoSave, rfl⟩
  | enableAutoSave => exact ⟨m.current, true, rfl⟩
  | disableAutoSave => exact ⟨m.current, false, rfl⟩
  | save title =>
    refine ⟨m.current, m.autoSave, ?_⟩
    rw [answer]
    split
    · rfl
    · split <;> rfl
  | load id =>
    refine ⟨m.current, m.autoSave, ?_⟩
    rw [answer]
    split <;> rfl
  | delete id =>
    refine ⟨m.current, m.autoSave, ?_⟩
    rw [answer]
    split <;> rfl
  | list =>
    refine ⟨m.current, m.autoSave, ?_⟩
    rw [answer]
    split <;> rfl
  | tick =>
    refine ⟨m.current, m.autoSave, ?_⟩
    rw [answer]
    split
    · split <;> rfl
    · rfl

omit [Viewed σ] in
/-- A request that **fails** leaves the manager as it is and has no events. -/
theorem answer_failed {m : Manager} {store : σ} {ambient : Ambient} {request : Request}
    {why : Error} (h : (m.answer store ambient request).answer = .failed why) :
    (m.answer store ambient request).manager = m ∧
      (m.answer store ambient request).events = [] := by
  revert h
  -- An answer other than a failure contradicts the hypothesis; a failure carries both facts.
  cases request with
  | setState s => nofun
  | save title =>
    rw [answer]
    split
    · exact fun _ => ⟨rfl, rfl⟩
    split
    · exact fun _ => ⟨rfl, rfl⟩
    · nofun
  | load id =>
    rw [answer]
    split
    · exact fun _ => ⟨rfl, rfl⟩
    · nofun
  | delete id =>
    rw [answer]
    split
    · exact fun _ => ⟨rfl, rfl⟩
    · nofun
    · nofun
  | list =>
    rw [answer]
    split
    · exact fun _ => ⟨rfl, rfl⟩
    · nofun
  | enableAutoSave => nofun
  | disableAutoSave => nofun
  | tick =>
    rw [answer]
    split
    · split
      · exact fun _ => ⟨rfl, rfl⟩
      · nofun
    · nofun

end Manager

end Guildkeep.Save
