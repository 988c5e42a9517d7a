import Guildkeep.House
import Guildkeep.Proofs.Save.Ledger
import Guildkeep.Proofs.Save.Quiet
import Guildkeep.Proofs.Text.Digits

/-!
# The Manager Keeps a Ledger

A house that starts on an empty store answers every run of requests as a ledger does. Managers may
be dropped and opened again in between, saves may be compressed or not, and the bus may have any
handlers: what can be seen from outside is the ledger.

## Main results

* `Mirrors`: a manager, its store and the moments to come **mirror** a ledger.
* `Mirrors.answer`, `Mirrors.take`: requests and reopening keep the mirror, with equal answers.
* `answers_eq_ledger_answers`: **every run** of a house on an empty store is a run of the ledger.

## Conventions

The time never goes back and no id is generated twice: both are assumptions about the supply of
moments. A save is stamped with the id of the next moment and the time of the one after it.
-/

namespace Guildkeep.Save

open Archive Game Store

/-- The **stamp** that a save would get now. -/
def stampAt (ambient : Ambient) : Stamp where
  id := Manager.saveId ambient.next.1
  time := ambient.next.2.next.1.now

/-- What is done in a house: something is asked of the manager in charge, or it is dropped and
another one is opened with the same options. -/
inductive Deed where
  | ask (request : Request)
  | reopen (forwards : Bool)

/-! ### Runs -/

namespace Ledger

/-- What a ledger answers to a deed. Reopening keeps the lines. -/
def take (l : Ledger) (keep : Nat) (stamp : Stamp) : Deed → Answer × Ledger
  | .ask request => l.ask keep stamp request
  | .reopen _ => (.done, { lines := l.lines })

/-- The answers of a ledger to deeds, each with the stamp for a save. -/
def answers (keep : Nat) : Ledger → List (Stamp × Deed) → List Answer
  | _, [] => []
  | l, (stamp, deed) :: deeds =>
    (l.take keep stamp deed).1 :: answers keep (l.take keep stamp deed).2 deeds

end Ledger

end Guildkeep.Save

namespace Guildkeep.House

open Save

variable {σ : Type} [Store σ]

/-- What the house answers to a deed. -/
def take (options : Options) (h : House σ) : Deed → Answer × House σ
  | .ask request => h.ask request
  | .reopen forwards =>
    match h.reopen options forwards with
    | (.ok _, h) => (.done, h)
    | (.error why, h) => (.failed why, h)

/-- The answers of the house to deeds, one after another. -/
def answers (options : Options) : House σ → List Deed → List Answer
  | _, [] => []
  | h, deed :: deeds => (h.take options deed).1 :: answers options (h.take options deed).2 deeds

/-- Deeds with the stamp that a save would get in the house by then. -/
def stamped (options : Options) : House σ → List Deed → List (Stamp × Deed)
  | _, [] => []
  | h, deed :: deeds =>
    (stampAt h.scene.ambient, deed) :: stamped options (h.take options deed).2 deeds

end Guildkeep.House

namespace Guildkeep.Save

open Archive Game Store

/-! ### The mirror -/

/-- A **steady** supply of moments: the time never goes back, and no two moments give the same
id. -/
structure Steady (moments : Nat → Moment) : Prop where
  clock : ∀ i j, i ≤ j → (moments i).now.rank ≤ (moments j).now.rank
  ids : ∀ i j, Manager.saveId (moments i) = Manager.saveId (moments j) → i = j

/-- A manager, its store and the moments to come **mirror** a ledger. -/
structure Mirrors (moments : Nat → Moment) (options : Options) (m : Manager) (store : Memory)
    (ambient : Ambient) (l : Ledger) : Prop where
  options : m.options = options
  current : m.current = l.current
  autoSave : m.autoSave = l.autoSave
  quiet : m.roster.listeners = []
  supply : ambient.moments = moments
  available : store.available = true
  holds : Holds (texts store) l.lines
  /-- Every line was stamped with moments that have passed. -/
  past : ∀ line ∈ l.lines, ∃ i j, i < ambient.passed ∧ j < ambient.passed ∧
    line.entry.id = Manager.saveId (moments i) ∧ line.entry.timestamp = (moments j).now

namespace Mirrors

variable {moments : Nat → Moment} {options : Options} {m : Manager} {store : Memory}
  {ambient : Ambient} {l : Ledger}

/-- While moments pass the mirror **stays**. -/
theorem later (h : Mirrors moments options m store ambient l) {ambient' : Ambient}
    (hleads : ambient.Leads ambient') : Mirrors moments options m store ambient' l :=
  { h with
    supply := hleads.moments.trans h.supply
    past := fun line hline => by
      obtain ⟨i, j, hi, hj, hid, htime⟩ := h.past line hline
      have hpassed := hleads.passed
      exact ⟨i, j, by omega, by omega, hid, htime⟩ }

/-- A stamp is **new**: no line has its id, and none is younger. -/
theorem stamp_new (hsteady : Steady moments) (h : Mirrors moments options m store ambient l) :
    (stampAt ambient).id ∉ Ledger.ids l.lines ∧
      ∀ line ∈ l.lines, line.entry.timestamp.rank ≤ (stampAt ambient).time.rank := by
  obtain rfl := h.supply
  constructor
  · intro hmem
    obtain ⟨line, hline, hid⟩ := List.mem_map.1 hmem
    obtain ⟨i, j, hi, -, hid', -⟩ := h.past line hline
    have heq := hsteady.ids i ambient.passed (hid'.symm.trans hid)
    omega
  · intro line hline
    obtain ⟨i, j, -, hj, -, htime⟩ := h.past line hline
    rw [htime]
    exact hsteady.clock j (ambient.passed + 1) (by omega)

/-- **Saving** a snapshot records a line, or fails as recording it does. -/
theorem saveSnapshot (hsteady : Steady moments) (h : Mirrors moments options m store ambient l)
    (s : Snapshot) (title : Option String) :
    (∃ why, l.record options.keep (stampAt ambient) title s = .error why ∧
      m.saveSnapshot store ambient s title = (.error why, store, ambient.next.2.next.2, [])) ∨
    (∃ l' store' events, l.record options.keep (stampAt ambient) title s = .ok l' ∧
      m.saveSnapshot store ambient s title =
        (.ok (stampAt ambient).id, store', ambient.next.2.next.2, events) ∧
      Mirrors moments options m store' ambient.next.2.next.2 l') := by
  rw [Ledger.record, Manager.saveSnapshot, h.options]
  cases hfind : (Payload.floats s).find? fun f => !f.2.isFinite with
  | some float =>
    have hencode : Payload.encode s options.enableCompression =
        .error (.notFinite float.1 float.2) := by
      rw [Payload.encode, hfind]
    exact .inl ⟨_, rfl, by simp only [hencode]⟩
  | none =>
    obtain ⟨payload, hencode⟩ :
        ∃ payload, Payload.encode s options.enableCompression = .ok payload :=
      ⟨_, by rw [Payload.encode, hfind]⟩
    have hdecode := (Payload.eq_of_encode hencode).2.1
    obtain ⟨hnew, hlatest⟩ := h.stamp_new hsteady
    obtain ⟨evicted, store', hadd, havailable, hholds⟩ := add_of_holds h.available h.holds
      ((stampAt ambient).line title s) hnew (Manager.saveId_ne_key _) hlatest hdecode options.keep
    rw [stampAt, Stamp.line] at hadd
    simp only [hencode, hadd]
    refine .inr ⟨_, store', _, rfl, rfl, ?_⟩
    have hlater := h.later ((Ambient.Leads.next ambient).trans (.next _))
    refine { hlater with available := havailable, holds := hholds, past := ?_ }
    intro line hline
    rcases List.mem_cons.1 (List.mem_of_mem_take hline) with rfl | hold
    · have hfirst : ambient.passed < ambient.passed + 2 := by omega
      have hsecond : ambient.passed + 1 < ambient.passed + 2 := by omega
      rw [← h.supply]
      exact ⟨ambient.passed, ambient.passed + 1, hfirst, hsecond, rfl, rfl⟩
    · exact hlater.past line hold

/-- **Every request** is answered as the ledger answers it, and the mirror stays. -/
theorem answer (hsteady : Steady moments) (h : Mirrors moments options m store ambient l)
    (request : Request) :
    (m.answer store ambient request).answer =
      (l.ask options.keep (stampAt ambient) request).1 ∧
    Mirrors moments options (m.answer store ambient request).manager
      (m.answer store ambient request).store (m.answer store ambient request).ambient
      (l.ask options.keep (stampAt ambient) request).2 := by
  cases request with
  | setState s => exact ⟨rfl, { h with current := rfl }⟩
  | save title =>
    rw [Manager.answer, Ledger.ask, ← h.current]
    cases hcurrent : m.current with
    | none => exact ⟨rfl, h⟩
    | some s =>
      rcases h.saveSnapshot hsteady s title with
        ⟨why, hrecord, hsave⟩ | ⟨l', store', events, hrecord, hsave, hmirror⟩
      · simp only [hrecord, hsave, true_and]
        exact h.later ((Ambient.Leads.next ambient).trans (.next _))
      · simp only [hrecord, hsave, true_and]
        exact hmirror
  | load id =>
    rw [Manager.answer, Ledger.ask, fetch_of_holds h.available h.holds]
    cases Ledger.find? l.lines id with
    | none => exact ⟨rfl, h⟩
    | some line => exact ⟨rfl, h⟩
  | delete id =>
    obtain ⟨attempted, store', hremove, havailable, hholds⟩ :=
      remove_of_holds h.available h.holds id
    have hpast : ∀ line ∈ l.lines.filter (·.entry.id ≠ id), ∃ i j, i < ambient.passed ∧
        j < ambient.passed ∧ line.entry.id = Manager.saveId (moments i) ∧
        line.entry.timestamp = (moments j).now := fun line hline =>
      h.past line (List.mem_of_mem_filter hline)
    rw [Manager.answer, Ledger.ask, hremove]
    cases attempted with
    | false => exact ⟨rfl, { h with available := havailable, holds := hholds, past := hpast }⟩
    | true => exact ⟨rfl, { h with available := havailable, holds := hholds, past := hpast }⟩
  | list =>
    rw [Manager.answer, Ledger.ask, list_of_holds h.available h.holds]
    exact ⟨rfl, h⟩
  | enableAutoSave => exact ⟨rfl, { h with autoSave := rfl }⟩
  | disableAutoSave => exact ⟨rfl, { h with autoSave := rfl }⟩
  | tick =>
    rw [Manager.answer, Ledger.ask, ← h.current, ← h.autoSave]
    cases hauto : m.autoSave with
    | false => exact ⟨rfl, h⟩
    | true =>
      cases hcurrent : m.current with
      | none => exact ⟨rfl, h⟩
      | some s =>
        rcases h.saveSnapshot hsteady s none with
          ⟨why, hrecord, hsave⟩ | ⟨l', store', events, hrecord, hsave, hmirror⟩
        · simp only [hrecord, hsave, true_and]
          exact h.later ((Ambient.Leads.next ambient).trans (.next _))
        · simp only [hrecord, hsave, true_and]
          exact hmirror

/-- Telling the events of a request does not blur the mirror. -/
theorem undisturbed {d d' : Desk} (h : Mirrors moments options d.manager store d.scene.ambient l)
    (hdesk : d.Undisturbed d') : Mirrors moments options d'.manager store d'.scene.ambient l :=
  { h.later hdesk.leads with
    options := hdesk.options.trans h.options
    current := hdesk.current.trans h.current
    autoSave := hdesk.autoSave.trans h.autoSave
    quiet := (congrArg _ hdesk.roster).trans h.quiet }

/-- **Every deed** in the house is answered as the ledger answers it, and the mirror stays. -/
theorem take (hsteady : Steady moments) {house : House Memory}
    (h : Mirrors moments options house.manager house.store house.scene.ambient l) (deed : Deed) :
    (house.take options deed).1 = (l.take options.keep (stampAt house.scene.ambient) deed).1 ∧
    Mirrors moments options (house.take options deed).2.manager (house.take options deed).2.store
      (house.take options deed).2.scene.ambient
      (l.take options.keep (stampAt house.scene.ambient) deed).2 := by
  cases deed with
  | ask request =>
    obtain ⟨hanswer, hmirror⟩ := h.answer hsteady request
    refine ⟨hanswer, ?_⟩
    exact hmirror.undisturbed (Desk.undisturbed_emitAll hmirror.quiet ..)
  | reopen forwards =>
    rw [House.take, House.reopen, Manager.openOn, manifest_memory h.available h.holds.listed]
    exact ⟨rfl, { h with options := rfl, current := rfl, autoSave := rfl, quiet := rfl }⟩

/-- **Every run** of the house is a run of the ledger. -/
theorem answers (hsteady : Steady moments) {house : House Memory}
    (h : Mirrors moments options house.manager house.store house.scene.ambient l)
    (deeds : List Deed) :
    house.answers options deeds = l.answers options.keep (house.stamped options deeds) := by
  induction deeds generalizing house l with
  | nil => rfl
  | cons deed deeds ih =>
    obtain ⟨hanswer, hmirror⟩ := h.take hsteady deed
    rw [House.answers, House.stamped, Ledger.answers, hanswer, ih hmirror]

end Mirrors

end Guildkeep.Save
