import Guildkeep.Proofs.Save.Relay
import Guildkeep.Store.Memory

/-!
# Listeners and the Bus Get the Same Events

There are two ways to learn what a manager does: to listen to it, or to subscribe to the bus. The
listeners are told at once, and the bus gets an event when the courier comes to it. However far the
courier lags behind, what it has taken to the bus and what is still in the queue are together what
the listeners were told, in the same order. The only moment at which an event is missing is while
its listeners are still being told, since it is queued after that. And whoever has waited for an
event finds the queue empty.

## Conventions

Listeners may come and go, register and remove others and break down, but they do not switch
autosave off: that has an event of its own, which comes before the event that the listener was told
of. Handlers on the bus may do anything.

## Main results

* `Relay.Sound.move`: every **move** keeps what was taken and what is queued together.
* `Relay.attends_move`: in every move a listener **hears** what listeners are told.
* `Relay.listeners_and_bus_agree`: so it is at every moment of **every interleaving**.
-/

namespace Guildkeep

/-! ### Told and taken -/

/-- The event that listeners were told of. -/
def Notice.told? : Notice → Option Event
  | told e => some e
  | _ => none

/-- The event that was taken on to the bus. -/
def Notice.taken? : Notice → Option Event
  | taken e => some e
  | _ => none

namespace Scene

/-- The events that listeners were **told** of, in order. -/
def told (s : Scene) : List Event :=
  s.log.filterMap Notice.told?

/-- The events that were **taken** on to the bus, in order. -/
def taken (s : Scene) : List Event :=
  s.log.filterMap Notice.taken?

/-- What listeners were told grows by **one notice** at most. -/
theorem told_note (s : Scene) (n : Notice) : (s.note n).told = s.told ++ n.told?.toList :=
  filterMap_log_note ..

/-- What was taken to the bus grows by **one notice** at most. -/
theorem taken_note (s : Scene) (n : Notice) : (s.note n).taken = s.taken ++ n.taken?.toList :=
  filterMap_log_note ..

namespace Busied

variable {s t : Scene}

/-- The bus tells listeners **nothing**. -/
theorem told (h : Busied s t) : t.told = s.told :=
  h.filterMap_log fun n hn => by cases n <;> first | rfl | cases hn

/-- The bus takes **nothing** from the queue. -/
theorem taken (h : Busied s t) : t.taken = s.taken :=
  h.filterMap_log fun n hn => by cases n <;> first | rfl | cases hn

end Busied

/-- Whoever **uses** the bus, the bus alone is busy with it. -/
theorem busied_take (s : Scene) (step : Bus.Step) : Busied s (s.take step) := by
  cases step with
  | subscribe h => exact s.busied_subscribe h
  | dispose name => exact s.busied_dispose name
  | drop name => exact s.busied_release name
  | publish e seat => exact s.busied_publish e seat

end Scene

namespace Save

open Store

/-! ### Discretion -/

mutual

/-- A reaction that leaves autosave **alone**, as does everyone whom it registers. -/
def Reaction.IsDiscreet : Reaction → Prop
  | .disablesAutoSave => False
  | .adds _ reactions => ∀ o, AreDiscreet (reactions o)
  | .panics | .removes _ | .peeks => True

/-- Reactions of which all are discreet. -/
def AreDiscreet : List Reaction → Prop
  | [] => True
  | reaction :: rest => reaction.IsDiscreet ∧ AreDiscreet rest

end

/-- A **discreet** listener: on no occasion does it switch autosave off. -/
def Listener.IsDiscreet (l : Listener) : Prop :=
  ∀ o, AreDiscreet (l.reactions o)

namespace Desk

/-- All who are registered are discreet. -/
def IsDiscreet (d : Desk) : Prop :=
  ∀ p ∈ d.manager.roster.listeners, p.2.IsDiscreet

/-- Between two desks it was **still**: nothing was noticed, and nothing was queued or taken. -/
structure Still (d d' : Desk) : Prop where
  log : d'.scene.log = d.scene.log
  forwards : d'.manager.forwards = d.manager.forwards
  queue : d'.manager.queue = d.manager.queue
  discreet : d.IsDiscreet → d'.IsDiscreet

namespace Still

variable {d d' d'' : Desk}

/-- A desk is still where **nothing happens**. -/
theorem refl (d : Desk) : Still d d :=
  ⟨rfl, rfl, rfl, id⟩

/-- A desk that is still and still again is **still**. -/
theorem trans (h : Still d d') (h' : Still d' d'') : Still d d'' :=
  ⟨h'.log.trans h.log, h'.forwards.trans h.forwards, h'.queue.trans h.queue,
    fun hd => h'.discreet (h.discreet hd)⟩

/-- At a desk that is still listeners are told **nothing**. -/
theorem told (h : Still d d') : d'.scene.told = d.scene.told :=
  congrArg (List.filterMap _) h.log

/-- At a desk that is still **nothing is taken** to the bus. -/
theorem taken (h : Still d d') : d'.scene.taken = d.scene.taken :=
  congrArg (List.filterMap _) h.log

/-- At a desk that is still nobody **hears** anything. -/
theorem heardBy (h : Still d d') (name : String) : d'.scene.heardBy name = d.scene.heardBy name :=
  congrArg (List.filterMap _) h.log

end Still

/-- Removing a listener leaves a desk **still**. -/
theorem still_unlisten (d : Desk) (name : String) : Still d (d.unlisten name).2 := by
  rw [unlisten]
  split
  · exact ⟨rfl, rfl, rfl, fun hd p hp => hd p (List.mem_of_mem_filter hp)⟩
  · exact .refl d

/-- Registering a discreet listener leaves a desk **still**. -/
theorem still_listen (d : Desk) {l : Listener} (hl : l.IsDiscreet) : Still d (d.listen l) := by
  refine ⟨rfl, rfl, rfl, fun hd p hp => ?_⟩
  obtain hp | hp := List.mem_append.1 hp
  · exact hd p hp
  · obtain rfl := List.mem_singleton.1 hp
    exact hl

/-- Registering a discreet listener under a new name leaves a desk **still**. -/
theorem still_listenNew (d : Desk) {l : Listener} (hl : l.IsDiscreet) :
    Still d (d.listenNew l) := by
  rw [listenNew]
  split
  · exact .refl d
  · exact still_listen d hl

/-- What a **discreet** listener does makes no noise. -/
theorem still_react (disable : Desk → Desk) {reactions : List Reaction}
    (h : AreDiscreet reactions) (d : Desk) : Still d (react disable reactions d) := by
  induction reactions generalizing d with
  | nil => exact .refl d
  | cons reaction rest ih =>
    rw [AreDiscreet] at h
    cases reaction with
    | panics => exact .refl d
    | removes name => exact (still_unlisten d name).trans (ih h.2 _)
    | adds name reactions =>
      exact (still_listenNew d (l := ⟨name, reactions⟩) h.1).trans (ih h.2 _)
    | disablesAutoSave => exact h.1.elim
    | peeks => exact ih h.2 d

/-- A discreet listener **hears** an event, and that is all. -/
theorem still_tellOne (disable : Desk → Desk) (e : Event) (d : Desk) {l : Listener}
    (hl : l.IsDiscreet) :
    ∃ seen, Still { d with scene := d.scene.note (.heard l.name e seen) }
      (tellOne disable e d l) :=
  ⟨_, still_react disable (hl _) _⟩

/-- Queueing an event does not touch the **scene**. -/
theorem scene_enqueue (d : Desk) (e : Event) : (d.enqueue e).scene = d.scene := by
  rw [enqueue]
  split <;> rfl

/-- Until it tells anybody, a desk that answers is **still**. -/
theorem still_answered {σ : Type} [Store σ] (d : Desk) (store : σ) (request : Request) :
    Still d (d.answered store request) := by
  obtain ⟨current, autoSave, hmanager⟩ := d.manager.manager_answer store d.scene.ambient request
  rw [answered, hmanager]
  exact ⟨rfl, rfl, rfl, id⟩

end Desk

/-! ### The caller -/

namespace Caller

/-- The event that is told and not yet queued. -/
def pending : Caller → List Event
  | telling _ _ e _ => [e]
  | free _ | emitting .. | waiting .. => []

/-- The listeners that are still to be told. -/
def toTell : Caller → List Listener
  | telling _ _ _ listeners => listeners
  | free _ | emitting .. | waiting .. => []

/-- What those with a name are still to be told. -/
def pendingFor (name : String) : Caller → List Event
  | telling _ _ e listeners => List.replicate (listeners.countP (·.name = name)) e
  | free _ | emitting .. | waiting .. => []

/-- The call that has returned. -/
def returned? : Caller → Option Call
  | free last => last
  | emitting .. | telling .. | waiting .. => none

/-- The call of which everything is delivered that it waits for. -/
def upToDate? : Caller → Option Call
  | free last => last
  | emitting call _ => some call
  | telling .. | waiting .. => none

/-- The call, and what is left to emit of it. -/
def progress? : Caller → Option (Call × List Outline)
  | free last => last.map (·, [])
  | emitting call left | telling call left _ _ | waiting call left _ => some (call, left)

/-- How many deliveries the caller waits for. -/
def mark? : Caller → Option Nat
  | waiting _ _ mark => some mark
  | free _ | emitting .. | telling .. => none

/-- A caller that has an answer to give is **free**, and that is its answer. -/
theorem eq_free_of_returned {caller : Caller} {call : Call} (h : call ∈ caller.returned?) :
    caller = .free (some call) := by
  cases caller with
  | free last => exact congrArg free h
  | emitting | telling | waiting => cases h

end Caller

namespace Relay

variable {σ : Type} {r r' r'' : Relay σ}

/-- Nothing is on its way. -/
def Idle (r : Relay σ) : Prop :=
  r.due ≤ r.delivered

/-- A relay is idle if its **courier** is, and the queue is empty. -/
theorem idle_iff : r.Idle ↔ r.courier = none ∧ r.desk.manager.queue = [] := by
  rw [Idle, due, underway, ← List.length_eq_zero_iff]
  cases r.courier with
  | none => simp
  | some delivery =>
    simp only [Option.isSome_some, Bool.toNat_true, reduceCtorEq, false_and, iff_false]
    omega

/-- What holds of a relay **between any two moves**. -/
structure Sound (r : Relay σ) : Prop where
  forwards : r.desk.manager.forwards = true
  discreet : r.desk.IsDiscreet
  toTell : ∀ l ∈ r.caller.toTell, l.IsDiscreet
  /-- What was taken, what is queued and what is about to be queued is what was told. -/
  carried : r.desk.scene.taken ++ r.desk.manager.queue ++ r.caller.pending = r.desk.scene.told
  /-- What was told last was told over the call, and with what is left to emit it is all that the
  call has to tell. -/
  emitted : ∀ p ∈ r.caller.progress?,
    (∃ earlier, r.desk.scene.told = earlier ++ p.1.emitted ++ r.caller.pending) ∧
      (p.1.emitted ++ r.caller.pending).map Event.tidings ++ p.2.map Outline.tidings =
        p.1.events.map Outline.tidings
  /-- A call that waits for its events has nothing on its way when it goes on. -/
  idle : ∀ call ∈ r.caller.upToDate?, call.request.waits = true → call.emitted ≠ [] → r.Idle
  /-- The last event in the queue is the one that the caller waits for. -/
  mark : ∀ mark ∈ r.caller.mark?, mark = r.due

/-! ### The courier and the bus -/

/-- Between two relays only the courier and the bus were **at work**. -/
structure Carries (r r' : Relay σ) : Prop where
  caller : r'.caller = r.caller
  names : r'.desk.names = r.desk.names
  roster : r'.desk.manager.roster = r.desk.manager.roster
  forwards : r'.desk.manager.forwards = r.desk.manager.forwards
  told : r'.desk.scene.told = r.desk.scene.told
  heardBy : ∀ name, r'.desk.scene.heardBy name = r.desk.scene.heardBy name
  carried : r'.desk.scene.taken ++ r'.desk.manager.queue =
    r.desk.scene.taken ++ r.desk.manager.queue
  due : r'.due = r.due
  delivered : r.delivered ≤ r'.delivered

/-- A relay carries on as **itself**. -/
theorem Carries.refl (r : Relay σ) : Carries r r :=
  ⟨rfl, rfl, rfl, rfl, rfl, fun _ => rfl, rfl, rfl, Nat.le_refl _⟩

/-- The courier goes on with the delivery that it is at, or somebody uses the bus. -/
theorem carries_scene {scene : Scene} {courier : Option (Event × Circle Bus.Work)}
    (hscene : r.desk.scene.Busied scene) (hcourier : courier.isSome = r.courier.isSome) :
    Carries r { r.withScene scene with courier } where
  caller := rfl
  names := rfl
  roster := rfl
  forwards := rfl
  told := hscene.told
  heardBy := hscene.heardBy
  carried := congrArg (· ++ r.desk.manager.queue) hscene.taken
  due := by
    rw [Relay.due, underway, hcourier]
    rfl
  delivered := Nat.le_refl _

/-- The courier takes an event from the queue, and the bus **gets it**. -/
theorem carries_take (r : Relay σ) : Carries r r.take := by
  cases hcourier : r.courier with
  | some delivery =>
    rw [take, hcourier]
    exact .refl r
  | none =>
    cases hqueue : r.desk.manager.queue with
    | nil =>
      rw [take, hcourier, hqueue]
      exact .refl r
    | cons e queue =>
      have hbusied := Scene.busied_muster (r.desk.scene.note (.taken e)) e
      rw [take_of_queue hcourier hqueue]
      refine ⟨rfl, rfl, rfl, rfl, ?_, fun name => ?_, ?_, ?_, Nat.le_refl _⟩
      · rw [hbusied.told, Scene.told_note]
        exact List.append_nil _
      · rw [hbusied.heardBy, Scene.heardBy_note]
        exact List.append_nil _
      · rw [hbusied.taken, Scene.taken_note, hqueue, List.append_assoc]
        rfl
      · rw [due, due, underway, underway, hcourier, hqueue, List.length_cons]
        simp only [Option.isSome_some, Option.isSome_none, Bool.toNat_true, Bool.toNat_false]
        omega

/-- A turn of the courier **carries on**. -/
theorem carries_turn (r : Relay σ) : Carries r r.turn := by
  rw [turn]
  split
  case h_1 hcourier => exact carries_scene (Scene.busied_deliver ..) (by rw [hcourier]; rfl)
  case h_2 => exact .refl r

/-- Calling the courier back **carries on**. -/
theorem carries_callBack (r : Relay σ) : Carries r r.callBack := by
  rw [callBack]
  split
  case h_1 hcourier => exact carries_scene (Scene.busied_callBack ..) (by rw [hcourier]; rfl)
  case h_2 => exact .refl r

/-- However many rounds it takes, a delivery **ends** with a report. -/
theorem exists_finish {e : Event} {circle : Circle Bus.Work}
    (hcourier : r.courier = some (e, circle)) :
    ∃ rounds, r.finish =
      { r.withScene ((Scene.settle .behind rounds circle r.desk.scene).2.report e
          (Scene.settle .behind rounds circle r.desk.scene).1.members) with
        courier := none
        delivered := r.delivered + 1 } := by
  refine ⟨Scene.roundsEnough circle, ?_⟩
  rw [finish, hcourier]

/-- The end of a delivery **carries on**. -/
theorem carries_finish (r : Relay σ) : Carries r r.finish := by
  cases hcourier : r.courier with
  | none =>
    rw [finish, hcourier]
    exact .refl r
  | some delivery =>
    obtain ⟨e, circle⟩ := delivery
    obtain ⟨rounds, hfinish⟩ := exists_finish hcourier
    have hbusied := (r.desk.scene.busied_settle .behind rounds circle).trans
      (Scene.busied_report _ e (Scene.settle .behind rounds circle r.desk.scene).1.members)
    rw [hfinish]
    refine ⟨rfl, rfl, rfl, rfl, hbusied.told, hbusied.heardBy, ?_, ?_, Nat.le_succ _⟩
    · exact congrArg (· ++ r.desk.manager.queue) hbusied.taken
    · rw [due, due, underway, underway, hcourier]
      rfl

/-- What carries on from an idle relay is **idle**. -/
theorem Carries.idle (h : Carries r r') (hidle : r.Idle) : r'.Idle := by
  rw [Idle, h.due]
  exact Nat.le_trans hidle h.delivered

/-- What carries on from a sound relay is **sound**. -/
theorem Sound.carries (h : Sound r) (hcarries : Carries r r') : Sound r' where
  forwards := by rw [hcarries.forwards, h.forwards]
  discreet := by
    rw [Desk.IsDiscreet, hcarries.roster]
    exact h.discreet
  toTell := by
    rw [hcarries.caller]
    exact h.toTell
  carried := by rw [hcarries.caller, hcarries.carried, hcarries.told, h.carried]
  emitted := by
    rw [hcarries.caller, hcarries.told]
    exact h.emitted
  idle call hcall hwaits hemitted :=
    hcarries.idle (h.idle call (by rwa [hcarries.caller] at hcall) hwaits hemitted)
  mark mark hmark := by
    rw [hcarries.caller] at hmark
    rw [hcarries.due, h.mark mark hmark]

/-! ### The caller's moves -/

/-- Where it is **still**, nothing changes for the caller. -/
theorem Sound.still (h : Sound r) {desk : Desk} (hstill : r.desk.Still desk) (store : σ) :
    Sound { r with desk, store } := by
  have hdue : Relay.due { r with desk, store } = r.due := by
    rw [due, due, hstill.queue]
    rfl
  refine ⟨hstill.forwards.trans h.forwards, hstill.discreet h.discreet, h.toTell, ?_, ?_, ?_, ?_⟩
  · rw [hstill.taken, hstill.queue, hstill.told, h.carried]
  · rw [hstill.told]
    exact h.emitted
  · intro call hcall hwaits hemitted
    rw [Idle, hdue]
    exact h.idle call hcall hwaits hemitted
  · intro mark hmark
    rw [hdue, h.mark mark hmark]

/-- The caller moves **between** events. -/
theorem Sound.between (h : Sound r) {caller : Caller} (hbefore : r.caller.pending = [])
    (htoTell : caller.toTell = []) (hpending : caller.pending = []) (hmark : caller.mark? = none)
    (hprogress : ∀ p ∈ caller.progress?, p ∈ r.caller.progress? ∨
      p.1.emitted = [] ∧ p.2 = p.1.events)
    (hidle : ∀ call ∈ caller.upToDate?, call.request.waits = true → call.emitted ≠ [] → r.Idle) :
    Sound { r with caller } where
  forwards := h.forwards
  discreet := h.discreet
  toTell := by
    rw [htoTell]
    exact List.forall_mem_nil _
  carried := by rw [hpending, ← hbefore, h.carried]
  emitted p hp := by
    rw [hpending]
    obtain hsame | ⟨hnone, hall⟩ := hprogress p hp
    · rw [← hbefore]
      exact h.emitted p hsame
    · rw [hnone, hall]
      exact ⟨⟨r.desk.scene.told, by simp⟩, rfl⟩
  idle := hidle
  mark mark hmem := by
    rw [hmark] at hmem
    cases hmem

/-- The caller **begins** to tell an event. -/
theorem Sound.begin (h : Sound r) {call : Call} {o : Outline} {left : List Outline}
    (hcaller : r.caller = .emitting call (o :: left)) : Sound r.goOn := by
  have hcarried := h.carried
  have hmake := r.desk.scene.busied_make o
  obtain ⟨⟨earlier, htold⟩, hcomplete⟩ := h.emitted (call, o :: left) (by rw [hcaller]; rfl)
  rw [hcaller, Caller.pending, List.append_nil] at hcarried htold hcomplete
  have hmade : ((r.desk.scene.make o).2.note (.told (r.desk.scene.make o).1)).told =
      r.desk.scene.told ++ [(r.desk.scene.make o).1] := by
    rw [Scene.told_note, hmake.told]
    rfl
  rw [goOn, hcaller]
  refine ⟨h.forwards, h.discreet, ?_, ?_, ?_, ?_, ?_⟩
  · intro l hl
    obtain ⟨p, hp, rfl⟩ := List.mem_map.1 hl
    exact h.discreet p hp
  · change ((r.desk.scene.make o).2.note (.told (r.desk.scene.make o).1)).taken ++
        r.desk.manager.queue ++ [(r.desk.scene.make o).1] =
      ((r.desk.scene.make o).2.note (.told (r.desk.scene.make o).1)).told
    rw [hmade, Scene.taken_note, hmake.taken, ← hcarried]
    simp [Notice.taken?]
  · rintro _ ⟨⟩
    refine ⟨⟨earlier, ?_⟩, ?_⟩
    · refine hmade.trans ?_
      rw [htold]
      rfl
    · have htidings : (r.desk.scene.make o).1.tidings = o.tidings := rfl
      rw [← hcomplete]
      simp [Caller.pending, htidings]
  · rintro call ⟨⟩
  · rintro mark ⟨⟩

/-- The caller tells **one listener**. -/
theorem Sound.tellOne (h : Sound r) {call : Call} {left : List Outline} {e : Event} {l : Listener}
    {listeners : List Listener} (hcaller : r.caller = .telling call left e (l :: listeners)) :
    Sound r.goOn := by
  have hcarried := h.carried
  have htoTell := h.toTell
  have hemitted := h.emitted (call, left) (by rw [hcaller]; rfl)
  rw [hcaller, Caller.pending] at hcarried hemitted
  rw [hcaller] at htoTell
  obtain ⟨seen, hstill⟩ := Desk.still_tellOne Desk.disable e r.desk (htoTell l List.mem_cons_self)
  rw [goOn, hcaller]
  have htold : (Desk.tellOne Desk.disable e r.desk l).scene.told = r.desk.scene.told := by
    rw [hstill.told, Scene.told_note]
    exact List.append_nil _
  refine ⟨hstill.forwards.trans h.forwards, hstill.discreet h.discreet, ?_, ?_, ?_, ?_, ?_⟩
  · exact fun l' hl' => htoTell l' (List.mem_cons_of_mem l hl')
  · dsimp only
    rw [htold, hstill.taken, hstill.queue, Scene.taken_note, Caller.pending]
    simpa [Notice.taken?] using hcarried
  · rintro _ ⟨⟩
    dsimp only
    rw [htold]
    exact hemitted
  · rintro call ⟨⟩
  · rintro mark ⟨⟩

/-- The caller **queues** the event that all have been told of. -/
theorem Sound.enqueue (h : Sound r) {call : Call} {left : List Outline} {e : Event}
    (hcaller : r.caller = .telling call left e []) : Sound r.goOn := by
  have hcarried := h.carried
  have hqueued : r.desk.enqueue e =
      { r.desk with
        manager := { r.desk.manager with queue := r.desk.manager.queue ++ [e] } } :=
    if_pos h.forwards
  obtain ⟨⟨earlier, htold⟩, hcomplete⟩ := h.emitted (call, left) (by rw [hcaller]; rfl)
  rw [hcaller, Caller.pending, List.append_assoc] at hcarried htold
  rw [hcaller, Caller.pending] at hcomplete
  have hemitted : (∃ earlier, r.desk.scene.told = earlier ++ (call.emitted ++ [e]) ++ []) ∧
      (call.emitted ++ [e] ++ []).map Event.tidings ++ left.map Outline.tidings =
        call.events.map Outline.tidings := by
    rw [List.append_nil]
    exact ⟨⟨earlier, htold.trans (List.append_nil _).symm⟩, hcomplete⟩
  rw [goOn, hcaller]
  dsimp only
  rw [hqueued]
  cases hwaits : call.request.waits with
  | true =>
    refine ⟨h.forwards, h.discreet, List.forall_mem_nil _, ?_, ?_, ?_, ?_⟩
    · exact (List.append_nil _).trans hcarried
    · rintro _ ⟨⟩
      exact hemitted
    · rintro call ⟨⟩
    · rintro mark ⟨⟩
      rfl
  | false =>
    refine ⟨h.forwards, h.discreet, List.forall_mem_nil _, ?_, ?_, ?_, ?_⟩
    · exact (List.append_nil _).trans hcarried
    · rintro _ ⟨⟩
      exact hemitted
    · rintro _ ⟨⟩ hwaited
      exact absurd hwaited (by simp [hwaits])
    · rintro mark ⟨⟩

/-- A sound relay that goes on stays **sound**. -/
theorem Sound.goOn (h : Sound r) : Sound r.goOn := by
  cases hcaller : r.caller with
  | free last =>
    rw [Relay.goOn, hcaller]
    exact h
  | emitting call left =>
    cases left with
    | cons o left => exact h.begin hcaller
    | nil =>
      rw [Relay.goOn, hcaller]
      refine h.between (by rw [hcaller]; rfl) rfl rfl rfl ?_ fun last hlast => h.idle last ?_
      · rw [hcaller]
        exact fun _ => .inl
      · rw [hcaller]
        exact hlast
  | telling call left e listeners =>
    cases listeners with
    | cons l listeners => exact h.tellOne hcaller
    | nil => exact h.enqueue hcaller
  | waiting call left mark =>
    rw [Relay.goOn, hcaller]
    dsimp only
    split
    case isFalse => exact h
    case isTrue hdelivered =>
      refine h.between (by rw [hcaller]; rfl) rfl rfl rfl ?_ fun _ _ _ _ => ?_
      · rw [hcaller]
        exact fun _ => .inl
      -- The mark is what is due, so nothing is on its way when it is reached.
      · rwa [h.mark mark (by rw [hcaller]; rfl)] at hdelivered

/-! ### What a listener hears -/

/-- From one relay to the other a listener with a name **attends**: if it is alone under its name
and still registered, it hears what listeners are told. -/
structure Attends (name : String) (r r' : Relay σ) : Prop where
  known : r.desk.names.has name = true → r'.desk.names.has name = true
  /-- Nobody else is registered under the name. -/
  fewer : r.desk.names.has name = true → r'.desk.namesakes name ≤ r.desk.namesakes name
  heard : r.desk.names.has name = true → r.desk.namesakes name ≤ 1 → r'.desk.namesakes name = 1 →
    ∃ more, r'.desk.scene.told = r.desk.scene.told ++ more ∧
      r'.desk.scene.heardBy name ++ r'.caller.pendingFor name =
        r.desk.scene.heardBy name ++ r.caller.pendingFor name ++ more

namespace Attends

variable {name : String}

/-- Where nothing happens a listener **attends**. -/
theorem refl (name : String) (r : Relay σ) : Attends name r r :=
  ⟨id, fun _ => Nat.le_refl _,
    fun _ _ _ => ⟨[], (List.append_nil _).symm, (List.append_nil _).symm⟩⟩

/-- Who attends, and attends again, **attends**. -/
theorem trans (h : Attends name r r') (h' : Attends name r' r'') : Attends name r r'' where
  known hknown := h'.known (h.known hknown)
  fewer hknown := Nat.le_trans (h'.fewer (h.known hknown)) (h.fewer hknown)
  heard hknown halone hstays := by
    have hfewer := h.fewer hknown
    have hfewer' := h'.fewer (h.known hknown)
    obtain ⟨more, htold, hheard⟩ := h.heard hknown halone (by omega)
    obtain ⟨more', htold', hheard'⟩ := h'.heard (h.known hknown) (by omega) hstays
    refine ⟨more ++ more', ?_, ?_⟩
    · rw [htold', htold, List.append_assoc]
    · rw [hheard', hheard, List.append_assoc _ more more']

/-- Where **nobody** is told anything. -/
theorem of_silent (hknown : r.desk.names.has name = true → r'.desk.names.has name = true)
    (hfewer : r.desk.names.has name = true → r'.desk.namesakes name ≤ r.desk.namesakes name)
    (htold : r'.desk.scene.told = r.desk.scene.told)
    (hheard : r'.desk.scene.heardBy name = r.desk.scene.heardBy name)
    (hpending : r'.caller.pendingFor name = r.caller.pendingFor name) : Attends name r r' where
  known := hknown
  fewer := hfewer
  heard _ _ _ := ⟨[], by rw [htold, List.append_nil], by rw [hheard, hpending, List.append_nil]⟩

/-- Whatever is carried on, a listener **attends**. -/
theorem of_carries (h : Carries r r') : Attends name r r' := by
  refine of_silent ?_ ?_ h.told (h.heardBy name) (by rw [h.caller])
  · rw [h.names]
    exact id
  · rw [Desk.namesakes, h.roster]
    exact fun _ => Nat.le_refl _

/-- Where it is **still** and only others register. -/
theorem of_still {desk : Desk} {more : List Tidings} (hstill : r.desk.Still desk)
    (hhears : r.desk.Hears name more desk) (store : σ) {caller : Caller}
    (hpending : caller.pendingFor name = r.caller.pendingFor name) :
    Attends name r { r with desk, store, caller } :=
  of_silent hhears.known hhears.fewer hstill.told (hstill.heardBy name) hpending

/-- When the telling **begins**, the listener is to be told as often as it is registered. -/
theorem begin {call : Call} {o : Outline} {left : List Outline}
    (hcaller : r.caller = .emitting call (o :: left)) : Attends name r r.goOn := by
  have hmake := r.desk.scene.busied_make o
  rw [goOn, hcaller]
  refine ⟨id, fun _ => Nat.le_refl _, fun _ _ hstays => ⟨[(r.desk.scene.make o).1], ?_, ?_⟩⟩
  · change ((r.desk.scene.make o).2.note (.told (r.desk.scene.make o).1)).told =
      r.desk.scene.told ++ [(r.desk.scene.make o).1]
    rw [Scene.told_note, hmake.told]
    rfl
  · change r.desk.namesakes name = 1 at hstays
    change ((r.desk.scene.make o).2.note (.told (r.desk.scene.make o).1)).heardBy name ++
        List.replicate ((r.desk.manager.roster.listeners.map (·.2)).countP (·.name = name))
          (r.desk.scene.make o).1 = _
    rw [← Desk.namesakes_eq, hstays, Scene.heardBy_note, hmake.heardBy, hcaller]
    simp [Notice.heardBy?, Caller.pendingFor]

/-- Whoever has **its turn** to be told hears the event. -/
theorem tellOne (h : Sound r) {call : Call} {left : List Outline} {e : Event} {l : Listener}
    {listeners : List Listener} (hcaller : r.caller = .telling call left e (l :: listeners)) :
    Attends name r r.goOn := by
  have hdiscreet : l.IsDiscreet := h.toTell l (by rw [hcaller]; exact List.mem_cons_self)
  have hhears := Desk.hears_tellOne name (Desk.hears_disable name) e r.desk l
  obtain ⟨seen, hstill⟩ := Desk.still_tellOne Desk.disable e r.desk hdiscreet
  rw [goOn, hcaller]
  refine ⟨hhears.known, hhears.fewer, fun _ _ _ => ⟨[], ?_, ?_⟩⟩
  · rw [hstill.told, Scene.told_note]
    rfl
  · dsimp only
    rw [hstill.heardBy, Scene.heardBy_note, hcaller, Caller.pendingFor, Caller.pendingFor,
      Notice.heardBy?]
    by_cases hname : l.name = name
    · rw [if_pos hname, List.countP_cons_of_pos (by simpa using hname), List.replicate_succ]
      simp
    · rw [if_neg hname, List.countP_cons_of_neg (by simpa using hname)]
      simp

/-- While a sound relay goes on a listener **attends**. -/
theorem goOn (h : Sound r) : Attends name r r.goOn := by
  cases hcaller : r.caller with
  | free last =>
    rw [Relay.goOn, hcaller]
    exact .refl name r
  | emitting call left =>
    cases left with
    | cons o left => exact .begin hcaller
    | nil =>
      rw [Relay.goOn, hcaller]
      exact .of_still (.refl _) (.refl name _) r.store (by rw [hcaller]; rfl)
  | telling call left e listeners =>
    cases listeners with
    | cons l listeners => exact .tellOne h hcaller
    | nil =>
      have hhears := Desk.hears_enqueue name r.desk e
      rw [Relay.goOn, hcaller]
      dsimp only
      refine .of_silent hhears.known hhears.fewer ?_ ?_ ?_
      · exact congrArg Scene.told (r.desk.scene_enqueue e)
      · exact congrArg (Scene.heardBy · name) (r.desk.scene_enqueue e)
      · rw [hcaller]
        dsimp only
        split <;> rfl
  | waiting call left mark =>
    rw [Relay.goOn, hcaller]
    dsimp only
    split
    · exact .of_still (.refl _) (.refl name _) r.store (by rw [hcaller]; rfl)
    · exact .refl name r

end Attends

/-! ### Moves -/

variable [Store σ]

/-- A request leaves a sound relay **sound**. -/
theorem Sound.ask (h : Sound r) (request : Request) : Sound (r.ask request) := by
  rw [Relay.ask]
  split
  case h_2 => exact h
  case h_1 last hcaller =>
    refine (h.still (r.desk.still_answered r.store request) _).between
      (by dsimp only; rw [hcaller]; rfl) rfl rfl rfl ?_ ?_
    · rintro _ ⟨⟩
      exact .inr ⟨rfl, rfl⟩
    · rintro _ ⟨⟩ - hemitted
      exact absurd rfl hemitted

/-- Every **move** keeps what holds between the moves, if whoever is registered by it is
discreet. -/
theorem Sound.move (h : Sound r) {move : Move}
    (hmove : ∀ l, move = .listen l → l.IsDiscreet) : Sound (r.move move) := by
  cases move with
  | ask request => exact h.ask request
  | listen l =>
    rw [Relay.move]
    split
    · exact h.still (r.desk.still_listen (hmove l rfl)) r.store
    · exact h
  | unlisten name =>
    rw [Relay.move]
    split
    · exact h.still (r.desk.still_unlisten name) r.store
    · exact h
  | goOn => exact h.goOn
  | take => exact h.carries r.carries_take
  | turn => exact h.carries r.carries_turn
  | callBack => exact h.carries r.carries_callBack
  | finish => exact h.carries r.carries_finish
  | use step => exact h.carries (carries_scene (r.desk.scene.busied_take step) rfl)

/-- Every run leaves a sound relay **sound**, if those who are registered are discreet. -/
theorem Sound.run (h : Sound r) {moves : List Move}
    (hmoves : ∀ l, .listen l ∈ moves → l.IsDiscreet) : Sound (r.run moves) := by
  induction moves generalizing r with
  | nil => exact h
  | cons move moves ih =>
    refine ih (h.move fun l hl => hmoves l ?_) fun l hl => hmoves l (List.mem_cons_of_mem _ hl)
    rw [hl]
    exact List.mem_cons_self

/-- In every **move** a listener hears what listeners are told, if nobody registers under its
name. -/
theorem attends_move (h : Sound r) {name : String} {move : Move}
    (hmove : ∀ l, move = .listen l → l.IsDiscreet ∧ l.name ≠ name) :
    Attends name r (r.move move) := by
  cases move with
  | ask request =>
    rw [Relay.move, Relay.ask]
    split
    case h_2 => exact .refl name r
    case h_1 last hcaller =>
      exact .of_still (r.desk.still_answered r.store request)
        (Desk.hears_answered name r.desk r.store request) _ (by rw [hcaller]; rfl)
  | listen l =>
    obtain hl := hmove l rfl
    rw [Relay.move]
    split
    · exact .of_still (r.desk.still_listen hl.1) (Desk.hears_listen name r.desk hl.2) r.store rfl
    · exact .refl name r
  | unlisten other =>
    rw [Relay.move]
    split
    · exact .of_still (r.desk.still_unlisten other) (Desk.hears_unlisten name r.desk other) r.store
        rfl
    · exact .refl name r
  | goOn => exact .goOn h
  | take => exact .of_carries r.carries_take
  | turn => exact .of_carries r.carries_turn
  | callBack => exact .of_carries r.carries_callBack
  | finish => exact .of_carries r.carries_finish
  | use step => exact .of_carries (carries_scene (r.desk.scene.busied_take step) rfl)

/-- In every run a listener **attends** that is not registered again. -/
theorem attends_run (h : Sound r) {name : String} {moves : List Move}
    (hmoves : ∀ l, .listen l ∈ moves → l.IsDiscreet ∧ l.name ≠ name) :
    Attends name r (r.run moves) := by
  induction moves generalizing r with
  | nil => exact .refl name r
  | cons move moves ih =>
    have hmove : ∀ l, move = .listen l → l.IsDiscreet ∧ l.name ≠ name :=
      fun l hl => hmoves l (hl ▸ List.mem_cons_self)
    exact (attends_move h hmove).trans
      (ih (h.move fun l hl => (hmove l hl).1) fun l hl => hmoves l (List.mem_cons_of_mem _ hl))

/-- **Listeners and the bus get the same events**, in whatever order a caller, the courier and
others on the bus make their moves. -/
theorem listeners_and_bus_agree (desk : Desk) (store : σ) (moves : List Move)
    (hforwards : desk.manager.forwards = true) (hqueue : desk.manager.queue = [])
    (htold : desk.scene.told = []) (htaken : desk.scene.taken = [])
    (hdiscreet : desk.IsDiscreet) (hmoves : ∀ l, .listen l ∈ moves → l.IsDiscreet) :
    let start : Relay σ := { desk, store }
    let r := start.run moves
    -- What was taken to the bus and what is queued is what listeners were told, in this order; but
    -- an event that they are being told of is not queued yet.
    r.desk.scene.taken ++ r.desk.manager.queue ++ r.caller.pending = r.desk.scene.told ∧
      -- When a call returns, the events that it had to tell were told last; and if it waits for its
      -- events and has emitted some, nothing is on its way.
      (∀ call ∈ r.caller.returned?,
        (∃ earlier, r.desk.scene.told = earlier ++ call.emitted) ∧
          call.emitted.map Event.tidings = call.events.map Outline.tidings ∧
          (call.request.waits = true → call.emitted ≠ [] →
            r.desk.manager.queue = [] ∧ r.courier = none)) ∧
      -- A listener that is alone under its name hears, from any moment on at which it is registered
      -- and as long as it is, what listeners are told; if it is its turn to be told, it will hear
      -- it.
      ∀ before later name, moves = before ++ later →
        let s := start.run before
        s.desk.names.has name = true → s.desk.namesakes name = 1 →
          (∀ l, .listen l ∈ later → l.name ≠ name) → r.desk.namesakes name = 1 →
            ∃ more, r.desk.scene.told = s.desk.scene.told ++ more ∧
              r.desk.scene.heardBy name ++ r.caller.pendingFor name =
                s.desk.scene.heardBy name ++ s.caller.pendingFor name ++ more := by
  intro start r
  have hstart : Sound start := by
    refine ⟨hforwards, hdiscreet, List.forall_mem_nil _, ?_, ?_, ?_, ?_⟩
    · rw [htold, htaken, hqueue]
      rfl
    · rintro p ⟨⟩
    · rintro call ⟨⟩
    · rintro mark ⟨⟩
  have hr : Sound r := hstart.run hmoves
  refine ⟨hr.carried, fun call hcall => ?_, ?_⟩
  · have hfree := Caller.eq_free_of_returned hcall
    obtain ⟨hlast, hcomplete⟩ := hr.emitted (call, []) (by rw [hfree]; rfl)
    rw [hfree, Caller.pending, List.append_nil] at hcomplete
    simp only [hfree, Caller.pending, List.append_nil] at hlast
    refine ⟨hlast, (List.append_nil _).symm.trans hcomplete, fun hwaits hemitted => ?_⟩
    exact (idle_iff.1 (hr.idle call (by rw [hfree]; rfl) hwaits hemitted)).symm
  · rintro before later name rfl s hknown halone hothers hstays
    have hs : Sound s := hstart.run fun l hl => hmoves l (List.mem_append_left _ hl)
    have hattends : Attends name s (s.run later) :=
      attends_run hs fun l hl => ⟨hmoves l (List.mem_append_right _ hl), hothers l hl⟩
    rw [show r = s.run later from run_append ..] at hstays ⊢
    exact hattends.heard hknown halone.le hstays

/-- A listener that registers another one and then breaks down, a handler that fails, and a courier
that takes the first event only while the second one is told. -/
theorem listeners_and_bus_agree_lagging :
    let scene : Scene := { ambient := { moments := fun i => ⟨.epoch, Text.nat i⟩ } }
    let desk : Desk := { manager := { forwards := true }, scene }
    let store : Memory := {}
    let broken : Listener :=
      { name := "broken"
        reactions := fun o =>
          if o.event.type = "game.save.deleted" then [.panics] else [.adds "late" fun _ => []] }
    let before : List Move :=
      [.use (.subscribe (.always "keeper" [] 2 (.fails "boom"))), .listen broken,
        .listen (.always "log")]
    let later : List Move :=
      [.ask .enableAutoSave, .goOn, .goOn, .goOn, .goOn, .goOn, .ask (.delete "x"), .goOn, .goOn,
        .take, .goOn, .goOn, .goOn, .turn, .finish, .take, .finish, .goOn, .goOn]
    let start : Relay Memory := { desk, store }
    let r := start.run (before ++ later)
    r.desk.scene.told.map (·.type) = ["game.autosave.enabled", "game.save.deleted"] ∧
      r.desk.scene.taken = r.desk.scene.told ∧ r.desk.manager.queue = [] ∧
      r.desk.scene.heardBy "log" = r.desk.scene.told := by
  intro scene desk store broken before later start r
  have hmoves : ∀ l, .listen l ∈ before ++ later → l.IsDiscreet := by
    intro l hl
    obtain rfl | rfl : l = broken ∨ l = .always "log" := by
      simpa [before, later] using hl
    · intro o
      change AreDiscreet (if o.event.type = "game.save.deleted" then _ else _)
      split <;> simp [AreDiscreet, Reaction.IsDiscreet]
    · exact fun _ => trivial
  obtain ⟨hcarried, hreturned, hhears⟩ := listeners_and_bus_agree desk store (before ++ later)
    rfl rfl rfl rfl (List.forall_mem_nil _) hmoves
  obtain ⟨call, hcall, hend⟩ : ∃ call, r.caller.returned? = some call ∧
      (call.request.waits && !call.emitted.isEmpty) = true :=
    (Option.any_eq_true _ _).1 (by decide +kernel)
  rw [Bool.and_eq_true, Bool.not_eq_true', List.isEmpty_eq_false_iff] at hend
  obtain ⟨-, -, hidle⟩ := hreturned call hcall
  obtain ⟨hqueue, -⟩ := hidle hend.1 hend.2
  have hnone : r.caller.pending = [] ∧ r.caller.pendingFor "log" = [] :=
    ⟨List.isEmpty_iff.1 (by decide +kernel), List.isEmpty_iff.1 (by decide +kernel)⟩
  rw [hqueue, hnone.1, List.append_nil, List.append_nil] at hcarried
  have hbefore : (start.run before).desk.scene.told = [] ∧
      (start.run before).desk.scene.heardBy "log" = [] ∧
        (start.run before).caller.pendingFor "log" = [] := ⟨rfl, rfl, rfl⟩
  obtain ⟨more, htold, hheard⟩ := hhears before later "log" rfl (by decide +kernel)
    (by decide +kernel) (by simp [later]) (by decide +kernel)
  rw [hbefore.1, List.nil_append] at htold
  rw [hbefore.2.1, hbefore.2.2, hnone.2, List.append_nil, List.nil_append, List.nil_append, ← htold]
    at hheard
  have htypes : r.desk.scene.told.map (·.type) =
      ["game.autosave.enabled", "game.save.deleted"] := by decide +kernel
  -- The run is the same one by its name; it must not be computed again.
  with_reducible exact ⟨htypes, hcarried, hqueue, hheard⟩

end Relay

end Save

end Guildkeep
