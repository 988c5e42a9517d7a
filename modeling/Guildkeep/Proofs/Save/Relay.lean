import Guildkeep.Proofs.Bus.Reception
import Guildkeep.Proofs.Save.Hearing

/-!
# The Courier at Its Own Pace

A desk tells its events in one go and carries them to the bus when someone waits for them. Here both
are taken apart. One caller puts requests to the manager; to emit an event it tells the listeners
one after another and then queues the event. A courier takes events from the queue and delivers
them, turn by turn. Either of them may move at any time, and meanwhile others may use the bus.

## Conventions

A run is a list of moves, in any order. A move that is not possible where it stands does nothing. So
whatever holds after every list of moves holds at every moment of every interleaving.

A request is answered in one move: nothing is told before it is answered, and the courier has
nothing to do with the store. A call whose request waits goes on with its next event, and returns,
only when as many events have been delivered as were on their way when its last one was queued.

## Main results

* `Relay.run`: what a list of moves **leads to**.
* `Relay.follows_ask`: what a desk does in one go is one of the **interleavings**.
-/

namespace Guildkeep.Save

/-- A **call** of the manager: what was asked and answered. -/
structure Call where
  request : Request
  answer : Answer
  /-- What is to be told of it. -/
  events : List Outline
  /-- The events that were emitted so far. -/
  emitted : List Event := []

/-- Where the **caller** stands. -/
inductive Caller where
  /-- In no call; the last one has returned. -/
  | free (last : Option Call)
  /-- In a call, with events left to emit. -/
  | emitting (call : Call) (left : List Outline)
  /-- In the middle of an event, with listeners left to tell before it is queued. -/
  | telling (call : Call) (left : List Outline) (e : Event) (listeners : List Listener)
  /-- Waiting until so many events have been delivered. -/
  | waiting (call : Call) (left : List Outline) (mark : Nat)

/-- A desk with its **caller** and its **courier**. -/
structure Relay (σ : Type) where
  desk : Desk
  store : σ
  /-- What the courier delivers, and to whom. -/
  courier : Option (Event × Circle Bus.Work) := none
  /-- How many events the courier has delivered. -/
  delivered : Nat := 0
  caller : Caller := .free none

/-- A **move**. -/
inductive Move where
  /-- The caller puts a request to the manager. -/
  | ask (request : Request)
  /-- The caller registers a listener. -/
  | listen (l : Listener)
  /-- The caller removes a listener. -/
  | unlisten (name : String)
  /-- The caller goes on with its call. -/
  | goOn
  /-- The courier takes the next event from the queue. -/
  | take
  /-- The handlers that the courier delivers to have a turn. -/
  | turn
  /-- Those of them are called who gave way. -/
  | callBack
  /-- The handlers come to their end, and their failures are reported. -/
  | finish
  /-- Somebody else uses the bus. -/
  | use (step : Bus.Step)

namespace Relay

variable {σ : Type}

/-- The relay in another scene. -/
def withScene (r : Relay σ) (scene : Scene) : Relay σ :=
  { r with desk := { r.desk with scene } }

/-- How many events the courier is **delivering**. -/
def underway (r : Relay σ) : Nat :=
  r.courier.isSome.toNat

/-- How many events will have been delivered when nothing is on its way any more. -/
def due (r : Relay σ) : Nat :=
  r.delivered + r.underway + r.desk.manager.queue.length

/-- The caller **goes on** with its call. -/
def goOn (r : Relay σ) : Relay σ :=
  match r.caller with
  | .free _ => r
  | .emitting call [] => { r with caller := .free (some call) }
  | .emitting call (o :: left) =>
    let made := r.desk.scene.make o
    { r.withScene (made.2.note (.told made.1)) with
      caller := .telling call left made.1 (r.desk.manager.roster.listeners.map (·.2)) }
  | .telling call left e (l :: listeners) =>
    { r with
      desk := Desk.tellOne Desk.disable e r.desk l
      caller := .telling call left e listeners }
  | .telling call left e [] =>
    let r := { r with desk := r.desk.enqueue e }
    let call := { call with emitted := call.emitted ++ [e] }
    { r with
      caller := if call.request.waits then .waiting call left r.due else .emitting call left }
  | .waiting call left mark =>
    if mark ≤ r.delivered then { r with caller := .emitting call left } else r

/-- The courier **takes** the next event, if it has delivered the one before. -/
def take (r : Relay σ) : Relay σ :=
  match r.courier, r.desk.manager.queue with
  | none, e :: queue =>
    let mustered := (r.desk.scene.note (.taken e)).muster e
    { r with
      desk := { r.desk with manager := { r.desk.manager with queue }, scene := mustered.2 }
      courier := some (e, mustered.1) }
  | _, _ => r

/-- A **turn** of those to whom the courier delivers. -/
def turn (r : Relay σ) : Relay σ :=
  match r.courier with
  | some (e, circle) =>
    let t := r.desk.scene.deliver .behind circle
    { r.withScene t.rest with courier := some (e, t.work) }
  | none => r

/-- Calls those who gave way. -/
def callBack (r : Relay σ) : Relay σ :=
  match r.courier with
  | some (e, circle) =>
    let called := Scene.callBack .behind circle r.desk.scene
    { r.withScene called.2 with courier := some (e, called.1) }
  | none => r

/-- The delivery comes to its **end**, in as many rounds as are left, and its failures are
reported. -/
def finish (r : Relay σ) : Relay σ :=
  match r.courier with
  | some (e, circle) =>
    let settled := Scene.settle .behind (Scene.roundsEnough circle) circle r.desk.scene
    { r.withScene (settled.2.report e settled.1.members) with
      courier := none
      delivered := r.delivered + 1 }
  | none => r

variable [Store σ]

/-- The caller puts a **request** to the manager, if it is in no other call. -/
def ask (r : Relay σ) (request : Request) : Relay σ :=
  match r.caller with
  | .free _ =>
    let turn := r.desk.manager.answer r.store r.desk.scene.ambient request
    { r with
      desk := r.desk.answered r.store request
      store := turn.store
      caller := .emitting ⟨request, turn.answer, turn.events, []⟩ turn.events }
  | _ => r

/-- What one **move** leads to. -/
def move (r : Relay σ) : Move → Relay σ
  | .ask request => r.ask request
  | .listen l =>
    match r.caller with
    | .free _ => { r with desk := r.desk.listen l }
    | _ => r
  | .unlisten name =>
    match r.caller with
    | .free _ => { r with desk := (r.desk.unlisten name).2 }
    | _ => r
  | .goOn => r.goOn
  | .take => r.take
  | .turn => r.turn
  | .callBack => r.callBack
  | .finish => r.finish
  | .use step => r.withScene (r.desk.scene.take step)

/-- What moves **lead to**, one after another. -/
def run (r : Relay σ) (moves : List Move) : Relay σ :=
  moves.foldl move r

/-- A run goes **move by move**. -/
theorem run_append (r : Relay σ) (moves later : List Move) :
    r.run (moves ++ later) = (r.run moves).run later :=
  List.foldl_append

/-! ### In one go -/

/-- One relay **follows** from another by moves of the caller and the courier alone. -/
def Follows (r r' : Relay σ) : Prop :=
  ∃ moves, (∀ move ∈ moves, move ∈ [Move.goOn, .take, .finish]) ∧ r.run moves = r'

namespace Follows

/-- What nothing happens to **follows**. -/
theorem refl (r : Relay σ) : Follows r r :=
  ⟨[], List.forall_mem_nil _, rfl⟩

/-- What follows what follows **follows**. -/
theorem trans {r r' r'' : Relay σ} (h : Follows r r') (h' : Follows r' r'') : Follows r r'' := by
  obtain ⟨moves, hmoves, rfl⟩ := h
  obtain ⟨later, hlater, rfl⟩ := h'
  exact ⟨moves ++ later, List.forall_mem_append.2 ⟨hmoves, hlater⟩, run_append r moves later⟩

/-- To go on is to **follow**. -/
theorem goOn (r : Relay σ) : Follows r r.goOn :=
  ⟨[.goOn], by simp, by rw [run, List.foldl_cons, List.foldl_nil, move]⟩

/-- The courier takes an event and delivers it. -/
theorem deliver (r : Relay σ) : Follows r r.take.finish :=
  ⟨[.take, .finish], by simp,
    by rw [run, List.foldl_cons, List.foldl_cons, List.foldl_nil, move, move]⟩

end Follows

omit [Store σ] in
/-- An idle courier takes the **first event** of the queue. -/
theorem take_of_queue {r : Relay σ} (hcourier : r.courier = none) {e : Event} {queue : List Event}
    (hqueue : r.desk.manager.queue = e :: queue) :
    r.take =
      { r with
        desk :=
          { r.desk with
            manager := { r.desk.manager with queue }
            scene := ((r.desk.scene.note (.taken e)).muster e).2 }
        courier := some (e, ((r.desk.scene.note (.taken e)).muster e).1) } := by
  rw [take, hcourier, hqueue]

omit [Store σ] in
/-- The courier **forwards** an event as a desk does. -/
theorem finish_take {r : Relay σ} (hcourier : r.courier = none)
    (hqueue : r.desk.manager.queue ≠ []) :
    r.take.finish = { r with desk := r.desk.forward, delivered := r.delivered + 1 } := by
  obtain ⟨e, queue, hqueue⟩ := List.exists_cons_of_ne_nil hqueue
  rw [take_of_queue hcourier hqueue, finish, Desk.forward, hqueue]
  simp only [Scene.publish, withScene, hcourier]

/-- The caller tells the listeners **one after another**, as a desk does. -/
theorem follows_tell (r : Relay σ) (call : Call) (left : List Outline) (e : Event)
    (listeners : List Listener) :
    Follows { r with caller := .telling call left e listeners }
      { r with
        desk := listeners.foldl (Desk.tellOne Desk.disable e) r.desk
        caller := .telling call left e [] } := by
  induction listeners generalizing r with
  | nil => exact .refl _
  | cons l rest ih =>
    have hfirst := Follows.goOn { r with caller := .telling call left e (l :: rest) }
    exact hfirst.trans (ih { r with desk := Desk.tellOne Desk.disable e r.desk l })

/-- The courier **forwards** so many events as a desk does. -/
theorem follows_forwardN {n : Nat} (r : Relay σ) (hcourier : r.courier = none)
    (hn : n ≤ r.desk.manager.queue.length) :
    Follows r { r with desk := Desk.forwardN n r.desk, delivered := r.delivered + n } := by
  induction n generalizing r with
  | zero => exact .refl r
  | succ n ih =>
    have hqueue : r.desk.manager.queue ≠ [] := List.ne_nil_of_length_pos (by omega)
    have hfirst := Follows.deliver r
    rw [finish_take hcourier hqueue] at hfirst
    have hrest := ih { r with desk := r.desk.forward, delivered := r.delivered + 1 } hcourier (by
      rw [Desk.queue_forward, List.length_tail]
      omega)
    have hcount : r.delivered + (n + 1) = r.delivered + 1 + n := by omega
    rw [hcount]
    exact hfirst.trans hrest

omit [Store σ] in
/-- A caller that waits for what was delivered goes on **at once**. -/
theorem goOn_of_waited (r : Relay σ) (call : Call) (left : List Outline) {mark : Nat}
    (h : mark ≤ r.delivered) :
    goOn { r with caller := .waiting call left mark } =
      { r with caller := .emitting call left } :=
  if_pos h

/-- A caller that waits goes on when the queue is **drained**. -/
theorem follows_drain (r : Relay σ) (hcourier : r.courier = none) (call : Call)
    (left : List Outline) :
    Follows { r with caller := .waiting call left r.due }
      { r with
        desk := r.desk.drain
        delivered := r.due
        caller := .emitting call left } := by
  have hdue : r.delivered + r.desk.manager.queue.length = r.due := by
    rw [due, underway, hcourier]
    rfl
  have hdrain := follows_forwardN { r with caller := .waiting call left r.due } hcourier
    (Nat.le_refl _)
  have hlast := Follows.goOn
    { r with desk := r.desk.drain, delivered := r.due, caller := .waiting call left r.due }
  rw [goOn_of_waited { r with desk := r.desk.drain, delivered := r.due } call left
    (Nat.le_refl _)] at hlast
  simp only [hdue] at hdrain
  exact hdrain.trans hlast

/-- An event is **emitted** as a desk does it. -/
theorem follows_emit (r : Relay σ) (hcourier : r.courier = none) (call : Call) (o : Outline)
    (left : List Outline) :
    ∃ delivered, Follows { r with caller := .emitting call (o :: left) }
      { r with
        desk := if call.request.waits then (r.desk.emit o).drain else r.desk.emit o
        delivered
        caller :=
          .emitting { call with emitted := call.emitted ++ [(r.desk.scene.make o).1] } left } := by
  have hbegin := Follows.goOn { r with caller := .emitting call (o :: left) }
  have htell := follows_tell
    (r.withScene ((r.desk.scene.make o).2.note (.told (r.desk.scene.make o).1))) call left
    (r.desk.scene.make o).1 (r.desk.manager.roster.listeners.map (·.2))
  have hqueue := (hbegin.trans htell).trans (Follows.goOn _)
  simp only [Relay.goOn] at hqueue
  cases hwaits : call.request.waits with
  | false =>
    rw [hwaits] at hqueue
    exact ⟨r.delivered, hqueue⟩
  | true =>
    rw [hwaits] at hqueue
    have hdrain := follows_drain { r with desk := r.desk.emit o } hcourier
      { call with emitted := call.emitted ++ [(r.desk.scene.make o).1] } left
    exact ⟨_, hqueue.trans hdrain⟩

/-- Events are emitted one after another as a desk does it. -/
theorem follows_emitAll (r : Relay σ) (hcourier : r.courier = none) (call : Call)
    (events : List Outline) :
    ∃ delivered emitted, Follows { r with caller := .emitting call events }
      { r with
        desk := r.desk.emitAll call.request.waits events
        delivered
        caller := .emitting { call with emitted } [] } := by
  induction events generalizing r call with
  | nil => exact ⟨r.delivered, call.emitted, .refl _⟩
  | cons o events ih =>
    obtain ⟨delivered, hfirst⟩ := follows_emit r hcourier call o events
    obtain ⟨delivered', emitted, hrest⟩ := ih
      { r with
        desk := if call.request.waits then (r.desk.emit o).drain else r.desk.emit o
        delivered }
      hcourier { call with emitted := call.emitted ++ [(r.desk.scene.make o).1] }
    exact ⟨delivered', emitted, hfirst.trans hrest⟩

/-- A desk's way with a request, **in one go**, is one of the interleavings: from the request on the
caller and the courier may move so that it comes to the same answer, store and desk. -/
theorem follows_ask (r : Relay σ) (request : Request) {last : Option Call}
    (hcaller : r.caller = .free last) (hcourier : r.courier = none) :
    ∃ delivered call, call.request = request ∧ call.answer = (r.desk.ask r.store request).1 ∧
      Follows (r.ask request)
        { desk := (r.desk.ask r.store request).2.2
          store := (r.desk.ask r.store request).2.1
          delivered
          caller := .free (some call) } := by
  let turn := r.desk.manager.answer r.store r.desk.scene.ambient request
  obtain ⟨delivered, emitted, hemit⟩ := follows_emitAll
    { r with desk := r.desk.answered r.store request, store := turn.store }
    hcourier ⟨request, turn.answer, turn.events, []⟩ turn.events
  refine ⟨delivered, ⟨request, turn.answer, turn.events, emitted⟩, rfl, rfl, ?_⟩
  rw [ask, hcaller, ← hcourier]
  exact hemit.trans (Follows.goOn _)

end Relay

end Guildkeep.Save
