import Guildkeep.Bus.Delivery
import Guildkeep.Save.Manager

/-!
# Telling the Manager's Events

A desk is a manager in its scene, where listeners have names. An event of the manager is first told
to the listeners, at once and in order, and then goes to the end of the queue; from the front of the
queue events go on to the bus, one at a time. So the bus gets the events in the order in which they
were queued, whoever waits for them and whoever does not.

## Conventions

A name is known from its first use on, and stands for the number that was registered under it last,
whichever manager gave that number out.

Who is told of an event is settled when the telling begins. A listener that breaks down does not
keep the others from being told. One that switches autosave off causes an event of its own, which is
told and queued before the first event is queued.

Occasions are numbered by how much was noticed before, and that a listener is told is noticed.

## Main results

* `queue_drain`: after draining, nothing is left in the queue.
-/

namespace Guildkeep.Save

/-- A manager in its **scene**. -/
structure Desk where
  manager : Manager
  scene : Scene
  /-- The last number registered under each name of a listener. -/
  names : Table String Nat := {}

namespace Desk

/-- A look at the manager in passing. -/
def glimpse (d : Desk) : Glimpse where
  current := d.manager.current.map (·.state.id)
  autoSave := d.manager.autoSave

/-- Registers a listener under its name. -/
def listen (d : Desk) (l : Listener) : Desk :=
  { d with
    manager := { d.manager with roster := d.manager.roster.add l }
    names := d.names.put l.name d.manager.roster.nextId }

/-- Registers a listener, unless its name is known. -/
def listenNew (d : Desk) (l : Listener) : Desk :=
  if d.names.has l.name then d else d.listen l

/-- Removes the listener with the number that a name stands for: whether it was there, if the name
is known. -/
def unlisten (d : Desk) (name : String) : Option Bool × Desk :=
  match d.names.get? name with
  | some id =>
    let (there, roster) := d.manager.roster.remove id
    (some there, { d with manager := { d.manager with roster } })
  | none => (none, d)

/-- Carries out what a listener does, given what becomes of its wish to switch autosave off. -/
def react (disable : Desk → Desk) : List Reaction → Desk → Desk
  | [], d => d
  | .panics :: _, d => d
  | .removes name :: rest, d =>
    react disable rest (d.unlisten name).2
  | .adds name reactions :: rest, d =>
    react disable rest (d.listenNew ⟨name, reactions⟩)
  | .disablesAutoSave :: rest, d => react disable rest (disable d)
  | .peeks :: rest, d => react disable rest d

/-- The occasion on which a listener is told of an event now. -/
def occasion (d : Desk) (e : Event) : Occasion :=
  ⟨d.scene.record.length, e⟩

/-- What a listener sees that is told of an event: the manager, if it looks at it. -/
def seenBy (d : Desk) (e : Event) (l : Listener) : Option Glimpse :=
  if l.looks (d.occasion e) then some d.glimpse else none

/-- Tells one listener of an event. -/
def tellOne (disable : Desk → Desk) (e : Event) (d : Desk) (l : Listener) : Desk :=
  react disable (l.reactions (d.occasion e))
    { d with scene := d.scene.note (.heard l.name e (d.seenBy e l)) }

/-- Tells those of an event who are registered now, in order. -/
def tell (disable : Desk → Desk) (e : Event) (d : Desk) : Desk :=
  (d.manager.roster.listeners.map (·.2)).foldl (tellOne disable e) d

/-- Puts an event at the end of the queue, if events go on to a bus. -/
def enqueue (d : Desk) (e : Event) : Desk :=
  if d.manager.forwards then
    { d with manager := { d.manager with queue := d.manager.queue ++ [e] } }
  else d

/-- Makes an event, tells the listeners and queues it. -/
def emitWith (disable : Desk → Desk) (d : Desk) (o : Outline) : Desk :=
  let (e, scene) := d.scene.make o
  (tell disable e { d with scene := scene.note (.told e) }).enqueue e

/-- Switches autosave off at the wish of a listener. While the listeners are told of that it is off,
so none of them has the same wish granted again. -/
def disable (d : Desk) : Desk :=
  if d.manager.autoSave then
    emitWith id { d with manager := { d.manager with autoSave := false } } Manager.disabled
  else d

/-- **Emits** an event: the listeners are told and it is queued. -/
def emit (d : Desk) (o : Outline) : Desk :=
  emitWith disable d o

/-- Takes the event at the front of the queue and publishes it on the bus. -/
def forward (d : Desk) : Desk :=
  match d.manager.queue with
  | [] => d
  | e :: queue =>
    { d with
      manager := { d.manager with queue }
      scene := (d.scene.note (.taken e)).publish e .behind }

/-- Forwards a number of events. -/
def forwardN : Nat → Desk → Desk
  | 0, d => d
  | n + 1, d => forwardN n d.forward

/-- **Drains** the queue. -/
def drain (d : Desk) : Desk :=
  forwardN d.manager.queue.length d

/-- Emits events one after another, and waits for each of them if so asked. -/
def emitAll (waits : Bool) (d : Desk) (events : List Outline) : Desk :=
  events.foldl (fun d o => if waits then (d.emit o).drain else d.emit o) d

variable {σ : Type} [Store σ]

/-- Puts a **request** to the manager and tells what comes of it. -/
def ask (d : Desk) (store : σ) (request : Request) : Answer × σ × Desk :=
  let turn := d.manager.answer store d.scene.ambient request
  let d := { d with manager := turn.manager, scene := { d.scene with ambient := turn.ambient } }
  (turn.answer, turn.store, emitAll request.waits d turn.events)

/-! ### Laws -/

/-- Taking an event to the bus takes it **off the queue**. -/
theorem queue_forward (d : Desk) : d.forward.manager.queue = d.manager.queue.tail := by
  rw [forward]
  split <;> simp_all

/-- After draining, **nothing** is left in the queue. -/
theorem queue_drain (d : Desk) : d.drain.manager.queue = [] := by
  suffices h : ∀ n (d : Desk), (forwardN n d).manager.queue = d.manager.queue.drop n by
    simp [drain, h]
  intro n
  induction n with
  | zero => simp [forwardN]
  | succ n ih =>
    intro d
    rw [forwardN, ih, queue_forward, List.drop_tail]

end Desk

end Guildkeep.Save
