import Guildkeep.Engine
import Guildkeep.Save.Crowd
import Guildkeep.Worker

/-!
# The House

All that works together while the program runs: a store, a bus in its scene, a game engine, the save
manager in charge, and a worker that saves unasked. The clock of the house moves only when the house
is told so: it goes on, and then work is done when it is due, or it leaps, and then work may be
late.

## Conventions

A house may open a new manager on its store, which takes charge from the one before; the names of
listeners are forgotten then. A worker goes on for the manager that it was started with, in charge
or not.
-/

namespace Guildkeep

open Game Save

/-- How a store **answers** when others wait for their turn. -/
inductive Pace where
  /-- At once. -/
  | prompt
  /-- After it has given way, at every access. -/
  | pausing
  /-- Not before all else has come to rest, so that saves never overlap. -/
  | slow
  deriving DecidableEq

/-- The **house**. -/
structure House (σ : Type) where
  store : σ
  scene : Scene
  /-- The manager in charge. -/
  manager : Manager
  engine : Engine := {}
  /-- How much time has passed since the house was opened. -/
  clock : Nat := 0
  worker : Option Worker := none
  /-- The manager that the worker works for, if it is no longer in charge. -/
  former : Option Manager := none
  /-- What came of the ticks of workers, and when they were made, in order. -/
  diary : List (Nat × Answer) := []
  /-- The last number registered under each name of a listener. -/
  names : Table String Nat := {}

namespace House

variable {σ : Type}

/-- The manager in charge, in its scene. -/
def desk (h : House σ) : Desk :=
  ⟨h.manager, h.scene, h.names⟩

/-- The house after something was done at the desk. -/
def withDesk (h : House σ) (d : Desk) : House σ :=
  { h with manager := d.manager, scene := d.scene, names := d.names }

/-- Takes all queued events on to the bus. -/
def drain (h : House σ) : House σ :=
  h.withDesk h.desk.drain

/-- Registers a listener with the manager in charge. -/
def listen (h : House σ) (l : Listener) : House σ :=
  h.withDesk (h.desk.listen l)

/-- Removes a listener of the manager in charge by its name: whether it was still there, if the name
is known. -/
def unlisten (h : House σ) (name : String) : Option Bool × House σ :=
  let (there, d) := h.desk.unlisten name
  (there, h.withDesk d)

/-- Gives an order to the engine. -/
def order (h : House σ) (o : Engine.Order) : Engine.Reply × House σ :=
  let (reply, engine, scene) := h.scene.obey h.engine o
  (reply, { h with engine, scene })

variable [Store σ]

/-- Puts a request to the manager in charge. -/
def ask (h : House σ) (request : Request) : Answer × House σ :=
  let (answer, store, d) := h.desk.ask h.store request
  (answer, { h.withDesk d with store })

/-- Saves under many titles at once. -/
def saveAll (h : House σ) (pace : Pace) (titles : List String) : List Answer × House σ :=
  match pace with
  | .slow =>
    titles.foldl (fun (answers, h) title =>
      let (answer, h) := h.ask (.save (some title))
      (answers ++ [answer], h)) ([], h)
  | pace =>
    let (answers, store, d) := h.desk.saveAll h.store (pace = .pausing) titles
    (answers, { h.withDesk d with store })

/-- Opens a house on a store. -/
def openOn (store : σ) (scene : Scene) (options : Options) (forwards : Bool) :
    Except Error (House σ) × σ :=
  match Manager.openOn store options forwards with
  | (.error why, store) => (.error why, store)
  | (.ok manager, store) => (.ok { store, scene, manager }, store)

/-- Opens another manager on the same store. If that works it takes charge, else all stays as it
is. -/
def reopen (h : House σ) (options : Options) (forwards : Bool) : Except Error Unit × House σ :=
  match Manager.openOn h.store options forwards with
  | (.error why, store) => (.error why, { h with store })
  | (.ok manager, store) =>
    let former := if h.worker.isSome then h.former.or (some h.manager) else none
    (.ok (), { h with store, manager, former, names := {} })

/-! ### The worker -/

/-- How many units of the clock make a second. -/
def second : Nat := 1000000000

/-- How late a worker may usually be without being put off: five thousandths of a second. -/
def usualTolerance : Nat := 5000000

/-- Employs a worker for the manager in charge, in place of any other. One without an interval has
no work. -/
def employ (h : House σ) (interval tolerance : Nat) : House σ :=
  { h with
    worker := if pos : 0 < interval then some (.start h.clock interval tolerance pos) else none
    former := none }

/-- Starts a worker with an interval in seconds. -/
def startWorker (h : House σ) (seconds : Nat) : House σ :=
  h.employ (seconds * second) usualTolerance

/-- Stops the worker. -/
def stopWorker (h : House σ) : House σ :=
  { h with worker := none, former := none }

/-- The desk of the manager that the worker works for. -/
def employer (h : House σ) : Desk :=
  { h.desk with manager := h.former.getD h.manager }

/-- One **tick** for the manager that the worker works for. What comes of it is entered in the
diary, and nobody else looks at it. -/
def tick (h : House σ) : House σ :=
  let turn := h.employer.ask h.store .tick
  let h := { h with
    store := turn.2.1
    scene := turn.2.2.scene
    names := turn.2.2.names
    diary := h.diary ++ [(h.clock, turn.1)] }
  match h.former with
  | none => { h with manager := turn.2.2.manager }
  | some _ => { h with former := some turn.2.2.manager }

/-- The house when the worker sets about its work: the next piece is on the schedule. -/
def withNext (h : House σ) (w : Worker) : House σ :=
  { h with worker := some (w.reschedule h.clock) }

/-- One piece of **work**. -/
def serve (h : House σ) (w : Worker) : House σ :=
  (h.withNext w).tick

/-- A tick does **not move** the clock. -/
theorem clock_tick (h : House σ) : h.tick.clock = h.clock := by
  rw [tick]
  cases h.former <;> rfl

/-- A tick leaves the **worker** alone. -/
theorem worker_tick (h : House σ) : h.tick.worker = h.worker := by
  rw [tick]
  cases h.former <;> rfl

/-- For how long the worker has been due, and nothing if it is not. -/
def arrears (h : House σ) : Nat :=
  match h.worker with
  | none => 0
  | some w => h.clock + 1 - w.due

/-- A piece of work makes a worker **less late**. -/
theorem arrears_serve {h : House σ} {w : Worker} (hworker : h.worker = some w)
    (hdue : w.due ≤ h.clock) : (h.serve w).arrears < h.arrears := by
  rw [arrears, arrears, serve, clock_tick, worker_tick, hworker]
  exact Nat.sub_lt_sub_left (Nat.lt_succ_of_le hdue) (w.due_lt_reschedule h.clock)

/-- Does all the work that is **due**, piece by piece. -/
def work (h : House σ) : House σ :=
  match _ : h.worker with
  | none => h
  | some w => if _ : w.due ≤ h.clock then work (h.serve w) else h
termination_by h.arrears
decreasing_by exact arrears_serve ‹_› ‹_›

/-- The clock goes **straight** to a time, and then the work is done that is due. -/
def jumpTo (h : House σ) (time : Nat) : House σ :=
  work { h with clock := time }

/-- The clock leaps over a span of time. -/
def jump (h : House σ) (span : Nat) : House σ :=
  h.jumpTo (h.clock + span)

/-- The times up to a last one at which there is something to do. -/
def stages (h : House σ) (last : Nat) : List Nat :=
  match h.worker with
  | none => [last]
  | some w => w.dueBy last ++ [last]

/-- The clock goes **on** for a span of time, and the work is done whenever it is due. -/
def wait (h : House σ) (span : Nat) : House σ :=
  (h.stages (h.clock + span)).foldl jumpTo h

/-- Lets seconds pass. -/
def advance (h : House σ) (seconds : Nat) : House σ :=
  h.wait (seconds * second)

end House

end Guildkeep
