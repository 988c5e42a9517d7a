import Guildkeep.Bus.Basic

/-!
# Delivery of Events

To publish an event is to gather all handlers that are subscribed at that time in a circle, in
order, and to give the circle turns until it has ended. Only then are the failures reported, again
in order. A handler that subscribes or disposes changes who gets the next event, never who gets this
one.

A handler that pauses gives way, and goes on in its next turn. Those who gave way are called when
all have stopped, the last one first. A handler that publishes waits for that delivery as part of
its own.

## Conventions

While an event whose id starts with `nested` is handled, handlers do not publish. Deliveries within
deliveries go no deeper than `maxDepth`, and no delivery takes more rounds than `roundsEnough`; both
are far beyond what a run that ends comes to.

## Main results

* `settle_of_ended`: a delivery in which all have ended takes no round.
-/

namespace Guildkeep

attribute [local instance (2000)] instPowNat instNatPowNat

namespace Bus

/-- What is **left** of a handler's work on an event. -/
inductive Work where
  /-- It has ended. -/
  | done (failure : Option Failure)
  /-- It has not begun. -/
  | fresh (handler : Handler) (occasion : Occasion)
  /-- It has run its script and pauses some more times. -/
  | pausing (handler : Handler) (occasion : Occasion) (left : Nat)
  /-- It waits for an event that it published, with the rest of its script to go. -/
  | awaiting (handler : Handler) (occasion : Occasion) (rest : List Action)
      (inner : Event) (circle : Circle Work)

/-- A work has ended when it is **done**. -/
instance : Task Work where
  ended
    | .done _ => true
    | _ => false

/-- What went wrong, if the work has ended badly. -/
def Work.failure? : Work → Option Failure
  | done failure => failure
  | _ => none

/-- How often the handler is still to pause; what it waits for does not count. -/
def Work.pauses : Work → Nat
  | fresh h o => h.pauses o
  | pausing _ _ left => left
  | done _ | awaiting .. => 0

/-- How deep deliveries go within deliveries. -/
def maxDepth : Nat := 2 ^ (32 : Nat)

/-- Whether the handlers of an event keep from publishing. -/
def isNested (e : Event) : Bool :=
  "nested".toList.isPrefixOf e.id.toList

/-! ### Calls -/

mutual

/-- Calls a seat somewhere within a work. Yields the work after that, if the call did anything; then
the seat of the work is called as well. -/
def Work.call (circle index : Nat) : Work → Option Work
  | .awaiting h o rest inner ⟨number, works, called⟩ =>
    let c : Circle Work := ⟨number, works, called⟩
    if number = circle then
      if (c.call index).1 then some (.awaiting h o rest inner (c.call index).2) else none
    else
      match callAmong circle index works with
      | some (place, works) =>
        let c : Circle Work := ⟨number, works, called⟩
        some (.awaiting h o rest inner (c.call place).2)
      | none => none
  | _ => none

/-- Calls a seat somewhere within one of the works: the place of that work, and the works after
it. -/
def callAmong (circle index : Nat) : List Work → Option (Nat × List Work)
  | [] => none
  | w :: works =>
    match w.call circle index with
    | some w => some (0, w :: works)
    | none =>
      match callAmong circle index works with
      | some (place, works) => some (place + 1, w :: works)
      | none => none

end

end Bus

namespace Scene

open Bus

/-- The end of a handler. -/
def finish (s : Scene) (h : Handler) (o : Occasion) : Circle.Turn Work Scene :=
  ⟨.done (h.ending o).failure?, s.note (.finished h.name o.event (h.pauses o ≠ 0)), []⟩

/-- Reports the failures of a delivery, in order. -/
def report (s : Scene) (e : Event) (works : List Work) : Scene :=
  (works.filterMap Work.failure?).foldl (fun s why => s.note (.reported why e)) s

/-- Gathers the handlers that are subscribed now for an event. The occasion has the number of the
circle. -/
def muster (s : Scene) (e : Event) : Circle Work × Scene :=
  s.gather (s.bus.handlers.map fun h => .fresh h.2 ⟨s.circles, e⟩)

/-- Runs a script from an action on; `step` is how those take turns who get what it publishes. -/
def perform (step : Circle.Step Work Scene) (seat : Seat) (h : Handler) (o : Occasion) :
    List Action → Scene → Circle.Turn Work Scene
  | [], s =>
    if h.pauses o = 0 then s.finish h o else ⟨.pausing h o (h.pauses o), s.giveWay seat, []⟩
  | .subscribe name script pauses ending :: rest, s =>
    perform step seat h o rest (s.subscribeNew ⟨name, script, pauses, ending⟩)
  | .dispose name :: rest, s => perform step seat h o rest (s.dispose name)
  | .drop name :: rest, s => perform step seat h o rest (s.release name)
  | .publish outline :: rest, s =>
    if isNested o.event then perform step seat h o rest s
    else
      let (inner, s) := s.make outline
      let (circle, s) := s.muster inner
      let t := circle.turn step seat s
      if t.work.hasEnded then
        (perform step seat h o rest (t.rest.report inner t.work.members)).after t.calls
      else ⟨.awaiting h o rest inner t.work, t.rest, t.calls⟩

/-- One **turn** of a handler's work, with so many deliveries within deliveries to go. -/
def work : Nat → Circle.Step Work Scene
  | 0, _, _, s => ⟨.done none, s, []⟩
  | depth + 1, seat, w, s =>
    match w with
    | .done failure => ⟨.done failure, s, []⟩
    | .fresh h o =>
      if (h.ending o).isAtOnce then ⟨.done (h.ending o).failure?, s, []⟩
      else perform (work depth) seat h o (h.script o) (s.note (.started h.name o.event))
    | .pausing h o left =>
      if left ≤ 1 then s.finish h o else ⟨.pausing h o (left - 1), s.giveWay seat, []⟩
    | .awaiting h o rest inner circle =>
      let t := circle.turn (work depth) seat s
      if t.work.hasEnded then
        (perform (work depth) seat h o rest (t.rest.report inner t.work.members)).after t.calls
      else ⟨.awaiting h o rest inner t.work, t.rest, t.calls⟩

/-- A turn of a delivery. -/
def deliver (s : Scene) (seat : Seat) (circle : Circle Work) : Circle.Turn (Circle Work) Scene :=
  circle.turn (work maxDepth) seat s

/-- Turns in a row, as long as the delivery is called in its turn. -/
def deliverOn (seat : Seat) : Nat → Circle Work → Scene → Circle Work × Scene
  | 0, circle, s => (circle, s)
  | turns + 1, circle, s =>
    let t := s.deliver seat circle
    if t.calls.contains seat && !t.work.hasEnded then deliverOn seat turns t.work t.rest
    else (t.work, t.rest)

/-- Calls a seat within a delivery, and says whether the delivery is called by that. -/
def callIn (seat who : Seat) (circle : Circle Work) : Bool × Circle Work :=
  match who with
  | .member number index =>
    if number = circle.number then circle.call index
    else
      match callAmong number index circle.members with
      | some (place, members) => (true, (({ circle with members } : Circle Work).call place).2)
      | none => (false, circle)
  | who => (who = seat, circle)

/-- Calls those who gave way. -/
def callBack (seat : Seat) (circle : Circle Work) (s : Scene) : Circle Work × Scene :=
  (s.gaveWay.foldl (fun circle who => (callIn seat who circle).2) circle, { s with gaveWay := [] })

/-- Goes round by round until all handlers have ended, or the rounds are used up. In a round the
delivery has its turns, and then those are called who gave way. -/
def settle (seat : Seat) : Nat → Circle Work → Scene → Circle Work × Scene
  | 0, circle, s => (circle, s)
  | rounds + 1, circle, s =>
    if circle.hasEnded then (circle, s)
    else
      let (circle, s) := deliverOn seat seat.turnsInARow circle s
      let (circle, s) := callBack seat circle s
      settle seat rounds circle s

/-- More rounds than the delivery takes. Handlers that publish nothing need as many as they
pause. -/
def roundsEnough (circle : Circle Work) : Nat :=
  circle.members.foldr (fun w rounds => w.pauses + rounds) 0 + 2 ^ (32 : Nat)

/-- **Publishes** an event: every handler that is subscribed now handles it, and the failures are
reported when all have ended. -/
def publish (s : Scene) (e : Event) (seat : Seat := .front) : Scene :=
  let mustered := s.muster e
  let settled := settle seat (roundsEnough mustered.1) mustered.1 mustered.2
  settled.2.report e settled.1.members

/-- Makes an event and publishes it. -/
def announce (s : Scene) (o : Outline) : Scene :=
  let (e, s) := s.make o
  s.publish e

/-! ### Laws -/

/-- A delivery in which all have **ended** takes no round. -/
theorem settle_of_ended {seat : Seat} {rounds : Nat} {circle : Circle Work} {s : Scene}
    (h : circle.hasEnded = true) : settle seat rounds circle s = (circle, s) := by
  cases rounds <;> simp [settle, h]

end Scene

end Guildkeep
