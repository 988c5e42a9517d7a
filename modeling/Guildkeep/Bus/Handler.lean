import Guildkeep.Ambient

/-!
# Handlers

A handler is what a subscriber does with an event: it runs a script of actions, suspends itself a
number of times, and ends well or badly. The actions are what a handler may do to the bus that calls
it: subscribe others, dispose and drop subscriptions, its own included, and publish.

## Conventions

A handler is code, and need not do the same whenever it is called. So all that it does depends on
the occasion: on the event, and on a number that no two occasions have in common. A handler that
counts its calls or remembers events is one that does on each occasion what it had come to by then.
-/

namespace Guildkeep

/-- An **occasion** on which a handler or a listener is called. -/
structure Occasion where
  /-- No handler and no listener is called twice under the same number. -/
  number : Nat
  event : Event

namespace Bus

/-- How a handler **ends**. -/
inductive Ending where
  | succeeds
  | fails (why : String)
  /-- It breaks down, with a text or without one. -/
  | panics (text : Option String)
  /-- It breaks down before it has done anything. -/
  | panicsAtOnce (text : Option String)
  deriving DecidableEq

/-- What a handler may do while it handles an event. -/
inductive Action where
  /-- Subscribes a handler under a name, unless the name is taken. -/
  | subscribe (name : String) (script : Occasion → List Action) (pauses : Occasion → Nat)
      (ending : Occasion → Ending)
  /-- Disposes the subscription with a name. It is still held, so the name stays taken. -/
  | dispose (name : String)
  /-- Disposes the subscription with a name and lets go of it. -/
  | drop (name : String)
  /-- Publishes an event and waits until it is handled. -/
  | publish (outline : Outline)

/-- A **handler**. -/
structure Handler where
  name : String
  script : Occasion → List Action := fun _ => []
  /-- How often it suspends itself between its script and its end. -/
  pauses : Occasion → Nat := fun _ => 0
  ending : Occasion → Ending := fun _ => .succeeds

/-- The handler that does **the same** on every occasion. -/
def Handler.always (name : String) (script : List Action := []) (pauses : Nat := 0)
    (ending : Ending := .succeeds) : Handler :=
  ⟨name, fun _ => script, fun _ => pauses, fun _ => ending⟩

/-- What went wrong in a handler. -/
inductive Failure where
  | failed (why : String)
  | panicked (text : Option String)
  deriving DecidableEq

/-- The wording of a failure. -/
def Failure.message : Failure → String
  | failed why => why
  | panicked (some text) => "event handler panicked: " ++ text
  | panicked none => "event handler panicked: non-string panic payload"

/-- What an ending comes to, if it is a bad one. -/
def Ending.failure? : Ending → Option Failure
  | succeeds => none
  | fails why => some (.failed why)
  | panics text => some (.panicked text)
  | panicsAtOnce text => some (.panicked text)

/-- Whether an ending comes before everything else. -/
def Ending.isAtOnce : Ending → Bool
  | panicsAtOnce _ => true
  | _ => false

end Bus

end Guildkeep
