import Guildkeep.Bus.Basic

/-!
# Listeners

Listeners are told of every event of the save manager that they are registered with, at once and in
the order in which they registered. Each registration has a number of its own that is not used
again. A listener may register or remove listeners when it is told of an event; that changes who is
told of the next one.

## Conventions

A listener is code, and what it does depends on the occasion, as it does with a handler of the bus.
It knows the listeners that it registers by names, and one that registers many gives each of them a
name of its own.

## Main results

* `remove_remove`: a second removal finds nothing.
-/

namespace Guildkeep.Save

/-- What a listener does when it has been told of an event. -/
inductive Reaction where
  /-- It breaks down, and does nothing more. -/
  | panics
  /-- It removes the listener with a name. -/
  | removes (name : String)
  /-- It registers a listener, unless the name is known. -/
  | adds (name : String) (reactions : Occasion → List Reaction)
  /-- It switches autosave off, if it is on. -/
  | disablesAutoSave
  /-- It has a look at the manager. -/
  | peeks

/-- A **listener**. -/
structure Listener where
  name : String
  reactions : Occasion → List Reaction := fun _ => []

/-- The listener that does **the same** on every occasion. -/
def Listener.always (name : String) (reactions : List Reaction := []) : Listener :=
  ⟨name, fun _ => reactions⟩

/-- Whether a listener looks at the manager on an occasion. -/
def Listener.looks (l : Listener) (o : Occasion) : Bool :=
  (l.reactions o).any fun
    | .peeks => true
    | _ => false

/-- The **roster** of listeners. -/
structure Roster where
  nextId : Nat := 0
  /-- The registered listeners with their numbers, in the order of registration. -/
  listeners : List (Nat × Listener) := []

namespace Roster

/-- Registers a listener; its number is the next one. -/
def add (r : Roster) (l : Listener) : Roster where
  nextId := r.nextId + 1
  listeners := r.listeners ++ [(r.nextId, l)]

/-- Removes the listener with a number, and says whether there was one. -/
def remove (r : Roster) (id : Nat) : Bool × Roster :=
  (r.listeners.any (·.1 = id), { r with listeners := r.listeners.filter (·.1 ≠ id) })

/-- A second removal finds **nothing**. -/
theorem remove_remove (r : Roster) (id : Nat) : ((r.remove id).2.remove id).1 = false := by
  simp [remove]

end Roster

end Guildkeep.Save
