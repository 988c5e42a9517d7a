import Guildkeep.Store.Basic

/-!
# Stores Behind a Gate

A gate stands in front of a store. It logs every access in order and lets it through or not; an
access that is not let through fails and never reaches the store. What is let through may depend on
the access and on all that went before, so every pattern of outages is a gate.
-/

namespace Guildkeep.Store

/-- What is asked of a store. -/
inductive Verb where
  | save
  | load
  | delete
  deriving DecidableEq

/-- An **access**: what is asked, and under which key. -/
structure Access where
  verb : Verb
  key : String
  deriving DecidableEq

/-- An access as the log has it. -/
structure Logged where
  access : Access
  /-- Whether the gate was closed to it. -/
  refused : Bool
  deriving DecidableEq

/-- To which accesses a gate is **closed**, given the log so far. -/
abbrev Outage := List Logged → Access → Bool

namespace Outage

/-- A gate that is always open. -/
def never : Outage := fun _ _ => false

/-- A gate that is closed when one of two is. -/
def either (a b : Outage) : Outage := fun log access => a log access || b log access

/-- Closed to one kind of access, to one key or to all. -/
def on (verb : Verb) (key : Option String) : Outage := fun _ access =>
  access.verb = verb && (key = none || key = some access.key)

/-- Closed to saves after so many more have passed; `before` accesses are already in the log. -/
def afterSaves (before writes : Nat) : Outage := fun log access =>
  access.verb = .save &&
    writes ≤ (log.drop before).countP fun l => l.access.verb = .save && !l.refused

end Outage

/-- A store behind a **gate**. -/
structure Gated (σ : Type) where
  inner : σ
  log : List Logged := []
  outage : Outage := Outage.never

namespace Gated

variable {σ : Type}

/-- What a closed gate answers. -/
def closed : Error := .unavailable "injected"

/-- Puts an access to the gate: through it goes to the store, else it fails. -/
def pass {α : Type} (g : Gated σ) (access : Access) (reach : σ → Except Error α × σ) :
    Except Error α × Gated σ :=
  let refused := g.outage g.log access
  let log := g.log ++ [⟨access, refused⟩]
  if refused then (.error closed, { g with log })
  else
    let (result, inner) := reach g.inner
    (result, { g with inner, log })

/-- A store behind a gate is a **store**. -/
instance [Store σ] : Store (Gated σ) where
  save g key text := g.pass ⟨.save, key⟩ (Store.save · key text)
  load g key := g.pass ⟨.load, key⟩ (Store.load · key)
  delete g key := g.pass ⟨.delete, key⟩ (Store.delete · key)

end Gated

end Guildkeep.Store
