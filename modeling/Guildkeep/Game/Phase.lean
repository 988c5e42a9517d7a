/-!
# Phases of a Session

A session is initialized, then running or paused, and at last ended. A change of phase that the
table does not allow is refused and leaves the phase as it is; ended is final.

## Main results

* `Phase.Step`: the table as a relation.
* `step?_eq_some_iff`: a change is carried out exactly where the table allows it.
-/

namespace Guildkeep.Game

/-- The **phase** of a session. -/
inductive Phase where
  | initialized
  | running
  | paused
  | ended
  deriving DecidableEq, Repr

/-- A request to change the phase. -/
inductive Phase.Change where
  | start
  | pause
  | resume
  | finish
  deriving DecidableEq, Repr

namespace Phase

/-- At first nothing has **started**. -/
instance : Inhabited Phase := ⟨initialized⟩

/-- Every phase, in order. -/
def all : List Phase := [initialized, running, paused, ended]

/-- The name of a phase. -/
def name : Phase → String
  | initialized => "Initialized"
  | running => "Running"
  | paused => "Paused"
  | ended => "GameOver"

/-- The phase with exactly this name. -/
def ofName? (s : String) : Option Phase :=
  all.find? (·.name == s)

/-- Whether no change is possible any more. -/
def isFinal : Phase → Bool
  | ended => true
  | _ => false

/-- The table of changes: which phases a change leads from, and to. -/
inductive Step : Phase → Change → Phase → Prop where
  | start : Step initialized .start running
  | pause : Step running .pause paused
  | resume : Step paused .resume running
  | finishRunning : Step running .finish ended
  | finishPaused : Step paused .finish ended

/-- The phase that a change leads to, if it is allowed. -/
def step? : Phase → Change → Option Phase
  | initialized, .start => some running
  | running, .pause => some paused
  | paused, .resume => some running
  | running, .finish => some ended
  | paused, .finish => some ended
  | _, _ => none

/-- The phase after a request, allowed or not. -/
def after (p : Phase) (c : Change) : Phase :=
  (p.step? c).getD p

/-- The name of a phase is **read back**. -/
@[simp] theorem ofName?_name (p : Phase) : ofName? p.name = some p := by
  cases p <;> decide

/-- A change is carried out **exactly where the table allows it**. -/
theorem step?_eq_some_iff {p q : Phase} {c : Change} : p.step? c = some q ↔ Step p c q := by
  constructor
  · intro h
    cases p <;> cases c <;> simp [step?] at h <;> subst h <;> constructor
  · intro h
    cases h <;> rfl

end Phase

end Guildkeep.Game
