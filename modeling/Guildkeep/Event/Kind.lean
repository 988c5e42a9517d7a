import Guildkeep.Text.Blank

/-!
# Event Types

The type of an event is a dotted name. The well-known kinds have fixed names; any other name is
allowed as long as it has at least two segments, none empty and none with a blank.

## Main results

* `Kind.ofType?_eq_some_iff`: a name belongs to at most one kind, and to that kind exactly.
-/

namespace Guildkeep

namespace Event

/-- The **well-known kinds** of events. -/
inductive Kind where
  | gameStarted
  | gameEnded
  | scoreChanged
  | playerHealthChanged
  | playerDamaged
  | playerMoved
  | saveCreated
  | saveLoaded
  | saveDeleted
  | stateManagerUpdated
  | autoSaveEnabled
  | autoSaveDisabled
  | autoSaveCompleted
  deriving DecidableEq, Repr

namespace Kind

/-- Every kind, in order. -/
def all : List Kind :=
  [gameStarted, gameEnded, scoreChanged, playerHealthChanged, playerDamaged, playerMoved,
   saveCreated, saveLoaded, saveDeleted, stateManagerUpdated, autoSaveEnabled, autoSaveDisabled,
   autoSaveCompleted]

/-- The name of a kind in the vocabulary. -/
def name : Kind → String
  | gameStarted => "GameStarted"
  | gameEnded => "GameEnded"
  | scoreChanged => "ScoreChanged"
  | playerHealthChanged => "PlayerHealthChanged"
  | playerDamaged => "PlayerDamaged"
  | playerMoved => "PlayerMoved"
  | saveCreated => "SaveCreated"
  | saveLoaded => "SaveLoaded"
  | saveDeleted => "SaveDeleted"
  | stateManagerUpdated => "StateManagerUpdated"
  | autoSaveEnabled => "AutoSaveEnabled"
  | autoSaveDisabled => "AutoSaveDisabled"
  | autoSaveCompleted => "AutoSaveCompleted"

/-- The type of the events of a kind. -/
def type : Kind → String
  | gameStarted => "game.started"
  | gameEnded => "game.ended"
  | scoreChanged => "score.changed"
  | playerHealthChanged => "player.health.changed"
  | playerDamaged => "player.damaged"
  | playerMoved => "player.moved"
  | saveCreated => "game.save.created"
  | saveLoaded => "game.save.loaded"
  | saveDeleted => "game.save.deleted"
  | stateManagerUpdated => "game.state.manager.updated"
  | autoSaveEnabled => "game.autosave.enabled"
  | autoSaveDisabled => "game.autosave.disabled"
  | autoSaveCompleted => "game.autosave.completed"

/-- The kind whose events have this type. -/
def ofType? (t : String) : Option Kind :=
  all.find? (·.type == t)

/-- Every kind is **among all**. -/
theorem mem_all (k : Kind) : k ∈ all := by
  cases k <;> decide

/-- No two kinds have the **same type**. -/
theorem type_injective {j k : Kind} (h : j.type = k.type) : j = k := by
  cases j <;> cases k <;> first | rfl | exact absurd h (by decide)

/-- A type belongs to a kind **exactly when** it is the type of that kind. -/
theorem ofType?_eq_some_iff {t : String} {k : Kind} : ofType? t = some k ↔ k.type = t := by
  constructor
  · intro h
    simpa using List.find?_some h
  · intro h
    cases hfound : ofType? t with
    | none =>
      have hnone := List.find?_eq_none.1 hfound k (mem_all k)
      simp [h] at hnone
    | some j =>
      have hj : j.type = t := by simpa using List.find?_some hfound
      exact congrArg some (type_injective (hj.trans h.symm))

end Kind

/-! ### Dotted names -/

/-- The parts of a text between the dots. -/
def segments : List Char → List (List Char)
  | [] => [[]]
  | c :: cs =>
    if c = '.' then [] :: segments cs
    else match segments cs with
      | [] => [[c]]
      | s :: rest => (c :: s) :: rest

/-- A segment of a dotted name: it is not empty and has no blank. -/
def isSegment (s : List Char) : Bool :=
  !s.isEmpty && !s.any Text.isBlank

/-- Whether a text is a **dotted name** of at least two segments. -/
def isDotted (t : String) : Bool :=
  t.toList.contains '.' && (segments t.toList).all isSegment

end Event

end Guildkeep
