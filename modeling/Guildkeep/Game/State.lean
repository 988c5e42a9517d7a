import Guildkeep.Game.Config
import Guildkeep.Time.Instant

/-!
# Game States

A point-in-time picture of a session. States are values: every change yields a new state that
carries the moment of the change.

## Main results

* The `with…` builders set one field and the timestamp and leave everything else alone.
-/

namespace Guildkeep.Game

open Time

/-- A place in the world. -/
structure Position where
  x : Binary64 := .zero
  y : Binary64 := .zero
  deriving DecidableEq

/-- The position moved by an offset. -/
def Position.movedBy (p : Position) (dx dy : Binary64) : Position where
  x := p.x + dx
  y := p.y + dy

/-- The **state** of a session at one moment. -/
structure State where
  id : String
  level : UInt32
  score : Int64
  health : Int32
  /-- The items held, in the order in which they were picked up. -/
  inventory : List String
  position : Position
  /-- When this picture was taken. -/
  timestamp : Instant
  deriving DecidableEq

namespace State

/-- The state in which a session opens: level 1, no points, nothing held, at the origin. -/
def opening (id : String) (health : Int32) (now : Instant) : State where
  id := id
  level := 1
  score := 0
  health := health
  inventory := []
  position := {}
  timestamp := now

/-- The state with another level. -/
def withLevel (s : State) (level : UInt32) (now : Instant) : State :=
  { s with level := level, timestamp := now }

/-- The state with another score. -/
def withScore (s : State) (score : Int64) (now : Instant) : State :=
  { s with score := score, timestamp := now }

/-- The state with another health. -/
def withHealth (s : State) (health : Int32) (now : Instant) : State :=
  { s with health := health, timestamp := now }

/-- The state with other items. -/
def withInventory (s : State) (inventory : List String) (now : Instant) : State :=
  { s with inventory := inventory, timestamp := now }

/-- The state at another place. -/
def withPosition (s : State) (position : Position) (now : Instant) : State :=
  { s with position := position, timestamp := now }

/-- Whether any health is left. -/
def isAlive (s : State) : Bool :=
  0 < s.health.toInt

end State

/-- A state together with the configuration it is played under: what a save holds. -/
structure Snapshot where
  state : State
  config : Config
  deriving DecidableEq

end Guildkeep.Game
