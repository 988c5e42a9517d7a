import Guildkeep.Game.Phase
import Guildkeep.Game.State
import Guildkeep.Json.Reader

/-!
# Game Values in JSON

The JSON form of the values of the game, and the readers for it. Fields are written in the order in
which they are declared here.
-/

namespace Guildkeep

open Json

/-! ### Writing -/

/-- An instant is written as a string. -/
def Time.Instant.toJson (t : Time.Instant) : Json :=
  .string t.text

namespace Game

/-- A difficulty is written by its name. -/
def Difficulty.toJson (d : Difficulty) : Json :=
  .string d.name

/-- A phase is written by its name. -/
def Phase.toJson (p : Phase) : Json :=
  .string p.name

/-- The JSON form of a position. -/
def Position.toJson (p : Position) : Json :=
  .object [("x", .ofFloat p.x), ("y", .ofFloat p.y)]

/-- The JSON form of a configuration. -/
def Config.toJson (c : Config) : Json :=
  .object
    [("maxLevel", .ofNat c.maxLevel.toNat),
     ("initialHealth", .ofInt c.initialHealth.toInt),
     ("scoreMultiplier", .ofFloat c.scoreMultiplier),
     ("autoSave", .bool c.autoSave),
     ("difficulty", c.difficulty.toJson)]

/-- The JSON form of a state. -/
def State.toJson (s : State) : Json :=
  .object
    [("id", .string s.id),
     ("level", .ofNat s.level.toNat),
     ("score", .ofInt s.score.toInt),
     ("health", .ofInt s.health.toInt),
     ("inventory", .array (s.inventory.map .string)),
     ("position", s.position.toJson),
     ("timestamp", s.timestamp.toJson)]

/-- The JSON form of a snapshot. -/
def Snapshot.toJson (s : Snapshot) : Json :=
  .object [("state", s.state.toJson), ("config", s.config.toJson)]

/-! ### Reading -/

/-- Reads a difficulty. -/
def Difficulty.read : Reader Difficulty :=
  readVariant (all.map name) ofName?

/-- Reads a phase. -/
def Phase.read : Reader Phase :=
  readVariant (all.map name) ofName?

/-- A position in the making. -/
structure Position.Draft where
  x : Option Binary64 := none
  y : Option Binary64 := none

/-- The fields of a position. -/
def Position.fields : List (RecordField Position.Draft) :=
  [.slot "x" (·.x) (fun d v => { d with x := some v }) readFloat,
   .slot "y" (·.y) (fun d v => { d with y := some v }) readFloat]

/-- Reads a position. -/
def Position.read : Reader Position :=
  readRecord "Position" Position.fields {} fun d => do
    let x ← need "x" d.x
    let y ← need "y" d.y
    .ok { x, y }

/-- A configuration in the making. -/
structure Config.Draft where
  maxLevel : Option UInt32 := none
  initialHealth : Option Int32 := none
  scoreMultiplier : Option Binary64 := none
  autoSave : Option Bool := none
  difficulty : Option Difficulty := none

/-- The fields of a configuration. -/
def Config.fields : List (RecordField Config.Draft) :=
  [.slot "maxLevel" (·.maxLevel) (fun d v => { d with maxLevel := some v }) readUInt32,
   .slot "initialHealth" (·.initialHealth) (fun d v => { d with initialHealth := some v })
     readInt32,
   .slot "scoreMultiplier" (·.scoreMultiplier) (fun d v => { d with scoreMultiplier := some v })
     readFloat,
   .slot "autoSave" (·.autoSave) (fun d v => { d with autoSave := some v }) readBool,
   .slot "difficulty" (·.difficulty) (fun d v => { d with difficulty := some v }) Difficulty.read]

/-- Reads a configuration. -/
def Config.read : Reader Config :=
  readRecord "GameConfig" Config.fields {} fun d => do
    let maxLevel ← need "maxLevel" d.maxLevel
    let initialHealth ← need "initialHealth" d.initialHealth
    let scoreMultiplier ← need "scoreMultiplier" d.scoreMultiplier
    let autoSave ← need "autoSave" d.autoSave
    let difficulty ← need "difficulty" d.difficulty
    .ok { maxLevel, initialHealth, scoreMultiplier, autoSave, difficulty }

/-- A state in the making. -/
structure State.Draft where
  id : Option String := none
  level : Option UInt32 := none
  score : Option Int64 := none
  health : Option Int32 := none
  inventory : Option (List String) := none
  position : Option Position := none
  timestamp : Option Time.Instant := none

/-- The fields of a state. -/
def State.fields : List (RecordField State.Draft) :=
  [.slot "id" (·.id) (fun d v => { d with id := some v }) readString,
   .slot "level" (·.level) (fun d v => { d with level := some v }) readUInt32,
   .slot "score" (·.score) (fun d v => { d with score := some v }) readInt64,
   .slot "health" (·.health) (fun d v => { d with health := some v }) readInt32,
   .slot "inventory" (·.inventory) (fun d v => { d with inventory := some v })
     (readList readString),
   .slot "position" (·.position) (fun d v => { d with position := some v }) Position.read,
   .slot "timestamp" (·.timestamp) (fun d v => { d with timestamp := some v }) readInstant]

/-- Reads a state. -/
def State.read : Reader State :=
  readRecord "GameState" State.fields {} fun d => do
    let id ← need "id" d.id
    let level ← need "level" d.level
    let score ← need "score" d.score
    let health ← need "health" d.health
    let inventory ← need "inventory" d.inventory
    let position ← need "position" d.position
    let timestamp ← need "timestamp" d.timestamp
    .ok { id, level, score, health, inventory, position, timestamp }

/-- A snapshot in the making. -/
structure Snapshot.Draft where
  state : Option State := none
  config : Option Config := none

/-- The fields of a snapshot. -/
def Snapshot.fields : List (RecordField Snapshot.Draft) :=
  [.slot "state" (·.state) (fun d v => { d with state := some v }) State.read,
   .slot "config" (·.config) (fun d v => { d with config := some v }) Config.read]

/-- Reads a **snapshot**. -/
def Snapshot.read : Reader Snapshot :=
  readRecord "Snapshot" Snapshot.fields {} fun d => do
    let state ← need "state" d.state
    let config ← need "config" d.config
    .ok { state, config }

end Game

end Guildkeep
