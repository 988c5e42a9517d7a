import Guildkeep.Number.Saturating

/-!
# Difficulty and Configuration

What a session is played under. The difficulty scales damage and points; the configuration adds the
level cap, the starting health and a multiplier of its own.
-/

namespace Guildkeep.Game

/-- How hard the game is. -/
inductive Difficulty where
  | easy
  | medium
  | hard
  deriving DecidableEq, Repr

namespace Difficulty

/-- The difficulty is medium unless **another is given**. -/
instance : Inhabited Difficulty := ⟨medium⟩

/-- Every difficulty, in order. -/
def all : List Difficulty := [easy, medium, hard]

/-- The name of a difficulty. -/
def name : Difficulty → String
  | easy => "Easy"
  | medium => "Medium"
  | hard => "Hard"

/-- The difficulty with exactly this name. -/
def ofName? (s : String) : Option Difficulty :=
  all.find? (·.name == s)

/-- The factor on incoming damage. -/
def damageFactor : Difficulty → Binary64
  | easy => .half
  | medium => .one
  | hard => .oneAndHalf

/-- The factor on earned points. -/
def scoreFactor : Difficulty → Binary64
  | easy => .threeQuarters
  | medium => .one
  | hard => .oneAndHalf

/-- The name of a difficulty is **read back**. -/
@[simp] theorem ofName?_name (d : Difficulty) : ofName? d.name = some d := by
  cases d <;> decide

end Difficulty

/-- The **configuration** of a session. -/
structure Config where
  /-- The highest level that points can reach. -/
  maxLevel : UInt32 := 10
  /-- The health at the start, which is also the most that healing restores. -/
  initialHealth : Int32 := 100
  /-- The factor on all earned points. -/
  scoreMultiplier : Binary64 := .one
  /-- Whether the session wants to be saved from time to time. -/
  autoSave : Bool := false
  difficulty : Difficulty := .medium
  deriving DecidableEq

/-- The number of slots of the inventory. -/
def inventorySlots : Nat := 20

/-- The points that a level takes. -/
def pointsPerLevel : Int := 1000

end Guildkeep.Game
