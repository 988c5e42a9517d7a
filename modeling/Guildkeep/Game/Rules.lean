import Guildkeep.Game.State

/-!
# Rules of Play

Damage and healing, points and levels, and the inventory. Every rule is a function from a state to
the next one; a request that the rules do not allow is refused with its cause, and no state results.

## Conventions

Damage and points are computed in binary64 and then rounded: damage up, points to the nearest with
halves away from zero. Health and score stop at the ends of their range.
-/

namespace Guildkeep.Game

open Time

/-- Why a rule **refuses** a request. -/
inductive Refusal where
  | negativeAmount (amount : Int)
  | inventoryFull (capacity : Nat)
  | itemNotFound (item : String)
  deriving DecidableEq, Repr

/-- The wording of a refusal. -/
def Refusal.message : Refusal → String
  | negativeAmount amount => "amount must not be negative (got " ++ Text.int amount ++ ")"
  | inventoryFull capacity => "inventory is full (" ++ Text.nat capacity ++ " slots)"
  | itemNotFound item => "item " ++ item ++ " is not in the inventory"

/-! ### Damage and healing -/

/-- The damage that a hit does: scaled by the difficulty and rounded up, at least 1 unless the hit
is 0. -/
def damageTaken (raw : Int32) (config : Config) : Except Refusal Int32 :=
  if raw.toInt < 0 then .error (.negativeAmount raw.toInt)
  else if raw.toInt = 0 then .ok 0
  else
    let scaled := Binary64.ofInt raw.toInt * config.difficulty.damageFactor
    .ok (Int32.ofInt (max 1 (scaled.ceilWithin minInt32 maxInt32)))

/-- The state after a hit. Health does not go below 0. -/
def applyDamage (s : State) (raw : Int32) (config : Config) (now : Instant) :
    Except Refusal State := do
  let taken ← damageTaken raw config
  .ok (s.withHealth (Int32.ofInt (max 0 (ofIntSat32 (s.health.toInt - taken.toInt)).toInt)) now)

/-- The state after healing. Health does not go above the starting health. -/
def heal (s : State) (amount : Int32) (config : Config) (now : Instant) : Except Refusal State :=
  if amount.toInt < 0 then .error (.negativeAmount amount.toInt)
  else
    let healed := (ofIntSat32 (s.health.toInt + amount.toInt)).toInt
    .ok (s.withHealth (Int32.ofInt (min healed config.initialHealth.toInt)) now)

/-- Whether the session is lost. -/
def isDefeated (s : State) : Bool :=
  !s.isAlive

/-! ### Points and levels -/

/-- The points that a base amount is worth. -/
def pointsFor (base : Int64) (config : Config) : Except Refusal Int64 :=
  if base.toInt < 0 then .error (.negativeAmount base.toInt)
  else
    let scaled := Binary64.ofInt base.toInt * config.scoreMultiplier * config.difficulty.scoreFactor
    .ok (Int64.ofInt (scaled.roundWithin minInt64 maxInt64))

/-- The level that a score reaches: one per thousand points, within the cap. -/
def levelFor (score : Int64) (config : Config) : UInt32 :=
  let earned := 1 + max score.toInt 0 / pointsPerLevel
  UInt32.ofNat (min (min earned.toNat 4294967295) (max config.maxLevel.toNat 1))

/-- The state after an award. The level never goes down. -/
def award (s : State) (base : Int64) (config : Config) (now : Instant) : Except Refusal State := do
  let points ← pointsFor base config
  let score := ofIntSat64 (s.score.toInt + points.toInt)
  .ok ((s.withScore score now).withLevel (max (levelFor score config) s.level) now)

/-! ### Inventory -/

/-- The state with one more item, at the end. -/
def addItem (s : State) (item : String) (now : Instant) : Except Refusal State :=
  if inventorySlots ≤ s.inventory.length then .error (.inventoryFull inventorySlots)
  else .ok (s.withInventory (s.inventory ++ [item]) now)

/-- The state without the first occurrence of an item. -/
def removeItem (s : State) (item : String) (now : Instant) : Except Refusal State :=
  if item ∈ s.inventory then .ok (s.withInventory (s.inventory.erase item) now)
  else .error (.itemNotFound item)

/-- Whether an item is held. -/
def holds (s : State) (item : String) : Bool :=
  s.inventory.contains item

end Guildkeep.Game
