import Guildkeep.Game.Rules

/-!
# What the Rules Change

Every rule of play changes one side of the state and its time, and nothing else. A hit takes away
what it takes, down to 0; only a health that was below 0 before is raised to 0 by it.

## Main results

* `applyDamage_eq_error_iff`, `heal_eq_error_iff`, `award_eq_error_iff`, `addItem_eq_error_iff`,
  `removeItem_eq_error_iff`: when a rule **refuses**, and why.
* `applyDamage_ok`, `heal_ok`, `award_ok`, `addItem_ok`, `removeItem_ok`: the **state after** each
  rule that is not refused.
* `heal_health`, `addItem_inventory`, `removeItem_inventory`: what exactly healing and the inventory
  rules make of their side of it.
* `health_change_fits`: the change of health by a hit fits a word of 32 bits.
-/

namespace Guildkeep.Game

open Binary64 (clamp)

variable {s after : State} {config : Config} {now : Time.Instant}

/-! ### Refusals -/

/-- Damage is refused exactly if it is **negative**. -/
theorem damageTaken_eq_error_iff {raw : Int32} {why : Refusal} :
    damageTaken raw config = .error why ↔ raw.toInt < 0 ∧ .negativeAmount raw.toInt = why := by
  rw [damageTaken]
  split
  case isTrue hnegative => simp [hnegative]
  case isFalse hnonneg => split <;> simp [hnonneg]

/-- A hit is refused for a **negative amount** only. -/
theorem applyDamage_eq_error_iff {raw : Int32} {why : Refusal} :
    applyDamage s raw config now = .error why ↔
      raw.toInt < 0 ∧ .negativeAmount raw.toInt = why := by
  have htaken : damageTaken raw config = .error why ↔ _ := damageTaken_eq_error_iff
  rw [← htaken, applyDamage]
  cases damageTaken raw config with
  | error why' => simp [bind, Except.bind]
  | ok taken => exact iff_of_false nofun nofun

/-- Healing is refused for a **negative amount** only. -/
theorem heal_eq_error_iff {amount : Int32} {why : Refusal} :
    heal s amount config now = .error why ↔
      amount.toInt < 0 ∧ .negativeAmount amount.toInt = why := by
  rw [heal]
  split
  case isTrue hnegative => simp [hnegative]
  case isFalse hnonneg => simp [hnonneg]

/-- An award is refused for a **negative amount** only. -/
theorem award_eq_error_iff {points : Int64} {why : Refusal} :
    award s points config now = .error why ↔
      points.toInt < 0 ∧ .negativeAmount points.toInt = why := by
  rw [award, pointsFor]
  split
  case isTrue hnegative => simp [hnegative, bind, Except.bind]
  case isFalse hnonneg => simp [hnonneg, bind, Except.bind]

/-- An item is refused where there is **no slot** left only. -/
theorem addItem_eq_error_iff {item : String} {why : Refusal} :
    addItem s item now = .error why ↔
      inventorySlots ≤ s.inventory.length ∧ .inventoryFull inventorySlots = why := by
  rw [addItem]
  split
  case isTrue hfull => simp [hfull]
  case isFalse hfree => simp [hfree]

/-- The removal of an item is refused where it is **not held** only. -/
theorem removeItem_eq_error_iff {item : String} {why : Refusal} :
    removeItem s item now = .error why ↔ item ∉ s.inventory ∧ .itemNotFound item = why := by
  rw [removeItem]
  split
  case isTrue hheld => simp [hheld]
  case isFalse hmissing => simp [hmissing]

/-! ### Changes -/

/-- Damage that is taken is **not negative**. -/
theorem damageTaken_nonneg {raw taken : Int32} (h : damageTaken raw config = .ok taken) :
    0 ≤ taken.toInt := by
  rw [damageTaken] at h
  split at h
  · cases h
  split at h
  · cases h
    decide
  · obtain rfl := Except.ok.inj h
    have hceil : ∀ x : Binary64, x.ceilWithin minInt32 maxInt32 ≤ maxInt32 := by
      intro x
      cases x with
      | nan => decide
      | inf negative => cases negative <;> decide
      | finite negative m q canonical =>
        simp only [Binary64.ceilWithin, clamp]
        have hends : minInt32 ≤ maxInt32 := by decide
        omega
    have hle := hceil (.ofInt raw.toInt * config.difficulty.damageFactor)
    have hmax : maxInt32 = 2147483647 := rfl
    rw [Int32.toInt_ofInt_of_le]
    · omega
    · omega
    · omega

/-- A hit lowers the health by what it takes, **not below 0**. -/
theorem applyDamage_ok {raw : Int32} (h : applyDamage s raw config now = .ok after) :
    ∃ taken health : Int32, damageTaken raw config = .ok taken ∧ 0 ≤ taken.toInt ∧
      after = s.withHealth health now ∧ health.toInt = max 0 (s.health.toInt - taken.toInt) := by
  rw [applyDamage] at h
  cases htaken : damageTaken raw config with
  | error why =>
    rw [htaken] at h
    cases h
  | ok taken =>
    rw [htaken] at h
    obtain rfl := Except.ok.inj h
    have hnonneg := damageTaken_nonneg htaken
    have hhealth := s.health.toInt_lt
    refine ⟨taken, _, rfl, hnonneg, rfl, ?_⟩
    rw [toInt_ofIntSat32, clamp, minInt32, maxInt32, Int32.toInt_ofInt_of_le]
    · omega
    · omega
    · omega

/-- The **change** of health by a hit fits a word of 32 bits, whatever the health was. -/
theorem health_change_fits {raw : Int32} (h : applyDamage s raw config now = .ok after) :
    minInt32 ≤ s.health.toInt - after.health.toInt ∧
      s.health.toInt - after.health.toInt ≤ maxInt32 := by
  obtain ⟨taken, health, -, hnonneg, rfl, hhealth⟩ := applyDamage_ok h
  have hlow := s.health.le_toInt
  have hhigh := s.health.toInt_lt
  change minInt32 ≤ s.health.toInt - health.toInt ∧ s.health.toInt - health.toInt ≤ maxInt32
  rw [hhealth, minInt32, maxInt32]
  omega

/-- Healing changes the **health** alone. -/
theorem heal_ok {amount : Int32} (h : heal s amount config now = .ok after) :
    ∃ health, after = s.withHealth health now := by
  rw [heal] at h
  split at h
  · cases h
  · exact ⟨_, (Except.ok.inj h).symm⟩

/-- Healing raises the health by its amount, **not above** the starting health nor what a word of 32
bits can hold. -/
theorem heal_health {amount : Int32} (h : heal s amount config now = .ok after) :
    0 ≤ amount.toInt ∧ after.health.toInt =
      min (min (s.health.toInt + amount.toInt) maxInt32) config.initialHealth.toInt := by
  rw [heal] at h
  split at h
  · cases h
  case isFalse hnonneg =>
    obtain rfl := Except.ok.inj h
    have hlow := s.health.le_toInt
    have hcap := config.initialHealth.le_toInt
    have hcap' := config.initialHealth.toInt_lt
    refine ⟨by omega, ?_⟩
    change (Int32.ofInt _).toInt = _
    rw [toInt_ofIntSat32, clamp, minInt32, maxInt32, Int32.toInt_ofInt_of_le]
    · omega
    · omega
    · omega

/-- An award changes the **score and the level** alone. -/
theorem award_ok {points : Int64} (h : award s points config now = .ok after) :
    ∃ score level, after = (s.withScore score now).withLevel level now := by
  rw [award] at h
  cases hpoints : pointsFor points config with
  | error why =>
    rw [hpoints] at h
    cases h
  | ok awarded =>
    rw [hpoints] at h
    exact ⟨_, _, (Except.ok.inj h).symm⟩

/-- An item is added at the end, and only where there is a **slot** left. -/
theorem addItem_inventory {item : String} (h : addItem s item now = .ok after) :
    s.inventory.length < inventorySlots ∧ after = s.withInventory (s.inventory ++ [item]) now := by
  rw [addItem] at h
  split at h
  · cases h
  case isFalse hfree => exact ⟨Nat.lt_of_not_le hfree, (Except.ok.inj h).symm⟩

/-- An item is removed only if it is **held**. -/
theorem removeItem_inventory {item : String} (h : removeItem s item now = .ok after) :
    item ∈ s.inventory ∧ after = s.withInventory (s.inventory.erase item) now := by
  rw [removeItem] at h
  split at h
  case isTrue hheld => exact ⟨hheld, (Except.ok.inj h).symm⟩
  · cases h

/-- Adding an item changes the **inventory** alone. -/
theorem addItem_ok {item : String} (h : addItem s item now = .ok after) :
    ∃ inventory, after = s.withInventory inventory now :=
  ⟨_, (addItem_inventory h).2⟩

/-- Removing an item changes the **inventory** alone. -/
theorem removeItem_ok {item : String} (h : removeItem s item now = .ok after) :
    ∃ inventory, after = s.withInventory inventory now :=
  ⟨_, (removeItem_inventory h).2⟩

end Guildkeep.Game
