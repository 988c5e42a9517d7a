import Guildkeep.Proofs.Game.Rules

/-!
# Hits and Healing

A hit takes health away and healing gives some back, between two bounds that they do not share: a
hit leaves nothing below 0, and healing leaves nothing above the starting health. A health that is
within the bound is moved in the one direction only. A health beyond it, from a save or from a
session of another configuration, is moved to the bound, and then a hit raises it and healing lowers
it.

## Main results

* `applyDamage_of_nonneg`, `heal_of_nonneg`: what **becomes of the health**, for every amount that
  is not negative.
* `hit_lowers_and_healing_raises`: in which direction it goes, and from where on.
-/

namespace Guildkeep.Game

variable {amount : Int32}

/-- A hit by an amount that is not negative is **dealt**, and computed without wrapping around. -/
theorem applyDamage_of_nonneg (s : State) (config : Config) (now : Time.Instant)
    (hamount : 0 ≤ amount.toInt) :
    ∃ taken health : Int32, damageTaken amount config = .ok taken ∧ 0 ≤ taken.toInt ∧
      applyDamage s amount config now = .ok (s.withHealth health now) ∧
      health.toInt = max 0 (s.health.toInt - taken.toInt) := by
  cases hdealt : applyDamage s amount config now with
  | error why => exact absurd (applyDamage_eq_error_iff.1 hdealt).1 (Int.not_lt.2 hamount)
  | ok struck =>
    obtain ⟨taken, health, htaken, hnonneg, rfl, hhealth⟩ := applyDamage_ok hdealt
    exact ⟨taken, health, htaken, hnonneg, rfl, hhealth⟩

/-- Healing by an amount that is not negative is **done**, and computed without wrapping around. -/
theorem heal_of_nonneg (s : State) (config : Config) (now : Time.Instant)
    (hamount : 0 ≤ amount.toInt) :
    ∃ health : Int32, heal s amount config now = .ok (s.withHealth health now) ∧
      health.toInt =
        min (min (s.health.toInt + amount.toInt) maxInt32) config.initialHealth.toInt := by
  cases hdone : heal s amount config now with
  | error why => exact absurd (heal_eq_error_iff.1 hdone).1 (Int.not_lt.2 hamount)
  | ok healed =>
    obtain ⟨health, rfl⟩ := heal_ok hdone
    exact ⟨health, rfl, (heal_health hdone).2⟩

/-- **A hit lowers and healing raises**, as long as the health is within the bound that they keep
to. For every amount that is not negative both are done, change the health and the time and nothing
else, and compute the health as in the integers, cut off at the bound and at what a word can hold. A
hit leaves no more than there was exactly if that was not below 0, and healing no less exactly if it
was not above the starting health. -/
theorem hit_lowers_and_healing_raises (s : State) (config : Config) (now : Time.Instant)
    (hamount : 0 ≤ amount.toInt) :
    (∃ (taken : Int32) (struck : State), damageTaken amount config = .ok taken ∧ 0 ≤ taken.toInt ∧
      applyDamage s amount config now = .ok struck ∧
      struck = { s with health := struck.health, timestamp := now } ∧
      struck.health.toInt = max 0 (s.health.toInt - taken.toInt) ∧
      (struck.health.toInt ≤ s.health.toInt ↔ 0 ≤ s.health.toInt)) ∧
    ∃ healed : State, heal s amount config now = .ok healed ∧
      healed = { s with health := healed.health, timestamp := now } ∧
      healed.health.toInt =
        min (min (s.health.toInt + amount.toInt) maxInt32) config.initialHealth.toInt ∧
      (s.health.toInt ≤ healed.health.toInt ↔ s.health.toInt ≤ config.initialHealth.toInt) := by
  obtain ⟨taken, low, htaken, hnonneg, hdealt, hlow⟩ := applyDamage_of_nonneg s config now hamount
  obtain ⟨high, hdone, hhigh⟩ := heal_of_nonneg s config now hamount
  have hword := s.health.toInt_lt
  refine ⟨⟨taken, _, htaken, hnonneg, hdealt, rfl, hlow, ?_⟩, _, hdone, rfl, hhigh, ?_⟩
  · change low.toInt ≤ _ ↔ _
    omega
  · change _ ≤ high.toInt ↔ _
    rw [hhigh, maxInt32]
    omega

/-- The largest amount, near the upper end of a word: the hit goes down to 0 and the healing up to
the last health there is. -/
theorem hit_lowers_and_healing_raises_at_limits :
    let s : State := .opening "s" 2147483600 .epoch
    let config : Config := { initialHealth := 2147483647, difficulty := .hard }
    let amount : Int32 := 2147483647
    0 ≤ amount.toInt ∧
      (∃ struck, applyDamage s amount config .epoch = .ok struck ∧
        struck.health.toInt ≤ s.health.toInt) ∧
      ∃ healed, heal s amount config .epoch = .ok healed ∧ healed.health.toInt = 2147483647 ∧
        s.health.toInt ≤ healed.health.toInt := by
  intro s config amount
  have hamount : 0 ≤ amount.toInt := by decide
  obtain ⟨⟨taken, struck, -, -, hdealt, -, -, hlowers⟩, healed, hdone, -, hhealed, hraises⟩ :=
    hit_lowers_and_healing_raises s config .epoch hamount
  exact ⟨hamount, ⟨struck, hdealt, hlowers.2 (by decide)⟩, healed, hdone, hhealed.trans (by decide),
    hraises.2 (by decide)⟩

/-- Beyond the bounds it is the other way round: a hit **raises** a health below 0, and healing
**lowers** one above the starting health. -/
theorem hit_can_raise_and_healing_can_lower :
    let below : State := .opening "s" (-5) .epoch
    let above : State := .opening "s" 90 .epoch
    (∃ struck, applyDamage below 10 {} .epoch = .ok struck ∧
      ¬ struck.health.toInt ≤ below.health.toInt) ∧
    ∃ healed, heal above 10 { initialHealth := 50 } .epoch = .ok healed ∧
      ¬ above.health.toInt ≤ healed.health.toInt :=
  ⟨⟨_, rfl, by decide⟩, _, rfl, by decide⟩

end Guildkeep.Game
