import Guildkeep.Proofs.Game.Rules
import Guildkeep.Proofs.Number.Sign
import Mathlib.Data.Bool.Basic
import Mathlib.Data.UInt

/-!
# Awards

An award multiplies its base by the multiplier of the session and by that of the difficulty, and
adds the product to the score. Only the base is checked: a multiplier below zero turns the award
into a loss. The level is not lost with the points.

## Main results

* `award_of_nonneg`: the **state after** an award whose base is not negative.
* `pointsFor_nonneg`: an award is a loss only under a **multiplier below zero**.
* `awarding_keeps_points_iff`: when the score goes down, and what never does.
-/

namespace Guildkeep.Game

open Binary64 (clamp)

variable {s : State} {config : Config} {now : Time.Instant} {base points : Int64}

/-- Points are refused for a **negative base** only. -/
theorem pointsFor_eq_error_iff {why : Refusal} :
    pointsFor base config = .error why ↔ base.toInt < 0 ∧ .negativeAmount base.toInt = why := by
  rw [pointsFor]
  split
  case isTrue hnegative => simp [hnegative]
  case isFalse hnonneg => simp [hnonneg]

/-- No difficulty takes points away. -/
theorem Difficulty.isBelowZero_scoreFactor (d : Difficulty) :
    d.scoreFactor.isBelowZero = false := by
  cases d <;> rfl

/-- Points are below zero only under a **multiplier below zero**. -/
theorem pointsFor_nonneg (h : pointsFor base config = .ok points)
    (hmultiplier : config.scoreMultiplier.isBelowZero = false) : 0 ≤ points.toInt := by
  rw [pointsFor] at h
  split at h
  · cases h
  case isFalse hnonneg =>
    obtain rfl := Except.ok.inj h
    have hx : (Binary64.ofInt base.toInt * config.scoreMultiplier *
        config.difficulty.scoreFactor).isBelowZero = false := by
      refine Bool.eq_false_of_not_eq_true fun hbelow => ?_
      rcases Binary64.isBelowZero_of_mul hbelow with hscaled | hfactor
      · rcases Binary64.isBelowZero_of_mul hscaled with hbase | hscaled
        · exact hnonneg (Binary64.neg_of_isBelowZero_ofInt hbase)
        · exact Bool.false_ne_true (hmultiplier.symm.trans hscaled)
      · exact Bool.false_ne_true (config.difficulty.isBelowZero_scoreFactor.symm.trans hfactor)
    have hrange : minInt64 ≤ maxInt64 := by decide
    have hmaxNonneg : 0 ≤ maxInt64 := by decide
    have hlow : 0 ≤ Binary64.roundWithin minInt64 maxInt64 _ :=
      Binary64.roundWithin_nonneg hmaxNonneg hx
    have hhigh := Binary64.roundWithin_le hrange hmaxNonneg
      (Binary64.ofInt base.toInt * config.scoreMultiplier * config.difficulty.scoreFactor)
    have hmax : maxInt64 = 9223372036854775807 := rfl
    rw [Int64.toInt_ofInt_of_le]
    · exact hlow
    · omega
    · omega

/-- A level that was reached is **kept** when the level of another score is compared with it. -/
theorem level_le_max (level earned : UInt32) : level ≤ max earned level := by
  rw [UInt32.le_iff_toNat_le, UInt32.toNat_max]
  exact Nat.le_max_right _ _

/-- The state after an award whose base is not negative: the points are **added**, as far as a word
can hold the sum, and the level is that of the new score unless it was higher before. -/
theorem award_of_nonneg (s : State) (config : Config) (now : Time.Instant)
    (hbase : 0 ≤ base.toInt) :
    ∃ points score : Int64, pointsFor base config = .ok points ∧
      score.toInt = clamp minInt64 maxInt64 (s.score.toInt + points.toInt) ∧
      award s base config now =
        .ok ((s.withScore score now).withLevel (max (levelFor score config) s.level) now) := by
  rw [award]
  cases hpoints : pointsFor base config with
  | error why => exact absurd (pointsFor_eq_error_iff.1 hpoints).1 (Int.not_lt.2 hbase)
  | ok points => exact ⟨points, _, rfl, toInt_ofIntSat64 _, rfl⟩

/-- **Awards take no points away, unless they are worth less than nothing.** An award is refused
exactly for a negative base, and then for nothing else. Any other changes the score, the level and
the time and nothing else: it adds its points, as far as a word can hold the sum, and the level does
not go down. The score is no less than before exactly if the points are not negative, or if it was
the least that there is; and they are not negative unless the multiplier of the session is below
zero. -/
theorem awarding_keeps_points_iff (s : State) (config : Config) (base : Int64)
    (now : Time.Instant) :
    (∀ why, award s base config now = .error why ↔
      base.toInt < 0 ∧ .negativeAmount base.toInt = why) ∧
    (0 ≤ base.toInt → ∃ (points : Int64) (after : State), pointsFor base config = .ok points ∧
      award s base config now = .ok after ∧
      after = { s with score := after.score, level := after.level, timestamp := now } ∧
      after.score.toInt = clamp minInt64 maxInt64 (s.score.toInt + points.toInt) ∧
      s.level ≤ after.level ∧
      (s.score.toInt ≤ after.score.toInt ↔ 0 ≤ points.toInt ∨ s.score.toInt = minInt64) ∧
      (config.scoreMultiplier.isBelowZero = false → 0 ≤ points.toInt)) := by
  refine ⟨fun why => award_eq_error_iff, fun hbase => ?_⟩
  obtain ⟨points, score, hpoints, hscore, hdone⟩ := award_of_nonneg s config now hbase
  refine ⟨points, _, hpoints, hdone, rfl, hscore, ?_, ?_, pointsFor_nonneg hpoints⟩
  · exact level_le_max s.level (levelFor score config)
  · change s.score.toInt ≤ score.toInt ↔ _
    have hlow := s.score.le_toInt
    have hhigh := s.score.toInt_lt
    rw [hscore, clamp, minInt64, maxInt64]
    omega

/-- Under a multiplier of -1 an award of 10 **takes** 10 points **away**. -/
theorem award_can_take_points_away :
    let s : State := { State.opening "s" 100 .epoch with score := 100 }
    let config : Config := { scoreMultiplier := .finite true (2 ^ 52) (-52) (by decide) }
    ∃ after, award s 10 config .epoch = .ok after ∧ ¬ s.score.toInt ≤ after.score.toInt :=
  ⟨_, rfl, by decide⟩

end Guildkeep.Game
