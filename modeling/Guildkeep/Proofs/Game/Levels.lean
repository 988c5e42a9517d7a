import Guildkeep.Proofs.Game.Scoring
import Mathlib.Order.Bounds.Basic

/-!
# The Level Follows the Best Score

A level is earned by a score and kept when the score falls. So the level of a session does not show
its score but the highest one that it has reached, and that is all that it shows: awards that were
refused, losses in between and the order of the awards leave no trace in it.

## Conventions

Awards are asked for one after another, under one configuration. One that is refused leaves the
state as it was.

## Main results

* `toNat_levelFor`: the level of a score, computed in the **integers**.
* `levelFor_mono`: a higher score has **no lower level**.
* `exists_best`: the level is that of the **best score** so far.
* `level_follows_best_score`: all of this for every run of awards.
-/

namespace Guildkeep.Game

open Time

/-! ### The level of a score -/

/-- The level of a score is what it is in the **integers**, where nothing wraps around. -/
theorem toNat_levelFor (score : Int64) (config : Config) :
    ((levelFor score config).toNat : Int) =
      min (1 + max score.toInt 0 / pointsPerLevel) (max config.maxLevel.toNat 1) := by
  have hcap := config.maxLevel.toNat_lt
  have hearned : 0 ≤ max score.toInt 0 / pointsPerLevel :=
    Int.ediv_nonneg (Int.le_max_right _ _) (by decide)
  rw [levelFor, UInt32.toNat_ofNat_of_lt']
  · omega
  · change _ < 4294967296
    omega

/-- A higher score has **no lower level**. -/
theorem levelFor_mono {a b : Int64} (h : a.toInt ≤ b.toInt) (config : Config) :
    levelFor a config ≤ levelFor b config := by
  have hquot : max a.toInt 0 / pointsPerLevel ≤ max b.toInt 0 / pointsPerLevel :=
    Int.ediv_le_ediv (by decide) (by omega)
  have ha := toNat_levelFor a config
  have hb := toNat_levelFor b config
  rw [UInt32.le_iff_toNat_le]
  omega

/-- Computed in **words** of 64 bits the levels that a score has earned are what they are in the
integers: neither the quotient nor the sum leaves the range. -/
theorem earned_fits (score : Int64) :
    (1 + max score 0 / 1000 : Int64).toInt = 1 + max score.toInt 0 / pointsPerLevel := by
  have hmax : (max score 0).toInt = max score.toInt 0 := by
    change (if score ≤ 0 then (0 : Int64) else score).toInt = _
    split
    case isTrue hle =>
      have hle : score.toInt ≤ 0 := Int64.le_iff_toInt_le.1 hle
      exact (Int.max_eq_right hle).symm
    case isFalse hlt =>
      have hlt : ¬ score.toInt ≤ 0 := fun hle => hlt (Int64.le_iff_toInt_le.2 hle)
      exact (Int.max_eq_left (by omega)).symm
  have hhigh := score.toInt_lt
  have hnonneg : 0 ≤ max score.toInt 0 := Int.le_max_right _ _
  have hquot : (max score 0 / 1000).toInt = max score.toInt 0 / 1000 := by
    have hthousand : (1000 : Int64).toInt = 1000 := rfl
    rw [Int64.toInt_div, hmax, hthousand, Int.tdiv_eq_ediv_of_nonneg hnonneg, Int.bmod_eq_of_le]
    · omega
    · omega
  have hone : (1 : Int64).toInt = 1 := rfl
  rw [Int64.toInt_add, hquot, hone, pointsPerLevel, Int.bmod_eq_of_le]
  · omega
  · omega

/-! ### One award -/

namespace State

/-- The state after an award was **asked for**: its base, and when. -/
def awarded (config : Config) (s : State) (call : Int64 × Instant) : State :=
  match award s call.1 config call.2 with
  | .ok after => after
  | .error _ => s

/-- The state after awards, one after another. -/
def awardedAll (config : Config) (s : State) (calls : List (Int64 × Instant)) : State :=
  calls.foldl (awarded config) s

/-- An award is refused, or the **level of the new score** is reached. -/
theorem awarded_cases (config : Config) (s : State) (call : Int64 × Instant) :
    s.awarded config call = s ∨ ∃ score, s.awarded config call =
      (s.withScore score call.2).withLevel (max (levelFor score config) s.level) call.2 := by
  rw [awarded]
  by_cases hbase : 0 ≤ call.1.toInt
  · obtain ⟨points, score, -, -, hdone⟩ := award_of_nonneg s config call.2 hbase
    rw [hdone]
    exact .inr ⟨score, rfl⟩
  · have hrefused : award s call.1 config call.2 = .error (.negativeAmount call.1.toInt) :=
      award_eq_error_iff.2 ⟨Int.not_le.1 hbase, rfl⟩
    rw [hrefused]
    exact .inl rfl

/-- An award does **not lower** the level. -/
theorem level_le_awarded (config : Config) (s : State) (call : Int64 × Instant) :
    s.level ≤ (s.awarded config call).level := by
  rcases s.awarded_cases config call with hsame | ⟨score, hawarded⟩
  · rw [hsame]
    exact UInt32.le_refl _
  · rw [hawarded]
    exact level_le_max s.level (levelFor score config)

/-! ### Every run of awards -/

/-- The last award comes **after** the others. -/
theorem awardedAll_concat (config : Config) (s : State) (calls : List (Int64 × Instant))
    (call : Int64 × Instant) :
    s.awardedAll config (calls ++ [call]) = (s.awardedAll config calls).awarded config call := by
  rw [awardedAll, List.foldl_append]
  rfl

/-- The scores that are **reached** in the course of awards. -/
def reached (config : Config) (s : State) (calls : List (Int64 × Instant)) : Set Int :=
  {score | ∃ played, played <+: calls ∧ score = (s.awardedAll config played).score.toInt}

/-- Without awards only **the score at the start** is reached. -/
theorem reached_nil (config : Config) (s : State) : s.reached config [] = {s.score.toInt} := by
  ext score
  constructor
  · rintro ⟨played, hplayed, rfl⟩
    rw [List.prefix_nil.1 hplayed]
    rfl
  · rintro rfl
    exact ⟨[], List.prefix_refl _, rfl⟩

/-- The last award reaches **one score** more. -/
theorem reached_concat (config : Config) (s : State) (calls : List (Int64 × Instant))
    (call : Int64 × Instant) :
    s.reached config (calls ++ [call]) =
      insert (s.awardedAll config (calls ++ [call])).score.toInt (s.reached config calls) := by
  ext score
  constructor
  · rintro ⟨played, hplayed, rfl⟩
    rcases List.prefix_concat_iff.1 hplayed with rfl | hplayed
    · exact Set.mem_insert _ _
    · exact Set.mem_insert_of_mem _ ⟨played, hplayed, rfl⟩
  · rintro (rfl | ⟨played, hplayed, rfl⟩)
    · exact ⟨_, List.prefix_refl _, rfl⟩
    · exact ⟨played, hplayed.trans (List.prefix_append ..), rfl⟩

/-- The level of a session is that of its **best score** so far. -/
theorem exists_best (config : Config) {s : State} (hlevel : s.level = levelFor s.score config)
    (calls : List (Int64 × Instant)) :
    ∃ best : Int64, IsGreatest (s.reached config calls) best.toInt ∧
      (s.awardedAll config calls).level = levelFor best config := by
  induction calls using List.reverseRecOn with
  | nil =>
    refine ⟨s.score, ?_, hlevel⟩
    rw [reached_nil]
    exact isGreatest_singleton
  | append_singleton calls call ih =>
    obtain ⟨best, hbest, hlevel⟩ := ih
    have hgreatest := hbest.insert (s.awardedAll config (calls ++ [call])).score.toInt
    rw [← reached_concat] at hgreatest
    rw [awardedAll_concat] at hgreatest ⊢
    rcases (s.awardedAll config calls).awarded_cases config call with hsame | ⟨score, hawarded⟩
    · -- What was refused was reached before.
      rw [hsame] at hgreatest ⊢
      have hle := hbest.2 ⟨calls, List.prefix_refl _, rfl⟩
      rw [max_eq_right hle] at hgreatest
      exact ⟨best, hgreatest, hlevel⟩
    · rw [hawarded] at hgreatest ⊢
      change IsGreatest _ (max score.toInt best.toInt) at hgreatest
      change ∃ best', _ ∧ max (levelFor score config) (s.awardedAll config calls).level = _
      rw [hlevel]
      rcases Int.le_total score.toInt best.toInt with hle | hle
      · rw [max_eq_right hle] at hgreatest
        exact ⟨best, hgreatest, if_pos (levelFor_mono hle config)⟩
      · rw [max_eq_left hle] at hgreatest
        refine ⟨score, hgreatest, UInt32.toNat_inj.1 ?_⟩
        rw [UInt32.toNat_max]
        exact Nat.max_eq_left (UInt32.le_iff_toNat_le.1 (levelFor_mono hle config))

/-- Awards do **not lower** the level, however many. -/
theorem level_le_awardedAll (config : Config) (s : State) {played calls : List (Int64 × Instant)}
    (h : played <+: calls) :
    (s.awardedAll config played).level ≤ (s.awardedAll config calls).level := by
  induction calls using List.reverseRecOn with
  | nil =>
    rw [List.prefix_nil.1 h]
    exact UInt32.le_refl _
  | append_singleton calls call ih =>
    rcases List.prefix_concat_iff.1 h with rfl | h
    · exact UInt32.le_refl _
    · rw [awardedAll_concat]
      exact UInt32.le_trans (ih h) (level_le_awarded config _ call)

end State

/-- **The level follows the best score.** Under any configuration, after any awards from the opening
of a session on, refused ones among them: the level is that of the highest score that was reached,
which the opening with its score of 0 is counted in; it is at least 1 and at most the highest level
of the configuration, or 1 if that is 0; and it was never higher before. The level of any score is
one more than its whole thousands, none for a score below 0, within that cap: it does not fall when
the score rises, and no step of its computation leaves the range of its words. -/
theorem level_follows_best_score (config : Config) (id : String) (health : Int32)
    (opened : Instant) (calls : List (Int64 × Instant)) :
    let after (played : List (Int64 × Instant)) : State :=
      (State.opening id health opened).awardedAll config played
    (∃ best : Int64,
      IsGreatest {score | ∃ played, played <+: calls ∧ score = (after played).score.toInt}
        best.toInt ∧
      (after calls).level = levelFor best config) ∧
    (1 ≤ (after calls).level ∧ (after calls).level ≤ max config.maxLevel 1) ∧
    (∀ played, played <+: calls → (after played).level ≤ (after calls).level) ∧
    (∀ a b : Int64, a ≤ b → levelFor a config ≤ levelFor b config) ∧
    ∀ score : Int64,
      ((levelFor score config).toNat : Int) =
        min (1 + max score.toInt 0 / 1000) (max config.maxLevel.toNat 1) ∧
      (1 + max score 0 / 1000 : Int64).toInt = 1 + max score.toInt 0 / 1000 := by
  intro after
  have hopening : (1 : UInt32) = levelFor 0 config := by
    have hlevel := toNat_levelFor 0 config
    have hearned : 1 + max (0 : Int64).toInt 0 / pointsPerLevel = 1 := rfl
    refine UInt32.toNat_inj.1 ?_
    change 1 = _
    omega
  obtain ⟨best, hbest, hlevel⟩ := State.exists_best config (s := .opening id health opened)
    hopening calls
  refine ⟨⟨best, hbest, hlevel⟩, ?_, fun played => State.level_le_awardedAll config _,
    fun a b hab => levelFor_mono (Int64.le_iff_toInt_le.1 hab) config,
    fun score => ⟨toNat_levelFor score config, earned_fits score⟩⟩
  have hvalue := toNat_levelFor best config
  have hearned : 0 ≤ max best.toInt 0 / pointsPerLevel :=
    Int.ediv_nonneg (Int.le_max_right _ _) (by decide)
  rw [hlevel, UInt32.le_iff_toNat_le, UInt32.le_iff_toNat_le, UInt32.toNat_max]
  change 1 ≤ _ ∧ _ ≤ max config.maxLevel.toNat 1
  omega

end Guildkeep.Game
