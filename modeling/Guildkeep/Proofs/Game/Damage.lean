import Guildkeep.Proofs.Game.Combat
import Guildkeep.Proofs.Number.Exact

/-!
# Damage in the Integers

A hit is scaled in binary64 and then rounded up. A hit is a word of 32 bits and the factors are
halves, so no product needs more than the 53 bits of a binary64 number and nothing is lost before
the rounding: the damage is what it is in the integers. The greatest hits are too much for a word
when they are scaled up, and do as much damage as a word can hold.

## Main results

* `ceilWithin_scaled`: the scaled hit, rounded up, is the damage in the **integers**.
* `damageTaken_of_nonneg`: what a hit **takes**.
* `damage_mono`: a greater hit on a harder difficulty does **no less** damage.
* `damage_is_exact`: all of this for every hit and every configuration.
-/

namespace Guildkeep.Game

open Binary64 (clamp value? Fits)

/-- Half of an integer, rounded **up**. -/
theorem ceil_half (k : Int) : ⌈(k : ℚ) / 2⌉ = (k + 1) / 2 := by
  have hceil := Rat.ceil_intCast_div_natCast k 2
  rw [Nat.cast_ofNat] at hceil
  rw [hceil]
  omega

namespace Difficulty

/-- The place of a difficulty in the order of all. -/
def rank (d : Difficulty) : Nat :=
  all.idxOf d

/-- The **damage** that a hit does: half of it, all of it, or half as much again, rounded up and not
above what a word of 32 bits can hold. -/
def damage : Difficulty → Int → Int
  | easy, raw => ⌈(raw : ℚ) / 2⌉
  | medium, raw => raw
  | hard, raw => min ⌈3 * (raw : ℚ) / 2⌉ (2 ^ 31 - 1)

/-- How many halves of a hit are taken. -/
def halves : Difficulty → Nat
  | easy => 1
  | medium => 2
  | hard => 3

/-- The factor for damage is a **number of halves**. -/
theorem value?_damageFactor (d : Difficulty) : d.damageFactor.value? = some (d.halves / 2 : ℚ) := by
  cases d
  all_goals
    change some _ = some _
    congr 1
    simp only [Binary64.signed, halves]
    norm_num

/-- As long as the hit is a word, one formula gives the damage of **all** difficulties. -/
theorem damage_eq (d : Difficulty) {raw : Int} (hraw : 0 ≤ raw) (hword : raw ≤ maxInt32) :
    d.damage raw = clamp minInt32 maxInt32 ((d.halves * raw + 1) / 2) := by
  rw [maxInt32] at hword
  cases d with
  | easy =>
    rw [damage, ceil_half, halves, clamp, minInt32, maxInt32]
    omega
  | medium =>
    rw [damage, halves, clamp, minInt32, maxInt32]
    omega
  | hard =>
    have hcast : 3 * (raw : ℚ) = (3 * raw : Int) := by norm_num
    rw [damage, hcast, ceil_half, halves, clamp, minInt32, maxInt32]
    omega

/-- Every hit does **some** damage. -/
theorem damage_pos (d : Difficulty) {raw : Int} (hraw : 0 < raw) (hword : raw ≤ maxInt32) :
    1 ≤ d.damage raw ∧ d.damage raw ≤ maxInt32 := by
  rw [d.damage_eq hraw.le hword, clamp, minInt32, maxInt32]
  cases d
  all_goals
    rw [halves]
    omega

/-- No damage stays **no damage**. -/
theorem damage_zero (d : Difficulty) : d.damage 0 = 0 := by
  rw [d.damage_eq le_rfl (by decide)]
  cases d <;> rfl

/-- **No** damage is done by no hit only. -/
theorem damage_eq_zero_iff (d : Difficulty) {raw : Int} (hraw : 0 ≤ raw) (hword : raw ≤ maxInt32) :
    d.damage raw = 0 ↔ raw = 0 := by
  constructor
  · intro hnone
    by_contra hne
    have hsome := (d.damage_pos (by omega) hword).1
    omega
  · rintro rfl
    exact d.damage_zero

/-- A **greater** hit on a **harder** difficulty does no less damage. -/
theorem damage_mono {d e : Difficulty} {raw raw' : Int} (hde : d.rank ≤ e.rank) (hraw : 0 ≤ raw)
    (hle : raw ≤ raw') (hword : raw' ≤ maxInt32) : d.damage raw ≤ e.damage raw' := by
  have hhalves : d.halves ≤ e.halves := by
    revert hde
    cases d <;> cases e <;> decide
  have hmul : (d.halves : Int) * raw ≤ e.halves * raw' :=
    mul_le_mul (by exact_mod_cast hhalves) hle hraw (by positivity)
  rw [d.damage_eq hraw (hle.trans hword), e.damage_eq (hraw.trans hle) hword, clamp, clamp]
  omega

end Difficulty

variable {config : Config} {raw : Int32}

/-- A scaled hit, **rounded up**, is the damage in the integers. -/
theorem ceilWithin_scaled (d : Difficulty) {raw : Int} (hraw : 0 ≤ raw) (hword : raw ≤ maxInt32) :
    (Binary64.ofInt raw * d.damageFactor).ceilWithin minInt32 maxInt32 = d.damage raw := by
  have hmax : maxInt32 = 2147483647 := rfl
  have hhalves : d.halves ≤ 3 := by cases d <;> decide
  have hproduct : (raw : ℚ) * (d.halves / 2) = ((d.halves * raw : Int) : ℚ) / 2 := by
    push_cast
    ring
  have hfits : Fits |(raw : ℚ) * (d.halves / 2)| := by
    refine ⟨d.halves * raw.toNat, -1, ?_, by decide, by decide, ?_⟩
    · have hle := Nat.mul_le_mul_right raw.toNat hhalves
      omega
    · have hcast : (raw.toNat : ℚ) = raw := by exact_mod_cast Int.toNat_of_nonneg hraw
      have hnonneg : (0 : ℚ) ≤ raw := by exact_mod_cast hraw
      rw [abs_of_nonneg (by positivity), Nat.cast_mul, hcast, zpow_neg_one]
      ring
  have hvalue := Binary64.value?_mul (Binary64.value?_ofInt (by omega)) d.value?_damageFactor hfits
  rw [Binary64.ceilWithin_eq hvalue, hproduct, ceil_half, d.damage_eq hraw hword]

/-- A word of 32 bits is **not above** the largest. -/
theorem toInt_le_maxInt32 (raw : Int32) : raw.toInt ≤ maxInt32 :=
  Int.le_of_lt_add_one raw.toInt_lt

/-- A hit that is not below zero **takes** the damage in the integers. -/
theorem damageTaken_of_nonneg (hraw : 0 ≤ raw.toInt) (config : Config) :
    ∃ taken : Int32, damageTaken raw config = .ok taken ∧
      taken.toInt = config.difficulty.damage raw.toInt := by
  have hword := toInt_le_maxInt32 raw
  rw [damageTaken, if_neg (Int.not_lt.2 hraw)]
  split
  case isTrue hzero => exact ⟨0, rfl, by rw [hzero, Difficulty.damage_zero]; rfl⟩
  case isFalse hne =>
    obtain ⟨hpos, hfits⟩ := config.difficulty.damage_pos (by omega) hword
    rw [maxInt32] at hfits
    refine ⟨_, rfl, ?_⟩
    rw [ceilWithin_scaled _ hraw hword, max_eq_right hpos, Int32.toInt_ofInt_of_le (by omega)]
    omega

/-- **Damage is exact.** A hit is refused exactly if it is below zero, and then for nothing else.
Any other takes the damage in the integers, which is what the scaled hit is rounded up to: nothing
only if the hit is nothing, and no less if the hit is greater or the difficulty harder. It leaves
the health without that damage, or 0 if that is more, and changes nothing else but the time. -/
theorem damage_is_exact (config : Config) (raw : Int32) :
    (∀ why, damageTaken raw config = .error why ↔
      raw.toInt < 0 ∧ .negativeAmount raw.toInt = why) ∧
    (0 ≤ raw.toInt →
      (Binary64.ofInt raw.toInt * config.difficulty.damageFactor).ceilWithin minInt32 maxInt32 =
        config.difficulty.damage raw.toInt ∧
      ∃ taken : Int32, damageTaken raw config = .ok taken ∧
        taken.toInt = config.difficulty.damage raw.toInt ∧
        (taken = 0 ↔ raw = 0) ∧
        (∀ (raw' : Int32) (config' : Config), raw ≤ raw' →
          config.difficulty.rank ≤ config'.difficulty.rank →
          ∃ taken', damageTaken raw' config' = .ok taken' ∧ taken ≤ taken') ∧
        ∀ (s : State) (now : Time.Instant), ∃ struck, applyDamage s raw config now = .ok struck ∧
          struck = { s with health := struck.health, timestamp := now } ∧
          struck.health.toInt = max (s.health.toInt - config.difficulty.damage raw.toInt) 0) := by
  refine ⟨fun why => damageTaken_eq_error_iff, fun hraw => ?_⟩
  obtain ⟨taken, htaken, hexact⟩ := damageTaken_of_nonneg hraw config
  refine ⟨ceilWithin_scaled _ hraw (toInt_le_maxInt32 raw), taken, htaken, hexact, ?_, ?_, ?_⟩
  · rw [← Int32.toInt_inj, ← Int32.toInt_inj, hexact]
    exact config.difficulty.damage_eq_zero_iff hraw (toInt_le_maxInt32 raw)
  · intro raw' config' hle hrank
    have hle : raw.toInt ≤ raw'.toInt := Int32.le_iff_toInt_le.1 hle
    obtain ⟨taken', htaken', hexact'⟩ := damageTaken_of_nonneg (hraw.trans hle) config'
    refine ⟨taken', htaken', Int32.le_iff_toInt_le.2 ?_⟩
    rw [hexact, hexact']
    exact Difficulty.damage_mono hrank hraw hle (toInt_le_maxInt32 raw')
  · intro s now
    obtain ⟨taken', health, htaken', -, hdealt, hhealth⟩ := applyDamage_of_nonneg s config now hraw
    obtain rfl : taken = taken' := Except.ok.inj (htaken.symm.trans htaken')
    refine ⟨_, hdealt, rfl, ?_⟩
    rw [← hexact, max_comm]
    exact hhealth

/-- The first hit that is too much for a word on the hardest difficulty. -/
theorem damage_is_exact_saturated :
    let raw : Int32 := 1431655765
    let config : Config := { difficulty := .hard }
    0 ≤ raw.toInt ∧ ⌈3 * (raw.toInt : ℚ) / 2⌉ = 2147483648 ∧ ∃ taken : Int32,
      damageTaken raw config = .ok taken ∧ taken.toInt = 2147483647 ∧
      ∃ struck, applyDamage (.opening "s" 2147483647 .epoch) raw config .epoch = .ok struck ∧
        struck.health.toInt = 0 := by
  intro raw config
  have hraw : 0 ≤ raw.toInt := by decide
  obtain ⟨-, hdealt⟩ := damage_is_exact config raw
  obtain ⟨-, taken, htaken, hexact, -, -, hstruck⟩ := hdealt hraw
  obtain ⟨struck, happlied, -, hhealth⟩ := hstruck (.opening "s" 2147483647 .epoch) .epoch
  have hdamage : config.difficulty.damage raw.toInt = 2147483647 := by decide +kernel
  refine ⟨hraw, by decide +kernel, taken, htaken, hexact.trans hdamage, struck, happlied, ?_⟩
  rw [hhealth, hdamage]
  decide

end Guildkeep.Game
