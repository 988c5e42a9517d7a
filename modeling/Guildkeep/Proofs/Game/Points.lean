import Guildkeep.Proofs.Game.Scoring
import Guildkeep.Proofs.Number.Exact

/-!
# Points in the Rationals

Points are scaled in binary64, once by the multiplier of the session and once by that of the
difficulty, and then rounded to the nearest integer. A base may be any word of 64 bits, which is
more than a binary64 number can hold. But where three times the base still fits its 53 bits and the
session multiplies by one, nothing is lost on the way, and the points are those of the exact
product.

## Conventions

The nearest integer to a half is the one above it.

## Main results

* `pointsFor_of_le`: the points of a base within the limit, computed in the **rationals**.
* `exactPoints_mono`: a greater base is worth **no fewer** points.
* `exactPoints_add`: two awards are worth what one award is, **up to one point**.
* `points_are_exact`: all of this for every such configuration.
-/

namespace Guildkeep.Game

open Binary64 (clamp value? Fits)

/-- The **nearest integer** does not fall when a number rises. -/
theorem round_mono {x y : ℚ} (h : x ≤ y) : round x ≤ round y := by
  rw [round_eq, round_eq]
  exact Int.floor_le_floor (by linarith)

/-- Rounding two terms apart moves the sum by **less than two**, as no rounding moves a number by
more than a half. -/
theorem abs_round_add_sub_round_le (x y : ℚ) : |round x + round y - round (x + y)| ≤ 1 := by
  have hx := abs_le.1 (abs_sub_round x)
  have hy := abs_le.1 (abs_sub_round y)
  have hsum := abs_le.1 (abs_sub_round (x + y))
  have hlow : ((-2 : Int) : ℚ) < (round x + round y - round (x + y) : Int) := by
    push_cast
    linarith
  have hhigh : ((round x + round y - round (x + y) : Int) : ℚ) < (2 : Int) := by
    push_cast
    linarith
  have hlow := Int.cast_lt.1 hlow
  have hhigh := Int.cast_lt.1 hhigh
  exact abs_le.2 ⟨by omega, by omega⟩

namespace Difficulty

/-- The share of a base that is **awarded**. -/
def share : Difficulty → ℚ
  | easy => 3 / 4
  | medium => 1
  | hard => 3 / 2

/-- The factor for points is the **share** of a difficulty. -/
theorem value?_scoreFactor (d : Difficulty) : d.scoreFactor.value? = some d.share := by
  cases d
  all_goals
    change some _ = some _
    congr 1
    simp only [Binary64.signed, share]
    norm_num

/-- No share is **negative**. -/
theorem share_nonneg (d : Difficulty) : 0 ≤ d.share := by
  cases d
  all_goals
    rw [share]
    norm_num

/-- The **points** that a base is worth, computed in the rationals. -/
def exactPoints (d : Difficulty) (base : Int) : Int :=
  round ((base : ℚ) * d.share)

/-- Up to the limit the share of a base needs no more than **53 bits**. -/
theorem fits_mul_share (d : Difficulty) {base : Int} (hbase : 0 ≤ base)
    (hlimit : 3 * base ≤ 2 ^ 53) : Fits ((base : ℚ) * d.share) := by
  have hcast : (base.toNat : ℚ) = base := by exact_mod_cast Int.toNat_of_nonneg hbase
  cases d with
  | easy =>
    refine ⟨3 * base.toNat, -2, by omega, by decide, by decide, ?_⟩
    rw [share, Nat.cast_mul, hcast]
    norm_num
    ring
  | medium =>
    refine ⟨base.toNat, 0, by omega, by decide, by decide, ?_⟩
    rw [share, hcast, zpow_zero]
  | hard =>
    refine ⟨3 * base.toNat, -1, by omega, by decide, by decide, ?_⟩
    rw [share, Nat.cast_mul, hcast]
    norm_num
    ring

/-- A **greater** base is worth no fewer points. -/
theorem exactPoints_mono (d : Difficulty) {base base' : Int} (hle : base ≤ base') :
    d.exactPoints base ≤ d.exactPoints base' :=
  round_mono (mul_le_mul_of_nonneg_right (by exact_mod_cast hle) d.share_nonneg)

/-- Two awards are worth what **one award** of the sum is, up to one point. -/
theorem exactPoints_add (d : Difficulty) (a b : Int) :
    |d.exactPoints a + d.exactPoints b - d.exactPoints (a + b)| ≤ 1 := by
  have hsum : ((a + b : Int) : ℚ) * d.share = a * d.share + b * d.share := by
    push_cast
    ring
  rw [exactPoints, exactPoints, exactPoints, hsum]
  exact abs_round_add_sub_round_le _ _

/-- The points of a base within the limit are a **word** of 64 bits. -/
theorem exactPoints_range (d : Difficulty) {base : Int} (hbase : 0 ≤ base)
    (hlimit : 3 * base ≤ 2 ^ 53) : 0 ≤ d.exactPoints base ∧ d.exactPoints base ≤ 2 ^ 53 := by
  have hnonneg : (0 : ℚ) ≤ base := by exact_mod_cast hbase
  have hshare : d.share ≤ 3 := by
    cases d
    all_goals
      rw [share]
      norm_num
  have hle : (base : ℚ) * d.share ≤ (2 ^ 53 : Int) := by
    calc (base : ℚ) * d.share ≤ base * 3 := mul_le_mul_of_nonneg_left hshare hnonneg
      _ = (3 * base : Int) := by
          push_cast
          ring
      _ ≤ (2 ^ 53 : Int) := by exact_mod_cast hlimit
  constructor
  · have hmono := round_mono (mul_nonneg hnonneg d.share_nonneg)
    rwa [round_zero] at hmono
  · have hmono := round_mono hle
    rwa [round_intCast] at hmono

end Difficulty

variable {config : Config}

/-- Up to the limit points are **exact** where the session multiplies by one. -/
theorem pointsFor_of_le (hmultiplier : config.scoreMultiplier = .one) {base : Int64}
    (hbase : 0 ≤ base.toInt) (hlimit : 3 * base.toInt ≤ 2 ^ 53) :
    ∃ points : Int64, pointsFor base config = .ok points ∧
      points.toInt = config.difficulty.exactPoints base.toInt := by
  have hnonneg : (0 : ℚ) ≤ base.toInt := by exact_mod_cast hbase
  have hkept : (Binary64.ofInt base.toInt).value? = some (base.toInt : ℚ) :=
    Binary64.value?_ofInt (by omega)
  have hscaled (d : Difficulty) {x : Binary64} (hx : x.value? = some (base.toInt : ℚ)) :
      (x * d.scoreFactor).value? = some (base.toInt * d.share) := by
    refine Binary64.value?_mul hx d.value?_scoreFactor ?_
    rw [abs_of_nonneg (mul_nonneg hnonneg d.share_nonneg)]
    exact d.fits_mul_share hbase hlimit
  -- The multiplier of the session is that of the medium difficulty, which leaves all as it is.
  have honce : (Binary64.ofInt base.toInt * .one).value? = some (base.toInt : ℚ) :=
    (hscaled .medium hkept).trans (congrArg some (mul_one _))
  have hround := Binary64.roundWithin_eq (hscaled config.difficulty honce)
    (mul_nonneg hnonneg config.difficulty.share_nonneg) minInt64 maxInt64
  obtain ⟨hlow, hhigh⟩ := config.difficulty.exactPoints_range hbase hlimit
  rw [pointsFor, if_neg (Int.not_lt.2 hbase), hmultiplier]
  refine ⟨_, rfl, ?_⟩
  rw [hround]
  refine (toInt_ofIntSat64 (config.difficulty.exactPoints base.toInt)).trans ?_
  rw [clamp, minInt64, maxInt64]
  omega

/-- Up to the limit an award **adds** the exact points, as far as a word can hold the sum. -/
theorem award_of_le (hmultiplier : config.scoreMultiplier = .one) {base : Int64}
    (hbase : 0 ≤ base.toInt) (hlimit : 3 * base.toInt ≤ 2 ^ 53) (s : State) (now : Time.Instant) :
    ∃ after, award s base config now = .ok after ∧ after.score.toInt =
      clamp minInt64 maxInt64 (s.score.toInt + config.difficulty.exactPoints base.toInt) := by
  obtain ⟨points, score, hpoints, hscore, hdone⟩ := award_of_nonneg s config now hbase
  obtain ⟨exact, hexact, hvalue⟩ := pointsFor_of_le hmultiplier hbase hlimit
  obtain rfl : exact = points := Except.ok.inj (hexact.symm.trans hpoints)
  exact ⟨_, hdone, hscore.trans (by rw [hvalue])⟩

/-- **Points are exact up to the limit**, where the session multiplies by one. Whatever the
difficulty, a base of which three times fits 53 bits is worth its share, rounded to the nearest
integer, and a half is rounded up. So a greater base is worth no fewer points, and two awards come
to the same score as one award of the sum, up to one point, whether or not a score reaches the end
of its range. -/
theorem points_are_exact (config : Config) (hmultiplier : config.scoreMultiplier = .one) :
    (∀ base : Int64, 0 ≤ base.toInt → 3 * base.toInt ≤ 2 ^ 53 →
      ∃ points : Int64, pointsFor base config = .ok points ∧
        points.toInt = ⌊(base.toInt : ℚ) * config.difficulty.share + 1 / 2⌋) ∧
    (∀ base base' : Int64, 0 ≤ base.toInt → base ≤ base' → 3 * base'.toInt ≤ 2 ^ 53 →
      ∃ points points', pointsFor base config = .ok points ∧
        pointsFor base' config = .ok points' ∧ points ≤ points') ∧
    ∀ (s : State) (a b : Int64) (first second once : Time.Instant), 0 ≤ a.toInt → 0 ≤ b.toInt →
      3 * (a.toInt + b.toInt) ≤ 2 ^ 53 →
      ∃ between apart together, award s a config first = .ok between ∧
        award between b config second = .ok apart ∧
        award s (a + b) config once = .ok together ∧
        |apart.score.toInt - together.score.toInt| ≤ 1 := by
  refine ⟨fun base hbase hlimit => ?_, fun base base' hbase hle hlimit => ?_,
    fun s a b first second once ha hb hlimit => ?_⟩
  · obtain ⟨points, hpoints, hexact⟩ := pointsFor_of_le hmultiplier hbase hlimit
    exact ⟨points, hpoints, hexact.trans (round_eq _)⟩
  · have hle : base.toInt ≤ base'.toInt := Int64.le_iff_toInt_le.1 hle
    obtain ⟨points, hpoints, hexact⟩ := pointsFor_of_le hmultiplier hbase (by omega)
    obtain ⟨points', hpoints', hexact'⟩ := pointsFor_of_le hmultiplier (hbase.trans hle) hlimit
    refine ⟨points, points', hpoints, hpoints', Int64.le_iff_toInt_le.2 ?_⟩
    rw [hexact, hexact']
    exact config.difficulty.exactPoints_mono hle
  · have hsum : (a + b).toInt = a.toInt + b.toInt := by
      rw [Int64.toInt_add, Int.bmod_eq_of_le]
      · omega
      · omega
    obtain ⟨between, hfirst, hbetween⟩ := award_of_le hmultiplier ha (by omega) s first
    obtain ⟨apart, hsecond, hapart⟩ := award_of_le hmultiplier hb (by omega) between second
    have hnonneg : 0 ≤ (a + b).toInt := by omega
    obtain ⟨together, honce, htogether⟩ := award_of_le hmultiplier hnonneg (by omega) s once
    refine ⟨between, apart, together, hfirst, hsecond, honce, ?_⟩
    have hadd := abs_le.1 (config.difficulty.exactPoints_add a.toInt b.toInt)
    have hmore := (config.difficulty.exactPoints_range ha (by omega)).1
    have hrest := (config.difficulty.exactPoints_range hb (by omega)).1
    have hscore := s.score.le_toInt
    rw [hapart, hbetween, htogether, hsum, clamp, clamp, clamp, minInt64, maxInt64, abs_le]
    omega

/-- The last odd base within the limit, of which the hardest difficulty awards half a point more
than a whole number; and a score of which the second of two awards would leave the range. -/
theorem points_are_exact_at_limit :
    let config : Config := { difficulty := .hard }
    let base : Int64 := 3002399751580329
    let s : State := { State.opening "s" 100 .epoch with score := 9223372036854775806 }
    config.scoreMultiplier = .one ∧ 0 ≤ base.toInt ∧ 3 * base.toInt ≤ 2 ^ 53 ∧
      (∃ points : Int64, pointsFor base config = .ok points ∧ points.toInt = 4503599627370494) ∧
      ∃ between apart together, award s 1 config .epoch = .ok between ∧
        award between (base - 1) config .epoch = .ok apart ∧
        award s (1 + (base - 1)) config .epoch = .ok together ∧
        |apart.score.toInt - together.score.toInt| ≤ 1 := by
  intro config base s
  have hmultiplier : config.scoreMultiplier = .one := rfl
  have hbase : 0 ≤ base.toInt := by decide
  have hlimit : 3 * base.toInt ≤ 2 ^ 53 := by decide
  obtain ⟨hexact, -, hsplit⟩ := points_are_exact config hmultiplier
  obtain ⟨points, hpoints, hvalue⟩ := hexact base hbase hlimit
  have hfloor : ⌊(base.toInt : ℚ) * config.difficulty.share + 1 / 2⌋ = 4503599627370494 := by
    decide +kernel
  exact ⟨hmultiplier, hbase, hlimit, ⟨points, hpoints, hvalue.trans hfloor⟩,
    hsplit s 1 (base - 1) .epoch .epoch .epoch (by decide) (by decide) (by decide)⟩

end Guildkeep.Game
