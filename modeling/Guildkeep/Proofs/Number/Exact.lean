import Guildkeep.Proofs.Number.Rounding
import Mathlib.Algebra.Order.Round

/-!
# Exact Results

Rounding changes nothing where there is nothing to round: a rational number that can be written with
53 bits is its own nearest number. So as long as a computation stays among such numbers, it is the
computation in the rationals, and what it is rounded to at its end can be told from the exact value.

## Main results

* `value?_ofInt`: a whole number of up to 53 bits is **kept**.
* `value?_mul`: a product that can be written with 53 bits is the **product of the values**.
* `ceilWithin_eq`, `roundWithin_eq`: the integers that a number is rounded to are those of its
  value.
-/

namespace Guildkeep.Binary64

attribute [local instance (2000)] instPowNat instNatPowNat

/-- The **value** of a finite number. An infinity has none, and neither has NaN. -/
def value? : Binary64 → Option ℚ
  | finite s m q _ => some ((signed s m : Int) * 2 ^ q)
  | _ => none

/-- Whether a magnitude can be written with **53 bits** at a place that there is. -/
def Fits (r : ℚ) : Prop :=
  ∃ (m : Nat) (q : Int), m < 2 ^ (53 : Nat) ∧ -1074 ≤ q ∧ q ≤ 971 ∧ r = m * 2 ^ q

/-! ### Signs -/

/-- A factor can be taken out **of the sign**. -/
theorem signed_mul (s : Bool) (m c : Nat) : signed s (m * c) = signed s m * c := by
  cases s with
  | false => exact Int.natCast_mul m c
  | true => exact (congrArg Neg.neg (Int.natCast_mul m c)).trans (Int.neg_mul _ _).symm

/-- The signs of a product **multiply**. -/
theorem signed_bne (s t : Bool) (m n : Nat) :
    signed (s != t) (m * n) = signed s m * signed t n := by
  cases s <;> cases t <;> simp [signed]

/-- The magnitude does **not depend** on the sign. -/
theorem abs_signed (s : Bool) (m : Nat) : |((signed s m : Int) : ℚ)| = m := by
  cases s <;> simp [signed]

/-- An integer is its **sign and magnitude**. -/
theorem signed_natAbs (i : Int) : signed (i < 0) i.natAbs = i := by
  rw [signed]
  split
  case isTrue hneg =>
    have hneg : i < 0 := of_decide_eq_true hneg
    omega
  case isFalse hnonneg =>
    have hnonneg : ¬ i < 0 := fun hneg => hnonneg (decide_eq_true hneg)
    omega

/-! ### Numbers that are not rounded -/

/-- Whatever fits has a **canonical form**. -/
theorem Fits.exists_canonical {r : ℚ} (h : Fits r) :
    ∃ (m : Nat) (q : Int), Canonical m q ∧ r = m * 2 ^ q := by
  obtain ⟨m, q, hm, hlow, hhigh, rfl⟩ := h
  -- The significand is doubled until its first bit is in use or the last place is reached.
  obtain ⟨n, rfl⟩ : ∃ n : Nat, q = -1074 + n := ⟨(q + 1074).toNat, by omega⟩
  induction n generalizing m with
  | zero => exact ⟨m, _, ⟨hm, hlow, hhigh, .inr rfl⟩, rfl⟩
  | succ n ih =>
    by_cases hbig : 2 ^ (52 : Nat) ≤ m
    · exact ⟨m, _, ⟨hm, hlow, hhigh, .inl hbig⟩, rfl⟩
    · obtain ⟨m', q', hcanonical, hvalue⟩ := ih (2 * m) (by omega) (by omega) (by omega)
      refine ⟨m', q', hcanonical, ?_⟩
      have hplace : (-1074 + (n + 1 : Nat) : Int) = -1074 + n + 1 := by omega
      rw [← hvalue, hplace, zpow_add_one₀ (by norm_num)]
      push_cast
      ring

/-- A ratio that fits is **not changed** by rounding. -/
theorem value?_ofRatio {negative : Bool} {num den : Nat} (hden : 0 < den)
    (h : Fits ((num : ℚ) / den)) :
    (ofRatio negative num den).value? = some (((signed negative num : Int) : ℚ) / den) := by
  obtain ⟨m, q, hcanonical, hvalue⟩ := h.exists_canonical
  have hsame : num * denominator q = m * 2 ^ q.toNat * den := by
    have hden' : (den : ℚ) ≠ 0 := by exact_mod_cast hden.ne'
    have hplace : ((denominator q : Nat) : ℚ) ≠ 0 := by exact_mod_cast (denominator_pos q).ne'
    have hcross := hvalue
    rw [← ratio_eq_value, div_eq_div_iff hden' hplace] at hcross
    exact_mod_cast hcross
  rw [ofRatio_congr negative hden (denominator_pos q) hsame, ofRatio_canonical negative hcanonical,
    value?]
  congr 1
  cases negative with
  | false => exact hvalue.symm
  | true =>
    simp only [signed, if_true, Int.cast_neg, Int.cast_natCast]
    rw [neg_div, hvalue, neg_mul]

/-- A whole number of up to 53 bits is **kept**. -/
theorem value?_ofInt {i : Int} (h : i.natAbs < 2 ^ (53 : Nat)) :
    (ofInt i).value? = some (i : ℚ) := by
  have hfits : Fits ((i.natAbs : ℚ) / (1 : Nat)) :=
    ⟨i.natAbs, 0, h, by decide, by decide, by simp⟩
  rw [ofInt, value?_ofRatio Nat.one_pos hfits, signed_natAbs, Nat.cast_one, div_one]

/-- A product that fits is the **product of the values**. -/
theorem value?_mul {x y : Binary64} {r t : ℚ} (hx : x.value? = some r) (hy : y.value? = some t)
    (h : Fits |r * t|) : (x * y).value? = some (r * t) := by
  cases x with
  | nan | inf => cases hx
  | finite s m p hm =>
    cases y with
    | nan | inf => cases hy
    | finite u n q hn =>
      obtain rfl := Option.some.inj hx
      obtain rfl := Option.some.inj hy
      have hscale : ((2 ^ (p + q).toNat : Nat) : ℚ) / (2 ^ (-(p + q)).toNat : Nat) =
          2 ^ p * 2 ^ q := by
        rw [← zpow_add₀ (by norm_num), two_zpow_eq]
        push_cast
        rfl
      have hratio : ((m * n * 2 ^ (p + q).toNat : Nat) : ℚ) / (2 ^ (-(p + q)).toNat : Nat) =
          |((signed s m : Int) : ℚ) * 2 ^ p * ((signed u n : Int) * 2 ^ q)| := by
        rw [Nat.cast_mul, mul_div_assoc, hscale, mul_mul_mul_comm, ← Int.cast_mul, ← signed_bne,
          abs_mul, abs_signed, abs_of_pos (by positivity : (0 : ℚ) < 2 ^ p * 2 ^ q)]
      rw [← hratio] at h
      change (ofDyadic (s != u) (m * n) (p + q)).value? = _
      rw [ofDyadic, value?_ofRatio (Nat.pow_pos (by decide)) h, signed_mul, signed_bne,
        Int.cast_mul, Int.cast_natCast, mul_div_assoc, hscale, Int.cast_mul, mul_mul_mul_comm]

/-! ### To integers -/

/-- The numerator over the denominator is the **value**. -/
theorem numerator_div_denominator (s : Bool) (m : Nat) (q : Int) :
    ((numerator s m q : Int) : ℚ) / (denominator q : Nat) = (signed s m : Int) * 2 ^ q := by
  rw [numerator, denominator, signed_mul, two_zpow_eq]
  push_cast
  ring

/-- A number is rounded **up** as its value is. -/
theorem ceilWithin_eq {x : Binary64} {r : ℚ} (hx : x.value? = some r) (lo hi : Int) :
    x.ceilWithin lo hi = clamp lo hi ⌈r⌉ := by
  cases x with
  | nan | inf => cases hx
  | finite s m q canonical =>
    obtain rfl := Option.some.inj hx
    rw [ceilWithin, ← numerator_div_denominator, Rat.ceil_intCast_div_natCast]

/-- A quotient of natural numbers is rounded to the **nearest** one. -/
theorem roundHalfUp_eq {num den : Nat} (hden : 0 < den) :
    (roundHalfUp num den : Int) = round ((num : ℚ) / den) := by
  have hden' : (den : ℚ) ≠ 0 := by exact_mod_cast hden.ne'
  have hsum : (num : ℚ) / den + 1 / 2 = ((2 * num + den : Nat) : Int) / (2 * den : Nat) := by
    push_cast
    field_simp
  rw [round_eq, hsum, Rat.floor_intCast_div_natCast, roundHalfUp]
  exact Int.natCast_ediv _ _

/-- A number that is not below zero is rounded to the **nearest** integer as its value is. -/
theorem roundWithin_eq {x : Binary64} {r : ℚ} (hx : x.value? = some r) (hr : 0 ≤ r) (lo hi : Int) :
    x.roundWithin lo hi = clamp lo hi (round r) := by
  cases x with
  | nan | inf => cases hx
  | finite s m q canonical =>
    obtain rfl := Option.some.inj hx
    have hround : (roundHalfUp (m * 2 ^ q.toNat) (denominator q) : Int) =
        round (((m * 2 ^ q.toNat : Nat) : ℚ) / denominator q) :=
      roundHalfUp_eq (denominator_pos q)
    rw [ratio_eq_value] at hround
    cases s with
    | false => exact congrArg (clamp lo hi) hround
    | true =>
      -- Below zero only the zero is not negative.
      have hm : (m : ℚ) ≤ 0 := by
        have hneg : 0 ≤ -((m : ℚ) * 2 ^ q) := by simpa [signed] using hr
        exact nonpos_of_mul_nonpos_left (neg_nonneg.1 hneg) (by positivity)
      obtain rfl : m = 0 := Nat.le_zero.1 (by exact_mod_cast hm)
      simp only [Nat.cast_zero, zero_mul, round_zero] at hround
      simp [roundWithin, signed, hround]

end Guildkeep.Binary64
