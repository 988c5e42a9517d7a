import Guildkeep.Number.Binary64

/-!
# Signs of Results

Rounding keeps the sign, so a product is below zero only if a factor is, and a number that is not
below zero is not rounded to an integer below zero. A negative zero, an infinity and NaN are numbers
like all others here.

## Main results

* `isBelowZero_of_mul`: a product **below zero** has a factor below zero.
* `roundWithin_nonneg`: the nearest integer is below zero only for a number that is.
-/

namespace Guildkeep.Binary64

attribute [local instance (2000)] instPowNat instNatPowNat

/-- Whether a number is **below zero**, which neither a zero nor NaN is. -/
def isBelowZero : Binary64 → Bool
  | nan => false
  | inf s => s
  | finite s m _ _ => s && m ≠ 0

/-- Rounding a significand keeps the **sign**. -/
theorem isNegative_ofRounded (negative : Bool) (m : Nat) (q : Int) :
    (ofRounded negative m q).isNegative = negative := by
  rw [ofRounded]
  split
  · split <;> rfl
  · split <;> rfl

/-- Rounding keeps the **sign**. -/
theorem isNegative_ofRatio (negative : Bool) (num den : Nat) :
    (ofRatio negative num den).isNegative = negative := by
  rw [ofRatio]
  split
  · rfl
  · exact isNegative_ofRounded ..

/-- What is below zero has a **sign**. -/
theorem isNegative_of_isBelowZero {x : Binary64} (h : x.isBelowZero = true) :
    x.isNegative = true := by
  cases x with
  | nan => exact h
  | inf s => exact h
  | finite s m q canonical => exact (Bool.and_eq_true_iff.1 h).1

/-- A ratio is rounded to a number below zero only if it **is below zero**. -/
theorem of_isBelowZero_ofRatio {negative : Bool} {num den : Nat}
    (h : (ofRatio negative num den).isBelowZero = true) : negative = true ∧ num ≠ 0 := by
  constructor
  · rw [← isNegative_ofRatio negative num den]
    exact isNegative_of_isBelowZero h
  · rintro rfl
    rw [ofRatio, if_pos rfl] at h
    simp [isBelowZero] at h

/-- Only a negative integer is **below zero**. -/
theorem neg_of_isBelowZero_ofInt {i : Int} (h : (ofInt i).isBelowZero = true) : i < 0 :=
  of_decide_eq_true (of_isBelowZero_ofRatio h).1

/-- A product **below zero** has a factor below zero. -/
theorem isBelowZero_of_mul {x y : Binary64} (h : (x * y).isBelowZero = true) :
    x.isBelowZero = true ∨ y.isBelowZero = true := by
  change (mul x y).isBelowZero = true at h
  -- Where neither factor is NaN the sign of the product is that of exactly one of them.
  cases x with
  | nan => cases h
  | inf s =>
    cases y with
    | nan => cases h
    | inf t => cases s <;> cases t <;> simp_all [mul, isBelowZero]
    | finite t n q hn =>
      rw [mul] at h
      split at h
      · cases h
      · cases s <;> cases t <;> simp_all [isBelowZero]
  | finite s m p hm =>
    cases y with
    | nan => cases h
    | inf t =>
      rw [mul] at h
      split at h
      · cases h
      · cases s <;> cases t <;> simp_all [isBelowZero]
    | finite t n q hn =>
      rw [mul, ofDyadic] at h
      obtain ⟨hsign, hnum⟩ := of_isBelowZero_ofRatio h
      have hm : m ≠ 0 := by rintro rfl; simp at hnum
      have hn : n ≠ 0 := by rintro rfl; simp at hnum
      cases s <;> cases t <;> simp_all [isBelowZero]

/-- Zero is **not rounded**. -/
theorem roundHalfUp_zero {den : Nat} (hden : 0 < den) : roundHalfUp 0 den = 0 := by
  rw [roundHalfUp]
  exact Nat.div_eq_of_lt (by omega)

/-- The **nearest integer** is below zero only for a number that is. -/
theorem roundWithin_nonneg {lo hi : Int} (hhi : 0 ≤ hi) {x : Binary64}
    (h : x.isBelowZero = false) : 0 ≤ x.roundWithin lo hi := by
  cases x with
  | nan => exact Int.le_refl 0
  | inf s =>
    obtain rfl : s = false := h
    exact hhi
  | finite s m q canonical =>
    have hrounded : 0 ≤ signed s (roundHalfUp (m * 2 ^ q.toNat) (denominator q)) := by
      cases s with
      | false => exact Int.natCast_nonneg _
      | true =>
        obtain rfl : m = 0 := by simpa [isBelowZero] using h
        have hden : 0 < denominator q := Nat.pow_pos (by decide)
        rw [Nat.zero_mul, roundHalfUp_zero hden]
        decide
    rw [roundWithin, clamp]
    omega

/-- The nearest integer is moved into the range that is **asked for**. -/
theorem roundWithin_le {lo hi : Int} (hlo : lo ≤ hi) (hhi : 0 ≤ hi) (x : Binary64) :
    x.roundWithin lo hi ≤ hi := by
  cases x with
  | nan => exact hhi
  | inf s =>
    cases s with
    | false => exact Int.le_refl hi
    | true => exact hlo
  | finite s m q canonical =>
    rw [roundWithin, clamp]
    omega

end Guildkeep.Binary64
