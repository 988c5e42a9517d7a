import Guildkeep.Number.Format
import Guildkeep.Proofs.Number.Exact
import Guildkeep.Proofs.Text.Digits

/-!
# Hundredths

What it is to write a number with two places: the hundredths that are written are the nearest there
are, and of two that are equally near they are the even ones. A quotient that can be written with 53
bits is the quotient of the values, so nothing is lost before it is written.

## Main results

* `roundHalfEven_nearest`: a quotient is rounded to the **nearest** natural number, ties to even.
* `IsNearestEven.mono`: of a larger number there are **no fewer** to the nearest.
* `value?_div`: a quotient that can be written with 53 bits is the **quotient of the values**.
* `twoPlaces_eq`: a number with two places shows its **hundredths**.
-/

namespace Guildkeep.Binary64

open Text

attribute [local instance (2000)] instPowNat instNatPowNat

/-! ### The nearest natural number -/

/-- The natural number **nearest** to a number; of two that are equally near, the even one. -/
structure IsNearestEven (r : ℚ) (n : Nat) : Prop where
  near : |r - n| ≤ 1 / 2
  even_of_tie : |r - n| = 1 / 2 → Even n

/-- Whether a quotient is nearest to a natural number can be told **without dividing**. -/
theorem isNearestEven_div {num den n : Nat} (hden : 0 < den)
    (hlow : 2 * (n * den) ≤ 2 * num + den) (hhigh : 2 * num ≤ 2 * (n * den) + den)
    (heven : 2 * (n * den) = 2 * num + den ∨ 2 * num = 2 * (n * den) + den → Even n) :
    IsNearestEven ((num : ℚ) / den) n := by
  have hpos : (0 : ℚ) < den := by exact_mod_cast hden
  have hlow' : (2 : ℚ) * (n * den) ≤ 2 * num + den := by exact_mod_cast hlow
  have hhigh' : (2 : ℚ) * num ≤ 2 * (n * den) + den := by exact_mod_cast hhigh
  constructor
  · have hbelow : (n : ℚ) - 1 / 2 ≤ num / den := (le_div_iff₀ hpos).2 (by linarith)
    have habove : (num : ℚ) / den ≤ n + 1 / 2 := (div_le_iff₀ hpos).2 (by linarith)
    exact abs_le.2 ⟨by linarith, by linarith⟩
  · intro htie
    apply heven
    rcases (abs_eq (by norm_num)).1 htie with htie | htie
    · right
      have hnum : (num : ℚ) = (n + 1 / 2) * den := (div_eq_iff hpos.ne').1 (by linarith)
      have hcross : (2 : ℚ) * num = 2 * (n * den) + den := by linarith
      exact_mod_cast hcross
    · left
      have hnum : (num : ℚ) = (n - 1 / 2) * den := (div_eq_iff hpos.ne').1 (by linarith)
      have hcross : (2 : ℚ) * (n * den) = 2 * num + den := by linarith
      exact_mod_cast hcross

/-- A quotient is rounded to the **nearest** natural number, ties to even. -/
theorem roundHalfEven_nearest (num : Nat) {den : Nat} (hden : 0 < den) :
    IsNearestEven ((num : ℚ) / den) (roundHalfEven num den) := by
  have hsplit : num / den * den + num % den = num := Nat.div_add_mod' num den
  have hrest : num % den < den := Nat.mod_lt num hden
  have hnext : (num / den + 1) * den = num / den * den + den := Nat.succ_mul _ _
  rw [roundHalfEven]
  split
  case isTrue => exact isNearestEven_div hden (by omega) (by omega) (by omega)
  case isFalse =>
    split
    case isTrue => exact isNearestEven_div hden (by omega) (by omega) (by omega)
    case isFalse =>
      -- The quotient lies half way between two natural numbers.
      split
      case isTrue heven =>
        exact isNearestEven_div hden (by omega) (by omega) fun _ => Nat.even_iff.2 heven
      case isFalse hodd =>
        exact isNearestEven_div hden (by omega) (by omega) fun _ => Nat.even_iff.2 (by omega)

/-- Of a **larger** number there are no fewer to the nearest. -/
theorem IsNearestEven.mono {r t : ℚ} {m n : Nat} (hr : IsNearestEven r m) (ht : IsNearestEven t n)
    (h : r ≤ t) : m ≤ n := by
  by_contra hlt
  have hstep : (n : ℚ) + 1 ≤ m := by exact_mod_cast Nat.lt_of_not_le hlt
  obtain ⟨hrlow, hrhigh⟩ := abs_le.1 hr.near
  obtain ⟨htlow, hthigh⟩ := abs_le.1 ht.near
  -- Only a tie is near to both, and of the two neighbours one is odd.
  have hm : Even m := hr.even_of_tie (by rw [abs_of_nonpos] <;> linarith)
  have hn : Even n := ht.even_of_tie (by rw [abs_of_nonneg] <;> linarith)
  have hnext : m = n + 1 := by
    have : (m : ℚ) = n + 1 := by linarith
    exact_mod_cast this
  rw [hnext] at hm
  exact Nat.not_even_iff_odd.2 hn.add_one hm

/-! ### Quotients -/

/-- The signs of a quotient **divide**. -/
theorem signed_div (s t : Bool) (m n : Nat) :
    ((signed (s != t) m : Int) : ℚ) / n = (signed s m : Int) / (signed t n : Int) := by
  cases s <;> cases t <;> simp [signed, neg_div, div_neg]

/-- A quotient that fits is the **quotient of the values**. -/
theorem value?_div {x y : Binary64} {r t : ℚ} (hx : x.value? = some r) (hy : y.value? = some t)
    (ht : t ≠ 0) (h : Fits |r / t|) : (x / y).value? = some (r / t) := by
  cases x with
  | nan | inf => cases hx
  | finite s m p hm =>
    cases y with
    | nan | inf => cases hy
    | finite u n q hn =>
      obtain rfl := Option.some.inj hx
      obtain rfl := Option.some.inj hy
      have hn0 : n ≠ 0 := by
        rintro rfl
        refine ht ?_
        cases u <;> simp [signed]
      have hscale : (2 : ℚ) ^ p / 2 ^ q = 2 ^ (p - q).toNat / 2 ^ (q - p).toNat := by
        rw [← zpow_sub₀ (by norm_num), two_zpow_eq, neg_sub]
      have hquotient (a b : ℚ) : a * 2 ^ p / (b * 2 ^ q) =
          a * 2 ^ (p - q).toNat / (b * 2 ^ (q - p).toNat) := by
        rw [mul_div_mul_comm, hscale, ← mul_div_mul_comm]
      have hden : 0 < n * 2 ^ (q - p).toNat :=
        Nat.mul_pos (Nat.pos_of_ne_zero hn0) (Nat.pow_pos (by decide))
      have hratio : ((m * 2 ^ (p - q).toNat : Nat) : ℚ) / (n * 2 ^ (q - p).toNat : Nat) =
          |((signed s m : Int) : ℚ) * 2 ^ p / ((signed u n : Int) * 2 ^ q)| := by
        rw [abs_div, abs_mul, abs_mul, abs_signed, abs_signed,
          abs_of_pos (by positivity : (0 : ℚ) < 2 ^ p),
          abs_of_pos (by positivity : (0 : ℚ) < 2 ^ q), hquotient]
        push_cast
        rfl
      rw [← hratio] at h
      change (div (finite s m p hm) (finite u n q hn)).value? = _
      rw [div, if_neg hn0, value?_ofRatio hden h, signed_mul, hquotient, mul_div_mul_comm]
      push_cast
      rw [mul_div_mul_comm, signed_div]

/-! ### Two places -/

/-- A number with two places shows its **hundredths**: the nearest there are, ties to even. -/
theorem twoPlaces_eq {x : Binary64} {r : ℚ} (hx : x.value? = some r) (hr : 0 < r) :
    ∃ n, IsNearestEven (100 * r) n ∧
      x.twoPlaces = String.ofList (natDigits (n / 100) ++ '.' :: lastDigits 2 n) := by
  cases x with
  | nan | inf => cases hx
  | finite s m q hm =>
    obtain rfl := Option.some.inj hx
    cases s with
    | true =>
      have hneg : ((signed true m : Int) : ℚ) * 2 ^ q ≤ 0 :=
        mul_nonpos_of_nonpos_of_nonneg (by simp [signed]) (by positivity)
      exact absurd hr (not_lt.2 hneg)
    | false =>
      refine ⟨roundHalfEven (100 * (m * 2 ^ q.toNat)) (denominator q), ?_, rfl⟩
      have hnearest := roundHalfEven_nearest (100 * (m * 2 ^ q.toNat)) (denominator_pos q)
      rw [Nat.cast_mul, mul_div_assoc, ratio_eq_value] at hnearest
      exact hnearest

end Guildkeep.Binary64
