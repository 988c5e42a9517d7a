import Guildkeep.Number.Shortest
import Mathlib.Algebra.Order.Field.Power
import Mathlib.Data.Int.Log
import Mathlib.Data.Rat.Floor
import Mathlib.Tactic.FieldSimp
import Mathlib.Tactic.Positivity
import Mathlib.Tactic.Ring

/-!
# Rounding a Ratio

Rounding to binary64 starts from a numerator and a denominator, and a decimal may be written with
more or fewer zeros. This module shows that none of that matters: what is rounded is the ratio.

## Main results

* `lastPlace_eq`: the last place is the binary logarithm of the ratio, less 52, and at least -1074.
* `ofRatio_congr`: equal ratios are rounded to the same number.
* `ofRatio_canonical`: a number in canonical form is rounded to itself.
* `isFinite_ofRatio`: a ratio that is not too large is rounded to a finite number.
* `ofDecimal_shift`: trailing zeros of a decimal do not change the number that it reads as.
* `ofDecimal_shortest_eq`: **the shortest decimal reads back**, for every finite number.
-/

namespace Guildkeep.Binary64

attribute [local instance (2000)] instPowNat instNatPowNat

/-! ### The last place -/

/-- A power of two with an integer exponent, as a quotient of two powers of which one is one. -/
theorem two_zpow_eq (q : Int) : (2 : ℚ) ^ q = 2 ^ q.toNat / 2 ^ (-q).toNat := by
  rw [← zpow_natCast, ← zpow_natCast, ← zpow_sub₀ (by norm_num)]
  congr 1
  omega

/-- Scaling divides the ratio by a power of two. -/
theorem scaled_ratio (num den : Nat) (q : Int) :
    ((scaled num den q).1 : ℚ) / (scaled num den q).2 = (num : ℚ) / den / 2 ^ q := by
  simp only [scaled, two_zpow_eq]
  push_cast
  field_simp

/-- Scaling keeps the denominator **positive**. -/
theorem scaled_den_pos {num den : Nat} (hden : 0 < den) (q : Int) : 0 < (scaled num den q).2 :=
  Nat.mul_pos hden (Nat.pow_pos (by decide))

/-- Two powers of two around a ratio fix its binary logarithm. -/
theorem log_eq_of_between {r : ℚ} (hr : 0 < r) {k : Int} (hlo : (2 : ℚ) ^ k ≤ r)
    (hhi : r < (2 : ℚ) ^ (k + 1)) : Int.log 2 r = k := by
  have h1 := (Int.zpow_le_iff_le_log (b := 2) (by decide) hr).mp (by exact_mod_cast hlo)
  have h2 := (Int.lt_zpow_iff_log_lt (b := 2) (by decide) hr).mp (by exact_mod_cast hhi)
  omega

/-- The bit lengths of numerator and denominator fix the logarithm of the ratio up to one. -/
theorem ratio_between {num den : Nat} (hnum : 0 < num) (hden : 0 < den) :
    (2 : ℚ) ^ ((num.log2 : Int) - den.log2 - 1) < (num : ℚ) / den ∧
      (num : ℚ) / den < (2 : ℚ) ^ ((num.log2 : Int) - den.log2 + 1) := by
  have hden' : (0 : ℚ) < den := by exact_mod_cast hden
  have hlo : (2 : ℚ) ^ num.log2 ≤ num := by exact_mod_cast Nat.log2_self_le hnum.ne'
  have hhi : (num : ℚ) < 2 ^ (num.log2 + 1) := by exact_mod_cast Nat.lt_log2_self
  have hlo' : (2 : ℚ) ^ den.log2 ≤ den := by exact_mod_cast Nat.log2_self_le hden.ne'
  have hhi' : (den : ℚ) < 2 ^ (den.log2 + 1) := by exact_mod_cast Nat.lt_log2_self
  constructor
  · rw [lt_div_iff₀ hden']
    calc (2 : ℚ) ^ ((num.log2 : Int) - den.log2 - 1) * den
        < (2 : ℚ) ^ ((num.log2 : Int) - den.log2 - 1) * 2 ^ (den.log2 + 1) := by gcongr
      _ = 2 ^ num.log2 := by
          rw [← zpow_natCast, ← zpow_natCast, ← zpow_add₀ (by norm_num)]
          congr 1
          push_cast
          ring
      _ ≤ num := hlo
  · rw [div_lt_iff₀ hden']
    calc (num : ℚ) < 2 ^ (num.log2 + 1) := hhi
      _ = (2 : ℚ) ^ ((num.log2 : Int) - den.log2 + 1) * 2 ^ den.log2 := by
          rw [← zpow_natCast, ← zpow_natCast, ← zpow_add₀ (by norm_num)]
          congr 1
          push_cast
          ring
      _ ≤ (2 : ℚ) ^ ((num.log2 : Int) - den.log2 + 1) * den := by gcongr

/-- The **last place** is the binary logarithm of the ratio, less 52, and at least -1074. -/
theorem lastPlace_eq {num den : Nat} (hnum : 0 < num) (hden : 0 < den) :
    lastPlace num den = max (-1074) (Int.log 2 ((num : ℚ) / den) - 52) := by
  have hr : (0 : ℚ) < (num : ℚ) / den := by positivity
  obtain ⟨hlo, hhi⟩ := ratio_between hnum hden
  set k : Int := (num.log2 : Int) - den.log2 with hk
  have hd : (0 : ℚ) < (scaled num den k).2 := by exact_mod_cast scaled_den_pos hden k
  have hlt : (scaled num den k).1 < (scaled num den k).2 ↔ (num : ℚ) / den < 2 ^ k := by
    rw [← div_lt_one (b := (2 : ℚ) ^ k) (by positivity), ← scaled_ratio, div_lt_one hd]
    exact_mod_cast Iff.rfl
  simp only [lastPlace, ← hk]
  by_cases h : (scaled num den k).1 < (scaled num den k).2
  · rw [if_pos h, log_eq_of_between hr hlo.le (by simpa using hlt.mp h)]
    congr 1
    ring
  · rw [if_neg h, log_eq_of_between hr (not_lt.mp (mt hlt.mpr h)) hhi]

/-! ### Equal ratios -/

/-- A common factor does not change what a quotient is rounded to. -/
theorem roundHalfEven_mul_right (num den : Nat) {c : Nat} (hc : 0 < c) :
    roundHalfEven (num * c) (den * c) = roundHalfEven num den := by
  have hrest : 2 * (num * c % (den * c)) = 2 * (num % den) * c := by
    rw [Nat.mul_mod_mul_right, Nat.mul_assoc]
  simp only [roundHalfEven, Nat.mul_div_mul_right _ _ hc, hrest, Nat.mul_lt_mul_right hc]

/-- Equal quotients are rounded alike. -/
theorem roundHalfEven_congr {num den num' den' : Nat} (hden : 0 < den) (hden' : 0 < den')
    (h : num * den' = num' * den) : roundHalfEven num den = roundHalfEven num' den' := by
  rw [← roundHalfEven_mul_right num den hden', ← roundHalfEven_mul_right num' den' hden, h,
    Nat.mul_comm den den']

/-- **Equal ratios** are rounded to the same number. -/
theorem ofRatio_congr (negative : Bool) {num den num' den' : Nat} (hden : 0 < den)
    (hden' : 0 < den') (h : num * den' = num' * den) :
    ofRatio negative num den = ofRatio negative num' den' := by
  by_cases hzero : num = 0
  · subst hzero
    have hzero' : num' = 0 := by
      rw [Nat.zero_mul] at h
      exact (Nat.mul_eq_zero.mp h.symm).resolve_right hden.ne'
    rw [ofRatio, ofRatio, if_pos rfl, if_pos hzero']
  · have hnum' : num' ≠ 0 := by
      rintro rfl
      rw [Nat.zero_mul] at h
      exact hzero ((Nat.mul_eq_zero.mp h).resolve_right hden'.ne')
    have hq : (num : ℚ) / den = (num' : ℚ) / den' := by
      rw [div_eq_div_iff (by positivity) (by positivity)]
      exact_mod_cast h
    have hplace : lastPlace num den = lastPlace num' den' := by
      rw [lastPlace_eq (Nat.pos_of_ne_zero hzero) hden, lastPlace_eq (Nat.pos_of_ne_zero hnum')
        hden', hq]
    have hround (q : Int) : roundHalfEven (scaled num den q).1 (scaled num den q).2 =
        roundHalfEven (scaled num' den' q).1 (scaled num' den' q).2 := by
      refine roundHalfEven_congr (scaled_den_pos hden q) (scaled_den_pos hden' q) ?_
      simp only [scaled]
      calc num * 2 ^ (-q).toNat * (den' * 2 ^ q.toNat)
          = num * den' * (2 ^ (-q).toNat * 2 ^ q.toNat) := by ring
        _ = num' * 2 ^ (-q).toNat * (den * 2 ^ q.toNat) := by rw [h]; ring
    rw [ofRatio, ofRatio, if_neg hzero, if_neg hnum']
    simp only [hplace, hround]

/-! ### Numbers in canonical form -/

/-- Every exponent has a **positive** denominator. -/
theorem denominator_pos (q : Int) : 0 < denominator q :=
  Nat.pow_pos (by decide)

/-- The ratio that stands for a number is its **value**. -/
theorem ratio_eq_value (m : Nat) (q : Int) :
    ((m * 2 ^ q.toNat : Nat) : ℚ) / (denominator q : Nat) = m * 2 ^ q := by
  rw [denominator, two_zpow_eq]
  push_cast
  ring

/-- Zero has the least exponent. -/
theorem exponent_of_canonical_zero {q : Int} (h : Canonical 0 q) : q = -1074 := by
  obtain ⟨-, -, -, hbig | hleast⟩ := h
  · omega
  · exact hleast

/-- The last place of a number in canonical form is its exponent. -/
theorem lastPlace_canonical {m : Nat} {q : Int} (h : Canonical m q) (hm : m ≠ 0) :
    lastPlace (m * 2 ^ q.toNat) (denominator q) = q := by
  obtain ⟨hlt, hlo, -, hbig⟩ := h
  have hpos : 0 < m := Nat.pos_of_ne_zero hm
  have hr : (0 : ℚ) < m * 2 ^ q := by positivity
  have htop : (m : ℚ) * 2 ^ q < 2 ^ (q + 53) := by
    rw [zpow_add₀ (by norm_num), mul_comm]
    gcongr
    exact_mod_cast hlt
  have hlog : Int.log 2 ((m : ℚ) * 2 ^ q) < q + 53 :=
    (Int.lt_zpow_iff_log_lt (b := 2) (by decide) hr).mp (by exact_mod_cast htop)
  rw [lastPlace_eq (Nat.mul_pos hpos (Nat.pow_pos (by decide))) (denominator_pos q),
    ratio_eq_value]
  rcases hbig with hbig | hleast
  · have hbottom : (2 : ℚ) ^ (q + 52) ≤ m * 2 ^ q := by
      rw [zpow_add₀ (by norm_num), mul_comm]
      gcongr
      exact_mod_cast hbig
    have := (Int.zpow_le_iff_le_log (b := 2) (by decide) hr).mp (by exact_mod_cast hbottom)
    omega
  · omega

/-- A number in **canonical form** is rounded to itself. -/
theorem ofRatio_canonical (negative : Bool) {m : Nat} {q : Int} (h : Canonical m q) :
    ofRatio negative (m * 2 ^ q.toNat) (denominator q) = finite negative m q h := by
  have hnext : m ≠ 2 ^ (53 : Nat) := h.1.ne
  by_cases hm : m = 0
  · subst hm
    obtain rfl := exponent_of_canonical_zero h
    rfl
  · have hexact : roundHalfEven (scaled (m * 2 ^ q.toNat) (denominator q) q).1
        (scaled (m * 2 ^ q.toNat) (denominator q) q).2 = m := by
      have hone : roundHalfEven m 1 = m := by
        rw [roundHalfEven_of_dvd Nat.one_pos (Nat.one_dvd m), Nat.div_one]
      refine (roundHalfEven_congr (scaled_den_pos (denominator_pos q) q) Nat.one_pos ?_).trans hone
      simp only [scaled, denominator]
      ring
    have hnum :
        m * 2 ^ q.toNat ≠ 0 := (Nat.mul_pos (Nat.pos_of_ne_zero hm) (Nat.pow_pos (by decide))).ne'
    rw [ofRatio, if_neg hnum]
    simp only [lastPlace_canonical h hm, hexact]
    rw [ofRounded, if_neg hnext, dif_pos h]

/-! ### Range -/

/-- A quotient below a number is rounded to **at most** that number. -/
theorem roundHalfEven_le {num den k : Nat} (hden : 0 < den) (h : num < k * den) :
    roundHalfEven num den ≤ k := by
  have hbelow : num / den < k := (Nat.div_lt_iff_lt_mul hden).2 h
  simp only [roundHalfEven]
  split_ifs <;> omega

/-- A quotient not below a number is rounded to **at least** that number. -/
theorem le_roundHalfEven {num den k : Nat} (hden : 0 < den) (h : k * den ≤ num) :
    k ≤ roundHalfEven num den := by
  have hbelow : k ≤ num / den := (Nat.le_div_iff_mul_le hden).2 h
  simp only [roundHalfEven]
  split_ifs <;> omega

/-- What is rounded has at most 53 bits, and all of them unless the last place is the least one. -/
theorem scaled_lastPlace {num den : Nat} (hnum : 0 < num) (hden : 0 < den) :
    (scaled num den (lastPlace num den)).1 <
        2 ^ (53 : Nat) * (scaled num den (lastPlace num den)).2 ∧
      (lastPlace num den = -1074 ∨ 2 ^ (52 : Nat) * (scaled num den (lastPlace num den)).2 ≤
        (scaled num den (lastPlace num den)).1) := by
  have hr : (0 : ℚ) < (num : ℚ) / den := by positivity
  have hplace := lastPlace_eq hnum hden
  generalize lastPlace num den = q at hplace ⊢
  have hd : (0 : ℚ) < (scaled num den q).2 := by exact_mod_cast scaled_den_pos hden q
  have hratio := scaled_ratio num den q
  have hlo := Int.zpow_log_le_self (b := 2) (by decide) hr
  have hhi := Int.lt_zpow_succ_log_self (b := 2) (by decide) ((num : ℚ) / den)
  push_cast at hlo hhi
  constructor
  · have htop : (num : ℚ) / den < 2 ^ (53 : Nat) * 2 ^ q := by
      refine hhi.trans_le ?_
      rw [← zpow_natCast, ← zpow_add₀ (by norm_num)]
      exact zpow_le_zpow_right₀ (by norm_num) (by push_cast; omega)
    rw [← div_lt_iff₀ (by positivity), ← hratio, div_lt_iff₀ hd] at htop
    exact_mod_cast htop
  · refine or_iff_not_imp_left.2 fun hleast => ?_
    have hbottom : 2 ^ (52 : Nat) * 2 ^ q ≤ (num : ℚ) / den := by
      refine le_trans ?_ hlo
      rw [← zpow_natCast, ← zpow_add₀ (by norm_num)]
      exact zpow_le_zpow_right₀ (by norm_num) (by push_cast; omega)
    rw [← le_div_iff₀ (by positivity), ← hratio, le_div_iff₀ hd] at hbottom
    exact_mod_cast hbottom

/-- **No overflow** below `2 ^ 1023`: such a ratio is rounded to a finite number. -/
theorem isFinite_ofRatio (negative : Bool) {num den e : Nat} (hden : 0 < den) (he : e ≤ 1023)
    (h : num < 2 ^ e * den) : (ofRatio negative num den).isFinite = true := by
  by_cases hzero : num = 0
  · rw [ofRatio, if_pos hzero]
    rfl
  have hnum : 0 < num := Nat.pos_of_ne_zero hzero
  obtain ⟨htop, hbottom⟩ := scaled_lastPlace hnum hden
  have hrange : -1074 ≤ lastPlace num den ∧ lastPlace num den ≤ 970 := by
    have hr : (0 : ℚ) < (num : ℚ) / den := by positivity
    have hsmall : (num : ℚ) / den < ((2 : Nat) : ℚ) ^ (e : Int) := by
      rw [div_lt_iff₀ (by positivity), zpow_natCast]
      exact_mod_cast h
    have hlog := (Int.lt_zpow_iff_log_lt (by decide) hr).1 hsmall
    rw [lastPlace_eq hnum hden]
    omega
  have hd : 0 < (scaled num den (lastPlace num den)).2 := scaled_den_pos hden _
  have hm := roundHalfEven_le hd htop
  have hfull := hbottom.imp_right (le_roundHalfEven hd)
  rw [ofRatio, if_neg hzero]
  simp only
  generalize roundHalfEven _ _ = m at hm hfull ⊢
  rw [ofRounded]
  split
  case isTrue hcarry =>
    have hcanonical : Canonical (2 ^ (52 : Nat)) (lastPlace num den + 1) :=
      ⟨by decide, by omega, by omega, .inl le_rfl⟩
    rw [dif_pos hcanonical]
    rfl
  case isFalse hcarry =>
    have hcanonical : Canonical m (lastPlace num den) :=
      ⟨by omega, by omega, by omega, hfull.symm⟩
    rw [dif_pos hcanonical]
    rfl

/-- A word of 64 bits, signed or not, is nearest to a **finite** number. -/
theorem isFinite_ofInt {i : Int} (h : i.natAbs < 2 ^ (64 : Nat)) : (ofInt i).isFinite = true :=
  isFinite_ofRatio _ Nat.one_pos (by decide : 64 ≤ 1023) (by rwa [Nat.mul_one])

/-- A sum is finite only if **both** terms are. -/
theorem isFinite_of_add {x y : Binary64} (h : (x + y).isFinite = true) :
    x.isFinite = true ∧ y.isFinite = true := by
  change (add x y).isFinite = true at h
  cases x with
  | nan => cases h
  | inf s =>
    cases y with
    | nan | finite => cases h
    | inf t =>
      rw [add] at h
      split at h
      all_goals cases h
  | finite =>
    cases y with
    | nan | inf => cases h
    | finite => exact ⟨rfl, rfl⟩

/-! ### Decimals -/

/-- A decimal without digits is **zero**. -/
theorem ofDecimal_zero (negative : Bool) (exponent : Int) :
    ofDecimal negative 0 exponent = finite negative 0 (-1074) (by decide) := by
  simp [ofDecimal, ofRatio]

/-- A decimal whose exponent is neither far above nor far below the range is rounded as a ratio. -/
theorem ofDecimal_eq_ofRatio (negative : Bool) {digits : Nat} {exponent : Int}
    (hdigits : digits ≠ 0)
    (hhi : exponent < 310) (hlo : -330 ≤ exponent + ((digits.log2 + 1) / 3 + 1 : Nat)) :
    ofDecimal negative digits exponent =
      ofRatio negative (digits * 10 ^ exponent.toNat) (10 ^ (-exponent).toNat) := by
  rw [ofDecimal, if_neg hdigits, if_neg (by omega), if_neg (by omega)]

/-- Every decimal place adds at least three bits. -/
theorem log2_add_le_log2_mul_pow {digits : Nat} (hdigits : digits ≠ 0) (k : Nat) :
    digits.log2 + 3 * k ≤ (digits * 10 ^ k).log2 := by
  have hne : digits * 10 ^ k ≠ 0 := Nat.mul_ne_zero hdigits (Nat.pow_pos (by decide)).ne'
  rw [Nat.le_log2 hne, Nat.pow_add, Nat.pow_mul]
  exact Nat.mul_le_mul (Nat.log2_self_le hdigits) (Nat.pow_le_pow_left (by decide) k)

/-- **Trailing zeros** of a decimal do not change the number that it reads as. -/
theorem ofDecimal_shift {negative : Bool} {digits m : Nat} {exponent q : Int} {h : Canonical m q}
    (hreads : ofDecimal negative digits exponent = finite negative m q h)
    (hm : digits ≠ 0 → m ≠ 0) (k : Nat) :
    ofDecimal negative (digits * 10 ^ k) (exponent - k) = finite negative m q h := by
  by_cases hdigits : digits = 0
  · subst hdigits
    rw [ofDecimal_zero] at hreads
    rw [Nat.zero_mul, ofDecimal_zero, hreads]
  · have hm := hm hdigits
    have hhi : exponent < 310 := by
      by_contra hhi
      rw [ofDecimal, if_neg hdigits, if_pos (by omega)] at hreads
      cases hreads
    have hlo : -330 ≤ exponent + ((digits.log2 + 1) / 3 + 1 : Nat) := by
      by_contra hlo
      rw [ofDecimal, if_neg hdigits, if_neg (by omega), if_pos (by omega), ofRatio,
        if_pos rfl] at hreads
      cases hreads
      exact hm rfl
    have hne : digits * 10 ^ k ≠ 0 := Nat.mul_ne_zero hdigits (Nat.pow_pos (by decide)).ne'
    have hbits := log2_add_le_log2_mul_pow hdigits k
    rw [← hreads, ofDecimal_eq_ofRatio negative hdigits hhi hlo,
      ofDecimal_eq_ofRatio negative hne (by omega) (by omega)]
    refine ofRatio_congr negative (Nat.pow_pos (by decide)) (Nat.pow_pos (by decide)) ?_
    have hexp : k + (exponent - k).toNat + (-exponent).toNat =
        exponent.toNat + (-(exponent - k)).toNat := by omega
    calc digits * 10 ^ k * 10 ^ (exponent - k).toNat * 10 ^ (-exponent).toNat
        = digits * 10 ^ (k + (exponent - k).toNat + (-exponent).toNat) := by ring
      _ = digits * 10 ^ exponent.toNat * 10 ^ (-(exponent - k)).toNat := by rw [hexp]; ring

/-- A power of five has more than two bits for each factor. -/
theorem le_log2_mul_pow_five {m : Nat} (hm : m ≠ 0) (k : Nat) : 9 * (k / 4) ≤ (m * 5 ^ k).log2 := by
  have hne : m * 5 ^ k ≠ 0 := Nat.mul_ne_zero hm (Nat.pow_pos (by decide)).ne'
  rw [Nat.le_log2 hne, Nat.pow_mul]
  calc (2 ^ 9) ^ (k / 4) ≤ (5 ^ 4) ^ (k / 4) := Nat.pow_le_pow_left (by decide) _
    _ = 5 ^ (4 * (k / 4)) := (Nat.pow_mul 5 4 (k / 4)).symm
    _ ≤ 5 ^ k := Nat.pow_le_pow_right (by decide) (Nat.mul_div_le k 4)
    _ ≤ m * 5 ^ k := Nat.le_mul_of_pos_left _ (Nat.pos_of_ne_zero hm)

/-- A number written out in full reads back. -/
theorem ofDecimal_expansion (negative : Bool) {m : Nat} {q : Int} (h : Canonical m q) (hm : m ≠ 0) :
    ofDecimal negative (expansion m q).digits (expansion m q).exponent = finite negative m q h := by
  have hpow {b : Nat} (hb : 0 < b) (k : Nat) : 0 < b ^ k := Nat.pow_pos hb
  have hlow : -1074 ≤ q := h.2.1
  rw [← ofRatio_canonical negative h, expansion]
  split
  · have hne : m * 2 ^ q.toNat ≠ 0 := Nat.mul_ne_zero hm (hpow (by decide) _).ne'
    change ofDecimal negative (m * 2 ^ q.toNat) 0 = _
    rw [ofDecimal_eq_ofRatio negative hne (by decide) (by omega)]
    refine ofRatio_congr negative (hpow (by decide) _) (denominator_pos q) ?_
    have hexp : (-q).toNat = 0 := by omega
    simp [denominator, hexp]
  · rename_i hq
    have hne : m * 5 ^ (-q).toNat ≠ 0 := Nat.mul_ne_zero hm (hpow (by decide) _).ne'
    have hbits := le_log2_mul_pow_five hm (-q).toNat
    change ofDecimal negative (m * 5 ^ (-q).toNat) q = _
    rw [ofDecimal_eq_ofRatio negative hne (by omega) (by omega)]
    refine ofRatio_congr negative (hpow (by decide) _) (denominator_pos q) ?_
    have hexp : q.toNat = 0 := by omega
    have hten : (10 : Nat) ^ (-q).toNat = 2 ^ (-q).toNat * 5 ^ (-q).toNat := by
      rw [← Nat.mul_pow]
    simp only [denominator, hexp, hten]
    ring

/-- **The shortest decimal reads back**, for every finite number. -/
theorem ofDecimal_shortest_eq (negative : Bool) {m : Nat} {q : Int} (h : Canonical m q) :
    ofDecimal negative (shortest negative m q h).digits (shortest negative m q h).exponent =
      finite negative m q h := by
  by_cases hm : m = 0
  · subst hm
    obtain rfl := exponent_of_canonical_zero h
    rfl
  · exact ofDecimal_shortest h (ofDecimal_expansion negative h hm)

/-- Only zero has no digits but zero. -/
theorem ne_zero_of_shortest_digits_ne_zero {negative : Bool} {m : Nat} {q : Int} (h : Canonical m q)
    (hdigits : (shortest negative m q h).digits ≠ 0) : m ≠ 0 := by
  rintro rfl
  simp [shortest] at hdigits

/-- The shortest decimal of zero has **no exponent**. -/
theorem shortest_digits_eq_zero {negative : Bool} {m : Nat} {q : Int} (h : Canonical m q)
    (hdigits : (shortest negative m q h).digits = 0) : (shortest negative m q h).exponent = 0 := by
  have hreads := ofDecimal_shortest_eq negative h
  rw [hdigits, ofDecimal_zero] at hreads
  cases hreads
  rfl

end Guildkeep.Binary64
