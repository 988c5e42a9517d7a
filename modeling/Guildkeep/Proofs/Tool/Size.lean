import Guildkeep.Proofs.Number.Hundredths
import Guildkeep.Tool.Size

/-!
# Sizes Are Correctly Rounded

The size that a reader sees is the size of the file: to the byte below a kilobyte, and to the
nearest hundredth of the unit above. Nothing is lost on the way through binary64, because every size
of up to 53 bits can be divided by either unit without rounding.

## Main results

* `inUnit_eq`: a size in a unit shows the **nearest hundredth**.
* `hundredths_injective`: no two numbers of hundredths are **shown alike**.
* `size_is_nearest_hundredth`: what is shown, for every size.
-/

namespace Guildkeep.Tool

open Binary64 (IsNearestEven)

/-- A number of **hundredths** before the name of a unit: a point, and two places after it. -/
def hundredths (n : Nat) (unit : String) : String :=
  toString (n / 100) ++ "." ++
    String.ofList [Nat.digitChar (n / 10 % 10), Nat.digitChar (n % 10)] ++ " " ++ unit

/-- The **unit** in which a size is shown, and its name. -/
inductive ShownIn (bytes : Nat) : Nat → String → Prop where
  | kilobytes (enough : 1024 ≤ bytes) (few : bytes < 1048576) : ShownIn bytes 1024 "KB"
  | megabytes (enough : 1048576 ≤ bytes) : ShownIn bytes 1048576 "MB"

/-- The digits of a number are those that it is **printed** with. -/
theorem nat_eq_toString (n : Nat) : Text.nat n = toString n :=
  Nat.repr_eq_ofList_toDigits.symm

/-- No two numbers of hundredths are **shown alike**. -/
theorem hundredths_injective {m n : Nat} {unit : String}
    (h : hundredths m unit = hundredths n unit) :
    m = n := by
  simp only [hundredths, String.append_left_inj] at h
  have hlists := congrArg String.toList h
  simp only [String.toList_append, String.toList_ofList] at hlists
  obtain ⟨hwhole, hplaces⟩ := List.append_inj' hlists rfl
  obtain ⟨hwhole, -⟩ := List.append_inj' hwhole rfl
  have hhundreds : m / 100 = n / 100 := by
    rw [← nat_eq_toString, ← nat_eq_toString] at hwhole
    exact Text.nat_injective (String.toList_injective hwhole)
  have hdigit {a b : Nat} (hab : Nat.digitChar (a % 10) = Nat.digitChar (b % 10)) :
      a % 10 = b % 10 := by
    rw [← Text.digitValue_digitChar (Nat.mod_lt a (by decide)), hab,
      Text.digitValue_digitChar (Nat.mod_lt b (by decide))]
  obtain ⟨htens, hones⟩ := List.cons_eq_cons.1 hplaces
  have htens := hdigit htens
  have hones := hdigit (List.cons_eq_cons.1 hones).1
  omega

/-- A size in a unit shows the **nearest hundredth**: dividing by a power of two loses nothing. -/
theorem inUnit_eq {bytes k : Nat} (hpos : 0 < bytes) (hbytes : bytes < 9007199254740992)
    (hk : k ≤ 20)
    (unit : String) :
    ∃ n, IsNearestEven (100 * (bytes / (2 ^ k : Nat))) n ∧
      inUnit bytes (2 ^ k) ++ " " ++ unit = hundredths n unit := by
  have hsmall : ((2 ^ k : Nat) : Int).natAbs < 9007199254740992 := by
    rw [Int.natAbs_natCast]
    exact lt_of_le_of_lt (Nat.pow_le_pow_right (by decide) hk) (by decide)
  have hfits : Binary64.Fits |((bytes : Int) : ℚ) / ((2 ^ k : Nat) : Int)| := by
    refine ⟨bytes, -k, hbytes, by omega, by omega, ?_⟩
    rw [abs_of_nonneg (by positivity), zpow_neg, zpow_natCast, div_eq_mul_inv]
    push_cast
    rfl
  have hvalue := Binary64.value?_div (Binary64.value?_ofInt (i := bytes) (by omega))
    (Binary64.value?_ofInt (i := (2 ^ k : Nat)) hsmall) (by positivity) hfits
  obtain ⟨n, hnearest, htext⟩ := Binary64.twoPlaces_eq hvalue (by positivity)
  simp only [Int.cast_natCast] at hnearest
  refine ⟨n, hnearest, ?_⟩
  rw [hundredths, ← nat_eq_toString, String.append_left_inj, String.append_left_inj, inUnit]
  apply String.toList_injective
  rw [htext]
  simp [Text.nat, Text.lastDigits]

/-- A size in its unit shows the **nearest hundredth**. -/
theorem sizeText_of_shownIn {bytes unit : Nat} {name : String} (h : ShownIn bytes unit name)
    (hbytes : bytes < 9007199254740992) :
    ∃ n, IsNearestEven (100 * (bytes / unit)) n ∧ sizeText bytes = hundredths n name := by
  cases h with
  | kilobytes enough few =>
    have hmega : ¬ megabyte ≤ bytes := Nat.not_le.2 few
    have hkilo : kilobyte ≤ bytes := enough
    obtain ⟨n, hnearest, htext⟩ := inUnit_eq (k := 10) (by omega) hbytes (by decide) "KB"
    refine ⟨n, hnearest, ?_⟩
    rw [sizeText, if_neg hmega, if_pos hkilo, ← htext, String.append_assoc]
    rfl
  | megabytes enough =>
    have hmega : megabyte ≤ bytes := enough
    obtain ⟨n, hnearest, htext⟩ := inUnit_eq (k := 20) (by omega) hbytes (by decide) "MB"
    refine ⟨n, hnearest, ?_⟩
    rw [sizeText, if_pos hmega, ← htext, String.append_assoc]
    rfl

/-- **Sizes are correctly rounded.** A size of fewer than 1024 bytes is shown as it is. Any other
size of up to 53 bits is shown in kilobytes, or from `2 ^ 20` bytes on in megabytes, with two
places: the hundredths are those nearest to the quotient, and of two equally near ones the even
number. So what is shown is within 0.005 of the quotient; and in one unit a larger size is never
shown as a smaller number. -/
theorem size_is_nearest_hundredth (bytes : Nat) (hbytes : bytes < 9007199254740992) :
    (bytes < 1024 → sizeText bytes = toString bytes ++ " B") ∧
    (1024 ≤ bytes → ∃ unit name, ShownIn bytes unit name) ∧
    ∀ unit name, ShownIn bytes unit name →
      (∃ n, sizeText bytes = hundredths n name ∧ IsNearestEven (100 * (bytes / unit)) n ∧
        |(n / 100 : ℚ) - bytes / unit| ≤ 5 / 1000) ∧
      ∀ more m n, bytes ≤ more → more < 9007199254740992 → ShownIn more unit name →
        sizeText bytes = hundredths m name → sizeText more = hundredths n name → m ≤ n := by
  refine ⟨fun hfew => ?_, fun henough => ?_, fun unit name hunit => ⟨?_, ?_⟩⟩
  · have hkilo : ¬ kilobyte ≤ bytes := Nat.not_le.2 hfew
    have hmega : ¬ megabyte ≤ bytes := fun h => hkilo (Nat.le_trans (by decide) h)
    rw [sizeText, if_neg hmega, if_neg hkilo, nat_eq_toString]
  · by_cases hfew : bytes < 1048576
    · exact ⟨_, _, .kilobytes henough hfew⟩
    · exact ⟨_, _, .megabytes (Nat.not_lt.1 hfew)⟩
  · obtain ⟨n, hnearest, htext⟩ := sizeText_of_shownIn hunit hbytes
    refine ⟨n, htext, hnearest, ?_⟩
    obtain ⟨hlow, hhigh⟩ := abs_le.1 hnearest.near
    exact abs_le.2 ⟨by linarith, by linarith⟩
  · intro more m n hle hmore hmoreUnit hm hn
    obtain ⟨m', hm', htext⟩ := sizeText_of_shownIn hunit hbytes
    obtain ⟨n', hn', hmoreText⟩ := sizeText_of_shownIn hmoreUnit hmore
    obtain rfl : m = m' := hundredths_injective (hm.symm.trans htext)
    obtain rfl : n = n' := hundredths_injective (hn.symm.trans hmoreText)
    have hle' : (bytes : ℚ) ≤ more := by exact_mod_cast hle
    exact hm'.mono hn' (by gcongr)

/-- A kilobyte and an eighth lies half way between two hundredths, and the even one is shown. -/
theorem size_is_nearest_hundredth_tie :
    (1152 < 9007199254740992 ∧ ShownIn 1152 1024 "KB") ∧
    sizeText 1152 = "1.12 KB" ∧ IsNearestEven (100 * (1152 / 1024)) 112 := by
  have hunit : ShownIn 1152 1024 "KB" := .kilobytes (by decide) (by decide)
  obtain ⟨-, -, hshown⟩ := size_is_nearest_hundredth 1152 (by decide)
  obtain ⟨⟨n, htext, hnearest, -⟩, -⟩ := hshown 1024 "KB" hunit
  have hsize : sizeText 1152 = "1.12 KB" := by decide +kernel
  have hsame : hundredths n "KB" = hundredths 112 "KB" := htext.symm.trans hsize
  obtain rfl : n = 112 := hundredths_injective hsame
  exact ⟨⟨by decide, hunit⟩, hsize, by exact_mod_cast hnearest⟩

end Guildkeep.Tool
