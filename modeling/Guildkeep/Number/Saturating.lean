import Guildkeep.Number.Binary64

/-!
# Saturating Arithmetic

Health and score are machine words, and their arithmetic stops at the ends of the range instead
of wrapping around.

## Main results

* `toInt_ofIntSat32`, `toInt_ofIntSat64`: a saturated word has the clamped value.
-/

namespace Guildkeep

open Binary64 (clamp)

/-- The least value of a signed word of 32 bits. -/
def minInt32 : Int := -2147483648
/-- The greatest value of a signed word of 32 bits. -/
def maxInt32 : Int := 2147483647

/-- The least value of a signed word of 64 bits. -/
def minInt64 : Int := -9223372036854775808
/-- The greatest value of a signed word of 64 bits. -/
def maxInt64 : Int := 9223372036854775807

/-- The word of 32 bits nearest to an integer. -/
def ofIntSat32 (i : Int) : Int32 :=
  Int32.ofInt (clamp minInt32 maxInt32 i)

/-- The word of 64 bits nearest to an integer. -/
def ofIntSat64 (i : Int) : Int64 :=
  Int64.ofInt (clamp minInt64 maxInt64 i)

/-! ### Laws -/

/-- A saturated word of 32 bits has the clamped value. -/
theorem toInt_ofIntSat32 (i : Int) : (ofIntSat32 i).toInt = clamp minInt32 maxInt32 i := by
  unfold ofIntSat32 clamp minInt32 maxInt32
  exact Int32.toInt_ofInt_of_le (by omega) (by omega)

/-- A saturated word of 64 bits has the clamped value. -/
theorem toInt_ofIntSat64 (i : Int) : (ofIntSat64 i).toInt = clamp minInt64 maxInt64 i := by
  unfold ofIntSat64 clamp minInt64 maxInt64
  exact Int64.toInt_ofInt_of_le (by omega) (by omega)

end Guildkeep
