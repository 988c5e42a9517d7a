import Guildkeep.Number.Format

/-!
# Sizes for Readers

The size of a file in bytes, kilobytes or megabytes; the larger units have two places.
-/

namespace Guildkeep.Tool

/-- A kilobyte. -/
def kilobyte : Nat := 1024

/-- A megabyte. -/
def megabyte : Nat := 1048576

/-- A number of bytes over a unit, with two places. -/
def inUnit (bytes unit : Nat) : String :=
  (Binary64.ofInt bytes / Binary64.ofInt unit).twoPlaces

/-- The **size** for readers. -/
def sizeText (bytes : Nat) : String :=
  if megabyte ≤ bytes then inUnit bytes megabyte ++ " MB"
  else if kilobyte ≤ bytes then inUnit bytes kilobyte ++ " KB"
  else Text.nat bytes ++ " B"

end Guildkeep.Tool
