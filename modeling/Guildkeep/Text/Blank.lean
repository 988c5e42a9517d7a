/-!
# Blank Characters

The characters that count as white space when a text is trimmed or checked for blanks: the
Unicode property `White_Space`. ASCII alone is not enough here, because titles, answers typed at
the prompt and timestamps may carry any Unicode blank.

## Main results

* `trim_eq_self`: trimming leaves alone a text with no blank at either end.
-/

namespace Guildkeep.Text

/-- The Unicode property `White_Space`, as a list of closed ranges of code points. -/
def blankRanges : List (Nat × Nat) :=
  [(0x09, 0x0d), (0x20, 0x20), (0x85, 0x85), (0xa0, 0xa0), (0x1680, 0x1680), (0x2000, 0x200a),
   (0x2028, 0x2029), (0x202f, 0x202f), (0x205f, 0x205f), (0x3000, 0x3000)]

/-- Whether a code point lies in one of the closed ranges. -/
def inRanges (ranges : List (Nat × Nat)) (n : Nat) : Bool :=
  ranges.any fun r => decide (r.1 ≤ n) && decide (n ≤ r.2)

/-- A character is **blank** when it has the Unicode property `White_Space`. -/
def isBlank (c : Char) : Bool :=
  inRanges blankRanges c.toNat

/-- The text without the blanks it starts with. -/
def trimStart (s : List Char) : List Char :=
  s.dropWhile isBlank

/-- The text without the blanks at either end. -/
def trim (s : List Char) : List Char :=
  ((trimStart s).reverse.dropWhile isBlank).reverse

/-- A letter of the ASCII upper case in lower case; every other character as it is. -/
def lower (s : List Char) : List Char :=
  s.map Char.toLower

/-! ### Laws -/

/-- Trimming leaves alone a text with no blank at either end. -/
theorem trim_eq_self {s : List Char} (hfirst : ∀ c ∈ s.head?, isBlank c = false)
    (hlast : ∀ c ∈ s.getLast?, isBlank c = false) : trim s = s := by
  have hstart : trimStart s = s := by
    cases s with
    | nil => rfl
    | cons c r => simp [trimStart, hfirst c (by simp)]
  have hend : s.reverse.dropWhile isBlank = s.reverse := by
    cases hr : s.reverse with
    | nil => rfl
    | cons c r =>
      have hc : c ∈ s.getLast? := by
        rw [List.getLast?_eq_head?_reverse, hr]; rfl
      simp [hlast c hc]
  rw [trim, hstart, hend, List.reverse_reverse]

end Guildkeep.Text
