/-!
# Decimal Digits

Natural numbers and integers as decimal digits, and back. `lastDigits` writes a fixed number of
places, `natDigits` as many as needed.

## Main results

* `ofDigits_append`: reading digits is Horner's rule.
* `ofDigits_lastDigits`: `k` written places read back modulo `10 ^ k`.
-/

namespace Guildkeep.Text

attribute [local instance (2000)] instPowNat instNatPowNat

/-- The ASCII digits. -/
def isDigit (c : Char) : Bool :=
  '0' ≤ c && c ≤ '9'

/-- The value of a digit. -/
def digitValue (c : Char) : Nat :=
  c.toNat - '0'.toNat

/-- The number that a list of digits stands for. -/
def ofDigits (ds : List Char) : Nat :=
  ds.foldl (fun n c => 10 * n + digitValue c) 0

/-- The decimal digits of a natural number, as many as it needs. -/
def natDigits (n : Nat) : List Char :=
  Nat.toDigits 10 n

/-- The decimal digits of an integer, with a minus sign if it is negative. -/
def intDigits (i : Int) : List Char :=
  if i < 0 then '-' :: natDigits i.natAbs else natDigits i.natAbs

/-- `n` zeros. -/
def zeros (n : Nat) : List Char :=
  List.replicate n '0'

/-- The last `width` decimal digits of a number, with leading zeros. -/
def lastDigits : Nat → Nat → List Char
  | 0, _ => []
  | width + 1, n => lastDigits width (n / 10) ++ [Nat.digitChar (n % 10)]

/-- The digits of a number, with zeros in front up to the width. -/
def padded (width n : Nat) : List Char :=
  zeros (width - (natDigits n).length) ++ natDigits n

/-- The text of a natural number. -/
def nat (n : Nat) : String :=
  String.ofList (natDigits n)

/-- The text of an integer. -/
def int (i : Int) : String :=
  String.ofList (intDigits i)

/-! ### Laws -/

/-- One more digit is worth **its value**, and all before it ten times as much. -/
theorem ofDigits_append (ds : List Char) (c : Char) :
    ofDigits (ds ++ [c]) = 10 * ofDigits ds + digitValue c := by
  simp [ofDigits]

/-- A digit has its **own value**. -/
theorem digitValue_digitChar : ∀ {d : Nat}, d < 10 → digitValue (Nat.digitChar d) = d := by
  decide

/-- There are **as many digits** as are asked for. -/
@[simp] theorem length_lastDigits (width n : Nat) : (lastDigits width n).length = width := by
  induction width generalizing n with
  | zero => rfl
  | succ w ih => simp [lastDigits, ih]

/-- The last places of a number read back modulo the power of ten. -/
theorem ofDigits_lastDigits (width n : Nat) : ofDigits (lastDigits width n) = n % 10 ^ width := by
  induction width generalizing n with
  | zero => simp [lastDigits, ofDigits, Nat.mod_one]
  | succ w ih =>
    rw [lastDigits, ofDigits_append, ih, digitValue_digitChar (Nat.mod_lt _ (by decide)),
      Nat.pow_succ, Nat.mul_comm (10 ^ w) 10, Nat.mod_mul, Nat.add_comm]

end Guildkeep.Text
