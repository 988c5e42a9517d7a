import Guildkeep.Text.Digits
import Mathlib.Tactic.Ring

/-!
# Digits Read Back

What the writers of digits write is read back by `ofDigits`, whatever zeros stand in front or
behind. A reader that takes digits as long as there are any stops exactly where the writer did, if
no digit follows.

## Main results

* `ofDigits_natDigits`, `ofDigits_padded`: written numbers read back.
* `ofDigits_append_list`: digits behind a number move it up by their places.
* `takeWhile_digits`, `dropWhile_digits`: a run of digits is taken off whole.
* `eq_zero_of_head_natDigits`: only zero starts with the digit zero.
-/

namespace Guildkeep.Text

attribute [local instance (2000)] instPowNat instNatPowNat

/-! ### Values -/

/-- Digits behind a number **move it up** by their places. -/
theorem ofDigits_append_list (ds es : List Char) :
    ofDigits (ds ++ es) = ofDigits ds * 10 ^ es.length + ofDigits es := by
  change Nat.ofDigitChars 10 (ds ++ es) 0 =
    Nat.ofDigitChars 10 ds 0 * 10 ^ es.length + Nat.ofDigitChars 10 es 0
  rw [Nat.ofDigitChars_append, Nat.ofDigitChars_eq_ofDigitChars_zero, Nat.mul_comm]

/-- The digits of a number **read back**. -/
@[simp] theorem ofDigits_natDigits (n : Nat) : ofDigits (natDigits n) = n :=
  Nat.ofDigitChars_ten_toDigits

/-- There are **as many zeros** as are asked for. -/
@[simp] theorem length_zeros (n : Nat) : (zeros n).length = n :=
  List.length_replicate

/-- Zeros are worth **nothing**. -/
@[simp] theorem ofDigits_zeros (n : Nat) : ofDigits (zeros n) = 0 := by
  change Nat.ofDigitChars 10 (List.replicate n '0') 0 = 0
  simp

/-- Zeros in front change nothing. -/
theorem ofDigits_zeros_append (n : Nat) (ds : List Char) :
    ofDigits (zeros n ++ ds) = ofDigits ds := by
  simp [ofDigits_append_list]

/-- Zeros behind are factors of ten. -/
theorem ofDigits_append_zeros (ds : List Char) (n : Nat) :
    ofDigits (ds ++ zeros n) = ofDigits ds * 10 ^ n := by
  simp [ofDigits_append_list]

/-- Padding does not change the **number**. -/
@[simp] theorem ofDigits_padded (width n : Nat) : ofDigits (padded width n) = n := by
  rw [padded, ofDigits_zeros_append, ofDigits_natDigits]

/-- No two numbers are written alike. -/
theorem nat_injective {m n : Nat} (h : nat m = nat n) : m = n := by
  have := congrArg (fun s => ofDigits s.toList) h
  simpa [nat] using this

/-! ### Which characters are written -/

/-- A digit **is a digit**. -/
theorem isDigit_digitChar : ∀ {d : Nat}, d < 10 → isDigit (Nat.digitChar d) = true := by
  decide

/-- A number is written in **digits**. -/
theorem isDigit_of_mem_natDigits {n : Nat} {c : Char} (h : c ∈ natDigits n) : isDigit c = true := by
  have hc : c.isDigit = true := Nat.isDigit_of_mem_toDigits (by decide) (by decide) h
  simpa [Char.isDigit, isDigit, Char.le_def] using hc

/-- Zeros are **digits**. -/
theorem isDigit_of_mem_zeros {n : Nat} {c : Char} (h : c ∈ zeros n) : isDigit c = true := by
  rw [List.eq_of_mem_replicate h]
  decide

/-- The last digits of a number are **digits**. -/
theorem isDigit_of_mem_lastDigits {width n : Nat} {c : Char} (h : c ∈ lastDigits width n) :
    isDigit c = true := by
  induction width generalizing n with
  | zero => simp [lastDigits] at h
  | succ width ih =>
    rw [lastDigits, List.mem_append, List.mem_singleton] at h
    rcases h with h | rfl
    · exact ih h
    · exact isDigit_digitChar (Nat.mod_lt n (by decide))

/-- A number that is padded is written in **digits**. -/
theorem isDigit_of_mem_padded {width n : Nat} {c : Char} (h : c ∈ padded width n) :
    isDigit c = true := by
  rw [padded, List.mem_append] at h
  rcases h with h | h
  · exact isDigit_of_mem_zeros h
  · exact isDigit_of_mem_natDigits h

/-- A number has **last digits**. -/
theorem lastDigits_ne_nil {width : Nat} (h : 0 < width) (n : Nat) : lastDigits width n ≠ [] := by
  rw [← List.length_pos_iff, length_lastDigits]
  exact h

/-- A number has **digits**. -/
theorem natDigits_ne_nil (n : Nat) : natDigits n ≠ [] :=
  Nat.toDigits_ne_nil

/-- The number zero has **one digit**. -/
@[simp] theorem natDigits_zero : natDigits 0 = ['0'] :=
  Nat.toDigits_zero 10

/-- **Only zero** starts with the digit zero. -/
theorem eq_zero_of_head_natDigits {n : Nat} {ds : List Char} (h : natDigits n = '0' :: ds) :
    n = 0 := by
  -- Every other number has a shorter one in front of its last digit, which starts alike.
  induction n using Nat.strongRecOn generalizing ds with
  | ind n ih =>
    rw [natDigits, Nat.toDigits_eq_if (by decide)] at h
    split at h
    · rename_i hlt
      have hdigit : Nat.digitChar n = '0' := by simpa using (List.cons.inj h).1
      have hvalue := digitValue_digitChar hlt
      rw [hdigit] at hvalue
      exact hvalue.symm
    · rename_i hge
      obtain ⟨ds', hds'⟩ : ∃ ds', natDigits (n / 10) = '0' :: ds' := by
        cases hfront : natDigits (n / 10) with
        | nil => exact absurd hfront (natDigits_ne_nil _)
        | cons c ds' =>
          rw [natDigits] at hfront
          rw [hfront, List.cons_append] at h
          exact ⟨ds', by rw [(List.cons.inj h).1]⟩
      have := ih (n / 10) (by omega) hds'
      omega

/-! ### Runs of digits -/

/-- A run of digits is **taken off** whole, if no digit follows. -/
theorem takeWhile_digits {ds rest : List Char} (hds : ∀ c ∈ ds, isDigit c = true)
    (hrest : ∀ c ∈ rest.head?, isDigit c = false) : (ds ++ rest).takeWhile isDigit = ds := by
  rw [List.takeWhile_append_of_pos hds]
  cases rest with
  | nil => simp
  | cons c rest => simp [hrest c (by simp)]

/-- All digits in front are **dropped**. -/
theorem dropWhile_digits {ds rest : List Char} (hds : ∀ c ∈ ds, isDigit c = true)
    (hrest : ∀ c ∈ rest.head?, isDigit c = false) : (ds ++ rest).dropWhile isDigit = rest := by
  rw [List.dropWhile_append_of_pos hds]
  cases rest with
  | nil => simp
  | cons c rest => simp [hrest c (by simp)]

end Guildkeep.Text
