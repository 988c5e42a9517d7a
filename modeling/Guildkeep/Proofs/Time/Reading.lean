import Guildkeep.Proofs.Text.Digits
import Guildkeep.Time.Reader
import Mathlib.Tactic.SplitIfs

/-!
# Instants Read Back

The relaxed reader of instants takes the one form in which instants are written and gives the
instant back: years with and without a sign, leap seconds, and fractions of every length.

## Main results

* `number_digits`: written digits are read as one number.
* `year_yearText`, `date_dateText`, `time_clockText`: the parts of an instant read back.
* `Instant.read_text`: **every instant reads back from its text**.
-/

namespace Guildkeep.Time

open Text

attribute [local instance (2000)] instPowNat instNatPowNat

namespace Reader

/-! ### Numbers and fields -/

/-- Digits are read as **one number**: as many as the reader takes, or fewer with no digit
behind. -/
theorem number_digits {width : Nat} {ds rest : List Char} (hne : ds ≠ [])
    (hds : ∀ c ∈ ds, isDigit c = true) (hlength : ds.length ≤ width)
    (hrest : ds.length = width ∨ ∀ c ∈ rest.head?, isDigit c = false) :
    number width (ds ++ rest) = .ok (ofDigits ds, rest) := by
  have htake : ((ds ++ rest).take width).takeWhile isDigit = ds := by
    rw [List.take_append, List.take_of_length_le hlength]
    refine takeWhile_digits hds ?_
    rcases hrest with hfull | hrest
    · simp [hfull]
    · intro c hc
      rw [List.head?_take] at hc
      split at hc
      · simp at hc
      · exact hrest c hc
  cases ds with
  | nil => exact absurd rfl hne
  | cons c ds =>
    simp only [List.cons_append] at htake ⊢
    simp only [number, hds c (by simp), if_true, htake]
    simp

/-- Written places are read as the number that they hold. -/
theorem number_lastDigits {width k n : Nat} (hk : 0 < k) (hwidth : k ≤ width) (hn : n < 10 ^ k)
    {rest : List Char} (hrest : k = width ∨ ∀ c ∈ rest.head?, isDigit c = false) :
    number width (lastDigits k n ++ rest) = .ok (n, rest) := by
  rw [number_digits (lastDigits_ne_nil hk n) (fun _ => isDigit_of_mem_lastDigits)
    (by simpa using hwidth) (by simpa using hrest), ofDigits_lastDigits, Nat.mod_eq_of_lt hn]

/-- A digit is **not blank**. -/
theorem isBlank_of_isDigit {c : Char} (h : isDigit c = true) : isBlank c = false := by
  simp only [isDigit, Bool.and_eq_true, decide_eq_true_eq] at h
  have hlo : 48 ≤ c.toNat := h.1
  have hhi : c.toNat ≤ 57 := h.2
  simp only [isBlank, inRanges, blankRanges, List.any_cons, List.any_nil, Bool.or_false,
    Bool.or_eq_false_iff, Bool.and_eq_false_iff, decide_eq_false_iff_not]
  omega

/-- Written places of a number that fit a field are read as that number. -/
theorem field_lastDigits {width lo hi n : Nat} (hwidth : 0 < width) (hlo : lo ≤ n) (hhi : n ≤ hi)
    (hn : n < 10 ^ width) (rest : List Char) :
    field width lo hi (lastDigits width n ++ rest) = .ok (n, rest) := by
  have hnumber : number width (lastDigits width n ++ rest) = .ok (n, rest) :=
    number_lastDigits hwidth le_rfl hn (.inl rfl)
  have htrim : trimStart (lastDigits width n ++ rest) = lastDigits width n ++ rest := by
    cases hds : lastDigits width n with
    | nil => exact absurd hds (lastDigits_ne_nil hwidth n)
    | cons c ds =>
      have hc : isDigit c = true := isDigit_of_mem_lastDigits (n := n) (by rw [hds]; simp)
      simp [trimStart, isBlank_of_isDigit hc]
  rw [field, htrim, hnumber]
  simp [bind, Except.bind, hlo, hhi]

/-- A mark that is there is **taken off**. -/
theorem mark_self {c : Char} (h : isBlank c = false) (rest : List Char) :
    mark c (c :: rest) = .ok rest := by
  simp [mark, trimStart, h]

/-! ### Dates -/

/-- A **year** reads back, with a sign or without one. -/
theorem year_yearText {y : Int} (hlo : firstYear ≤ y) (hhi : y ≤ lastYear) {rest : List Char}
    (hrest : ∀ c ∈ rest.head?, isDigit c = false) :
    year (Instant.yearText y ++ rest) = .ok (y, rest) := by
  simp only [firstYear, lastYear] at hlo hhi
  rw [Instant.yearText]
  split
  · rename_i hplain
    have hnumber : number 4 (lastDigits 4 y.toNat ++ rest) = .ok (y.toNat, rest) :=
      number_lastDigits (by decide) le_rfl (by omega) (.inl rfl)
    have hcast : (y.toNat : Int) = y := by omega
    cases hds : lastDigits 4 y.toNat with
    | nil => exact absurd hds (lastDigits_ne_nil (by decide) _)
    | cons c ds =>
      have hc : isDigit c = true := isDigit_of_mem_lastDigits (n := y.toNat) (by rw [hds]; simp)
      have hplus : c ≠ '+' := by
        rintro rfl
        exact absurd hc (by decide)
      have hminus : c ≠ '-' := by
        rintro rfl
        exact absurd hc (by decide)
      rw [hds, List.cons_append] at hnumber
      simp [year, trimStart, isBlank_of_isDigit hc, hplus, hminus, hnumber, hcast, bind,
        Except.bind]
  · have hne : padded 4 y.natAbs ≠ [] := by simp [padded, natDigits_ne_nil]
    have hnumber : number (padded 4 y.natAbs ++ rest).length (padded 4 y.natAbs ++ rest) =
        .ok (y.natAbs, rest) := by
      rw [number_digits hne (fun _ => isDigit_of_mem_padded) (by simp) (.inr hrest),
        ofDigits_padded]
    have hminus : isBlank '-' = false := by decide
    have hplus : isBlank '+' = false := by decide
    by_cases hneg : y < 0
    · have hcast : -(y.natAbs : Int) = y := by omega
      have hrange : y.natAbs ≤ 2147483648 := by omega
      rw [if_pos hneg, List.cons_append, year, trimStart]
      simp only [List.dropWhile_cons, hminus, Bool.false_eq_true, if_false, hnumber, bind,
        Except.bind]
      rw [if_pos hrange, hcast]
    · have hcast : (y.natAbs : Int) = y := by omega
      have hrange : y.natAbs ≤ 2147483647 := by omega
      rw [if_neg hneg, List.cons_append, year, trimStart]
      simp only [List.dropWhile_cons, hplus, Bool.false_eq_true, if_false, hnumber, bind,
        Except.bind]
      rw [if_pos hrange, hcast]

/-- A **date** reads back. -/
theorem date_dateText (d : Date) (rest : List Char) :
    date (Instant.dateText d ++ rest) = .ok ((d.year, d.month, d.day), rest) := by
  obtain ⟨hfirst, hlast, hmonth1, hmonth12, hday1, hday⟩ := d.valid
  have hday31 := Instant.daysIn_le d.year d.month
  have hyphen : isBlank '-' = false := by decide
  have hmonth (cs : List Char) : field 2 1 12 (lastDigits 2 d.month ++ cs) = .ok (d.month, cs) :=
    field_lastDigits (by decide) hmonth1 hmonth12 (by omega) cs
  have hdays (cs : List Char) : field 2 1 31 (lastDigits 2 d.day ++ cs) = .ok (d.day, cs) :=
    field_lastDigits (by decide) hday1 (by omega) (by omega) cs
  simp only [Instant.dateText, List.append_assoc, List.cons_append]
  rw [date, year_yearText hfirst hlast (by simp; decide)]
  simp [mark_self hyphen, hmonth, hdays, bind, Except.bind]

/-! ### Times of day -/

/-- The **fraction** of a second reads back from as many places as it was given. -/
theorem fraction_fractionText {nano : Nat} (h : nano < 1000000000) (rest : List Char) :
    fraction (Instant.fractionText nano ++ 'Z' :: rest) = .ok (nano, 'Z' :: rest) := by
  have hplaces {k n : Nat} (hk : 0 < k) (hk9 : k ≤ 9) (hn : n < 10 ^ k) :
      fraction ('.' :: (lastDigits k n ++ 'Z' :: rest)) = .ok (n * 10 ^ (9 - k), 'Z' :: rest) := by
    have hnumber : number 9 (lastDigits k n ++ 'Z' :: rest) = .ok (n, 'Z' :: rest) :=
      number_lastDigits hk hk9 hn (.inr (by simp; decide))
    have hZ : isDigit 'Z' = false := by decide
    simp [fraction, hnumber, hZ, bind, Except.bind]
  unfold Instant.fractionText
  split_ifs with hzero hmillis hmicros
  · simp [fraction, hzero]
  · rw [List.cons_append, hplaces (by decide) (by decide) (by omega)]
    have : nano / 1000000 * 10 ^ (9 - 3) = nano := by omega
    rw [this]
  · rw [List.cons_append, hplaces (by decide) (by decide) (by omega)]
    have : nano / 1000 * 10 ^ (9 - 6) = nano := by omega
    rw [this]
  · rw [List.cons_append, hplaces (by decide) (by decide) (by omega)]
    simp

/-- A **time of day** reads back; second 60 is a second like the others. -/
theorem time_clockText (t : Instant) :
    time (Instant.clockText t ++ Instant.fractionText t.nano ++ ['Z']) =
      .ok ((t.hour, t.minute, t.second, t.nano), ['Z']) := by
  obtain ⟨hhour, hminute, hsecond, hnano⟩ := t.valid
  have hcolon : isBlank ':' = false := by decide
  have hhours (cs : List Char) : field 2 0 23 (lastDigits 2 t.hour ++ cs) = .ok (t.hour, cs) :=
    field_lastDigits (by decide) (by omega) (by omega) (by omega) cs
  have hminutes (cs : List Char) :
      field 2 0 59 (lastDigits 2 t.minute ++ cs) = .ok (t.minute, cs) :=
    field_lastDigits (by decide) (by omega) (by omega) (by omega) cs
  have hseconds (cs : List Char) :
      field 2 0 60 (lastDigits 2 t.second ++ cs) = .ok (t.second, cs) :=
    field_lastDigits (by decide) (by omega) (by omega) (by omega) cs
  have htrim : trimStart ['Z'] = ['Z'] := by decide
  simp only [Instant.clockText, List.append_assoc, List.cons_append]
  simp [time, hhours, hminutes, hseconds, mark_self hcolon, fraction_fractionText hnano, htrim,
    bind, Except.bind]

/-- The fields of an instant name it, at no distance from UTC. -/
theorem assemble_fields (t : Instant) :
    assemble (t.date.year, t.date.month, t.date.day) (t.hour, t.minute, t.second, t.nano) 0 =
      .ok t := by
  obtain ⟨hhour, hminute, -, -⟩ := t.valid
  have hdate : Date.of? t.date.year t.date.month t.date.day = some t.date := by
    rw [Date.of?, dif_pos t.date.valid]
  have hhere : Instant.of? t.date t.hour t.minute t.second t.nano = some t := by
    rw [Instant.of?, dif_pos t.valid]
  have hday : ((t.hour * 60 + t.minute : Nat) - 0 : Int) / 1440 = 0 := by omega
  have hhourBack :
      (((t.hour * 60 + t.minute : Nat) - 0 : Int) % 1440 / 60).toNat = t.hour := by omega
  have hminuteBack : (((t.hour * 60 + t.minute : Nat) - 0 : Int) % 1440 % 60).toNat = t.minute := by
    omega
  have hlocal : t.ofLocal 0 = some t := by
    simp only [Instant.ofLocal, hday, Instant.shiftDay, hhourBack, hminuteBack]
    simpa using hhere
  simp [assemble, hdate, hhere, hlocal]

end Reader

/-- **Every instant reads back** from its text. -/
theorem Instant.read_text (t : Instant) : Instant.read t.text = .ok t := by
  have hdivider (cs : List Char) : Reader.divider ('T' :: cs) = .ok cs := by simp [Reader.divider]
  have hoffset : Reader.offset ['Z'] = .ok (0, []) := by decide
  have htext :
      t.text.toList = dateText t.date ++ 'T' :: (clockText t ++ fractionText t.nano ++ ['Z']) := by
    simp [text, rfc3339]
  have htrim : trimStart [] = [] := rfl
  rw [Instant.read, htext, Reader.date_dateText]
  simp only [hdivider, Reader.time_clockText, hoffset, htrim, if_true, Reader.assemble_fields, bind,
    Except.bind]

end Guildkeep.Time
