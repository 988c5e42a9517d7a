import Guildkeep.Text.Digits

/-!
# Instants

A moment in UTC on the proleptic Gregorian calendar, to the nanosecond. Second 60 is a leap
second: it may end any minute and lies after second 59 and before the next minute.

## Conventions

Years run from -262143 to 262142. An instant is written with as few groups of three fraction
digits as it needs; a year outside 0 … 9999 has a sign and at least four digits.

## Main results

* `Date.next?`, `Date.previous?`: the neighbouring days, where the calendar has them.
* `Instant.eq_of_rank_eq`: instants of equal rank are equal, so `rank` orders them totally.
-/

namespace Guildkeep.Time

open Text

/-- Whether a year has a 29th of February. -/
def isLeapYear (y : Int) : Bool :=
  y % 4 = 0 && (y % 100 ≠ 0 || y % 400 = 0)

/-- The number of days of a month. -/
def daysIn (y : Int) (month : Nat) : Nat :=
  if month = 2 then (if isLeapYear y then 29 else 28)
  else if month = 4 ∨ month = 6 ∨ month = 9 ∨ month = 11 then 30
  else 31

/-- The first year of the calendar. -/
def firstYear : Int := -262143

/-- The last year of the calendar. -/
def lastYear : Int := 262142

/-- Whether year, month and day name a day of the calendar. -/
def IsDate (y : Int) (month day : Nat) : Prop :=
  firstYear ≤ y ∧ y ≤ lastYear ∧ 1 ≤ month ∧ month ≤ 12 ∧ 1 ≤ day ∧ day ≤ daysIn y month

/-- Whether there is such a date can be **computed**. -/
instance (y : Int) (month day : Nat) : Decidable (IsDate y month day) :=
  inferInstanceAs (Decidable (_ ∧ _ ∧ _ ∧ _ ∧ _ ∧ _))

/-- A **day of the calendar**. -/
structure Date where
  year : Int
  month : Nat
  day : Nat
  valid : IsDate year month day
  deriving DecidableEq

/-- The day with this year, month and day of the month, if there is one. -/
def Date.of? (y : Int) (month day : Nat) : Option Date :=
  if h : IsDate y month day then some ⟨y, month, day, h⟩ else none

/-- The day after, unless this is the last day of the calendar. -/
def Date.next? (d : Date) : Option Date :=
  if d.day < daysIn d.year d.month then Date.of? d.year d.month (d.day + 1)
  else if d.month < 12 then Date.of? d.year (d.month + 1) 1
  else Date.of? (d.year + 1) 1 1

/-- The day before, unless this is the first day of the calendar. -/
def Date.previous? (d : Date) : Option Date :=
  if 1 < d.day then Date.of? d.year d.month (d.day - 1)
  else if 1 < d.month then Date.of? d.year (d.month - 1) (daysIn d.year (d.month - 1))
  else Date.of? (d.year - 1) 12 31

/-- Whether hour, minute, second and nanosecond name a time of day; second 60 is a leap second. -/
def IsTime (hour minute second nano : Nat) : Prop :=
  hour < 24 ∧ minute < 60 ∧ second ≤ 60 ∧ nano < 1000000000

/-- Whether there is such a time can be **computed**. -/
instance (hour minute second nano : Nat) : Decidable (IsTime hour minute second nano) :=
  inferInstanceAs (Decidable (_ ∧ _ ∧ _ ∧ _))

/-- A **moment in UTC**. -/
structure Instant where
  date : Date
  hour : Nat
  minute : Nat
  second : Nat
  nano : Nat
  valid : IsTime hour minute second nano
  deriving DecidableEq

namespace Instant

/-- The moment with these fields, if they name one. -/
def of? (date : Date) (hour minute second nano : Nat) : Option Instant :=
  if h : IsTime hour minute second nano then some ⟨date, hour, minute, second, nano, h⟩ else none

/-- The start of 1970. -/
def epoch : Instant :=
  ⟨⟨1970, 1, 1, by decide⟩, 0, 0, 0, 0, by decide⟩

/-- The first instant is the **epoch**. -/
instance : Inhabited Instant := ⟨epoch⟩

/-! ### Order -/

/-- The place of an instant in the order of time: its fields read as one number in mixed radix. -/
def rank (t : Instant) : Int :=
  (((((t.date.year * 13 + t.date.month) * 32 + t.date.day) * 24 + t.hour) * 60 + t.minute) * 61
    + t.second) * 1000000000 + t.nano

/-- Whether one instant is earlier than another. -/
def before (s t : Instant) : Bool :=
  s.rank < t.rank

/-- No month has more than **31 days**. -/
theorem daysIn_le (y : Int) (month : Nat) : daysIn y month ≤ 31 := by
  unfold daysIn
  repeat' split
  all_goals omega

/-- Instants of equal rank are **equal**. -/
theorem eq_of_rank_eq {s t : Instant} (h : s.rank = t.rank) : s = t := by
  obtain ⟨⟨ys, ms, ds, hds⟩, hs, mins, ss, ns, hts⟩ := s
  obtain ⟨⟨yt, mt, dt, hdt⟩, ht, mint, st, nt, htt⟩ := t
  have h1 := daysIn_le ys ms
  have h2 := daysIn_le yt mt
  have hd := hds
  have hd' := hdt
  have hm := hts
  have hm' := htt
  simp only [IsDate] at hd hd'
  simp only [IsTime] at hm hm'
  simp only [rank] at h
  have hn : ns = nt := by omega
  subst hn
  have hsec : ss = st := by omega
  subst hsec
  have hmin : mins = mint := by omega
  subst hmin
  have hhour : hs = ht := by omega
  subst hhour
  have hday : ds = dt := by omega
  subst hday
  have hmonth : ms = mt := by omega
  subst hmonth
  have hyear : ys = yt := by omega
  subst hyear
  rfl

/-! ### Offsets -/

/-- The day `n` days away, for a shift by at most one day. -/
def shiftDay (date : Date) (n : Int) : Option Date :=
  if n < 0 then date.previous? else if 0 < n then date.next? else some date

/-- The UTC moment of a local time that is `offset` minutes ahead of UTC; none if it falls off the
calendar. -/
def ofLocal (t : Instant) (offset : Int) : Option Instant :=
  let minutes : Int := (t.hour * 60 + t.minute : Nat) - offset
  let ofDay := minutes % 1440
  match shiftDay t.date (minutes / 1440) with
  | some date => of? date (ofDay / 60).toNat (ofDay % 60).toNat t.second t.nano
  | none => none

/-! ### Text -/

/-- A year with four digits, or with a sign and at least four. -/
def yearText (y : Int) : List Char :=
  if 0 ≤ y ∧ y ≤ 9999 then lastDigits 4 y.toNat
  else (if y < 0 then '-' else '+') :: padded 4 y.natAbs

/-- Year, month and day joined by hyphens. -/
def dateText (d : Date) : List Char :=
  yearText d.year ++ '-' :: lastDigits 2 d.month ++ '-' :: lastDigits 2 d.day

/-- Hour, minute and second joined by colons. -/
def clockText (t : Instant) : List Char :=
  lastDigits 2 t.hour ++ ':' :: lastDigits 2 t.minute ++ ':' :: lastDigits 2 t.second

/-- The fraction of the second, in as few groups of three digits as it needs. -/
def fractionText (nano : Nat) : List Char :=
  if nano = 0 then []
  else if nano % 1000000 = 0 then '.' :: lastDigits 3 (nano / 1000000)
  else if nano % 1000 = 0 then '.' :: lastDigits 6 (nano / 1000)
  else '.' :: lastDigits 9 nano

/-- The RFC 3339 form. -/
def rfc3339 (t : Instant) : List Char :=
  dateText t.date ++ 'T' :: clockText t ++ fractionText t.nano ++ ['Z']

/-- The RFC 3339 form as a string. -/
def text (t : Instant) : String :=
  String.ofList t.rfc3339

/-- The form for readers, with the fraction. -/
def display (t : Instant) : String :=
  String.ofList (dateText t.date ++ ' ' :: clockText t ++ fractionText t.nano ++ " UTC".toList)

/-- The form for tables, to the second. -/
def displaySeconds (t : Instant) : String :=
  String.ofList (dateText t.date ++ ' ' :: clockText t ++ " UTC".toList)

/-! ### Unix time -/

/-- Days since the start of 1970, counting the year from March so that the leap day comes last. -/
def unixDays (d : Date) : Int :=
  let y := if d.month ≤ 2 then d.year - 1 else d.year
  let era := y / 400
  let ofEra := y % 400
  let month : Int := ((d.month : Int) + 9) % 12
  let ofYear := (153 * month + 2) / 5 + d.day - 1
  era * 146097 + (ofEra * 365 + ofEra / 4 - ofEra / 100 + ofYear) - 719468

/-- Milliseconds since the start of 1970. -/
def unixMillis (t : Instant) : Int :=
  (unixDays t.date * 86400 + (t.hour * 3600 + t.minute * 60 + t.second : Nat)) * 1000
    + (t.nano / 1000000 : Nat)

end Instant

end Guildkeep.Time
