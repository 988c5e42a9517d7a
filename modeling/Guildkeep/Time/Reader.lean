import Guildkeep.Text.Blank
import Guildkeep.Time.Instant

/-!
# Reading Instants

The relaxed reading of RFC 3339. Beyond the strict form it takes blanks around every field, fields
with fewer digits, signed years, a space between date and time, `UTC` for the offset, and an offset
without a colon. Fields are checked from left to right, so the first problem is reported; only
whether the day exists is found out at the end.
-/

namespace Guildkeep.Time

open Text

attribute [local instance (2000)] instPowNat instNatPowNat

/-- Why a text is **no instant**. -/
inductive Fault where
  | outOfRange
  | invalid
  | tooShort
  | tooLong
  | offCalendar
  deriving DecidableEq, Repr

/-- The wording of a fault. -/
def Fault.message : Fault → String
  | outOfRange => "input is out of range"
  | invalid => "input contains invalid characters"
  | tooShort => "premature end of input"
  | tooLong => "trailing input"
  | offCalendar => "no possible date and time matching input"

namespace Reader

/-- The digits at the front of the text, at most `width` of them; there has to be one. -/
def number (width : Nat) (cs : List Char) : Except Fault (Nat × List Char) :=
  match cs with
  | [] => .error .tooShort
  | c :: _ =>
    if isDigit c then
      let digits := (cs.take width).takeWhile isDigit
      .ok (ofDigits digits, cs.drop digits.length)
    else .error .invalid

/-- A field between `lo` and `hi`, behind any blanks. -/
def field (width lo hi : Nat) (cs : List Char) : Except Fault (Nat × List Char) := do
  let (n, rest) ← number width (trimStart cs)
  if lo ≤ n ∧ n ≤ hi then .ok (n, rest) else .error .outOfRange

/-- The given character, behind any blanks. -/
def mark (c : Char) (cs : List Char) : Except Fault (List Char) :=
  match trimStart cs with
  | [] => .error .tooShort
  | d :: rest => if d = c then .ok rest else .error .invalid

/-- A year: up to four digits, or a sign and any number of them. -/
def year (cs : List Char) : Except Fault (Int × List Char) := do
  let cs := trimStart cs
  match cs with
  | '-' :: rest =>
    let (n, rest) ← number rest.length rest
    if n ≤ 2147483648 then .ok (-(n : Int), rest) else .error .outOfRange
  | '+' :: rest =>
    let (n, rest) ← number rest.length rest
    if n ≤ 2147483647 then .ok ((n : Int), rest) else .error .outOfRange
  | cs =>
    let (n, rest) ← number 4 cs
    .ok ((n : Int), rest)

/-- What divides date and time: a letter T or a space. Other blanks may only follow it. -/
def divider (cs : List Char) : Except Fault (List Char) :=
  match cs with
  | [] => .error .tooShort
  | c :: rest => if c = 'T' ∨ c = 't' ∨ c = ' ' then .ok rest else .error .invalid

/-- The fraction of the second in nanoseconds, if there is one; further digits are dropped. -/
def fraction (cs : List Char) : Except Fault (Nat × List Char) :=
  match cs with
  | '.' :: rest => do
    let (n, behind) ← number 9 rest
    let places := rest.length - behind.length
    .ok (n * 10 ^ (9 - places), behind.dropWhile isDigit)
  | cs => .ok (0, cs)

/-- Two digits. -/
def twoDigits (cs : List Char) : Except Fault (Nat × List Char) :=
  match cs with
  | a :: b :: rest =>
    if isDigit a ∧ isDigit b then .ok (ofDigits [a, b], rest) else .error .invalid
  | [c] => if c.utf8Size < 2 then .error .tooShort else .error .invalid
  | [] => .error .tooShort

/-- The hours and minutes of an offset, in minutes. -/
def offsetMinutes (cs : List Char) : Except Fault (Nat × List Char) := do
  let (hours, rest) ← twoDigits cs
  let (minutes, rest) ← twoDigits (rest.dropWhile fun c => c = ':' || isBlank c)
  if minutes < 60 then .ok (hours * 60 + minutes, rest) else .error .outOfRange

/-- The offset from UTC in minutes: `Z`, `UTC`, or a sign with hours and minutes. -/
def offset (cs : List Char) : Except Fault (Int × List Char) := do
  if lower (cs.take 3) = "utc".toList then .ok (0, cs.drop 3)
  else match cs with
    | [] => .error .tooShort
    | c :: rest =>
      if c = 'Z' ∨ c = 'z' then .ok (0, rest)
      else if c = '+' then
        let (n, rest) ← offsetMinutes rest
        .ok ((n : Int), rest)
      else if c = '-' ∨ c = '\u2212' then
        let (n, rest) ← offsetMinutes rest
        .ok (-(n : Int), rest)
      else .error .invalid

/-- The fields of a date. -/
def date (cs : List Char) : Except Fault ((Int × Nat × Nat) × List Char) := do
  let (y, cs) ← year cs
  let cs ← mark '-' cs
  let (month, cs) ← field 2 1 12 cs
  let cs ← mark '-' cs
  let (day, cs) ← field 2 1 31 cs
  .ok ((y, month, day), cs)

/-- The fields of a time of day. -/
def time (cs : List Char) : Except Fault ((Nat × Nat × Nat × Nat) × List Char) := do
  let (hour, cs) ← field 2 0 23 cs
  let cs ← mark ':' cs
  let (minute, cs) ← field 2 0 59 cs
  let cs ← mark ':' cs
  let (second, cs) ← field 2 0 60 cs
  let (nano, cs) ← fraction cs
  .ok ((hour, minute, second, nano), trimStart cs)

/-- The instant that the fields name, which may turn out not to exist. -/
def assemble (d : Int × Nat × Nat) (t : Nat × Nat × Nat × Nat) (shift : Int) :
    Except Fault Instant :=
  match Date.of? d.1 d.2.1 d.2.2 with
  | none => .error .outOfRange
  | some date =>
    match Instant.of? date t.1 t.2.1 t.2.2.1 t.2.2.2 with
    | none => .error .outOfRange
    | some here =>
      if 1440 ≤ shift.natAbs then .error .outOfRange
      else match here.ofLocal shift with
        | some there => .ok there
        | none => .error .offCalendar

end Reader

/-- The **instant** that a text names, or why it names none. -/
def Instant.read (s : String) : Except Fault Instant := do
  let (d, cs) ← Reader.date s.toList
  let cs ← Reader.divider cs
  let (t, cs) ← Reader.time cs
  let (shift, cs) ← Reader.offset cs
  if trimStart cs = [] then Reader.assemble d t shift else .error .tooLong

end Guildkeep.Time
