import Guildkeep.Json.Fault

/-!
# Strings and Numbers in JSON Text

The two kinds of lexeme with an inside. A string is scanned one character at a time by a small
machine whose places say what is owed; a number is cut into its parts and then evaluated.

## Main results

* `scanString_plain`: a character that needs no escape is taken as it stands.
-/

namespace Guildkeep.Json

open Text

/-! ### Strings -/

/-- The value of a hexadecimal digit. -/
def hexValue? (c : Char) : Option Nat :=
  if '0' ≤ c ∧ c ≤ '9' then some (c.toNat - 48)
  else if 'a' ≤ c ∧ c ≤ 'f' then some (c.toNat - 87)
  else if 'A' ≤ c ∧ c ≤ 'F' then some (c.toNat - 55)
  else none

/-- The value of the four hexadecimal digits in front. A text with fewer than four bytes left has
ended too early; otherwise the escape is invalid. -/
def fourHex (cs : List Char) : Except Fault Nat :=
  match (cs.take 4).mapM hexValue? with
  | some [a, b, c, d] => .ok (((a * 16 + b) * 16 + c) * 16 + d)
  | _ =>
    if (cs.take 4).foldl (fun n c => n + c.utf8Size) 0 < 4 then .error .endInString
    else .error .invalidEscape

/-- The first half of a surrogate pair. -/
def isLead (n : Nat) : Bool :=
  0xd800 ≤ n && n ≤ 0xdbff

/-- The second half of a surrogate pair. -/
def isTrail (n : Nat) : Bool :=
  0xdc00 ≤ n && n ≤ 0xdfff

/-- The character that a surrogate pair stands for. -/
def pairChar (lead trail : Nat) : Char :=
  Char.ofNat (0x10000 + (lead - 0xd800) * 0x400 + (trail - 0xdc00))

/-- The character of a one-letter escape. -/
def letterEscape? (c : Char) : Option Char :=
  if c = '"' then some '"'
  else if c = '\\' then some '\\'
  else if c = '/' then some '/'
  else if c = 'b' then some '\x08'
  else if c = 'f' then some '\x0c'
  else if c = 'n' then some '\n'
  else if c = 'r' then some '\r'
  else if c = 't' then some '\t'
  else none

/-- Where the scan of a string stands. -/
inductive Place where
  /-- Between characters. -/
  | plain
  /-- Behind a backslash. -/
  | escape
  /-- Inside the digits of an escape that yields a character when the last of them is passed. -/
  | digits (left : Nat) (yields : Char)
  /-- Inside the digits of a leading surrogate. -/
  | leadDigits (left : Nat) (lead : Nat)
  /-- Behind a leading surrogate, a backslash owed. -/
  | pairSlash (lead : Nat)
  /-- Behind a leading surrogate and a backslash, the letter `u` owed. -/
  | pairLetter (lead : Nat)
  deriving DecidableEq

/-- Scans a string from a place inside it to its closing quote. The second list holds the characters
so far, the last one first. -/
def scanString : Place → List Char → List Char → Except Fault (List Char × List Char)
  | .plain, c :: cs, done =>
    if c = '"' then .ok (done.reverse, cs)
    else if c = '\\' then scanString .escape cs done
    else if c.toNat < 32 then .error .controlCharacter
    else scanString .plain cs (c :: done)
  | .escape, c :: cs, done =>
    match letterEscape? c with
    | some d => scanString .plain cs (d :: done)
    | none =>
      if c = 'u' then
        match fourHex cs with
        | .error fault => .error fault
        | .ok n =>
          if isTrail n then .error .loneSurrogate
          else if isLead n then scanString (.leadDigits 3 n) cs done
          else scanString (.digits 3 (Char.ofNat n)) cs done
      else .error .invalidEscape
  | .digits 0 yields, _ :: cs, done => scanString .plain cs (yields :: done)
  | .digits (left + 1) yields, _ :: cs, done => scanString (.digits left yields) cs done
  | .leadDigits 0 lead, _ :: cs, done => scanString (.pairSlash lead) cs done
  | .leadDigits (left + 1) lead, _ :: cs, done => scanString (.leadDigits left lead) cs done
  | .pairSlash lead, c :: cs, done =>
    if c = '\\' then scanString (.pairLetter lead) cs done else .error .unpairedSurrogate
  | .pairLetter lead, c :: cs, done =>
    if c = 'u' then
      match fourHex cs with
      | .error fault => .error fault
      | .ok n =>
        if isTrail n then scanString (.digits 3 (pairChar lead n)) cs done
        else .error .loneSurrogate
    else .error .unpairedSurrogate
  | _, [], _ => .error .endInString

/-- Passes over a string from inside it to behind its closing quote. Escapes are checked for their
form only: surrogates need no partner. -/
def skipString : Place → List Char → Except Fault (List Char)
  | .plain, c :: cs =>
    if c = '"' then .ok cs
    else if c = '\\' then skipString .escape cs
    else if c.toNat < 32 then .error .controlCharacter
    else skipString .plain cs
  | .escape, c :: cs =>
    if (letterEscape? c).isSome then skipString .plain cs
    else if c = 'u' then
      match fourHex cs with
      | .error fault => .error fault
      | .ok _ => skipString (.digits 3 c) cs
    else .error .invalidEscape
  | .digits 0 _, _ :: cs => skipString .plain cs
  | .digits (left + 1) yields, _ :: cs => skipString (.digits left yields) cs
  | _, _ :: cs => skipString .plain cs
  | _, [] => .error .endInString

/-- A character that needs no escape is taken as it stands. -/
theorem scanString_plain {c : Char} (hquote : c ≠ '"') (hslash : c ≠ '\\') (hcontrol : 32 ≤ c.toNat)
    (cs done : List Char) :
    scanString .plain (c :: cs) done = scanString .plain cs (c :: done) := by
  rw [scanString, if_neg hquote, if_neg hslash, if_neg (by omega)]

/-! ### Numbers -/

/-- A number as it is written: its sign, its digits before and after the point, and its exponent.
An integer has neither point nor exponent. -/
structure Numeral where
  negative : Bool
  whole : List Char
  fraction : List Char
  exponent : Int
  isInteger : Bool

/-- The digits of an exponent behind its sign; `atEnd` is the fault if the text ends first. -/
def exponentDigits (atEnd : Fault) (negative : Bool) (cs : List Char) :
    Except Fault (Int × List Char) :=
  match cs with
  | [] => .error atEnd
  | c :: _ =>
    if isDigit c then
      let digits := cs.takeWhile isDigit
      .ok (Binary64.signed negative (ofDigits digits), cs.dropWhile isDigit)
    else .error .invalidNumber

/-- An exponent behind its letter. -/
def exponentPart (atEnd : Fault) (cs : List Char) : Except Fault (Int × List Char) :=
  match cs with
  | '+' :: rest => exponentDigits atEnd false rest
  | '-' :: rest => exponentDigits atEnd true rest
  | rest => exponentDigits atEnd false rest

/-- What may follow the digits before and after the point: an exponent. -/
def exponentTail (atEnd : Fault) (negative : Bool) (whole fraction : List Char) (isInteger : Bool)
    (cs : List Char) : Except Fault (Numeral × List Char) :=
  match cs with
  | c :: rest =>
    if c = 'e' ∨ c = 'E' then do
      let (exponent, rest) ← exponentPart atEnd rest
      .ok (⟨negative, whole, fraction, exponent, false⟩, rest)
    else .ok (⟨negative, whole, fraction, 0, isInteger⟩, cs)
  | [] => .ok (⟨negative, whole, fraction, 0, isInteger⟩, [])

/-- What may follow the whole digits: a point with digits, then an exponent. -/
def numeralTail (atEnd : Fault) (negative : Bool) (whole : List Char) (cs : List Char) :
    Except Fault (Numeral × List Char) :=
  match cs with
  | '.' :: rest =>
    let fraction := rest.takeWhile isDigit
    let behind := rest.dropWhile isDigit
    if fraction.isEmpty then .error (if behind.isEmpty then atEnd else .invalidNumber)
    else exponentTail atEnd negative whole fraction false behind
  | rest => exponentTail atEnd negative whole [] true rest

/-- A number behind its sign; `atEnd` is the fault if the text ends first. -/
def numeral (atEnd : Fault) (negative : Bool) (cs : List Char) :
    Except Fault (Numeral × List Char) :=
  match cs with
  | [] => .error atEnd
  | c :: rest =>
    if c = '0' then
      if (rest.head?.map isDigit).getD false then .error .invalidNumber
      else numeralTail atEnd negative ['0'] rest
    else if isDigit c then numeralTail atEnd negative (cs.takeWhile isDigit) (cs.dropWhile isDigit)
    else .error .invalidNumber

/-- A binary64 number as a JSON number; what is too large for one is out of range. -/
def finiteNumber : Binary64 → Except Fault Number
  | .finite s m q h => .ok (.real s m q h)
  | _ => .error .numberOutOfRange

/-- An integer as a JSON number: a word if it fits one, else a binary64 number. Negative zero is no
word. -/
def integerNumber (negative : Bool) (n : Nat) : Except Fault Number :=
  if negative then
    if h : (Int64.ofInt (-(n : Int))).toInt < 0 ∧ n ≤ 9223372036854775808 then
      .ok (.negative (Int64.ofInt (-(n : Int))) h.1)
    else finiteNumber (Binary64.ofRatio true n 1)
  else if n < 18446744073709551616 then .ok (.unsigned (UInt64.ofNat n))
  else finiteNumber (Binary64.ofDecimal false n 0)

/-- The number that a numeral stands for. -/
def Numeral.value (n : Numeral) : Except Fault Number :=
  if n.isInteger then integerNumber n.negative (ofDigits n.whole)
  else
    finiteNumber (Binary64.ofDecimal n.negative (ofDigits (n.whole ++ n.fraction))
      (n.exponent - n.fraction.length))

/-- A number, from its sign or first digit. -/
def scanNumber (cs : List Char) : Except Fault (Number × List Char) := do
  let (n, rest) ← match cs with
    | '-' :: rest => numeral .endInValue true rest
    | rest => numeral .endInValue false rest
  let value ← n.value
  .ok (value, rest)

/-- Passes over a number, whatever its size. -/
def skipNumber (cs : List Char) : Except Fault (List Char) := do
  let (_, rest) ← match cs with
    | '-' :: rest => numeral .invalidNumber true rest
    | rest => numeral .invalidNumber false rest
  .ok rest

end Guildkeep.Json
