import Guildkeep.Number.Shortest
import Guildkeep.Text.Digits

/-!
# Numbers as Text

Three ways to write a binary64 number: the form used inside JSON, the plain form used for single
values on screen, and a fixed number of places.

## Conventions

The JSON form always shows that a number is no integer: it has a point or an exponent. It is
positional as long as the point lies at most 16 places to the right of the first digit and at most
four zeros stand between the point and it. The plain form is always positional.
-/

namespace Guildkeep

open Text

attribute [local instance (2000)] instPowNat instNatPowNat

namespace Decimal

/-- The digits of a decimal and the number of them that stand before the point. -/
def layout (d : Decimal) : List Char × Int :=
  let ds := natDigits d.digits
  (ds, ds.length + d.exponent)

/-- `digits` with the point after the first `point` of them, filled up with zeros on either
side; without a point if nothing stands behind it. -/
def positional (digits : List Char) (point : Int) : List Char :=
  if digits.length ≤ point then digits ++ zeros (point - digits.length).toNat
  else if 0 < point then digits.take point.toNat ++ '.' :: digits.drop point.toNat
  else '0' :: '.' :: zeros (-point).toNat ++ digits

/-- One digit, the point, the rest, and a signed exponent. -/
def scientific (digits : List Char) (point : Int) : List Char :=
  let mantissa := match digits with
    | [] => []
    | [c] => [c]
    | c :: rest => c :: '.' :: rest
  let exponent := point - 1
  mantissa ++ 'e' :: (if exponent < 0 then intDigits exponent else '+' :: intDigits exponent)

end Decimal

namespace Binary64

/-- A minus sign if the number is negative. -/
def signText (negative : Bool) : List Char :=
  if negative then ['-'] else []

/-- The text of a number that is not finite. -/
def specialText : Binary64 → List Char
  | nan => "NaN".toList
  | inf s => signText s ++ "inf".toList
  | finite .. => []

/-- The JSON form of a finite number. -/
def jsonDigits (negative : Bool) (m : Nat) (q : Int) (h : Canonical m q) : List Char :=
  let (digits, point) := (shortest negative m q h).layout
  signText negative ++
    (if digits.length ≤ point ∧ point ≤ 16 then Decimal.positional digits point ++ ['.', '0']
     else if -5 < point ∧ point ≤ 16 then Decimal.positional digits point
     else Decimal.scientific digits point)

/-- The plain form of a number. -/
def plain : Binary64 → String
  | finite s m q h =>
    let (digits, point) := (shortest s m q h).layout
    String.ofList (signText s ++ Decimal.positional digits point)
  | x => String.ofList (specialText x)

/-- The number `± num / den` with exactly two places, rounded to the nearest, a tie going to the
even digit. -/
def ratioTwoPlaces (negative : Bool) (num den : Nat) : List Char :=
  let hundredths := roundHalfEven (100 * num) den
  signText negative ++ natDigits (hundredths / 100) ++ '.' :: lastDigits 2 hundredths

/-- A number with exactly two places. -/
def twoPlaces : Binary64 → String
  | finite s m q _ => String.ofList (ratioTwoPlaces s (m * 2 ^ q.toNat) (denominator q))
  | x => String.ofList (specialText x)

end Binary64

end Guildkeep
