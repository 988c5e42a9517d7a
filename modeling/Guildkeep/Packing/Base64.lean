import Guildkeep.Text.Digits

/-!
# Base 64

Bytes as text in the standard alphabet, in groups of four with padding. Reading is strict: padding
has to be there and complete, and the bits of the last symbol that no byte uses have to be zero.

## Conventions

Of several problems the one that stands first is reported. There is one exception: when the length
leaves one symbol over and that last symbol is not of the alphabet, it is reported at once.
-/

namespace Guildkeep.Packing.Base64

/-- The byte of the padding sign. -/
def pad : UInt8 := 61

/-- The byte of a six-bit value in the standard alphabet. -/
def symbol (n : Nat) : UInt8 :=
  if n < 26 then UInt8.ofNat (65 + n)
  else if n < 52 then UInt8.ofNat (97 + (n - 26))
  else if n < 62 then UInt8.ofNat (48 + (n - 52))
  else if n = 62 then 43
  else 47

/-- The six-bit value of a byte of the alphabet. -/
def value? (b : UInt8) : Option Nat :=
  let n := b.toNat
  if 65 ≤ n ∧ n ≤ 90 then some (n - 65)
  else if 97 ≤ n ∧ n ≤ 122 then some (n - 71)
  else if 48 ≤ n ∧ n ≤ 57 then some (n + 4)
  else if n = 43 then some 62
  else if n = 47 then some 63
  else none

/-! ### Writing -/

/-- Bytes in groups of three become symbols in groups of four. -/
def encode : List UInt8 → List UInt8
  | [] => []
  | [a] =>
    let n := a.toNat
    [symbol (n / 4), symbol (n % 4 * 16), pad, pad]
  | [a, b] =>
    let n := a.toNat * 256 + b.toNat
    [symbol (n / 1024), symbol (n / 16 % 64), symbol (n % 16 * 4), pad]
  | a :: b :: c :: rest =>
    let n := (a.toNat * 256 + b.toNat) * 256 + c.toNat
    symbol (n / 262144) :: symbol (n / 4096 % 64) :: symbol (n / 64 % 64) :: symbol (n % 64) ::
      encode rest

/-! ### Reading -/

/-- Why bytes are **no base 64 text**. -/
inductive Fault where
  | invalidSymbol (byte : UInt8) (offset : Nat)
  | invalidLength (length : Nat)
  | invalidPadding
  | invalidLastSymbol (byte : UInt8) (offset : Nat)
  deriving DecidableEq

/-- The wording of a fault. -/
def Fault.message : Fault → String
  | invalidSymbol byte offset =>
    "Invalid symbol " ++ Text.nat byte.toNat ++ ", offset " ++ Text.nat offset ++ "."
  | invalidLength length => "Invalid input length: " ++ Text.nat length
  | invalidPadding => "Invalid padding"
  | invalidLastSymbol byte offset =>
    "Invalid last symbol " ++ Text.nat byte.toNat ++ ", offset " ++ Text.nat offset ++ "."

/-- The value of a symbol at an offset. -/
def valueAt (offset : Nat) (b : UInt8) : Except Fault Nat :=
  match value? b with
  | some v => .ok v
  | none => .error (.invalidSymbol b offset)

/-- The three bytes of four values. -/
def threeBytes (a b c d : Nat) : List UInt8 :=
  let n := ((a * 64 + b) * 64 + c) * 64 + d
  [UInt8.ofNat (n / 65536), UInt8.ofNat (n / 256 % 256), UInt8.ofNat (n % 256)]

/-- The values in front of the padding of the last group, the last symbol and the number of padding
signs. A padding sign needs two symbols before it and none behind. -/
def lastGroup (offset : Nat) : List UInt8 → Nat → List Nat → UInt8 → Option Nat → Nat →
    Except Fault (List Nat × UInt8 × Nat)
  | [], _, values, last, _, pads => .ok (values.reverse, last, pads)
  | b :: rest, index, values, last, firstPad, pads =>
    if b = pad then
      if index < 2 then .error (.invalidSymbol b (offset + index))
      else lastGroup offset rest (index + 1) values last (firstPad.or (some index)) (pads + 1)
    else match firstPad with
      | some at_ => .error (.invalidSymbol pad (offset + at_))
      | none =>
        match value? b with
        | some v => lastGroup offset rest (index + 1) (v :: values) b none pads
        | none => .error (.invalidSymbol b (offset + index))

/-- The bytes of the last group. -/
def decodeLast (offset : Nat) (group : List UInt8) : Except Fault (List UInt8) := do
  let (values, last, pads) ← lastGroup offset group 0 [] 0 none 0
  match values with
  | [a, b] =>
    if pads ≠ 2 then .error .invalidPadding
    else if b % 16 ≠ 0 then .error (.invalidLastSymbol last (offset + 1))
    else .ok [UInt8.ofNat (a * 4 + b / 16)]
  | [a, b, c] =>
    if pads ≠ 1 then .error .invalidPadding
    else if c % 4 ≠ 0 then .error (.invalidLastSymbol last (offset + 2))
    else .ok [UInt8.ofNat (a * 4 + b / 16), UInt8.ofNat (b % 16 * 16 + c / 4)]
  | [a, b, c, d] => .ok (threeBytes a b c d)
  | short => .error (.invalidLength (offset + short.length))

/-- The bytes of a text whose groups before the last one are complete. -/
def decodeGroups (offset : Nat) : List UInt8 → Except Fault (List UInt8)
  | [] => .ok []
  | a :: b :: c :: d :: e :: rest => do
    let va ← valueAt offset a
    let vb ← valueAt (offset + 1) b
    let vc ← valueAt (offset + 2) c
    let vd ← valueAt (offset + 3) d
    let bytes ← decodeGroups (offset + 4) (e :: rest)
    .ok (threeBytes va vb vc vd ++ bytes)
  | group => decodeLast offset group

/-- The **bytes** that a base 64 text stands for. -/
def decode (text : List UInt8) : Except Fault (List UInt8) :=
  match text.getLast? with
  | some last =>
    if text.length % 4 = 1 ∧ last ≠ pad ∧ value? last = none then
      .error (.invalidSymbol last (text.length - 1))
    else decodeGroups 0 text
  | none => .ok []

end Guildkeep.Packing.Base64
