/-!
# Bytes Shown as Text

Bytes that should be UTF-8 but may not be. Where the bytes are well-formed they are shown as the
characters that they encode; a replacement character stands for every longest run of bytes that
starts a character and does not end it, and for every byte that starts none.
-/

namespace Guildkeep.Text

/-- The character for what cannot be shown. -/
def replacement : Char := '\uFFFD'

/-- A character that has **begun**: the number so far, the range of the next byte, and how many
bytes follow that one. -/
structure Begun where
  value : Nat
  low : Nat
  high : Nat
  more : Nat

/-- What a byte outside ASCII begins, if it can begin a character. The range of the second byte
excludes longer forms than needed, surrogates, and numbers beyond the last code point. -/
def Begun.of? (b : Nat) : Option Begun :=
  if 0xC2 ≤ b ∧ b ≤ 0xDF then some ⟨b - 0xC0, 0x80, 0xBF, 0⟩
  else if b = 0xE0 then some ⟨0, 0xA0, 0xBF, 1⟩
  else if b = 0xED then some ⟨0xD, 0x80, 0x9F, 1⟩
  else if 0xE1 ≤ b ∧ b ≤ 0xEF then some ⟨b - 0xE0, 0x80, 0xBF, 1⟩
  else if b = 0xF0 then some ⟨0, 0x90, 0xBF, 2⟩
  else if 0xF1 ≤ b ∧ b ≤ 0xF3 then some ⟨b - 0xF0, 0x80, 0xBF, 2⟩
  else if b = 0xF4 then some ⟨4, 0x80, 0x8F, 2⟩
  else none

/-- What one byte shows, and what has begun after it. -/
def showByte (begun : Option Begun) (b : Nat) : List Char × Option Begun :=
  match begun with
  | none => fresh b
  | some p =>
    if p.low ≤ b ∧ b ≤ p.high then
      let value := p.value * 64 + (b - 0x80)
      match p.more with
      | 0 => ([Char.ofNat value], none)
      | more + 1 => ([], some ⟨value, 0x80, 0xBF, more⟩)
    else
      let (chars, begun) := fresh b
      (replacement :: chars, begun)
where
  /-- What a byte shows where no character has begun. -/
  fresh (b : Nat) : List Char × Option Begun :=
    if b < 0x80 then ([Char.ofNat b], none)
    else
      match Begun.of? b with
      | some p => ([], some p)
      | none => ([replacement], none)

/-- The characters of bytes, after what has begun. -/
def showBytes : Option Begun → List UInt8 → List Char
  | none, [] => []
  | some _, [] => [replacement]
  | begun, b :: rest =>
    let (chars, begun) := showByte begun b.toNat
    chars ++ showBytes begun rest

/-- Bytes as **text**, with replacements where they are no text. -/
def lossy (bytes : List UInt8) : String :=
  String.ofList (showBytes none bytes)

end Guildkeep.Text
