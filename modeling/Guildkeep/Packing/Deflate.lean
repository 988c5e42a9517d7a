import Guildkeep.Packing.Inflate
import Std.Data.HashMap

/-!
# Deflating

Two writers of deflate streams. `stored` copies the data in blocks of at most 65535 bytes. `packed`
looks for repeated stretches of three or more bytes and writes literals and copies under the fixed
codes; it is the shorter one on texts such as saves.
-/

namespace Guildkeep.Packing

/-! ### Stored blocks -/

/-- The most bytes that a stored block holds. -/
def blockSize : Nat := 65535

/-- One stored block: its header fills a byte. -/
def storedBlock (final : Bool) (bytes : List UInt8) : List UInt8 :=
  let n := bytes.length
  let m := 65535 - n
  [if final then 1 else 0, UInt8.ofNat (n % 256), UInt8.ofNat (n / 256), UInt8.ofNat (m % 256),
   UInt8.ofNat (m / 256)] ++ bytes

/-- The data in stored blocks; `fuel` bounds their number. -/
def storedBlocks : Nat → List UInt8 → List UInt8
  | 0, bytes => storedBlock true bytes
  | fuel + 1, bytes =>
    if bytes.length ≤ blockSize then storedBlock true bytes
    else storedBlock false (bytes.take blockSize) ++ storedBlocks fuel (bytes.drop blockSize)

/-- The data as a stream of **stored blocks**. -/
def stored (bytes : List UInt8) : List UInt8 :=
  storedBlocks bytes.length bytes

/-! ### Literals and copies -/

/-- A piece of the data: a byte, or a copy of what stands some distance back. -/
inductive Piece where
  | literal (b : UInt8)
  | copy (length distance : Nat)
  deriving DecidableEq, Repr

/-- How many bytes agree from two places on, at most `limit`. -/
def agreement (data : Array UInt8) (i j : Nat) : Nat → Nat
  | 0 => 0
  | limit + 1 =>
    if j < data.size ∧ data[i]? = data[j]? then 1 + agreement data (i + 1) (j + 1) limit else 0

/-- The three bytes from a place on as one number. -/
def trigram (data : Array UInt8) (i : Nat) : Option Nat :=
  match data[i]?, data[i + 1]?, data[i + 2]? with
  | some a, some b, some c => some ((a.toNat * 256 + b.toNat) * 256 + c.toNat)
  | _, _, _ => none

/-- The pieces of the data from a place on. `seen` knows where each three bytes stood last. -/
def pieces (data : Array UInt8) : Nat → Nat → Std.HashMap Nat Nat → List Piece
  | 0, _, _ => []
  | fuel + 1, i, seen =>
    match data[i]? with
    | none => []
    | some b =>
      match trigram data i with
      | none => .literal b :: pieces data fuel (i + 1) seen
      | some key =>
        let later := seen.insert key i
        match seen[key]? with
        | none => .literal b :: pieces data fuel (i + 1) later
        | some j =>
          let length := agreement data j i 258
          if 3 ≤ length ∧ i - j ≤ 32768 then
            .copy length (i - j) :: pieces data fuel (i + length) later
          else .literal b :: pieces data fuel (i + 1) later

/-! ### Fixed codes -/

/-- The bits of a code, which stands high bit first. -/
def codeBits (length code : Nat) : List Bool :=
  (bitsOf length code).reverse

/-- The fixed code of a literal or length symbol. -/
def fixedSymbol (s : Nat) : List Bool :=
  if s < 144 then codeBits 8 (48 + s)
  else if s < 256 then codeBits 9 (400 + (s - 144))
  else if s < 280 then codeBits 7 (s - 256)
  else codeBits 8 (192 + (s - 280))

/-- The last row of a table whose base is not above an amount: its index, and the row. -/
def tableRow (table : List (Nat × Nat)) (n : Nat) : Nat × Nat × Nat :=
  ((table.zipIdx.filter fun p => p.1.1 ≤ n).getLast?.map fun p => (p.2, p.1.1, p.1.2)).getD
    (0, 0, 0)

/-- The bits of a piece. -/
def pieceBits : Piece → List Bool
  | .literal b => fixedSymbol b.toNat
  | .copy length distance =>
    let (ls, lbase, lextra) := tableRow lengthTable length
    let (ds, dbase, dextra) := tableRow distanceTable distance
    fixedSymbol (257 + ls) ++ bitsOf lextra (length - lbase) ++ codeBits 5 ds ++
      bitsOf dextra (distance - dbase)

/-- The data as one block under the **fixed codes**. -/
def packed (bytes : List UInt8) : List UInt8 :=
  let data := bytes.toArray
  let body := (pieces data data.size 0 {}).flatMap pieceBits
  bytesOfBits (true :: true :: false :: body ++ fixedSymbol 256)

end Guildkeep.Packing
