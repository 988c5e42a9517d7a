import Guildkeep.Packing.Huffman

/-!
# Inflating

The decoder for deflate streams. A stream is a row of blocks: stored bytes, or symbols under a
prefix code that is either fixed or described in front of the block. A copy symbol repeats bytes
from up to 32768 places back; what lies before the start of the data counts as zeros.

## Main results

* `inflate` yields the data and the bits behind the stream, or the first fault.
-/

namespace Guildkeep.Packing

/-- The next `n` bits as a number; the stream is incomplete if there are too few. -/
def need (n : Nat) (bits : List Bool) : Except DeflateFault (Nat × List Bool) :=
  match takeBits n bits with
  | some r => .ok r
  | none => .error .incomplete

/-! ### Copies -/

/-- Base length and number of extra bits of the length symbols 257, 258, …. -/
def lengthTable : List (Nat × Nat) :=
  [(3, 0), (4, 0), (5, 0), (6, 0), (7, 0), (8, 0), (9, 0), (10, 0), (11, 1), (13, 1), (15, 1),
   (17, 1), (19, 2), (23, 2), (27, 2), (31, 2), (35, 3), (43, 3), (51, 3), (59, 3), (67, 4),
   (83, 4), (99, 4), (115, 4), (131, 5), (163, 5), (195, 5), (227, 5), (258, 0)]

/-- Base distance and number of extra bits of the distance symbols. -/
def distanceTable : List (Nat × Nat) :=
  [(1, 0), (2, 0), (3, 0), (4, 0), (5, 1), (7, 1), (9, 2), (13, 2), (17, 3), (25, 3), (33, 4),
   (49, 4), (65, 5), (97, 5), (129, 6), (193, 6), (257, 7), (385, 7), (513, 8), (769, 8),
   (1025, 9), (1537, 9), (2049, 10), (3073, 10), (4097, 11), (6145, 11), (8193, 12), (12289, 12),
   (16385, 13), (24577, 13)]

/-- The amount that a symbol of a table stands for, with its extra bits. -/
def amount (table : List (Nat × Nat)) (index : Nat) (bits : List Bool) :
    Except DeflateFault (Nat × List Bool) :=
  match table[index]? with
  | some (base, extra) => do
    let (n, bits) ← need extra bits
    .ok (base + n, bits)
  | none => .error .corrupt

/-- Repeats `length` bytes from `distance` places back. -/
def copyBack (distance : Nat) : Nat → Array UInt8 → Array UInt8
  | 0, out => out
  | length + 1, out =>
    let b := if distance ≤ out.size then out[out.size - distance]?.getD 0 else 0
    copyBack distance length (out.push b)

/-! ### Blocks of symbols -/

/-- The two codes of a block: literals with lengths, and distances. -/
structure BlockCodes where
  literals : Code
  distances : Code

/-- The codes of a block with fixed codes. -/
def fixedCodes : BlockCodes where
  literals := Code.ofLengths (List.replicate 144 8 ++ List.replicate 112 9 ++ List.replicate 24 7 ++
    List.replicate 8 8)
  distances := Code.ofLengths (List.replicate 32 5)

/-- The symbols of a block up to its end mark; `fuel` bounds their number. -/
def inflateSymbols (codes : BlockCodes) : Nat → Array UInt8 → List Bool →
    Except DeflateFault (Array UInt8 × List Bool)
  | 0, _, _ => .error .incomplete
  | fuel + 1, out, bits => do
    let (symbol, bits) ← codes.literals.decode bits
    if symbol < 256 then inflateSymbols codes fuel (out.push (UInt8.ofNat symbol)) bits
    else if symbol = 256 then .ok (out, bits)
    else do
      let (length, bits) ← amount lengthTable (symbol - 257) bits
      let (index, bits) ← codes.distances.decode bits
      let (distance, bits) ← amount distanceTable index bits
      inflateSymbols codes fuel (copyBack distance length out) bits

/-! ### Described codes -/

/-- The order in which the lengths of the length code are written. -/
def lengthOrder : List Nat :=
  [16, 17, 18, 0, 8, 7, 9, 6, 10, 5, 11, 4, 12, 3, 13, 2, 14, 1, 15]

/-- `n` numbers of three bits. -/
def threeBitNumbers : Nat → List Bool → Except DeflateFault (List Nat × List Bool)
  | 0, bits => .ok ([], bits)
  | n + 1, bits => do
    let (v, bits) ← need 3 bits
    let (vs, bits) ← threeBitNumbers n bits
    .ok (v :: vs, bits)

/-- The lengths of the length code, by symbol. -/
def lengthCodeLengths (written : List Nat) : List Nat :=
  (List.range 19).map fun s => ((lengthOrder.zip written).lookup s).getD 0

/-- The code lengths of both codes together, `total` of them, in run-length form. The second list
holds the lengths so far, the last one first. -/
def codeLengths (code : Code) (total : Nat) : Nat → List Nat → List Bool →
    Except DeflateFault (List Nat × List Bool)
  | 0, _, _ => .error .incomplete
  | fuel + 1, done, bits =>
    if total < done.length then .error .corrupt
    else if done.length = total then .ok (done.reverse, bits)
    else do
      let (symbol, bits) ← code.decode bits
      if symbol < 16 then codeLengths code total fuel (symbol :: done) bits
      else if symbol = 16 then
        match done with
        | [] => .error .corrupt
        | last :: _ => do
          let (n, bits) ← need 2 bits
          codeLengths code total fuel (List.replicate (n + 3) last ++ done) bits
      else if symbol = 17 then do
        let (n, bits) ← need 3 bits
        codeLengths code total fuel (List.replicate (n + 3) 0 ++ done) bits
      else do
        let (n, bits) ← need 7 bits
        codeLengths code total fuel (List.replicate (n + 11) 0 ++ done) bits

/-- The codes that stand described in front of a block. -/
def describedCodes (bits : List Bool) : Except DeflateFault (BlockCodes × List Bool) := do
  let (hlit, bits) ← need 5 bits
  let (hdist, bits) ← need 5 bits
  let (hclen, bits) ← need 4 bits
  let literals := hlit + 257
  let distances := hdist + 1
  if 286 < literals ∨ 30 < distances then .error .corrupt
  else do
    let (written, bits) ← threeBitNumbers (hclen + 4) bits
    let lengths := lengthCodeLengths written
    if !Code.isComplete lengths then .error .corrupt
    else do
      let total := literals + distances
      let (all, bits) ← codeLengths (Code.ofLengths lengths) total (total + 1) [] bits
      let literalLengths := all.take literals
      let distanceLengths := all.drop literals
      if Code.isAcceptable literalLengths && Code.isAcceptable distanceLengths then
        .ok (⟨Code.ofLengths literalLengths, Code.ofLengths distanceLengths⟩, bits)
      else .error .corrupt

/-! ### Streams -/

/-- The next `n` bytes. -/
def storedBytes : Nat → Array UInt8 → List Bool → Except DeflateFault (Array UInt8 × List Bool)
  | 0, out, bits => .ok (out, bits)
  | n + 1, out, bits => do
    let (b, bits) ← need 8 bits
    storedBytes n (out.push (UInt8.ofNat b)) bits

/-- The bits from the next byte boundary on. -/
def alignBits (bits : List Bool) : List Bool :=
  bits.drop (bits.length % 8)

/-- A block of stored bytes: its length, the complement of its length, and the bytes. -/
def inflateStored (out : Array UInt8) (bits : List Bool) :
    Except DeflateFault (Array UInt8 × List Bool) := do
  let (length, bits) ← need 16 (alignBits bits)
  let (complement, bits) ← need 16 bits
  if length + complement = 65535 then storedBytes length out bits else .error .corrupt

/-- One block behind its header, by its type. -/
def inflateBlock (type : Nat) (out : Array UInt8) (bits : List Bool) :
    Except DeflateFault (Array UInt8 × List Bool) :=
  if type = 0 then inflateStored out bits
  else if type = 1 then inflateSymbols fixedCodes bits.length.succ out bits
  else if type = 2 then do
    let (codes, bits) ← describedCodes bits
    inflateSymbols codes bits.length.succ out bits
  else .error .corrupt

/-- The blocks up to the final one; `fuel` bounds their number. -/
def inflateBlocks : Nat → Array UInt8 → List Bool → Except DeflateFault (Array UInt8 × List Bool)
  | 0, _, _ => .error .incomplete
  | fuel + 1, out, bits => do
    let (final, bits) ← need 1 bits
    let (type, bits) ← need 2 bits
    let (out, bits) ← inflateBlock type out bits
    if final = 1 then .ok (out, bits) else inflateBlocks fuel out bits

/-- The **data** of a deflate stream, with the bits behind it. -/
def inflate (bits : List Bool) : Except DeflateFault (Array UInt8 × List Bool) :=
  inflateBlocks bits.length.succ #[] bits

end Guildkeep.Packing
