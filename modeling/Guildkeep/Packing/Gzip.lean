import Guildkeep.Packing.Crc32
import Guildkeep.Packing.Deflate

/-!
# Gzip Members

A gzip member is a header, a deflate stream, the checksum and the length of the data. Reading takes
the first member and ignores what follows it.

## Conventions

Writing packs the data and checks on the spot that reading gives it back; data for which that were
not so would be stored unpacked.
-/

namespace Guildkeep.Packing

attribute [local instance (2000)] instPowNat instNatPowNat

/-- Why bytes are **no gzip member**. -/
inductive GzipFault where
  | endOfFile
  | header
  | checksum
  | deflate (why : DeflateFault)
  deriving DecidableEq, Repr

/-- The wording of a fault. -/
def GzipFault.message : GzipFault → String
  | endOfFile => "unexpected end of file"
  | header => "invalid gzip header"
  | checksum => "corrupt gzip stream does not have a matching checksum"
  | deflate .incomplete => "incomplete deflate stream"
  | deflate .corrupt => "corrupt deflate stream"

/-! ### Header -/

/-- Cuts off the first `n` bytes. -/
def splitBytes (n : Nat) (bytes : List UInt8) : Except GzipFault (List UInt8 × List UInt8) :=
  if n ≤ bytes.length then .ok (bytes.take n, bytes.drop n) else .error .endOfFile

/-- The number that bytes stand for, the low byte first. -/
def littleEndian : List UInt8 → Nat
  | [] => 0
  | b :: bs => b.toNat + 256 * littleEndian bs

/-- The bytes of a number, the low byte first. -/
def toLittleEndian : Nat → Nat → List UInt8
  | 0, _ => []
  | n + 1, v => UInt8.ofNat (v % 256) :: toLittleEndian n (v / 256)

/-- Passes over an optional field of known length, which two bytes give. -/
def extraField (present : Bool) (bytes : List UInt8) : Except GzipFault (List UInt8) :=
  if present then do
    let (size, rest) ← splitBytes 2 bytes
    let (_, rest) ← splitBytes (littleEndian size) rest
    .ok rest
  else .ok bytes

/-- Passes over an optional text that a zero byte ends. -/
def textField (present : Bool) (bytes : List UInt8) : Except GzipFault (List UInt8) :=
  if present then
    match bytes.dropWhile (· ≠ 0) with
    | [] => .error .endOfFile
    | _ :: rest => .ok rest
  else .ok bytes

/-- Checks the optional checksum of the header, which covers everything before it. -/
def headerCheck (present : Bool) (all bytes : List UInt8) : Except GzipFault (List UInt8) :=
  if present then do
    let (sum, rest) ← splitBytes 2 bytes
    let covered := all.take (all.length - bytes.length)
    if littleEndian sum = (crc32 covered).toNat % 65536 then .ok rest else .error .checksum
  else .ok bytes

/-- Whether a flag is set. -/
def flag (flags : UInt8) (bit : Nat) : Bool :=
  flags.toNat / 2 ^ bit % 2 = 1

/-- The bytes behind the header. -/
def gzipBody (bytes : List UInt8) : Except GzipFault (List UInt8) := do
  let (fixed, rest) ← splitBytes 10 bytes
  match fixed with
  | a :: b :: method :: flags :: _ =>
    if a ≠ 0x1f ∨ b ≠ 0x8b ∨ method ≠ 8 ∨ 32 ≤ flags.toNat then .error .header
    else do
      let rest ← extraField (flag flags 2) rest
      let rest ← textField (flag flags 3) rest
      let rest ← textField (flag flags 4) rest
      headerCheck (flag flags 1) bytes rest
  | _ => .error .header

/-! ### Members -/

/-- The **data** of the first gzip member. -/
def gunzip (bytes : List UInt8) : Except GzipFault (List UInt8) := do
  let body ← gzipBody bytes
  match inflate (bitsOfBytes body) with
  | .error why => .error (.deflate why)
  | .ok (data, bits) => do
    let (sum, rest) ← splitBytes 4 (bytesOfBits (alignBits bits))
    let (size, _) ← splitBytes 4 rest
    let data := data.toList
    if littleEndian sum = (crc32 data).toNat ∧ littleEndian size = data.length % 4294967296 then
      .ok data
    else .error .checksum

/-- A gzip member around a deflate stream of the data. -/
def member (stream data : List UInt8) : List UInt8 :=
  [0x1f, 0x8b, 8, 0, 0, 0, 0, 0, 0, 0xff] ++ stream ++
    toLittleEndian 4 (crc32 data).toNat ++ toLittleEndian 4 data.length

/-- The data as a **gzip member**. -/
def gzip (data : List UInt8) : List UInt8 :=
  let short := member (packed data) data
  match gunzip short with
  | .ok back => if back = data then short else member (stored data) data
  | .error _ => member (stored data) data

end Guildkeep.Packing
