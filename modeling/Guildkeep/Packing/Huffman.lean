import Guildkeep.Packing.Bits

/-!
# Canonical Prefix Codes

A prefix code is given by the length of each symbol's code; codes of one length are consecutive
numbers in the order of their symbols. Decoding needs only how many codes there are of each length
and the symbols in the order of their codes.
-/

namespace Guildkeep.Packing

/-- Why compressed bytes are **not read**. -/
inductive DeflateFault where
  /-- The bytes end inside the stream. -/
  | incomplete
  /-- The stream says something that no stream may say. -/
  | corrupt
  deriving DecidableEq, Repr

/-- A **prefix code**: the number of codes of each length from 1 up, and the symbols in the order of
their codes. -/
structure Code where
  counts : List Nat
  symbols : Array Nat

namespace Code

/-- The longest code of a stream. -/
def maxLength : Nat := 15

/-- The code in which symbol `s` has a code of length `lengths[s]`, or none if that is 0. -/
def ofLengths (lengths : List Nat) : Code where
  counts := (List.range maxLength).map fun n => lengths.count (n + 1)
  symbols :=
    ((List.range maxLength).flatMap fun n =>
      (lengths.zipIdx.filter fun p => p.1 = n + 1).map (·.2)).toArray

/-- How many codes of the greatest length the code leaves unused or uses too often, counted from a
full code: zero for a complete one. -/
def room (counts : List Nat) : Int :=
  counts.foldl (fun (left : Int) (n : Nat) => 2 * left - n) 1

/-- Whether the lengths describe a complete code. -/
def isComplete (lengths : List Nat) : Bool :=
  room (ofLengths lengths).counts = 0

/-- Whether the lengths may describe a code: it is complete, or it has no symbol, or one symbol with
the shortest code there is. -/
def isAcceptable (lengths : List Nat) : Bool :=
  let used := lengths.filter (· ≠ 0)
  isComplete lengths || used = [] || used = [1]

/-- Walks down the lengths: `code` is the code so far, `first` the first code of this length and
`index` the place of its symbol. Bits that no code starts with are refused as soon as they are
seen. -/
def decodeFrom (symbols : Array Nat) : List Nat → Nat → Nat → Nat → List Bool →
    Except DeflateFault (Nat × List Bool)
  | [], _, _, _, _ => .error .corrupt
  | _ :: _, _, _, _, [] => .error .incomplete
  | count :: counts, code, first, index, bit :: bits =>
    let code := 2 * code + (if bit then 1 else 0)
    if code < first + count then
      match symbols[index + (code - first)]? with
      | some s => .ok (s, bits)
      | none => .error .corrupt
    else if counts.all (· = 0) then .error .corrupt
    else decodeFrom symbols counts code (2 * (first + count)) (index + count) bits

/-- The **symbol** in front of the bits. -/
def decode (code : Code) (bits : List Bool) : Except DeflateFault (Nat × List Bool) :=
  decodeFrom code.symbols code.counts 0 0 0 bits

end Code

end Guildkeep.Packing
