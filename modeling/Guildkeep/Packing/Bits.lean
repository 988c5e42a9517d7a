/-!
# Bit Streams

A deflate stream is a sequence of bits, taken from each byte from the low end. Numbers stand in it
low bit first.

## Main results

* `bytesOfBits_bitsOfBytes`: packing the bits of bytes gives the bytes back.
-/

namespace Guildkeep.Packing

attribute [local instance (2000)] instPowNat instNatPowNat

/-- The low `n` bits of a number, the lowest first. -/
def bitsOf : Nat → Nat → List Bool
  | 0, _ => []
  | n + 1, v => (v % 2 = 1) :: bitsOf n (v / 2)

/-- The number with these bits, the lowest first. -/
def ofBits : List Bool → Nat
  | [] => 0
  | b :: bs => (if b then 1 else 0) + 2 * ofBits bs

/-- The bits of a byte. -/
def byteBits (b : UInt8) : List Bool :=
  bitsOf 8 b.toNat

/-- The bits of bytes. -/
def bitsOfBytes (bytes : List UInt8) : List Bool :=
  bytes.flatMap byteBits

/-- Packs bits into bytes; a last group that is not full is filled up with zeros. -/
def bytesOfBits : List Bool → List UInt8
  | [] => []
  | [a] => [UInt8.ofNat (ofBits [a])]
  | [a, b] => [UInt8.ofNat (ofBits [a, b])]
  | [a, b, c] => [UInt8.ofNat (ofBits [a, b, c])]
  | [a, b, c, d] => [UInt8.ofNat (ofBits [a, b, c, d])]
  | [a, b, c, d, e] => [UInt8.ofNat (ofBits [a, b, c, d, e])]
  | [a, b, c, d, e, f] => [UInt8.ofNat (ofBits [a, b, c, d, e, f])]
  | [a, b, c, d, e, f, g] => [UInt8.ofNat (ofBits [a, b, c, d, e, f, g])]
  | a :: b :: c :: d :: e :: f :: g :: h :: rest =>
    UInt8.ofNat (ofBits [a, b, c, d, e, f, g, h]) :: bytesOfBits rest

/-- The number in the next `n` bits, with the bits behind; none if there are too few. -/
def takeBits (n : Nat) (bits : List Bool) : Option (Nat × List Bool) :=
  if n ≤ bits.length then some (ofBits (bits.take n), bits.drop n) else none

/-! ### Laws -/

/-- There are **as many bits** as are asked for. -/
@[simp] theorem length_bitsOf (n v : Nat) : (bitsOf n v).length = n := by
  induction n generalizing v with
  | zero => rfl
  | succ n ih => simp [bitsOf, ih]

/-- A number is **read back** from its bits, as far as they hold it. -/
theorem ofBits_bitsOf (n v : Nat) : ofBits (bitsOf n v) = v % 2 ^ n := by
  induction n generalizing v with
  | zero => simp [bitsOf, ofBits, Nat.mod_one]
  | succ n ih =>
    rw [bitsOf, ofBits, ih, Nat.pow_succ, Nat.mul_comm (2 ^ n) 2, Nat.mod_mul]
    rcases Nat.mod_two_eq_zero_or_one v with h | h <;> simp [h]

/-- Packing the bits of bytes gives **the bytes back**. -/
theorem bytesOfBits_bitsOfBytes (bytes : List UInt8) :
    bytesOfBits (bitsOfBytes bytes) = bytes := by
  induction bytes with
  | nil => rfl
  | cons b bs ih =>
    have hb : UInt8.ofNat (ofBits (byteBits b)) = b := by
      have hlt : b.toNat < 2 ^ 8 := b.toNat_lt
      rw [byteBits, ofBits_bitsOf, Nat.mod_eq_of_lt hlt, UInt8.ofNat_toNat]
    rw [bitsOfBytes, List.flatMap_cons]
    change bytesOfBits (byteBits b ++ bitsOfBytes bs) = b :: bs
    rw [byteBits, bitsOf, bitsOf, bitsOf, bitsOf, bitsOf, bitsOf, bitsOf, bitsOf, bitsOf] at hb ⊢
    simp only [List.cons_append, List.nil_append, bytesOfBits, hb, ih]

end Guildkeep.Packing
