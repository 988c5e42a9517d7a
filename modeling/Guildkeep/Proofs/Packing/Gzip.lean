import Guildkeep.Packing.Gzip

/-!
# Gzip Members Read Back

A member around stored blocks reads back, whatever the data and their length. Writing prefers the
packed form, but only when it reads back as well, so every written member does.

## Main results

* `gunzip_gzip`: **data read back** from their gzip member.

## Conventions

Streams are followed by arbitrary bytes: the reader hands these on as bits from a byte boundary.
-/

namespace Guildkeep.Packing

attribute [local instance (2000)] instPowNat instNatPowNat

/-! ### Bits -/

/-- No bytes have no bits. -/
@[simp] theorem bitsOfBytes_nil : bitsOfBytes [] = [] := rfl

/-- The bits of the first byte come **first**. -/
@[simp] theorem bitsOfBytes_cons (b : UInt8) (bytes : List UInt8) :
    bitsOfBytes (b :: bytes) = byteBits b ++ bitsOfBytes bytes := rfl

/-- Bits of bytes stand **in the order** of the bytes. -/
theorem bitsOfBytes_append (xs ys : List UInt8) :
    bitsOfBytes (xs ++ ys) = bitsOfBytes xs ++ bitsOfBytes ys :=
  List.flatMap_append

/-- A byte has **eight bits**. -/
theorem length_byteBits (b : UInt8) : (byteBits b).length = 8 :=
  length_bitsOf 8 b.toNat

/-- Bytes have **eight bits each**. -/
theorem length_bitsOfBytes (bytes : List UInt8) :
    (bitsOfBytes bytes).length = 8 * bytes.length := by
  induction bytes with
  | nil => rfl
  | cons b bytes ih =>
    rw [bitsOfBytes_cons, List.length_append, length_byteBits, ih, List.length_cons]
    omega

/-- Bytes stand at a **byte boundary**. -/
theorem alignBits_bitsOfBytes (bytes : List UInt8) :
    alignBits (bitsOfBytes bytes) = bitsOfBytes bytes := by
  have hlength := length_bitsOfBytes bytes
  rw [alignBits, show (bitsOfBytes bytes).length % 8 = 0 by omega, List.drop_zero]

/-- Bits that come later weigh **more**. -/
theorem ofBits_append (xs ys : List Bool) :
    ofBits (xs ++ ys) = ofBits xs + 2 ^ xs.length * ofBits ys := by
  induction xs with
  | nil => simp [ofBits]
  | cons b xs ih =>
    rw [List.cons_append, ofBits, ofBits, ih, List.length_cons, Nat.pow_succ, Nat.mul_add,
      Nat.mul_comm (2 ^ xs.length) 2, Nat.mul_assoc, Nat.add_assoc]

/-- The bits of a byte make **its number**. -/
theorem ofBits_byteBits (b : UInt8) : ofBits (byteBits b) = b.toNat := by
  have hlt : b.toNat < 2 ^ 8 := b.toNat_lt
  rw [byteBits, ofBits_bitsOf, Nat.mod_eq_of_lt hlt]

/-- A byte has the number that it is **made of**. -/
theorem toNat_ofNat {n : Nat} (h : n < 256) : (UInt8.ofNat n).toNat = n :=
  UInt8.toNat_ofNat_of_lt' h

/-- Bits that are there are **taken off**. -/
theorem need_append {n : Nat} {bits : List Bool} (rest : List Bool) (h : bits.length = n) :
    need n (bits ++ rest) = .ok (ofBits bits, rest) := by
  subst h
  rw [need, takeBits, if_pos (by simp), List.take_left, List.drop_left]

/-- A byte that is there is **taken off**. -/
theorem need_byte (b : UInt8) (rest : List Bool) :
    need 8 (byteBits b ++ rest) = .ok (b.toNat, rest) := by
  rw [need_append rest (length_byteBits b), ofBits_byteBits]

/-- Two bytes that are there are **taken off**, the lower one first. -/
theorem need_two_bytes (a b : UInt8) (rest : List Bool) :
    need 16 (byteBits a ++ (byteBits b ++ rest)) = .ok (a.toNat + 256 * b.toNat, rest) := by
  have hlength : (byteBits a ++ byteBits b).length = 16 := by
    rw [List.length_append, length_byteBits, length_byteBits]
  rw [← List.append_assoc, need_append rest hlength, ofBits_append, ofBits_byteBits,
    ofBits_byteBits, length_byteBits]

/-! ### Stored blocks -/

/-- Stored bytes are **read back**. -/
theorem storedBytes_bitsOfBytes (bytes : List UInt8) (out : Array UInt8) (rest : List Bool) :
    storedBytes bytes.length out (bitsOfBytes bytes ++ rest) =
      .ok (out ++ bytes.toArray, rest) := by
  induction bytes generalizing out with
  | nil => simp [storedBytes]
  | cons b bytes ih =>
    rw [List.length_cons, storedBytes, bitsOfBytes_cons, List.append_assoc, need_byte]
    change storedBytes bytes.length (out.push (UInt8.ofNat b.toNat)) _ = _
    rw [UInt8.ofNat_toNat, ih]
    simp

/-- The **length of a stored block** and its complement, read back. -/
theorem inflateStored_storedBlock {bytes : List UInt8} (h : bytes.length ≤ blockSize)
    (out : Array UInt8) (bits : List Bool) (tail : List UInt8)
    (hbits : alignBits bits = bitsOfBytes ((storedBlock true bytes).tail ++ tail)) :
    inflateStored out bits = .ok (out ++ bytes.toArray, bitsOfBytes tail) := by
  have hsize : blockSize = 65535 := rfl
  have hlow : (UInt8.ofNat (bytes.length % 256)).toNat +
      256 * (UInt8.ofNat (bytes.length / 256)).toNat = bytes.length := by
    rw [toNat_ofNat (by omega), toNat_ofNat (by omega)]
    omega
  have hhigh : (UInt8.ofNat ((65535 - bytes.length) % 256)).toNat +
      256 * (UInt8.ofNat ((65535 - bytes.length) / 256)).toNat = 65535 - bytes.length := by
    rw [toNat_ofNat (by omega), toNat_ofNat (by omega)]
    omega
  rw [inflateStored, hbits]
  simp only [storedBlock, List.cons_append, List.nil_append, List.tail_cons, bitsOfBytes_cons,
    bitsOfBytes_append]
  rw [need_two_bytes, hlow]
  simp only [bind, Except.bind]
  rw [need_two_bytes, hhigh]
  simp only []
  rw [if_pos (by omega), storedBytes_bitsOfBytes]

/-- The header of a stored block fills a byte, of which three bits count. -/
theorem byteBits_header (final : Bool) :
    byteBits (if final then 1 else 0) = [final] ++ ([false, false] ++ List.replicate 5 false) := by
  cases final <;> rfl

/-- **One stored block**, in front of arbitrary bytes. -/
theorem inflateBlocks_storedBlock {bytes : List UInt8} (h : bytes.length ≤ blockSize) (fuel : Nat)
    (out : Array UInt8) (final : Bool) (tail : List UInt8) :
    inflateBlocks (fuel + 1) out (bitsOfBytes (storedBlock final bytes ++ tail)) =
      if final then .ok (out ++ bytes.toArray, bitsOfBytes tail)
      else inflateBlocks fuel (out ++ bytes.toArray) (bitsOfBytes tail) := by
  have hcons : storedBlock final bytes ++ tail =
      (if final then 1 else 0) :: ((storedBlock true bytes).tail ++ tail) := rfl
  -- The five bits that fill up the header are passed over on the way to the byte boundary.
  have halign : alignBits (List.replicate 5 false ++
      bitsOfBytes ((storedBlock true bytes).tail ++ tail)) =
      bitsOfBytes ((storedBlock true bytes).tail ++ tail) := by
    have hlength := length_bitsOfBytes ((storedBlock true bytes).tail ++ tail)
    rw [alignBits, List.length_append, List.length_replicate,
      show (5 + (bitsOfBytes ((storedBlock true bytes).tail ++ tail)).length) % 8 = 5 by omega]
    rfl
  rw [hcons, bitsOfBytes_cons, byteBits_header, List.append_assoc, List.append_assoc, inflateBlocks,
    need_append (n := 1) _ rfl]
  simp only [bind, Except.bind]
  rw [need_append (n := 2) _ rfl]
  have htype : inflateBlock (ofBits [false, false]) out (List.replicate 5 false ++
      bitsOfBytes ((storedBlock true bytes).tail ++ tail)) =
      .ok (out ++ bytes.toArray, bitsOfBytes tail) :=
    inflateStored_storedBlock h out _ tail halign
  simp only [htype]
  cases final <;> rfl

/-- **All stored blocks**, in front of arbitrary bytes. -/
theorem inflateBlocks_storedBlocks {fuel blocks : Nat} {bytes : List UInt8}
    (hbytes : bytes.length ≤ (fuel + 1) * blockSize) (hblocks : fuel < blocks) (out : Array UInt8)
    (tail : List UInt8) :
    inflateBlocks blocks out (bitsOfBytes (storedBlocks fuel bytes ++ tail)) =
      .ok (out ++ bytes.toArray, bitsOfBytes tail) := by
  induction fuel generalizing bytes out blocks with
  | zero =>
    obtain ⟨blocks, rfl⟩ := Nat.exists_eq_succ_of_ne_zero (Nat.ne_zero_of_lt hblocks)
    rw [storedBlocks, inflateBlocks_storedBlock (by omega)]
    rfl
  | succ fuel ih =>
    obtain ⟨blocks, rfl⟩ := Nat.exists_eq_succ_of_ne_zero (Nat.ne_zero_of_lt hblocks)
    rw [storedBlocks]
    split
    case isTrue hlast =>
      rw [inflateBlocks_storedBlock hlast]
      rfl
    case isFalse hmore =>
      have htake : (bytes.take blockSize).length ≤ blockSize := List.length_take_le _ _
      have hdrop : (bytes.drop blockSize).length ≤ (fuel + 1) * blockSize := by
        rw [List.length_drop, Nat.sub_le_iff_le_add, ← Nat.succ_mul]
        exact hbytes
      rw [List.append_assoc, inflateBlocks_storedBlock htake]
      simp only [Bool.false_eq_true, if_false]
      rw [ih hdrop (by omega), Array.append_assoc]
      simp only [List.append_toArray, List.take_append_drop]

/-- Stored blocks are no shorter than the data. -/
theorem length_le_length_storedBlocks (fuel : Nat) (bytes : List UInt8) :
    bytes.length ≤ (storedBlocks fuel bytes).length := by
  have hblock (final : Bool) (part : List UInt8) :
      part.length ≤ (storedBlock final part).length := by
    simp only [storedBlock, List.length_append]
    omega
  induction fuel generalizing bytes with
  | zero => exact hblock true bytes
  | succ fuel ih =>
    rw [storedBlocks]
    split
    · exact hblock true bytes
    · have htake := hblock false (bytes.take blockSize)
      have hdrop := ih (bytes.drop blockSize)
      rw [List.length_take] at htake
      rw [List.length_drop] at hdrop
      rw [List.length_append]
      omega

/-- **Data read back** from their stored stream, and the bytes behind it are handed on. -/
theorem inflate_stored (bytes tail : List UInt8) :
    inflate (bitsOfBytes (stored bytes ++ tail)) = .ok (bytes.toArray, bitsOfBytes tail) := by
  have hbytes : bytes.length ≤ (bytes.length + 1) * blockSize :=
    Nat.le_trans (Nat.le_succ _) (Nat.le_mul_of_pos_right _ (by decide))
  have hblocks : bytes.length <
      (bitsOfBytes (storedBlocks bytes.length bytes ++ tail)).length.succ := by
    have hstored := length_le_length_storedBlocks bytes.length bytes
    rw [length_bitsOfBytes, List.length_append]
    omega
  rw [inflate, stored, inflateBlocks_storedBlocks hbytes hblocks, Array.empty_append]

/-! ### Members -/

/-- A number is **read back** from its bytes, as far as they hold it. -/
theorem littleEndian_toLittleEndian (n v : Nat) :
    littleEndian (toLittleEndian n v) = v % 256 ^ n := by
  induction n generalizing v with
  | zero => rw [toLittleEndian, littleEndian, Nat.pow_zero, Nat.mod_one]
  | succ n ih =>
    rw [toLittleEndian, littleEndian, toNat_ofNat (Nat.mod_lt _ (by decide)), ih, Nat.pow_succ,
      Nat.mul_comm (256 ^ n) 256, Nat.mod_mul]

/-- A number is written in **as many bytes** as it is given. -/
theorem length_toLittleEndian (n v : Nat) : (toLittleEndian n v).length = n := by
  induction n generalizing v with
  | zero => rfl
  | succ n ih => rw [toLittleEndian, List.length_cons, ih]

/-- Bytes that are there are **split off**. -/
theorem splitBytes_append {n : Nat} {bytes : List UInt8} (rest : List UInt8)
    (h : bytes.length = n) : splitBytes n (bytes ++ rest) = .ok (bytes, rest) := by
  subst h
  rw [splitBytes, if_pos (by simp), List.take_left, List.drop_left]

/-- The body of a member is its **stream and trailer**. -/
theorem gzipBody_member (stream data : List UInt8) :
    gzipBody (member stream data) =
      .ok (stream ++ (toLittleEndian 4 (crc32 data).toNat ++ toLittleEndian 4 data.length)) := by
  rw [gzipBody, member, List.append_assoc, List.append_assoc, splitBytes_append (n := 10) _ rfl]
  rfl

/-- A member around a stream that inflates to the data reads back. -/
theorem gunzip_member {stream data : List UInt8}
    (h : ∀ tail, inflate (bitsOfBytes (stream ++ tail)) = .ok (data.toArray, bitsOfBytes tail)) :
    gunzip (member stream data) = .ok data := by
  have hcrc : (crc32 data).toNat % 256 ^ 4 = (crc32 data).toNat :=
    Nat.mod_eq_of_lt (crc32 data).toNat_lt
  rw [gunzip, gzipBody_member]
  simp only [bind, Except.bind, h]
  rw [alignBits_bitsOfBytes, bytesOfBits_bitsOfBytes,
    splitBytes_append _ (length_toLittleEndian 4 _)]
  simp only []
  rw [← List.append_nil (toLittleEndian 4 data.length),
    splitBytes_append _ (length_toLittleEndian 4 _)]
  simp only []
  rw [littleEndian_toLittleEndian, littleEndian_toLittleEndian, hcrc, if_pos ⟨rfl, rfl⟩]

/-- **Data read back** from their gzip member. -/
theorem gunzip_gzip (data : List UInt8) : gunzip (gzip data) = .ok data := by
  have hstored : gunzip (member (stored data) data) = .ok data :=
    gunzip_member (inflate_stored data)
  rw [gzip]
  split
  case h_1 back hback =>
    split
    case isTrue heq => rw [hback, heq]
    case isFalse => exact hstored
  case h_2 => exact hstored

end Guildkeep.Packing
