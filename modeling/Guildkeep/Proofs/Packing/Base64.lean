import Guildkeep.Packing.Base64

/-!
# Base 64 Reads Back

The strict reader takes everything that the writer writes, whatever the number of bytes left over
for the last group.

## Main results

* `decode_encode`: **bytes read back** from their base 64 text.
* `toNat_of_mem_encode`: the text has visible ASCII characters only.
-/

namespace Guildkeep.Packing.Base64

/-! ### Symbols -/

/-- A symbol has **its value**. -/
theorem value?_symbol : ∀ {n : Nat}, n < 64 → value? (symbol n) = some n := by
  decide

/-- No symbol is the **padding**. -/
theorem symbol_ne_pad : ∀ {n : Nat}, n < 64 → symbol n ≠ pad := by
  decide

/-- The symbols are **visible** characters of ASCII. -/
theorem toNat_symbol : ∀ {n : Nat}, n < 64 → 43 ≤ (symbol n).toNat ∧ (symbol n).toNat < 123 := by
  decide

/-- A symbol has its value **wherever it stands**. -/
theorem valueAt_symbol (offset : Nat) {n : Nat} (h : n < 64) :
    valueAt offset (symbol n) = .ok n := by
  rw [valueAt, value?_symbol h]

/-- Every byte of a base 64 text is a **visible ASCII** character. -/
theorem toNat_of_mem_encode {bytes : List UInt8} {b : UInt8} (h : b ∈ encode bytes) :
    43 ≤ b.toNat ∧ b.toNat < 123 := by
  have hpad : 43 ≤ pad.toNat ∧ pad.toNat < 123 := by decide
  fun_induction encode bytes with
  | case1 => simp at h
  | case2 a n =>
    have ha := a.toNat_lt
    simp only [List.mem_cons, List.not_mem_nil, or_false] at h
    rcases h with rfl | rfl | rfl | rfl
    · exact toNat_symbol (by omega)
    · exact toNat_symbol (by omega)
    · exact hpad
    · exact hpad
  | case3 a b n =>
    have ha := a.toNat_lt
    have hb := b.toNat_lt
    simp only [List.mem_cons, List.not_mem_nil, or_false] at h
    rcases h with rfl | rfl | rfl | rfl
    · exact toNat_symbol (by omega)
    · exact toNat_symbol (by omega)
    · exact toNat_symbol (by omega)
    · exact hpad
  | case4 a b c rest n ih =>
    have ha := a.toNat_lt
    have hb := b.toNat_lt
    have hc := c.toNat_lt
    simp only [List.mem_cons] at h
    rcases h with rfl | rfl | rfl | rfl | h
    · exact toNat_symbol (by omega)
    · exact toNat_symbol (by omega)
    · exact toNat_symbol (by omega)
    · exact toNat_symbol (by omega)
    · exact ih h

/-- The symbols stand in groups of four. -/
theorem length_encode_mod (bytes : List UInt8) : (encode bytes).length % 4 = 0 := by
  fun_induction encode bytes with
  | case1 => simp
  | case2 => simp
  | case3 => simp
  | case4 a b c rest n ih =>
    simp only [List.length_cons]
    omega

/-- What is not empty is **not encoded** as nothing. -/
theorem encode_ne_nil {bytes : List UInt8} (h : bytes ≠ []) : encode bytes ≠ [] := by
  fun_induction encode bytes with
  | case1 => exact absurd rfl h
  | case2 => simp
  | case3 => simp
  | case4 => simp

/-! ### The last group -/

/-- A byte is made of **its number**. -/
theorem ofNat_eq_of_toNat {n : Nat} {b : UInt8} (h : n = b.toNat) : UInt8.ofNat n = b := by
  rw [h, UInt8.ofNat_toNat]

/-- A symbol in the last group adds its **value**. -/
theorem lastGroup_symbol (offset : Nat) (rest : List UInt8) (index : Nat) (values : List Nat)
    (last : UInt8) (pads : Nat) {n : Nat} (h : n < 64) :
    lastGroup offset (symbol n :: rest) index values last none pads =
      lastGroup offset rest (index + 1) (n :: values) (symbol n) none pads := by
  rw [lastGroup, if_neg (symbol_ne_pad h)]
  simp only [value?_symbol h]

/-- Padding in the last group adds **no value**. -/
theorem lastGroup_pad (offset : Nat) (rest : List UInt8) {index : Nat} (values : List Nat)
    (last : UInt8) (firstPad : Option Nat) (pads : Nat) (h : 2 ≤ index) :
    lastGroup offset (pad :: rest) index values last firstPad pads =
      lastGroup offset rest (index + 1) values last (firstPad.or (some index)) (pads + 1) := by
  cases firstPad <;> rw [lastGroup, if_pos rfl, if_neg (by omega)]

/-- Four values are **three bytes**. -/
theorem threeBytes_eq {n a b c d : Nat} {x y z : UInt8}
    (hn : n = (x.toNat * 256 + y.toNat) * 256 + z.toNat)
    (h : ((a * 64 + b) * 64 + c) * 64 + d = n) : threeBytes a b c d = [x, y, z] := by
  have hx := x.toNat_lt
  have hy := y.toNat_lt
  have hz := z.toNat_lt
  rw [threeBytes, h]
  rw [ofNat_eq_of_toNat (b := x) (by omega), ofNat_eq_of_toNat (b := y) (by omega),
    ofNat_eq_of_toNat (b := z) (by omega)]

/-- A last group of one byte is **read back**. -/
theorem decodeLast_one (offset : Nat) (a : UInt8) : decodeLast offset (encode [a]) = .ok [a] := by
  have ha := a.toNat_lt
  rw [encode, decodeLast, lastGroup_symbol _ _ _ _ _ _ (by omega),
    lastGroup_symbol _ _ _ _ _ _ (by omega), lastGroup_pad _ _ _ _ _ _ (by omega),
    lastGroup_pad _ _ _ _ _ _ (by omega)]
  simp only [lastGroup, List.reverse_cons, List.reverse_nil, List.nil_append, List.cons_append,
    bind, Except.bind]
  rw [if_neg (by omega), if_neg (by omega), ofNat_eq_of_toNat (b := a) (by omega)]

/-- A last group of two bytes is **read back**. -/
theorem decodeLast_two (offset : Nat) (a b : UInt8) :
    decodeLast offset (encode [a, b]) = .ok [a, b] := by
  have ha := a.toNat_lt
  have hb := b.toNat_lt
  rw [encode, decodeLast, lastGroup_symbol _ _ _ _ _ _ (by omega),
    lastGroup_symbol _ _ _ _ _ _ (by omega), lastGroup_symbol _ _ _ _ _ _ (by omega),
    lastGroup_pad _ _ _ _ _ _ (by omega)]
  simp only [lastGroup, List.reverse_cons, List.reverse_nil, List.nil_append, List.cons_append,
    bind, Except.bind]
  rw [if_neg (by omega), if_neg (by omega), ofNat_eq_of_toNat (b := a) (by omega),
    ofNat_eq_of_toNat (b := b) (by omega)]

/-- A last group of three bytes is **read back**. -/
theorem decodeLast_three (offset : Nat) (a b c : UInt8) :
    decodeLast offset (encode [a, b, c]) = .ok [a, b, c] := by
  have ha := a.toNat_lt
  have hb := b.toNat_lt
  have hc := c.toNat_lt
  rw [encode, encode, decodeLast, lastGroup_symbol _ _ _ _ _ _ (by omega),
    lastGroup_symbol _ _ _ _ _ _ (by omega), lastGroup_symbol _ _ _ _ _ _ (by omega),
    lastGroup_symbol _ _ _ _ _ _ (by omega)]
  exact congrArg Except.ok (threeBytes_eq rfl (by omega))

/-! ### The text as a whole -/

/-- All groups are **read back**. -/
theorem decodeGroups_encode (offset : Nat) (bytes : List UInt8) :
    decodeGroups offset (encode bytes) = .ok bytes := by
  induction bytes using encode.induct generalizing offset with
  | case1 => rfl
  | case2 a => exact decodeLast_one offset a
  | case3 a b => exact decodeLast_two offset a b
  | case4 a b c rest ih =>
    -- A complete group is the last one only when nothing comes behind it.
    rcases rest with _ | ⟨d, rest⟩
    · exact decodeLast_three offset a b c
    have ha := a.toNat_lt
    have hb := b.toNat_lt
    have hc := c.toNat_lt
    obtain ⟨e, tail, htail⟩ := List.exists_cons_of_ne_nil
      (encode_ne_nil (List.cons_ne_nil d rest))
    rw [encode, htail, decodeGroups, valueAt_symbol _ (by omega), valueAt_symbol _ (by omega),
      valueAt_symbol _ (by omega), valueAt_symbol _ (by omega), ← htail, ih]
    exact congrArg (fun group => Except.ok (group ++ d :: rest)) (threeBytes_eq rfl (by omega))

/-- **Bytes read back** from their base 64 text. -/
theorem decode_encode (bytes : List UInt8) : decode (encode bytes) = .ok bytes := by
  rw [decode]
  split
  · rw [if_neg (by have := length_encode_mod bytes; omega), decodeGroups_encode]
  case h_2 hlast =>
    rcases bytes with _ | ⟨b, bytes⟩
    · rfl
    · exact absurd (List.getLast?_eq_none_iff.1 hlast) (encode_ne_nil (List.cons_ne_nil b bytes))

end Guildkeep.Packing.Base64
