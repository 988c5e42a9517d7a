import Guildkeep.Proofs.Game.Record
import Guildkeep.Proofs.Packing.Base64
import Guildkeep.Proofs.Packing.Gzip
import Guildkeep.Save.Payload

/-!
# Payloads Read Back

A payload is written for exactly the snapshots whose numbers are finite, and what is written reads
back to the same snapshot. Compression is found by its mark alone: the text of a record starts with
a brace, so a payload without compression never bears it.

## Main results

* `decompress_compress`: **decompression undoes compression** for every text.
* `encode_round_trip`: which snapshots have a payload, and what their payload reads back to.
-/

namespace Guildkeep.Save.Payload

open Game Packing

/-! ### Bytes of a text -/

/-- The bytes that are left are added **behind** those that are done. -/
theorem loop_toList (bs : ByteArray) (i : Nat) (done : List UInt8) :
    ByteArray.toList.loop bs i done = done.reverse ++ bs.data.toList.drop i := by
  fun_induction ByteArray.toList.loop bs i done with
  | case1 i done hi ih =>
    have hlength : i < bs.data.toList.length := hi
    have hget : bs.get! i = bs.data.toList[i] := getElem!_pos bs.data i hi
    rw [ih, List.drop_eq_getElem_cons hlength, hget]
    simp
  | case2 i done hi =>
    have hlength : bs.data.toList.length ≤ i := Nat.le_of_not_lt hi
    rw [List.drop_eq_nil_of_le hlength, List.append_nil]

/-- The bytes of a text are those of its **encoding**. -/
theorem bytes_eq (s : String) : bytes s = s.toByteArray.data.toList := by
  rw [bytes, ByteArray.toList, loop_toList]
  rfl

/-- A text is what its **bytes** are the bytes of. -/
theorem ofBytes?_bytes (s : String) : ofBytes? (bytes s) = some s := by
  have hbytes : (⟨(bytes s).toArray⟩ : ByteArray) = s.toByteArray := by
    rw [bytes_eq, Array.toArray_toList]
  rw [ofBytes?, hbytes, String.fromUTF8?, dif_pos s.isValidUTF8]
  rfl

/-- The characters of ASCII have their **own numbers**. -/
theorem toNat_ofNat_ascii : ∀ {n : Nat}, n < 128 → (Char.ofNat n).toNat = n := by
  decide

/-- A character of ASCII is **one byte**. -/
theorem utf8EncodeChar_ascii {b : UInt8} (h : b.toNat < 128) :
    String.utf8EncodeChar (Char.ofNat b.toNat) = [b] := by
  have hchar : (Char.ofNat b.toNat).val.toNat = b.toNat := toNat_ofNat_ascii h
  rw [String.utf8EncodeChar, hchar, if_pos (by omega), UInt8.ofNat_toNat]

/-- The bytes of an **ASCII** text. -/
theorem bytes_ofAscii {bs : List UInt8} (h : ∀ b ∈ bs, b.toNat < 128) :
    bytes (ofAscii bs) = bs := by
  have hflat : (bs.map fun b => Char.ofNat b.toNat).flatMap String.utf8EncodeChar = bs := by
    induction bs with
    | nil => rfl
    | cons b bs ih =>
      rw [List.map_cons, List.flatMap_cons, utf8EncodeChar_ascii (h b (by simp)),
        ih fun b' hb' => h b' (List.mem_cons_of_mem b hb')]
      rfl
  rw [bytes_eq, ofAscii, String.toByteArray_ofList, List.utf8Encode, hflat,
    List.toList_data_toByteArray]

/-! ### Compression -/

/-- The characters of an encoded payload are **not blank**. -/
theorem isBlank_ofNat_visible :
    ∀ {n : Nat}, n < 123 → 43 ≤ n → Text.isBlank (Char.ofNat n) = false := by
  decide

/-- Base 64 text has **nothing to trim**. -/
theorem trim_base64 (bs : List UInt8) :
    Text.trim (ofAscii (Base64.encode bs)).toList = (ofAscii (Base64.encode bs)).toList := by
  have hvisible : ∀ c ∈ (ofAscii (Base64.encode bs)).toList, Text.isBlank c = false := by
    intro c hc
    rw [ofAscii, String.toList_ofList] at hc
    obtain ⟨b, hb, rfl⟩ := List.mem_map.1 hc
    obtain ⟨hlo, hhi⟩ := Base64.toNat_of_mem_encode hb
    exact isBlank_ofNat_visible hhi hlo
  refine Text.trim_eq_self (fun c hc => hvisible c ?_) (fun c hc => hvisible c ?_)
  · exact List.mem_of_mem_head? hc
  · exact List.mem_of_getLast? hc

/-- **Decompression undoes compression**, for every text. -/
theorem decompress_compress (text : String) :
    decompress ((compress text).toList.drop mark.toList.length) = .ok text := by
  have hascii : ∀ b ∈ Base64.encode (gzip (bytes text)), b.toNat < 128 := by
    intro b hb
    have hvisible := Base64.toNat_of_mem_encode hb
    omega
  rw [compress, String.toList_append, List.drop_left, decompress, trim_base64, String.ofList_toList,
    bytes_ofAscii hascii, Base64.decode_encode]
  simp only [bind, Except.bind, gunzip_gzip, ofBytes?_bytes]

/-- What is compressed **bears the mark**. -/
theorem isCompressed_compress (text : String) : isCompressed (compress text) = true := by
  rw [isCompressed, compress, String.toList_append, List.isPrefixOf_iff_prefix]
  exact List.prefix_append _ _

/-- The text of a record starts with a brace, so it **never bears the mark**. -/
theorem isCompressed_render_object (members : List (String × Json)) :
    isCompressed (Json.object members).render = false := by
  rw [isCompressed, Json.render, String.toList_ofList, Json.text]
  rfl

/-! ### Snapshots -/

/-- The three numbers of a snapshot are finite. -/
def IsFinite (s : Snapshot) : Prop :=
  s.state.position.x.isFinite = true ∧ s.state.position.y.isFinite = true ∧
    s.config.scoreMultiplier.isFinite = true

/-- The payload of a snapshot whose numbers are finite. -/
theorem encode_of_isFinite {s : Snapshot} (h : IsFinite s) (compressed : Bool) :
    encode s compressed =
      .ok (if compressed then compress s.toJson.render else s.toJson.render) := by
  obtain ⟨hx, hy, hm⟩ := h
  simp [encode, floats, hx, hy, hm]

/-- A snapshot with a number that is not finite has **no payload**. -/
theorem encode_of_not_isFinite {s : Snapshot} (h : ¬ IsFinite s) (compressed : Bool) :
    ∃ field value, encode s compressed = .error (.notFinite field value) := by
  rw [encode]
  split
  case h_1 field value _ => exact ⟨field, value, rfl⟩
  case h_2 hnone =>
    simp only [floats, List.find?_eq_none, List.mem_cons, List.not_mem_nil, or_false,
      Bool.not_eq_true, Bool.not_eq_false', forall_eq_or_imp, forall_eq] at hnone
    exact absurd hnone h

/-- A record of finite numbers is **read back**. -/
theorem parse_render {s : Snapshot} (h : IsFinite s) : parse s.toJson.render = .ok s := by
  obtain ⟨hx, hy, hm⟩ := h
  rw [parse, Json.run_of_reads (reads_snapshot hx hy hm)]

/-- A snapshot whose numbers are finite has a payload that **reads back**, and the payload says
whether it is compressed. -/
theorem exists_payload {s : Snapshot} (h : IsFinite s) (compressed : Bool) :
    ∃ payload, encode s compressed = .ok payload ∧ decode payload = .ok s ∧
      isCompressed payload = compressed := by
  refine ⟨_, encode_of_isFinite h compressed, ?_⟩
  cases compressed with
  | true =>
    refine ⟨?_, isCompressed_compress _⟩
    simp only [decode, isCompressed_compress, if_true, decompress_compress, parse_render h, bind,
      Except.bind]
  | false =>
    have hplain : isCompressed s.toJson.render = false := isCompressed_render_object _
    refine ⟨?_, hplain⟩
    simp [decode, hplain, parse_render h]

/-- What a payload **was made from** and how. -/
theorem eq_of_encode {s : Snapshot} {compressed : Bool} {payload : String}
    (h : encode s compressed = .ok payload) :
    IsFinite s ∧ decode payload = .ok s ∧ isCompressed payload = compressed := by
  by_cases hfinite : IsFinite s
  · obtain ⟨payload', hencode, hdecode, hmark⟩ := exists_payload hfinite compressed
    obtain rfl : payload' = payload := Except.ok.inj (hencode.symm.trans h)
    exact ⟨hfinite, hdecode, hmark⟩
  · obtain ⟨field, value, hfault⟩ := encode_of_not_isFinite hfinite compressed
    rw [hfault] at h
    cases h

end Guildkeep.Save.Payload
