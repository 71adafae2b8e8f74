import SupplyChain.Checksum
import SupplyChain.SafeXlsx.RoundTrip

/-!
The checksum of an entry. The language works on numbers, which its operators read as 32
bits and give back signed, or unsigned after a `>>>`; what the table makes of a message is
the check of its bits.
-/

namespace SupplyChain.SafeXlsx

open Buffers Checksum

/-! ## Operators -/

/-- `a & b` -/
def bitAnd (a b : Int) : Int := (BitVec.ofInt 32 a &&& BitVec.ofInt 32 b).toInt

/-- `a ^ b` -/
def bitXor (a b : Int) : Int := (BitVec.ofInt 32 a ^^^ BitVec.ofInt 32 b).toInt

/-- `a >>> count` -/
def shiftRight (a : Int) (count : Nat) : Int := (BitVec.ofInt 32 a >>> (count % 32)).toNat

/-- An element of a `Uint32Array`; what is outside is undefined. -/
def elementAt (table : List Int) (index : Int) : Option Int :=
  if index < 0 then none else table[index.toNat]?

namespace Signed

def crc32Bit (value : Int) : Int :=
  if bitAnd value 1 = 1 then bitXor 0xedb88320 (shiftRight value 1) else shiftRight value 1

def crc32Table : List Int :=
  (List.range 256).map fun index : Nat => shiftRight (crc32Bit^[8] index) 0

def crc32Byte (value : Int) (byte : UInt8) : Outcome Int :=
  match elementAt crc32Table (bitAnd (bitXor value byte.toNat) 0xff) with
  | some tableValue => .ok (bitXor tableValue (shiftRight value 8))
  | none => unavailable

def crc32 (data : Bytes) : Outcome Int := do
  let value ← data.foldlM crc32Byte 0xffffffff
  return shiftRight (bitXor value 0xffffffff) 0

end Signed

/-! ## The register -/

def polynomial : BitVec 32 := 0xedb88320#32

def allOnes : BitVec 32 := 0xffffffff#32

/-- CRC-32, reflected and bit by bit. -/
def crc32Bitwise (data : Bytes) : BitVec 32 := bitwise polynomial allOnes data ^^^ allOnes

/-- The 32 bits of a number. -/
def bits32 (value : Int) : BitVec 32 := BitVec.ofInt 32 value

theorem bits32_xor (a b : Int) : bits32 (bitXor a b) = bits32 a ^^^ bits32 b :=
  BitVec.ofInt_toInt

theorem bits32_shift (a : Int) {count : Nat} (small : count < 32) :
    bits32 (shiftRight a count) = bits32 a >>> count := by
  rw [shiftRight, Nat.mod_eq_of_lt small, bits32, BitVec.ofInt_natCast, BitVec.ofNat_toNat,
    BitVec.setWidth_eq]
  rfl

theorem bits32_byte (byte : UInt8) : bits32 byte.toNat = ofByte 32 byte := by
  rw [bits32, BitVec.ofInt_natCast, ofByte]
  apply BitVec.eq_of_toNat_eq
  rw [BitVec.toNat_ofNat, BitVec.toNat_setWidth, UInt8.toNat_toBitVec]

theorem odd_iff (value : Int) : bitAnd value 1 = 1 ↔ (bits32 value).getLsbD 0 = true := by
  have mask : BitVec.ofInt 32 1 = 1#32 := by decide
  rw [bitAnd, mask, BitVec.and_one_eq_setWidth_ofBool_getLsbD, bits32]
  cases (BitVec.ofInt 32 value).getLsbD 0 with
  | true => exact iff_of_true (by decide) rfl
  | false => exact iff_of_false (by decide) Bool.false_ne_true

theorem bits32_bit (value : Int) :
    bits32 (Signed.crc32Bit value) = shift polynomial (bits32 value) := by
  unfold Signed.crc32Bit shift
  by_cases odd : bitAnd value 1 = 1
  · rw [if_pos odd, if_pos ((odd_iff value).mp odd), bits32_xor, bits32_shift value (by decide),
      BitVec.xor_comm]
    rfl
  · rw [if_neg odd, if_neg (mt (odd_iff value).mpr odd), bits32_shift value (by decide)]

theorem bits32_bits (count : Nat) (value : Int) :
    bits32 (Signed.crc32Bit^[count] value) = (shift polynomial)^[count] (bits32 value) := by
  induction count generalizing value with
  | zero => rfl
  | succ count ih =>
      rw [Function.iterate_succ_apply, Function.iterate_succ_apply, ih, bits32_bit]

/-! ## The table -/

theorem elementAt_table {index : Nat} (inside : index < 256) :
    elementAt Signed.crc32Table index = some (shiftRight (Signed.crc32Bit^[8] index) 0) := by
  have known : ¬ (index : Int) < 0 := by omega
  rw [elementAt, if_neg known, Int.toNat_natCast, Signed.crc32Table, List.getElem?_map,
    List.getElem?_range inside]
  rfl

theorem lowByte_index (value : Int) :
    bitAnd value 0xff = ((bits32 value &&& lowByte 32).toNat : Int) ∧
      (bits32 value &&& lowByte 32).toNat < 256 := by
  have mask : BitVec.ofInt 32 0xff = lowByte 32 := by decide
  have small : (bits32 value &&& lowByte 32).toNat < 256 := by
    have most : (bits32 value &&& lowByte 32).toNat ≤ (lowByte 32).toNat := by
      rw [BitVec.toNat_and]
      exact Nat.and_le_right
    have width : (lowByte 32).toNat = 255 := by decide
    omega
  refine ⟨?_, small⟩
  rw [bitAnd, mask]
  apply BitVec.toInt_eq_toNat_of_lt
  unfold bits32 at small
  omega

theorem crc32Byte_feed (value : Int) (byte : UInt8) :
    ∃ next, Signed.crc32Byte value byte = .ok next ∧
      bits32 next = (bits byte).foldl (feed polynomial) (bits32 value) := by
  obtain ⟨index, inside⟩ := lowByte_index (bitXor value byte.toNat)
  rw [Signed.crc32Byte, index, elementAt_table inside]
  refine ⟨_, rfl, ?_⟩
  rw [bits32_xor, bits32_shift _ (by decide), BitVec.ushiftRight_zero, bits32_bits,
    bits32_shift value (by decide), feed_table (by decide), ← bits32_byte, ← bits32_xor]
  congr 2
  rw [bits32, BitVec.ofInt_natCast, BitVec.ofNat_toNat, BitVec.setWidth_eq]

theorem crc32Bytes_bitwise (data : Bytes) (value : Int) :
    ∃ last, data.foldlM Signed.crc32Byte value = .ok last ∧
      bits32 last = bitwise polynomial (bits32 value) data := by
  induction data generalizing value with
  | nil => exact ⟨value, rfl, rfl⟩
  | cons byte rest ih =>
      obtain ⟨next, stepped, fed⟩ := crc32Byte_feed value byte
      obtain ⟨last, ran, checked⟩ := ih next
      refine ⟨last, ?_, ?_⟩
      · rw [List.foldlM_cons, stepped]
        exact ran
      · rw [checked, fed, bitwise_cons]

/-- The checksum of the writer is the CRC-32 of the bytes, an unsigned number of 32 bits. -/
theorem crc32_bitwise (data : Bytes) : Signed.crc32 data = .ok ((crc32Bitwise data).toNat : Int) := by
  obtain ⟨last, ran, checked⟩ := crc32Bytes_bitwise data 0xffffffff
  have start : bits32 0xffffffff = allOnes := by decide
  have value : Signed.crc32 data = .ok (shiftRight (bitXor last 0xffffffff) 0) := by
    rw [Signed.crc32, ran]
    rfl
  have final : bits32 (bitXor last 0xffffffff) = crc32Bitwise data := by
    rw [bits32_xor, checked, start, crc32Bitwise]
  rw [value, shiftRight, Nat.zero_mod, BitVec.ushiftRight_zero]
  exact congrArg (fun register : BitVec 32 => Except.ok (register.toNat : Int)) final

/-! ## Unsigned registers -/

theorem crc32Bit_shift (value : UInt32) :
    (crc32Bit value).toBitVec = shift polynomial value.toBitVec := by
  have odd : value &&& 1 = 1 ↔ value.toBitVec.getLsbD 0 = true := by
    rw [← UInt32.toBitVec_inj, UInt32.toBitVec_and]
    have one : (1 : UInt32).toBitVec = 1#32 := rfl
    rw [one, BitVec.and_one_eq_setWidth_ofBool_getLsbD]
    cases value.toBitVec.getLsbD 0 with
    | true => exact iff_of_true (by decide) rfl
    | false => exact iff_of_false (by decide) Bool.false_ne_true
  unfold crc32Bit shift
  by_cases low : value &&& 1 = 1
  · rw [if_pos low, if_pos (odd.mp low), UInt32.toBitVec_xor, BitVec.xor_comm]
    rfl
  · rw [if_neg low, if_neg (mt odd.mpr low)]
    rfl

theorem crc32Bit_shifts (count : Nat) (value : UInt32) :
    (crc32Bit^[count] value).toBitVec = (shift polynomial)^[count] value.toBitVec := by
  induction count generalizing value with
  | zero => rfl
  | succ count ih =>
      rw [Function.iterate_succ_apply, Function.iterate_succ_apply, ih, crc32Bit_shift]

theorem readerByte_feed (value : UInt32) (byte : UInt8) :
    (Reader.crc32Byte value byte).toBitVec =
      (bits byte).foldl (feed polynomial) value.toBitVec := by
  have index : ((value ^^^ byte.toUInt32) &&& 0xff).toBitVec =
      (value.toBitVec ^^^ ofByte 32 byte) &&& lowByte 32 := rfl
  have inside : ((value ^^^ byte.toUInt32) &&& 0xff).toNat < 256 := by
    rw [UInt32.toNat_and]
    exact Nat.lt_of_le_of_lt Nat.and_le_right (by decide)
  have entry : crc32Table[((value ^^^ byte.toUInt32) &&& 0xff).toNat]? =
      some (crc32Bit^[8] ((value ^^^ byte.toUInt32) &&& 0xff)) := by
    rw [crc32Table, List.getElem?_map, List.getElem?_range inside, Option.map_some,
      UInt32.ofNat_toNat]
  rw [Reader.crc32Byte, entry, Option.getD_some, UInt32.toBitVec_xor, crc32Bit_shifts, index,
    feed_table (by decide)]
  rfl

/-- The unsigned registers, with which the archive is described, hold the same bits. -/
theorem crc32_registers (data : Bytes) : crc32 data = .ok (UInt32.ofBitVec (crc32Bitwise data)) := by
  have folds : ∀ value : UInt32, (data.foldl Reader.crc32Byte value).toBitVec =
      bitwise polynomial value.toBitVec data := by
    induction data with
    | nil => exact fun _ => rfl
    | cons byte rest ih =>
        intro value
        rw [List.foldl_cons, ih, readerByte_feed, bitwise_cons]
  rw [crc32_reader, Reader.crc32]
  apply congrArg Except.ok
  apply UInt32.toBitVec_inj.mp
  rw [UInt32.toBitVec_xor, folds]
  rfl

end SupplyChain.SafeXlsx
