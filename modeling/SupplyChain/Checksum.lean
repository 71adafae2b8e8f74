import Mathlib.Logic.Function.Iterate
import Mathlib.Tactic.Common

/-!
Reflected cyclic redundancy checks. The bits of a message meet the register at its low
end, the least bit of each byte first; a bit that differs from the one that leaves the
register feeds the polynomial back. A byte may be met as a whole, and eight shifts are
looked up in a table of the bytes.
-/

namespace Checksum

variable {width : Nat} {poly register value high : BitVec width}

/-- One bit of a message. -/
def feed (poly register : BitVec width) (bit : Bool) : BitVec width :=
  if register.getLsbD 0 = bit then register >>> 1 else (register >>> 1) ^^^ poly

/-- The bits of a byte, the least first. -/
def bits (byte : UInt8) : List Bool := (List.range 8).map byte.toBitVec.getLsbD

/-- The register after a message, bit by bit. -/
def bitwise (poly register : BitVec width) (message : List UInt8) : BitVec width :=
  (message.flatMap bits).foldl (feed poly) register

def shift (poly register : BitVec width) : BitVec width :=
  if register.getLsbD 0 then (register >>> 1) ^^^ poly else register >>> 1

theorem shift_xor :
    shift poly (register ^^^ value) = feed poly register (value.getLsbD 0) ^^^ (value >>> 1) := by
  unfold shift feed
  rw [BitVec.getLsbD_xor, BitVec.ushiftRight_xor_distrib]
  by_cases same : register.getLsbD 0 = value.getLsbD 0
  · simp [same]
  · have differ : (register.getLsbD 0 ^^ value.getLsbD 0) = true := by
      rw [bne_iff_ne]
      exact same
    rw [if_pos differ, if_neg same, BitVec.xor_assoc, BitVec.xor_assoc, BitVec.xor_comm poly]

theorem shift_xor_high (clear : high.getLsbD 0 = false) :
    shift poly (value ^^^ high) = shift poly value ^^^ (high >>> 1) := by
  rw [shift_xor, clear]
  unfold shift feed
  cases value.getLsbD 0 with
  | true => rfl
  | false => rfl

theorem feed_bits {count : Nat} (above : ∀ i, count ≤ i → value.getLsbD i = false) :
    (shift poly)^[count] (register ^^^ value) =
      ((List.range count).map value.getLsbD).foldl (feed poly) register := by
  induction count generalizing register value with
  | zero =>
      have none : value = BitVec.ofNat width 0 := by
        apply BitVec.eq_of_getLsbD_eq
        intro i _
        rw [above i (Nat.zero_le i), BitVec.getLsbD_zero]
      rw [none, BitVec.xor_zero]
      rfl
  | succ count ih =>
      -- the least bit is fed, the others move down by one place
      have rest := @ih (feed poly register (value.getLsbD 0)) (value >>> 1) fun i beyond => by
        rw [BitVec.getLsbD_ushiftRight]
        exact above (1 + i) (by omega)
      rw [Function.iterate_succ_apply, shift_xor, rest, List.range_succ_eq_map, List.map_cons,
        List.foldl_cons, List.map_map]
      congr 1
      apply List.map_congr_left
      intro i _
      rw [BitVec.getLsbD_ushiftRight, Nat.add_comm]
      rfl

theorem shift_high {count : Nat} (below : ∀ i, i < count → high.getLsbD i = false) :
    (shift poly)^[count] (value ^^^ high) = (shift poly)^[count] value ^^^ (high >>> count) := by
  induction count generalizing value high with
  | zero => rw [BitVec.ushiftRight_zero]; rfl
  | succ count ih =>
      have rest := @ih (shift poly value) (high >>> 1) fun i before => by
        rw [BitVec.getLsbD_ushiftRight]
        exact below (1 + i) (by omega)
      rw [Function.iterate_succ_apply, shift_xor_high (below 0 (Nat.succ_pos count)), rest,
        Function.iterate_succ_apply, ← BitVec.shiftRight_add, Nat.add_comm 1]

/-! ## Bytes -/

def ofByte (width : Nat) (byte : UInt8) : BitVec width := byte.toBitVec.setWidth width

theorem ofByte_above (byte : UInt8) (i : Nat) (beyond : 8 ≤ i) :
    (ofByte width byte).getLsbD i = false := by
  rw [ofByte, BitVec.getLsbD_setWidth, BitVec.getLsbD_of_ge _ _ beyond, Bool.and_false]

def lowByte (width : Nat) : BitVec width := BitVec.ofNat width 255

theorem getLsbD_lowByte {i : Nat} : (lowByte width).getLsbD i = (decide (i < width) && decide (i < 8)) := by
  have mask : Nat.testBit 255 i = decide (i < 8) := Nat.testBit_two_pow_sub_one 8 i
  rw [lowByte, BitVec.getLsbD_ofNat, mask]

/-- Eight shifts: those of the low byte, which a table may hold, and the rest moved down. -/
theorem shift_table : (shift poly)^[8] value =
    (shift poly)^[8] (value &&& lowByte width) ^^^ (value >>> 8) := by
  have split : value = (value &&& lowByte width) ^^^ (value &&& ~~~ lowByte width) := by
    ext i inside
    simp only [BitVec.getElem_xor, BitVec.getElem_and, BitVec.getElem_not]
    cases value[i] with
    | true => simp
    | false => simp
  have moved : (value &&& ~~~ lowByte width) >>> 8 = value >>> 8 := by
    apply BitVec.eq_of_getLsbD_eq
    intro i _
    rw [BitVec.getLsbD_ushiftRight, BitVec.getLsbD_ushiftRight, BitVec.getLsbD_and,
      BitVec.getLsbD_not, getLsbD_lowByte]
    by_cases inside : 8 + i < width
    · simp [inside]
    · rw [BitVec.getLsbD_of_ge _ _ (Nat.le_of_not_lt inside), Bool.false_and]
  have below : ∀ i, i < 8 → (value &&& ~~~ lowByte width).getLsbD i = false := by
    intro i low
    rw [BitVec.getLsbD_and, BitVec.getLsbD_not, getLsbD_lowByte]
    by_cases inside : i < width
    · simp [inside, low]
    · rw [BitVec.getLsbD_of_ge _ _ (Nat.le_of_not_lt inside), Bool.false_and]
  have high := @shift_high width poly (value &&& lowByte width) _ 8 below
  rw [← split, moved] at high
  exact high

theorem feed_byte (eight : 8 ≤ width) (byte : UInt8) :
    (bits byte).foldl (feed poly) register = (shift poly)^[8] (register ^^^ ofByte width byte) := by
  rw [feed_bits (ofByte_above byte), bits]
  congr 1
  apply List.map_congr_left
  intro i member
  have low := List.mem_range.mp member
  rw [ofByte, BitVec.getLsbD_setWidth, decide_eq_true (by omega : i < width), Bool.true_and]

/-- The step of the table: the index is the low byte of the register with the byte. -/
theorem feed_table (eight : 8 ≤ width) (byte : UInt8) :
    (bits byte).foldl (feed poly) register =
      (shift poly)^[8] ((register ^^^ ofByte width byte) &&& lowByte width) ^^^ (register >>> 8) := by
  have down : ofByte width byte >>> 8 = BitVec.ofNat width 0 := by
    apply BitVec.eq_of_getLsbD_eq
    intro i _
    rw [BitVec.getLsbD_ushiftRight, ofByte_above byte _ (Nat.le_add_right 8 i), BitVec.getLsbD_zero]
  rw [feed_byte eight, shift_table, BitVec.ushiftRight_xor_distrib, down, BitVec.xor_zero]

theorem bitwise_cons (byte : UInt8) (message : List UInt8) :
    bitwise poly register (byte :: message) =
      bitwise poly ((bits byte).foldl (feed poly) register) message := by
  rw [bitwise, List.flatMap_cons, List.foldl_append]
  rfl

end Checksum
