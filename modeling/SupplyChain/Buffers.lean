import Mathlib.Algebra.BigOperators.Group.List.Basic
import Mathlib.Algebra.Order.Ring.Int
import Mathlib.Tactic.Common

/-!
Buffers of bytes with numbers in fields, the least byte first. A record that is written
field after field into an empty buffer is read back at the offset of each field, and so
it is wherever the record stands in a longer buffer.
-/

namespace Buffers

abbrev Bytes := List UInt8

def alloc (size : Nat) : Bytes := List.replicate size 0

/-! ## Numbers -/

def littleEndian : Nat → Nat → Bytes
  | 0, _ => []
  | width + 1, value => UInt8.ofNat value :: littleEndian width (value / 256)

def number : Bytes → Nat
  | [] => 0
  | byte :: rest => byte.toNat + 256 * number rest

@[simp] theorem length_littleEndian (width value : Nat) :
    (littleEndian width value).length = width := by
  induction width generalizing value with
  | zero => rfl
  | succ width ih => rw [littleEndian, List.length_cons, ih]

theorem number_littleEndian {width value : Nat} (fits : value < 256 ^ width) :
    number (littleEndian width value) = value := by
  induction width generalizing value with
  | zero =>
      rw [Nat.pow_zero] at fits
      rw [littleEndian, number]
      omega
  | succ width ih =>
      rw [Nat.pow_succ] at fits
      have rest : number (littleEndian width (value / 256)) = value / 256 := by
        apply ih
        omega
      have byte : (UInt8.ofNat value).toNat = value % 256 := UInt8.toNat_ofNat'
      rw [littleEndian, number, rest, byte]
      omega

/-! ## Fields -/

/-- A field is written if the number fits it and the buffer has it. -/
def write (buffer : Bytes) (width value offset : Nat) : Option Bytes :=
  if value < 256 ^ width ∧ offset + width ≤ buffer.length then
    some (buffer.take offset ++ littleEndian width value ++ buffer.drop (offset + width))
  else none

def read (buffer : Bytes) (width offset : Nat) : Option Nat :=
  if offset + width ≤ buffer.length then some (number ((buffer.drop offset).take width)) else none

/-- The bytes from one offset to another, as far as the buffer has them. -/
def slice (buffer : Bytes) (first last : Nat) : Bytes := (buffer.take last).drop first

variable {buffer front back : Bytes} {width value offset : Nat}

theorem write_between {middle : Bytes} (fits : value < 256 ^ width)
    (length : middle.length = width) :
    write (front ++ middle ++ back) width value front.length =
      some (front ++ littleEndian width value ++ back) := by
  have inside : front.length + width ≤ (front ++ middle ++ back).length := by
    simp only [List.length_append]
    omega
  rw [write, if_pos ⟨fits, inside⟩]
  subst length
  congr 2
  · rw [List.append_assoc, List.take_left]
  · rw [← List.length_append, List.drop_left]

theorem read_between {middle : Bytes} (length : middle.length = width) :
    read (front ++ middle ++ back) width front.length = some (number middle) := by
  have inside : front.length + width ≤ (front ++ middle ++ back).length := by
    simp only [List.length_append]
    omega
  subst length
  rw [read, if_pos inside, List.append_assoc, List.drop_left, List.take_left]

theorem slice_between {middle : Bytes} :
    slice (front ++ middle ++ back) front.length (front.length + middle.length) = middle := by
  rw [slice, ← List.length_append, List.take_left, List.drop_left]

/-- Where a record stands in a buffer makes no difference to its fields. -/
theorem read_inside (found : read buffer width offset = some value) :
    read (front ++ buffer ++ back) width (front.length + offset) = some value := by
  unfold read at found ⊢
  split at found
  · next inside =>
      have outer : front.length + offset + width ≤ (front ++ buffer ++ back).length := by
        simp only [List.length_append]
        omega
      rw [if_pos outer, ← found, List.append_assoc, ← List.drop_drop, List.drop_left,
        List.drop_append_of_le_length (by omega), List.take_append_of_le_length]
      rw [List.length_drop]
      omega
  · cases found

/-! ## Records -/

structure Field where
  width : Nat
  value : Nat
  offset : Nat

def writeAll (buffer : Bytes) (fields : List Field) : Option Bytes :=
  fields.foldlM (fun written field => write written field.width field.value field.offset) buffer

def Fits (fields : List Field) : Prop := ∀ field ∈ fields, field.value < 256 ^ field.width

/-- Each field begins where the one before it ends. -/
def Adjacent : Nat → List Field → Prop
  | _, [] => True
  | start, field :: rest => field.offset = start ∧ Adjacent (start + field.width) rest

def encode (fields : List Field) : Bytes :=
  fields.flatMap fun field => littleEndian field.width field.value

def size (fields : List Field) : Nat := (fields.map Field.width).sum

variable {fields : List Field} {field : Field}

theorem encode_cons (field : Field) (rest : List Field) :
    encode (field :: rest) = littleEndian field.width field.value ++ encode rest := List.flatMap_cons

@[simp] theorem length_encode (fields : List Field) : (encode fields).length = size fields := by
  simp [encode, size, List.length_flatMap]

theorem Fits.tail {rest : List Field} (fits : Fits (field :: rest)) : Fits rest :=
  fun other member => fits other (List.mem_cons_of_mem field member)

/-- Adjacent fields that fill the room leave nothing of what was there. -/
theorem writeAll_adjacent {middle : Bytes} (adjacent : Adjacent front.length fields)
    (fits : Fits fields) (fill : middle.length = size fields) :
    writeAll (front ++ middle ++ back) fields = some (front ++ encode fields ++ back) := by
  induction fields generalizing front middle with
  | nil =>
      have none := List.length_eq_zero_iff.mp fill
      subst none
      rfl
  | cons field rest ih =>
      obtain ⟨here, later⟩ := adjacent
      have fill : middle.length = field.width + size rest := fill
      have split : middle ++ back =
          middle.take field.width ++ (middle.drop field.width ++ back) := by
        rw [← List.append_assoc, List.take_append_drop]
      have wide : (middle.take field.width).length = field.width := by
        rw [List.length_take]
        omega
      have first : write (front ++ middle ++ back) field.width field.value field.offset =
          some (front ++ littleEndian field.width field.value ++ middle.drop field.width ++ back) := by
        rw [here, List.append_assoc, split, ← List.append_assoc,
          write_between (fits field List.mem_cons_self) wide, ← List.append_assoc]
      have there : Adjacent (front ++ littleEndian field.width field.value).length rest := by
        rw [List.length_append, length_littleEndian]
        exact later
      have left : (middle.drop field.width).length = size rest := by
        rw [List.length_drop]
        omega
      rw [writeAll, List.foldlM_cons, first, encode_cons, ← List.append_assoc front]
      exact ih there fits.tail left

theorem writeAll_alloc (adjacent : Adjacent 0 fields) (fits : Fits fields) :
    writeAll (alloc (size fields)) fields = some (encode fields) := by
  have written := @writeAll_adjacent [] [] fields (alloc (size fields)) adjacent fits
    List.length_replicate
  simpa only [List.nil_append, List.append_nil] using written

theorem read_adjacent (adjacent : Adjacent front.length fields) (fits : Fits fields)
    (member : field ∈ fields) :
    read (front ++ encode fields ++ back) field.width field.offset = some field.value := by
  induction fields generalizing front with
  | nil => cases member
  | cons head rest ih =>
      obtain ⟨here, later⟩ := adjacent
      rcases List.mem_cons.mp member with rfl | inside
      · rw [here, encode_cons, ← List.append_assoc, List.append_assoc _ (encode rest),
          read_between (length_littleEndian _ _)]
        exact congrArg some (number_littleEndian (fits field List.mem_cons_self))
      · have there : Adjacent (front ++ littleEndian head.width head.value).length rest := by
          rw [List.length_append, length_littleEndian]
          exact later
        rw [encode_cons, ← List.append_assoc]
        exact ih there fits.tail inside

theorem read_record (adjacent : Adjacent 0 fields) (fits : Fits fields) (member : field ∈ fields) :
    read (front ++ encode fields ++ back) field.width (front.length + field.offset) =
      some field.value := by
  apply read_inside
  have found := @read_adjacent [] [] fields field adjacent fits member
  simpa only [List.nil_append, List.append_nil] using found

example : write (alloc 4) 2 258 1 = some [0, 2, 1, 0] := by decide

end Buffers
