import SupplyChain.Json.Values
import SupplyChain.SafeXlsx.Columns
import SupplyChain.Xml.Writer

/-!
A reader of worksheets. It decodes the bytes, reads the document and takes the rows and the
cells of its data by their references; a cell holds a number, a text or a formula.
-/

namespace SupplyChain.SafeXlsx

open Buffers

inductive ReadContent
  | constant (value : XlsxCell)
  | formula (expression : String)
  deriving DecidableEq

structure ReadCell where
  row : Nat
  column : Nat
  content : ReadContent
  deriving DecidableEq

structure ReadRow where
  number : Nat
  cells : List ReadCell
  deriving DecidableEq

/-! ## References -/

def readNatural (digits : Xml.Text) : Option Nat :=
  if digits ≠ [] ∧ digits.all Char.isDigit = true then some (Nat.ofDigitChars 10 digits 0) else none

def isColumnLetter (c : Char) : Bool := 'A' ≤ c && c ≤ 'Z'

/-- The letters of the column, then the number of the row. -/
def readReference (reference : Xml.Text) : Option (Nat × Nat) :=
  if reference.takeWhile isColumnLetter = [] then none
  else
    (readNatural (reference.dropWhile isColumnLetter)).map fun row =>
      (decodeColumn (reference.takeWhile isColumnLetter), row)

/-! ## Cells -/

section Reading

-- the number of the language that is nearest to a value
variable (nearest : ℚ → ℚ)

def readNumber (cell : Xml.Node) : Option ReadContent := do
  let value ← (cell.elements "v".toList).head?
  let exact ← Json.numeral value.characters
  return .constant (.number (.finite (nearest exact)))

def readInline (cell : Xml.Node) : Option ReadContent := do
  let string ← (cell.elements "is".toList).head?
  let characters := (string.elements "t".toList).flatMap Xml.Node.characters
  return .constant (.text (String.ofList characters))

def readContent (cell : Xml.Node) : Option ReadContent :=
  match (cell.elements "f".toList).head? with
  | some formula => some (.formula (String.ofList formula.characters))
  | none =>
      if cell.valueOf "t".toList = some "inlineStr".toList then readInline cell
      else if (cell.valueOf "t".toList).all (· == "n".toList) then readNumber nearest cell
      else none

def readCell (cell : Xml.Node) : Option ReadCell := do
  let reference ← cell.valueOf "r".toList
  let (column, row) ← readReference reference
  let content ← readContent nearest cell
  return ⟨row, column, content⟩

def readRow (row : Xml.Node) : Option ReadRow := do
  let reference ← row.valueOf "r".toList
  let number ← readNatural reference
  let cells ← (row.elements "c".toList).mapM (readCell nearest)
  return ⟨number, cells⟩

def readWorksheet (root : Xml.Node) : Option (List ReadRow) :=
  if root.isNamed "worksheet".toList then do
    let data ← (root.elements "sheetData".toList).head?
    (data.elements "row".toList).mapM (readRow nearest)
  else none

def readSheet (data : Bytes) : Option (List ReadRow) := do
  let document ← String.fromUTF8? ⟨data.toArray⟩
  let root ← Xml.read document.toList
  readWorksheet nearest root

end Reading

/-! ## References that are written -/

theorem toList_toString (n : Nat) : (toString n).toList = Nat.toDigits 10 n := Nat.toList_repr

theorem digits_toString (n : Nat) : (toString n).toList.all Char.isDigit = true := by
  rw [toList_toString, List.all_eq_true]
  intro c member
  exact Nat.isDigit_of_mem_toDigits (by decide) (by decide) member

theorem readNatural_toString (n : Nat) : readNatural (toString n).toList = some n := by
  have filled : (toString n).toList ≠ [] := by
    rw [toList_toString]
    exact Nat.toDigits_ne_nil
  rw [readNatural, if_pos ⟨filled, digits_toString n⟩, toList_toString,
    Nat.ofDigitChars_ten_toDigits]

theorem columnReference_letters (column : Nat) :
    (columnReference column).toList.all isColumnLetter = true := by
  rw [List.all_eq_true]
  intro c member
  have letter := (columnReference_nth column).named.2 c member
  simp [isColumnLetter, letter]

theorem not_columnLetter {c : Char} (digit : c.isDigit = true) : isColumnLetter c = false := by
  by_contra letter
  rw [Bool.not_eq_false, isColumnLetter, Bool.and_eq_true, decide_eq_true_iff] at letter
  rw [Char.isDigit, Bool.and_eq_true, decide_eq_true_iff, decide_eq_true_iff] at digit
  have least : 65 ≤ c.toNat := letter.1
  have most : c.toNat ≤ 57 := digit.2
  omega

theorem readReference_written (column row : Nat) :
    readReference ((columnReference column).toList ++ (toString row).toList) =
      some (column, row) := by
  have stop : Xml.Stops isColumnLetter (toString row).toList := by
    cases digits : (toString row).toList with
    | nil => rfl
    | cons c rest =>
        have digit := List.all_eq_true.mp (digits_toString row) c
        rw [digits] at digit
        exact Xml.stops_cons (not_columnLetter (digit List.mem_cons_self))
  obtain ⟨front, back⟩ := Xml.takeWhile_stop (columnReference_letters column) stop
  have name := columnReference_nth column
  rw [readReference, front, back, if_neg name.named.1, readNatural_toString, name.decoded]
  rfl

end SupplyChain.SafeXlsx
