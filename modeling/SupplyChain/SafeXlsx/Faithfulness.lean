import SupplyChain.SafeXlsx.Exactness
import SupplyChain.SafeXlsx.Reader

/-!
What a reader finds in a worksheet that was written: the rows and the cells at their places,
the numbers, and the texts with their line ends made one. The carriage returns in them are
lost, and nothing else is.
-/

namespace SupplyChain.SafeXlsx

open Buffers

variable {runtime : XlsxRuntime} {nearest : ℚ → ℚ} {sheet : CheckedSheet} {c : Char}

/-! ## What is to be seen -/

/-- A text, with an apostrophe before it if it would start a formula. -/
def shownText (value : String) : String :=
  if startsFormula value then apostrophe.toString ++ value else value

def lineEnds (value : String) : String := String.ofList (Xml.normalize value.toList)

def XlsxCell.mapText (seen : String → String) : XlsxCell → XlsxCell
  | .number value => .number value
  | .text value => .text (seen value)

def seenCell (seen : String → String) (rowIndex : Nat) (cell : XlsxCell × Nat) : ReadCell :=
  ⟨rowIndex, cell.2, .constant (cell.1.mapText seen)⟩

def seenRow (seen : String → String) (rowIndex : Nat) (row : List XlsxCell) : ReadRow :=
  ⟨rowIndex, row.zipIdx.map (seenCell seen rowIndex)⟩

/-- The rows after the one with the given number. -/
def seenRows (seen : String → String) : Nat → List (List XlsxCell) → List ReadRow
  | _, [] => []
  | rowIndex, row :: rest => seenRow seen (rowIndex + 1) row :: seenRows seen (rowIndex + 1) rest

/-- `Number::toString`: a decimal to which the number is the nearest. -/
def Spelled (runtime : XlsxRuntime) (nearest : ℚ → ℚ) (value : ℚ) : Prop :=
  ∃ (number : Json.Number) (exact : ℚ), number.value = some exact ∧ nearest exact = value ∧
    runtime.numberText value = String.ofList number.text

/-! ## Texts -/

theorem isCharacter_of_valid (valid : invalidXmlCharacter c = false) :
    Xml.isCharacter c = true := by
  have range := c.valid
  simp only [invalidXmlCharacter, Bool.or_eq_false_iff, Bool.and_eq_false_iff,
    decide_eq_false_iff_not, beq_eq_false_iff_ne, ne_eq, UInt32.le_iff_toNat_le,
    ← UInt32.toNat_inj] at valid
  simp only [Xml.isCharacter, Bool.or_eq_true, Bool.and_eq_true, decide_eq_true_eq, beq_iff_eq,
    UInt32.le_iff_toNat_le, ← UInt32.toNat_inj]
  simp only [UInt32.isValidChar, Nat.isValidChar, UInt32.reduceToNat] at range valid ⊢
  omega

theorem escapedCharacter_toList (c : Char) : (escapedCharacter c).toList = Xml.escapeChar c := by
  have quotes : quotationMark = Xml.quotationMark := rfl
  have apostrophes : apostrophe = Xml.apostrophe := rfl
  rw [escapedCharacter, Xml.escapeChar, quotes, apostrophes]
  split_ifs
  · rfl
  · rfl
  · rfl
  · rfl
  · rfl
  · exact String.toList_singleton c

theorem escapeXml_ok {value escaped : String} (ok : escapeXml value = .ok escaped) :
    escaped.toList = Xml.escape value.toList ∧ value.toList.all Xml.isCharacter = true := by
  simp only [escapeXml, bind_ok, unavailableIf_ok, exists_const, pure_ok] at ok
  obtain ⟨valid, rfl⟩ := ok
  constructor
  · rw [String.toList_join, List.flatMap_map, Xml.escape]
    apply congrArg (List.flatMap · _)
    funext c
    exact escapedCharacter_toList c
  · rw [List.all_eq_true]
    intro c member
    apply isCharacter_of_valid
    by_contra invalid
    exact valid (List.any_eq_true.mpr ⟨c, member, Bool.of_not_eq_false invalid⟩)

theorem safeCellText_ok {value safe : String} (ok : safeCellText value = .ok safe) :
    safe = shownText value := by
  simp only [safeCellText, bind_ok, unavailableIf_ok, exists_const, pure_ok] at ok
  exact ok.2.symm

theorem columnLetter_plain (letter : isColumnLetter c = true) : Xml.isPlain c = true := by
  rw [isColumnLetter, Bool.and_eq_true, decide_eq_true_iff, decide_eq_true_iff] at letter
  have least : 65 ≤ c.toNat := letter.1
  have most : c.toNat ≤ 90 := letter.2
  apply Xml.isPlain_between
  · omega
  · omega
  · rintro rfl
    revert least
    decide

theorem numberChar_range (number : Json.Number.isNumberChar c = true) :
    43 ≤ c.toNat ∧ c.toNat ≤ 101 ∧ c ≠ '<' ∧ c ≠ '>' := by
  simp only [Json.Number.isNumberChar, Bool.or_eq_true, beq_iff_eq] at number
  rcases number with (((digit | rfl) | rfl) | rfl) | rfl
  · rw [Char.isDigit, Bool.and_eq_true, decide_eq_true_iff, decide_eq_true_iff] at digit
    have least : 48 ≤ c.toNat := digit.1
    have most : c.toNat ≤ 57 := digit.2
    refine ⟨by omega, by omega, ?_, ?_⟩
    · rintro rfl
      revert most
      decide
    · rintro rfl
      revert most
      decide
  · decide
  · decide
  · decide
  · decide

theorem numberChar_plain (number : Json.Number.isNumberChar c = true) : Xml.isPlain c = true := by
  obtain ⟨least, most, other, -⟩ := numberChar_range number
  exact Xml.isPlain_between least (by omega) other

theorem digit_plain (digit : c.isDigit = true) : Xml.isPlain c = true := by
  apply numberChar_plain
  simp [Json.Number.isNumberChar, digit]

theorem plain_toString (n : Nat) : (toString n).toList.all Xml.isPlain = true := by
  rw [List.all_eq_true]
  intro c member
  exact digit_plain (List.all_eq_true.mp (digits_toString n) c member)

theorem plain_reference (column row : Nat) :
    (columnReference column ++ toString row).toList.all Xml.isPlain = true := by
  rw [String.toList_append, List.all_append, plain_toString, Bool.and_true, List.all_eq_true]
  intro c member
  exact columnLetter_plain (List.all_eq_true.mp (columnReference_letters column) c member)

/-! ## Pieces -/

section Pieces

variable {α β : Type} {read : Xml.Node → Option β} {name text text' : Xml.Text}
  {found found' : List β}

/-- The text tells elements of a name, and each is read. -/
def ReadAs (read : Xml.Node → Option β) (name text : Xml.Text) (found : List β) : Prop :=
  ∃ nodes : List Xml.Node, (∀ node ∈ nodes, node.isNamed name = true) ∧ Xml.Tells text nodes ∧
    nodes.mapM read = some found

theorem readAs_nil : ReadAs read name [] [] :=
  ⟨[], fun _ none => absurd none List.not_mem_nil, Xml.tells_nil, rfl⟩

theorem ReadAs.append (first : ReadAs read name text found) (later : ReadAs read name text' found') :
    ReadAs read name (text ++ text') (found ++ found') := by
  obtain ⟨nodes, named, tells, reads⟩ := first
  obtain ⟨nodes', named', tells', reads'⟩ := later
  refine ⟨nodes ++ nodes', ?_, tells.append tells', ?_⟩
  · intro node member
    rcases List.mem_append.mp member with before | after
    · exact named node before
    · exact named' node after
  · rw [List.mapM_append, reads, reads']
    rfl

theorem readAs_single {node : Xml.Node} {b : β} (named : node.isNamed name = true)
    (tells : Xml.Tells text [node]) (reads : read node = some b) : ReadAs read name text [b] := by
  refine ⟨[node], ?_, tells, ?_⟩
  · intro other member
    rw [List.mem_singleton.mp member]
    exact named
  · rw [List.mapM_cons, reads]
    rfl

theorem elements_named {nodes : List Xml.Node} {tag : Xml.Text} {attributes : List Xml.Attribute}
    (named : ∀ node ∈ nodes, node.isNamed name = true) :
    Xml.Node.elements name (.element tag attributes nodes) = nodes :=
  List.filter_eq_self.mpr named

end Pieces

/-! ## Cells -/

section Cells

variable {rowIndex : Nat} {cell : XlsxCell × Nat} {xml : String}

theorem reference_writable {value : Xml.Text} (plain : value.all Xml.isPlain = true) :
    Xml.Writable [⟨"r".toList, value⟩] :=
  Xml.writable_nil.cons (by decide) plain List.not_mem_nil

theorem inline_writable {value : Xml.Text} (plain : value.all Xml.isPlain = true) :
    Xml.Writable [⟨"r".toList, value⟩, ⟨"t".toList, "inlineStr".toList⟩] :=
  (Xml.writable_nil.cons (by decide) (by decide) List.not_mem_nil).cons (by decide) plain (by decide)

theorem preserve_writable : Xml.Writable [⟨"xml:space".toList, "preserve".toList⟩] :=
  Xml.writable_nil.cons (by decide) (by decide) List.not_mem_nil

theorem numberXml_toList (reference value : String) :
    ("<c r=\"" ++ reference ++ "\"><v>" ++ value ++ "</v></c>").toList =
      Xml.openText "c".toList [⟨"r".toList, reference.toList⟩] ++
        ((Xml.openText "v".toList [] ++ (value.toList ++ Xml.closeText "v".toList)) ++
          Xml.closeText "c".toList) := by
  simp [Xml.openText, Xml.tagText, Xml.attributeText, Xml.closeText]
  rfl

theorem textXml_toList (reference escaped : String) :
    ("<c r=\"" ++ reference ++ "\" t=\"inlineStr\"><is><t xml:space=\"preserve\">" ++ escaped ++
      "</t></is></c>").toList =
      Xml.openText "c".toList [⟨"r".toList, reference.toList⟩, ⟨"t".toList, "inlineStr".toList⟩] ++
        ((Xml.openText "is".toList [] ++
          ((Xml.openText "t".toList [⟨"xml:space".toList, "preserve".toList⟩] ++
            (escaped.toList ++ Xml.closeText "t".toList)) ++ Xml.closeText "is".toList)) ++
          Xml.closeText "c".toList) := by
  simp [Xml.openText, Xml.tagText, Xml.attributeText, Xml.closeText]
  rfl

theorem spelled_tells {value : ℚ} (spelled : Spelled runtime nearest value) :
    ∃ characters exact, Json.numeral characters = some exact ∧ nearest exact = value ∧
      Xml.Tells (Xml.openText "v".toList [] ++
        ((runtime.numberText value).toList ++ Xml.closeText "v".toList))
        [.element "v".toList [] (Xml.textNodes characters)] := by
  obtain ⟨number, exact, size, rounded, written⟩ := spelled
  have finite : number ≠ .notFinite := by
    rintro rfl
    cases size
  have range : ∀ c ∈ number.text, 43 ≤ c.toNat ∧ c.toNat ≤ 101 ∧ c ≠ '<' ∧ c ≠ '>' :=
    fun c member => numberChar_range (Json.Number.isNumberChar_of_mem finite member)
  have unescaped : Xml.escape number.text = number.text := by
    apply Xml.escape_same
    intro c member
    obtain ⟨least, -, less, greater⟩ := range c member
    exact ⟨least, less, greater⟩
  have allowed : number.text.all Xml.isCharacter = true := by
    rw [List.all_eq_true]
    intro c member
    exact Xml.isCharacter_of_plain (numberChar_plain (Json.Number.isNumberChar_of_mem finite member))
  have lined : Xml.normalize number.text = number.text := by
    apply Xml.normalize_eq
    intro member
    have least := (range _ member).1
    revert least
    decide
  have tells := @Xml.tells_text "v".toList number.text [] (by decide) Xml.writable_nil allowed
  rw [unescaped, lined] at tells
  refine ⟨number.text, exact, ?_, rounded, ?_⟩
  · rw [Json.numeral_text, size]
  · have text : (runtime.numberText value).toList = number.text := by
      rw [written, String.toList_ofList]
    rw [text]
    exact tells

theorem cellXml_read (spelled : ∀ value, cell.1 = .number (.finite value) →
    Spelled runtime nearest value) (made : cellXml runtime rowIndex cell = .ok xml) :
    ReadAs (readCell nearest) "c".toList xml.toList
      [seenCell (lineEnds ∘ shownText) rowIndex cell] := by
  obtain ⟨content, column⟩ := cell
  have named : Xml.isName "c".toList = true := by decide
  have plain := plain_reference column rowIndex
  have reference := readReference_written column rowIndex
  rw [← String.toList_append] at reference
  cases content with
  | number value =>
      cases value with
      | finite value =>
          obtain rfl := Except.ok.inj made
          obtain ⟨characters, exact, read, rounded, inner⟩ := spelled_tells (spelled value rfl)
          have tells := inner.element named (reference_writable plain)
          rw [numberXml_toList]
          refine readAs_single ?_ tells ?_
          · rfl
          · generalize (columnReference column ++ toString rowIndex).toList = place at reference ⊢
            simp [readCell, readContent, readNumber, seenCell, XlsxCell.mapText, Xml.Node.elements,
              Xml.Node.children, Xml.Node.isNamed, Xml.Node.valueOf, reference, read, rounded,
              Xml.characters_textNodes]
      | notFinite => cases made
  | text value =>
      simp only [cellXml, bind_ok, pure_ok] at made
      obtain ⟨safe, shown, escaped, escapes, rfl⟩ := made
      obtain rfl := safeCellText_ok shown
      obtain ⟨written, allowed⟩ := escapeXml_ok escapes
      have inner := @Xml.tells_text "t".toList _ _ (by decide) preserve_writable allowed
      have string : Xml.isName "is".toList = true := by decide
      have tells := (inner.element string Xml.writable_nil).element named (inline_writable plain)
      rw [textXml_toList, written]
      refine readAs_single ?_ tells ?_
      · rfl
      · generalize (columnReference column ++ toString rowIndex).toList = place at reference ⊢
        simp [readCell, readContent, readInline, seenCell, XlsxCell.mapText, Xml.Node.elements,
          Xml.Node.children, Xml.Node.isNamed, Xml.Node.valueOf, reference, lineEnds,
          Xml.characters_textNodes]

theorem cells_read {cells : List (XlsxCell × Nat)} {parts : List String}
    (spelled : ∀ cell ∈ cells, ∀ value, cell.1 = .number (.finite value) →
      Spelled runtime nearest value)
    (made : cells.mapM (cellXml runtime rowIndex) = .ok parts) :
    ReadAs (readCell nearest) "c".toList (parts.flatMap String.toList)
      (cells.map (seenCell (lineEnds ∘ shownText) rowIndex)) := by
  induction cells generalizing parts with
  | nil =>
      cases made
      exact readAs_nil
  | cons cell cells ih =>
      simp only [List.mapM_cons, bind_ok, pure_ok] at made
      obtain ⟨xml, first, others, later, rfl⟩ := made
      have reads := cellXml_read (spelled cell List.mem_cons_self) first
      have rest := ih (fun other member => spelled other (List.mem_cons_of_mem cell member)) later
      exact reads.append rest

end Cells

/-! ## Rows -/

section Rows

variable {rowIndex : Nat} {parts : List String}

/-- The numbers in a row are spelled. -/
def RowSpelled (runtime : XlsxRuntime) (nearest : ℚ → ℚ) (row : List XlsxCell) : Prop :=
  ∀ value, XlsxCell.number (.finite value) ∈ row → Spelled runtime nearest value

theorem rowXml_toList (reference cells : String) :
    ("<row r=\"" ++ reference ++ "\">").toList ++ (cells.toList ++ "</row>".toList) =
      Xml.openText "row".toList [⟨"r".toList, reference.toList⟩] ++
        (cells.toList ++ Xml.closeText "row".toList) := by
  simp [Xml.openText, Xml.tagText, Xml.attributeText, Xml.closeText]
  rfl

theorem rowParts_read {row : List XlsxCell} (spelled : RowSpelled runtime nearest row)
    (made : rowParts runtime sheet rowIndex row = .ok parts) :
    ReadAs (readRow nearest) "row".toList (parts.flatMap String.toList)
      [seenRow (lineEnds ∘ shownText) rowIndex row] := by
  simp only [rowParts, bind_ok, unavailableIf_ok, exists_const, pure_ok] at made
  obtain ⟨-, cells, written, rfl⟩ := made
  obtain ⟨nodes, named, tells, reads⟩ := @cells_read runtime nearest rowIndex row.zipIdx cells
    (by
      rintro ⟨cell, column⟩ member value rfl
      exact spelled value (List.mem_of_getElem? (List.mem_zipIdx_iff_getElem?.mp member))) written
  have opened : Xml.isName "row".toList = true := by decide
  have element := tells.element opened (reference_writable (plain_toString rowIndex))
  have text := rowXml_toList (toString rowIndex) (String.join cells)
  rw [String.toList_join] at text
  have whole : ((["<row r=\"" ++ toString rowIndex ++ "\">"] ++ cells ++ ["</row>"]).flatMap
      String.toList) = ("<row r=\"" ++ toString rowIndex ++ "\">").toList ++
        (cells.flatMap String.toList ++ "</row>".toList) := by
    rw [List.flatMap_append, List.flatMap_append, List.append_assoc, List.flatMap_singleton,
      List.flatMap_singleton]
  rw [whole, text]
  refine readAs_single ?_ element ?_
  · rfl
  · have children := @elements_named _ nodes "row".toList
      [⟨"r".toList, (toString rowIndex).toList⟩] named
    have number := readNatural_toString rowIndex
    generalize (toString rowIndex).toList = digits at children number ⊢
    simp only [readRow, children, reads, Xml.Node.valueOf]
    simp [number, seenRow]

theorem rowsParts_read {rows : List (List XlsxCell)}
    (spelled : ∀ row ∈ rows, RowSpelled runtime nearest row)
    (made : rowsParts runtime sheet rowIndex rows = .ok parts) :
    ReadAs (readRow nearest) "row".toList (parts.flatMap String.toList)
      (seenRows (lineEnds ∘ shownText) rowIndex rows) := by
  induction rows generalizing rowIndex parts with
  | nil =>
      cases made
      exact readAs_nil
  | cons row rows ih =>
      simp only [rowsParts, bind_ok, pure_ok] at made
      obtain ⟨first, written, others, later, rfl⟩ := made
      have reads := rowParts_read (spelled row List.mem_cons_self) written
      have rest := ih (fun other member => spelled other (List.mem_cons_of_mem row member)) later
      rw [List.flatMap_append]
      exact reads.append rest

end Rows

/-! ## Worksheets -/

section Worksheets

variable {parts : List String}

theorem spelled_plain {value : ℚ} (spelled : Spelled runtime nearest value) :
    (runtime.numberText value).toList.all Xml.isPlain = true := by
  obtain ⟨number, exact, size, -, written⟩ := spelled
  have finite : number ≠ .notFinite := by
    rintro rfl
    cases size
  rw [written, String.toList_ofList, List.all_eq_true]
  intro c member
  exact numberChar_plain (Json.Number.isNumberChar_of_mem finite member)

def columnAttributes (number width : Xml.Text) : List Xml.Attribute :=
  [⟨"min".toList, number⟩, ⟨"max".toList, number⟩, ⟨"width".toList, width⟩,
    ⟨"customWidth".toList, "1".toList⟩]

theorem columnAttributes_writable {number width : Xml.Text} (counted : number.all Xml.isPlain = true)
    (measured : width.all Xml.isPlain = true) : Xml.Writable (columnAttributes number width) := by
  constructor
  · intro given member
    have listed : given.name ∈ ["min".toList, "max".toList, "width".toList, "customWidth".toList] :=
      List.mem_map_of_mem member
    revert listed
    generalize given.name = name
    revert name
    decide
  · intro given member
    have listed : given.value ∈ [number, number, width, "1".toList] := List.mem_map_of_mem member
    simp only [List.mem_cons, List.not_mem_nil, or_false] at listed
    rcases listed with value | value | value | value
    · rw [value]
      exact counted
    · rw [value]
      exact counted
    · rw [value]
      exact measured
    · rw [value]
      decide
  · change ["min".toList, "max".toList, "width".toList, "customWidth".toList].Nodup
    decide

theorem columnXml_toList (number width : String) :
    ("<col min=\"" ++ number ++ "\" max=\"" ++ number ++ "\" width=\"" ++ width ++
      "\" customWidth=\"1\"/>").toList =
      Xml.tagText "col".toList (columnAttributes number.toList width.toList) ++ ['/', '>'] := by
  simp [columnAttributes, Xml.tagText, Xml.attributeText]
  rfl

theorem columns_tell {columns : List (ℚ × Nat)}
    (spelled : ∀ column ∈ columns, Spelled runtime nearest column.1) :
    ∃ nodes, Xml.Tells ((columns.map (columnXml runtime)).flatMap String.toList) nodes := by
  induction columns with
  | nil => exact ⟨[], Xml.tells_nil⟩
  | cons column columns ih =>
      obtain ⟨nodes, tells⟩ := ih fun other member => spelled other (List.mem_cons_of_mem column member)
      have writable := columnAttributes_writable (plain_toString (column.2 + 1))
        (spelled_plain (spelled column List.mem_cons_self))
      have first := Xml.tells_empty (by decide : Xml.isName "col".toList = true) writable
      rw [← columnXml_toList] at first
      exact ⟨_, first.append tells⟩

theorem columnParts_tell (spelled : ∀ width ∈ sheet.columnWidths, Spelled runtime nearest width) :
    ∃ nodes : List Xml.Node, (∀ node ∈ nodes, node.isNamed "sheetData".toList = false) ∧
      Xml.Tells ((columnParts runtime sheet.columnWidths).flatMap String.toList) nodes := by
  rw [columnParts]
  by_cases none : sheet.columnWidths = []
  · rw [if_pos none]
    exact ⟨[], fun _ member => absurd member List.not_mem_nil, Xml.tells_nil⟩
  · rw [if_neg none]
    have each : ∀ column ∈ sheet.columnWidths.zipIdx, Spelled runtime nearest column.1 := by
      rintro ⟨width, index⟩ member
      exact spelled width (List.mem_of_getElem? (List.mem_zipIdx_iff_getElem?.mp member))
    obtain ⟨nodes, tells⟩ := columns_tell each
    have element := tells.element (by decide : Xml.isName "cols".toList = true) Xml.writable_nil
    have opened : "<cols>".toList = Xml.openText "cols".toList [] := by decide
    have closed : "</cols>".toList = Xml.closeText "cols".toList := by decide
    refine ⟨[.element "cols".toList [] nodes], ?_, ?_⟩
    · intro node member
      rw [List.mem_singleton.mp member]
      rfl
    · rw [List.flatMap_append, List.flatMap_append, List.append_assoc, List.flatMap_singleton,
        List.flatMap_singleton, opened, closed]
      exact element

def worksheetNamespace : Xml.Text :=
  "http://schemas.openxmlformats.org/spreadsheetml/2006/main".toList

theorem worksheetHead_toList (sheet : CheckedSheet) : (worksheetHead sheet).toList =
    Xml.declarationText ++ (Xml.openText "worksheet".toList [⟨"xmlns".toList, worksheetNamespace⟩] ++
      (Xml.tagText "dimension".toList [⟨"ref".toList, "A1:".toList ++
        (columnReference (sheet.columnCount - 1) ++ toString sheet.rowCount).toList⟩] ++
          ['/', '>'])) := by
  have declared : xmlDeclaration.toList = Xml.declarationText := by decide
  have opened : ("<worksheet xmlns=\"http://schemas.openxmlformats.org/spreadsheetml/2006/main\">" :
      String).toList =
        Xml.openText "worksheet".toList [⟨"xmlns".toList, worksheetNamespace⟩] := by decide
  rw [worksheetHead, String.toList_append, String.toList_append, String.toList_append,
    String.toList_append, String.toList_append, String.toList_append, declared, opened]
  simp [Xml.tagText, Xml.attributeText]
  rfl

theorem readWorksheet_data {attributes : List Xml.Attribute} {before nodes : List Xml.Node}
    (others : ∀ node ∈ before, node.isNamed "sheetData".toList = false)
    (named : ∀ node ∈ nodes, node.isNamed "row".toList = true) :
    readWorksheet nearest (.element "worksheet".toList attributes
      (before ++ [.element "sheetData".toList [] nodes])) = nodes.mapM (readRow nearest) := by
  have none : before.filter (Xml.Node.isNamed "sheetData".toList) = [] := by
    rw [List.filter_eq_nil_iff]
    intro node member
    rw [others node member]
    exact Bool.false_ne_true
  have data : Xml.Node.elements "sheetData".toList (.element "worksheet".toList attributes
      (before ++ [.element "sheetData".toList [] nodes])) =
        [.element "sheetData".toList [] nodes] := by
    rw [Xml.Node.elements, Xml.Node.children, List.filter_append, none]
    rfl
  have rows := @elements_named _ nodes "sheetData".toList [] named
  have root : Xml.Node.isNamed "worksheet".toList (.element "worksheet".toList attributes
      (before ++ [.element "sheetData".toList [] nodes])) = true := by
    rw [Xml.Node.isNamed, beq_self_eq_true]
  rw [readWorksheet, if_pos root, data, List.head?_cons]
  simp only [Option.bind_eq_bind, Option.bind_some, rows]

/-- The sheet is read from its parts, the line ends in its texts made one. -/
theorem worksheetParts_read (rows : ∀ row ∈ sheet.rows, RowSpelled runtime nearest row)
    (widths : ∀ width ∈ sheet.columnWidths, Spelled runtime nearest width)
    (made : worksheetParts runtime sheet = .ok parts) :
    ∃ root, Xml.read (parts.flatMap String.toList) = some root ∧
      readWorksheet nearest root = some (seenRows (lineEnds ∘ shownText) 0 sheet.rows) := by
  simp only [worksheetParts, bind_ok, unavailableIf_ok, exists_const, pure_ok] at made
  obtain ⟨listed, written, -, rfl⟩ := made
  obtain ⟨nodes, named, tells, reads⟩ := rowsParts_read rows written
  obtain ⟨before, others, tellsBefore⟩ := columnParts_tell widths
  have dimension : Xml.Writable [⟨"ref".toList, "A1:".toList ++
      (columnReference (sheet.columnCount - 1) ++ toString sheet.rowCount).toList⟩] := by
    refine Xml.writable_nil.cons (by decide) ?_ List.not_mem_nil
    rw [List.all_append, plain_reference]
    decide
  have spaced : Xml.Writable [⟨"xmlns".toList, worksheetNamespace⟩] :=
    Xml.writable_nil.cons (by decide) (by decide) List.not_mem_nil
  have data := tells.element (by decide : Xml.isName "sheetData".toList = true) Xml.writable_nil
  have head := Xml.tells_empty (by decide : Xml.isName "dimension".toList = true) dimension
  have whole := (head.append (tellsBefore.append data)).element
    (by decide : Xml.isName "worksheet".toList = true) spaced
  have opened : "<sheetData>".toList = Xml.openText "sheetData".toList [] := by decide
  have closed : "</sheetData></worksheet>".toList =
      Xml.closeText "sheetData".toList ++ Xml.closeText "worksheet".toList := by decide
  have unnamed : ∀ node ∈ .element "dimension".toList [⟨"ref".toList, "A1:".toList ++
      (columnReference (sheet.columnCount - 1) ++ toString sheet.rowCount).toList⟩] [] :: before,
      node.isNamed "sheetData".toList = false := by
    intro node member
    rcases List.mem_cons.mp member with rfl | later
    · rfl
    · exact others node later
  refine ⟨_, Eq.trans (congrArg Xml.read ?_) (Xml.read_document whole), ?_⟩
  · simp only [List.flatMap_append, List.flatMap_singleton, worksheetHead_toList, opened, closed,
      List.append_assoc]
  · have rowsRead := @readWorksheet_data nearest [⟨"xmlns".toList, worksheetNamespace⟩] _ _
      unnamed named
    rw [reads] at rowsRead
    exact rowsRead

theorem exists_text (parts : List String) :
    ∃ text : String, parts.flatMap utf8 = utf8 text ∧ text.toList = parts.flatMap String.toList := by
  induction parts with
  | nil => exact ⟨"", rfl, rfl⟩
  | cons part parts ih =>
      obtain ⟨text, bytes, characters⟩ := ih
      refine ⟨part ++ text, ?_, ?_⟩
      · rw [List.flatMap_cons, bytes, utf8_append]
      · rw [String.toList_append, characters, List.flatMap_cons]

theorem decode_utf8 (text : String) : String.fromUTF8? ⟨(utf8 text).toArray⟩ = some text := by
  have bytes : (⟨(utf8 text).toArray⟩ : ByteArray) = text.toByteArray := by
    rw [utf8, Array.toArray_toList]
  rw [bytes, String.fromUTF8?, dif_pos text.isValidUTF8]
  rfl

theorem worksheetXml_read {maximumBytes : Nat} {data : Bytes}
    (rows : ∀ row ∈ sheet.rows, RowSpelled runtime nearest row)
    (widths : ∀ width ∈ sheet.columnWidths, Spelled runtime nearest width)
    (written : worksheetXml runtime sheet maximumBytes = .ok data) :
    readSheet nearest data = some (seenRows (lineEnds ∘ shownText) 0 sheet.rows) := by
  obtain ⟨parts, made, rfl, -⟩ := worksheetXml_ok.mp written
  obtain ⟨text, bytes, characters⟩ := exists_text parts
  obtain ⟨root, document, seen⟩ := worksheetParts_read rows widths made
  rw [← characters] at document
  rw [readSheet, bytes, decode_utf8]
  simp only [Option.bind_eq_bind, Option.bind_some, document, seen]

end Worksheets

/-! ## Faithfulness -/

section Faithfulness

variable {value : String} {row : List XlsxCell} {rows : List (List XlsxCell)} {data : Bytes}
  {maximumBytes rowIndex : Nat} {seen other : String → String}

/-- What a spreadsheet takes for a formula. -/
def ReadContent.isFormula : ReadContent → Bool
  | .formula _ => true
  | .constant (.text value) => startsFormula value
  | .constant (.number _) => false

/-- The reader sees the rows that were given, and no formula. -/
structure Faithful (nearest : ℚ → ℚ) (sheet : CheckedSheet) (data : Bytes) : Prop where
  counted : ∀ rows, readSheet nearest data = some rows → rows.length = sheet.rowCount
  seen : readSheet nearest data = some (seenRows shownText 0 sheet.rows)
  inert : ∀ rows, readSheet nearest data = some rows →
    ∀ row ∈ rows, ∀ cell ∈ row.cells, cell.content.isFormula = false

theorem length_seenRows : (seenRows seen rowIndex rows).length = rows.length := by
  induction rows generalizing rowIndex with
  | nil => rfl
  | cons row rows ih => rw [seenRows, List.length_cons, List.length_cons, ih]

/-- Both line ends are blank, so the first character that is not stays the first. -/
theorem head_normalize (characters : Xml.Text) :
    ((Xml.normalize characters).dropWhile isWhiteSpace).head? =
      (characters.dropWhile isWhiteSpace).head? := by
  induction characters with
  | nil => rfl
  | cons c characters ih =>
      have back : isWhiteSpace Xml.carriageReturn = true := by decide
      have feed : isWhiteSpace Xml.lineFeed = true := by decide
      rw [Xml.normalize]
      by_cases returns : c = Xml.carriageReturn
      · rw [if_pos returns, returns, List.dropWhile_cons_of_pos back]
        by_cases joined : characters.head? = some Xml.lineFeed
        · rw [if_pos joined]
          exact ih
        · rw [if_neg joined, List.dropWhile_cons_of_pos feed]
          exact ih
      · rw [if_neg returns]
        by_cases white : isWhiteSpace c = true
        · rw [List.dropWhile_cons_of_pos white, List.dropWhile_cons_of_pos white]
          exact ih
        · rw [List.dropWhile_cons_of_neg white, List.dropWhile_cons_of_neg white, List.head?_cons,
            List.head?_cons]

theorem startsFormula_lineEnds (value : String) :
    startsFormula (lineEnds value) = startsFormula value := by
  rw [startsFormula, startsFormula, lineEnds, String.toList_ofList, head_normalize]

theorem shownText_inert (value : String) : startsFormula (shownText value) = false := by
  rw [shownText]
  by_cases formula : startsFormula value = true
  · have blank : ¬ isWhiteSpace apostrophe = true := by decide
    rw [if_pos formula, startsFormula, String.toList_append]
    change ((apostrophe :: value.toList).dropWhile isWhiteSpace).head?.any _ = false
    rw [List.dropWhile_cons_of_neg blank, List.head?_cons, Option.any_some]
    decide
  · rw [if_neg formula]
    exact Bool.not_eq_true _ ▸ formula

theorem seenRow_iff : seenRow seen rowIndex row = seenRow other rowIndex row ↔
    ∀ value, .text value ∈ row → seen value = other value := by
  constructor
  · intro same value member
    have cells : row.zipIdx.map (seenCell seen rowIndex) =
        row.zipIdx.map (seenCell other rowIndex) := congrArg ReadRow.cells same
    obtain ⟨column, found⟩ := List.mem_iff_getElem?.mp member
    have cell := List.map_inj_left.mp cells (.text value, column)
      (List.mem_zipIdx_iff_getElem?.mpr found)
    have content := congrArg ReadCell.content cell
    exact XlsxCell.text.inj (ReadContent.constant.inj content)
  · intro same
    have cells : row.zipIdx.map (seenCell seen rowIndex) =
        row.zipIdx.map (seenCell other rowIndex) := by
      apply List.map_inj_left.mpr
      rintro ⟨cell, column⟩ found
      have member := List.mem_of_getElem? (List.mem_zipIdx_iff_getElem?.mp found)
      cases cell with
      | number value => rfl
      | text value => rw [seenCell, seenCell, XlsxCell.mapText, XlsxCell.mapText, same value member]
    rw [seenRow, seenRow, cells]

theorem seenRows_iff : seenRows seen rowIndex rows = seenRows other rowIndex rows ↔
    ∀ row ∈ rows, ∀ value, .text value ∈ row → seen value = other value := by
  induction rows generalizing rowIndex with
  | nil => simp [seenRows]
  | cons row rows ih =>
      rw [seenRows, seenRows, List.cons.injEq, seenRow_iff, ih, List.forall_mem_cons]

/-- The texts without carriage returns, and no others, keep all their characters. -/
theorem lineEnds_iff : lineEnds (shownText value) = shownText value ↔
    Xml.carriageReturn ∉ value.toList := by
  have kept : Xml.carriageReturn ∈ (shownText value).toList ↔
      Xml.carriageReturn ∈ value.toList := by
    rw [shownText]
    by_cases formula : startsFormula value = true
    · have apart : Xml.carriageReturn ∉ apostrophe.toString.toList := by decide
      rw [if_pos formula, String.toList_append, List.mem_append, or_iff_right apart]
    · rw [if_neg formula]
  rw [← kept, ← Xml.normalize_eq_iff, lineEnds, ← String.toList_inj, String.toList_ofList]

theorem seenRows_inert {given : ReadRow} {cell : ReadCell}
    (safe : ∀ value, startsFormula (seen value) = false)
    (member : given ∈ seenRows seen rowIndex rows) (inside : cell ∈ given.cells) :
    cell.content.isFormula = false := by
  induction rows generalizing rowIndex with
  | nil => cases member
  | cons row rows ih =>
      rcases List.mem_cons.mp member with rfl | later
      · obtain ⟨⟨content, column⟩, -, rfl⟩ := List.mem_map.mp inside
        cases content with
        | number value => rfl
        | text value => exact safe value
      · exact ih later

theorem worksheetXml_inert
    (spelled : ∀ row ∈ sheet.rows, RowSpelled runtime nearest row)
    (widths : ∀ width ∈ sheet.columnWidths, Spelled runtime nearest width)
    (written : worksheetXml runtime sheet maximumBytes = .ok data) :
    ∀ rows, readSheet nearest data = some rows →
      ∀ row ∈ rows, ∀ cell ∈ row.cells, cell.content.isFormula = false := by
  have read := worksheetXml_read spelled widths written
  intro rows found row member cell inside
  obtain rfl := Option.some.inj (read.symm.trans found)
  refine seenRows_inert ?_ member inside
  intro value
  rw [Function.comp_apply, startsFormula_lineEnds, shownText_inert]

theorem worksheetXml_counted (written : worksheetXml runtime sheet maximumBytes = .ok data) :
    sheet.rows.length = sheet.rowCount := by
  obtain ⟨parts, made, -⟩ := worksheetXml_ok.mp written
  simp only [worksheetParts, bind_ok, unavailableIf_ok, exists_const, pure_ok] at made
  obtain ⟨-, -, counted, -⟩ := made
  exact not_not.mp counted

/-- A sheet is read back as it was given exactly when its texts have no carriage return. -/
theorem worksheetXml_faithful_iff
    (spelled : ∀ row ∈ sheet.rows, RowSpelled runtime nearest row)
    (widths : ∀ width ∈ sheet.columnWidths, Spelled runtime nearest width)
    (written : worksheetXml runtime sheet maximumBytes = .ok data) :
    Faithful nearest sheet data ↔
      ∀ row ∈ sheet.rows, ∀ value, .text value ∈ row → Xml.carriageReturn ∉ value.toList := by
  have read := worksheetXml_read spelled widths written
  have faithful : readSheet nearest data = some (seenRows shownText 0 sheet.rows) ↔
      ∀ row ∈ sheet.rows, ∀ value, .text value ∈ row → Xml.carriageReturn ∉ value.toList := by
    rw [read, Option.some.injEq, seenRows_iff]
    simp only [Function.comp_apply, lineEnds_iff]
  constructor
  · intro reads
    exact faithful.mp reads.seen
  · intro clean
    constructor
    · intro rows found
      obtain rfl := Option.some.inj (read.symm.trans found)
      rw [length_seenRows]
      exact worksheetXml_counted written
    · exact faithful.mpr clean
    · exact worksheetXml_inert spelled widths written

end Faithfulness

/-! ## Two sheets -/

def halfRuntime : XlsxRuntime where
  toLowerCase text := text
  numberText value := if value = 25 / 2 then "12.5" else "0"

theorem one_lt_ten : 1 < 10 := by decide

theorem two_lt_ten : 2 < 10 := by decide

theorem five_lt_ten : 5 < 10 := by decide

def halfDigits : List (Fin 10) := [⟨1, one_lt_ten⟩, ⟨2, two_lt_ten⟩, ⟨5, five_lt_ten⟩]

theorem halfDigits_leading : halfDigits.head? ≠ some 0 := by decide

theorem halfDigits_trailing : halfDigits.getLast? ≠ some 0 := by decide

theorem halfDigits_ne_nil : halfDigits ≠ [] := by decide

def halfNumber : Json.Number :=
  .decimal ⟨false, halfDigits, 2, halfDigits_leading, halfDigits_trailing, halfDigits_ne_nil⟩

theorem halfNumber_spelled : Spelled halfRuntime id (25 / 2) := by
  refine ⟨halfNumber, 25 / 2, ?_, rfl, ?_⟩
  · decide +kernel
  · decide +kernel

theorem halfSheet_acceptable : Acceptable "A" 1 2 := by decide +kernel

def halfSheet : CheckedSheet :=
  ⟨"A", 1, 2, [[.text "=1", .number (.finite (25 / 2))]], [25 / 2], halfSheet_acceptable⟩

theorem worksheetXml_faithful_iff_half : ∃ data,
    worksheetXml halfRuntime halfSheet 65536 = .ok data ∧ Faithful id halfSheet data := by
  have succeeds : (worksheetXml halfRuntime halfSheet 65536).toBool = true := by decide +kernel
  cases written : worksheetXml halfRuntime halfSheet 65536 with
  | error error =>
      rw [written] at succeeds
      cases succeeds
  | ok data =>
      refine ⟨data, rfl, (worksheetXml_faithful_iff ?_ ?_ written).mpr ?_⟩
      · intro row only value member
        rw [List.mem_singleton.mp only] at member
        have half : value = 25 / 2 := by simpa using member
        rw [half]
        exact halfNumber_spelled
      · intro width only
        rw [List.mem_singleton.mp only]
        exact halfNumber_spelled
      · intro row only value member
        rw [List.mem_singleton.mp only] at member
        have text : value = "=1" := by simpa using member
        rw [text]
        decide

def returnSheet : CheckedSheet :=
  ⟨"A", 1, 1, [[.text (String.ofList ['a', Xml.carriageReturn, 'b'])]], [], plainSheet_acceptable⟩

/-- A carriage return in a text is read as a line feed. -/
theorem carriage_return_lost :
    ¬ ∀ (runtime : XlsxRuntime) (nearest : ℚ → ℚ) (sheet : CheckedSheet) (maximumBytes : Nat)
      (data : Bytes), (∀ row ∈ sheet.rows, RowSpelled runtime nearest row) →
        (∀ width ∈ sheet.columnWidths, Spelled runtime nearest width) →
          worksheetXml runtime sheet maximumBytes = .ok data → Faithful nearest sheet data := by
  intro claim
  have succeeds : (worksheetXml plainRuntime returnSheet 65536).toBool = true := by decide +kernel
  cases written : worksheetXml plainRuntime returnSheet 65536 with
  | error error =>
      rw [written] at succeeds
      cases succeeds
  | ok data =>
      have spelled : ∀ row ∈ returnSheet.rows, RowSpelled plainRuntime id row := by
        intro row only value member
        rw [List.mem_singleton.mp only] at member
        simp at member
      have widths : ∀ width ∈ returnSheet.columnWidths, Spelled plainRuntime id width := by
        intro width none
        cases none
      have seen := (claim plainRuntime id returnSheet 65536 data spelled widths written).seen
      rw [worksheetXml_read spelled widths written, Option.some.injEq] at seen
      revert seen
      decide +kernel

end SupplyChain.SafeXlsx
