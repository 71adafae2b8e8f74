import Mathlib.Data.Rat.Defs
import SupplyChain.Platform
import SupplyChain.SafeXlsx.Zip

/-!
The workbook that the server writes: the sheets are checked, the XML of each part is put
together within a budget of bytes, and the parts are stored in a ZIP file.
-/

namespace SupplyChain.SafeXlsx

open Buffers

/-! ## Input -/

/-- A number of the language; what is not finite is not told apart. -/
inductive XlsxNumber
  | finite (value : ℚ)
  | notFinite
  deriving DecidableEq

/-- `Number.isSafeInteger`, and the integer. -/
def XlsxNumber.safeInteger : XlsxNumber → Option Int
  | .finite value =>
      if value.den = 1 ∧ value.num.natAbs ≤ 9007199254740991 then some value.num else none
  | .notFinite => none

inductive XlsxCell
  | number (value : XlsxNumber)
  | text (value : String)
  deriving DecidableEq

structure XlsxSheet where
  name : String
  rowCount : XlsxNumber
  columnCount : XlsxNumber
  rows : List (List XlsxCell)
  columnWidths : Option (List XlsxNumber)

structure XlsxWorkbookInput where
  sheets : List XlsxSheet
  maxOutputBytes : XlsxNumber

/-- `toLowerCase` of a text and `String` of a finite number. -/
structure XlsxRuntime where
  toLowerCase : String → String
  numberText : ℚ → String

variable (runtime : XlsxRuntime)

def maxExcelRows : Nat := 1048576

def maxExcelColumns : Nat := 16384

def maxExcelCellCharacters : Nat := 32767

def maxSheets : Nat := 255

/-! ## Texts -/

/-- `INVALID_XML_CHARACTER`; a lone surrogate is no character here. -/
def invalidXmlCharacter (c : Char) : Bool :=
  c.val ≤ 0x8 || c.val == 0xb || c.val == 0xc || (0xe ≤ c.val && c.val ≤ 0x1f) ||
    c.val == 0xfffe || c.val == 0xffff

def apostrophe : Char := Char.ofNat 39

def quotationMark : Char := Char.ofNat 34

def backslash : Char := Char.ofNat 92

def invalidSheetNameCharacter (c : Char) : Bool :=
  c == backslash || c == '/' || c == '*' || c == '?' || c == ':' || c == '[' || c == ']'

def escapedCharacter (c : Char) : String :=
  if c = '&' then "&amp;"
  else if c = '<' then "&lt;"
  else if c = '>' then "&gt;"
  else if c = quotationMark then "&quot;"
  else if c = apostrophe then "&apos;"
  else String.singleton c

def escapeXml (value : String) : Outcome String := do
  unavailableIf (value.toList.any invalidXmlCharacter = true)
  return String.join (value.toList.map escapedCharacter)

/-- `FORMULA_PREFIX.test(value.trimStart())` -/
def startsFormula (value : String) : Bool :=
  ((value.toList.dropWhile isWhiteSpace).head?).any fun c =>
    c == '=' || c == '+' || c == '-' || c == '@'

def safeCellText (value : String) : Outcome String := do
  let neutralized := if startsFormula value then apostrophe.toString ++ value else value
  unavailableIf (maxExcelCellCharacters < textLength neutralized)
  return neutralized

/-- The letters of a column that is counted from one, before those given; a column has fewer
letters than its number. -/
def columnLetters : Nat → Nat → List Char → List Char
  | 0, _, letters => letters
  | fuel + 1, value, letters =>
      if 0 < value then
        columnLetters fuel ((value - 1) / 26) (Char.ofNat (65 + (value - 1) % 26) :: letters)
      else letters

def columnReference (columnIndex : Nat) : String :=
  String.ofList (columnLetters (columnIndex + 1) (columnIndex + 1) [])

example : columnReference 0 = "A" ∧ columnReference 25 = "Z" ∧ columnReference 702 = "AAA" := by
  decide +kernel

/-! ## Sheets -/

structure Acceptable (name : String) (rowCount columnCount : Nat) : Prop where
  filled : name ≠ ""
  short : textLength name ≤ 31
  legal : name.toList.any invalidSheetNameCharacter = false
  unquoted : name.toList.head? ≠ some apostrophe ∧ name.toList.getLast? ≠ some apostrophe
  valid : name.toList.any invalidXmlCharacter = false
  rows : 1 ≤ rowCount ∧ rowCount ≤ maxExcelRows
  columns : 1 ≤ columnCount ∧ columnCount ≤ maxExcelColumns

instance {name : String} {rowCount columnCount : Nat} :
    Decidable (Acceptable name rowCount columnCount) :=
  decidable_of_iff (name ≠ "" ∧ textLength name ≤ 31 ∧
    name.toList.any invalidSheetNameCharacter = false ∧
    (name.toList.head? ≠ some apostrophe ∧ name.toList.getLast? ≠ some apostrophe) ∧
    name.toList.any invalidXmlCharacter = false ∧ (1 ≤ rowCount ∧ rowCount ≤ maxExcelRows) ∧
    (1 ≤ columnCount ∧ columnCount ≤ maxExcelColumns)) <| by
  constructor
  · rintro ⟨one, two, three, four, five, six, seven⟩
    exact ⟨one, two, three, four, five, six, seven⟩
  · rintro ⟨one, two, three, four, five, six, seven⟩
    exact ⟨one, two, three, four, five, six, seven⟩

/-- A sheet that was checked; absent widths are none. -/
structure CheckedSheet where
  name : String
  rowCount : Nat
  columnCount : Nat
  rows : List (List XlsxCell)
  columnWidths : List ℚ
  acceptable : Acceptable name rowCount columnCount

def checkWidth : XlsxNumber → Outcome ℚ
  | .finite width => if width ≤ 0 ∨ 255 < width then unavailable else .ok width
  | .notFinite => unavailable

/-- The sheet, and the names taken so far with its own. -/
def validateSheet (names : List String) (sheet : XlsxSheet) :
    Outcome (CheckedSheet × List String) :=
  match sheet.rowCount.safeInteger, sheet.columnCount.safeInteger with
  | some rowCount, some columnCount =>
      if acceptable : Acceptable sheet.name rowCount.toNat columnCount.toNat then do
        let normalizedName := runtime.toLowerCase sheet.name
        unavailableIf (normalizedName ∈ names)
        let columnWidths := sheet.columnWidths.getD []
        unavailableIf (columnCount.toNat < columnWidths.length)
        let widths ← columnWidths.mapM checkWidth
        return (⟨sheet.name, rowCount.toNat, columnCount.toNat, sheet.rows, widths, acceptable⟩,
          normalizedName :: names)
      else unavailable
  | _, _ => unavailable

def validateSheets : List String → List XlsxSheet → Outcome (List CheckedSheet)
  | _, [] => .ok []
  | names, sheet :: rest => do
      let (checked, names) ← validateSheet runtime names sheet
      let others ← validateSheets names rest
      return checked :: others

/-! ## Worksheets -/

/-- Chunks of bytes within a budget. -/
structure BoundedXmlBuilder where
  maximumBytes : Nat
  chunks : List Bytes
  size : Nat
  sized : size = chunks.flatten.length
  bounded : size ≤ maximumBytes

namespace BoundedXmlBuilder

def new (maximumBytes : Nat) : BoundedXmlBuilder := ⟨maximumBytes, [], 0, rfl, Nat.zero_le _⟩

theorem appended_sized (builder : BoundedXmlBuilder) (chunk : Bytes) :
    builder.size + chunk.length = (builder.chunks ++ [chunk]).flatten.length := by
  rw [builder.sized, List.flatten_append, List.length_append, List.flatten_singleton]

theorem appended_bounded (builder : BoundedXmlBuilder) {chunk : Bytes}
    (room : chunk.length ≤ builder.maximumBytes - builder.size) :
    builder.size + chunk.length ≤ builder.maximumBytes := by
  have bounded := builder.bounded
  omega

def append (builder : BoundedXmlBuilder) (value : String) : Outcome BoundedXmlBuilder :=
  if room : (utf8 value).length ≤ builder.maximumBytes - builder.size then
    .ok ⟨builder.maximumBytes, builder.chunks ++ [utf8 value], builder.size + (utf8 value).length,
      builder.appended_sized _, builder.appended_bounded room⟩
  else unavailable

def finish (builder : BoundedXmlBuilder) : Bytes := builder.chunks.flatten

end BoundedXmlBuilder

def xmlDeclaration : String := "<?xml version=\"1.0\" encoding=\"UTF-8\" standalone=\"yes\"?>"

def worksheetHead (sheet : CheckedSheet) : String :=
  xmlDeclaration ++
    "<worksheet xmlns=\"http://schemas.openxmlformats.org/spreadsheetml/2006/main\">" ++
    "<dimension ref=\"A1:" ++ columnReference (sheet.columnCount - 1) ++
    toString sheet.rowCount ++ "\"/>"

def columnXml (column : ℚ × Nat) : String :=
  "<col min=\"" ++ toString (column.2 + 1) ++ "\" max=\"" ++ toString (column.2 + 1) ++
    "\" width=\"" ++ runtime.numberText column.1 ++ "\" customWidth=\"1\"/>"

def cellXml (rowIndex : Nat) (cell : XlsxCell × Nat) : Outcome String :=
  let reference := columnReference cell.2 ++ toString rowIndex
  match cell.1 with
  | .number (.finite value) =>
      .ok ("<c r=\"" ++ reference ++ "\"><v>" ++ runtime.numberText value ++ "</v></c>")
  | .number .notFinite => unavailable
  | .text value => do
      let safe ← safeCellText value
      let escaped ← escapeXml safe
      return "<c r=\"" ++ reference ++ "\" t=\"inlineStr\"><is><t xml:space=\"preserve\">" ++
        escaped ++ "</t></is></c>"

def appendColumn (builder : BoundedXmlBuilder) (column : ℚ × Nat) : Outcome BoundedXmlBuilder :=
  builder.append (columnXml runtime column)

def appendColumns (columnWidths : List ℚ) (builder : BoundedXmlBuilder) :
    Outcome BoundedXmlBuilder :=
  if columnWidths = [] then .ok builder
  else do
    let builder ← builder.append "<cols>"
    let builder ← columnWidths.zipIdx.foldlM (appendColumn runtime) builder
    builder.append "</cols>"

def appendCell (rowIndex : Nat) (builder : BoundedXmlBuilder) (cell : XlsxCell × Nat) :
    Outcome BoundedXmlBuilder := do
  let xml ← cellXml runtime rowIndex cell
  builder.append xml

/-- The row after the one with the given number. -/
def appendRow (sheet : CheckedSheet) (state : Nat × BoundedXmlBuilder) (row : List XlsxCell) :
    Outcome (Nat × BoundedXmlBuilder) := do
  let rowIndex := state.1 + 1
  unavailableIf (sheet.rowCount < rowIndex ∨ sheet.columnCount < row.length)
  let builder ← state.2.append ("<row r=\"" ++ toString rowIndex ++ "\">")
  let builder ← row.zipIdx.foldlM (appendCell runtime rowIndex) builder
  let builder ← builder.append "</row>"
  return (rowIndex, builder)

def worksheetXml (sheet : CheckedSheet) (maximumBytes : Nat) : Outcome Bytes := do
  let builder ← (BoundedXmlBuilder.new maximumBytes).append (worksheetHead sheet)
  let builder ← appendColumns runtime sheet.columnWidths builder
  let builder ← builder.append "<sheetData>"
  let (rowIndex, builder) ← sheet.rows.foldlM (appendRow runtime sheet) (0, builder)
  unavailableIf (rowIndex ≠ sheet.rowCount)
  let builder ← builder.append "</sheetData></worksheet>"
  return builder.finish

/-! ## The other parts -/

def contentTypesXml (sheetCount : Nat) : String :=
  let worksheets := String.join ((List.range sheetCount).map fun index =>
    "<Override PartName=\"/xl/worksheets/sheet" ++ toString (index + 1) ++
      ".xml\" ContentType=\"application/vnd.openxmlformats-officedocument.spreadsheetml.worksheet+xml\"/>")
  xmlDeclaration ++
    "<Types xmlns=\"http://schemas.openxmlformats.org/package/2006/content-types\">" ++
    "<Default Extension=\"rels\" ContentType=\"application/vnd.openxmlformats-package.relationships+xml\"/>" ++
    "<Default Extension=\"xml\" ContentType=\"application/xml\"/>" ++
    "<Override PartName=\"/xl/workbook.xml\" ContentType=\"application/vnd.openxmlformats-officedocument.spreadsheetml.sheet.main+xml\"/>" ++
    "<Override PartName=\"/xl/styles.xml\" ContentType=\"application/vnd.openxmlformats-officedocument.spreadsheetml.styles+xml\"/>" ++
    worksheets ++ "</Types>"

def sheetNode (sheet : CheckedSheet × Nat) : Outcome String := do
  let name ← escapeXml sheet.1.name
  return "<sheet name=\"" ++ name ++ "\" sheetId=\"" ++ toString (sheet.2 + 1) ++ "\" r:id=\"rId" ++
    toString (sheet.2 + 1) ++ "\"/>"

def workbookXml (sheets : List CheckedSheet) : Outcome String := do
  let sheetNodes ← sheets.zipIdx.mapM sheetNode
  return xmlDeclaration ++
    "<workbook xmlns=\"http://schemas.openxmlformats.org/spreadsheetml/2006/main\" xmlns:r=\"http://schemas.openxmlformats.org/officeDocument/2006/relationships\">" ++
    "<sheets>" ++ String.join sheetNodes ++ "</sheets></workbook>"

def workbookRelationshipsXml (sheetCount : Nat) : String :=
  let sheetRelationships := String.join ((List.range sheetCount).map fun index =>
    "<Relationship Id=\"rId" ++ toString (index + 1) ++
      "\" Type=\"http://schemas.openxmlformats.org/officeDocument/2006/relationships/worksheet\" Target=\"worksheets/sheet" ++
      toString (index + 1) ++ ".xml\"/>")
  xmlDeclaration ++
    "<Relationships xmlns=\"http://schemas.openxmlformats.org/package/2006/relationships\">" ++
    sheetRelationships ++
    "<Relationship Id=\"rId" ++ toString (sheetCount + 1) ++
    "\" Type=\"http://schemas.openxmlformats.org/officeDocument/2006/relationships/styles\" Target=\"styles.xml\"/>" ++
    "</Relationships>"

def rootRelationshipsXml : String :=
  xmlDeclaration ++
    "<Relationships xmlns=\"http://schemas.openxmlformats.org/package/2006/relationships\">" ++
    "<Relationship Id=\"rId1\" Type=\"http://schemas.openxmlformats.org/officeDocument/2006/relationships/officeDocument\" Target=\"xl/workbook.xml\"/>" ++
    "</Relationships>"

def stylesXml : String :=
  xmlDeclaration ++
    "<styleSheet xmlns=\"http://schemas.openxmlformats.org/spreadsheetml/2006/main\">" ++
    "<fonts count=\"1\"><font><sz val=\"11\"/><name val=\"Calibri\"/></font></fonts>" ++
    "<fills count=\"2\"><fill><patternFill patternType=\"none\"/></fill><fill><patternFill patternType=\"gray125\"/></fill></fills>" ++
    "<borders count=\"1\"><border><left/><right/><top/><bottom/><diagonal/></border></borders>" ++
    "<cellStyleXfs count=\"1\"><xf numFmtId=\"0\" fontId=\"0\" fillId=\"0\" borderId=\"0\"/></cellStyleXfs>" ++
    "<cellXfs count=\"1\"><xf numFmtId=\"0\" fontId=\"0\" fillId=\"0\" borderId=\"0\" xfId=\"0\"/></cellXfs>" ++
    "<cellStyles count=\"1\"><cellStyle name=\"Normal\" xfId=\"0\" builtinId=\"0\"/></cellStyles>" ++
    "</styleSheet>"

/-! ## The workbook -/

def worksheetName (index : Nat) : String := "xl/worksheets/sheet" ++ toString (index + 1) ++ ".xml"

def fileNames (sheetCount : Nat) : List String :=
  ["[Content_Types].xml", "_rels/.rels", "xl/workbook.xml", "xl/_rels/workbook.xml.rels",
    "xl/styles.xml"] ++ (List.range sheetCount).map worksheetName

/-- The entries so far; `dataBytes` are theirs. -/
structure PackedEntries where
  entries : List ZipEntry
  dataBytes : Nat

def addXml (dataBudget : Nat) (packed : PackedEntries) (name : String) (data : Bytes) :
    Outcome PackedEntries := do
  unavailableIf (dataBudget - packed.dataBytes < data.length)
  return ⟨packed.entries ++ [⟨name, data⟩], packed.dataBytes + data.length⟩

def addWorksheet (dataBudget : Nat) (packed : PackedEntries) (sheet : CheckedSheet × Nat) :
    Outcome PackedEntries := do
  let xml ← worksheetXml runtime sheet.1 (dataBudget - packed.dataBytes)
  addXml dataBudget packed (worksheetName sheet.2) xml

/-- Everything before `storedZip`. -/
def packEntries (sheets : List CheckedSheet) (maxOutputBytes : Nat) : Outcome (List ZipEntry) := do
  let overhead := zipOverhead (fileNames sheets.length)
  unavailableIf (maxOutputBytes < overhead + 1)
  let dataBudget := maxOutputBytes - overhead
  let packed ← addXml dataBudget ⟨[], 0⟩ "[Content_Types].xml" (utf8 (contentTypesXml sheets.length))
  let packed ← addXml dataBudget packed "_rels/.rels" (utf8 rootRelationshipsXml)
  let workbook ← workbookXml sheets
  let packed ← addXml dataBudget packed "xl/workbook.xml" (utf8 workbook)
  let packed ← addXml dataBudget packed "xl/_rels/workbook.xml.rels"
    (utf8 (workbookRelationshipsXml sheets.length))
  let packed ← addXml dataBudget packed "xl/styles.xml" (utf8 stylesXml)
  let packed ← sheets.zipIdx.foldlM (addWorksheet runtime dataBudget) packed
  return packed.entries

/-- `maxOutputBytes`, if it is a size that the container can address. -/
def checkOutputBytes (maxOutputBytes : XlsxNumber) : Outcome Nat :=
  match maxOutputBytes.safeInteger with
  | some bytes =>
      if bytes < 1 ∨ (maxZipUint32 : Int) < bytes then unavailable else .ok bytes.toNat
  | none => unavailable

def createSafeXlsx (input : XlsxWorkbookInput) : Outcome Bytes := do
  unavailableIf (input.sheets = [] ∨ maxSheets < input.sheets.length)
  let maxOutputBytes ← checkOutputBytes input.maxOutputBytes
  let sheets ← validateSheets runtime [] input.sheets
  let entries ← packEntries runtime sheets maxOutputBytes
  storedZip entries maxOutputBytes

end SupplyChain.SafeXlsx
