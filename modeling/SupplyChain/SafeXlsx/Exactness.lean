import SupplyChain.Relational.Keys
import SupplyChain.SafeXlsx.RoundTrip
import SupplyChain.SafeXlsx.Workbook

/-!
When a workbook is written, and what. The XML of each part is said without a budget; what
the builder and `addXml` make of it under a budget is the same XML, as long as it fits.
-/

namespace SupplyChain.SafeXlsx

open Buffers

variable {runtime : XlsxRuntime} {sheet : CheckedSheet} {sheets : List CheckedSheet}

/-! ## Outcomes -/

section Outcomes

variable {α β σ : Type} {a : α} {b : β} {x : Outcome α} {f : α → Outcome β} {bad : Prop}
  [Decidable bad]

theorem bind_ok : (x >>= f) = .ok b ↔ ∃ a, x = .ok a ∧ f a = .ok b := by
  cases x with
  | error error =>
      constructor
      · intro ok
        cases ok
      · rintro ⟨a, ok, -⟩
        cases ok
  | ok a =>
      constructor
      · intro ok
        exact ⟨a, rfl, ok⟩
      · rintro ⟨_, same, ok⟩
        cases same
        exact ok

theorem pure_ok {other : α} : (pure a : Outcome α) = .ok other ↔ a = other := by
  constructor
  · intro ok
    cases ok
    rfl
  · rintro rfl
    rfl

theorem unavailableIf_ok {u : Unit} : unavailableIf bad = .ok u ↔ ¬ bad := by
  unfold unavailableIf
  split
  · next holds =>
      constructor
      · intro ok
        cases ok
      · intro fine
        exact absurd holds fine
  · next holds => exact iff_of_true rfl holds

theorem mapM_total {items : List α} (each : ∀ item ∈ items, ∃ b, f item = .ok b) :
    ∃ results, items.mapM f = .ok results := by
  induction items with
  | nil => exact ⟨[], rfl⟩
  | cons item rest ih =>
      obtain ⟨b, first⟩ := each item List.mem_cons_self
      obtain ⟨others, later⟩ := ih fun other member => each other (List.mem_cons_of_mem item member)
      refine ⟨b :: others, ?_⟩
      simp only [List.mapM_cons, bind_ok, pure_ok]
      exact ⟨b, first, others, later, rfl⟩

/-- What every result has of its item, the list of the results has of the list. -/
theorem mapM_map {γ : Type} {items : List α} {results : List β} {read : β → γ} {given : α → γ}
    (each : ∀ {item b}, f item = .ok b → read b = given item)
    (made : items.mapM f = .ok results) : results.map read = items.map given := by
  induction items generalizing results with
  | nil =>
      cases made
      rfl
  | cons item rest ih =>
      simp only [List.mapM_cons, bind_ok, pure_ok] at made
      obtain ⟨b, first, others, later, rfl⟩ := made
      rw [List.map_cons, List.map_cons, each first, ih later]

end Outcomes

/-! ## The builder -/

namespace BoundedXmlBuilder

variable {builder last : BoundedXmlBuilder} {value : String} {parts : List String}
  {maximumBytes : Nat}

def appendAll (builder : BoundedXmlBuilder) (parts : List String) : Outcome BoundedXmlBuilder :=
  parts.foldlM append builder

theorem same_of_chunks (budget : last.maximumBytes = builder.maximumBytes)
    (chunks : last.chunks = builder.chunks) : last = builder := by
  obtain ⟨_, _, _, sized, _⟩ := last
  obtain ⟨_, _, _, sized', _⟩ := builder
  dsimp only at budget chunks
  subst budget chunks
  subst sized sized'
  rfl

theorem append_ok : builder.append value = .ok last ↔
    last.maximumBytes = builder.maximumBytes ∧ last.chunks = builder.chunks ++ [utf8 value] := by
  unfold append
  split
  · next room =>
      constructor
      · intro ok
        cases ok
        exact ⟨rfl, rfl⟩
      · rintro ⟨budget, chunks⟩
        have same := @same_of_chunks ⟨builder.maximumBytes, builder.chunks ++ [utf8 value], _,
          builder.appended_sized _, builder.appended_bounded room⟩ last budget chunks
        rw [same]
  · next full =>
      constructor
      · intro ok
        cases ok
      · rintro ⟨budget, chunks⟩
        have bounded := last.bounded
        rw [last.sized, chunks, budget, ← builder.appended_sized] at bounded
        omega

theorem appendAll_ok : builder.appendAll parts = .ok last ↔
    last.maximumBytes = builder.maximumBytes ∧
      last.chunks = builder.chunks ++ parts.map utf8 := by
  induction parts generalizing builder with
  | nil =>
      rw [List.map_nil, List.append_nil]
      constructor
      · intro ok
        cases ok
        exact ⟨rfl, rfl⟩
      · rintro ⟨budget, chunks⟩
        rw [same_of_chunks budget chunks]
        rfl
  | cons value rest ih =>
      rw [appendAll, List.foldlM_cons, bind_ok]
      constructor
      · rintro ⟨mid, first, later⟩
        obtain ⟨budget, chunks⟩ := append_ok.mp first
        obtain ⟨budget', chunks'⟩ := ih.mp later
        refine ⟨budget'.trans budget, ?_⟩
        rw [chunks', chunks, List.append_assoc, List.map_cons, List.singleton_append]
      · rintro ⟨budget, chunks⟩
        -- what fits as a whole fits up to the first part
        have room : (utf8 value).length ≤ builder.maximumBytes - builder.size := by
          have bounded := last.bounded
          rw [last.sized, chunks, budget, List.map_cons, List.flatten_append, List.length_append,
            ← builder.sized, List.flatten_cons, List.length_append] at bounded
          omega
        refine ⟨_, dif_pos room, ih.mpr ⟨budget, ?_⟩⟩
        rw [chunks, List.map_cons, List.append_assoc, List.singleton_append]

theorem appendAll_append {first rest : List String} :
    builder.appendAll (first ++ rest) = .ok last ↔
      ∃ mid, builder.appendAll first = .ok mid ∧ mid.appendAll rest = .ok last := by
  rw [appendAll, List.foldlM_append, bind_ok]
  rfl

theorem appendAll_single : builder.appendAll [value] = builder.append value := by
  rw [appendAll, List.foldlM_cons]
  cases builder.append value with
  | error error => rfl
  | ok last => rfl

theorem new_appendAll {data : Bytes} :
    (∃ last, (new maximumBytes).appendAll parts = .ok last ∧ last.finish = data) ↔
      data = parts.flatMap utf8 ∧ data.length ≤ maximumBytes := by
  rw [List.flatMap_def]
  constructor
  · rintro ⟨last, appended, rfl⟩
    obtain ⟨budget, chunks⟩ := appendAll_ok.mp appended
    have chunks : last.chunks = parts.map utf8 := chunks
    have budget : last.maximumBytes = maximumBytes := budget
    rw [finish, ← budget, ← last.sized, chunks]
    exact ⟨rfl, last.bounded⟩
  · rintro ⟨rfl, fits⟩
    exact ⟨⟨maximumBytes, parts.map utf8, _, rfl, fits⟩, appendAll_ok.mpr ⟨rfl, rfl⟩, rfl⟩

end BoundedXmlBuilder

open BoundedXmlBuilder

/-! ## Worksheets -/

def columnParts (runtime : XlsxRuntime) (columnWidths : List ℚ) : List String :=
  if columnWidths = [] then []
  else ["<cols>"] ++ columnWidths.zipIdx.map (columnXml runtime) ++ ["</cols>"]

def rowParts (runtime : XlsxRuntime) (sheet : CheckedSheet) (rowIndex : Nat)
    (row : List XlsxCell) : Outcome (List String) := do
  unavailableIf (sheet.rowCount < rowIndex ∨ sheet.columnCount < row.length)
  let cells ← row.zipIdx.mapM (cellXml runtime rowIndex)
  return ["<row r=\"" ++ toString rowIndex ++ "\">"] ++ cells ++ ["</row>"]

/-- The rows after the one with the given number. -/
def rowsParts (runtime : XlsxRuntime) (sheet : CheckedSheet) :
    Nat → List (List XlsxCell) → Outcome (List String)
  | _, [] => .ok []
  | rowIndex, row :: rest => do
      let first ← rowParts runtime sheet (rowIndex + 1) row
      let others ← rowsParts runtime sheet (rowIndex + 1) rest
      return first ++ others

/-- The XML of a sheet in its parts, without a budget; an error if it is not valid. -/
def worksheetParts (runtime : XlsxRuntime) (sheet : CheckedSheet) : Outcome (List String) := do
  let rows ← rowsParts runtime sheet 0 sheet.rows
  unavailableIf (sheet.rows.length ≠ sheet.rowCount)
  return [worksheetHead sheet] ++ columnParts runtime sheet.columnWidths ++ ["<sheetData>"] ++ rows ++
    ["</sheetData></worksheet>"]

section Worksheets

variable {builder last : BoundedXmlBuilder}

theorem appendColumns_ok {columnWidths : List ℚ} :
    appendColumns runtime columnWidths builder = .ok last ↔
      builder.appendAll (columnParts runtime columnWidths) = .ok last := by
  unfold appendColumns columnParts
  by_cases none : columnWidths = []
  · rw [if_pos none, if_pos none]
    rfl
  · rw [if_neg none, if_neg none, appendAll_append, bind_ok]
    simp only [bind_ok, appendAll_append, appendAll_single]
    have columns : ∀ builder : BoundedXmlBuilder,
        columnWidths.zipIdx.foldlM (appendColumn runtime) builder =
          builder.appendAll (columnWidths.zipIdx.map (columnXml runtime)) := by
      intro builder
      rw [appendAll, List.foldlM_map]
      rfl
    simp only [columns]
    constructor
    · rintro ⟨mid, first, later, between, finish⟩
      exact ⟨later, ⟨mid, first, between⟩, finish⟩
    · rintro ⟨later, ⟨mid, first, between⟩, finish⟩
      exact ⟨mid, first, later, between, finish⟩

theorem appendCells_ok {rowIndex : Nat} {cells : List (XlsxCell × Nat)} :
    cells.foldlM (appendCell runtime rowIndex) builder = .ok last ↔
      ∃ parts, cells.mapM (cellXml runtime rowIndex) = .ok parts ∧
        builder.appendAll parts = .ok last := by
  induction cells generalizing builder with
  | nil =>
      constructor
      · intro ok
        exact ⟨[], rfl, ok⟩
      · rintro ⟨parts, made, ok⟩
        cases made
        exact ok
  | cons cell rest ih =>
      simp only [List.foldlM_cons, List.mapM_cons, bind_ok, pure_ok, appendCell, ih]
      constructor
      · rintro ⟨mid, ⟨xml, made, appended⟩, parts, others, later⟩
        refine ⟨xml :: parts, ⟨xml, made, parts, others, rfl⟩, ?_⟩
        rw [appendAll, List.foldlM_cons, appended]
        exact later
      · rintro ⟨_, ⟨xml, made, parts, others, rfl⟩, ok⟩
        rw [appendAll, List.foldlM_cons, bind_ok] at ok
        obtain ⟨mid, appended, later⟩ := ok
        exact ⟨mid, ⟨xml, made, appended⟩, parts, others, later⟩

theorem appendRow_ok {rowIndex next : Nat} {row : List XlsxCell} :
    appendRow runtime sheet (rowIndex, builder) row = .ok (next, last) ↔ next = rowIndex + 1 ∧
      ∃ parts, rowParts runtime sheet next row = .ok parts ∧
        builder.appendAll parts = .ok last := by
  simp only [appendRow, rowParts, bind_ok, unavailableIf_ok, exists_const, pure_ok, Prod.mk.injEq,
    appendCells_ok]
  constructor
  · rintro ⟨fits, mid, first, later, ⟨parts, made, between⟩, _, finish, rfl, rfl⟩
    refine ⟨rfl, _, ⟨fits, parts, made, rfl⟩, ?_⟩
    rw [appendAll_append]
    refine ⟨later, appendAll_append.mpr ⟨mid, ?_, between⟩, ?_⟩
    · rw [appendAll_single]
      exact first
    · rw [appendAll_single]
      exact finish
  · rintro ⟨rfl, _, ⟨fits, parts, made, rfl⟩, ok⟩
    obtain ⟨later, start, finish⟩ := appendAll_append.mp ok
    obtain ⟨mid, first, between⟩ := appendAll_append.mp start
    rw [appendAll_single] at first finish
    exact ⟨fits, mid, first, later, ⟨parts, made, between⟩, last, finish, rfl, rfl⟩

theorem appendRows_ok {rowIndex final : Nat} {rows : List (List XlsxCell)} :
    rows.foldlM (appendRow runtime sheet) (rowIndex, builder) = .ok (final, last) ↔
      final = rowIndex + rows.length ∧ ∃ parts, rowsParts runtime sheet rowIndex rows = .ok parts ∧
        builder.appendAll parts = .ok last := by
  induction rows generalizing rowIndex builder with
  | nil =>
      constructor
      · intro ok
        cases ok
        exact ⟨rfl, [], rfl, rfl⟩
      · rintro ⟨rfl, parts, made, ok⟩
        cases made
        cases ok
        rfl
  | cons row rest ih =>
      rw [List.foldlM_cons, bind_ok]
      simp only [rowsParts, bind_ok, pure_ok, List.length_cons]
      constructor
      · rintro ⟨⟨next, mid⟩, first, later⟩
        obtain ⟨rfl, parts, made, appended⟩ := appendRow_ok.mp first
        obtain ⟨rfl, others, madeRest, appendedRest⟩ := ih.mp later
        refine ⟨by omega, _, ⟨parts, made, others, madeRest, rfl⟩, ?_⟩
        exact appendAll_append.mpr ⟨mid, appended, appendedRest⟩
      · rintro ⟨rfl, _, ⟨parts, made, others, madeRest, rfl⟩, ok⟩
        obtain ⟨mid, appended, appendedRest⟩ := appendAll_append.mp ok
        refine ⟨(rowIndex + 1, mid), appendRow_ok.mpr ⟨rfl, parts, made, appended⟩, ?_⟩
        exact ih.mpr ⟨by omega, others, madeRest, appendedRest⟩

theorem worksheetXml_ok {maximumBytes : Nat} {data : Bytes} :
    worksheetXml runtime sheet maximumBytes = .ok data ↔
      ∃ parts, worksheetParts runtime sheet = .ok parts ∧ data = parts.flatMap utf8 ∧
        data.length ≤ maximumBytes := by
  have whole : worksheetXml runtime sheet maximumBytes = .ok data ↔
      ∃ parts, worksheetParts runtime sheet = .ok parts ∧
        ∃ last, (new maximumBytes).appendAll parts = .ok last ∧ last.finish = data := by
    simp only [worksheetXml, worksheetParts, bind_ok, unavailableIf_ok, exists_const, pure_ok,
      appendColumns_ok]
    constructor
    · rintro ⟨one, head, two, columns, three, opened, ⟨rowIndex, four⟩, rows, counted, last, closed,
        rfl⟩
      obtain ⟨rfl, parts, made, appended⟩ := appendRows_ok.mp rows
      rw [Nat.zero_add] at counted
      refine ⟨_, ⟨parts, made, counted, rfl⟩, last, ?_, rfl⟩
      simp only [appendAll_append, appendAll_single]
      exact ⟨four, ⟨three, ⟨two, ⟨one, head, columns⟩, opened⟩, appended⟩, closed⟩
    · rintro ⟨_, ⟨parts, made, counted, rfl⟩, last, ok, rfl⟩
      simp only [appendAll_append, appendAll_single] at ok
      obtain ⟨four, ⟨three, ⟨two, ⟨one, head, columns⟩, opened⟩, appended⟩, closed⟩ := ok
      refine ⟨one, head, two, columns, three, opened, (sheet.rows.length, four), ?_, counted, last,
        closed, rfl⟩
      exact appendRows_ok.mpr ⟨(Nat.zero_add _).symm, parts, made, appended⟩
  rw [whole]
  simp only [new_appendAll]

end Worksheets

/-! ## Files -/

def worksheetEntry (runtime : XlsxRuntime) (sheet : CheckedSheet × Nat) : Outcome ZipEntry := do
  let parts ← worksheetParts runtime sheet.1
  return ⟨worksheetName sheet.2, parts.flatMap utf8⟩

/-- The files of a workbook, without a budget. -/
def xmlFiles (runtime : XlsxRuntime) (sheets : List CheckedSheet) : Outcome (List ZipEntry) := do
  let workbook ← workbookXml sheets
  let worksheets ← sheets.zipIdx.mapM (worksheetEntry runtime)
  return [⟨"[Content_Types].xml", utf8 (contentTypesXml sheets.length)⟩,
    ⟨"_rels/.rels", utf8 rootRelationshipsXml⟩, ⟨"xl/workbook.xml", utf8 workbook⟩,
    ⟨"xl/_rels/workbook.xml.rels", utf8 (workbookRelationshipsXml sheets.length)⟩,
    ⟨"xl/styles.xml", utf8 stylesXml⟩] ++ worksheets

section Packing

variable {budget limit : Nat} {packed next : PackedEntries} {name : String} {data : Bytes}
  {listed first rest entries files : List ZipEntry}

/-- The entries were added within the budget. -/
structure Packed (budget : Nat) (packed : PackedEntries) (listed : List ZipEntry)
    (next : PackedEntries) : Prop where
  same : next = ⟨packed.entries ++ listed, packed.dataBytes + dataSize listed⟩
  within : packed.dataBytes + dataSize listed ≤ budget

theorem dataSize_append : dataSize (first ++ rest) = dataSize first + dataSize rest := by
  rw [dataSize, List.map_append, List.sum_append]
  rfl

theorem packed_append : Packed budget packed (first ++ rest) next ↔
    ∃ mid, Packed budget packed first mid ∧ Packed budget mid rest next := by
  constructor
  · rintro ⟨rfl, within⟩
    rw [dataSize_append] at within
    refine ⟨_, ⟨rfl, by omega⟩, ⟨?_, by dsimp only; omega⟩⟩
    rw [dataSize_append, List.append_assoc, Nat.add_assoc]
  · rintro ⟨_, ⟨rfl, _⟩, ⟨rfl, within⟩⟩
    constructor
    · rw [dataSize_append, List.append_assoc, Nat.add_assoc]
    · rw [dataSize_append, ← Nat.add_assoc]
      exact within

theorem Packed.bounded (packs : Packed budget packed listed next) : next.dataBytes ≤ budget := by
  obtain ⟨rfl, within⟩ := packs
  exact within

theorem addXml_ok (bounded : packed.dataBytes ≤ budget) :
    addXml budget packed name data = .ok next ↔ Packed budget packed [⟨name, data⟩] next := by
  have only : dataSize [⟨name, data⟩] = data.length := by
    rw [dataSize, List.map_singleton, List.sum_singleton]
  simp only [addXml, bind_ok, unavailableIf_ok, exists_const, pure_ok]
  constructor
  · rintro ⟨fits, rfl⟩
    exact ⟨by rw [only], by rw [only]; omega⟩
  · rintro ⟨rfl, within⟩
    rw [only] at within ⊢
    exact ⟨by omega, rfl⟩

theorem addWorksheet_ok {sheet : CheckedSheet × Nat} (bounded : packed.dataBytes ≤ budget) :
    addWorksheet runtime budget packed sheet = .ok next ↔
      ∃ entry, worksheetEntry runtime sheet = .ok entry ∧ Packed budget packed [entry] next := by
  simp only [addWorksheet, worksheetEntry, bind_ok, pure_ok, worksheetXml_ok, addXml_ok bounded]
  constructor
  · rintro ⟨data, ⟨parts, made, rfl, -⟩, packs⟩
    exact ⟨_, ⟨parts, made, rfl⟩, packs⟩
  · rintro ⟨_, ⟨parts, made, rfl⟩, packs⟩
    refine ⟨_, ⟨parts, made, rfl, ?_⟩, packs⟩
    have within : packed.dataBytes + (parts.flatMap utf8).length ≤ budget := packs.within
    omega

theorem addWorksheets_ok {items : List (CheckedSheet × Nat)} (bounded : packed.dataBytes ≤ budget) :
    items.foldlM (addWorksheet runtime budget) packed = .ok next ↔
      ∃ listed, items.mapM (worksheetEntry runtime) = .ok listed ∧
        Packed budget packed listed next := by
  induction items generalizing packed with
  | nil =>
      constructor
      · intro ok
        cases ok
        exact ⟨[], rfl, by rw [List.append_nil]; rfl, bounded⟩
      · rintro ⟨listed, made, packs⟩
        rw [List.mapM_nil, pure_ok] at made
        subst made
        obtain ⟨rfl, -⟩ := packs
        rw [List.append_nil]
        rfl
  | cons sheet others ih =>
      simp only [List.foldlM_cons, List.mapM_cons, bind_ok, pure_ok]
      constructor
      · rintro ⟨mid, added, later⟩
        obtain ⟨entry, made, packs⟩ := (addWorksheet_ok bounded).mp added
        obtain ⟨listed, madeRest, packsRest⟩ := (ih packs.bounded).mp later
        exact ⟨_, ⟨entry, made, listed, madeRest, rfl⟩,
          packed_append.mpr ⟨mid, packs, packsRest⟩⟩
      · rintro ⟨_, ⟨entry, made, listed, madeRest, rfl⟩, packs⟩
        obtain ⟨mid, packsFirst, packsRest⟩ := (@packed_append budget packed next [entry] listed).mp packs
        exact ⟨mid, (addWorksheet_ok bounded).mpr ⟨entry, made, packsFirst⟩,
          (ih packsFirst.bounded).mpr ⟨listed, madeRest, packsRest⟩⟩

theorem utf8_append (first rest : String) : utf8 (first ++ rest) = utf8 first ++ utf8 rest := by
  rw [utf8, String.toByteArray_append, ByteArray.toList_data_append]
  rfl

theorem stylesXml_filled : 0 < (utf8 stylesXml).length := by
  have declared : 0 < (utf8 xmlDeclaration).length := by decide +kernel
  simp only [stylesXml, utf8_append, List.length_append]
  omega

theorem packEntries_ok : packEntries runtime sheets limit = .ok entries ↔
    xmlFiles runtime sheets = .ok entries ∧
      zipOverhead (fileNames sheets.length) + dataSize entries ≤ limit := by
  have none : (0 : Nat) ≤ limit - zipOverhead (fileNames sheets.length) := Nat.zero_le _
  simp only [packEntries, xmlFiles, bind_ok, unavailableIf_ok, exists_const, pure_ok]
  constructor
  · rintro ⟨room, one, first, two, second, workbook, made, three, third, four, fourth, five, fifth,
      last, sheetsAdded, rfl⟩
    have packs := (addXml_ok none).mp first
    have packs₂ := (addXml_ok packs.bounded).mp second
    have packs₃ := (addXml_ok packs₂.bounded).mp third
    have packs₄ := (addXml_ok packs₃.bounded).mp fourth
    have packs₅ := (addXml_ok packs₄.bounded).mp fifth
    obtain ⟨listed, madeSheets, packs₆⟩ := (addWorksheets_ok packs₅.bounded).mp sheetsAdded
    have all := packed_append.mpr ⟨one, packs, packed_append.mpr ⟨two, packs₂,
      packed_append.mpr ⟨three, packs₃, packed_append.mpr ⟨four, packs₄,
        packed_append.mpr ⟨five, packs₅, packs₆⟩⟩⟩⟩⟩
    obtain ⟨rfl, within⟩ := all
    refine ⟨⟨workbook, made, listed, madeSheets, rfl⟩, ?_⟩
    rw [Nat.zero_add] at within
    simp only [List.nil_append]
    omega
  · rintro ⟨⟨workbook, made, listed, madeSheets, rfl⟩, fits⟩
    generalize whole : [_, _, _, _, _] ++ listed = files at fits
    have filled : 0 < dataSize files := by
      have styles := stylesXml_filled
      rw [← whole, dataSize_append]
      simp only [dataSize, List.map_cons, List.map_nil, List.sum_cons, List.sum_nil]
      omega
    have all : Packed (limit - zipOverhead (fileNames sheets.length)) ⟨[], 0⟩ files
        ⟨files, dataSize files⟩ := by
      refine ⟨?_, by dsimp only; omega⟩
      rw [Nat.zero_add, List.nil_append]
    obtain ⟨one, packs, all⟩ := (@packed_append _ _ _ [_] _).mp (whole.symm ▸ all)
    obtain ⟨two, packs₂, all⟩ := (@packed_append _ _ _ [_] _).mp all
    obtain ⟨three, packs₃, all⟩ := (@packed_append _ _ _ [_] _).mp all
    obtain ⟨four, packs₄, all⟩ := (@packed_append _ _ _ [_] _).mp all
    obtain ⟨five, packs₅, packs₆⟩ := (@packed_append _ _ _ [_] _).mp all
    refine ⟨by omega, one, (addXml_ok none).mpr packs, two, (addXml_ok packs.bounded).mpr packs₂,
      workbook, made, three, (addXml_ok packs₂.bounded).mpr packs₃, four,
      (addXml_ok packs₃.bounded).mpr packs₄, five, (addXml_ok packs₄.bounded).mpr packs₅, _,
      (addWorksheets_ok packs₅.bounded).mpr ⟨listed, madeSheets, packs₆⟩, whole.symm ▸ rfl⟩

end Packing

/-! ## Workbooks -/

/-- The XML of the sheet is valid: its cells and its rows can be written. -/
def ValidXml (runtime : XlsxRuntime) (sheet : CheckedSheet) : Prop :=
  ∃ parts, worksheetParts runtime sheet = .ok parts

section Workbooks

variable {files : List ZipEntry} {input : XlsxWorkbookInput}

theorem workbookXml_total (sheets : List CheckedSheet) : ∃ xml, workbookXml sheets = .ok xml := by
  have nodes : ∃ nodes, sheets.zipIdx.mapM sheetNode = .ok nodes := by
    apply mapM_total
    rintro ⟨sheet, index⟩ -
    simp only [sheetNode, escapeXml, bind_ok, unavailableIf_ok, exists_const, pure_ok,
      sheet.acceptable.valid]
    exact ⟨_, _, ⟨Bool.false_ne_true, rfl⟩, rfl⟩
  obtain ⟨nodes, made⟩ := nodes
  exact ⟨_, bind_ok.mpr ⟨nodes, made, rfl⟩⟩

theorem xmlFiles_total (valid : ∀ sheet ∈ sheets, ValidXml runtime sheet) :
    ∃ files, xmlFiles runtime sheets = .ok files := by
  obtain ⟨workbook, made⟩ := workbookXml_total sheets
  have worksheets : ∃ listed, sheets.zipIdx.mapM (worksheetEntry runtime) = .ok listed := by
    apply mapM_total
    rintro ⟨sheet, index⟩ member
    obtain ⟨parts, found⟩ := valid sheet (List.mem_zipIdx_iff_getElem?.mp member |> List.mem_of_getElem?)
    exact ⟨_, bind_ok.mpr ⟨parts, found, rfl⟩⟩
  obtain ⟨listed, madeSheets⟩ := worksheets
  exact ⟨_, bind_ok.mpr ⟨workbook, made, bind_ok.mpr ⟨listed, madeSheets, rfl⟩⟩⟩

theorem xmlFiles_names (made : xmlFiles runtime sheets = .ok files) :
    files.map ZipEntry.name = fileNames sheets.length := by
  simp only [xmlFiles, bind_ok, pure_ok] at made
  obtain ⟨workbook, -, listed, madeSheets, rfl⟩ := made
  have names : listed.map ZipEntry.name = sheets.zipIdx.map fun sheet => worksheetName sheet.2 := by
    refine mapM_map ?_ madeSheets
    rintro sheet entry found
    simp only [worksheetEntry, bind_ok, pure_ok] at found
    obtain ⟨parts, -, rfl⟩ := found
    rfl
  have indices : (sheets.zipIdx.map fun sheet => worksheetName sheet.2) =
      (List.range sheets.length).map worksheetName := by
    rw [List.range_eq_range', ← List.zipIdx_map_snd 0 sheets, List.map_map]
    rfl
  rw [List.map_append, names, indices]
  rfl

/-- The names of the parts that every workbook has. -/
def partNames : List String :=
  ["[Content_Types].xml", "_rels/.rels", "xl/workbook.xml", "xl/_rels/workbook.xml.rels",
    "xl/styles.xml"]

theorem partNames_apart : ∀ name ∈ partNames, ¬ "xl/worksheets/sheet".toList <+: name.toList := by
  decide

theorem toList_between (start finish : String) (n : Nat) : (start ++ toString n ++ finish).toList =
    start.toList ++ ((toString n).toList ++ finish.toList) := by
  rw [String.toList_append, String.toList_append, List.append_assoc]

theorem worksheetName_toList (index : Nat) : (worksheetName index).toList =
    "xl/worksheets/sheet".toList ++ ((toString (index + 1)).toList ++ ".xml".toList) :=
  toList_between _ _ _

theorem worksheetName_injective : Function.Injective worksheetName := by
  intro m n same
  have texts := congrArg String.toList same
  rw [worksheetName_toList, worksheetName_toList] at texts
  have digits := List.append_cancel_right (List.append_cancel_left texts)
  have numbers := Relational.toString_injective (String.toList_inj.mp digits)
  omega

theorem fileNames_distinct (count : Nat) : (fileNames count).Nodup := by
  have apart : ∀ name ∈ partNames, ∀ n, name ≠ worksheetName n := by
    intro name member n same
    have starts : "xl/worksheets/sheet".toList <+: name.toList := by
      rw [same, worksheetName_toList]
      exact List.prefix_append _ _
    exact absurd starts (partNames_apart name member)
  rw [fileNames, List.nodup_append]
  refine ⟨by decide, List.nodup_range.map worksheetName_injective, ?_⟩
  rintro name member _ listed rfl
  obtain ⟨n, -, same⟩ := List.mem_map.mp listed
  exact apart _ member n same.symm

theorem fileNames_storable {count : Nat} (counted : count ≤ maxSheets) :
    ∀ name ∈ fileNames count, utf8 name ≠ [] ∧ (utf8 name).length ≤ 0xffff := by
  have most : ∀ name ∈ fileNames maxSheets, utf8 name ≠ [] ∧ (utf8 name).length ≤ 0xffff := by
    decide +kernel
  intro name member
  apply most
  rcases List.mem_append.mp member with part | worksheet
  · exact List.mem_append_left _ part
  · obtain ⟨n, inside, rfl⟩ := List.mem_map.mp worksheet
    refine List.mem_append_right _ (List.mem_map_of_mem (List.mem_range.mpr ?_))
    exact Nat.lt_of_lt_of_le (List.mem_range.mp inside) counted

theorem checkOutputBytes_ok {bytes : XlsxNumber} {limit : Nat} :
    checkOutputBytes bytes = .ok limit ↔
      bytes.safeInteger = some (limit : Int) ∧ 1 ≤ limit ∧ limit ≤ maxZipUint32 := by
  unfold checkOutputBytes
  cases bytes.safeInteger with
  | none =>
      constructor
      · intro ok
        cases ok
      · rintro ⟨found, -⟩
        cases found
  | some value =>
      dsimp only
      split
      · next outside =>
          constructor
          · intro ok
            cases ok
          · rintro ⟨found, least, most⟩
            obtain rfl := Option.some.inj found
            omega
      · next inside =>
          constructor
          · intro ok
            obtain rfl := Except.ok.inj ok
            refine ⟨congrArg some ?_, ?_, ?_⟩
            · omega
            · omega
            · omega
          · rintro ⟨found, -, -⟩
            obtain rfl := Option.some.inj found
            rfl

theorem validateSheets_length {names : List String} {raw : List XlsxSheet}
    (checked : validateSheets runtime names raw = .ok sheets) : sheets.length = raw.length := by
  induction raw generalizing names sheets with
  | nil =>
      cases checked
      rfl
  | cons sheet rest ih =>
      simp only [validateSheets, bind_ok, pure_ok] at checked
      obtain ⟨⟨first, taken⟩, -, others, later, rfl⟩ := checked
      rw [List.length_cons, List.length_cons, ih later]

/-- The files of a workbook can be stored and read back within four gigabytes. -/
theorem xmlFiles_sound {limit : Nat} (counted : sheets.length ≤ maxSheets)
    (made : xmlFiles runtime sheets = .ok files)
    (fits : zipOverhead (fileNames sheets.length) + dataSize files ≤ limit)
    (bounded : limit ≤ maxZipUint32) : files ≠ [] ∧ Sound files := by
  have names := xmlFiles_names made
  have lengths := congrArg List.length names
  rw [List.length_map, fileNames, List.length_append, List.length_map, List.length_range] at lengths
  have parts : partNames.length = 5 := rfl
  have areas := length_areas 0 files
  rw [names] at areas
  have many : files.length = 5 + sheets.length := lengths
  refine ⟨?_, ?_, ?_, ?_, ?_⟩
  · rintro rfl
    rw [List.length_nil] at many
    omega
  · intro entry member
    apply fileNames_storable counted
    rw [← names]
    exact List.mem_map_of_mem member
  · rw [names]
    exact fileNames_distinct _
  · unfold maxSheets at counted
    unfold maxZipEntries
    omega
  · omega

theorem createSafeXlsx_ok {output : Bytes} (filled : input.sheets ≠ [])
    (counted : input.sheets.length ≤ maxSheets)
    (checked : validateSheets runtime [] input.sheets = .ok sheets) :
    createSafeXlsx runtime input = .ok output ↔ ∃ limit : Nat,
      (input.maxOutputBytes.safeInteger = some (limit : Int) ∧ 1 ≤ limit ∧ limit ≤ maxZipUint32) ∧
        ∃ entries, packEntries runtime sheets limit = .ok entries ∧
          storedZip entries limit = .ok output := by
  have accepted : ¬ (input.sheets = [] ∨ maxSheets < input.sheets.length) := by
    rintro (none | many)
    · exact filled none
    · omega
  simp only [createSafeXlsx, bind_ok, unavailableIf_ok, exists_const, checkOutputBytes_ok, checked,
    Except.ok.injEq, accepted, not_false_eq_true, true_and, exists_eq_left']

/-- What is written, and when. -/
structure Exact (runtime : XlsxRuntime) (decode : Bytes → String) (input : XlsxWorkbookInput)
    (sheets : List CheckedSheet) (files : List ZipEntry) : Prop where
  succeeds : (∃ output, createSafeXlsx runtime input = .ok output) ↔
    ∃ limit : Nat, input.maxOutputBytes.safeInteger = some (limit : Int) ∧ limit ≤ maxZipUint32 ∧
      zipOverhead (fileNames input.sheets.length) + dataSize files ≤ limit
  written : ∀ output, createSafeXlsx runtime input = .ok output →
    output.length = zipOverhead (fileNames input.sheets.length) + dataSize files ∧
      Reader.readStoredZip decode output = .ok (files.map ZipEntry.file)
  stored : ∀ limit entries, limit ≤ maxZipUint32 → packEntries runtime sheets limit = .ok entries →
    ∃ output, storedZip entries limit = .ok output

/-- Sheets that are accepted and whose XML is valid are written exactly when the budget is
at most four gigabytes and covers the overhead and the XML; then nothing in `storedZip`
fails, and the files are read back as they were listed. -/
theorem createSafeXlsx_exact {decode : Bytes → String} (decodes : ∀ text, decode (utf8 text) = text)
    (filled : input.sheets ≠ []) (counted : input.sheets.length ≤ maxSheets)
    (checked : validateSheets runtime [] input.sheets = .ok sheets)
    (valid : ∀ sheet ∈ sheets, ValidXml runtime sheet) :
    ∃ files, xmlFiles runtime sheets = .ok files ∧
      files.map ZipEntry.name = fileNames input.sheets.length ∧
      Exact runtime decode input sheets files := by
  obtain ⟨files, made⟩ := xmlFiles_total valid
  have length := validateSheets_length checked
  have names := xmlFiles_names made
  have counted' : sheets.length ≤ maxSheets := by omega
  have stored : ∀ limit entries, limit ≤ maxZipUint32 →
      packEntries runtime sheets limit = .ok entries → entries = files ∧ Sound files ∧
        zipOverhead (fileNames sheets.length) + dataSize files ≤ limit ∧
          storedZip entries limit = .ok (archive files) := by
    intro limit entries bounded packed
    obtain ⟨same, fits⟩ := packEntries_ok.mp packed
    rw [made] at same
    cases same
    obtain ⟨some, sound⟩ := xmlFiles_sound counted' made fits bounded
    rw [← names] at fits
    have archived := storedZip_archive some sound.counted sound.storable fits bounded
    exact ⟨rfl, sound, names ▸ fits, archived⟩
  rw [← length]
  refine ⟨files, made, names, ⟨?_, ?_, ?_⟩⟩
  · simp only [createSafeXlsx_ok filled counted checked]
    rw [← length]
    constructor
    · rintro ⟨output, limit, ⟨found, -, bounded⟩, entries, packed, -⟩
      exact ⟨limit, found, bounded, (stored limit entries bounded packed).2.2.1⟩
    · rintro ⟨limit, found, bounded, fits⟩
      have packed := packEntries_ok.mpr ⟨made, fits⟩
      have areas := length_areas 0 files
      rw [names] at areas
      exact ⟨_, limit, ⟨found, by omega, bounded⟩, files, packed,
        (stored limit files bounded packed).2.2.2⟩
  · intro output ok
    obtain ⟨limit, ⟨-, -, bounded⟩, entries, packed, written⟩ :=
      (createSafeXlsx_ok filled counted checked).mp ok
    obtain ⟨-, sound, -, archived⟩ := stored limit entries bounded packed
    rw [archived] at written
    cases written
    rw [← length, ← names]
    exact ⟨length_archive files, readStoredZip_archive decodes sound⟩
  · intro limit entries bounded packed
    exact ⟨_, (stored limit entries bounded packed).2.2.2⟩

end Workbooks

/-! ## One sheet -/

def plainRuntime : XlsxRuntime where
  toLowerCase text := text
  numberText _ := "0"

def plainDecode (bytes : Bytes) : String := (String.fromUTF8? ⟨bytes.toArray⟩).getD ""

theorem plainDecode_utf8 (text : String) : plainDecode (utf8 text) = text := by
  have bytes : (⟨(utf8 text).toArray⟩ : ByteArray) = text.toByteArray := by
    rw [utf8, Array.toArray_toList]
  rw [plainDecode, bytes, String.fromUTF8?, dif_pos text.isValidUTF8]
  rfl

theorem plainSheet_acceptable : Acceptable "A" 1 1 := by decide +kernel

def plainSheet : CheckedSheet := ⟨"A", 1, 1, [[.text "=x"]], [], plainSheet_acceptable⟩

def plainInput (maxOutputBytes : Nat) : XlsxWorkbookInput where
  sheets := [⟨"A", .finite 1, .finite 1, [[.text "=x"]], none⟩]
  maxOutputBytes := .finite maxOutputBytes

theorem plainInput_checked (maxOutputBytes : Nat) :
    validateSheets plainRuntime [] (plainInput maxOutputBytes).sheets = .ok [plainSheet] := by
  rfl

theorem plainSheet_valid : ∀ sheet ∈ [plainSheet], ValidXml plainRuntime sheet := by
  intro sheet only
  rw [List.mem_singleton.mp only]
  cases made : worksheetParts plainRuntime plainSheet with
  | ok parts => exact ⟨parts, made⟩
  | error error =>
      have valid : (worksheetParts plainRuntime plainSheet).toBool = true := by decide +kernel
      rw [made] at valid
      cases valid

theorem createSafeXlsx_exact_plain :
    ∃ files, xmlFiles plainRuntime [plainSheet] = .ok files ∧
      files.map ZipEntry.name = fileNames 1 ∧
      Exact plainRuntime plainDecode (plainInput 65536) [plainSheet] files :=
  createSafeXlsx_exact plainDecode_utf8 (List.cons_ne_nil _ _) (by decide)
    (plainInput_checked 65536) plainSheet_valid

/-- A budget over four gigabytes is refused, however small the workbook. -/
theorem large_budget_refused :
    ¬ ∀ (runtime : XlsxRuntime) (input : XlsxWorkbookInput) (sheets : List CheckedSheet)
      (files : List ZipEntry) (limit : Nat), input.sheets ≠ [] → input.sheets.length ≤ maxSheets →
        validateSheets runtime [] input.sheets = .ok sheets → xmlFiles runtime sheets = .ok files →
          input.maxOutputBytes.safeInteger = some (limit : Int) →
            ((∃ output, createSafeXlsx runtime input = .ok output) ↔
              zipOverhead (fileNames sheets.length) + dataSize files ≤ limit) := by
  intro succeeds
  obtain ⟨files, made⟩ := xmlFiles_total plainSheet_valid
  have exact := succeeds plainRuntime (plainInput 4294967296) [plainSheet] files 4294967296
    (List.cons_ne_nil _ _) (by decide) (plainInput_checked _) made (by decide +kernel)
  have small : ((xmlFiles plainRuntime [plainSheet]).toOption.all fun files =>
      decide (zipOverhead (fileNames 1) + dataSize files ≤ 4294967296)) = true := by
    decide +kernel
  rw [made] at small
  obtain ⟨output, ok⟩ := exact.mpr (of_decide_eq_true small)
  have refused : (createSafeXlsx plainRuntime (plainInput 4294967296)).toBool = false := by
    decide +kernel
  rw [ok] at refused
  cases refused

end SupplyChain.SafeXlsx
