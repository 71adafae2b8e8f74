import SupplyChain.Supply

/-!
The creation of a bill of materials for a finished sku. It waits for its
approval, which retires the versions it replaces.
-/

namespace SupplyChain.MasterData

open Relational Transaction TableName Supply

variable {writes : List TableName}

/-- A component with its tolerances in percent. -/
structure ComponentInput where
  componentSku : String
  quantityPerFinished : Int
  issueTolerance : Option Rat := none
  consumptionTolerance : Option Rat := none
  lossTolerance : Option Rat := none

/-- The body of the request; `raw` is the JSON it was sent as. -/
structure CreateBom where
  finishedSku : String
  version : String
  effectiveFrom : String
  effectiveTo : Option String := none
  overlapAllowed : Bool := false
  overlapReason : Option String := none
  components : List ComponentInput
  raw : JsonValue := .null

/-- A percentage in basis points. -/
def bps (value : Option Rat) : SupplyTx writes Int := do
  let percent := value.getD 0
  refuseIf (percent < 0 ∨ 100 < percent) (badRequest "Tolerance must be between 0 and 100 percent")
  return (percent * 100 + 1 / 2).floor

structure PreparedComponent where
  componentSku : String
  quantityPerFinished : Int
  issueToleranceBps : Int
  consumptionToleranceBps : Int
  lossToleranceBps : Int

def prepareComponent (command : SupplyContext) (seen : List String) (input : ComponentInput) :
    SupplyTx writes PreparedComponent := do
  let given ← text input.componentSku 191
  let componentSku := command.toUpperCase given
  refuseIf (seen.contains componentSku = true) (badRequest "BOM component SKU cannot repeat")
  let found ← query fun db => (db skus).first? fun _ row => row.code == componentSku
  refuseIf (found.any (fun row => row.2.itemType == some "auxiliary" ||
      row.2.itemType == some "component") = false)
    (badRequest ("Invalid BOM component: " ++ componentSku))
  let quantityPerFinished ← positiveInteger input.quantityPerFinished
  let issueToleranceBps ← bps input.issueTolerance
  let consumptionToleranceBps ← bps input.consumptionTolerance
  let lossToleranceBps ← bps input.lossTolerance
  return { componentSku, quantityPerFinished, issueToleranceBps, consumptionToleranceBps
           lossToleranceBps }

/-- The loop over the components; `seen` holds the skus of those before. -/
def prepareComponents (command : SupplyContext) (seen : List String) :
    List ComponentInput → SupplyTx writes (List PreparedComponent)
  | [] => return []
  | component :: rest => do
      let prepared ← prepareComponent command seen component
      let others ← prepareComponents command (seen ++ [prepared.componentSku]) rest
      return prepared :: others

/-- The last day of an open-ended version. -/
def endOfTime : String := "9999-12-31"

/-- An active version, pending or approved, that is in force on a common day. -/
def conflicts (effectiveFrom : String) (effectiveTo : Option String) (bom : ProductBom) : Bool :=
  bom.active && (bom.approvalStatus == .pending || bom.approvalStatus == .approved) &&
    decide (effectiveFrom ≤ bom.effectiveTo.getD endOfTime) &&
    decide (bom.effectiveFrom ≤ effectiveTo.getD endOfTime)

def insertComponent (bomId : Nat) (component : PreparedComponent) :
    SupplyTx [bomComponents] Unit := do
  let _ ← insertUnique bomComponents
    (fun row => row.bomId == bomId && row.componentSku == component.componentSku)
    { bomId, componentSku := component.componentSku
      quantityPerFinished := component.quantityPerFinished
      issueToleranceBps := component.issueToleranceBps
      consumptionToleranceBps := component.consumptionToleranceBps
      lossToleranceBps := component.lossToleranceBps }
    (.duplicateKey bomComponents)
  return ()

def lastDay (value : Option String) : SupplyTx writes (Option String) :=
  match value with
  | none => return none
  | some given =>
      if given = "" then return none
      else do
        let last ← date given
        return some last

/-- The reason must be given when an overlap is allowed. -/
def overlapReasonOf (overlapAllowed : Bool) (reason : Option String) : SupplyTx writes String :=
  if overlapAllowed then text (reason.getD "") 1000 else return ""

def createBom (command : SupplyContext) (body : CreateBom) :
    SupplyTx [productBoms, bomComponents, approvalRequests, procurementVersions] JsonValue := do
  refuseIf (isInternal command.access = false) (forbidden "Forbidden")
  let given ← text body.finishedSku 191
  let finishedSku := command.toUpperCase given
  let version ← text body.version 191
  let effectiveFrom ← date body.effectiveFrom
  let effectiveTo ← lastDay body.effectiveTo
  refuseIf (effectiveTo.any (fun last => decide (last < effectiveFrom)) = true)
    (badRequest "BOM end date cannot precede start date")
  let overlapReason ← overlapReasonOf body.overlapAllowed body.overlapReason
  refuseIf (body.overlapAllowed = true ∧ effectiveTo = none)
    (badRequest "Overlapping BOM requires an end date")
  refuseIf (body.components = [] ∨ 500 < body.components.length)
    (badRequest "BOM components required")
  let finished ← query fun db => (db skus).first? fun _ row => row.code == finishedSku
  refuseIf (finished.any (fun row => row.2.itemType == some "finished") = false)
    (badRequest "Finished SKU not found")
  let existing ← query fun db =>
    ((db productBoms).select fun _ row => row.finishedSku == finishedSku).insertionSort
      fun a b => a.2.effectiveFrom ≤ b.2.effectiveFrom
  refuseIf (existing.any (fun row => row.2.version == version) = true)
    (conflict "BOM version already exists")
  let conflicting := existing.filter fun row => conflicts effectiveFrom effectiveTo row.2
  refuseIf (body.overlapAllowed = false ∧
      conflicting.any (fun row => decide (effectiveFrom ≤ row.2.effectiveFrom)) = true)
    (conflict "New BOM effective date conflicts with an existing version")
  let retireBomIds := if body.overlapAllowed then [] else
    (conflicting.filter fun row => row.2.approvalStatus == .approved).map (·.1)
  let components ← prepareComponents command [] body.components
  let bomId ← insertUnique productBoms
    (fun row => row.finishedSku == finishedSku && row.version == version)
    { finishedSku, version, active := true, approvalStatus := .pending, effectiveFrom, effectiveTo
      overlapAllowed := body.overlapAllowed }
    (.duplicateKey productBoms)
  (forEach (insertComponent bomId) components).widen
  let retired := JsonValue.array (retireBomIds.map fun id => .number id)
  let approvalId ← createApproval command "bom_version" "bom" bomId
    (withMembers body.raw [("retireBomIds", retired),
      ("retirementDate", (previousDay effectiveFrom).elim .null .text)])
  approvalNotification command "bom_version" approvalId
  return .object [("bom", .object [("id", .number bomId), ("finishedSku", .text finishedSku),
    ("version", .text version), ("effectiveFrom", .text effectiveFrom),
    ("effectiveTo", effectiveTo.elim .null .text),
    ("overlapAllowed", .boolean body.overlapAllowed), ("overlapReason", .text overlapReason),
    ("approvalStatus", .text "pending"), ("active", .boolean true)]),
    ("approvalRequired", .boolean true), ("retireBomIds", retired)]

end SupplyChain.MasterData
