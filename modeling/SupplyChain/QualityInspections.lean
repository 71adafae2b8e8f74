import SupplyChain.Stock

/-!
The submission of a quality inspection, of a whole stock batch that is pending
inspection or of an execution order.
-/

namespace SupplyChain.QualityInspections

open Relational Transaction TableName

structure SubmitQualityInspection where
  executionOrderId : Option Nat := none
  batchId : Option Nat := none
  stage : InspectionStage
  inspectionMethod : InspectionMethod
  batchQuantity : Int
  inspectedQuantity : Int
  passedQuantity : Int
  failedQuantity : Int
  inspectorType : InspectorType
  defectReason : Option String := none
  requestedResult : Option InspectionResult := none
  sourceInspectionId : Option Nat := none

structure InspectionTarget where
  sku : String
  itemType : Option String
  supplierId : Option Nat

variable {writes : List TableName}

/-- The order item behind a batch, when it came from a receipt. -/
def receiptSource (db : Database) (batchId : Nat) : Option OrderItem :=
  ((db purchaseReceipts).first? fun _ receipt => receipt.batchId == batchId).bind
    fun r => (db orderItems).find? r.2.orderItemId

/-- The order item behind a batch, when it came from a production report. -/
def productionSource (db : Database) (batchId : Nat) : Option OrderItem :=
  ((db productionReports).first? fun _ report => report.batchId == some batchId).bind
    fun r => ((db executionOrders).find? r.2.executionOrderId).bind
      fun order => (db orderItems).find? order.orderItemId

/-- The item type falls back to the one of the sku. -/
def targetOf (db : Database) (sku : String) (source : Option OrderItem) : InspectionTarget where
  sku := sku
  itemType := (source.bind fun item => item.itemType).or
    (((db skus).first? fun _ row => row.code == sku).bind fun r => r.2.itemType)
  supplierId := source.bind fun item => item.supplierId

def batchTarget [Writes resourceVersions writes] (command : CommandContext)
    (body : SubmitQualityInspection) (batchId : Nat) : Tx writes InspectionTarget := do
  let found ← select inventoryBatches batchId
  let batch ← orThrow found (notFound "Inventory batch not found")
  lockWarehouseFreeze batch.warehouseId
  let _ ← requireWarehouseScope command.access batch.warehouseId
  let frozen ← freezeExists batch.warehouseId batch.sku
  refuseIf (frozen = true) (conflict "Inventory is frozen by an active stocktake")
  let pending := batch.pendingInspectionQuantity
  refuseIf (pending ≤ 0) (conflict "Inventory batch is not pending inspection")
  refuseIf (body.batchQuantity ≠ pending ∨ body.inspectedQuantity ≠ pending)
    (badRequest "Whole pending-inspection batch must be inspected")
  refuseIf (body.inspectionMethod ≠ .full)
    (badRequest "Whole-batch inspection must use full inspection")
  refuseIf (¬ ((body.passedQuantity = pending ∧ body.failedQuantity = 0) ∨
      (body.passedQuantity = 0 ∧ body.failedQuantity = pending)))
    (badRequest "Whole batch must be entirely passed or entirely failed")
  let receiptCount ← query fun db =>
    ((db purchaseReceipts).select fun _ receipt => receipt.batchId == batchId).length
  let productionCount ← query fun db =>
    ((db productionReports).select fun _ report => report.batchId == some batchId).length
  if receiptCount = 1 ∧ productionCount = 0 then do
    refuseIf (body.stage ≠ .incoming) (conflict "Receipt batch must be inspected as incoming")
    query fun db => targetOf db batch.sku (receiptSource db batchId)
  else if receiptCount = 0 ∧ productionCount = 1 then do
    refuseIf (body.stage ≠ .finishedGoods)
      (conflict "Production completion batch must be inspected as finished goods")
    query fun db => targetOf db batch.sku (productionSource db batchId)
  else
    fail (conflict "Inventory batch has ambiguous or missing inspection provenance")

def orderTarget (body : SubmitQualityInspection) : Tx writes InspectionTarget := do
  refuseIf (body.stage ≠ .finishedGoods)
    (conflict "Execution order inspection must use finished goods stage")
  let found ← query fun db => (body.executionOrderId.bind (db executionOrders).find?).bind
    fun order => (db orderItems).find? order.orderItemId
  let item ← orThrow found (notFound "Execution order not found")
  return { sku := item.sku, itemType := item.itemType, supplierId := item.supplierId }

def inspectionTarget [Writes resourceVersions writes] (command : CommandContext)
    (body : SubmitQualityInspection) (batchId : Option Nat) : Tx writes InspectionTarget :=
  match batchId with
  | some id => batchTarget command body id
  | none => orderTarget body

/-- The rules that apply to a target: those of its sku before those of its
item type, and the newest of each first. -/
def ruleBefore (a b : Nat × QualityRule) : Prop :=
  let rank := fun (r : Nat × QualityRule) => if r.2.scope = .sku then 0 else 1
  (((compare (rank a) (rank b)).then (compare b.2.createdAt a.2.createdAt)).then
    (compare b.1 a.1)).isLE = true

instance : DecidableRel ruleBefore := fun _ _ => inferInstanceAs (Decidable (_ = true))

def qualityRule (db : Database) (stage : InspectionStage) (target : InspectionTarget) :
    Option (Nat × QualityRule) :=
  (((db qualityRules).select fun _ rule =>
    rule.active && rule.stage == stage &&
      ((rule.scope == .sku && rule.sku == target.sku) ||
        (rule.scope == .itemType && some rule.itemType == target.itemType))).insertionSort
    ruleBefore).head?

/-- Moves an inspected quantity out of pending inspection. -/
def settleInspection (batchId : Nat) (sku : String) (warehouseId inspectionId : Nat)
    (quantity : Int) (passed : Bool) : Tx [inventoryBatches, inventoryMovements] Unit := do
  updateRow inventoryBatches batchId
    (fun row => decide (quantity ≤ row.pendingInspectionQuantity))
    (fun row => { row with
      pendingInspectionQuantity := row.pendingInspectionQuantity - quantity
      availableQuantity := row.availableQuantity + (if passed then quantity else 0)
      quarantineQuantity := row.quarantineQuantity + (if passed then 0 else quantity) })
    (versionConflict "Inventory batch changed concurrently")
  insertMovement warehouseId sku (if passed then "inspection_pass" else "inspection_fail")
    (if passed then quantity else -quantity)
    ("quality_inspection:" ++ toString inspectionId ++ (if passed then ":pass" else ":fail"))

/-- The stock effect of an inspection that needs no approval. -/
def moveInspected (inspectionId : Nat) (batchId : Option Nat) (finalResult : InspectionResult)
    (quantity : Int) : Tx [inventoryBatches, inventoryMovements] Unit :=
  match batchId with
  | none => return ()
  | some id =>
      if finalResult = .pendingApproval then return ()
      else do
        let found ← select inventoryBatches id
        let batch ← orThrow found (versionConflict "Inventory batch changed concurrently")
        settleInspection id batch.sku batch.warehouseId inspectionId quantity
          (decide (finalResult = .passed))

def submitQualityInspection (command : CommandContext) (body : SubmitQualityInspection) :
    Tx [resourceVersions, qualityInspections, inventoryBatches, inventoryMovements] JsonValue := do
  requireRole command.access [.admin, .supplierQc, .companyQc]
  let executionOrderId ← optionalInteger body.executionOrderId "executionOrderId"
  let batchId ← optionalInteger body.batchId "batchId"
  refuseIf (executionOrderId = none ↔ batchId = none)
    (badRequest "Exactly one of executionOrderId or batchId is required")
  let batchQuantity ← integer body.batchQuantity "batchQuantity"
  let inspectedQuantity ← integer body.inspectedQuantity "inspectedQuantity"
  let passedQuantity ← integer body.passedQuantity "passedQuantity" 0
  let failedQuantity ← integer body.failedQuantity "failedQuantity" 0
  refuseIf (passedQuantity + failedQuantity ≠ inspectedQuantity ∨
      batchQuantity < inspectedQuantity)
    (badRequest "Inspection quantities do not balance")
  let defectReason ← optionalString body.defectReason
  refuseIf (0 < failedQuantity ∧ defectReason = "") (badRequest "Defect reason is required")
  refuseIf (body.inspectorType = .companyQc ∧ hasRole command.access [.admin, .companyQc] = false)
    (forbidden "Company QC role required")
  refuseIf (body.inspectorType = .supplierQc ∧ hasRole command.access [.supplierQc] = false)
    (forbidden "Supplier QC role required")
  let target ← inspectionTarget command body batchId
  refuseIf (body.inspectorType = .supplierQc ∧
      (command.access.supplierId = none ∨ target.supplierId ≠ command.access.supplierId))
    (forbidden "Forbidden supplier binding")
  let ruleRows ← query fun db => qualityRule db body.stage target
  let rule ← orThrow ruleRows (conflict "No active quality rule is configured")
  let passRateBps := roundDiv (passedQuantity * 10000) inspectedQuantity
  let systemResult : InspectionResult :=
    if rule.2.minimumPassRateBps ≤ passRateBps then .passed else .failed
  refuseIf (batchId ≠ none ∧ body.requestedResult ≠ none)
    (badRequest "requestedResult is not supported for whole-batch inspection")
  let requiresApproval := body.requestedResult ≠ none ∧ body.requestedResult ≠ some systemResult
  let fullInspectionRequired :=
    decide (body.inspectionMethod = .sampling ∧ systemResult = .failed)
  let finalResult := if requiresApproval then .pendingApproval else systemResult
  let _ ← optionalInteger body.sourceInspectionId "sourceInspectionId"
  let id ← insertInto qualityInspections
    { executionOrderId, batchId, stage := body.stage, inspectionMethod := body.inspectionMethod
      batchQuantity, inspectedQuantity, passedQuantity, failedQuantity, passRateBps
      qualityRuleId := rule.1, systemResult, requestedResult := body.requestedResult, finalResult
      fullInspectionRequired
      releasedQuantity := if finalResult = .passed ∧ batchId ≠ none then inspectedQuantity else 0
      inspectorType := body.inspectorType }
  let _ ← lockVersion "quality_inspection" id
  (moveInspected id batchId finalResult inspectedQuantity).widen
  domainEvent (if systemResult = .failed then .dispositionRequired else .inspectionCompleted)
    .qualityInspection id
  let key := fun (value : Option Nat) =>
    value.elim JsonValue.null fun number => JsonValue.number number
  return .object [("inspection", .object [("id", .number id),
    ("executionOrderId", key executionOrderId), ("batchId", key batchId),
    ("stage", .text body.stage.name), ("inspectionMethod", .text body.inspectionMethod.name),
    ("passRateBps", .number passRateBps), ("qualityRuleId", .number rule.1),
    ("systemResult", .text systemResult.name), ("finalResult", .text finalResult.name),
    ("requiresApproval", .boolean (decide requiresApproval)),
    ("fullInspectionRequired", .boolean fullInspectionRequired), ("version", .number 1)])]

end SupplyChain.QualityInspections
