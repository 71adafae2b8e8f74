import SupplyChain.Shipments

/-!
The return commands: the receipt of returned goods into quarantine, their
inspection, the proposed dispositions and the review that restocks them.
-/

namespace SupplyChain.Returns

open Relational Transaction TableName

structure ReceiveReturn where
  returnNo : String
  sourceDeliveryBatchId : Nat
  warehouseId : Nat
  quantity : Int

structure InspectReturn where
  productReturnId : Nat
  inspectedQuantity : Int
  passedQuantity : Int
  failedQuantity : Int
  defectReason : Option String := none
  evidenceFileId : Nat

structure Disposition where
  type : DispositionType
  quantity : Int

structure ProposeReturn where
  productReturnId : Nat
  dispositions : List Disposition

structure ReviewReturn where
  productReturnId : Nat
  decision : Decision

inductive ReturnCommand
  | receive (body : ReceiveReturn)
  | inspect (body : InspectReturn)
  | propose (body : ProposeReturn)
  | review (body : ReviewReturn)

def receiveReturn (command : CommandContext) (body : ReceiveReturn) :
    Tx [resourceVersions, inventoryBatches, productReturns, inventoryMovements] JsonValue := do
  requireRole command.access [.admin, .supplyChain]
  let returnNo ← string body.returnNo "returnNo" 191
  let sourceDeliveryBatchId ← identifier body.sourceDeliveryBatchId "sourceDeliveryBatchId"
  let warehouseId ← identifier body.warehouseId "warehouseId"
  let quantity ← integer body.quantity "quantity"
  let _ ← requireWarehouseScope command.access warehouseId
  let source ← Shipments.requireShipmentRow sourceDeliveryBatchId
  refuseIf (source.batch.status ≠ .received ∧ source.batch.status ≠ .receivedWithException)
    (conflict "Only received shipments can be returned")
  let validReceived ← query fun db => (db shipmentReceipts).weigh fun _ row =>
    if row.deliveryBatchId = sourceDeliveryBatchId then row.receivedQuantity else 0
  refuseIf (validReceived ≤ 0) (conflict "Shipment has no valid receipt quantity")
  let prior ← query fun db => (db productReturns).weigh fun _ row =>
    if row.sourceDeliveryBatchId = sourceDeliveryBatchId then row.quantity else 0
  refuseIf (validReceived < prior + quantity)
    (conflict "Cumulative return quantity exceeds valid receipts")
  let sku := source.item.sku
  let frozen ← freezeExists warehouseId sku
  refuseIf (frozen = true) (conflict "Return warehouse is frozen by a stocktake")
  let batchId ← insertBatch
    { batchNo := "RETURN-" ++ returnNo, warehouseId, sku, inboundDate := command.today
      quarantineQuantity := quantity }
  let id ← insertUnique productReturns (fun row => row.returnNo == returnNo)
    { returnNo, sourceDeliveryBatchId, warehouseId, sku, quantity, batchId, status := .quarantined }
    (.duplicateKey productReturns)
  let _ ← lockVersion "product_return" id
  insertMovement warehouseId sku "return_quarantined" quantity
    ("return:" ++ toString id ++ ":quarantined")
  domainEvent .returnReceived .productReturn id
  return .object [("return", .object [("id", .number id), ("returnNo", .text returnNo),
    ("sourceDeliveryBatchId", .number sourceDeliveryBatchId), ("warehouseId", .number warehouseId),
    ("sku", .text sku), ("quantity", .number quantity), ("batchId", .number batchId),
    ("status", .text "quarantined"), ("version", .number 1)])]

/-- A return joined with the shipment it came from. -/
structure ReturnRow where
  record : ProductReturn
  factoryId : Nat
  supplierId : Option Nat

def returnRow (db : Database) (id : Nat) : Option ReturnRow :=
  ((db productReturns).find? id).bind fun record =>
    (Shipments.shipmentRow db record.sourceDeliveryBatchId).map fun source =>
      { record, factoryId := source.order.factoryId, supplierId := source.item.supplierId }

def requireReturnRow {writes : List TableName} (id : Nat) : Tx writes ReturnRow := do
  let found ← query fun db => returnRow db id
  orThrow found (notFound "Return not found")

def inspectReturn (command : CommandContext) (productReturnId : Nat) (row : ReturnRow)
    (version : Nat) (body : InspectReturn) :
    Tx [resourceVersions, productReturns, productReturnInspections] JsonValue := do
  requireRole command.access [.admin, .companyQc, .supplierQc]
  refuseIf (hasRole command.access [.supplierQc] = true ∧
      (command.access.supplierId = none ∨ command.access.supplierId ≠ row.supplierId))
    (forbidden "Forbidden supplier binding")
  refuseIf (row.record.status ≠ .quarantined) (conflict "Return is not awaiting inspection")
  let inspected ← integer body.inspectedQuantity "inspectedQuantity"
  let passed ← integer body.passedQuantity "passedQuantity" 0
  let failed ← integer body.failedQuantity "failedQuantity" 0
  refuseIf (inspected ≠ row.record.quantity ∨ passed + failed ≠ inspected)
    (badRequest "Return inspection quantities do not balance")
  let reason ← optionalString body.defectReason
  refuseIf (0 < failed ∧ reason = "") (badRequest "Defect reason is required")
  let evidenceFileId ← identifier body.evidenceFileId "evidenceFileId"
  let _ ← requireCleanFile command.access evidenceFileId "quality_evidence" "product_return"
    productReturnId
  let inspectionId ← insertInto productReturnInspections
    { productReturnId, inspectedQuantity := inspected, passedQuantity := passed
      failedQuantity := failed }
  updateWhere productReturns (fun key other => key == productReturnId && other.status == .quarantined)
    fun other => { other with status := .pendingSupplyChain }
  let nextVersion ← bumpVersion "product_return" productReturnId version
  domainEvent .returnInspected .productReturn productReturnId
  return .object [("inspection", .object [("id", .number inspectionId),
    ("productReturnId", .number productReturnId), ("inspectedQuantity", .number inspected),
    ("passedQuantity", .number passed), ("failedQuantity", .number failed)]),
    ("status", .text "pending_supply_chain"), ("version", .number nextVersion)]

/-- The quantity of the first restock among the dispositions. -/
def restockOf (dispositions : List Disposition) : Int :=
  (dispositions.find? fun item => item.type == .restock).elim 0 fun item => item.quantity

def checkDisposition {writes : List TableName} (item : Disposition) : Tx writes Disposition := do
  let quantity ← integer item.quantity "quantity" 0
  return { type := item.type, quantity }

def insertDisposition (command : CommandContext) (productReturnId : Nat) (item : Disposition) :
    Tx [productReturnDispositions] Unit := do
  let _ ← insertUnique productReturnDispositions
    (fun row => row.productReturnId == productReturnId && row.type == item.type)
    { productReturnId, type := item.type, quantity := item.quantity
      proposedBy := command.access.userId, status := .pending }
    (.duplicateKey productReturnDispositions)
  return ()

def proposeReturn (command : CommandContext) (productReturnId : Nat) (row : ReturnRow)
    (version : Nat) (body : ProposeReturn) :
    Tx [resourceVersions, productReturnDispositions] JsonValue := do
  requireRole command.access [.admin, .factory]
  refuseIf (outsideFactory command.access (some row.factoryId))
    (forbidden "Forbidden factory binding")
  refuseIf (row.record.status ≠ .pendingSupplyChain) (conflict "Return is not awaiting disposition")
  let dispositions ← collect checkDisposition body.dispositions
  let inspections ← query fun db => (db productReturnInspections).select fun _ inspection =>
    inspection.productReturnId == productReturnId
  refuseIf (inspections = []) (conflict "Return inspection is unavailable")
  let passed : Int := (inspections.map fun r => r.2.passedQuantity).sum
  let failed : Int := (inspections.map fun r => r.2.failedQuantity).sum
  let failedDisposition : Int :=
    ((dispositions.filter fun item => item.type != .restock).map (·.quantity)).sum
  refuseIf (passed < restockOf dispositions ∨ failed < failedDisposition)
    (conflict "Disposition exceeds authoritative inspection buckets")
  refuseIf (¬ (dispositions.map (·.type)).Nodup ∨
      (dispositions.map (·.quantity)).sum ≠ row.record.quantity)
    (badRequest "Disposition quantities do not balance")
  let existing ← query fun db => (db productReturnDispositions).any fun _ disposition =>
    disposition.productReturnId == productReturnId
  refuseIf (existing = true) (conflict "Disposition was already proposed")
  (forEach (insertDisposition command productReturnId) dispositions).widen
  let nextVersion ← bumpVersion "product_return" productReturnId version
  domainEvent .returnDispositionProposed .productReturn productReturnId
  return .object [("success", .boolean true), ("productReturnId", .number productReturnId),
    ("dispositions", .array (dispositions.map fun item =>
      .object [("type", .text item.type.name), ("quantity", .number item.quantity)])),
    ("version", .number nextVersion)]

/-- The approved review moves the whole quantity out of quarantine: the restock
to the available bucket and the rest to the defective one. -/
def restockReturn (productReturnId : Nat) (record : ProductReturn) (restock : Int) :
    Tx [resourceVersions, inventoryBatches, inventoryMovements] Unit := do
  lockWarehouseFreeze record.warehouseId
  let frozen ← freezeExists record.warehouseId record.sku
  refuseIf (frozen = true) (conflict "Return warehouse is frozen by a stocktake")
  updateRow inventoryBatches record.batchId
    (fun row => decide (record.quantity ≤ row.quarantineQuantity))
    (fun row => { row with
      quarantineQuantity := row.quarantineQuantity - record.quantity
      availableQuantity := row.availableQuantity + restock
      defectiveQuantity := row.defectiveQuantity + (record.quantity - restock) })
    (versionConflict "Return inventory changed concurrently")
  whenever (0 < restock)
    (insertMovement record.warehouseId record.sku "return_restock" restock
      ("return:" ++ toString productReturnId ++ ":restock"))

def reviewReturn (command : CommandContext) (productReturnId : Nat) (row : ReturnRow)
    (version : Nat) (body : ReviewReturn) :
    Tx [resourceVersions, productReturns, productReturnDispositions, inventoryBatches,
      inventoryMovements] JsonValue := do
  requireRole command.access [.admin, .supplyChain]
  refuseIf (row.record.status ≠ .pendingSupplyChain) (conflict "Return is not awaiting review")
  let dispositions ← query fun db => (db productReturnDispositions).select fun _ disposition =>
    disposition.productReturnId == productReturnId
  refuseIf (dispositions = []) (conflict "No disposition was proposed")
  refuseIf (dispositions.any (fun r => r.2.proposedBy == command.access.userId) = true)
    (conflict "Proposer cannot review their own disposition")
  updateWhere productReturnDispositions
    (fun _ disposition =>
      disposition.productReturnId == productReturnId && disposition.status == .pending)
    fun disposition => { disposition with status := body.decision.status }
  let restock := restockOf (dispositions.map fun r => { type := r.2.type, quantity := r.2.quantity })
  whenever (body.decision = .approved) (restockReturn productReturnId row.record restock).widen
  let next : ReturnStatus := if body.decision = .approved then .restocked else .inspection
  updateRow productReturns productReturnId (fun other => other.status == .pendingSupplyChain)
    (fun other => { other with status := next })
    (versionConflict "Return changed concurrently")
  let nextVersion ← bumpVersion "product_return" productReturnId version
  domainEvent
    (if body.decision = .approved then .returnDispositionApproved else .returnDispositionRejected)
    .productReturn productReturnId
  return .object [("success", .boolean true), ("productReturnId", .number productReturnId),
    ("status", .text (if body.decision = .approved then "restocked" else "inspection")),
    ("version", .number nextVersion)]

def returnCommand (command : CommandContext) (body : ReturnCommand) :
    Tx [resourceVersions, inventoryBatches, productReturns, inventoryMovements,
      productReturnInspections, productReturnDispositions] JsonValue :=
  match body with
  | .receive receipt => (receiveReturn command receipt).widen
  | .inspect inspection => do
      let productReturnId ← identifier inspection.productReturnId "productReturnId"
      let row ← requireReturnRow productReturnId
      let version ← lockVersion "product_return" productReturnId
      (inspectReturn command productReturnId row version inspection).widen
  | .propose proposal => do
      let productReturnId ← identifier proposal.productReturnId "productReturnId"
      let row ← requireReturnRow productReturnId
      let version ← lockVersion "product_return" productReturnId
      (proposeReturn command productReturnId row version proposal).widen
  | .review review => do
      let productReturnId ← identifier review.productReturnId "productReturnId"
      let row ← requireReturnRow productReturnId
      let version ← lockVersion "product_return" productReturnId
      (reviewReturn command productReturnId row version review).widen

end SupplyChain.Returns
