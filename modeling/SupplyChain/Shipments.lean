import SupplyChain.Stock

/-!
The shipment commands: planning a delivery batch, its confirmation by the
factory, the dispatch with its deduction from the factory's warehouses, the
receipt, and the resolution of a logistics exception.
-/

namespace SupplyChain.Shipments

open Relational Transaction TableName

variable {writes : List TableName}

/-- A delivery batch joined with its execution order and order item. -/
structure ShipmentRow where
  batch : DeliveryBatch
  order : ExecutionOrder
  item : OrderItem

def shipmentRow (db : Database) (id : Nat) : Option ShipmentRow :=
  ((db deliveryBatches).find? id).bind fun batch =>
    ((db executionOrders).find? batch.executionOrderId).bind fun order =>
      ((db orderItems).find? order.orderItemId).map fun item => { batch, order, item }

def requireShipmentRow (id : Nat) : Tx writes ShipmentRow := do
  let found ← query fun db => shipmentRow db id
  orThrow found (notFound "Shipment not found")

/-- The first ten UTF-16 units; the dates this is used on are ASCII. -/
def localDay (value : String) : String := String.ofList (value.toList.take 10)

def requireFactoryBinding (access : AccessContext) (factoryId : Nat) : Tx writes Unit :=
  refuseIf (outsideFactory access (some factoryId)) (forbidden "Forbidden factory binding")

structure CreateShipment where
  executionOrderId : Nat
  batchNo : String
  quantity : Int
  plannedShipAt : String
  destination : String

structure ShipShipment where
  deliveryBatchId : Nat
  shippedAt : String
  carrier : String
  logisticsNo : String
  deviationReason : Option String := none
  evidenceFileId : Nat
  evidenceFileName : Option String := none

structure ReceiveShipment where
  deliveryBatchId : Nat
  receivedQuantity : Int
  damagedQuantity : Int
  receivedAt : String
  receiptEvidenceFileId : Nat
  exceptionReason : Option String := none

inductive ShipmentCommand
  | create (body : CreateShipment)
  | confirm (deliveryBatchId : Nat)
  | ship (body : ShipShipment)
  | receive (body : ReceiveShipment)
  | resolveException (exceptionId : Nat) (resolution : String)

/-- Whether a delivery batch still counts against its production order. -/
def DeliveryStatus.plannedAgainst : DeliveryStatus → Bool
  | .cancelled | .deviationRejected => false
  | _ => true

def createShipment (command : CommandContext) (body : CreateShipment) :
    Tx [resourceVersions, deliveryBatches] JsonValue := do
  requireRole command.access [.admin, .supplyChain]
  let executionOrderId ← identifier body.executionOrderId "executionOrderId"
  let batchNo ← string body.batchNo "batchNo" 191
  let quantity ← integer body.quantity "quantity"
  let plannedShipAt ← string body.plannedShipAt "plannedShipAt" 100
  let destination ← string body.destination "destination"
  let found ← select executionOrders executionOrderId
  let order ← orThrow found (notFound "Execution order not found")
  let planned ← query fun db => (db deliveryBatches).weigh fun _ row =>
    if row.executionOrderId = executionOrderId ∧ DeliveryStatus.plannedAgainst row.status = true
    then row.quantity else 0
  let availableToPlan := max order.completedQuantity order.plannedQuantity
  refuseIf (availableToPlan < planned + quantity)
    (conflict "Shipment quantity exceeds the production quantity")
  let id ← insertUnique deliveryBatches
    (fun row => row.executionOrderId == executionOrderId && row.batchNo == batchNo)
    { executionOrderId, batchNo, quantity, plannedShipAt, shippedAt := none, carrier := ""
      logisticsNo := "", destination, requiresApproval := false, deviationReason := none
      status := .pendingFactoryConfirmation }
    (.duplicateKey deliveryBatches)
  let _ ← lockVersion "delivery_batch" id
  domainEvent .shipmentPlanned .deliveryBatch id
  return .object [("shipment", .object [("id", .number id),
    ("executionOrderId", .number executionOrderId), ("batchNo", .text batchNo),
    ("quantity", .number quantity), ("plannedShipAt", .text plannedShipAt),
    ("destination", .text destination), ("status", .text "pending_factory_confirmation"),
    ("version", .number 1)])]

def resolveException (command : CommandContext) (key : Nat) (resolutionText : String) :
    Tx [resourceVersions, logisticsExceptions] JsonValue := do
  requireRole command.access [.admin, .supplyChain]
  let exceptionId ← identifier key "exceptionId"
  let resolution ← string resolutionText "resolution"
  let found ← select logisticsExceptions exceptionId
  let exception ← orThrow found (notFound "Logistics exception not found")
  refuseIf (exception.type ≠ "logistics_exception") (notFound "Logistics exception not found")
  refuseIf (exception.status = .resolved) (conflict "Exception is already resolved")
  let version ← lockVersion "logistics_exception" exceptionId
  updateRow logisticsExceptions exceptionId (fun row => row.status != .resolved)
    (fun row => { row with
      status := .resolved, description := row.description ++ "\nResolution: " ++ resolution })
    (versionConflict "Exception changed concurrently")
  let nextVersion ← bumpVersion "logistics_exception" exceptionId version
  domainEvent .logisticsExceptionResolved .logisticsException exceptionId
  return .object [("exception", .object [("id", .number exceptionId),
    ("status", .text "resolved"), ("resolution", .text resolution),
    ("version", .number nextVersion)])]

def confirmShipment (command : CommandContext) (id : Nat) (current : ShipmentRow) (version : Nat) :
    Tx [resourceVersions, deliveryBatches] JsonValue := do
  requireRole command.access [.admin, .factory, .supplyChain]
  requireFactoryBinding command.access current.order.factoryId
  updateRow deliveryBatches id (fun row => row.status == .pendingFactoryConfirmation)
    (fun row => { row with status := .planned })
    (versionConflict "Shipment cannot be confirmed")
  let nextVersion ← bumpVersion "delivery_batch" id version
  domainEvent .shipmentConfirmed .deliveryBatch id
  return .object [("shipment", .object [("id", .number id), ("status", .text "planned"),
    ("version", .number nextVersion)])]

/-- The pending approval of the deviation, or a new one. -/
def deviationApproval (command : CommandContext) (id : Nat)
    (existing : Option (Nat × ApprovalRequest)) (payload : JsonValue) :
    Tx [approvalRequests] Nat :=
  match existing with
  | some (key, _) => return key
  | none =>
      insertApproval command ("AP-SHIP-" ++ command.randomUUID 0) .shipmentDeviation
        "delivery_batch" id payload

/-- A dispatch off the planned day asks for approval, once. -/
def requestDeviation (command : CommandContext) (id : Nat) (current : ShipmentRow)
    (version : Nat) (deviationReason : Option String) (shippedAt : String) :
    Tx [resourceVersions, deliveryBatches, approvalRequests] JsonValue := do
  let reason ← string (deviationReason.getD "") "deviationReason"
  let existing ← query fun db => (db approvalRequests).first? fun _ row =>
    row.workflowType == .shipmentDeviation && row.entityId == id && row.status == .pending
  let approvalId ← (deviationApproval command id existing
    (.object [("plannedShipAt", .text current.batch.plannedShipAt),
      ("shippedAt", .text shippedAt), ("reason", .text reason)])).widen
  updateWhere deliveryBatches (fun key row => key == id && row.status == .planned)
    fun row => { row with
      requiresApproval := true, deviationReason := some reason, status := .pendingSupplyChain }
  let nextVersion ← bumpVersion "delivery_batch" id version
  domainEvent .shipmentDeviationRequested .deliveryBatch id
  return .object [("approvalRequired", .boolean true), ("approvalId", .number approvalId),
    ("status", .text "pending_supply_chain"), ("version", .number nextVersion)]

/-- One deduction of a dispatch with its movement. -/
def dispatchBatch (id : Nat) (sku : String) (deduction : (Nat × Nat) × Int) :
    Tx [inventoryBatches, inventoryMovements] Unit := do
  deductBatch deduction.1.1 deduction.2
  insertMovement deduction.1.2 sku "shipment" (-deduction.2)
    ("shipment:" ++ toString id ++ ":batch:" ++ toString deduction.1.1)

def dispatch (id : Nat) (current : ShipmentRow) (shippedAt carrier logisticsNo : String) :
    Tx [resourceVersions, deliveryBatches, inventoryBatches, inventoryMovements] Unit := do
  let active ← query fun db => (db warehouses).select fun _ row =>
    row.factoryId == some current.order.factoryId && row.status == .active
  refuseIf (active = []) (conflict "Factory has no active warehouse")
  let warehouseIds := active.map (·.1)
  forEach (fun warehouseId => do
    lockWarehouseFreeze warehouseId
    let frozen ← freezeExists warehouseId current.item.sku
    refuseIf (frozen = true) (conflict "Shipment warehouse is frozen by a stocktake")) warehouseIds
  let batches ← query fun db => deductible db warehouseIds current.item.sku
  let plan := Greedy.plan current.batch.quantity
    (batches.map fun r => ((r.1, r.2.warehouseId), r.2.availableQuantity))
  refuseIf (plan.left ≠ 0) (conflict "Insufficient released inventory")
  updateRow deliveryBatches id (fun row => row.status.dispatchable)
    (fun row => { row with
      shippedAt := some shippedAt, carrier, logisticsNo, status := .shipped })
    (versionConflict "Shipment changed concurrently")
  (forEach (dispatchBatch id current.item.sku) plan.taken).widen

def shipShipment (command : CommandContext) (id : Nat) (current : ShipmentRow) (version : Nat)
    (body : ShipShipment) :
    Tx [resourceVersions, deliveryBatches, approvalRequests, inventoryBatches, inventoryMovements,
      shipmentEvidence] JsonValue := do
  requireRole command.access [.admin, .factory, .supplyChain]
  requireFactoryBinding command.access current.order.factoryId
  refuseIf (current.batch.status.dispatchable = false)
    (conflict "Shipment cannot be dispatched from its current state")
  let shippedAt ← string body.shippedAt "shippedAt" 100
  let carrier ← string body.carrier "carrier"
  let logisticsNo ← string body.logisticsNo "logisticsNo" 191
  let evidenceFileId ← identifier body.evidenceFileId "evidenceFileId"
  let file ← requireCleanFile command.access evidenceFileId "shipment_evidence" "delivery_batch" id
  if localDay current.batch.plannedShipAt ≠ localDay shippedAt ∧
      current.batch.status ≠ .approvedToShip then
    (requestDeviation command id current version body.deviationReason shippedAt).widen
  else do
    (dispatch id current shippedAt carrier logisticsNo).widen
    let fileName ← optionalString body.evidenceFileName 500
    insertRow shipmentEvidence
      { deliveryBatchId := id, fileKey := file.objectKey
        fileName := if fileName = "" then "shipment evidence" else fileName }
    let nextVersion ← bumpVersion "delivery_batch" id version
    domainEvent .shipmentDispatched .deliveryBatch id
    domainEvent .payableAccrued .deliveryBatch id
    return .object [("success", .boolean true), ("id", .number id), ("status", .text "shipped"),
      ("deductedQuantity", .number current.batch.quantity), ("version", .number nextVersion)]

def openLogisticsException (current : ShipmentRow) (receivedQuantity damagedQuantity : Int)
    (reason : String) : Tx [resourceVersions, logisticsExceptions] (Option Nat) := do
  let exceptionId ← insertInto logisticsExceptions
    { executionOrderId := some current.batch.executionOrderId, type := "logistics_exception"
      description := current.batch.batchNo ++ ": shipped " ++ toString current.batch.quantity ++
        ", received " ++ toString receivedQuantity ++ ", damaged " ++ toString damagedQuantity ++
        ". " ++ reason
      status := .pendingSupplyChain }
  let _ ← lockVersion "logistics_exception" exceptionId
  return some exceptionId

def receiveShipment (command : CommandContext) (id : Nat) (current : ShipmentRow) (version : Nat)
    (body : ReceiveShipment) :
    Tx [resourceVersions, deliveryBatches, shipmentReceipts, logisticsExceptions] JsonValue := do
  requireRole command.access [.admin, .receiver]
  refuseIf (hasRole command.access [.admin] = false)
    (forbidden "Receiver organization binding is unavailable")
  refuseIf (current.batch.status ≠ .shipped) (conflict "Only shipped batches can be received")
  let receivedQuantity ← integer body.receivedQuantity "receivedQuantity" 0
  let damagedQuantity ← integer body.damagedQuantity "damagedQuantity" 0
  let receivedAt ← string body.receivedAt "receivedAt" 100
  let receiptEvidenceFileId ← identifier body.receiptEvidenceFileId "receiptEvidenceFileId"
  let _ ← requireCleanFile command.access receiptEvidenceFileId "receipt_evidence"
    "delivery_batch" id
  refuseIf (current.batch.quantity < receivedQuantity ∨ receivedQuantity < damagedQuantity)
    (conflict "Receipt quantities exceed the shipment quantity")
  let hasException := decide (receivedQuantity < current.batch.quantity ∨ 0 < damagedQuantity)
  let reason ← optionalString body.exceptionReason
  refuseIf (hasException = true ∧ reason = "") (badRequest "Exception reason is required")
  let receiptId ← insertInto shipmentReceipts
    { deliveryBatchId := id, receivedQuantity, damagedQuantity, receivedAt }
  let exceptionId ← (if hasException then
      openLogisticsException current receivedQuantity damagedQuantity reason
    else return none).widen
  let next : DeliveryStatus := if hasException then .receivedWithException else .received
  updateRow deliveryBatches id (fun row => row.status == .shipped)
    (fun row => { row with status := next })
    (versionConflict "Shipment changed concurrently")
  let nextVersion ← bumpVersion "delivery_batch" id version
  domainEvent (if hasException then .logisticsExceptionOpened else .shipmentReceived)
    .deliveryBatch id
  return .object ([("receipt", .object [("id", .number receiptId), ("deliveryBatchId", .number id),
    ("receivedQuantity", .number receivedQuantity), ("damagedQuantity", .number damagedQuantity),
    ("receivedAt", .text receivedAt)]), ("logisticsExceptionCreated", .boolean hasException)] ++
    (exceptionId.elim [] fun (key : Nat) => [("exceptionId", JsonValue.number key)]) ++
    [("status", .text next.name), ("version", .number nextVersion)])

def shipmentCommand (command : CommandContext) (body : ShipmentCommand) :
    Tx [resourceVersions, deliveryBatches, approvalRequests, inventoryBatches, inventoryMovements,
      shipmentEvidence, shipmentReceipts, logisticsExceptions] JsonValue :=
  match body with
  | .create shipment => (createShipment command shipment).widen
  | .resolveException exceptionId resolution =>
      (resolveException command exceptionId resolution).widen
  | .confirm deliveryBatchId => do
      let id ← identifier deliveryBatchId "deliveryBatchId"
      let current ← requireShipmentRow id
      let version ← lockVersion "delivery_batch" id
      (confirmShipment command id current version).widen
  | .ship shipment => do
      let id ← identifier shipment.deliveryBatchId "deliveryBatchId"
      let current ← requireShipmentRow id
      let version ← lockVersion "delivery_batch" id
      (shipShipment command id current version shipment).widen
  | .receive receipt => do
      let id ← identifier receipt.deliveryBatchId "deliveryBatchId"
      let current ← requireShipmentRow id
      let version ← lockVersion "delivery_batch" id
      (receiveShipment command id current version receipt).widen

end SupplyChain.Shipments
