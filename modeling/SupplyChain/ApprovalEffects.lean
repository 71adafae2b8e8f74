import SupplyChain.Stock
import SupplyChain.Warehouses
import SupplyChain.ProductionOrders
import SupplyChain.Finance

/-!
The effects of the approval workflows of the operations side. Each runs in the
transaction of the decision, after the approval request was claimed.
-/

namespace SupplyChain.ApprovalEffects

open Relational Transaction TableName

/-- Whether the request revokes a role; it assigns one otherwise. -/
def revokes (payload : JsonValue) : Bool :=
  match payload.member "operation" with
  | some (.text "revoke") => true
  | _ => false

def userRoleChange (command : CommandContext) (approval : ApprovalRequest) (decision : Decision) :
    Tx [userRoles] JsonValue := do
  let payload ← parsedPayload approval.payload
  let expected : UserRoleStatus := if revokes payload then .active else .pending
  let next : UserRoleStatus :=
    if revokes payload = decide (decision = .approved) then .revoked else .active
  updateRow userRoles approval.entityId (fun row => row.status == expected)
    (fun row => { row with status := next, reviewedBy := some command.access.userId })
    (versionConflict "User role changed before approval effect")
  return .object [("userRoleId", .number approval.entityId),
    ("status", .text (if next = .active then "active" else "revoked")),
    ("operation", .text (if revokes payload then "revoke" else "assign"))]

def warehouseTransfer (approval : ApprovalRequest) (decision : Decision) :
    Tx [inventoryTransfers] JsonValue := do
  let next : TransferStatus := if decision = .approved then .approved else .rejected
  updateRow inventoryTransfers approval.entityId (fun row => row.status == .pendingSupplyChain)
    (fun row => { row with status := next })
    (versionConflict "Transfer changed before approval effect")
  return .object [("transferId", .number approval.entityId), ("status", .text decision.name)]

def shipmentDeviation (approval : ApprovalRequest) (decision : Decision) :
    Tx [deliveryBatches] JsonValue := do
  let next : DeliveryStatus := if decision = .approved then .approvedToShip else .deviationRejected
  updateRow deliveryBatches approval.entityId (fun row => row.status == .pendingSupplyChain)
    (fun row => { row with status := next })
    (versionConflict "Shipment changed before approval effect")
  return .object [("deliveryBatchId", .number approval.entityId), ("status", .text next.name)]

def warehouseMerge (approval : ApprovalRequest) (decision : Decision) : Tx [warehouses] JsonValue := do
  let payload ← parsedPayload approval.payload
  let source ← integerMember payload "sourceId"
  let target ← integerMember payload "targetId"
  let sourceId := source.toNat
  let targetId := target.toNat
  let reply := fun (status : String) => JsonValue.object [("sourceId", .number source),
    ("targetId", .number target), ("status", .text status)]
  if decision = .rejected then return reply "rejected"
  else do
    let active ← query fun db => (db warehouses).select fun id row =>
      (id == sourceId || id == targetId) && row.status == .active
    refuseIf (active.length ≠ 2) (versionConflict "Warehouse state changed before merge")
    let blocked ← query fun db => Warehouses.hasBlockers db sourceId
    refuseIf (blocked = true) (conflict "Warehouse has blockers and cannot be merged")
    updateWhere warehouses (fun id row => id == sourceId && row.status == .active)
      fun row => { row with status := .merged targetId }
    return reply ("merged:" ++ toString targetId)

/-! ## Stocktake variance -/

/-- A pending adjustment joined with its count. -/
structure AdjustmentRow where
  id : Nat
  adjustment : StocktakeAdjustment
  count : StocktakeCount

def pendingAdjustments (db : Database) (stocktakeId : Nat) : List AdjustmentRow :=
  ((db stocktakeAdjustments).select fun _ adjustment =>
    adjustment.stocktakeId == stocktakeId && adjustment.decision == .pending).filterMap fun r =>
    ((db stocktakeCounts).find? r.2.stocktakeCountId).map fun count =>
      { id := r.1, adjustment := r.2, count }

/-- Sets the adjusted bucket to the counted quantity, provided that it still
holds the quantity of the snapshot. -/
def applyAdjustment (task : Stocktake) (stocktakeId : Nat) (row : AdjustmentRow) :
    Tx [inventoryBatches, inventoryMovements] Unit := do
  let bucket := row.adjustment.bucket
  let batchId ← orThrow row.count.batchId
    (conflict "Unbound stocktake targets require a separate approved creation workflow")
  updateRow inventoryBatches batchId
    (fun batch => batch.quantity bucket == row.adjustment.snapshotQuantity)
    (fun batch => batch.withQuantity bucket row.adjustment.countedQuantity)
    (versionConflict "Stocktake bucket changed after snapshot")
  insertMovement task.warehouseId row.count.sku ("stocktake_adjustment_" ++ bucket.name)
    row.adjustment.varianceQuantity
    ("stocktake:" ++ toString stocktakeId ++ ":adjustment:" ++ toString row.id ++ ":revision:" ++
      toString row.adjustment.revision)

def decideAdjustment (task : Stocktake) (stocktakeId : Nat) (decision : Decision)
    (row : AdjustmentRow) :
    Tx [inventoryBatches, inventoryMovements, stocktakeAdjustments] Unit := do
  whenever (decision = .approved) (applyAdjustment task stocktakeId row).widen
  updateWhere stocktakeAdjustments (fun key other => key == row.id && other.decision == .pending)
    fun other => { other with decision := decision.status }

def stocktakeVariance (approval : ApprovalRequest) (decision : Decision) :
    Tx [resourceVersions, stocktakes, stocktakeAdjustments, inventoryBatches, inventoryMovements]
      JsonValue := do
  let stocktakeId := approval.entityId
  let found ← select stocktakes stocktakeId
  let task ← orThrow found (versionConflict "Stocktake changed before approval effect")
  refuseIf (task.status ≠ .pendingApproval)
    (versionConflict "Stocktake changed before approval effect")
  lockWarehouseFreeze task.warehouseId
  let adjustments ← query fun db => pendingAdjustments db stocktakeId
  (forEach (decideAdjustment task stocktakeId decision) adjustments).widen
  let next : StocktakeStatus := if decision = .approved then .completed else .recount
  updateWhere stocktakes (fun key row => key == stocktakeId && row.status == .pendingApproval)
    fun row => { row with status := next }
  return .object [("stocktakeId", .number stocktakeId),
    ("adjustmentCount", .number adjustments.length), ("status", .text next.name)]

/-! ## Production variance -/

/-- A production report joined with its order and order item. -/
structure ReportRow where
  report : ProductionReport
  order : ExecutionOrder
  sku : String

def reportRow (db : Database) (reportId : Nat) : Option ReportRow :=
  ((db productionReports).find? reportId).bind fun report =>
    ((db executionOrders).find? report.executionOrderId).bind fun order =>
      ((db orderItems).find? order.orderItemId).map fun item => { report, order, sku := item.sku }

/-- The batches of a decided report: the accepted quantity pending inspection,
and what exceeds the plan of a refused overproduction as the factory's own. -/
def storeDecided (command : CommandContext) (reportId : Nat) (row : ReportRow)
    (accepted factoryOwned : Int) :
    Tx [resourceVersions, inventoryBatches, inventoryMovements] Unit := do
  let found ← query fun db => ProductionOrders.productionWarehouse db row.order.factoryId
  let warehouseId ← orThrow found (conflict "Factory warehouse unavailable")
  lockWarehouseFreeze warehouseId
  let frozen ← freezeExists warehouseId row.sku
  refuseIf (frozen = true) (conflict "Production warehouse is frozen by a stocktake")
  let batchNo := "PROD-" ++ row.order.executionNo ++ "-" ++ toString reportId
  whenever (0 < accepted) do
    let _ ← insertBatch
      { batchNo := batchNo ++ "-C", warehouseId, sku := row.sku
        productionDate := some command.today, inboundDate := command.today
        pendingInspectionQuantity := accepted }
    insertMovement warehouseId row.sku "inbound_pending_inspection" accepted
      ("production_report:" ++ toString reportId ++ ":company")
  whenever (0 < factoryOwned) do
    let _ ← insertBatch
      { batchNo := batchNo ++ "-F", warehouseId, sku := row.sku
        productionDate := some command.today, inboundDate := command.today
        availableQuantity := factoryOwned, ownership := .factory }
    return ()

def acceptedQuantity (row : ReportRow) (decision : Decision) : Int :=
  if decision = .approved then row.report.actualFinishedQuantity
  else min row.report.actualFinishedQuantity row.order.plannedQuantity

def factoryOwnedQuantity (row : ReportRow) (decision : Decision) (overproduction : Bool) : Int :=
  if decision = .rejected ∧ overproduction = true then
    max 0 (row.report.actualFinishedQuantity - row.order.plannedQuantity)
  else 0

def isOverproduction (payload : JsonValue) : Bool :=
  match payload.member "overproduction" with
  | some (.boolean true) => true
  | _ => false

def productionVariance (command : CommandContext) (approval : ApprovalRequest)
    (decision : Decision) :
    Tx [resourceVersions, productionReports, productionMaterialLines, executionOrders,
      inventoryBatches, inventoryMovements] JsonValue := do
  let reportId := approval.entityId
  let payload ← parsedPayload approval.payload
  let found ← query fun db => reportRow db reportId
  let row ← orThrow found (versionConflict "Production report changed before approval effect")
  refuseIf (row.order.status ≠ .variancePending)
    (versionConflict "Production report changed before approval effect")
  let overproduction := isOverproduction payload
  let accepted := acceptedQuantity row decision
  let factoryOwned := factoryOwnedQuantity row decision overproduction
  let orderId := row.report.executionOrderId
  updateWhere productionReports (fun key _ => key == reportId)
    fun report => { report with
      result := if decision = .approved then .approved
        else if overproduction then .rejectedFactoryOwned else .rejected
      companyInventoryQuantity := accepted, factoryOwnedQuantity := factoryOwned }
  updateWhere productionMaterialLines (fun _ line => line.executionOrderId == orderId)
    fun line => { line with
      deviationStatus := if decision = .approved then .approved else .rejected
      reservedQuantity := 0 }
  updateWhere executionOrders (fun key order => key == orderId && order.status == .variancePending)
    fun order => { order with
      completedQuantity := accepted
      status := if decision = .approved then .completed
        else if overproduction then .completedFactoryOwned else .varianceRejected }
  whenever (decision = .approved ∨ overproduction = true)
    (storeDecided command reportId row accepted factoryOwned).widen
  return .object [("reportId", .number reportId), ("executionOrderId", .number orderId),
    ("acceptedQuantity", .number accepted), ("factoryOwnedQuantity", .number factoryOwned)]

/-! ## Correction of a financial record -/

structure CorrectionProposal where
  paymentRequestId : Nat
  amountMinor : Int
  paidAt : String
  bankReference : String

def readProposal {writes : List TableName} (stored : JsonValue) : Tx writes CorrectionProposal := do
  let payload ← parsedPayload stored
  let paymentRequestId ← integerMember payload "proposedPaymentRequestId"
  let amountMinor ← integerMember payload "proposedAmountMinor"
  let paidAt ← textMember payload "proposedPaidAt" 100
  let bankReference ← textMember payload "proposedBankReference" 191
  return { paymentRequestId := paymentRequestId.toNat, amountMinor, paidAt, bankReference }

/-- The requests a correction of a refund may touch: those with an allocation
of the invoice of the exception. -/
def exceptionRequests (db : Database) (invoiceId : Nat) : List Nat :=
  ((db invoicePaymentAllocations).select fun _ row => row.invoiceId == invoiceId).map
    fun r => r.2.paymentRequestId

/-- What the correction of a refund holds on to until it projects the
exception; the correction of a payment has none. -/
structure RefundContext where
  exceptionId : Nat
  exception : InvoiceException
  requestIds : List Nat

def refundContext {writes : List TableName} (original : PaymentRecord)
    (proposal : CorrectionProposal) : Tx writes (Option RefundContext) :=
  if original.recordType ≠ .refund then return none
  else do
    let exceptionId ← orThrow original.invoiceExceptionId
      (conflict "Refund correction has no invoice exception")
    let found ← select invoiceExceptions exceptionId
    let exception ← orThrow found (notFound "Refund exception not found")
    let requestIds ← query fun db => exceptionRequests db exception.invoiceId
    refuseIf (requestIds.contains original.paymentRequestId = false ∨
        requestIds.contains proposal.paymentRequestId = false)
      (conflict "Refund correction request is not allocated to the exception invoice")
    return some { exceptionId, exception, requestIds }

def requestPayable (request : FactoryPaymentRequest) : Bool :=
  decide (request.totalAmountMinor ≤ request.invoiceCoveredAmountMinor) &&
    (match request.status with
      | .waitingInvoice | .invoiceExceptionFrozen | .failed | .cancelled => false
      | _ => true)

/-- The reversal of the original and the correction that replaces it. -/
def writeCorrection (command : CommandContext) (requestedBy originalId : Nat)
    (original : PaymentRecord) (proposal : CorrectionProposal) :
    Tx [businessKeys, paymentRecords] Unit := do
  let _ ← insertUnique businessKeys
    (fun row => row.keyType == .correction && row.keyValue == proposal.bankReference)
    { keyType := .correction, keyValue := proposal.bankReference, aggregateId := some originalId }
    (conflict "Correction bank reference already exists")
  let _ ← insertUnique paymentRecords (fun row => row.reversesPaymentRecordId == some originalId)
    { paymentRequestId := original.paymentRequestId, amountMinor := -original.amountMinor
      paidAt := command.clockText, bankReference := "reversal:" ++ original.bankReference
      recordType := .reversal, reversesPaymentRecordId := some originalId
      correctsPaymentRecordId := none, invoiceExceptionId := original.invoiceExceptionId
      recordedBy := requestedBy, reviewedBy := some command.access.userId
      reviewStatus := .approved, updatedAt := command.now }
    (.duplicateKey paymentRecords)
  let _ ← insertUnique paymentRecords (fun row => row.correctsPaymentRecordId == some originalId)
    { paymentRequestId := proposal.paymentRequestId, amountMinor := proposal.amountMinor
      paidAt := proposal.paidAt, bankReference := proposal.bankReference
      recordType := .correction, reversesPaymentRecordId := none
      correctsPaymentRecordId := some originalId, invoiceExceptionId := original.invoiceExceptionId
      recordedBy := requestedBy, reviewedBy := some command.access.userId
      reviewStatus := .approved, updatedAt := command.now }
    (.duplicateKey paymentRecords)
  return ()

/-- The net of a ledger without the rows of exceptions. -/
def correctionNet (rows : List PaymentRecord) : Except Failure Int :=
  if rows.any (fun row => decide (¬ isSafeInteger row.amountMinor)) then
    .error (conflict "Correction ledger is invalid")
  else
    .ok (rows.map fun row => if row.invoiceExceptionId = none then row.amountMinor else 0).sum

/-- Projects the net of a request onto its status. -/
def projectRequest (command : CommandContext) (original : PaymentRecord)
    (proposal : CorrectionProposal) (target : Nat × FactoryPaymentRequest) :
    Tx [factoryPaymentRequests] Unit := do
  let request := target.2
  let ledger ← query fun db => Finance.ledgerOf db target.1
  let net ← ofExcept (correctionNet ledger)
  refuseIf (net < 0 ∨ request.totalAmountMinor < net)
    (conflict "Correction would violate the payable ledger")
  let status : PaymentRequestStatus :=
    if net = request.totalAmountMinor then .paid else if 0 < net then .partiallyPaid else .generated
  let paidAt :=
    if status ≠ .paid then none
    else if original.recordType ≠ .refund ∧ target.1 = proposal.paymentRequestId then
      some proposal.paidAt
    else request.paidAt
  updateRow factoryPaymentRequests target.1 (fun row => row.status == request.status)
    (fun row => { row with status, paidAt, updatedAt := command.now })
    (versionConflict "Payment request changed concurrently")

def refundRowValid (context : RefundContext) (row : PaymentRecord) : Bool :=
  context.requestIds.contains row.paymentRequestId && decide (isSafeInteger row.amountMinor) &&
    (match row.recordType with
      | .payment => false
      | .reversal => decide (row.amountMinor < 0)
      | .refund | .correction => decide (0 < row.amountMinor))

def correctedSum (context : RefundContext) : List PaymentRecord → Int → Except Failure Int
  | [], corrected => .ok corrected
  | row :: rest, corrected =>
      if refundRowValid context row = false then
        .error (conflict "Refund correction ledger is invalid")
      else if ¬ isSafeInteger (corrected + row.amountMinor) then
        .error (conflict "Refund correction ledger exceeds safe bounds")
      else correctedSum context rest (corrected + row.amountMinor)

/-- Projects the refund ledger onto the exception. -/
def projectException (command : CommandContext) (context : RefundContext) :
    Tx [invoiceExceptions] Unit := do
  let exception := context.exception
  let refundLedger ← query fun db => ((db paymentRecords).select fun _ row =>
    row.invoiceExceptionId == some context.exceptionId).map (·.2)
  let corrected ← ofExcept (correctedSum context refundLedger 0)
  refuseIf (corrected < 0 ∨
      exception.affectedAmountMinor < corrected + exception.replacementCoveredAmountMinor)
    (conflict "Correction would violate remediation bounds")
  let resolved := decide
    (corrected + exception.replacementCoveredAmountMinor = exception.affectedAmountMinor)
  updateRow invoiceExceptions context.exceptionId
    (fun row => row.status == exception.status &&
      row.refundedAmountMinor == exception.refundedAmountMinor)
    (fun row => { row with
      refundedAmountMinor := corrected
      status := if resolved then .resolved else .awaitingRemediation
      resolvedAt := if resolved then some command.clock else none
      updatedAt := command.now })
    (versionConflict "Refund exception changed concurrently")

def projectRefund (command : CommandContext) (refund : Option RefundContext) :
    Tx [invoiceExceptions] Unit :=
  match refund with
  | some context => projectException command context
  | none => return ()

/-- The requests a correction projects, each once and in key order. -/
def correctionIds (first second : Nat) : List Nat :=
  if first = second then [first]
  else if first < second then [first, second] else [second, first]

def correctionRequests {writes : List TableName} (ids : List Nat) :
    Tx writes (List (Nat × FactoryPaymentRequest)) :=
  collect (fun id => do
    let found ← select factoryPaymentRequests id
    let request ← orThrow found (notFound "Correction payment request not found")
    return (id, request)) ids

def applyCorrection (command : CommandContext) (approval : ApprovalRequest) :
    Tx [businessKeys, paymentRecords, factoryPaymentRequests, invoiceExceptions] JsonValue := do
  let originalId := approval.entityId
  let proposal ← readProposal approval.payload
  let found ← select paymentRecords originalId
  let original ← orThrow found (conflict "Original financial record changed")
  refuseIf (Finance.RecordType.correctable original.recordType = false)
    (conflict "Original financial record changed")
  let related ← query fun db => (db paymentRecords).select fun _ row =>
    row.reversesPaymentRecordId == some originalId || row.correctsPaymentRecordId == some originalId
  refuseIf (related.any (fun r =>
      (r.2.reversesPaymentRecordId.isSome && r.2.recordType != .reversal) ||
        (r.2.correctsPaymentRecordId.isSome && r.2.recordType != .correction)) = true)
    (conflict "Stored financial correction relationship is invalid")
  refuseIf (related ≠ []) (conflict "Financial record was already corrected")
  let requests ← correctionRequests
    (correctionIds original.paymentRequestId proposal.paymentRequestId)
  let proposed ← orThrow (requests.find? fun r => r.1 == proposal.paymentRequestId)
    (notFound "Correction payment request not found")
  refuseIf (original.recordType = .payment ∧ requestPayable proposed.2 = false)
    (conflict "Correction target is not payable")
  let refund ← refundContext original proposal
  (writeCorrection command approval.requestedBy originalId original proposal).widen
  (forEach (projectRequest command original proposal) requests).widen
  (projectRefund command refund).widen
  return .object [("paymentRecordId", .number originalId), ("status", .text "corrected"),
    ("proposedPaymentRequestId", .number proposal.paymentRequestId),
    ("proposedAmountMinor", .number proposal.amountMinor)]

def financialRecordCorrection (command : CommandContext) (approval : ApprovalRequest)
    (decision : Decision) :
    Tx [businessKeys, paymentRecords, factoryPaymentRequests, invoiceExceptions] JsonValue :=
  if decision = .rejected then
    return .object [("paymentRecordId", .number approval.entityId), ("status", .text "rejected")]
  else applyCorrection command approval

end SupplyChain.ApprovalEffects
