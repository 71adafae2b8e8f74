import SupplyChain.Stock

/-!
The receipt of a purchase order item: the whole outstanding quantity enters
the warehouse that the purchase plan allocated, pending inspection.
-/

namespace SupplyChain.PurchaseReceipts

open Relational Transaction TableName

structure ReceivePurchase where
  purchaseOrderId : Nat
  orderItemId : Nat
  warehouseId : Nat
  receivedQuantity : Option Int := none
  receivedAt : Option String := none

/-- The factory and warehouse pairs the purchase plan allocated to an item. -/
def allocationKeys (db : Database) (orderItemId : Nat) : List (Nat × Nat) :=
  ((db purchasePlanOrderLinks).select fun _ link => link.orderItemId == orderItemId).filterMap
    fun r => ((db purchasePlanItems).find? r.2.purchasePlanItemId).map
      fun item => (item.factoryId, item.warehouseId)

/-- Adds the received quantity to the item unless it would exceed the order. -/
def receiveItem {writes : List TableName} [Writes orderItems writes] (orderItemId : Nat)
    (receivedQuantity : Int) : Tx writes Unit :=
  updateRow orderItems orderItemId
    (fun row => decide (row.receivedQuantity + receivedQuantity ≤ row.quantity))
    (fun row => { row with receivedQuantity := row.receivedQuantity + receivedQuantity })
    (versionConflict "Purchase order item changed concurrently")

/-- The stated quantity, or all that remains. -/
def quantityReceived {writes : List TableName} (remaining : Int) (stated : Option Int) :
    Tx writes Int :=
  match stated with
  | none => return remaining
  | some value => integer value "receivedQuantity"

def receivePurchase (command : CommandContext) (body : ReceivePurchase) :
    Tx [resourceVersions, inventoryBatches, purchaseReceipts, orderItems, inventoryMovements]
      JsonValue := do
  requireRole command.access [.admin, .supplyChain, .factory]
  let purchaseOrderId ← identifier body.purchaseOrderId "purchaseOrderId"
  let orderItemId ← identifier body.orderItemId "orderItemId"
  let warehouseId ← identifier body.warehouseId "warehouseId"
  let receivedAtText ← optionalString body.receivedAt
  let receivedAt := if receivedAtText = "" then command.clockText else receivedAtText
  let found ← query fun db => ((db orderItems).find? orderItemId).bind fun item =>
    if item.purchaseOrderId = purchaseOrderId then
      ((db purchaseOrders).find? purchaseOrderId).map fun order => (item, order)
    else none
  let (item, order) ← orThrow found (notFound "Purchase order item not found")
  refuseIf (order.status ≠ .confirmed) (conflict "Purchase order is not in a receivable state")
  refuseIf (item.receivedQuantity < 0 ∨ item.quantity < item.receivedQuantity)
    (conflict "Purchase order item receipt state is invalid")
  let remaining := item.quantity - item.receivedQuantity
  refuseIf (remaining ≤ 0) (conflict "Purchase order item is already received")
  let receivedQuantity ← quantityReceived remaining body.receivedQuantity
  refuseIf (receivedQuantity ≠ remaining) (badRequest "Only full-batch receipt is supported")
  let allocations ← query fun db => allocationKeys db orderItemId
  let authoritative ← orThrow allocations.head?
    (conflict "Purchase order item has no authoritative purchase-plan allocation")
  refuseIf (allocations.any (fun key => key != authoritative) = true)
    (conflict "Purchase order item has multiple factory/warehouse allocations")
  refuseIf (outsideFactory command.access (some authoritative.1))
    (forbidden "Forbidden factory binding")
  refuseIf (warehouseId ≠ authoritative.2)
    (conflict "Receiving warehouse is not the authoritative purchase-plan warehouse")
  lockWarehouseFreeze warehouseId
  let warehouse ← requireWarehouseScope command.access warehouseId
  refuseIf (warehouse.status ≠ .active) (conflict "Receiving warehouse is not active")
  let frozen ← freezeExists warehouseId item.sku
  refuseIf (frozen = true) (conflict "Receiving warehouse is frozen by an active stocktake")
  let batchId ← insertBatch
    { batchNo := "RCV-" ++ order.orderNo ++ "-" ++ toString orderItemId ++ "-" ++
        command.randomUUID 0
      warehouseId, sku := item.sku, inboundDate := command.today
      pendingInspectionQuantity := receivedQuantity }
  let receiptNo := "RC-" ++ command.randomUUID 1
  let receiptId ← insertUnique purchaseReceipts
    (fun row => row.receiptNo == receiptNo || row.orderItemId == orderItemId)
    { receiptNo, purchaseOrderId, orderItemId, warehouseId, batchId, receivedQuantity, receivedAt }
    (.duplicateKey purchaseReceipts)
  receiveItem orderItemId receivedQuantity
  insertMovement warehouseId item.sku "inbound" receivedQuantity
    ("purchase_receipt:" ++ toString receiptId)
  let _ ← lockVersion "purchase_receipt" receiptId
  domainEvent .purchaseOrderItemReceived .purchaseReceipt receiptId
  return .object [("receipt", .object [("id", .number receiptId), ("receiptNo", .text receiptNo),
    ("purchaseOrderId", .number purchaseOrderId), ("orderItemId", .number orderItemId),
    ("warehouseId", .number warehouseId), ("batchId", .number batchId),
    ("receivedQuantity", .number receivedQuantity)])]

end SupplyChain.PurchaseReceipts
