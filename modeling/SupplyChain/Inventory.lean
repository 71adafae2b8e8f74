import SupplyChain.Stock

/-!
The inventory commands: reservations of a batch for a business entity, and
transfers between warehouses from their request to their receipt.
-/

namespace SupplyChain.Inventory

open Relational Transaction TableName

structure ReserveInventory where
  batchId : Nat
  entityType : ReservationEntity
  entityId : Option Nat := none
  requestedQuantity : Int
  priority : Option Int := none

/-- The rows of the scope query of a reservation: the entity exists, and an
outside caller owns it. -/
def entityAllowed (db : Database) (access : AccessContext) (entityType : ReservationEntity)
    (entityId : Nat) : Bool :=
  let owned := fun (factoryId : Nat) => internal access || access.factoryId == some factoryId
  match entityType with
  | .historical => false
  | .productionOrder => ((db executionOrders).find? entityId).any fun order => owned order.factoryId
  | .shipmentPlan =>
      ((db deliveryBatches).find? entityId).any fun batch =>
        ((db executionOrders).find? batch.executionOrderId).any fun order => owned order.factoryId
  | .purchaseOrder =>
      ((db purchaseOrders).find? entityId).isSome &&
        (internal access || (db orderItems).any fun itemId item =>
          item.purchaseOrderId == entityId && (db executionOrders).any fun _ order =>
            order.orderItemId == itemId && access.factoryId == some order.factoryId)

def requireReservationEntityScope {writes : List TableName} (access : AccessContext)
    (entityType : ReservationEntity) (entityId : Option Nat) : Tx writes Unit :=
  if entityType = .historical then
    refuseIf (internal access = false) (forbidden "Historical reservations require an internal role")
  else do
    let id ← orThrow entityId (badRequest "Business entity is required")
    let allowed ← query fun db => entityAllowed db access entityType id
    refuseIf (allowed = false) (forbidden "Forbidden reservation entity binding")

def optionalPriority {writes : List TableName} (priority : Option Int) : Tx writes Int :=
  match priority with
  | none => return 0
  | some value => integer value "priority" (-1000)

def reserveInventory (command : CommandContext) (body : ReserveInventory) :
    Tx [resourceVersions, inventoryBatches, inventoryReservations] JsonValue := do
  requireRole command.access [.admin, .supplyChain, .factory]
  let batchId ← identifier body.batchId "batchId"
  let entityId ← optionalInteger body.entityId "entityId"
  let requestedQuantity ← integer body.requestedQuantity "requestedQuantity"
  let priority ← optionalPriority body.priority
  refuseIf (body.entityType ≠ .historical ∧ entityId = none)
    (badRequest "Business entity is required")
  let seen ← select inventoryBatches batchId
  let unlocked ← orThrow seen (notFound "Inventory batch not found")
  lockWarehouseFreeze unlocked.warehouseId
  let found ← select inventoryBatches batchId
  let batch ← orThrow found (versionConflict "Inventory batch changed concurrently")
  let _ ← requireWarehouseScope command.access batch.warehouseId
  requireReservationEntityScope command.access body.entityType entityId
  let frozen ← freezeExists batch.warehouseId batch.sku
  refuseIf (frozen = true) (conflict "Inventory is frozen by an active stocktake")
  refuseIf (batch.expiryStatus = .expiredFrozen ∨ 0 < batch.quarantineQuantity)
    (conflict "Frozen or quarantined inventory cannot be reserved")
  let available := max 0 batch.availableQuantity
  let reservedQuantity := min requestedQuantity available
  let shortageQuantity := requestedQuantity - reservedQuantity
  whenever (0 < reservedQuantity)
    (updateRow inventoryBatches batchId
      (fun row => decide (reservedQuantity ≤ row.availableQuantity))
      (fun row => { row with
        availableQuantity := row.availableQuantity - reservedQuantity,
        lockedQuantity := row.lockedQuantity + reservedQuantity })
      (versionConflict "Inventory changed concurrently"))
  let reservationId ← insertInto inventoryReservations
    { batchId, entityType := body.entityType, entityId, requestedQuantity, reservedQuantity,
      shortageQuantity, priority, status := .active }
  domainEvent
    (if 0 < shortageQuantity then .inventoryShortageDetected else .inventoryReserved)
    .inventoryReservation reservationId
  return .object [("reservation", .object [("id", .number reservationId),
    ("batchId", .number batchId), ("requestedQuantity", .number requestedQuantity),
    ("reservedQuantity", .number reservedQuantity),
    ("shortageQuantity", .number shortageQuantity)])]

structure RequestTransfer where
  fromWarehouseId : Nat
  toWarehouseId : Nat
  sku : String
  quantity : Int
  reason : String

def requestTransfer (command : CommandContext) (body : RequestTransfer) :
    Tx [resourceVersions, inventoryTransfers, approvalRequests] JsonValue := do
  requireRole command.access [.admin, .supplyChain, .factory]
  let fromWarehouseId ← identifier body.fromWarehouseId "fromWarehouseId"
  let toWarehouseId ← identifier body.toWarehouseId "toWarehouseId"
  let sku ← string body.sku "sku" 191
  let quantity ← integer body.quantity "quantity"
  let reason ← string body.reason "reason"
  refuseIf (fromWarehouseId = toWarehouseId) (badRequest "Warehouses must differ")
  let source ← requireWarehouseScope command.access fromWarehouseId
  let found ← select warehouses toWarehouseId
  let target ← orThrow found (notFound "Target warehouse not found")
  refuseIf (source.status ≠ .active ∨ target.status ≠ .active)
    (conflict "Inactive warehouses cannot be transferred")
  let transferNo := "TR-" ++ command.randomUUID 0
  let transferId ← insertUnique inventoryTransfers (fun row => row.transferNo == transferNo)
    { transferNo, fromWarehouseId, toWarehouseId, sku, quantity, reason
      status := .pendingSupplyChain }
    (.duplicateKey inventoryTransfers)
  let _ ← lockVersion "inventory_transfer" transferId
  let details : List (String × JsonValue) :=
    [("fromWarehouseId", .number fromWarehouseId), ("toWarehouseId", .number toWarehouseId),
      ("sku", .text sku), ("quantity", .number quantity), ("reason", .text reason)]
  let _ ← insertApproval command ("APR-" ++ transferNo) .warehouseTransfer "inventory_transfer"
    transferId (.object details)
  domainEvent .approvalRequested .inventoryTransfer transferId
  return .object [("transfer", .object (("id", .number transferId) ::
    ("transferNo", .text transferNo) :: details ++ [("status", .text "pending_supply_chain")]))]

inductive TransferAction
  | ship | receive
  deriving DecidableEq

structure TransitionTransfer where
  id : Nat
  action : TransferAction

def shipTransfer (id : Nat) (transfer : InventoryTransfer) :
    Tx [inventoryTransfers, inventoryBatches, inventoryMovements] Unit := do
  refuseIf (transfer.status ≠ .approved) (conflict "Transfer is not approved")
  let batches ← query fun db => deductible db [transfer.fromWarehouseId] transfer.sku
  let plan := Greedy.plan transfer.quantity (batches.map fun r => (r.1, r.2.availableQuantity))
  refuseIf (plan.left ≠ 0) (conflict "Insufficient available inventory")
  updateRow inventoryTransfers id (fun row => row.status == .approved)
    (fun row => { row with status := .shipped })
    (versionConflict "Transfer changed concurrently")
  forEach (fun deduction : Nat × Int => deductBatch deduction.1 deduction.2) plan.taken
  insertMovement transfer.fromWarehouseId transfer.sku "transfer_out" (-transfer.quantity)
    ("transfer:" ++ toString id ++ ":out")

def receiveTransfer (command : CommandContext) (id : Nat) (transfer : InventoryTransfer) :
    Tx [inventoryTransfers, inventoryBatches, inventoryMovements] Unit := do
  refuseIf (transfer.status ≠ .shipped) (conflict "Only shipped transfers can be received")
  updateRow inventoryTransfers id (fun row => row.status == .shipped)
    (fun row => { row with status := .received })
    (versionConflict "Transfer changed concurrently")
  let _ ← insertBatch
    { batchNo := transfer.transferNo ++ "-IN", warehouseId := transfer.toWarehouseId
      sku := transfer.sku, inboundDate := command.today, availableQuantity := transfer.quantity }
  insertMovement transfer.toWarehouseId transfer.sku "transfer_in" transfer.quantity
    ("transfer:" ++ toString id ++ ":in")

def transitionTransfer (command : CommandContext) (body : TransitionTransfer) :
    Tx [resourceVersions, inventoryTransfers, inventoryBatches, inventoryMovements] JsonValue := do
  requireRole command.access [.admin, .supplyChain, .factory]
  let id ← identifier body.id "id"
  let found ← select inventoryTransfers id
  let transfer ← orThrow found (notFound "Transfer not found")
  let version ← lockVersion "inventory_transfer" id
  let shipping := body.action = .ship
  let warehouseId := if shipping then transfer.fromWarehouseId else transfer.toWarehouseId
  let _ ← requireWarehouseScope command.access warehouseId
  let frozen ← freezeExists warehouseId transfer.sku
  refuseIf (frozen = true) (conflict "Inventory is frozen by an active stocktake")
  (if shipping then shipTransfer id transfer else receiveTransfer command id transfer).widen
  let nextVersion ← bumpVersion "inventory_transfer" id version
  domainEvent (if shipping then .transferShipped else .transferReceived) .inventoryTransfer id
  return .object [("success", .boolean true), ("id", .number id),
    ("status", .text (if shipping then "shipped" else "received")),
    ("version", .number nextVersion)]

end SupplyChain.Inventory
