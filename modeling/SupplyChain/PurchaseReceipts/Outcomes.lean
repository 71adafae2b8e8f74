import SupplyChain.PurchaseReceipts
import SupplyChain.Stock.Moves

/-!
What the receipt of a purchase order item did when it committed.
-/

namespace SupplyChain.PurchaseReceipts

open Relational Transaction TableName Stock

variable {command : CommandContext} {db db' : Database} {reply : JsonValue}
  {sent : List DomainEvent} {writes : List TableName}

theorem quantityReceived_reads {remaining quantity : Int} {stated : Option Int}
    (returns : (quantityReceived remaining stated : Tx writes Int).Returns db quantity sent db') :
    sent = [] ∧ db' = db := by
  cases stated with
  | none => exact (returns_pure.mp returns).2
  | some value => exact (returns_integer.mp returns).2.2

/-- A committed receipt: one batch of the whole outstanding quantity, pending
inspection, and one receipt row that points to it. -/
structure Received (body : ReceivePurchase) (item : OrderItem) (batch : InventoryBatch)
    (receipt : PurchaseReceipt) (db db' : Database) : Prop where
  found : (db orderItems).find? body.orderItemId = some item
  confirmed : ∃ order, (db purchaseOrders).find? item.purchaseOrderId = some order ∧
    order.status = .confirmed
  active : ActiveWarehouse db batch.warehouseId
  thawed : frozen db batch.warehouseId batch.sku = false
  unlocked : batch.lockedQuantity = 0
  sku : batch.sku = item.sku
  available : batch.availableQuantity = 0 ∧ batch.defectiveQuantity = 0 ∧ batch.quarantineQuantity = 0
  pending : batch.pendingInspectionQuantity = item.quantity - item.receivedQuantity
  positive : 1 ≤ batch.pendingInspectionQuantity
  batches : db' inventoryBatches = (db inventoryBatches).insert batch
  stored : receipt.batchId = (db inventoryBatches).nextId
  item : receipt.orderItemId = body.orderItemId
  received : receipt.receivedQuantity = batch.pendingInspectionQuantity
  receipts : db' purchaseReceipts = (db purchaseReceipts).insert receipt
  items : db' orderItems = (db orderItems).modify body.orderItemId fun row =>
    { row with receivedQuantity := row.receivedQuantity + receipt.receivedQuantity }

theorem receivePurchase_returns {body : ReceivePurchase}
    (returns : (receivePurchase command body).Returns db reply sent db') :
    sent = [⟨.purchaseOrderItemReceived, .purchaseReceipt, (db purchaseReceipts).nextId, none⟩] ∧
      ∃ item batch receipt, Received body item batch receipt db db' := by
  simp only [receivePurchase, returns_bind_requireRole, returns_bind_identifier,
    returns_bind_optionalString, returns_bind_query, returns_bind_orThrow,
    returns_bind_refuseIf] at returns
  obtain ⟨-, -, -, -, -, ⟨item, order⟩, found, confirmed, -, remaining, returns⟩ := returns
  rw [returns_bind_of_reads quantityReceived_reads] at returns
  obtain ⟨quantity, -, returns⟩ := returns
  simp only [returns_bind_query, returns_bind_orThrow, returns_bind_refuseIf,
    returns_bind_lockWarehouseFreeze, returns_bind_requireWarehouseScope,
    returns_bind_freezeExists, returns_bind_insertBatch, returns_bind_insertUnique,
    frozen_put_resourceVersions, Bool.not_eq_true, not_not] at returns
  obtain ⟨whole, authoritative, -, -, -, -, -, warehouse, foundWarehouse, -, active, -, thawed, -, -,
    returns⟩ := returns
  subst whole
  obtain ⟨_, _, _, _, counted, rest, rfl⟩ := returns_bind.mp returns
  obtain ⟨-, rfl, rfl⟩ := returns_updateRow.mp counted
  simp only [returns_bind_insertMovement, returns_bind_lockVersion, returns_bind_domainEvent,
    returns_pure] at rest
  obtain ⟨-, _, -, -, _, ⟨-, rfl, rfl⟩, rfl⟩ := rest
  obtain ⟨row, foundItem, belongs⟩ := Option.bind_eq_some_iff.mp found
  split at belongs
  · rename_i own
    obtain ⟨_, foundOrder, same⟩ := Option.map_eq_some_iff.mp belongs
    cases same
    refine ⟨by simp, item,
      { batchNo := "RCV-" ++ order.orderNo ++ "-" ++ toString body.orderItemId ++ "-" ++
          command.randomUUID 0
        warehouseId := body.warehouseId, sku := item.sku, inboundDate := command.today
        pendingInspectionQuantity := item.quantity - item.receivedQuantity },
      { receiptNo := "RC-" ++ command.randomUUID 1, purchaseOrderId := body.purchaseOrderId
        orderItemId := body.orderItemId, warehouseId := body.warehouseId
        batchId := (db inventoryBatches).nextId
        receivedQuantity := item.quantity - item.receivedQuantity
        receivedAt := if trim (body.receivedAt.getD "") = "" then command.clockText
          else trim (body.receivedAt.getD "") }, ?_⟩
    have left : 0 < item.quantity - item.receivedQuantity := not_le.mp remaining
    exact
      { found := foundItem
        confirmed := ⟨order, by rw [own]; exact foundOrder, not_not.mp confirmed⟩
        active := ⟨warehouse, by simpa using foundWarehouse, active⟩
        thawed := thawed
        unlocked := rfl
        sku := rfl
        available := ⟨rfl, rfl, rfl⟩
        pending := rfl
        positive := by dsimp only; omega
        batches := by simp
        stored := rfl
        item := rfl
        received := rfl
        receipts := by simp
        items := by simp }
  · cases belongs

theorem Received.moved {body : ReceivePurchase} {item : OrderItem} {batch : InventoryBatch}
    {receipt : PurchaseReceipt} (received : Received body item batch receipt db db')
    (reservations : db' inventoryReservations = db inventoryReservations) :
    Moved (stockOf db) (.intake batch) (stockOf db') := by
  have moved := Moved.intake (s := stockOf db) received.unlocked
  simpa [stockOf, received.batches, reservations] using moved

end SupplyChain.PurchaseReceipts
