import SupplyChain.Shipments
import SupplyChain.Stock.Moves

/-!
What each shipment command did when it committed.
-/

namespace SupplyChain.Shipments

open Relational Transaction TableName Stock

variable {command : CommandContext} {db db' : Database} {reply : JsonValue}
  {sent : List DomainEvent} {writes : List TableName}

/-- The quantity of an execution order that its live delivery batches plan. -/
def plannedQuantity (batches : Table DeliveryBatch) (orderId : Nat) : Int :=
  batches.weigh fun _ row =>
    if row.executionOrderId = orderId ∧ DeliveryStatus.plannedAgainst row.status = true
    then row.quantity else 0

/-! ## Creation -/

/-- The delivery batch that the command inserts. -/
def deliveryOf (body : CreateShipment) : DeliveryBatch where
  executionOrderId := body.executionOrderId
  batchNo := trim body.batchNo
  quantity := body.quantity
  plannedShipAt := trim body.plannedShipAt
  shippedAt := none
  carrier := ""
  logisticsNo := ""
  destination := trim body.destination
  requiresApproval := false
  deviationReason := none
  status := .pendingFactoryConfirmation

theorem createShipment_returns {body : CreateShipment}
    (returns : (createShipment command body).Returns db reply sent db') :
    ∃ order, (db executionOrders).find? body.executionOrderId = some order ∧ 1 ≤ body.quantity ∧
      plannedQuantity (db deliveryBatches) body.executionOrderId + body.quantity ≤
        max order.completedQuantity order.plannedQuantity ∧
      sent = [⟨.shipmentPlanned, .deliveryBatch, (db deliveryBatches).nextId, none⟩] ∧
      db' deliveryBatches = (db deliveryBatches).insert (deliveryOf body) := by
  simp only [createShipment, returns_bind_requireRole, returns_bind_identifier,
    returns_bind_string, returns_bind_integer, returns_bind_select, returns_bind_orThrow,
    returns_bind_query, returns_bind_refuseIf, returns_bind_insertUnique, returns_bind_lockVersion,
    returns_bind_domainEvent, returns_pure] at returns
  obtain ⟨-, -, -, ⟨-, positive⟩, -, -, order, found, room, -, _, -, -, _, ⟨-, rfl, rfl⟩, rfl⟩ :=
    returns
  refine ⟨order, found, positive, not_lt.mp room, by simp, ?_⟩
  simp [deliveryOf]

/-! ## Statuses -/

/-- What a command other than the creation may do to a delivery batch: it keeps
its order and quantity, and it stays planned against the order or leaves. -/
def DeliveryKept (_ : Nat) (old row : DeliveryBatch) : Prop :=
  row.executionOrderId = old.executionOrderId ∧ row.quantity = old.quantity ∧
    row.batchNo = old.batchNo ∧
    (DeliveryStatus.plannedAgainst row.status = true →
      DeliveryStatus.plannedAgainst old.status = true)

theorem deliveryKept_refl (id : Nat) (row : DeliveryBatch) : DeliveryKept id row row :=
  ⟨rfl, rfl, rfl, fun live => live⟩

theorem shipmentRow_some {id : Nat} {row : ShipmentRow} (found : shipmentRow db id = some row) :
    (db deliveryBatches).find? id = some row.batch ∧
      (db executionOrders).find? row.batch.executionOrderId = some row.order ∧
      (db orderItems).find? row.order.orderItemId = some row.item := by
  obtain ⟨batch, foundBatch, found⟩ := Option.bind_eq_some_iff.mp found
  obtain ⟨order, foundOrder, found⟩ := Option.bind_eq_some_iff.mp found
  obtain ⟨item, foundItem, rfl⟩ := Option.map_eq_some_iff.mp found
  exact ⟨foundBatch, foundOrder, foundItem⟩

@[simp]
theorem returns_bind_requireShipmentRow {α : Type} {a : α} {id : Nat}
    {f : ShipmentRow → Tx writes α} :
    (requireShipmentRow id >>= f).Returns db a sent db' ↔
      ∃ row, shipmentRow db id = some row ∧ (f row).Returns db a sent db' := by
  simp [returns_bind, requireShipmentRow, and_assoc]

/-- An update of a live delivery batch that keeps its order and its quantity. -/
theorem revises_delivery {batches : Table DeliveryBatch} {id : Nat}
    {change : DeliveryBatch → DeliveryBatch}
    (live : ∀ old, batches.find? id = some old → DeliveryStatus.plannedAgainst old.status = true)
    (keeps : ∀ old, (change old).executionOrderId = old.executionOrderId ∧
      (change old).quantity = old.quantity ∧ (change old).batchNo = old.batchNo) :
    Table.Revises DeliveryKept batches (batches.modify id change) := by
  refine Table.revises_modify ?_ fun key old _ => deliveryKept_refl key old
  intro old found
  obtain ⟨order, quantity, batchNo⟩ := keeps old
  exact ⟨order, quantity, batchNo, fun _ => live old found⟩

theorem confirmShipment_returns {id version : Nat} {current : ShipmentRow}
    (returns : (confirmShipment command id current version).Returns db reply sent db') :
    (∃ batch, (db deliveryBatches).find? id = some batch ∧
        batch.status = .pendingFactoryConfirmation) ∧
      sent = [⟨.shipmentConfirmed, .deliveryBatch, id, none⟩] ∧
      db' deliveryBatches = (db deliveryBatches).modify id fun row =>
        { row with status := .planned } := by
  simp only [confirmShipment, requireFactoryBinding, returns_bind_requireRole,
    returns_bind_refuseIf, returns_bind_updateRow, returns_bind_bumpVersion,
    returns_bind_domainEvent, returns_pure, beq_iff_eq] at returns
  obtain ⟨-, -, waiting, -, _, ⟨-, rfl, rfl⟩, rfl⟩ := returns
  exact ⟨waiting, rfl, by simp⟩

theorem deviationApproval_returns {id approvalId : Nat}
    {existing : Option (Nat × ApprovalRequest)} {payload : JsonValue}
    (returns : (deviationApproval command id existing payload).Returns db approvalId sent db') :
    sent = [] ∧ (db' approvalRequests = db approvalRequests ∨
      ∃ requestNo, db' approvalRequests = (db approvalRequests).insert
        (pendingApproval command requestNo .shipmentDeviation "delivery_batch" id payload)) := by
  cases existing with
  | some r =>
      obtain ⟨-, rfl, rfl⟩ := returns_pure.mp returns
      exact ⟨rfl, Or.inl rfl⟩
  | none =>
      obtain ⟨-, -, rfl, rfl⟩ := returns_insertUnique.mp returns
      exact ⟨rfl, Or.inr ⟨_, by simp; rfl⟩⟩

theorem requestDeviation_returns {id version : Nat} {current : ShipmentRow}
    {deviationReason : Option String} {shippedAt : String}
    (returns : (requestDeviation command id current version deviationReason shippedAt).Returns
      db reply sent db') :
    sent = [⟨.shipmentDeviationRequested, .deliveryBatch, id, none⟩] ∧
      (db' approvalRequests = db approvalRequests ∨
        ∃ requestNo payload, db' approvalRequests = (db approvalRequests).insert
          (pendingApproval command requestNo .shipmentDeviation "delivery_batch" id payload)) ∧
      ∃ reason, db' deliveryBatches = (db deliveryBatches).update
        (fun key row => key == id && row.status == .planned)
        fun row => { row with
          requiresApproval := true, deviationReason := some reason
          status := .pendingSupplyChain } := by
  simp only [requestDeviation, returns_bind_string, returns_bind_query, returns_bind_widen,
    returns_bind_updateWhere, returns_bind_bumpVersion, returns_bind_domainEvent,
    returns_pure] at returns
  obtain ⟨-, approvalId, _, mid, _, asked, ⟨-, _, ⟨-, rfl, rfl⟩, rfl⟩, rfl⟩ := returns
  obtain ⟨rfl, approvals⟩ := deviationApproval_returns asked
  have kept : mid deliveryBatches = db deliveryBatches := asked.unwritten _ (by decide)
  refine ⟨rfl, ?_, trim (deviationReason.getD ""), by simp [kept]⟩
  rcases approvals with same | ⟨requestNo, inserted⟩
  · exact Or.inl (by simpa using same)
  · exact Or.inr ⟨requestNo, _, by simpa using inserted⟩

/-! ## Dispatch -/

/-- The active warehouses of the factory that ships. -/
def shippingWarehouses (db : Database) (current : ShipmentRow) : List Nat :=
  ((db warehouses).select fun _ row =>
    row.factoryId == some current.order.factoryId && row.status == .active).map (·.1)

/-- The batches that a dispatch draws on, with their warehouses. -/
def dispatchPlan (db : Database) (current : ShipmentRow) : Greedy.Plan (Nat × Nat) :=
  Greedy.plan current.batch.quantity
    ((deductible db (shippingWarehouses db current) current.item.sku).map
      fun r => ((r.1, r.2.warehouseId), r.2.availableQuantity))

/-- A dispatch draws on thawed batches, a positive quantity from each. -/
theorem dispatchPlan_draws {current : ShipmentRow}
    (thawed : ∀ warehouseId ∈ shippingWarehouses db current,
      frozen db warehouseId current.item.sku = false)
    (draw : (Nat × Nat) × Int) (member : draw ∈ (dispatchPlan db current).taken) :
    Thawed db draw.1.1 ∧ (0 ≤ current.batch.quantity → 0 < draw.2) := by
  constructor
  · obtain ⟨available, supplied⟩ := Greedy.plan_drawn draw member
    obtain ⟨r, listed, same⟩ := List.mem_map.mp supplied
    obtain ⟨found, within, sku, -⟩ := mem_deductible listed
    rw [← (Prod.mk.inj same).1]
    apply thawed_of_found found
    rw [sku]
    exact thawed _ within
  · intro nonneg
    refine (Greedy.plan_taken nonneg ?_ draw member).1
    intro supply supplied
    obtain ⟨r, listed, rfl⟩ := List.mem_map.mp supplied
    exact (mem_deductible listed).2.2.2

theorem dispatchBatches_moves {id : Nat} {sku : String} {taken : List ((Nat × Nat) × Int)}
    {u : Unit} (returns : (forEach (dispatchBatch id sku) taken).Returns db u sent db') :
    sent = [] ∧ Moves (stockOf db) (taken.map fun draw => .deduct draw.1.1 draw.2) (stockOf db') := by
  induction taken generalizing db sent with
  | nil =>
      obtain ⟨rfl, rfl⟩ := returns_forEach_nil.mp returns
      exact ⟨rfl, Run.done⟩
  | cons draw rest ih =>
      obtain ⟨first, mid, later, head, tail, rfl⟩ := returns_forEach_cons.mp returns
      obtain ⟨_, _, _, _, deducted, moved, rfl⟩ := returns_bind.mp head
      obtain ⟨rfl, ⟨batch, found, stocked⟩, rfl⟩ := deductBatch_returns deducted
      obtain ⟨-, rfl, rfl⟩ := returns_insertMovement.mp moved
      obtain ⟨rfl, moves⟩ := ih tail
      have first := Moved.deduct (s := stockOf db) found stocked
      exact ⟨rfl, Run.next (by simpa [stockOf] using first) (by simpa [stockOf] using moves)⟩

theorem dispatch_returns {id : Nat} {current : ShipmentRow}
    {shippedAt carrier logisticsNo : String} {u : Unit}
    (returns : (dispatch id current shippedAt carrier logisticsNo).Returns db u sent db') :
    sent = [] ∧ (dispatchPlan db current).left = 0 ∧
      (∀ warehouseId ∈ shippingWarehouses db current,
        frozen db warehouseId current.item.sku = false) ∧
      db' deliveryBatches = (db deliveryBatches).modify id
        (fun row => { row with shippedAt := some shippedAt, carrier, logisticsNo
                               status := .shipped }) ∧
      Moves (stockOf db) ((dispatchPlan db current).taken.map fun draw => .deduct draw.1.1 draw.2)
        (stockOf db') := by
  simp only [dispatch, returns_bind_query, returns_bind_refuseIf] at returns
  obtain ⟨-, returns⟩ := returns
  obtain ⟨_, first, mid, rest, thawing, later, rfl⟩ := returns_bind.mp returns
  obtain ⟨rfl, thawed, kept⟩ := forEach_thawed (fun id => id) (fun _ => current.item.sku) (by
      intro warehouseId s sends s' round
      simp only [returns_bind_lockWarehouseFreeze, returns_bind_freezeExists, returns_refuseIf,
        frozen_put_resourceVersions, Bool.not_eq_true] at round
      obtain ⟨-, -, thawed, rfl, rfl⟩ := round
      exact ⟨rfl, thawed, fun t other => by
        rw [Store.put_other _ _ other, Store.put_other _ _ other]⟩) thawing
  simp only [returns_bind_query, returns_bind_refuseIf, returns_bind_updateRow,
    returns_widen, not_not] at later
  obtain ⟨whole, -, later⟩ := later
  obtain ⟨rfl, moves⟩ := dispatchBatches_moves later
  have deliveries : db' deliveryBatches = _ := later.unwritten deliveryBatches (by decide)
  have plan : dispatchPlan db current = Greedy.plan current.batch.quantity
      ((deductible mid (shippingWarehouses db current) current.item.sku).map
        fun r => ((r.1, r.2.warehouseId), r.2.availableQuantity)) := by
    simp only [dispatchPlan, deductible, kept inventoryBatches (by decide)]
  refine ⟨rfl, by rw [plan]; exact whole, thawed, ?_, ?_⟩
  · rw [deliveries]
    simp [kept]
  · rw [plan]
    simpa [stockOf, kept, shippingWarehouses] using moves

/-- What a dispatch command did: it asked for approval, or it shipped. -/
inductive Dispatched (command : CommandContext) (id : Nat) (current : ShipmentRow)
    (db db' : Database) : List DomainEvent → Prop
  | deviates
      (approvals : db' approvalRequests = db approvalRequests ∨
        ∃ requestNo payload, db' approvalRequests = (db approvalRequests).insert
          (pendingApproval command requestNo .shipmentDeviation "delivery_batch" id payload))
      (batches : db' inventoryBatches = db inventoryBatches)
      (planned : current.batch.status = .planned)
      (deliveries : ∃ reason, db' deliveryBatches = (db deliveryBatches).modify id
        fun row => { row with
          requiresApproval := true, deviationReason := some reason
          status := .pendingSupplyChain }) :
      Dispatched command id current db db' [⟨.shipmentDeviationRequested, .deliveryBatch, id, none⟩]
  | ships
      (approvals : db' approvalRequests = db approvalRequests)
      (whole : (dispatchPlan db current).left = 0)
      (thawed : ∀ warehouseId ∈ shippingWarehouses db current,
        frozen db warehouseId current.item.sku = false)
      (dispatchable : current.batch.status.dispatchable = true)
      (deliveries : ∃ shippedAt carrier logisticsNo,
        db' deliveryBatches = (db deliveryBatches).modify id fun row =>
          { row with shippedAt := some shippedAt, carrier, logisticsNo, status := .shipped })
      (moves : Moves (stockOf db)
        ((dispatchPlan db current).taken.map fun draw => .deduct draw.1.1 draw.2) (stockOf db')) :
      Dispatched command id current db db'
        [⟨.shipmentDispatched, .deliveryBatch, id, none⟩, ⟨.payableAccrued, .deliveryBatch, id, none⟩]

theorem shipShipment_returns {id version : Nat} {current : ShipmentRow} {body : ShipShipment}
    (found : (db deliveryBatches).find? id = some current.batch)
    (returns : (shipShipment command id current version body).Returns db reply sent db') :
    Dispatched command id current db db' sent := by
  simp only [shipShipment, requireFactoryBinding, returns_bind_requireRole, returns_bind_refuseIf,
    returns_bind_string, returns_bind_identifier, returns_bind_requireCleanFile,
    Bool.not_eq_false] at returns
  obtain ⟨-, -, dispatchable, -, -, -, -, file, -, -, -, -, returns⟩ := returns
  rcases returns_ite.mp returns with ⟨off, asks⟩ | ⟨-, ships⟩
  · have asked := returns_widen.mp asks
    obtain ⟨rfl, approvals, reason, deliveries⟩ := requestDeviation_returns asked
    have planned : current.batch.status = .planned := by
      have other := off.2
      revert dispatchable other
      cases current.batch.status <;> simp [DeliveryStatus.dispatchable]
    refine Dispatched.deviates approvals (asked.unwritten _ (by decide)) planned ⟨reason, ?_⟩
    rw [deliveries, Table.update_guarded found (fun row => row.status == .planned)
      (by simp [planned])]
  · simp only [returns_bind_widen, returns_bind_optionalString, returns_bind_insertRow,
      returns_bind_bumpVersion, returns_bind_domainEvent, returns_pure] at ships
    obtain ⟨_, _, mid, _, dispatched, ⟨-, -, _, ⟨_, ⟨-, rfl, rfl⟩, rfl⟩, rfl⟩, rfl⟩ := ships
    obtain ⟨rfl, whole, thawed, deliveries, moves⟩ := dispatch_returns dispatched
    have approvals := dispatched.unwritten approvalRequests (by decide)
    exact Dispatched.ships (by simpa using approvals) whole thawed dispatchable
      ⟨_, _, _, by simpa using deliveries⟩ (by simpa [stockOf] using moves)

/-! ## Receipt -/

/-- The receipt that the command inserts. -/
def receiptOf (id : Nat) (body : ReceiveShipment) : ShipmentReceipt where
  deliveryBatchId := id
  receivedQuantity := body.receivedQuantity
  damagedQuantity := body.damagedQuantity
  receivedAt := trim body.receivedAt

/-- What a receipt did: one receipt row, at most the quantity shipped. -/
structure ReceivedShipment (id : Nat) (current : ShipmentRow) (body : ReceiveShipment)
    (db db' : Database) : Prop where
  shipped : current.batch.status = .shipped
  nonneg : 0 ≤ body.receivedQuantity
  within : body.receivedQuantity ≤ current.batch.quantity
  receipts : db' shipmentReceipts = (db shipmentReceipts).insert (receiptOf id body)
  deliveries : ∃ status, (status = .received ∨ status = .receivedWithException) ∧
    db' deliveryBatches = (db deliveryBatches).modify id fun row => { row with status }

theorem openLogisticsException_returns {current : ShipmentRow}
    {receivedQuantity damagedQuantity : Int} {reason : String} {exceptionId : Option Nat}
    (returns : (openLogisticsException current receivedQuantity damagedQuantity reason).Returns
      db exceptionId sent db') : sent = [] := by
  simp only [openLogisticsException, returns_bind_insertInto, returns_bind_lockVersion,
    returns_pure] at returns
  obtain ⟨_, -, -, -, rfl, -⟩ := returns
  rfl

theorem receiveShipment_returns {id version : Nat} {current : ShipmentRow} {body : ReceiveShipment}
    (returns : (receiveShipment command id current version body).Returns db reply sent db') :
    ReceivedShipment id current body db db' ∧
      ∃ type, (type = .logisticsExceptionOpened ∨ type = .shipmentReceived) ∧
        sent = [⟨type, .deliveryBatch, id, none⟩] := by
  simp only [receiveShipment, returns_bind_requireRole, returns_bind_refuseIf,
    returns_bind_integer, returns_bind_string, returns_bind_identifier,
    returns_bind_requireCleanFile, returns_bind_optionalString, returns_bind_insertInto,
    returns_bind_widen, returns_bind_updateRow, returns_bind_bumpVersion,
    returns_bind_domainEvent, returns_pure, not_not] at returns
  obtain ⟨-, -, shipped, ⟨-, nonneg⟩, -, -, -, _, -, -, -, -, within, -, -, exceptionId, first, mid, _,
    opened, ⟨-, -, _, ⟨-, rfl, rfl⟩, rfl⟩, rfl⟩ := returns
  have sends : first = [] ∧ mid shipmentReceipts = _ ∧ mid deliveryBatches = _ :=
    ⟨by
      rcases returns_ite.mp opened with ⟨-, opened⟩ | ⟨-, none⟩
      · exact openLogisticsException_returns opened
      · exact (returns_pure.mp none).2.1, opened.unwritten _ (by decide), opened.unwritten _ (by decide)⟩
  obtain ⟨rfl, receipts, deliveries⟩ := sends
  push Not at within
  refine ⟨⟨shipped, nonneg, within.1, ?_, ?_⟩, ?_⟩
  · simp [receipts, receiptOf]
  · refine ⟨_, ?_, by simp [deliveries]; rfl⟩
    split <;> simp
  · refine ⟨_, ?_, rfl⟩
    split <;> simp

/-! ## The command -/

variable {versions : Table ResourceVersion}

/-- The lock of a version changes none of the tables that a dispatch reads. -/
theorem Dispatched.unlocked {id : Nat} {current : ShipmentRow}
    (dispatched : Dispatched command id current (db.put resourceVersions versions) db' sent) :
    Dispatched command id current db db' sent := by
  have plan : dispatchPlan (db.put resourceVersions versions) current = dispatchPlan db current := by
    simp [dispatchPlan, deductible, shippingWarehouses]
  cases dispatched with
  | deviates approvals batches planned deliveries =>
      exact Dispatched.deviates (by simpa using approvals) (by simpa using batches) planned
        (by simpa using deliveries)
  | ships approvals whole thawed dispatchable deliveries moves =>
      rw [plan] at whole moves
      exact Dispatched.ships (by simpa using approvals) whole
        (by simpa [shippingWarehouses] using thawed) dispatchable (by simpa using deliveries)
        (by simpa [stockOf] using moves)

/-- What a shipment command did to the tables that other commands read. -/
inductive Outcome (command : CommandContext) (db db' : Database)
    (sent : List DomainEvent) : ShipmentCommand → Prop
  | created {body : CreateShipment} {order : ExecutionOrder}
      (found : (db executionOrders).find? body.executionOrderId = some order)
      (positive : 1 ≤ body.quantity)
      (room : plannedQuantity (db deliveryBatches) body.executionOrderId + body.quantity ≤
        max order.completedQuantity order.plannedQuantity)
      (deliveries : db' deliveryBatches = (db deliveryBatches).insert (deliveryOf body))
      (receipts : db' shipmentReceipts = db shipmentReceipts)
      (batches : db' inventoryBatches = db inventoryBatches)
      (approvals : db' approvalRequests = db approvalRequests) :
      Outcome command db db' sent (.create body)
  | resolved {exceptionId : Nat} {resolution : String}
      (deliveries : db' deliveryBatches = db deliveryBatches)
      (receipts : db' shipmentReceipts = db shipmentReceipts)
      (batches : db' inventoryBatches = db inventoryBatches)
      (approvals : db' approvalRequests = db approvalRequests) :
      Outcome command db db' sent (.resolveException exceptionId resolution)
  | confirmed {id : Nat} {batch : DeliveryBatch}
      (found : (db deliveryBatches).find? id = some batch)
      (waiting : batch.status = .pendingFactoryConfirmation)
      (deliveries : db' deliveryBatches = (db deliveryBatches).modify id fun row =>
        { row with status := .planned })
      (receipts : db' shipmentReceipts = db shipmentReceipts)
      (batches : db' inventoryBatches = db inventoryBatches)
      (approvals : db' approvalRequests = db approvalRequests) :
      Outcome command db db' sent (.confirm id)
  | dispatched {body : ShipShipment} {current : ShipmentRow}
      (found : shipmentRow db body.deliveryBatchId = some current)
      (dispatched : Dispatched command body.deliveryBatchId current db db' sent)
      (receipts : db' shipmentReceipts = db shipmentReceipts) :
      Outcome command db db' sent (.ship body)
  | received {body : ReceiveShipment} {current : ShipmentRow}
      (found : shipmentRow db body.deliveryBatchId = some current)
      (received : ReceivedShipment body.deliveryBatchId current body db db')
      (batches : db' inventoryBatches = db inventoryBatches)
      (approvals : db' approvalRequests = db approvalRequests) :
      Outcome command db db' sent (.receive body)

theorem shipmentCommand_returns {body : ShipmentCommand}
    (returns : (shipmentCommand command body).Returns db reply sent db') :
    Outcome command db db' sent body := by
  unfold shipmentCommand at returns
  cases body with
  | create body =>
      have ran := returns_widen.mp returns
      obtain ⟨order, found, positive, room, -, deliveries⟩ := createShipment_returns ran
      exact Outcome.created found positive room deliveries (ran.unwritten _ (by decide))
        (ran.unwritten _ (by decide)) (ran.unwritten _ (by decide))
  | resolveException exceptionId resolution =>
      have ran := returns_widen.mp returns
      exact Outcome.resolved (ran.unwritten _ (by decide)) (ran.unwritten _ (by decide))
        (ran.unwritten _ (by decide)) (ran.unwritten _ (by decide))
  | confirm id =>
      simp only [returns_bind_identifier, returns_bind_requireShipmentRow,
        returns_bind_lockVersion, returns_widen] at returns
      obtain ⟨-, current, -, version, -, -, ran⟩ := returns
      obtain ⟨⟨batch, found, waiting⟩, -, deliveries⟩ := confirmShipment_returns ran
      have receipts := ran.unwritten shipmentReceipts (by decide)
      have batches := ran.unwritten inventoryBatches (by decide)
      have approvals := ran.unwritten approvalRequests (by decide)
      exact Outcome.confirmed (by simpa using found) waiting (by simpa using deliveries)
        (by simpa using receipts) (by simpa using batches) (by simpa using approvals)
  | ship body =>
      simp only [returns_bind_identifier, returns_bind_requireShipmentRow,
        returns_bind_lockVersion, returns_widen] at returns
      obtain ⟨-, current, found, version, -, -, ran⟩ := returns
      have batch := (shipmentRow_some found).1
      have receipts := ran.unwritten shipmentReceipts (by decide)
      exact Outcome.dispatched found (shipShipment_returns (by simpa using batch) ran).unlocked
        (by simpa using receipts)
  | receive body =>
      simp only [returns_bind_identifier, returns_bind_requireShipmentRow,
        returns_bind_lockVersion, returns_widen] at returns
      obtain ⟨-, current, found, version, -, -, ran⟩ := returns
      obtain ⟨received, -⟩ := receiveShipment_returns ran
      have batches := ran.unwritten inventoryBatches (by decide)
      have approvals := ran.unwritten approvalRequests (by decide)
      exact Outcome.received found
        { shipped := received.shipped
          nonneg := received.nonneg
          within := received.within
          receipts := by simpa using received.receipts
          deliveries := by simpa using received.deliveries }
        (by simpa using batches) (by simpa using approvals)

/-! ## What the stock and the deliveries keep -/

theorem Outcome.moves {body : ShipmentCommand} (outcome : Outcome command db db' sent body)
    (reservations : db' inventoryReservations = db inventoryReservations) :
    ∃ moves, Moves (stockOf db) moves (stockOf db') ∧
      ∀ move ∈ moves, ∃ ship current batchId quantity, body = .ship ship ∧
        shipmentRow db ship.deliveryBatchId = some current ∧ Thawed db batchId ∧
        (0 ≤ current.batch.quantity → 0 < quantity) ∧ move = .deduct batchId quantity := by
  have still : db' inventoryBatches = db inventoryBatches →
      ∃ moves, Moves (stockOf db) moves (stockOf db') ∧
        ∀ move ∈ moves, ∃ ship current batchId quantity, body = .ship ship ∧
          shipmentRow db ship.deliveryBatchId = some current ∧ Thawed db batchId ∧
          (0 ≤ current.batch.quantity → 0 < quantity) ∧ move = .deduct batchId quantity := by
    intro batches
    have same : stockOf db' = stockOf db := by simp [stockOf, batches, reservations]
    exact ⟨[], same ▸ Run.done, by simp⟩
  cases outcome with
  | created _ _ _ _ _ batches _ => exact still batches
  | resolved _ _ batches _ => exact still batches
  | confirmed _ _ _ _ batches _ => exact still batches
  | received _ _ batches _ => exact still batches
  | dispatched found dispatched receipts =>
      cases dispatched with
      | deviates _ batches _ _ => exact still batches
      | ships _ _ thawed _ _ moves =>
          refine ⟨_, moves, ?_⟩
          intro move member
          obtain ⟨draw, drawn, rfl⟩ := List.mem_map.mp member
          obtain ⟨batchThawed, positive⟩ := dispatchPlan_draws thawed draw drawn
          exact ⟨_, _, _, _, rfl, found, batchThawed, positive, rfl⟩

end SupplyChain.Shipments
