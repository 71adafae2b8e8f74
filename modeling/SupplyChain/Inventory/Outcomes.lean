import SupplyChain.Inventory
import SupplyChain.Stock.Moves

/-!
What each inventory command did when it committed.
-/

namespace SupplyChain.Inventory

open Relational Transaction TableName Stock

variable {command : CommandContext} {db db' : Database} {reply : JsonValue}
  {sent : List DomainEvent} {writes : List TableName}

/-! ## Reservations -/

theorem requireReservationEntityScope_reads {access : AccessContext}
    {entityType : ReservationEntity} {entityId : Option Nat} {u : Unit}
    (returns : (requireReservationEntityScope access entityType entityId : Tx writes Unit).Returns
      db u sent db') :
    sent = [] ∧ db' = db := by
  unfold requireReservationEntityScope at returns
  split at returns
  · exact (returns_refuseIf.mp returns).2
  · simp only [returns_bind_orThrow, returns_bind_query, returns_refuseIf] at returns
    obtain ⟨_, -, -, sends, same⟩ := returns
    exact ⟨sends, same⟩

theorem optionalPriority_reads {priority : Option Int} {value : Int}
    (returns : (optionalPriority priority : Tx writes Int).Returns db value sent db') :
    sent = [] ∧ db' = db := by
  cases priority with
  | none => exact (returns_pure.mp returns).2
  | some stated => exact (returns_integer.mp returns).2.2

/-- The reservation that the command inserts. -/
def reservationOf (body : ReserveInventory) (priority : Int) (batch : InventoryBatch) :
    InventoryReservation where
  batchId := body.batchId
  entityType := body.entityType
  entityId := body.entityId
  requestedQuantity := body.requestedQuantity
  reservedQuantity := min body.requestedQuantity (max 0 batch.availableQuantity)
  shortageQuantity := body.requestedQuantity - min body.requestedQuantity (max 0 batch.availableQuantity)
  priority := priority
  status := .active

/-- What a committed reservation did. -/
structure Reserved (body : ReserveInventory) (batch : InventoryBatch) (priority : Int)
    (db db' : Database) : Prop where
  found : (db inventoryBatches).find? body.batchId = some batch
  thawed : frozen db batch.warehouseId batch.sku = false
  unquarantined : batch.quarantineQuantity ≤ 0
  positive : 1 ≤ body.requestedQuantity
  batches : db' inventoryBatches = (db inventoryBatches).modify body.batchId
    (Move.change (.reserve (reservationOf body priority batch) batch.sku))
  reservations : db' inventoryReservations =
    (db inventoryReservations).insert (reservationOf body priority batch)

theorem reserveInventory_returns {body : ReserveInventory}
    (returns : (reserveInventory command body).Returns db reply sent db') :
    ∃ batch priority, Reserved body batch priority db db' ∧
      ∃ type, sent = [⟨type, .inventoryReservation, (db inventoryReservations).nextId, none⟩] := by
  simp only [reserveInventory, returns_bind_requireRole, returns_bind_identifier,
    returns_bind_optionalInteger, returns_bind_integer] at returns
  obtain ⟨-, -, -, ⟨-, positive⟩, returns⟩ := returns
  rw [returns_bind_of_reads optionalPriority_reads] at returns
  obtain ⟨priority, -, returns⟩ := returns
  simp only [returns_bind_refuseIf, returns_bind_select, returns_bind_orThrow,
    returns_bind_lockWarehouseFreeze, returns_bind_requireWarehouseScope] at returns
  obtain ⟨-, seen, foundSeen, -, batch, found, _, -, -, returns⟩ := returns
  rw [returns_bind_of_reads requireReservationEntityScope_reads] at returns
  obtain ⟨_, -, returns⟩ := returns
  simp only [returns_bind_freezeExists, returns_bind_refuseIf, frozen_put_resourceVersions,
    Bool.not_eq_true] at returns
  obtain ⟨-, thawed, clear, returns⟩ := returns
  obtain ⟨_, first, mid, rest, locks, later, rfl⟩ := returns_bind.mp returns
  simp only [returns_bind_insertInto, returns_bind_domainEvent, returns_pure] at later
  obtain ⟨_, ⟨-, rfl, rfl⟩, rfl⟩ := later
  simp only [Store.put_other, ne_eq, reduceCtorEq, not_false_eq_true] at found
  push Not at clear
  refine ⟨batch, priority, ?_⟩
  rcases returns_whenever.mp locks with ⟨some, updated⟩ | ⟨none, rfl, rfl⟩
  · obtain ⟨-, rfl, rfl⟩ := returns_updateRow.mp updated
    refine ⟨⟨found, thawed, clear.2, positive, ?_, ?_⟩, ?_⟩
    · simp
      rfl
    · simp [reservationOf]
    · exact ⟨_, by simp; rfl⟩
  · refine ⟨⟨found, thawed, clear.2, positive, ?_, ?_⟩, ?_⟩
    · simp only [Store.put_other, ne_eq, reduceCtorEq, not_false_eq_true]
      refine (Table.modify_same ?_).symm
      intro row foundRow
      have zero : min body.requestedQuantity (max 0 batch.availableQuantity) = 0 := by omega
      simp [Move.change, reservationOf, zero]
    · simp [reservationOf]
    · exact ⟨_, by simp; rfl⟩

theorem Reserved.moved {body : ReserveInventory} {batch : InventoryBatch} {priority : Int}
    (reserved : Reserved body batch priority db db') :
    Moved (stockOf db) (.reserve (reservationOf body priority batch) batch.sku) (stockOf db') := by
  have nonneg : 0 ≤ (reservationOf body priority batch).reservedQuantity := by
    have positive := reserved.positive
    simp only [reservationOf]
    omega
  have stocked : (reservationOf body priority batch).reservedQuantity ≤
      max 0 batch.availableQuantity := by
    simp only [reservationOf]
    omega
  have found : (stockOf db).batches.find? (reservationOf body priority batch).batchId = some batch :=
    reserved.found
  have moved := Moved.reserve found rfl nonneg stocked
  simpa [stockOf, reserved.batches, reserved.reservations, reservationOf] using moved

/-! ## Transfers -/

/-- The transfer that a request inserts. -/
def transferOf (command : CommandContext) (body : RequestTransfer) : InventoryTransfer where
  transferNo := "TR-" ++ command.randomUUID 0
  fromWarehouseId := body.fromWarehouseId
  toWarehouseId := body.toWarehouseId
  sku := trim body.sku
  quantity := body.quantity
  reason := trim body.reason
  status := .pendingSupplyChain

theorem requestTransfer_returns {body : RequestTransfer}
    (returns : (requestTransfer command body).Returns db reply sent db') :
    1 ≤ body.quantity ∧
      sent = [⟨.approvalRequested, .inventoryTransfer, (db inventoryTransfers).nextId, none⟩] ∧
      db' inventoryTransfers = (db inventoryTransfers).insert (transferOf command body) ∧
      ∃ requestNo payload, db' approvalRequests = (db approvalRequests).insert
        (pendingApproval command requestNo .warehouseTransfer "inventory_transfer"
          (db inventoryTransfers).nextId payload) := by
  simp only [requestTransfer, returns_bind_requireRole, returns_bind_identifier,
    returns_bind_string, returns_bind_integer, returns_bind_refuseIf,
    returns_bind_requireWarehouseScope, returns_bind_select, returns_bind_orThrow,
    returns_bind_insertUnique, returns_bind_lockVersion, returns_bind_insertApproval,
    returns_bind_domainEvent, returns_pure] at returns
  obtain ⟨-, -, -, -, ⟨-, positive⟩, -, -, _, -, -, _, -, -, -, _, -, -, -, _, ⟨-, rfl, rfl⟩,
    rfl⟩ := returns
  exact ⟨positive, rfl, by simp [transferOf], _, _, by simp; rfl⟩

/-- The batches that a shipped transfer draws on. -/
def transferPlan (db : Database) (transfer : InventoryTransfer) : Greedy.Plan Nat :=
  Greedy.plan transfer.quantity
    ((deductible db [transfer.fromWarehouseId] transfer.sku).map fun r => (r.1, r.2.availableQuantity))

/-- A transfer draws on thawed batches, a positive quantity from each. -/
theorem transferPlan_draws {transfer : InventoryTransfer}
    (thawed : frozen db transfer.fromWarehouseId transfer.sku = false) (draw : Nat × Int)
    (member : draw ∈ (transferPlan db transfer).taken) :
    Thawed db draw.1 ∧ (0 ≤ transfer.quantity → 0 < draw.2) := by
  constructor
  · obtain ⟨available, supplied⟩ := Greedy.plan_drawn draw member
    obtain ⟨r, listed, same⟩ := List.mem_map.mp supplied
    obtain ⟨found, within, sku, -⟩ := mem_deductible listed
    rw [← (Prod.mk.inj same).1]
    apply thawed_of_found found
    rw [List.mem_singleton.mp within, sku]
    exact thawed
  · intro nonneg
    refine (Greedy.plan_taken nonneg ?_ draw member).1
    intro supply supplied
    obtain ⟨r, listed, rfl⟩ := List.mem_map.mp supplied
    exact (mem_deductible listed).2.2.2

theorem shipTransfer_returns {id : Nat} {transfer : InventoryTransfer} {u : Unit}
    (returns : (shipTransfer id transfer).Returns db u sent db') :
    transfer.status = .approved ∧ sent = [] ∧ (transferPlan db transfer).left = 0 ∧
      (∃ row, (db inventoryTransfers).find? id = some row ∧ row.status = .approved) ∧
      db' inventoryTransfers = (db inventoryTransfers).modify id
        (fun row => { row with status := .shipped }) ∧
      Moves (stockOf db) ((transferPlan db transfer).taken.map fun draw => .deduct draw.1 draw.2)
        (stockOf db') := by
  simp only [shipTransfer, returns_bind_refuseIf, returns_bind_query, returns_bind_updateRow,
    not_not] at returns
  obtain ⟨approved, whole, waiting, returns⟩ := returns
  obtain ⟨_, first, mid, rest, deducted, moved, rfl⟩ := returns_bind.mp returns
  obtain ⟨-, rfl, rfl⟩ := returns_insertMovement.mp moved
  obtain ⟨rfl, moves, kept⟩ := deductions_moves deducted
  refine ⟨approved, rfl, whole, by simpa using waiting, ?_, ?_⟩
  · simp [kept]
  · simpa [stockOf, transferPlan] using moves

/-- The batch that a received transfer brings. -/
def transferBatch (command : CommandContext) (transfer : InventoryTransfer) : InventoryBatch where
  batchNo := transfer.transferNo ++ "-IN"
  warehouseId := transfer.toWarehouseId
  sku := transfer.sku
  inboundDate := command.today
  availableQuantity := transfer.quantity

theorem receiveTransfer_returns {id : Nat} {transfer : InventoryTransfer} {u : Unit}
    (returns : (receiveTransfer command id transfer).Returns db u sent db') :
    transfer.status = .shipped ∧ sent = [] ∧
      (∃ row, (db inventoryTransfers).find? id = some row ∧ row.status = .shipped) ∧
      db' inventoryTransfers = (db inventoryTransfers).modify id
        (fun row => { row with status := .received }) ∧
      db' inventoryBatches = (db inventoryBatches).insert (transferBatch command transfer) := by
  simp only [receiveTransfer, returns_bind_refuseIf, returns_bind_updateRow,
    returns_bind_insertBatch, returns_insertMovement, not_not] at returns
  obtain ⟨shipped, waiting, -, -, rfl, rfl⟩ := returns
  exact ⟨shipped, rfl, by simpa using waiting, by simp, by simp [transferBatch]⟩

/-- What a transition of a transfer did: its source was drawn on, or its target
was given a batch. -/
inductive Transitioned (command : CommandContext) (id : Nat) (db db' : Database) :
    TransferAction → InventoryTransfer → Prop
  | shipped {transfer : InventoryTransfer} (approved : transfer.status = .approved)
      (whole : (transferPlan db transfer).left = 0)
      (thawed : frozen db transfer.fromWarehouseId transfer.sku = false)
      (transfers : db' inventoryTransfers =
        (db inventoryTransfers).modify id fun row => { row with status := .shipped })
      (moves : Moves (stockOf db)
        ((transferPlan db transfer).taken.map fun draw => .deduct draw.1 draw.2) (stockOf db')) :
      Transitioned command id db db' .ship transfer
  | received {transfer : InventoryTransfer} (shipped : transfer.status = .shipped)
      (thawed : frozen db transfer.toWarehouseId transfer.sku = false)
      (transfers : db' inventoryTransfers =
        (db inventoryTransfers).modify id fun row => { row with status := .received })
      (batches : db' inventoryBatches =
        (db inventoryBatches).insert (transferBatch command transfer)) :
      Transitioned command id db db' .receive transfer

theorem transitionTransfer_returns {body : TransitionTransfer}
    (returns : (transitionTransfer command body).Returns db reply sent db') :
    ∃ transfer, (db inventoryTransfers).find? body.id = some transfer ∧
      sent = [⟨if body.action = .ship then .transferShipped else .transferReceived,
        .inventoryTransfer, body.id, none⟩] ∧
      Transitioned command body.id db db' body.action transfer := by
  simp only [transitionTransfer, returns_bind_requireRole, returns_bind_identifier,
    returns_bind_select, returns_bind_orThrow, returns_bind_lockVersion,
    returns_bind_requireWarehouseScope, returns_bind_freezeExists, returns_bind_refuseIf,
    frozen_put_resourceVersions, Bool.not_eq_true, returns_bind_widen, returns_bind_bumpVersion,
    returns_bind_domainEvent, returns_pure] at returns
  obtain ⟨-, -, transfer, found, _, -, -, _, -, -, -, thawed, _, _, mid, _, ran, ⟨-, _,
    ⟨-, rfl, rfl⟩, rfl⟩, rfl⟩ := returns
  refine ⟨transfer, found, ?_⟩
  cases action : body.action with
  | ship =>
      simp only [action, if_true] at thawed ran ⊢
      obtain ⟨approved, rfl, whole, -, transfers, moves⟩ := shipTransfer_returns ran
      refine ⟨rfl, Transitioned.shipped approved whole thawed ?_ ?_⟩
      · simpa using transfers
      · simpa [stockOf, transferPlan, deductible] using moves
  | receive =>
      simp only [action, reduceCtorEq, if_false] at thawed ran ⊢
      obtain ⟨shipped, rfl, -, transfers, batches⟩ := receiveTransfer_returns ran
      refine ⟨rfl, Transitioned.received shipped thawed ?_ ?_⟩
      · simpa using transfers
      · simpa using batches

end SupplyChain.Inventory
