import SupplyChain.Returns
import SupplyChain.Shipments.Outcomes

/-!
What each return command did when it committed.
-/

namespace SupplyChain.Returns

open Relational Transaction TableName Stock

variable {command : CommandContext} {db db' : Database} {reply : JsonValue}
  {sent : List DomainEvent} {writes : List TableName} {versions : Table ResourceVersion}

/-- What the returns of a delivery batch took back. -/
def returned (returns : Table ProductReturn) (deliveryId : Nat) : Int :=
  returns.weigh fun _ row => if row.sourceDeliveryBatchId = deliveryId then row.quantity else 0

/-- What the receipts of a delivery batch confirm. -/
def received (receipts : Table ShipmentReceipt) (deliveryId : Nat) : Int :=
  receipts.weigh fun _ row => if row.deliveryBatchId = deliveryId then row.receivedQuantity else 0

def inspectionsOf (db : Database) (returnId : Nat) : List (Nat × ProductReturnInspection) :=
  (db productReturnInspections).select fun _ inspection => inspection.productReturnId == returnId

def dispositionsOf (db : Database) (returnId : Nat) : List (Nat × ProductReturnDisposition) :=
  (db productReturnDispositions).select fun _ disposition =>
    disposition.productReturnId == returnId

/-- What a review would restock. -/
def restocks (db : Database) (returnId : Nat) : Int :=
  restockOf ((dispositionsOf db returnId).map fun r =>
    { type := r.2.type, quantity := r.2.quantity })

/-! ## Receipt -/

def returnBatch (command : CommandContext) (body : ReceiveReturn) (sku : String) : InventoryBatch where
  batchNo := "RETURN-" ++ trim body.returnNo
  warehouseId := body.warehouseId
  sku := sku
  inboundDate := command.today
  quarantineQuantity := body.quantity

def returnOf (body : ReceiveReturn) (sku : String) (batchId : Nat) : ProductReturn where
  returnNo := trim body.returnNo
  sourceDeliveryBatchId := body.sourceDeliveryBatchId
  warehouseId := body.warehouseId
  sku := sku
  quantity := body.quantity
  batchId := batchId
  status := .quarantined

/-- What a committed receipt of a return did. -/
structure Received (command : CommandContext) (body : ReceiveReturn)
    (source : Shipments.ShipmentRow) (db db' : Database) : Prop where
  found : Shipments.shipmentRow db body.sourceDeliveryBatchId = some source
  positive : 1 ≤ body.quantity
  safe : isSafeInteger body.quantity
  room : returned (db productReturns) body.sourceDeliveryBatchId + body.quantity ≤
    received (db shipmentReceipts) body.sourceDeliveryBatchId
  thawed : frozen db body.warehouseId source.item.sku = false
  batches : db' inventoryBatches =
    (db inventoryBatches).insert (returnBatch command body source.item.sku)
  records : db' productReturns = (db productReturns).insert
    (returnOf body source.item.sku (db inventoryBatches).nextId)
  versions : db' resourceVersions = lockedVersions
    (freezeVersions (db resourceVersions) body.warehouseId) "product_return" (db productReturns).nextId

theorem receiveReturn_returns {body : ReceiveReturn}
    (returns : (receiveReturn command body).Returns db reply sent db') :
    sent = [⟨.returnReceived, .productReturn, (db productReturns).nextId, none⟩] ∧
      ∃ source, Received command body source db db' := by
  simp only [receiveReturn, returns_bind_requireRole, returns_bind_string, returns_bind_identifier,
    returns_bind_integer, returns_bind_requireWarehouseScope,
    Shipments.returns_bind_requireShipmentRow, returns_bind_refuseIf, returns_bind_query,
    returns_bind_freezeExists, returns_bind_insertBatch, returns_bind_insertUnique,
    returns_bind_lockVersion, returns_bind_insertMovement, returns_bind_domainEvent,
    returns_pure, Bool.not_eq_true] at returns
  obtain ⟨-, -, -, -, ⟨safe, positive⟩, _, -, -, source, found, -, -, room, -, thawed, -, -, _, -, -,
    -, _, ⟨-, rfl, rfl⟩, rfl⟩ := returns
  refine ⟨by simp, source, ?_⟩
  exact
    { found := found
      positive := positive
      safe := safe
      room := not_lt.mp room
      thawed := thawed
      batches := by simp [returnBatch]
      records := by simp [returnOf]
      versions := by simp }

/-! ## Inspection, proposal and review -/

theorem returnRow_some {id : Nat} {row : ReturnRow} (found : returnRow db id = some row) :
    (db productReturns).find? id = some row.record ∧
      ∃ source, Shipments.shipmentRow db row.record.sourceDeliveryBatchId = some source ∧
        row.factoryId = source.order.factoryId ∧ row.supplierId = source.item.supplierId := by
  obtain ⟨record, foundRecord, found⟩ := Option.bind_eq_some_iff.mp found
  obtain ⟨source, foundSource, rfl⟩ := Option.map_eq_some_iff.mp found
  exact ⟨foundRecord, source, foundSource, rfl, rfl⟩

@[simp]
theorem returns_bind_requireReturnRow {α : Type} {a : α} {id : Nat} {f : ReturnRow → Tx writes α} :
    (requireReturnRow id >>= f).Returns db a sent db' ↔
      ∃ row, returnRow db id = some row ∧ (f row).Returns db a sent db' := by
  simp [returns_bind, requireReturnRow, and_assoc]

/-- What a committed inspection of a return did. -/
structure Inspected (body : InspectReturn) (record : ProductReturn) (db db' : Database) :
    Prop where
  waiting : record.status = .quarantined
  nonneg : 0 ≤ body.passedQuantity ∧ 0 ≤ body.failedQuantity
  whole : body.passedQuantity + body.failedQuantity = record.quantity
  inspections : db' productReturnInspections = (db productReturnInspections).insert
    { productReturnId := body.productReturnId, inspectedQuantity := record.quantity
      passedQuantity := body.passedQuantity, failedQuantity := body.failedQuantity }
  records : db' productReturns = (db productReturns).modify body.productReturnId
    fun row => { row with status := .pendingSupplyChain }

theorem inspectReturn_returns {row : ReturnRow} {version : Nat} {body : InspectReturn}
    (found : (db productReturns).find? body.productReturnId = some row.record)
    (returns : (inspectReturn command body.productReturnId row version body).Returns
      db reply sent db') :
    Inspected body row.record db db' ∧
      sent = [⟨.returnInspected, .productReturn, body.productReturnId, none⟩] ∧
      db' resourceVersions =
        bumpedVersions (db resourceVersions) "product_return" body.productReturnId version := by
  simp only [inspectReturn, returns_bind_requireRole, returns_bind_refuseIf, returns_bind_integer,
    returns_bind_optionalString, returns_bind_identifier, returns_bind_requireCleanFile,
    returns_bind_insertInto, returns_bind_updateWhere, returns_bind_bumpVersion,
    returns_bind_domainEvent, returns_pure, not_not] at returns
  obtain ⟨-, -, waiting, -, ⟨-, passed⟩, ⟨-, failed⟩, balanced, -, -, -, _, -, -, -, -, -, _,
    ⟨-, rfl, rfl⟩, rfl⟩ := returns
  push Not at balanced
  refine ⟨⟨waiting, ⟨passed, failed⟩, by omega, ?_, ?_⟩, rfl, by simp⟩
  · simp [balanced.1]
  · simp only [Store.put_same, Store.put_other, ne_eq, reduceCtorEq, not_false_eq_true]
    exact Table.update_guarded found (fun other => other.status == .quarantined)
      (by simp [waiting]) _

theorem checkDisposition_reads {item checked : Disposition}
    (returns : (checkDisposition item : Tx writes Disposition).Returns db checked sent db') :
    sent = [] ∧ db' = db := by
  simp only [checkDisposition, returns_bind_integer, returns_pure] at returns
  exact returns.2.2

theorem checkDispositions_returns {items checked : List Disposition}
    (returns : (collect checkDisposition items : Tx writes (List Disposition)).Returns
      db checked sent db') :
    sent = [] ∧ db' = db ∧ checked = items ∧ ∀ item ∈ items, 0 ≤ item.quantity := by
  obtain ⟨rfl, rfl, all⟩ := collect_of_reads checkDisposition_reads returns
  refine ⟨rfl, rfl, ?_⟩
  clear returns
  induction all with
  | nil => exact ⟨rfl, by simp⟩
  | @cons item value rest values head _ ih =>
      simp only [checkDisposition, returns_bind_integer, returns_pure] at head
      obtain ⟨⟨-, nonneg⟩, rfl, -, -⟩ := head
      refine ⟨by rw [ih.1], ?_⟩
      intro other member
      rcases List.mem_cons.mp member with rfl | inside
      · exact nonneg
      · exact ih.2 other inside

def dispositionOf (proposedBy returnId : Nat) (item : Disposition) : ProductReturnDisposition where
  productReturnId := returnId
  type := item.type
  quantity := item.quantity
  proposedBy := proposedBy
  status := .pending

theorem insertDispositions_returns {returnId : Nat} {items : List Disposition} {u : Unit}
    (returns : (forEach (insertDisposition command returnId) items).Returns db u sent db') :
    sent = [] ∧ db' productReturnDispositions = items.foldl
      (fun rows item => rows.insert (dispositionOf command.access.userId returnId item))
      (db productReturnDispositions) := by
  induction items generalizing db sent with
  | nil =>
      obtain ⟨rfl, rfl⟩ := returns_forEach_nil.mp returns
      exact ⟨rfl, rfl⟩
  | cons item rest ih =>
      obtain ⟨first, mid, later, head, tail, rfl⟩ := returns_forEach_cons.mp returns
      simp only [insertDisposition, returns_bind_insertUnique, returns_pure] at head
      obtain ⟨-, -, rfl, rfl⟩ := head
      obtain ⟨rfl, rows⟩ := ih tail
      refine ⟨rfl, ?_⟩
      rw [rows, Store.put_same]
      rfl

/-- What the dispositions other than a restock add up to. -/
def failedOf (dispositions : List Disposition) : Int :=
  ((dispositions.filter fun item => item.type != .restock).map (·.quantity)).sum

/-- What a committed proposal did. -/
structure Proposed (proposedBy : Nat) (body : ProposeReturn) (record : ProductReturn)
    (db db' : Database) : Prop where
  waiting : record.status = .pendingSupplyChain
  inspected : inspectionsOf db body.productReturnId ≠ []
  restocked : restockOf body.dispositions ≤
    ((inspectionsOf db body.productReturnId).map fun r => r.2.passedQuantity).sum
  failed : failedOf body.dispositions ≤
    ((inspectionsOf db body.productReturnId).map fun r => r.2.failedQuantity).sum
  distinct : (body.dispositions.map (·.type)).Nodup
  whole : (body.dispositions.map (·.quantity)).sum = record.quantity
  nonneg : ∀ item ∈ body.dispositions, 0 ≤ item.quantity
  fresh : ∀ id row, (db productReturnDispositions).find? id = some row →
    row.productReturnId ≠ body.productReturnId
  dispositions : db' productReturnDispositions = body.dispositions.foldl
    (fun rows item => rows.insert (dispositionOf proposedBy body.productReturnId item))
    (db productReturnDispositions)

theorem proposeReturn_returns {row : ReturnRow} {version : Nat} {body : ProposeReturn}
    (returns : (proposeReturn command body.productReturnId row version body).Returns
      db reply sent db') :
    Proposed command.access.userId body row.record db db' ∧
      sent = [⟨.returnDispositionProposed, .productReturn, body.productReturnId, none⟩] ∧
      db' resourceVersions =
        bumpedVersions (db resourceVersions) "product_return" body.productReturnId version := by
  simp only [proposeReturn, returns_bind_requireRole, returns_bind_refuseIf, not_not] at returns
  obtain ⟨-, -, waiting, returns⟩ := returns
  obtain ⟨checked, _, mid, _, checks, later, rfl⟩ := returns_bind.mp returns
  obtain ⟨rfl, rfl, rfl, nonneg⟩ := checkDispositions_returns checks
  simp only [returns_bind_query, returns_bind_refuseIf, returns_bind_widen,
    returns_bind_bumpVersion, returns_bind_domainEvent, returns_pure, Bool.not_eq_true] at later
  obtain ⟨inspected, within, balanced, fresh, _, _, last, _, loop, ⟨-, _, ⟨-, rfl, rfl⟩, rfl⟩,
    rfl⟩ := later
  obtain ⟨rfl, rows⟩ := insertDispositions_returns loop
  have versions := loop.unwritten resourceVersions (by decide)
  push Not at within balanced
  refine ⟨?_, rfl, by simp [versions]⟩
  exact
    { waiting := waiting
      inspected := inspected
      restocked := within.1
      failed := within.2
      distinct := balanced.1
      whole := balanced.2
      nonneg := nonneg
      fresh := by
        intro id row found
        have none := Table.any_eq_false.mp fresh id row found
        simpa using none
      dispositions := by simpa using rows }

/-- What a committed review did. -/
structure Reviewed (command : CommandContext) (body : ReviewReturn) (record : ProductReturn)
    (db db' : Database) : Prop where
  waiting : record.status = .pendingSupplyChain
  proposed : dispositionsOf db body.productReturnId ≠ []
  separate : ∀ r ∈ dispositionsOf db body.productReturnId, r.2.proposedBy ≠ command.access.userId
  dispositions : db' productReturnDispositions = (db productReturnDispositions).update
    (fun _ disposition =>
      disposition.productReturnId == body.productReturnId && disposition.status == .pending)
    fun disposition => { disposition with status := body.decision.status }
  records : db' productReturns = (db productReturns).modify body.productReturnId fun row =>
    { row with status := if body.decision = .approved then .restocked else .inspection }
  stock : (body.decision = .rejected ∧ db' inventoryBatches = db inventoryBatches) ∨
    (body.decision = .approved ∧ frozen db record.warehouseId record.sku = false ∧
      (∃ batch, (db inventoryBatches).find? record.batchId = some batch ∧
        record.quantity ≤ batch.quarantineQuantity) ∧
      db' inventoryBatches = (db inventoryBatches).modify record.batchId
        (Move.change (.restock record.batchId record.quantity (restocks db body.productReturnId))))

theorem restockReturn_returns {returnId : Nat} {record : ProductReturn} {restock : Int} {u : Unit}
    (returns : (restockReturn returnId record restock).Returns db u sent db') :
    sent = [] ∧ frozen db record.warehouseId record.sku = false ∧
      (∃ batch, (db inventoryBatches).find? record.batchId = some batch ∧
        record.quantity ≤ batch.quarantineQuantity) ∧
      db' inventoryBatches = (db inventoryBatches).modify record.batchId
        (Move.change (.restock record.batchId record.quantity restock)) := by
  simp only [restockReturn, returns_bind_lockWarehouseFreeze, returns_bind_freezeExists,
    returns_bind_refuseIf, returns_bind_updateRow, frozen_put_resourceVersions,
    Bool.not_eq_true, decide_eq_true_eq] at returns
  obtain ⟨-, -, thawed, quarantined, moved⟩ := returns
  rcases returns_whenever.mp moved with ⟨-, moved⟩ | ⟨-, rfl, rfl⟩
  · obtain ⟨-, rfl, rfl⟩ := returns_insertMovement.mp moved
    exact ⟨rfl, thawed, by simpa using quarantined, by simp; rfl⟩
  · exact ⟨rfl, thawed, by simpa using quarantined, by simp; rfl⟩

theorem reviewReturn_returns {row : ReturnRow} {version : Nat} {body : ReviewReturn}
    (returns : (reviewReturn command body.productReturnId row version body).Returns
      db reply sent db') :
    Reviewed command body row.record db db' ∧
      ∃ type, (type = .returnDispositionApproved ∨ type = .returnDispositionRejected) ∧
        sent = [⟨type, .productReturn, body.productReturnId, none⟩] := by
  simp only [reviewReturn, returns_bind_requireRole, returns_bind_refuseIf, returns_bind_query,
    returns_bind_updateWhere, not_not, Bool.not_eq_true] at returns
  obtain ⟨-, waiting, proposed, separate, returns⟩ := returns
  obtain ⟨_, first, mid, _, moved, later, rfl⟩ := returns_bind.mp returns
  simp only [returns_bind_updateRow, returns_bind_bumpVersion, returns_bind_domainEvent,
    returns_pure] at later
  obtain ⟨-, -, _, ⟨-, rfl, rfl⟩, rfl⟩ := later
  have others : ∀ r ∈ dispositionsOf db body.productReturnId,
      r.2.proposedBy ≠ command.access.userId := by
    intro r member same
    rw [List.any_eq_false] at separate
    exact separate r member (by simpa using same)
  have branch : first = [] ∧
      ((body.decision = .rejected ∧ mid inventoryBatches = db inventoryBatches) ∨
      (body.decision = .approved ∧ frozen db row.record.warehouseId row.record.sku = false ∧
        (∃ batch, (db inventoryBatches).find? row.record.batchId = some batch ∧
          row.record.quantity ≤ batch.quarantineQuantity) ∧
        mid inventoryBatches = (db inventoryBatches).modify row.record.batchId
          (Move.change (.restock row.record.batchId row.record.quantity
            (restocks db body.productReturnId))))) := by
    rcases returns_whenever.mp moved with ⟨approved, restocked⟩ | ⟨refused, rfl, rfl⟩
    · obtain ⟨sends, thawed, quarantined, batches⟩ := restockReturn_returns restocked
      refine ⟨sends, Or.inr ⟨approved, by simpa [frozen] using thawed, ?_, ?_⟩⟩
      · simpa using quarantined
      · simpa [restocks, dispositionsOf] using batches
    · refine ⟨rfl, Or.inl ⟨?_, by simp⟩⟩
      cases decided : body.decision with
      | approved => exact absurd decided refused
      | rejected => rfl
  obtain ⟨rfl, stock⟩ := branch
  have kept : mid productReturns = db productReturns ∧ mid productReturnDispositions =
      (db productReturnDispositions).update
        (fun _ disposition =>
          disposition.productReturnId == body.productReturnId && disposition.status == .pending)
        fun disposition => { disposition with status := body.decision.status } := by
    rcases returns_whenever.mp moved with ⟨-, restocked⟩ | ⟨-, -, rfl⟩
    · have returns := (returns_widen.mp restocked).unwritten productReturns (by decide)
      have rows := (returns_widen.mp restocked).unwritten productReturnDispositions (by decide)
      exact ⟨by simpa using returns, by simpa using rows⟩
    · exact ⟨by simp, by simp⟩
  refine ⟨⟨waiting, proposed, others, ?_, ?_, ?_⟩, _, ?_, rfl⟩
  · simpa using kept.2
  · simp [kept.1]
  · simpa using stock
  · split <;> simp

/-! ## The command -/

/-- What a return command did to the tables that other commands read. -/
inductive Outcome (command : CommandContext) (db db' : Database) : ReturnCommand → Prop
  | received {body : ReceiveReturn} {source : Shipments.ShipmentRow}
      (received : Received command body source db db')
      (inspections : db' productReturnInspections = db productReturnInspections)
      (dispositions : db' productReturnDispositions = db productReturnDispositions) :
      Outcome command db db' (.receive body)
  | inspected {body : InspectReturn} {row : ReturnRow}
      (found : returnRow db body.productReturnId = some row)
      (inspected : Inspected body row.record db db')
      (dispositions : db' productReturnDispositions = db productReturnDispositions)
      (batches : db' inventoryBatches = db inventoryBatches) :
      Outcome command db db' (.inspect body)
  | proposed {body : ProposeReturn} {row : ReturnRow}
      (found : returnRow db body.productReturnId = some row)
      (proposed : Proposed command.access.userId body row.record db db')
      (records : db' productReturns = db productReturns)
      (inspections : db' productReturnInspections = db productReturnInspections)
      (batches : db' inventoryBatches = db inventoryBatches) :
      Outcome command db db' (.propose body)
  | reviewed {body : ReviewReturn} {row : ReturnRow}
      (found : returnRow db body.productReturnId = some row)
      (reviewed : Reviewed command body row.record db db')
      (inspections : db' productReturnInspections = db productReturnInspections) :
      Outcome command db db' (.review body)

theorem returnCommand_returns {body : ReturnCommand}
    (returns : (returnCommand command body).Returns db reply sent db') :
    Outcome command db db' body := by
  have row : ∀ {id row versions}, returnRow (db.put resourceVersions versions) id = some row ↔
      returnRow db id = some row := by
    intro id row versions
    simp [returnRow, Shipments.shipmentRow]
  unfold returnCommand at returns
  cases body with
  | receive body =>
      have ran := returns_widen.mp returns
      obtain ⟨-, source, received⟩ := receiveReturn_returns ran
      exact Outcome.received received (ran.unwritten _ (by decide)) (ran.unwritten _ (by decide))
  | inspect body =>
      simp only [returns_bind_identifier, returns_bind_requireReturnRow, returns_bind_lockVersion,
        returns_widen] at returns
      obtain ⟨-, row, found, version, -, -, ran⟩ := returns
      obtain ⟨inspected, -, -⟩ :=
        inspectReturn_returns (by simpa using (returnRow_some found).1) ran
      have dispositions := ran.unwritten productReturnDispositions (by decide)
      have batches := ran.unwritten inventoryBatches (by decide)
      refine Outcome.inspected found ?_ (by simpa using dispositions) (by simpa using batches)
      exact
        { waiting := inspected.waiting
          nonneg := inspected.nonneg
          whole := inspected.whole
          inspections := by simpa using inspected.inspections
          records := by simpa using inspected.records }
  | propose body =>
      simp only [returns_bind_identifier, returns_bind_requireReturnRow, returns_bind_lockVersion,
        returns_widen] at returns
      obtain ⟨-, row, found, version, -, -, ran⟩ := returns
      obtain ⟨proposed, -, -⟩ := proposeReturn_returns ran
      have records := ran.unwritten productReturns (by decide)
      have inspections := ran.unwritten productReturnInspections (by decide)
      have batches := ran.unwritten inventoryBatches (by decide)
      refine Outcome.proposed found ?_ (by simpa using records) (by simpa using inspections)
        (by simpa using batches)
      exact
        { proposed with
          inspected := by simpa [inspectionsOf] using proposed.inspected
          restocked := by simpa [inspectionsOf] using proposed.restocked
          failed := by simpa [inspectionsOf] using proposed.failed
          fresh := by simpa using proposed.fresh
          dispositions := by simpa using proposed.dispositions }
  | review body =>
      simp only [returns_bind_identifier, returns_bind_requireReturnRow, returns_bind_lockVersion,
        returns_widen] at returns
      obtain ⟨-, row, found, version, -, -, ran⟩ := returns
      obtain ⟨reviewed, -⟩ := reviewReturn_returns ran
      have inspections := ran.unwritten productReturnInspections (by decide)
      refine Outcome.reviewed found ?_ (by simpa using inspections)
      exact
        { waiting := reviewed.waiting
          proposed := by simpa [dispositionsOf] using reviewed.proposed
          separate := by simpa [dispositionsOf] using reviewed.separate
          dispositions := by simpa using reviewed.dispositions
          records := by simpa using reviewed.records
          stock := by simpa [restocks, dispositionsOf] using reviewed.stock }

theorem Outcome.moves {body : ReturnCommand} (outcome : Outcome command db db' body)
    (reservations : db' inventoryReservations = db inventoryReservations) :
    ∃ moves, Moves (stockOf db) moves (stockOf db') ∧ ∀ move ∈ moves,
      (∃ received sku, body = .receive received ∧ 1 ≤ received.quantity ∧
        move = .intake (returnBatch command received sku)) ∨
      ∃ review row, body = .review review ∧ review.decision = .approved ∧
        returnRow db review.productReturnId = some row ∧
        dispositionsOf db review.productReturnId ≠ [] ∧
        frozen db row.record.warehouseId row.record.sku = false ∧
        move = .restock row.record.batchId row.record.quantity
          (restocks db review.productReturnId) := by
  have still : db' inventoryBatches = db inventoryBatches → stockOf db' = stockOf db := by
    intro batches
    simp [stockOf, batches, reservations]
  cases outcome with
  | @received body source received _ _ =>
      have moved : Moved (stockOf db) (.intake (returnBatch command body source.item.sku))
          (stockOf db') := by
        have admitted : Moved (stockOf db) (.intake (returnBatch command body source.item.sku)) _ :=
          Moved.intake rfl
        simpa [stockOf, received.batches, reservations] using admitted
      refine ⟨_, Run.single moved, ?_⟩
      intro move member
      exact Or.inl ⟨body, _, rfl, received.positive, List.mem_singleton.mp member⟩
  | inspected _ _ _ batches => exact ⟨[], still batches ▸ Run.done, by simp⟩
  | proposed _ _ _ _ batches => exact ⟨[], still batches ▸ Run.done, by simp⟩
  | @reviewed body row found reviewed _ =>
      rcases reviewed.stock with ⟨-, batches⟩ |
        ⟨approved, thawed, ⟨batch, foundBatch, held⟩, batches⟩
      · exact ⟨[], still batches ▸ Run.done, by simp⟩
      · have moved : Moved (stockOf db) (.restock row.record.batchId row.record.quantity
            (restocks db body.productReturnId)) (stockOf db') := by
          have restocked : Moved (stockOf db) (.restock row.record.batchId row.record.quantity
              (restocks db body.productReturnId)) _ := Moved.restock foundBatch held
          simpa [stockOf, batches, reservations] using restocked
        refine ⟨_, Run.single moved, ?_⟩
        intro move member
        exact Or.inr ⟨body, row, rfl, approved, found, reviewed.proposed, thawed,
          List.mem_singleton.mp member⟩

end SupplyChain.Returns
