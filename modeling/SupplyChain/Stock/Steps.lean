import SupplyChain.Operations
import SupplyChain.Inventory.Outcomes
import SupplyChain.PurchaseReceipts.Outcomes
import SupplyChain.QualityInspections.Outcomes
import SupplyChain.ProductionOrders.Outcomes
import SupplyChain.Returns.Outcomes
import SupplyChain.Approvals.Outcomes

/-!
Every step of the operations system moves stock: which commands make which
moves, and that every step is the moves it makes.
-/

namespace SupplyChain.Stock

open Relational Transaction TableName

variable {effects : Approvals.ProcurementEffects} {command : CommandContext} {db db' : Database}
  {reply : JsonValue} {sent : List DomainEvent} {event : Event}

/-- Which step makes which move: what a rule about the moves may use. -/
inductive Makes (db : Database) : Event → Move → Prop
  | reserved {command : CommandContext} {body : Inventory.ReserveInventory}
      {batch : InventoryBatch} {priority : Int}
      (found : (db inventoryBatches).find? body.batchId = some batch)
      (thawed : Thawed db body.batchId) :
      Makes db (.command ⟨command, .reserveInventory body⟩)
        (.reserve (Inventory.reservationOf body priority batch) batch.sku)
  | transferred {command : CommandContext} {body : Inventory.TransitionTransfer}
      {transfer : InventoryTransfer} {batchId : Nat} {quantity : Int}
      (found : (db inventoryTransfers).find? body.id = some transfer)
      (approved : transfer.status = .approved) (thawed : Thawed db batchId)
      (positive : 0 ≤ transfer.quantity → 0 < quantity) :
      Makes db (.command ⟨command, .transitionTransfer body⟩) (.deduct batchId quantity)
  | arrived {command : CommandContext} {body : Inventory.TransitionTransfer}
      {transfer : InventoryTransfer}
      (found : (db inventoryTransfers).find? body.id = some transfer)
      (shipped : transfer.status = .shipped) :
      Makes db (.command ⟨command, .transitionTransfer body⟩)
        (.intake (Inventory.transferBatch command transfer))
  | purchased {command : CommandContext} {body : PurchaseReceipts.ReceivePurchase}
      {batch : InventoryBatch} (active : ActiveWarehouse db batch.warehouseId)
      (others : batch.availableQuantity = 0 ∧ batch.lockedQuantity = 0 ∧
        batch.defectiveQuantity = 0 ∧ batch.quarantineQuantity = 0)
      (positive : 1 ≤ batch.pendingInspectionQuantity) :
      Makes db (.command ⟨command, .receivePurchase body⟩) (.intake batch)
  | inspected {command : CommandContext} {body : QualityInspections.SubmitQualityInspection}
      {batchId : Nat} {quantity : Int} {passed : Bool}
      (traced : QualityInspections.Traced db batchId) (thawed : Thawed db batchId) :
      Makes db (.command ⟨command, .submitQualityInspection body⟩)
        (.settle batchId quantity passed)
  | shipped {command : CommandContext} {body : Shipments.ShipShipment}
      {current : Shipments.ShipmentRow} {batchId : Nat} {quantity : Int}
      (found : Shipments.shipmentRow db body.deliveryBatchId = some current)
      (thawed : Thawed db batchId) (positive : 0 ≤ current.batch.quantity → 0 < quantity) :
      Makes db (.command ⟨command, .shipmentCommand (.ship body)⟩) (.deduct batchId quantity)
  | returned {command : CommandContext} {body : Returns.ReceiveReturn} {sku : String}
      (positive : 1 ≤ body.quantity) :
      Makes db (.command ⟨command, .returnCommand (.receive body)⟩)
        (.intake (Returns.returnBatch command body sku))
  | restocked {command : CommandContext} {body : Returns.ReviewReturn} {row : Returns.ReturnRow}
      (approved : body.decision = .approved)
      (found : Returns.returnRow db body.productReturnId = some row)
      (proposed : Returns.dispositionsOf db body.productReturnId ≠ [])
      (thawed : frozen db row.record.warehouseId row.record.sku = false) :
      Makes db (.command ⟨command, .returnCommand (.review body)⟩)
        (.restock row.record.batchId row.record.quantity
          (Returns.restocks db body.productReturnId))
  | consumed {command : CommandContext} {body : ProductionOrders.TransitionProductionOrder}
      {reservationId batchId : Nat} {sku : String} {quantity : Int}
      (thawed : Thawed db batchId) :
      Makes db (.command ⟨command, .transitionProductionOrder body⟩)
        (.consume reservationId batchId body.id sku quantity)
  | released {command : CommandContext} {body : ProductionOrders.TransitionProductionOrder}
      {reservationId batchId : Nat} {sku : String} {quantity : Int}
      (thawed : Thawed db batchId) :
      Makes db (.command ⟨command, .transitionProductionOrder body⟩)
        (.release reservationId batchId body.id sku quantity)
  | produced {command : CommandContext} {body : ProductionOrders.TransitionProductionOrder}
      {reportId : Nat} {order : ExecutionOrder} {sku : String} {warehouseId : Nat} {actual : Int}
      (positive : 0 < actual) (active : ActiveWarehouse db warehouseId) :
      Makes db (.command ⟨command, .transitionProductionOrder body⟩)
        (.intake (ProductionOrders.outputBatch command reportId order sku warehouseId actual))
  | accepted {command : CommandContext} {body : Approvals.DecideApproval}
      {approval : ApprovalRequest} {row : ApprovalEffects.ReportRow} {warehouseId : Nat}
      (found : (db approvalRequests).find? body.id = some approval)
      (workflow : approval.workflowType = .productionVariance)
      (report : ApprovalEffects.reportRow db approval.entityId = some row)
      (stores : ApprovalEffects.stores approval body.decision)
      (positive : 0 < ApprovalEffects.acceptedQuantity row body.decision)
      (active : ActiveWarehouse db warehouseId) :
      Makes db (.command ⟨command, .decideApproval body⟩)
        (.intake (ApprovalEffects.companyBatch command approval.entityId row warehouseId
          (ApprovalEffects.acceptedQuantity row body.decision)))
  | kept {command : CommandContext} {body : Approvals.DecideApproval} {reportId : Nat}
      {row : ApprovalEffects.ReportRow} {warehouseId : Nat} {quantity : Int}
      (positive : 0 < quantity) (active : ActiveWarehouse db warehouseId) :
      Makes db (.command ⟨command, .decideApproval body⟩)
        (.intake (ApprovalEffects.factoryBatch command reportId row warehouseId quantity))
  | adjusted {command : CommandContext} {body : Approvals.DecideApproval}
      {approval : ApprovalRequest} {row : ApprovalEffects.AdjustmentRow} {batchId : Nat}
      (found : (db approvalRequests).find? body.id = some approval)
      (workflow : approval.workflowType = .stocktakeVariance)
      (approved : body.decision = .approved)
      (pending : row ∈ ApprovalEffects.pendingAdjustments db approval.entityId)
      (bound : row.count.batchId = some batchId)
      (waiting : ∃ task, (db stocktakes).find? approval.entityId = some task ∧
        task.status = .pendingApproval) :
      Makes db (.command ⟨command, .decideApproval body⟩)
        (.adjust batchId row.adjustment.bucket row.adjustment.countedQuantity)

/-- A step took the stock from that of `db` to that of `db'` by moves it makes. -/
def MovesBy (db : Database) (event : Event) (db' : Database) : Prop :=
  ∃ moves, Moves (stockOf db) moves (stockOf db') ∧ ∀ move ∈ moves, Makes db event move

theorem MovesBy.still (batches : db' inventoryBatches = db inventoryBatches)
    (reservations : db' inventoryReservations = db inventoryReservations) :
    MovesBy db event db' := by
  have same : stockOf db' = stockOf db := by simp [stockOf, batches, reservations]
  exact ⟨[], same ▸ Run.done, by simp⟩

theorem MovesBy.single {move : Move} (moved : Moved (stockOf db) move (stockOf db'))
    (made : Makes db event move) : MovesBy db event db' :=
  ⟨[move], Run.single moved, fun _ member => List.mem_singleton.mp member ▸ made⟩

theorem transitionTransfer_moves {body : Inventory.TransitionTransfer}
    (returns : (Inventory.transitionTransfer command body).Returns db reply sent db') :
    MovesBy db (.command ⟨command, .transitionTransfer body⟩) db' := by
  have reservations := returns.unwritten inventoryReservations (by decide)
  obtain ⟨transfer, found, -, transitioned⟩ := Inventory.transitionTransfer_returns returns
  generalize body.action = action at transitioned
  cases transitioned with
  | shipped approved whole thawed transfers moves =>
      refine ⟨_, moves, ?_⟩
      intro move member
      obtain ⟨draw, drawn, rfl⟩ := List.mem_map.mp member
      obtain ⟨batchThawed, positive⟩ := Inventory.transferPlan_draws thawed draw drawn
      exact Makes.transferred found approved batchThawed positive
  | received shipped thawed transfers batches =>
      have moved : Moved (stockOf db) (.intake (Inventory.transferBatch command transfer))
          (stockOf db') := by
        simp only [stockOf, batches, reservations]
        exact Moved.intake rfl
      exact MovesBy.single moved (Makes.arrived found shipped)

theorem onThawed_makes {body : ProductionOrders.TransitionProductionOrder} {move : Move}
    (onThawed : ProductionOrders.OnThawed db body.id move) :
    Makes db (.command ⟨command, .transitionProductionOrder body⟩) move := by
  obtain ⟨reservationId, batchId, sku, quantity, thawed, rfl | rfl⟩ := onThawed
  · exact Makes.consumed thawed
  · exact Makes.released thawed

theorem reportedAll_makes {body : ProductionOrders.TransitionProductionOrder}
    {lines : List ProductionOrders.MaterialReport} {moves : List Move} {start last : Database}
    (begins : ProductionOrders.SameRows db start)
    (reported : ProductionOrders.ReportedAll body.id lines moves start last) :
    ∀ move ∈ moves, Makes db (.command ⟨command, .transitionProductionOrder body⟩) move := by
  intro move member
  have kept : Kept (stockOf db) (stockOf start) := by
    rw [begins.stock]
    exact Kept.refl _
  exact onThawed_makes ((reported.onThawed move member).before kept (begins _ (by decide))
    (begins _ (by decide)))

theorem transitionProductionOrder_moves {body : ProductionOrders.TransitionProductionOrder}
    (returns : (ProductionOrders.transitionProductionOrder command body).Returns
      db reply sent db') :
    MovesBy db (.command ⟨command, .transitionProductionOrder body⟩) db' := by
  obtain ⟨order, item, -, -, transitioned⟩ :=
    ProductionOrders.transitionProductionOrder_returns returns
  generalize body.action = action at transitioned
  cases transitioned with
  | released _ _ thawed run onPool _ _ =>
      refine ⟨_, run, ?_⟩
      intro move member
      exact onThawed_makes ((onPool move member).thawed thawed)
  | started _ _ kept => exact MovesBy.still (kept _ (by decide)) (kept _ (by decide))
  | reported begins reported ends =>
      have run := reported.run
      rw [begins.stock, ← ends.stock] at run
      exact ⟨_, run, reportedAll_makes begins reported⟩
  | completed begins reported completed reservations _ =>
      have run := reported.run
      rw [begins.stock] at run
      obtain ⟨stored, last, labels⟩ := completed.moves reservations
      refine ⟨_, run.append last, ?_⟩
      intro move member
      rcases List.mem_append.mp member with here | there
      · exact reportedAll_makes begins reported move here
      · obtain ⟨reportId, warehouseId, rfl, positive, warehouse, foundWarehouse, active⟩ :=
          labels move there
        rw [reported.kept _ (by decide), begins _ (by decide)] at foundWarehouse
        exact Makes.produced positive ⟨warehouse, foundWarehouse, active⟩

theorem productionVariance_moves {body : Approvals.DecideApproval} {approval : ApprovalRequest}
    {mid : Database} {decision : Decision} (decided : decision = body.decision)
    (found : (db approvalRequests).find? body.id = some approval)
    (workflow : approval.workflowType = .productionVariance)
    (same : ∀ t, t ≠ approvalRequests → t ≠ authChallenges → mid t = db t)
    (returns : (ApprovalEffects.productionVariance command approval decision).Returns
      mid reply sent db') :
    MovesBy db (.command ⟨command, .decideApproval body⟩) db' := by
  have stock : stockOf mid = stockOf db := by simp [stockOf, same]
  have reservations : db' inventoryReservations = mid inventoryReservations :=
    returns.unwritten _ (by decide)
  obtain ⟨row, report, -, -, -, ⟨-, batches⟩ |
      ⟨stores, warehouseId, ⟨warehouse, foundWarehouse, takes⟩, -, batches⟩⟩ :=
    ApprovalEffects.productionVariance_returns returns
  · refine MovesBy.still ?_ ?_
    · rw [batches, same _ (by decide) (by decide)]
    · rw [reservations, same _ (by decide) (by decide)]
  · subst decided
    rw [same _ (by decide) (by decide)] at foundWarehouse
    have active : ActiveWarehouse db warehouseId := ⟨warehouse, foundWarehouse, takes⟩
    have reported : ApprovalEffects.reportRow db approval.entityId = some row := by
      rw [← report]
      simp [ApprovalEffects.reportRow, same]
    obtain ⟨first, company, fromCompany⟩ := admitted (stockOf mid)
      (0 < ApprovalEffects.acceptedQuantity row body.decision)
      (ApprovalEffects.companyBatch command approval.entityId row warehouseId
        (ApprovalEffects.acceptedQuantity row body.decision)) rfl
    obtain ⟨second, factory, fromFactory⟩ := admitted _
      (0 < ApprovalEffects.factoryOwnedQuantity row body.decision
        (ApprovalEffects.isOverproduction approval.payload))
      (ApprovalEffects.factoryBatch command approval.entityId row warehouseId
        (ApprovalEffects.factoryOwnedQuantity row body.decision
          (ApprovalEffects.isOverproduction approval.payload))) rfl
    refine ⟨first ++ second, ?_, ?_⟩
    · rw [← stock]
      have run := company.append factory
      simpa only [stockOf, batches, reservations] using run
    · intro move member
      rcases List.mem_append.mp member with here | there
      · obtain ⟨positive, rfl⟩ := fromCompany move here
        exact Makes.accepted found workflow reported stores positive active
      · obtain ⟨positive, rfl⟩ := fromFactory move there
        exact Makes.kept positive active

theorem approvalEffect_moves {body : Approvals.DecideApproval} {approval : ApprovalRequest}
    {mid : Database} (found : (db approvalRequests).find? body.id = some approval)
    (same : ∀ t, t ≠ approvalRequests → t ≠ authChallenges → mid t = db t)
    (returns : (Approvals.approvalEffect effects command body.id approval body.decision).Returns
      mid reply sent db') :
    MovesBy db (.command ⟨command, .decideApproval body⟩) db' := by
  have stock : stockOf mid = stockOf db := by simp [stockOf, same]
  unfold Approvals.approvalEffect at returns
  cases workflow : approval.workflowType with
  | stocktakeVariance =>
      simp only [workflow, returns_widen] at returns
      have reservations := returns.unwritten inventoryReservations (by decide)
      obtain ⟨task, last, foundTask, waiting, -, decided, rfl⟩ :=
        ApprovalEffects.stocktakeVariance_returns returns
      rw [same _ (by decide) (by decide)] at foundTask
      obtain ⟨moves, run, labels⟩ := ApprovalEffects.decideAdjustments_moves decided
      refine ⟨moves, ?_, ?_⟩
      · rw [← stock]
        simpa [stockOf] using run
      · intro move member
        obtain ⟨approved, row, pending, batchId, bound, rfl⟩ := labels move member
        refine Makes.adjusted found workflow approved ?_ bound ⟨task, foundTask, waiting⟩
        simpa [ApprovalEffects.pendingAdjustments, same] using pending
  | productionVariance =>
      simp only [workflow, returns_widen] at returns
      exact productionVariance_moves rfl found workflow same returns
  | _ =>
      simp only [workflow, returns_widen] at returns
      have unwritten := returns.unwritten
      exact MovesBy.still (by simp [unwritten, same]) (by simp [unwritten, same])

theorem decideApproval_moves {body : Approvals.DecideApproval}
    (returns : (Approvals.decideApproval effects command body).Returns db reply sent db') :
    MovesBy db (.command ⟨command, .decideApproval body⟩) db' := by
  obtain ⟨-, approval, mid, decided⟩ := Approvals.decideApproval_returns returns
  obtain ⟨outcome, effect⟩ := decided.effect
  exact approvalEffect_moves decided.found decided.kept effect

theorem work_moves (work : Work effects db event db') : MovesBy db event db' := by
  cases work with
  | @command _ request reply sent returns =>
      obtain ⟨command, body⟩ := request
      unfold runCommand at returns
      cases body with
      | decideApproval body => exact decideApproval_moves (returns_widen.mp returns)
      | reserveInventory body =>
          obtain ⟨batch, priority, reserved, -⟩ :=
            Inventory.reserveInventory_returns (returns_widen.mp returns)
          have thawed := thawed_of_found reserved.found reserved.thawed
          exact MovesBy.single reserved.moved (Makes.reserved reserved.found thawed)
      | transitionTransfer body => exact transitionTransfer_moves (returns_widen.mp returns)
      | transitionProductionOrder body =>
          exact transitionProductionOrder_moves (returns_widen.mp returns)
      | receivePurchase body =>
          have ran := returns_widen.mp returns
          obtain ⟨-, item, batch, receipt, received⟩ :=
            PurchaseReceipts.receivePurchase_returns ran
          exact MovesBy.single (received.moved (ran.unwritten _ (by decide)))
            (Makes.purchased received.active ⟨received.available.1, received.unlocked,
              received.available.2⟩ received.positive)
      | submitQualityInspection body =>
          have ran := returns_widen.mp returns
          obtain ⟨inspected, -⟩ := QualityInspections.submitQualityInspection_returns ran
          have reservations := ran.unwritten inventoryReservations (by decide)
          rcases inspected.moves reservations with same |
            ⟨id, quantity, passed, traced, thawed, moved⟩
          · exact ⟨[], same ▸ Run.done, by simp⟩
          · exact MovesBy.single moved (Makes.inspected traced thawed)
      | shipmentCommand body =>
          have ran := returns_widen.mp returns
          obtain ⟨moves, run, labels⟩ := (Shipments.shipmentCommand_returns ran).moves
            (ran.unwritten _ (by decide))
          refine ⟨moves, run, ?_⟩
          intro move member
          obtain ⟨ship, current, batchId, quantity, rfl, found, thawed, positive, rfl⟩ :=
            labels move member
          exact Makes.shipped found thawed positive
      | returnCommand body =>
          have ran := returns_widen.mp returns
          obtain ⟨moves, run, labels⟩ := (Returns.returnCommand_returns ran).moves
            (ran.unwritten _ (by decide))
          refine ⟨moves, run, ?_⟩
          intro move member
          rcases labels move member with ⟨received, sku, rfl, positive, rfl⟩ |
            ⟨review, row, rfl, approved, found, proposed, thawed, rfl⟩
          · exact Makes.returned positive
          · exact Makes.restocked approved found proposed thawed
      | _ =>
          have unwritten := (returns_widen.mp returns).unwritten
          exact MovesBy.still (by simp [unwritten]) (by simp [unwritten])
  | warnInvoiceRisk warned =>
      have unwritten := warned.unwritten
      exact MovesBy.still (by simp [unwritten]) (by simp [unwritten])
  | procurement own =>
      exact MovesBy.still (by simp [own, foreignTables]) (by simp [own, foreignTables])
  | approvalRequest => exact MovesBy.still (by simp) (by simp)
  | outboxMessage => exact MovesBy.still rfl rfl

end SupplyChain.Stock
