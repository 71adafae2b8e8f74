import SupplyChain.ProductionOrders.Materials

/-!
What each production command did when it committed.
-/

namespace SupplyChain.ProductionOrders

open Relational Transaction TableName Stock

variable {command : CommandContext} {db db' : Database} {reply : JsonValue}
  {sent : List DomainEvent} {writes : List TableName}

/-! ## Creation -/

def orderOf (command : CommandContext) (body : CreateProductionOrder) : ExecutionOrder where
  executionNo := "MO-" ++ command.randomUUID 0
  orderItemId := body.orderItemId
  factoryId := body.factoryId
  bomId := body.bomId
  plannedQuantity := body.plannedQuantity
  completedQuantity := 0
  status := .planned

/-- The material line of a component. -/
def lineOf (orderId : Nat) (plannedQuantity : Int) (component : Nat × BomComponent) :
    ProductionMaterialLine where
  executionOrderId := orderId
  bomComponentId := component.1
  theoreticalQuantity := component.2.quantityPerFinished * plannedQuantity
  reservedQuantity := component.2.quantityPerFinished * plannedQuantity
  issuedQuantity := 0
  consumedQuantity := 0
  lossQuantity := 0
  deviationStatus := .withinTolerance

/-- The quantity that the execution orders of an order item plan. -/
def plannedFor (orders : Table ExecutionOrder) (orderItemId : Nat) : Int :=
  orders.weigh fun _ row => if row.orderItemId = orderItemId then row.plannedQuantity else 0

def componentsOf (db : Database) (bomId : Nat) : List (Nat × BomComponent) :=
  (db bomComponents).select fun _ row => row.bomId == bomId

/-- What a committed creation did. -/
structure Created (command : CommandContext) (body : CreateProductionOrder) (item : OrderItem)
    (bom : ProductBom) (db db' : Database) : Prop where
  foundItem : (db orderItems).find? body.orderItemId = some item
  placed : ∃ order, (db purchaseOrders).find? item.purchaseOrderId = some order
  positive : 1 ≤ body.plannedQuantity
  allocated : planAllocations db body.orderItemId ≠ []
  authoritative : ∀ row ∈ planAllocations db body.orderItemId,
    row.2.factoryId = body.factoryId ∧ row.2.sku = item.sku
  room : plannedFor (db executionOrders) body.orderItemId + body.plannedQuantity ≤
    ((planAllocations db body.orderItemId).map (·.1)).sum
  foundBom : (db productBoms).find? body.bomId = some bom
  usable : bom.finishedSku = item.sku ∧ bom.active = true ∧ bom.approvalStatus = .approved
  orders : db' executionOrders = (db executionOrders).insert (orderOf command body)
  lines : db' productionMaterialLines = (componentsOf db body.bomId).foldl
    (fun lines component =>
      lines.insert (lineOf (db executionOrders).nextId body.plannedQuantity component))
    (db productionMaterialLines)

theorem insertMaterialLines_returns {orderId : Nat} {plannedQuantity : Int}
    {components : List (Nat × BomComponent)} {u : Unit}
    (returns : (forEach (insertMaterialLine orderId plannedQuantity) components).Returns
      db u sent db') :
    sent = [] ∧ db' productionMaterialLines = components.foldl
      (fun lines component => lines.insert (lineOf orderId plannedQuantity component))
      (db productionMaterialLines) := by
  induction components generalizing db sent with
  | nil =>
      obtain ⟨rfl, rfl⟩ := returns_forEach_nil.mp returns
      exact ⟨rfl, rfl⟩
  | cons component rest ih =>
      obtain ⟨first, mid, later, head, tail, rfl⟩ := returns_forEach_cons.mp returns
      obtain ⟨rfl, rfl⟩ := returns_insertRow.mp head
      obtain ⟨rfl, lines⟩ := ih tail
      refine ⟨rfl, ?_⟩
      rw [lines, Store.put_same]
      rfl

theorem createProductionOrder_returns {body : CreateProductionOrder}
    (returns : (createProductionOrder command body).Returns db reply sent db') :
    sent = [⟨.productionOrderCreated, .executionOrder, (db executionOrders).nextId, none⟩] ∧
      ∃ item bom, Created command body item bom db db' := by
  simp only [createProductionOrder, returns_bind_requireRole, returns_bind_identifier,
    returns_bind_refuseIf, returns_bind_integer, returns_bind_string, returns_bind_query,
    returns_bind_orThrow, returns_bind_select, returns_bind_insertUnique, returns_bind_widen,
    returns_bind_lockVersion, returns_bind_domainEvent, returns_pure] at returns
  obtain ⟨-, -, -, -, -, ⟨-, positive⟩, -, -, -, -, ⟨item, order⟩, found, authoritative, -, bom,
    foundBom, usable, -, room, -, _, _, mid, _, loop, ⟨_, -, -, _, ⟨-, rfl, rfl⟩, rfl⟩, rfl⟩ := returns
  obtain ⟨rfl, lines⟩ := insertMaterialLines_returns loop
  have orders := loop.unwritten executionOrders (by decide)
  obtain ⟨row, foundItem, joined⟩ := Option.bind_eq_some_iff.mp found
  obtain ⟨_, foundOrder, same⟩ := Option.map_eq_some_iff.mp joined
  cases same
  push Not at authoritative usable
  refine ⟨rfl, item, bom, ?_⟩
  exact
    { foundItem := foundItem
      placed := ⟨order, foundOrder⟩
      positive := positive
      allocated := authoritative.1
      authoritative := by
        intro row member
        have none := authoritative.2
        rw [ne_eq, List.any_eq_true, not_exists] at none
        simpa [member] using none row
      room := not_lt.mp room
      foundBom := foundBom
      usable := by simpa using usable
      orders := by simpa [orderOf] using orders
      lines := by simpa [componentsOf] using lines }

/-! ## Completion -/

def toleranceOf (db : Database) (sku : String) : Int :=
  ((db skus).first? fun _ row => row.code == sku).elim 0 fun r => r.2.overproductionToleranceBps

def overproduced (db : Database) (order : ExecutionOrder) (sku : String) (actual : Int) : Bool :=
  decide (0 < actual - order.plannedQuantity ∧
    toleranceOf db sku < deviationBps actual order.plannedQuantity)

def underproduced (order : ExecutionOrder) (actual : Int) : Bool :=
  decide (actual - order.plannedQuantity < 0)

/-- The report that the completion inserts, with the batch that it is given. -/
def reportOf (id : Nat) (order : ExecutionOrder) (actual : Int)
    (overproduced underproduced pending : Bool) (batchId : Option Nat) : ProductionReport where
  executionOrderId := id
  actualFinishedQuantity := actual
  varianceQuantity := actual - order.plannedQuantity
  varianceRateBps := deviationBps actual order.plannedQuantity
  result := if overproduced then .overproductionQuarantined
    else if underproduced then .underproductionPending else .withinTolerance
  companyInventoryQuantity := if pending then 0 else actual
  factoryOwnedQuantity := 0
  batchId := batchId

/-- The batch of a completion within tolerance. -/
def outputBatch (command : CommandContext) (reportId : Nat) (order : ExecutionOrder)
    (sku : String) (warehouseId : Nat) (actual : Int) : InventoryBatch where
  batchNo := "PROD-" ++ order.executionNo ++ "-" ++ toString reportId ++ "-C"
  warehouseId := warehouseId
  sku := sku
  productionDate := some command.today
  inboundDate := command.today
  pendingInspectionQuantity := actual

/-- The payload of the approval that a completion asks for. -/
def variancePayload (id : Nat) (overproduced underproduced materialDeviation : Bool) : JsonValue :=
  .object [("executionOrderId", .number id), ("overproduction", .boolean overproduced),
    ("underproduction", .boolean underproduced), ("materialDeviation", .boolean materialDeviation)]

theorem productionWarehouse_active {factoryId warehouseId : Nat}
    (chosen : productionWarehouse db factoryId = some warehouseId) :
    ActiveWarehouse db warehouseId := by
  obtain ⟨r, first, rfl⟩ := Option.map_eq_some_iff.mp chosen
  have listed := List.mem_of_mem_head? first
  simp only [List.mem_append, List.mem_filter, Table.mem_select, Bool.and_eq_true, beq_iff_eq]
    at listed
  rcases listed with ⟨⟨found, -, active⟩, -⟩ | ⟨⟨found, -, active⟩, -⟩
  · exact ⟨r.2, found, active⟩
  · exact ⟨r.2, found, active⟩

/-- What a completion did after its materials were reported: it asked for an
approval, or it stored the output, if there was any. -/
inductive Stored (command : CommandContext) (id : Nat) (order : ExecutionOrder) (sku : String)
    (actual : Int) (deviates : Bool) (db db' : Database) : Bool → Prop
  | asked
      (cause : (overproduced db order sku actual || underproduced order actual || deviates) = true)
      (reports : db' productionReports = (db productionReports).insert
        (reportOf id order actual (overproduced db order sku actual) (underproduced order actual)
          true none))
      (batches : db' inventoryBatches = db inventoryBatches)
      (lines : db' productionMaterialLines = db productionMaterialLines)
      (approvals : ∃ requestNo, db' approvalRequests = (db approvalRequests).insert
        (pendingApproval command requestNo .productionVariance "production_report"
          (db productionReports).nextId
          (variancePayload id (overproduced db order sku actual) (underproduced order actual)
            deviates))) :
      Stored command id order sku actual deviates db db' true
  | empty
      (none : actual = 0)
      (reports : db' productionReports = (db productionReports).insert
        (reportOf id order actual false false false .none))
      (batches : db' inventoryBatches = db inventoryBatches)
      (lines : db' productionMaterialLines = db productionMaterialLines)
      (approvals : db' approvalRequests = db approvalRequests) :
      Stored command id order sku actual deviates db db' false
  | stored {warehouseId : Nat}
      (positive : 0 < actual)
      (active : ActiveWarehouse db warehouseId)
      (thawed : frozen db warehouseId sku = false)
      (reports : db' productionReports = (db productionReports).insert
        (reportOf id order actual false false false (some (db inventoryBatches).nextId)))
      (batches : db' inventoryBatches = (db inventoryBatches).insert
        (outputBatch command (db productionReports).nextId order sku warehouseId actual))
      (lines : db' productionMaterialLines = (db productionMaterialLines).update
        (fun _ row => row.executionOrderId == id) fun row => { row with reservedQuantity := 0 })
      (approvals : db' approvalRequests = db approvalRequests) :
      Stored command id order sku actual deviates db db' false

/-- What a completion did after its materials were reported. -/
structure Completed (command : CommandContext) (id : Nat) (order : ExecutionOrder) (sku : String)
    (actual : Int) (deviates pending : Bool) (db db' : Database) : Prop where
  running : order.status.running = true
  nonneg : 0 ≤ actual
  within : pending = false → order.plannedQuantity ≤ actual
  judged : pending = (overproduced db order sku actual || underproduced order actual || deviates)
  current : ∃ row, (db executionOrders).find? id = some row ∧ row.status.running = true
  orders : db' executionOrders = (db executionOrders).modify id fun row => { row with
    status := if pending then .variancePending else .completed, completedQuantity := actual }
  stored : Stored command id order sku actual deviates db db' pending

theorem storeBatch_returns {id reportId : Nat} {order : ExecutionOrder} {sku : String}
    {actual : Int} {u : Unit}
    (returns : (storeBatch command id reportId order sku actual).Returns db u sent db') :
    sent = [] ∧ ∃ warehouseId, ActiveWarehouse db warehouseId ∧
      frozen db warehouseId sku = false ∧
      db' inventoryBatches = (db inventoryBatches).insert
        (outputBatch command reportId order sku warehouseId actual) ∧
      db' productionReports = (db productionReports).modify reportId
        (fun row => { row with batchId := some (db inventoryBatches).nextId }) ∧
      db' productionMaterialLines = (db productionMaterialLines).update
        (fun _ row => row.executionOrderId == id) fun row => { row with reservedQuantity := 0 } := by
  simp only [storeBatch, returns_bind_query, returns_bind_orThrow, returns_bind_lockWarehouseFreeze,
    returns_bind_freezeExists, returns_bind_refuseIf, frozen_put_resourceVersions,
    Bool.not_eq_true, returns_bind_insertBatch, returns_bind_updateWhere,
    returns_bind_insertMovement, returns_updateWhere] at returns
  obtain ⟨warehouseId, chosen, -, -, thawed, -, -, rfl, rfl⟩ := returns
  refine ⟨rfl, warehouseId, productionWarehouse_active chosen, thawed, ?_, ?_, ?_⟩
  · simp [outputBatch]
  · simp
  · simp

theorem completeOrder_returns {id version : Nat} {order : ExecutionOrder} {sku : String}
    {actual : Int} {deviates : Bool}
    (returns : (completeOrder command id order sku actual deviates version).Returns
      db reply sent db') :
    ∃ pending, Completed command id order sku actual deviates pending db db' ∧
      sent = [⟨if pending then .productionVarianceRequested else .productionOrderCompleted,
        .executionOrder, id, none⟩] := by
  simp only [completeOrder, returns_bind_refuseIf, returns_bind_integer, returns_bind_query,
    returns_bind_insertInto, returns_bind_updateRow] at returns
  obtain ⟨running, ⟨-, nonneg⟩, current, returns⟩ := returns
  obtain ⟨approvalId, first, mid, second, branch, later, rfl⟩ := returns_bind.mp returns
  simp only [returns_bind_bumpVersion, returns_bind_domainEvent, returns_pure] at later
  obtain ⟨-, _, ⟨-, rfl, rfl⟩, rfl⟩ := later
  have excess : decide (0 < actual - order.plannedQuantity ∧
      (((db skus).first? fun _ row => row.code == sku).elim 0 fun r =>
        r.2.overproductionToleranceBps) < deviationBps actual order.plannedQuantity) =
      overproduced db order sku actual := rfl
  have under : decide (actual - order.plannedQuantity < 0) = underproduced order actual := rfl
  simp only [excess, under] at branch ⊢
  have active : order.status.running = true := by simpa using running
  have row : ∃ row, (db executionOrders).find? id = some row ∧ row.status.running = true := by
    simpa using current
  cases pending : overproduced db order sku actual || underproduced order actual || deviates with
  | true =>
      simp only [pending, if_true, returns_widen, requestVariance, returns_bind_insertApproval,
        returns_pure] at branch ⊢
      obtain ⟨-, -, rfl, rfl⟩ := branch
      refine ⟨true, ⟨active, nonneg, by simp, pending.symm, row, by simp, ?_⟩, by simp⟩
      refine Stored.asked pending ?_ (by simp) (by simp) ⟨_, by simp [variancePayload]; rfl⟩
      simp [reportOf]
  | false =>
      simp only [Bool.or_eq_false_iff] at pending
      obtain ⟨⟨excess, under⟩, deviation⟩ := pending
      simp only [excess, under, deviation, Bool.or_self, Bool.false_eq_true, if_false, returns_widen,
        storeOutput] at branch ⊢
      obtain ⟨_, _, stored, _, store, done, rfl⟩ := returns_bind.mp branch
      obtain ⟨rfl, rfl, rfl⟩ := returns_pure.mp done
      have enough : order.plannedQuantity ≤ actual := by
        simp only [underproduced, decide_eq_false_iff_not] at under
        omega
      rcases returns_whenever.mp store with ⟨positive, written⟩ | ⟨nothing, rfl, rfl⟩
      · obtain ⟨rfl, warehouseId, takes, thawed, batches, reports, lines⟩ :=
          storeBatch_returns written
        have orders := written.unwritten executionOrders (by decide)
        have approvals := written.unwritten approvalRequests (by decide)
        refine ⟨false, ⟨active, nonneg, fun _ => enough, by simp [excess, under], row, by simpa using orders, ?_⟩, by simp⟩
        refine Stored.stored positive (by simpa [ActiveWarehouse] using takes)
          (by simpa [frozen] using thawed) ?_ (by simpa using batches)
          (by simpa using lines) (by simpa using approvals)
        simp only [Store.put_same, Store.put_other, ne_eq, reduceCtorEq, not_false_eq_true,
          Table.insert_modify] at reports ⊢
        rw [reports]
        simp [reportOf]
      · refine ⟨false, ⟨active, nonneg, fun _ => enough, by simp [excess, under], row, by simp, ?_⟩, by simp⟩
        refine Stored.empty (by omega) ?_ (by simp) (by simp) (by simp)
        simp [reportOf]

theorem Completed.moves {id : Nat} {order : ExecutionOrder} {sku : String} {actual : Int}
    {deviates pending : Bool}
    (completed : Completed command id order sku actual deviates pending db db')
    (reservations : db' inventoryReservations = db inventoryReservations) :
    ∃ moves, Moves (stockOf db) moves (stockOf db') ∧ ∀ move ∈ moves, ∃ reportId warehouseId,
      move = .intake (outputBatch command reportId order sku warehouseId actual) ∧ 0 < actual ∧
        ActiveWarehouse db warehouseId := by
  have still : db' inventoryBatches = db inventoryBatches → stockOf db' = stockOf db := by
    intro batches
    simp [stockOf, batches, reservations]
  cases completed.stored with
  | asked _ _ batches _ _ => exact ⟨[], still batches ▸ Run.done, by simp⟩
  | empty _ _ batches _ _ => exact ⟨[], still batches ▸ Run.done, by simp⟩
  | @stored warehouseId positive active _ _ batches _ _ =>
      have moved : Moved (stockOf db) (.intake (outputBatch command (db productionReports).nextId
          order sku warehouseId actual)) (stockOf db') := by
        simp only [stockOf, batches, reservations]
        exact Moved.intake rfl
      refine ⟨_, Run.single moved, ?_⟩
      intro move member
      exact ⟨_, _, List.mem_singleton.mp member, positive, active⟩

/-! ## Transitions -/

/-- Nothing but versions differs. -/
def SameRows (db mid : Database) : Prop :=
  ∀ t, t ≠ resourceVersions → mid t = db t

theorem sameRows_put (db : Database) (versions : Table ResourceVersion) :
    SameRows db (db.put resourceVersions versions) :=
  fun _ other => Store.put_other _ _ other

theorem SameRows.stock {mid : Database} (same : SameRows db mid) : stockOf mid = stockOf db := by
  simp only [stockOf, same inventoryBatches (by decide), same inventoryReservations (by decide)]

theorem SameRows.frozen {mid : Database} (same : SameRows db mid) (warehouseId : Nat)
    (sku : String) : frozen mid warehouseId sku = frozen db warehouseId sku :=
  frozen_congr (same _ (by decide)) (same _ (by decide)) _ _

theorem SameRows.pool {mid : Database} (same : SameRows db mid) (orderId : Nat)
    (wanted : Option String) :
    readReservationPool mid orderId wanted = readReservationPool db orderId wanted := by
  simp only [readReservationPool, same inventoryReservations (by decide),
    same inventoryBatches (by decide)]

/-- What a transition of an execution order did. Versions aside, the reports
of materials start where the command does. -/
inductive Transitioned (command : CommandContext) (id : Nat) (order : ExecutionOrder)
    (sku : String) (db db' : Database) : ProductionAction → List DomainEvent → Prop
  | released {released : Int} {moves : List Move} {version : Nat}
      (running : order.status.running = true) (positive : 0 < released)
      (thawed : ∀ row ∈ readReservationPool db id none, frozen db row.warehouseId row.sku = false)
      (run : Moves (stockOf db) moves (stockOf db'))
      (onPool : ∀ move ∈ moves, OnPool id (readReservationPool db id none) move)
      (sum : (moves.map taken).sum = released)
      (kept : ∀ t, t ∉ [resourceVersions, inventoryReservations, inventoryBatches,
        inventoryMovements] → db' t = db t) :
      Transitioned command id order sku db db' .releaseMaterials
        [⟨.productionReservationReleased, .executionOrder, id, some (toString version)⟩]
  | started (planned : order.status = .planned)
      (orders : db' executionOrders =
        (db executionOrders).modify id fun row => { row with status := .inProduction })
      (kept : ∀ t, t ∉ [resourceVersions, executionOrders] → db' t = db t) :
      Transitioned command id order sku db db' .start
        [⟨.productionOrderStarted, .executionOrder, id, none⟩]
  | reported {lines : List MaterialReport} {start mid : Database} {moves : List Move}
      {version : Nat}
      (begins : SameRows db start) (reported : ReportedAll id lines moves start mid)
      (ends : SameRows mid db') :
      Transitioned command id order sku db db' (.materials lines)
        [⟨.productionMaterialsReported, .executionOrder, id, some (toString version)⟩]
  | completed {lines : List MaterialReport} {start mid : Database} {moves : List Move}
      {actual : Int} {deviates pending : Bool}
      (begins : SameRows db start) (reported : ReportedAll id lines moves start mid)
      (completed : Completed command id order sku actual deviates pending mid db')
      (reservations : db' inventoryReservations = mid inventoryReservations)
      (deviation : deviates = lines.any (deviating start)) :
      Transitioned command id order sku db db' (.complete actual lines)
        [⟨if pending then .productionVarianceRequested else .productionOrderCompleted,
          .executionOrder, id, none⟩]

theorem transitionProductionOrder_returns {body : TransitionProductionOrder}
    (returns : (transitionProductionOrder command body).Returns db reply sent db') :
    ∃ order item, (db executionOrders).find? body.id = some order ∧
      (db orderItems).find? order.orderItemId = some item ∧
      Transitioned command body.id order item.sku db db' body.action sent := by
  simp only [transitionProductionOrder, returns_bind_requireRole, returns_bind_identifier,
    returns_bind_query, returns_bind_orThrow, returns_bind_refuseIf, returns_bind_lockVersion]
    at returns
  obtain ⟨-, -, ⟨order, sku⟩, found, -, version, -, -, returns⟩ := returns
  obtain ⟨row, foundOrder, joined⟩ := Option.bind_eq_some_iff.mp found
  obtain ⟨item, foundItem, same⟩ := Option.map_eq_some_iff.mp joined
  cases same
  refine ⟨order, item, foundOrder, foundItem, ?_⟩
  have begins := sameRows_put db
    (lockedVersions (db resourceVersions) "execution_order" body.id)
  generalize db.put resourceVersions _ = start at begins returns
  cases action : body.action with
  | releaseMaterials =>
      simp only [action, returns_bind_refuseIf, returns_bind_widen, returns_bind_bumpVersion,
        returns_bind_domainEvent, returns_pure] at returns
      obtain ⟨running, released, _, mid, _, frees, ⟨-, _, ⟨-, rfl, rfl⟩, rfl⟩, rfl⟩ := returns
      obtain ⟨rfl, positive, thawed, moves, run, onPool, sum⟩ :=
        releaseReservedMaterials_returns frees
      rw [begins.stock] at run
      rw [begins.pool] at thawed onPool
      refine Transitioned.released (by simpa using running) positive ?_ ?_ onPool sum ?_
      · intro row member
        rw [← begins.frozen]
        exact thawed row member
      · rw [(sameRows_put mid _).stock]
        exact run
      · intro t outside
        simp only [List.mem_cons, not_or] at outside
        rw [Store.put_other _ _ outside.1, frees.unwritten t (by simp [outside]),
          begins t outside.1]
  | start =>
      simp only [action, returns_bind_updateRow, returns_bind_bumpVersion,
        returns_bind_domainEvent, returns_pure, beq_iff_eq] at returns
      obtain ⟨⟨row, foundRow, planned⟩, -, _, ⟨-, rfl, rfl⟩, rfl⟩ := returns
      have orders := begins executionOrders (by decide)
      rw [orders, foundOrder] at foundRow
      cases foundRow
      refine Transitioned.started planned ?_ ?_
      · simp [orders]
      · intro t outside
        simp only [List.mem_cons, List.not_mem_nil, or_false, not_or] at outside
        rw [Store.put_other _ _ outside.1, Store.put_other _ _ outside.2, begins t outside.1]
  | materials lines =>
      simp only [action, returns_bind_widen, returns_bind_bumpVersion,
        returns_bind_domainEvent, returns_pure] at returns
      obtain ⟨deviates, _, mid, _, reports, ⟨-, _, ⟨-, rfl, rfl⟩, rfl⟩, rfl⟩ := returns
      obtain ⟨rfl, -, moves, reported⟩ := updateMaterials_returns reports
      exact Transitioned.reported begins reported (sameRows_put _ _)
  | complete actual lines =>
      simp only [action, returns_bind_widen, returns_widen] at returns
      obtain ⟨deviates, _, mid, _, reports, completes, rfl⟩ := returns
      obtain ⟨rfl, deviation, moves, reported⟩ := updateMaterials_returns reports
      obtain ⟨pending, completed, rfl⟩ := completeOrder_returns completes
      exact Transitioned.completed begins reported completed (completes.unwritten _ (by decide))
        deviation

end SupplyChain.ProductionOrders
