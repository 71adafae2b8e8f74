import SupplyChain.Stock

/-!
The production commands: the creation of an execution order with its material
lines, the start, the report of materials, the release of reserved materials
and the completion. Materials are consumed from the active reservations of the
order, reservation by reservation and batch by batch.
-/

namespace SupplyChain.ProductionOrders

open Relational Transaction TableName

def deviationBps (actual expected : Int) : Int :=
  if expected ≤ 0 then (if actual = expected then 0 else 10000)
  else roundDiv (((actual - expected).natAbs : Int) * 10000) expected

/-! ## The pool of active reservations -/

/-- A reservation of the pool joined with its batch. -/
structure PoolRow where
  id : Nat
  batchId : Nat
  reservedQuantity : Int
  priority : Int
  warehouseId : Nat
  lockedQuantity : Int
  sku : String

/-- `ORDER BY ir.priority DESC, ir.id ASC`. -/
def poolBefore (a b : PoolRow) : Prop :=
  ((compare b.priority a.priority).then (compare a.id b.id)).isLE = true

instance : DecidableRel poolBefore := fun _ _ => inferInstanceAs (Decidable (_ = true))

def readReservationPool (db : Database) (orderId : Nat) (componentSku : Option String) :
    List PoolRow :=
  (((db inventoryReservations).select fun _ reservation =>
    reservation.entityType == .productionOrder && reservation.entityId == some orderId &&
      reservation.status == .active).filterMap fun r =>
    ((db inventoryBatches).find? r.2.batchId).bind fun batch =>
      if componentSku.all (fun sku => batch.sku == sku) then
        some { id := r.1, batchId := r.2.batchId, reservedQuantity := r.2.reservedQuantity
               priority := r.2.priority, warehouseId := batch.warehouseId
               lockedQuantity := batch.lockedQuantity, sku := batch.sku }
      else none).insertionSort poolBefore

variable {writes : List TableName}

/-- Refuses when the warehouse and sku of some row of the pool are frozen. -/
def lockFreezeForPool [Writes resourceVersions writes] (pool : List PoolRow) : Tx writes Unit :=
  forEach (fun row => do
    let frozen ← freezeExists row.warehouseId row.sku
    refuseIf (frozen = true) (conflict "Inventory is frozen by an active stocktake")) pool

def lockActiveReservations [Writes resourceVersions writes] (orderId : Nat)
    (componentSku : Option String) : Tx writes (List PoolRow) := do
  let pool ← query fun db => readReservationPool db orderId componentSku
  lockFreezeForPool pool
  query fun db => readReservationPool db orderId componentSku

def consumeReservation (command : CommandContext) (reservation : PoolRow) (take : Int) :
    Tx [inventoryReservations, inventoryBatches, inventoryMovements] Unit := do
  -- the CASE of the statement sees the reserved quantity after the deduction
  updateRow inventoryReservations reservation.id
    (fun row => row.status == .active && decide (take ≤ row.reservedQuantity))
    (fun row => { row with
      reservedQuantity := row.reservedQuantity - take
      status := if row.reservedQuantity - take = 0 then .consumed else .active })
    (versionConflict "Reservation changed concurrently")
  updateRow inventoryBatches reservation.batchId (fun row => decide (take ≤ row.lockedQuantity))
    (fun row => { row with lockedQuantity := row.lockedQuantity - take })
    (versionConflict "Inventory changed concurrently")
  let draw ← query fun db => (db inventoryMovements).nextId
  insertMovement reservation.warehouseId reservation.sku "production_consumption" (-take)
    ("production_consumption:" ++ command.randomUUID draw)

/-- The loop of `consumeReservedInventory`; it returns what is left. -/
def consumeFrom (command : CommandContext) :
    List PoolRow → Int → Tx [inventoryReservations, inventoryBatches, inventoryMovements] Int
  | [], remaining => return remaining
  | reservation :: rest, remaining =>
      if remaining = 0 then return 0
      else if reservation.reservedQuantity ≤ 0 then consumeFrom command rest remaining
      else do
        consumeReservation command reservation (min remaining reservation.reservedQuantity)
        consumeFrom command rest (remaining - min remaining reservation.reservedQuantity)

def consumeReservedInventory (command : CommandContext) (reservations : List PoolRow)
    (quantity : Int) : Tx [inventoryReservations, inventoryBatches, inventoryMovements] Unit :=
  if quantity ≤ 0 then return ()
  else do
    let remaining ← consumeFrom command reservations quantity
    refuseIf (remaining ≠ 0) (conflict "Insufficient reserved inventory")

def releaseReservation (command : CommandContext) (reservation : PoolRow) (remaining : Int) :
    Tx [inventoryReservations, inventoryBatches, inventoryMovements] Unit := do
  updateRow inventoryReservations reservation.id
    (fun row => row.status == .active && row.reservedQuantity == remaining)
    (fun row => { row with reservedQuantity := 0, status := .released })
    (versionConflict "Reservation changed concurrently")
  updateRow inventoryBatches reservation.batchId
    (fun row => decide (remaining ≤ row.lockedQuantity))
    (fun row => { row with
      lockedQuantity := row.lockedQuantity - remaining
      availableQuantity := row.availableQuantity + remaining })
    (versionConflict "Inventory changed concurrently")
  let draw ← query fun db => (db inventoryMovements).nextId
  insertMovement reservation.warehouseId reservation.sku "production_release" remaining
    ("production_release:" ++ command.randomUUID draw)

/-- The loop of `releaseReservedMaterials`; it returns what it released. -/
def releaseAll (command : CommandContext) :
    List PoolRow → Tx [inventoryReservations, inventoryBatches, inventoryMovements] Int
  | [] => return 0
  | reservation :: rest =>
      if reservation.reservedQuantity ≤ 0 then releaseAll command rest
      else do
        releaseReservation command reservation reservation.reservedQuantity
        let released ← releaseAll command rest
        return reservation.reservedQuantity + released

def releaseReservedMaterials (command : CommandContext) (orderId : Nat) :
    Tx [resourceVersions, inventoryReservations, inventoryBatches, inventoryMovements] Int := do
  let reservations ← lockActiveReservations orderId none
  refuseIf (reservations = []) (conflict "No active reservations to release")
  let released ← (releaseAll command reservations).widen
  refuseIf (released ≤ 0) (conflict "No positive reserved quantity to release")
  return released

/-! ## Creation -/

structure CreateProductionOrder where
  orderItemId : Nat
  factoryId : Nat
  bomId : Nat
  plannedQuantity : Int
  plannedStartDate : String
  plannedFinishDate : String

/-- The plan items allocated to an order item, with the allocated quantity. -/
def planAllocations (db : Database) (orderItemId : Nat) : List (Int × PurchasePlanItem) :=
  ((db purchasePlanOrderLinks).select fun _ link => link.orderItemId == orderItemId).filterMap
    fun r => ((db purchasePlanItems).find? r.2.purchasePlanItemId).map
      fun item => (r.2.allocatedQuantity, item)

def insertMaterialLine (orderId : Nat) (plannedQuantity : Int) (component : Nat × BomComponent) :
    Tx [productionMaterialLines] Unit :=
  insertRow productionMaterialLines
    { executionOrderId := orderId, bomComponentId := component.1
      theoreticalQuantity := component.2.quantityPerFinished * plannedQuantity
      reservedQuantity := component.2.quantityPerFinished * plannedQuantity
      issuedQuantity := 0, consumedQuantity := 0, lossQuantity := 0
      deviationStatus := .withinTolerance }

def createProductionOrder (command : CommandContext) (body : CreateProductionOrder) :
    Tx [resourceVersions, executionOrders, productionMaterialLines] JsonValue := do
  requireRole command.access [.admin, .supplyChain, .factory]
  let orderItemId ← identifier body.orderItemId "orderItemId"
  let factoryId ← identifier body.factoryId "factoryId"
  refuseIf (outsideFactory command.access (some factoryId)) (forbidden "Forbidden factory binding")
  let bomId ← identifier body.bomId "bomId"
  let plannedQuantity ← integer body.plannedQuantity "plannedQuantity"
  let plannedStartDate ← string body.plannedStartDate "plannedStartDate" 100
  let plannedFinishDate ← string body.plannedFinishDate "plannedFinishDate" 100
  refuseIf (plannedFinishDate < plannedStartDate) (badRequest "Invalid production date range")
  let found ← query fun db => ((db orderItems).find? orderItemId).bind fun item =>
    ((db purchaseOrders).find? item.purchaseOrderId).map fun order => (item, order)
  refuseIf (found.all (fun row => row.1.itemType != some "finished") = true)
    (badRequest "Production order requires a finished-good order item")
  let (item, order) ← orThrow found
    (badRequest "Production order requires a finished-good order item")
  let allocations ← query fun db => planAllocations db orderItemId
  refuseIf (allocations = [] ∨ allocations.any (fun row =>
      row.2.factoryId != factoryId || row.2.sku != item.sku) = true)
    (forbidden "Production factory is not the authoritative purchase-plan allocation")
  let allocatedQuantity := (allocations.map (·.1)).sum
  refuseIf (¬ isSafeInteger allocatedQuantity ∨ allocatedQuantity ≤ 0)
    (conflict "Purchase-plan allocation is invalid")
  let bomRow ← select productBoms bomId
  let bom ← orThrow bomRow (badRequest "BOM is not an approved active version for this SKU")
  refuseIf (bom.finishedSku ≠ item.sku ∨ bom.active = false ∨ bom.approvalStatus ≠ .approved)
    (badRequest "BOM is not an approved active version for this SKU")
  refuseIf (order.orderDate < bom.effectiveFrom ∨
      bom.effectiveTo.any (fun last => decide (last < order.orderDate)) = true)
    (badRequest "BOM was not effective on the purchase-order date")
  let cumulativePlanned ← query fun db => (db executionOrders).weigh fun _ row =>
    if row.orderItemId = orderItemId then row.plannedQuantity else 0
  refuseIf (allocatedQuantity < cumulativePlanned + plannedQuantity)
    (conflict "Production plan exceeds authoritative allocated quantity")
  let executionNo := "MO-" ++ command.randomUUID 0
  let id ← insertUnique executionOrders (fun row => row.executionNo == executionNo)
    { executionNo, orderItemId, factoryId, bomId, plannedQuantity, completedQuantity := 0
      status := .planned }
    (.duplicateKey executionOrders)
  let components ← query fun db => (db bomComponents).select fun _ row => row.bomId == bomId
  (forEach (insertMaterialLine id plannedQuantity) components).widen
  let _ ← lockVersion "execution_order" id
  domainEvent .productionOrderCreated .executionOrder id
  return .object [("order", .object [("id", .number id), ("executionNo", .text executionNo),
    ("orderItemId", .number orderItemId), ("factoryId", .number factoryId),
    ("bomId", .number bomId), ("plannedQuantity", .number plannedQuantity),
    ("status", .text "planned"), ("version", .number 1)])]

/-! ## Materials -/

structure MaterialReport where
  id : Nat
  issuedQuantity : Int
  consumedQuantity : Int
  lossQuantity : Int

def exceedsTolerance (theoretical issued consumed loss : Int) (component : BomComponent) : Bool :=
  decide (component.issueToleranceBps < deviationBps issued theoretical) ||
    decide (component.consumptionToleranceBps < deviationBps consumed theoretical) ||
    decide (component.lossToleranceBps < deviationBps loss theoretical)

def updateMaterial (command : CommandContext) (orderId : Nat) (input : MaterialReport) :
    Tx [resourceVersions, productionMaterialLines, inventoryReservations, inventoryBatches,
      inventoryMovements] Bool := do
  let id ← identifier input.id "material.id"
  let issued ← integer input.issuedQuantity "issuedQuantity" 0
  let consumed ← integer input.consumedQuantity "consumedQuantity" 0
  let loss ← integer input.lossQuantity "lossQuantity" 0
  refuseIf (issued < consumed + loss)
    (conflict "Material consumption and loss exceed issued quantity")
  let found ← query fun db => ((db productionMaterialLines).find? id).bind fun line =>
    if line.executionOrderId = orderId then
      ((db bomComponents).find? line.bomComponentId).map fun component => (line, component)
    else none
  let (line, component) ← orThrow found (notFound "Production material line not found")
  let deltaConsumed := consumed - line.consumedQuantity
  let deltaLoss := loss - line.lossQuantity
  refuseIf (issued - line.issuedQuantity < 0 ∨ deltaConsumed < 0 ∨ deltaLoss < 0)
    (conflict "Material quantities cannot be decreased")
  let reservations ← lockActiveReservations orderId (some component.componentSku)
  let activeReserved := (reservations.map (·.reservedQuantity)).sum
  refuseIf (line.consumedQuantity + line.lossQuantity + activeReserved < issued)
    (conflict "Issued quantity exceeds real inventory reservations")
  let exceeds := exceedsTolerance line.theoreticalQuantity issued consumed loss component
  updateRow productionMaterialLines id (fun row => row.executionOrderId == orderId)
    (fun row => { row with
      issuedQuantity := issued, consumedQuantity := consumed, lossQuantity := loss
      deviationStatus := if exceeds then .pendingApproval else .withinTolerance })
    (versionConflict "Material line changed concurrently")
  (consumeReservedInventory command reservations (deltaConsumed + deltaLoss)).widen
  return exceeds

/-- The loop over the reported lines; it returns whether some line deviates. -/
def updateMaterials (command : CommandContext) (orderId : Nat) (raw : List MaterialReport) :
    Tx [resourceVersions, productionMaterialLines, inventoryReservations, inventoryBatches,
      inventoryMovements] Bool := do
  let deviations ← collect (updateMaterial command orderId) raw
  return deviations.any id

/-! ## Transitions -/

inductive ProductionAction
  | start
  | materials (lines : List MaterialReport)
  | complete (actualFinishedQuantity : Int) (lines : List MaterialReport)
  | releaseMaterials

structure TransitionProductionOrder where
  id : Nat
  action : ProductionAction

/-- The active warehouse that takes the output of a factory: its factory
warehouses before the others, and the lowest key first. -/
def productionWarehouse (db : Database) (factoryId : Nat) : Option Nat :=
  let active := (db warehouses).select fun _ row =>
    row.factoryId == some factoryId && row.status == .active
  ((active.filter fun r => r.2.type == .factory) ++
    active.filter fun r => r.2.type != .factory).head?.map (·.1)

def requestVariance (command : CommandContext) (reportId : Nat) (payload : JsonValue) :
    Tx [approvalRequests] (Option Nat) := do
  let approvalId ← insertApproval command ("APR-PROD-" ++ command.randomUUID 0)
    .productionVariance "production_report" reportId payload
  return some approvalId

def storeBatch (command : CommandContext) (id reportId : Nat) (order : ExecutionOrder)
    (sku : String) (actual : Int) :
    Tx [resourceVersions, inventoryBatches, productionReports, inventoryMovements,
      productionMaterialLines] Unit := do
  let found ← query fun db => productionWarehouse db order.factoryId
  let warehouseId ← orThrow found (conflict "Factory has no active production warehouse")
  lockWarehouseFreeze warehouseId
  let frozen ← freezeExists warehouseId sku
  refuseIf (frozen = true) (conflict "Production warehouse is frozen by a stocktake")
  let batchId ← insertBatch
    { batchNo := "PROD-" ++ order.executionNo ++ "-" ++ toString reportId ++ "-C", warehouseId, sku
      productionDate := some command.today, inboundDate := command.today
      pendingInspectionQuantity := actual }
  updateWhere productionReports (fun key _ => key == reportId)
    fun row => { row with batchId := some batchId }
  insertMovement warehouseId sku "inbound_pending_inspection" actual
    ("production_report:" ++ toString reportId ++ ":company")
  updateWhere productionMaterialLines (fun _ row => row.executionOrderId == id)
    fun row => { row with reservedQuantity := 0 }

/-- The output of a completion within tolerance enters the stock; it needs no
approval. -/
def storeOutput (command : CommandContext) (id reportId : Nat) (order : ExecutionOrder)
    (sku : String) (actual : Int) :
    Tx [resourceVersions, inventoryBatches, productionReports, inventoryMovements,
      productionMaterialLines] (Option Nat) := do
  whenever (0 < actual) (storeBatch command id reportId order sku actual)
  return none

def completeOrder (command : CommandContext) (id : Nat) (order : ExecutionOrder) (sku : String)
    (actualFinishedQuantity : Int) (materialDeviation : Bool) (version : Nat) :
    Tx [resourceVersions, executionOrders, inventoryBatches, productionReports,
      inventoryMovements, productionMaterialLines, approvalRequests] JsonValue := do
  refuseIf (order.status.running = false)
    (conflict "Production order cannot be completed from its current state")
  let actual ← integer actualFinishedQuantity "actualFinishedQuantity" 0
  let planned := order.plannedQuantity
  let skuRow ← query fun db => (db skus).first? fun _ row => row.code == sku
  let tolerance := skuRow.elim 0 fun r => r.2.overproductionToleranceBps
  let variance := actual - planned
  let rate := deviationBps actual planned
  let overproduced := decide (0 < variance ∧ tolerance < rate)
  let underproduced := decide (variance < 0)
  let pending := overproduced || underproduced || materialDeviation
  let reportId ← insertInto productionReports
    { executionOrderId := id, actualFinishedQuantity := actual, varianceQuantity := variance
      varianceRateBps := rate
      result := if overproduced then .overproductionQuarantined
        else if underproduced then .underproductionPending else .withinTolerance
      companyInventoryQuantity := if pending then 0 else actual, factoryOwnedQuantity := 0
      batchId := none }
  let next : ExecutionStatus := if pending then .variancePending else .completed
  updateRow executionOrders id (fun row => row.status.running)
    (fun row => { row with status := next, completedQuantity := actual })
    (versionConflict "Production order changed concurrently")
  let approvalId ← (if pending then
      (requestVariance command reportId
        (.object [("executionOrderId", .number id), ("overproduction", .boolean overproduced),
          ("underproduction", .boolean underproduced),
          ("materialDeviation", .boolean materialDeviation)])).widen
    else (storeOutput command id reportId order sku actual).widen)
  let nextVersion ← bumpVersion "execution_order" id version
  domainEvent (if pending then .productionVarianceRequested else .productionOrderCompleted)
    .executionOrder id
  return .object ([("success", .boolean true), ("id", .number id), ("reportId", .number reportId),
    ("status", .text next.name)] ++
    (approvalId.elim [] fun (key : Nat) => [("approvalId", JsonValue.number key)]) ++
    [("version", .number nextVersion)])

def transitionProductionOrder (command : CommandContext) (body : TransitionProductionOrder) :
    Tx [resourceVersions, executionOrders, inventoryBatches, inventoryReservations,
      productionReports, inventoryMovements, productionMaterialLines, approvalRequests]
      JsonValue := do
  requireRole command.access [.admin, .supplyChain, .factory]
  let id ← identifier body.id "id"
  let found ← query fun db => ((db executionOrders).find? id).bind fun order =>
    ((db orderItems).find? order.orderItemId).map fun item => (order, item.sku)
  let (order, sku) ← orThrow found (notFound "Production order not found")
  refuseIf (outsideFactory command.access (some order.factoryId))
    (forbidden "Forbidden factory binding")
  let version ← lockVersion "execution_order" id
  match body.action with
  | .releaseMaterials => do
      refuseIf (order.status.running = false)
        (conflict "Production order cannot release materials from its current state")
      let releasedQuantity ← (releaseReservedMaterials command id).widen
      let nextVersion ← bumpVersion "execution_order" id version
      domainEvent .productionReservationReleased .executionOrder id (some (toString nextVersion))
      return .object [("success", .boolean true), ("id", .number id),
        ("releasedQuantity", .number releasedQuantity), ("version", .number nextVersion)]
  | .start => do
      updateRow executionOrders id (fun row => row.status == .planned)
        (fun row => { row with status := .inProduction })
        (versionConflict "Production order cannot be started")
      let nextVersion ← bumpVersion "execution_order" id version
      domainEvent .productionOrderStarted .executionOrder id
      return .object [("success", .boolean true), ("id", .number id),
        ("status", .text "in_production"), ("version", .number nextVersion)]
  | .materials lines => do
      let materialDeviation ← (updateMaterials command id lines).widen
      let nextVersion ← bumpVersion "execution_order" id version
      domainEvent .productionMaterialsReported .executionOrder id (some (toString nextVersion))
      return .object [("success", .boolean true), ("id", .number id),
        ("status", .text order.status.name), ("materialDeviation", .boolean materialDeviation),
        ("version", .number nextVersion)]
  | .complete actualFinishedQuantity lines => do
      let materialDeviation ← (updateMaterials command id lines).widen
      (completeOrder command id order sku actualFinishedQuantity materialDeviation version).widen

end SupplyChain.ProductionOrders
