import SupplyChain.Stock

/-!
The stocktake commands: opening a stocktake with its round-0 snapshot,
submitting counts, and finishing a counting round.
-/

namespace SupplyChain.Stocktakes

open Relational Transaction TableName

structure OpenStocktake where
  warehouseId : Nat
  scope : StocktakeScope
  dueDate : String
  assignedFactoryId : Option Nat := none
  skus : Option (List String) := none
  batchIds : Option (List Nat) := none

/-- A row of the unique key `(stocktake_id, sku, batch_id, count_round)`; an
unbound target, whose `batch_id` is NULL, clashes with nothing. -/
def sameTarget (stocktakeId : Nat) (batchId : Option Nat) (sku : String) (round : Nat)
    (count : StocktakeCount) : Bool :=
  count.stocktakeId == stocktakeId && count.sku == sku && count.countRound == round &&
    batchId.isSome && count.batchId == batchId

def sampleFilter {writes : List TableName} (body : OpenStocktake) :
    Tx writes (Nat → InventoryBatch → Bool) :=
  match body.scope with
  | .fullWarehouse => return fun _ _ => true
  | .skuSample => do
      let skus ← collect (fun value => string value "sku" 191) (body.skus.getD [])
      refuseIf (skus = []) (badRequest "SKU sample is empty")
      return fun _ batch => skus.contains batch.sku
  | .batch => do
      let batchIds ← collect (fun value => identifier value "batchId") (body.batchIds.getD [])
      refuseIf (batchIds = []) (badRequest "Batch sample is empty")
      return fun id _ => batchIds.contains id

/-- The snapshot row of one batch. -/
def snapshotBatch (countedBy stocktakeId : Nat) (target : Nat × InventoryBatch) :
    Tx [stocktakeCounts] Unit := do
  let batch := target.2
  let _ ← insertUnique stocktakeCounts (sameTarget stocktakeId (some target.1) batch.sku 0)
    { stocktakeId, batchId := some target.1, sku := batch.sku, countRound := 0,
      availableQuantity := batch.availableQuantity, lockedQuantity := batch.lockedQuantity,
      defectiveQuantity := batch.defectiveQuantity,
      pendingInspectionQuantity := batch.pendingInspectionQuantity,
      totalQuantity := batch.availableQuantity + batch.lockedQuantity +
        batch.defectiveQuantity + batch.pendingInspectionQuantity,
      countedBy }
    (.duplicateKey stocktakeCounts)
  return ()

def openStocktake (command : CommandContext) (body : OpenStocktake) :
    Tx [resourceVersions, stocktakes, stocktakeCounts] JsonValue := do
  requireRole command.access [.admin, .supplyChain]
  let warehouseId ← identifier body.warehouseId "warehouseId"
  let dueDate ← string body.dueDate "dueDate" 100
  let assignedFactoryId ← optionalInteger body.assignedFactoryId "assignedFactoryId"
  let _ ← requireWarehouseScope command.access warehouseId
  lockWarehouseFreeze warehouseId
  let active ← query fun db => (db stocktakes).any fun _ task =>
    task.warehouseId == warehouseId && task.status.open
  refuseIf (active = true) (conflict "Warehouse already has an active stocktake")
  let filter ← sampleFilter body
  let batches ← query fun db => (db inventoryBatches).select fun id batch =>
    batch.warehouseId == warehouseId && filter id batch
  refuseIf (batches = []) (conflict "Stocktake has no inventory targets")
  let stocktakeNo := "ST-" ++ command.randomUUID 0
  let stocktakeId ← insertUnique stocktakes (fun row => row.stocktakeNo == stocktakeNo)
    { stocktakeNo, warehouseId, scope := body.scope, status := .firstCount,
      createdBy := command.access.userId, assignedFactoryId }
    (.duplicateKey stocktakes)
  (forEach (snapshotBatch command.access.userId stocktakeId) batches).widen
  let _ ← lockVersion "stocktake" stocktakeId
  domainEvent .stocktakeOpened .stocktake stocktakeId
  return .object [("stocktake", .object [("id", .number stocktakeId),
    ("stocktakeNo", .text stocktakeNo), ("warehouseId", .number warehouseId),
    ("scope", .text (body.scope.name)), ("dueDate", .text dueDate),
    ("status", .text "first_count"), ("version", .number 1)])]

structure SubmitCount where
  batchId : Option Nat := none
  sku : String
  availableQuantity : Int
  lockedQuantity : Int
  defectiveQuantity : Int
  pendingInspectionQuantity : Int

structure FinishRound where
  estimatedProductionDate : Option String := none
  estimatedExpiryDate : Option String := none

inductive StocktakeAction
  | submitCount (count : SubmitCount)
  | finishRound (estimates : FinishRound)

structure TransitionStocktake where
  id : Nat
  action : StocktakeAction

/-- The round a countable stocktake is in. -/
def roundOf (task : Stocktake) : Nat := if task.status = .recount then 2 else 1

/-- The row that a query on stocktake, round, sku and batch finds; a missing
batch matches a missing batch. -/
def countAt (counts : Table StocktakeCount) (stocktakeId round : Nat) (sku : String)
    (batchId : Option Nat) : Option (Nat × StocktakeCount) :=
  counts.first? fun _ count =>
    count.stocktakeId == stocktakeId && count.countRound == round && count.sku == sku &&
      count.batchId == batchId

/-- Writes the count of a round: a new row, or in a recount the revision of a
row all of whose adjustments were rejected. -/
def recordCount (existing : Option (Nat × StocktakeCount)) (count : StocktakeCount) :
    Tx [stocktakeCounts] Unit :=
  match existing with
  | some (countId, _) => do
      let adjustments ← query fun db => (db stocktakeAdjustments).select fun _ adjustment =>
        adjustment.stocktakeCountId == countId
      refuseIf (count.countRound ≠ 2 ∨ adjustments = [] ∨
          adjustments.any (fun r => r.2.decision ≠ .rejected) = true)
        (conflict "This stocktake round was already submitted")
      updateRow stocktakeCounts countId (fun _ => true)
        (fun row => { row with
          availableQuantity := count.availableQuantity, lockedQuantity := count.lockedQuantity,
          defectiveQuantity := count.defectiveQuantity,
          pendingInspectionQuantity := count.pendingInspectionQuantity,
          totalQuantity := count.totalQuantity, countedBy := count.countedBy })
        (versionConflict "Stocktake count changed concurrently")
  | none => do
      let _ ← insertUnique stocktakeCounts
        (sameTarget count.stocktakeId count.batchId count.sku count.countRound) count
        (conflict "This stocktake round was already submitted")
      return ()

def submitCount (command : CommandContext) (id : Nat) (task : Stocktake) (version : Nat)
    (body : SubmitCount) : Tx [resourceVersions, stocktakeCounts] JsonValue := do
  refuseIf (task.status.countable = false) (conflict "Stocktake is not countable")
  let round := roundOf task
  let batchId ← optionalInteger body.batchId "batchId"
  let sku ← string body.sku "sku" 191
  let available ← integer body.availableQuantity "availableQuantity" 0
  let locked ← integer body.lockedQuantity "lockedQuantity" 0
  let defective ← integer body.defectiveQuantity "defectiveQuantity" 0
  let pending ← integer body.pendingInspectionQuantity "pendingInspectionQuantity" 0
  let snapshot ← query fun db => countAt (db stocktakeCounts) id 0 sku batchId
  refuseIf (snapshot.isNone = true) (forbidden "Count target is outside stocktake scope")
  let existing ← query fun db => countAt (db stocktakeCounts) id round sku batchId
  (recordCount existing
    { stocktakeId := id, batchId, sku, countRound := round, availableQuantity := available,
      lockedQuantity := locked, defectiveQuantity := defective,
      pendingInspectionQuantity := pending,
      totalQuantity := available + locked + defective + pending,
      countedBy := command.access.userId }).widen
  let nextVersion ← bumpVersion "stocktake" id version
  let target := match batchId with
    | some batch => toString batch
    | none => sku
  domainEvent .countSubmitted .stocktake id (some (toString round ++ ":" ++ target))
  return .object [("success", .boolean true), ("status", .text (task.status.name)),
    ("version", .number nextVersion)]

/-- A snapshot row joined with the counts of the round and of round 1. -/
structure RoundCount where
  snapshot : StocktakeCount
  counted : Option (Nat × StocktakeCount)
  round1 : Option (Nat × StocktakeCount)

def roundCounts (counts : Table StocktakeCount) (stocktakeId round : Nat) : List RoundCount :=
  (counts.select fun _ count => count.stocktakeId == stocktakeId && count.countRound == 0).map
    fun r =>
      { snapshot := r.2
        counted := countAt counts stocktakeId round r.2.sku r.2.batchId
        round1 := countAt counts stocktakeId 1 r.2.sku r.2.batchId }

structure Variance where
  countId : Nat
  batchId : Option Nat
  bucket : Bucket
  snapshotQuantity : Int
  countedQuantity : Int

def buckets : List Bucket := [.available, .locked, .defective, .pendingInspection]

/-- The buckets in which a counted row differs from its snapshot. -/
def variancesOf (row : RoundCount) : List Variance :=
  match row.counted with
  | none => []
  | some (countId, counted) =>
      (buckets.filter fun bucket =>
        row.snapshot.quantity bucket ≠ counted.quantity bucket).map
        fun bucket =>
          { countId, batchId := row.snapshot.batchId, bucket
            snapshotQuantity := row.snapshot.quantity bucket
            countedQuantity := counted.quantity bucket }

/-- The estimated date of an unbound target; an empty text stands for none. -/
def estimate {writes : List TableName} (batchId : Option Nat) (text : Option String) :
    Tx writes (Option String) :=
  match batchId with
  | some _ => return none
  | none => do
      let date ← optionalString text 100
      return if date = "" then none else some date

/-- One variance becomes a pending adjustment: a new one, or the revision of
one that was rejected. -/
def raiseAdjustment (id : Nat) (task : Stocktake) (estimates : FinishRound) (variance : Variance) :
    Tx [stocktakeAdjustments] Unit := do
  let prior ← query fun db => (db stocktakeAdjustments).first? fun _ adjustment =>
    adjustment.stocktakeId == id && adjustment.stocktakeCountId == variance.countId &&
      adjustment.bucket == variance.bucket
  match prior with
  | some (adjustmentId, adjustment) => do
      refuseIf (adjustment.decision ≠ .rejected) (conflict "Stocktake adjustment is already active")
      updateRow stocktakeAdjustments adjustmentId (fun row => row.decision == .rejected)
        (fun row => { row with
          varianceQuantity := variance.countedQuantity - variance.snapshotQuantity,
          snapshotQuantity := variance.snapshotQuantity,
          countedQuantity := variance.countedQuantity,
          revision := row.revision + 1, decision := .pending })
        (versionConflict "Rejected adjustment changed concurrently")
  | none => do
      let estimatedProductionDate ← estimate variance.batchId estimates.estimatedProductionDate
      let estimatedExpiryDate ← estimate variance.batchId estimates.estimatedExpiryDate
      insertRow stocktakeAdjustments
        { stocktakeId := id, stocktakeCountId := variance.countId, bucket := variance.bucket
          snapshotQuantity := variance.snapshotQuantity
          countedQuantity := variance.countedQuantity
          varianceQuantity := variance.countedQuantity - variance.snapshotQuantity
          revision := 1
          generatedBatchNo :=
            if variance.batchId = none then
              some ("STG-" ++ task.stocktakeNo ++ "-" ++ toString variance.countId)
            else none
          estimatedProductionDate
          estimatedExpiryDate
          decision := .pending }

/-- The round ends without approval: in the second count of the first round's
variances, or with the stocktake completed. -/
def closeRound (id : Nat) (task : Stocktake) (version : Nat) (next : StocktakeStatus)
    (event : EventType) : Tx [resourceVersions, stocktakes] JsonValue := do
  updateWhere stocktakes (fun key row => key == id && row.status == task.status)
    fun row => { row with status := next }
  let nextVersion ← bumpVersion "stocktake" id version
  domainEvent event .stocktake id
  return .object [("success", .boolean true), ("status", .text (next.name)),
    ("version", .number nextVersion)]

def submitApproval (command : CommandContext) (id : Nat) (task : Stocktake) (version : Nat)
    (estimates : FinishRound) (variances : List Variance) :
    Tx [resourceVersions, stocktakes, stocktakeAdjustments, approvalRequests] JsonValue := do
  (forEach (raiseAdjustment id task estimates) variances).widen
  let approvalNo := "APR-" ++ task.stocktakeNo ++ "-" ++ command.randomUUID 0
  let approvalId ← insertApproval command approvalNo .stocktakeVariance "stocktake" id
    (.object [("stocktakeId", .number id)])
  updateWhere stocktakes (fun key row => key == id && row.status == .recount)
    fun row => { row with status := .pendingApproval }
  let nextVersion ← bumpVersion "stocktake" id version
  domainEvent .varianceApprovalRequested .stocktake id
  return .object [("success", .boolean true), ("status", .text "pending_approval"),
    ("approvalId", .number approvalId), ("version", .number nextVersion)]

def finishRound (command : CommandContext) (id : Nat) (task : Stocktake) (version : Nat)
    (estimates : FinishRound) :
    Tx [resourceVersions, stocktakes, stocktakeAdjustments, approvalRequests] JsonValue := do
  requireRole command.access [.admin, .supplyChain]
  refuseIf (task.status.countable = false) (conflict "Stocktake cannot be finished")
  let round := roundOf task
  let counts ← query fun db => roundCounts (db stocktakeCounts) id round
  refuseIf (counts.any (fun row => row.counted.isNone) = true)
    (conflict "All stocktake targets must be counted")
  refuseIf (round = 2 ∧ counts.any (fun row =>
      row.counted.map (·.2.countedBy) == row.round1.map (·.2.countedBy)) = true)
    (conflict "Recount requires separation of duties")
  let variances := counts.flatMap variancesOf
  if round = 1 ∧ variances ≠ [] then
    (closeRound id task version .recount .stocktakeRecountRequired).widen
  else if variances = [] then
    (closeRound id task version .completed .stocktakeCompleted).widen
  else
    submitApproval command id task version estimates variances

def transitionStocktake (command : CommandContext) (body : TransitionStocktake) :
    Tx [resourceVersions, stocktakes, stocktakeCounts, stocktakeAdjustments, approvalRequests]
      JsonValue := do
  requireRole command.access [.admin, .supplyChain, .factory]
  let id ← identifier body.id "id"
  let found ← select stocktakes id
  let task ← orThrow found (notFound "Stocktake not found")
  lockWarehouseFreeze task.warehouseId
  let _ ← requireWarehouseScope command.access task.warehouseId
  refuseIf (internal command.access = false ∧ task.assignedFactoryId ≠ command.access.factoryId)
    (forbidden "Forbidden stocktake binding")
  let version ← lockVersion "stocktake" id
  match body.action with
  | .submitCount count => (submitCount command id task version count).widen
  | .finishRound estimates => (finishRound command id task version estimates).widen

end SupplyChain.Stocktakes
