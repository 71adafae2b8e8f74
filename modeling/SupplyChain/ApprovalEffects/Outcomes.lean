import SupplyChain.ApprovalEffects
import SupplyChain.Finance.Outcomes
import SupplyChain.ProductionOrders.Outcomes

/-!
What each approval effect did when it committed.
-/

namespace SupplyChain.ApprovalEffects

open Relational Transaction TableName

variable {command : CommandContext} {approval : ApprovalRequest} {decision : Decision}
  {db db' : Database} {reply : JsonValue} {sent : List DomainEvent} {writes : List TableName}

theorem parsedPayload_reads {payload result : JsonValue}
    (returns : (parsedPayload payload : Tx writes JsonValue).Returns db result sent db') :
    sent = [] ∧ db' = db := by
  cases payload <;> simp_all [parsedPayload]

theorem integerMember_returns {payload : JsonValue} {name : String} {value : Int}
    (returns : (integerMember payload name : Tx writes Int).Returns db value sent db') :
    1 ≤ value ∧ sent = [] ∧ db' = db := by
  unfold integerMember at returns
  split at returns
  · obtain ⟨⟨-, positive⟩, rfl, rfl, rfl⟩ := returns_integer.mp returns
    exact ⟨positive, rfl, rfl⟩
  · simp at returns

theorem userRoleChange_returns
    (returns : (userRoleChange command approval decision).Returns db reply sent db') :
    sent = [] := by
  rw [userRoleChange, returns_bind_of_reads parsedPayload_reads] at returns
  obtain ⟨payload, -, returns⟩ := returns
  simp only [returns_bind_updateRow, returns_pure] at returns
  exact returns.2.2.1

theorem warehouseTransfer_returns
    (returns : (warehouseTransfer approval decision).Returns db reply sent db') :
    (∃ transfer, (db inventoryTransfers).find? approval.entityId = some transfer ∧
        transfer.status = .pendingSupplyChain) ∧ sent = [] ∧
      db' = db.put inventoryTransfers ((db inventoryTransfers).modify approval.entityId fun row =>
        { row with status := if decision = .approved then .approved else .rejected }) := by
  simp only [warehouseTransfer, returns_bind_updateRow, returns_pure, beq_iff_eq] at returns
  obtain ⟨found, -, sends, same⟩ := returns
  exact ⟨found, sends, same⟩

theorem shipmentDeviation_returns
    (returns : (shipmentDeviation approval decision).Returns db reply sent db') :
    (∃ batch, (db deliveryBatches).find? approval.entityId = some batch ∧
        batch.status = .pendingSupplyChain) ∧ sent = [] ∧
      db' = db.put deliveryBatches ((db deliveryBatches).modify approval.entityId fun row =>
        { row with status := if decision = .approved then .approvedToShip
            else .deviationRejected }) := by
  simp only [shipmentDeviation, returns_bind_updateRow, returns_pure, beq_iff_eq] at returns
  obtain ⟨found, -, sends, same⟩ := returns
  exact ⟨found, sends, same⟩

theorem warehouseMerge_returns
    (returns : (warehouseMerge approval decision).Returns db reply sent db') : sent = [] := by
  rw [warehouseMerge, returns_bind_of_reads parsedPayload_reads] at returns
  obtain ⟨payload, -, returns⟩ := returns
  rw [returns_bind_of_reads fun member => (integerMember_returns member).2] at returns
  obtain ⟨source, -, returns⟩ := returns
  rw [returns_bind_of_reads fun member => (integerMember_returns member).2] at returns
  obtain ⟨target, -, returns⟩ := returns
  split at returns
  · exact (returns_pure.mp returns).2.1
  · simp only [returns_bind_query, returns_bind_refuseIf, returns_bind_updateWhere,
      returns_pure] at returns
    exact returns.2.2.2.1

/-! ## Stocktake variance -/

theorem applyAdjustment_returns {task : Stocktake} {stocktakeId : Nat} {row : AdjustmentRow}
    {u : Unit} (returns : (applyAdjustment task stocktakeId row).Returns db u sent db') :
    ∃ batchId batch, row.count.batchId = some batchId ∧
      (db inventoryBatches).find? batchId = some batch ∧
      batch.quantity row.adjustment.bucket = row.adjustment.snapshotQuantity ∧ sent = [] ∧
      db' inventoryBatches = (db inventoryBatches).modify batchId fun batch =>
        batch.withQuantity row.adjustment.bucket row.adjustment.countedQuantity := by
  simp only [applyAdjustment, returns_bind_orThrow, returns_bind_updateRow, returns_insertMovement,
    beq_iff_eq] at returns
  obtain ⟨batchId, bound, ⟨batch, found, current⟩, -, sends, rfl⟩ := returns
  exact ⟨batchId, batch, bound, found, current, sends, by simp⟩

theorem decideAdjustment_returns {task : Stocktake} {stocktakeId : Nat} {row : AdjustmentRow}
    {u : Unit} (returns : (decideAdjustment task stocktakeId decision row).Returns db u sent db') :
    sent = [] ∧
      db' stocktakeAdjustments = (db stocktakeAdjustments).update
        (fun key other => key == row.id && other.decision == .pending)
        (fun other => { other with decision := decision.status }) ∧
      ((decision ≠ .approved ∧ db' inventoryBatches = db inventoryBatches) ∨
        (decision = .approved ∧ ∃ batchId batch, row.count.batchId = some batchId ∧
          (db inventoryBatches).find? batchId = some batch ∧
          batch.quantity row.adjustment.bucket = row.adjustment.snapshotQuantity ∧
          db' inventoryBatches = (db inventoryBatches).modify batchId fun batch =>
            batch.withQuantity row.adjustment.bucket row.adjustment.countedQuantity)) := by
  simp only [decideAdjustment, returns_bind, returns_updateWhere] at returns
  obtain ⟨_, _, mid, _, adjust, ⟨rfl, rfl⟩, rfl⟩ := returns
  rcases returns_whenever.mp adjust with ⟨approved, applied⟩ | ⟨rejected, rfl, rfl⟩
  · obtain ⟨batchId, batch, bound, found, current, rfl, changed⟩ :=
      applyAdjustment_returns (returns_widen.mp applied)
    have kept : mid stocktakeAdjustments = db stocktakeAdjustments :=
      (returns_widen.mp applied).unwritten _ (by decide)
    refine ⟨rfl, by simp [kept], Or.inr ⟨approved, batchId, batch, bound, found, current, ?_⟩⟩
    simpa using changed
  · exact ⟨rfl, by simp, Or.inl ⟨rejected, by simp⟩⟩

theorem stocktakeVariance_returns
    (returns : (stocktakeVariance approval decision).Returns db reply sent db') :
    ∃ task mid, (db stocktakes).find? approval.entityId = some task ∧
      task.status = .pendingApproval ∧ sent = [] ∧
      (forEach (decideAdjustment task approval.entityId decision)
        (pendingAdjustments db approval.entityId)).Returns
        (db.put resourceVersions (freezeVersions (db resourceVersions) task.warehouseId))
        () [] mid ∧
      db' = mid.put stocktakes ((db stocktakes).modify approval.entityId fun row =>
        { row with status := if decision = .approved then .completed else .recount }) := by
  simp only [stocktakeVariance, returns_bind_select, returns_bind_orThrow, returns_bind_refuseIf,
    returns_bind_lockWarehouseFreeze, returns_bind_query, returns_bind_widen,
    returns_bind_updateWhere, returns_pure, not_not] at returns
  obtain ⟨task, found, waiting, -, _, _, mid, _, decided, ⟨-, rfl, rfl⟩, rfl⟩ := returns
  obtain rfl := forEach_sends_nothing
    (fun _ _ {_ _ _} round => (decideAdjustment_returns round).1) decided
  have tasks : mid stocktakes = db stocktakes := by
    rw [decided.unwritten _ (by decide)]
    simp
  refine ⟨task, mid, found, waiting, rfl, by simpa [pendingAdjustments] using decided, ?_⟩
  rw [tasks, Table.update_guarded found (fun row => row.status == .pendingApproval)
    (by simp [waiting])]

/-- The adjustments that an approval applies are moves of the stock. -/
theorem decideAdjustments_moves {task : Stocktake} {stocktakeId : Nat} {rows : List AdjustmentRow}
    {u : Unit}
    (returns : (forEach (decideAdjustment task stocktakeId decision) rows).Returns db u sent db') :
    ∃ moves, Stock.Moves (Stock.stockOf db) moves (Stock.stockOf db') ∧
      ∀ move ∈ moves, decision = .approved ∧ ∃ row ∈ rows, ∃ batchId,
        row.count.batchId = some batchId ∧
        move = .adjust batchId row.adjustment.bucket row.adjustment.countedQuantity := by
  induction rows generalizing db sent with
  | nil =>
      obtain ⟨-, rfl⟩ := returns_forEach_nil.mp returns
      exact ⟨[], Run.done, by simp⟩
  | cons row rest ih =>
      obtain ⟨first, mid, later, head, tail, rfl⟩ := returns_forEach_cons.mp returns
      obtain ⟨-, -, batches⟩ := decideAdjustment_returns head
      have reservations := head.unwritten inventoryReservations (by decide)
      obtain ⟨moves, run, labels⟩ := ih tail
      have inRest : ∀ move ∈ moves, decision = .approved ∧ ∃ other ∈ row :: rest, ∃ batchId,
          other.count.batchId = some batchId ∧
          move = .adjust batchId other.adjustment.bucket other.adjustment.countedQuantity := by
        intro move member
        obtain ⟨approved, other, inside, label⟩ := labels move member
        exact ⟨approved, other, List.mem_cons_of_mem _ inside, label⟩
      rcases batches with ⟨-, same⟩ | ⟨approved, batchId, batch, bound, found, -, changed⟩
      · have stock : Stock.stockOf mid = Stock.stockOf db := by
          simp [Stock.stockOf, same, reservations]
        rw [stock] at run
        exact ⟨moves, run, inRest⟩
      · have moved : Stock.Moved (Stock.stockOf db)
            (.adjust batchId row.adjustment.bucket row.adjustment.countedQuantity)
            (Stock.stockOf mid) := by
          have adjusted : Stock.Moved (Stock.stockOf db)
              (.adjust batchId row.adjustment.bucket row.adjustment.countedQuantity) _ :=
            Stock.Moved.adjust found
          simp only [Stock.stockOf, changed, reservations]
          exact adjusted
        refine ⟨_, Run.next moved run, ?_⟩
        intro move member
        rcases List.mem_cons.mp member with rfl | inside
        · exact ⟨approved, row, List.mem_cons_self, batchId, bound, rfl⟩
        · exact inRest move inside

/-! ## Production variance -/

/-- The batch that a decided report adds to the company's stock. -/
def companyBatch (command : CommandContext) (reportId : Nat) (row : ReportRow)
    (warehouseId : Nat) (accepted : Int) : InventoryBatch where
  batchNo := "PROD-" ++ row.order.executionNo ++ "-" ++ toString reportId ++ "-C"
  warehouseId := warehouseId
  sku := row.sku
  productionDate := some command.today
  inboundDate := command.today
  pendingInspectionQuantity := accepted

/-- The batch that stays with the factory. -/
def factoryBatch (command : CommandContext) (reportId : Nat) (row : ReportRow)
    (warehouseId : Nat) (factoryOwned : Int) : InventoryBatch where
  batchNo := "PROD-" ++ row.order.executionNo ++ "-" ++ toString reportId ++ "-F"
  warehouseId := warehouseId
  sku := row.sku
  productionDate := some command.today
  inboundDate := command.today
  availableQuantity := factoryOwned
  ownership := .factory

theorem storeDecided_returns {reportId : Nat} {row : ReportRow} {accepted factoryOwned : Int}
    {u : Unit}
    (returns : (storeDecided command reportId row accepted factoryOwned).Returns db u sent db') :
    sent = [] ∧ ∃ warehouseId, Stock.ActiveWarehouse db warehouseId ∧
      frozen db warehouseId row.sku = false ∧
      db' inventoryBatches =
        ((db inventoryBatches).insertWhen (0 < accepted)
          (companyBatch command reportId row warehouseId accepted)).insertWhen (0 < factoryOwned)
          (factoryBatch command reportId row warehouseId factoryOwned) := by
  simp only [storeDecided, returns_bind_query, returns_bind_orThrow,
    returns_bind_lockWarehouseFreeze, returns_bind_freezeExists, returns_bind_refuseIf,
    frozen_put_resourceVersions, Bool.not_eq_true] at returns
  obtain ⟨warehouseId, chosen, -, -, thawed, returns⟩ := returns
  have active := ProductionOrders.productionWarehouse_active chosen
  obtain ⟨_, first, mid, second, company, factory, rfl⟩ := returns_bind.mp returns
  have companyStored : first = [] ∧ mid inventoryBatches =
      (db inventoryBatches).insertWhen (0 < accepted)
        (companyBatch command reportId row warehouseId accepted) := by
    rcases returns_whenever.mp company with ⟨positive, stored⟩ | ⟨none, rfl, rfl⟩
    · simp only [returns_bind_insertBatch, returns_insertMovement] at stored
      obtain ⟨-, -, rfl, rfl⟩ := stored
      exact ⟨rfl, by simp [Table.insertWhen, positive, companyBatch]⟩
    · exact ⟨rfl, by simp [Table.insertWhen, none]⟩
  have factoryStored : second = [] ∧ db' inventoryBatches =
      (mid inventoryBatches).insertWhen (0 < factoryOwned)
        (factoryBatch command reportId row warehouseId factoryOwned) := by
    rcases returns_whenever.mp factory with ⟨positive, stored⟩ | ⟨none, rfl, rfl⟩
    · simp only [returns_bind_insertBatch, returns_pure] at stored
      obtain ⟨-, -, rfl, rfl⟩ := stored
      exact ⟨rfl, by simp [Table.insertWhen, positive, factoryBatch]⟩
    · exact ⟨rfl, by simp [Table.insertWhen, none]⟩
  refine ⟨by rw [companyStored.1, factoryStored.1]; rfl, warehouseId, active, thawed, ?_⟩
  rw [factoryStored.2, companyStored.2]

/-- Whether a decided report brings batches into the stock. -/
def stores (approval : ApprovalRequest) (decision : Decision) : Prop :=
  decision = .approved ∨ isOverproduction approval.payload = true

theorem isOverproduction_parsed {payload result : JsonValue}
    (returns : (parsedPayload payload : Tx writes JsonValue).Returns db result sent db') :
    result = payload := by
  cases payload <;> simp_all [parsedPayload]

theorem reportRow_some {reportId : Nat} {row : ReportRow}
    (found : reportRow db reportId = some row) :
    (db productionReports).find? reportId = some row.report ∧
      (db executionOrders).find? row.report.executionOrderId = some row.order ∧
      ∃ item, (db orderItems).find? row.order.orderItemId = some item ∧ row.sku = item.sku := by
  obtain ⟨report, foundReport, found⟩ := Option.bind_eq_some_iff.mp found
  obtain ⟨order, foundOrder, found⟩ := Option.bind_eq_some_iff.mp found
  obtain ⟨item, foundItem, rfl⟩ := Option.map_eq_some_iff.mp found
  exact ⟨foundReport, foundOrder, item, foundItem, rfl⟩

theorem productionVariance_returns
    (returns : (productionVariance command approval decision).Returns db reply sent db') :
    ∃ row, reportRow db approval.entityId = some row ∧ row.order.status = .variancePending ∧
      sent = [] ∧
      db' executionOrders = (db executionOrders).modify row.report.executionOrderId
        (fun order => { order with
          completedQuantity := acceptedQuantity row decision
          status := if decision = .approved then .completed
            else if isOverproduction approval.payload then .completedFactoryOwned
            else .varianceRejected }) ∧
      ((¬ stores approval decision ∧ db' inventoryBatches = db inventoryBatches) ∨
        (stores approval decision ∧ ∃ warehouseId, Stock.ActiveWarehouse db warehouseId ∧
          frozen db warehouseId row.sku = false ∧
          db' inventoryBatches =
            ((db inventoryBatches).insertWhen (0 < acceptedQuantity row decision)
              (companyBatch command approval.entityId row warehouseId
                (acceptedQuantity row decision))).insertWhen
              (0 < factoryOwnedQuantity row decision (isOverproduction approval.payload))
              (factoryBatch command approval.entityId row warehouseId
                (factoryOwnedQuantity row decision (isOverproduction approval.payload))))) := by
  rw [productionVariance, returns_bind_of_reads parsedPayload_reads] at returns
  obtain ⟨payload, parsed, returns⟩ := returns
  obtain rfl := isOverproduction_parsed parsed
  simp only [returns_bind_query, returns_bind_orThrow, returns_bind_refuseIf,
    returns_bind_updateWhere, not_not] at returns
  obtain ⟨row, found, waiting, returns⟩ := returns
  obtain ⟨_, _, stored, _, store, done, rfl⟩ := returns_bind.mp returns
  obtain ⟨-, rfl, rfl⟩ := returns_pure.mp done
  obtain ⟨-, foundOrder, -⟩ := reportRow_some found
  refine ⟨row, found, waiting, ?_⟩
  have orders := Table.update_guarded foundOrder
    (fun order => order.status == .variancePending) (by simp [waiting])
    (fun order => { order with
      completedQuantity := acceptedQuantity row decision
      status := if decision = .approved then .completed
        else if isOverproduction approval.payload then .completedFactoryOwned
        else .varianceRejected })
  rcases returns_whenever.mp store with ⟨brings, written⟩ | ⟨none, rfl, rfl⟩
  · obtain ⟨rfl, warehouseId, active, thawed, batches⟩ := storeDecided_returns (returns_widen.mp written)
    have kept := (returns_widen.mp written).unwritten executionOrders (by decide)
    refine ⟨rfl, by simpa [kept] using orders, Or.inr ⟨brings, warehouseId, ?_, ?_, ?_⟩⟩
    · simpa [Stock.ActiveWarehouse] using active
    · simpa [frozen] using thawed
    · simpa using batches
  · refine ⟨rfl, by simpa using orders, Or.inl ⟨none, by simp⟩⟩

theorem productionVariance_tables
    (returns : (productionVariance command approval decision).Returns db reply sent db') :
    ∃ row, reportRow db approval.entityId = some row ∧
      db' productionReports = (db productionReports).modify approval.entityId
        (fun report => { report with
          result := if decision = .approved then .approved
            else if isOverproduction approval.payload then .rejectedFactoryOwned else .rejected
          companyInventoryQuantity := acceptedQuantity row decision
          factoryOwnedQuantity :=
            factoryOwnedQuantity row decision (isOverproduction approval.payload) }) ∧
      db' productionMaterialLines = (db productionMaterialLines).update
        (fun _ line => line.executionOrderId == row.report.executionOrderId)
        (fun line => { line with
          deviationStatus := if decision = .approved then .approved else .rejected
          reservedQuantity := 0 }) := by
  rw [productionVariance, returns_bind_of_reads parsedPayload_reads] at returns
  obtain ⟨payload, parsed, returns⟩ := returns
  obtain rfl := isOverproduction_parsed parsed
  simp only [returns_bind_query, returns_bind_orThrow, returns_bind_refuseIf,
    returns_bind_updateWhere] at returns
  obtain ⟨row, found, -, returns⟩ := returns
  obtain ⟨_, _, stored, _, store, done, rfl⟩ := returns_bind.mp returns
  obtain ⟨-, rfl, rfl⟩ := returns_pure.mp done
  refine ⟨row, found, ?_⟩
  rcases returns_whenever.mp store with ⟨-, written⟩ | ⟨-, -, rfl⟩
  · have reports := (returns_widen.mp written).unwritten productionReports (by decide)
    have lines := (returns_widen.mp written).unwritten productionMaterialLines (by decide)
    exact ⟨by simpa using reports, by simpa using lines⟩
  · exact ⟨by simp, by simp⟩

/-! ## Correction of a financial record -/

theorem textMember_reads {payload : JsonValue} {name text : String} {maximum : Nat}
    (returns : (textMember payload name maximum : Tx writes String).Returns db text sent db') :
    sent = [] ∧ db' = db := by
  unfold textMember at returns
  split at returns
  · exact (returns_string.mp returns).2.2
  · simp at returns

theorem readProposal_returns {stored : JsonValue} {proposal : CorrectionProposal}
    (returns : (readProposal stored : Tx writes CorrectionProposal).Returns db proposal sent db') :
    1 ≤ proposal.amountMinor ∧ sent = [] ∧ db' = db := by
  rw [readProposal, returns_bind_of_reads parsedPayload_reads] at returns
  obtain ⟨payload, -, returns⟩ := returns
  rw [returns_bind_of_reads fun member => (integerMember_returns member).2] at returns
  obtain ⟨request, -, returns⟩ := returns
  rw [returns_bind_of_reads fun member => (integerMember_returns member).2] at returns
  obtain ⟨amount, amountRead, returns⟩ := returns
  rw [returns_bind_of_reads textMember_reads] at returns
  obtain ⟨paidAt, -, returns⟩ := returns
  rw [returns_bind_of_reads textMember_reads] at returns
  obtain ⟨reference, -, returns⟩ := returns
  obtain ⟨rfl, rfl, rfl⟩ := returns_pure.mp returns
  exact ⟨(integerMember_returns amountRead).1, rfl, rfl⟩

theorem mem_correctionIds {first second id : Nat} :
    id ∈ correctionIds first second ↔ id = first ∨ id = second := by
  unfold correctionIds
  split
  · rename_i equal
    simp [equal]
  · split <;> simp [or_comm]

/-- The requests that are locked are those of the keys, as they are. -/
theorem correctionRequests_returns {ids : List Nat} {requests : List (Nat × FactoryPaymentRequest)}
    (returns : (correctionRequests ids :
      Tx writes (List (Nat × FactoryPaymentRequest))).Returns db requests sent db') :
    sent = [] ∧ db' = db ∧ requests.map (·.1) = ids ∧
      ∀ r ∈ requests, (db factoryPaymentRequests).find? r.1 = some r.2 := by
  obtain ⟨sends, same, rows⟩ := collect_of_reads (by
    intro id s value sent mid row
    simp only [returns_bind_select, returns_bind_orThrow, returns_pure] at row
    obtain ⟨_, -, -, sends, same⟩ := row
    exact ⟨sends, same⟩) returns
  refine ⟨sends, same, ?_⟩
  clear returns
  induction rows with
  | nil => simp
  | cons head tail ih =>
      simp only [returns_bind_select, returns_bind_orThrow, returns_pure] at head
      obtain ⟨request, found, rfl, -, -⟩ := head
      refine ⟨by rw [List.map_cons, ih.1], ?_⟩
      intro r member
      rcases List.mem_cons.mp member with rfl | later
      · exact found
      · exact ih.2 r later

theorem correctionNet_eq {rows : List PaymentRecord} {net : Int}
    (sound : correctionNet rows = .ok net) :
    net = (rows.map fun row =>
      if row.invoiceExceptionId = none then row.amountMinor else 0).sum := by
  unfold correctionNet at sound
  split at sound
  · cases sound
  · cases sound
    rfl

def projectedStatus (net total : Int) : PaymentRequestStatus :=
  if net = total then .paid else if 0 < net then .partiallyPaid else .generated

/-- What the projection of the net of a ledger makes of a payment request. -/
structure Projected (net : Int) (old row : FactoryPaymentRequest) : Prop where
  nonneg : 0 ≤ net
  bounded : net ≤ old.totalAmountMinor
  status : row.status = projectedStatus net old.totalAmountMinor
  total : row.totalAmountMinor = old.totalAmountMinor
  covered : row.invoiceCoveredAmountMinor = old.invoiceCoveredAmountMinor

theorem projectRequest_returns {original : PaymentRecord} {proposal : CorrectionProposal}
    {target : Nat × FactoryPaymentRequest} {u : Unit}
    (returns : (projectRequest command original proposal target).Returns db u sent db') :
    ∃ change : FactoryPaymentRequest → FactoryPaymentRequest,
      sent = [] ∧
      db' = db.put factoryPaymentRequests ((db factoryPaymentRequests).modify target.1 change) ∧
      ∀ old, old.totalAmountMinor = target.2.totalAmountMinor →
        Projected (Finance.payable (db paymentRecords) target.1) old (change old) := by
  simp only [projectRequest, returns_bind_query, returns_bind_ofExcept, returns_bind_refuseIf,
    returns_updateRow] at returns
  obtain ⟨net, sound, inside, -, sends, same⟩ := returns
  have sum : net = Finance.payable (db paymentRecords) target.1 :=
    (correctionNet_eq sound).trans (Finance.ledgerOf_payable db target.1)
  push Not at inside
  refine ⟨_, sends, same, ?_⟩
  intro old total
  exact
    { nonneg := by rw [← sum]; exact inside.1
      bounded := by rw [← sum, total]; exact inside.2
      status := by
        rw [← sum, total]
        rfl
      total := rfl
      covered := rfl }

/-- A correction projects the requests of `ids` and leaves the others. -/
def ProjectsAll (records : Table PaymentRecord) (ids : List Nat) (id : Nat)
    (old row : FactoryPaymentRequest) : Prop :=
  (id ∈ ids → Projected (Finance.payable records id) old row) ∧ (id ∉ ids → row = old)

theorem ProjectsAll.total {records : Table PaymentRecord} {ids : List Nat} {id : Nat}
    {old row : FactoryPaymentRequest} (projects : ProjectsAll records ids id old row) :
    row.totalAmountMinor = old.totalAmountMinor ∧
      row.invoiceCoveredAmountMinor = old.invoiceCoveredAmountMinor := by
  by_cases inside : id ∈ ids
  · exact ⟨(projects.1 inside).total, (projects.1 inside).covered⟩
  · rw [projects.2 inside]
    exact ⟨rfl, rfl⟩

/-- The projection of a row that was projected before is that of the row. -/
theorem Projected.after {net : Int} {old mid row : FactoryPaymentRequest}
    (projected : Projected net mid row) (total : mid.totalAmountMinor = old.totalAmountMinor)
    (covered : mid.invoiceCoveredAmountMinor = old.invoiceCoveredAmountMinor) :
    Projected net old row where
  nonneg := projected.nonneg
  bounded := by rw [← total]; exact projected.bounded
  status := by rw [← total]; exact projected.status
  total := by rw [← total]; exact projected.total
  covered := by rw [← covered]; exact projected.covered

theorem projectRequests_returns {original : PaymentRecord} {proposal : CorrectionProposal}
    {requests : List (Nat × FactoryPaymentRequest)} {u : Unit}
    (returns : (forEach (projectRequest command original proposal) requests).Returns db u sent db')
    (current : ∀ r ∈ requests, ∀ old, (db factoryPaymentRequests).find? r.1 = some old →
      old.totalAmountMinor = r.2.totalAmountMinor) :
    sent = [] ∧ Table.Revises (ProjectsAll (db paymentRecords) (requests.map (·.1)))
      (db factoryPaymentRequests) (db' factoryPaymentRequests) := by
  induction requests generalizing db sent with
  | nil =>
      obtain ⟨rfl, rfl⟩ := returns_forEach_nil.mp returns
      exact ⟨rfl, Table.Revises.refl fun id row => ⟨by simp, by simp⟩⟩
  | cons target rest ih =>
      obtain ⟨_, mid, _, head, tail, rfl⟩ := returns_forEach_cons.mp returns
      obtain ⟨change, rfl, rfl, projects⟩ := projectRequest_returns head
      have first : Table.Revises (ProjectsAll (db paymentRecords) [target.1])
          (db factoryPaymentRequests) ((db factoryPaymentRequests).modify target.1 change) := by
        refine Table.revises_modify ?_ ?_
        · intro old found
          have projected := projects old (current target List.mem_cons_self old found)
          exact ⟨fun _ => projected, fun outside => absurd (List.mem_singleton.mpr rfl) outside⟩
        · intro id old differ
          exact ⟨fun inside => absurd (List.mem_singleton.mp inside) differ, fun _ => rfl⟩
      obtain ⟨rfl, second⟩ := ih tail (by
        intro r member row found
        rw [Store.put_same] at found
        obtain ⟨old, before, law⟩ := first.backward found
        rw [law.total.1]
        exact current r (List.mem_cons_of_mem _ member) old before)
      rw [Store.put_same, Store.put_other _ _ (by decide)] at second
      refine ⟨rfl, first.trans second ?_⟩
      intro id old mid row here there
      refine ⟨fun member => ?_, fun outside => ?_⟩
      · by_cases again : id ∈ rest.map (·.1)
        · exact (there.1 again).after here.total.1 here.total.2
        · rw [there.2 again]
          rcases List.mem_cons.mp member with equal | inside
          · exact here.1 (List.mem_singleton.mpr equal)
          · exact absurd inside again
      · rw [List.map_cons, List.mem_cons, not_or] at outside
        rw [there.2 outside.2, here.2 fun inside => outside.1 (List.mem_singleton.mp inside)]

theorem correctedSum_eq {context : RefundContext} {rows : List PaymentRecord} {corrected result : Int}
    (sound : correctedSum context rows corrected = .ok result) :
    result = corrected + (rows.map (·.amountMinor)).sum := by
  induction rows generalizing corrected with
  | nil =>
      cases sound
      simp
  | cons row rest ih =>
      unfold correctedSum at sound
      split at sound
      · cases sound
      · split at sound
        · cases sound
        · rw [ih sound, List.map_cons, List.sum_cons]
          omega

/-- The projection of the refund ledger onto its exception. -/
theorem projectException_returns {context : RefundContext} {u : Unit}
    (returns : (projectException command context).Returns db u sent db') :
    sent = [] ∧ 0 ≤ Finance.refunded (db paymentRecords) context.exceptionId ∧
      Finance.refunded (db paymentRecords) context.exceptionId +
        context.exception.replacementCoveredAmountMinor ≤ context.exception.affectedAmountMinor ∧
      db' = db.put invoiceExceptions ((db invoiceExceptions).modify context.exceptionId
        fun row => { row with
          refundedAmountMinor := Finance.refunded (db paymentRecords) context.exceptionId
          status := if Finance.refunded (db paymentRecords) context.exceptionId +
              context.exception.replacementCoveredAmountMinor =
                context.exception.affectedAmountMinor
            then .resolved else .awaitingRemediation
          resolvedAt := if Finance.refunded (db paymentRecords) context.exceptionId +
              context.exception.replacementCoveredAmountMinor =
                context.exception.affectedAmountMinor
            then some command.clock else none
          updatedAt := command.now }) := by
  simp only [projectException, returns_bind_query, returns_bind_ofExcept, returns_bind_refuseIf,
    returns_updateRow, decide_eq_true_eq] at returns
  obtain ⟨corrected, sound, inside, -, sends, same⟩ := returns
  have sum : corrected = Finance.refunded (db paymentRecords) context.exceptionId := by
    have rows := (db paymentRecords).sum_select
      (fun _ row => row.invoiceExceptionId == some context.exceptionId) fun _ row => row.amountMinor
    simp only [beq_iff_eq] at rows
    rw [correctedSum_eq sound, Finance.refunded, ← rows, List.map_map, Int.zero_add]
    rfl
  push Not at inside
  rw [← sum]
  exact ⟨sends, inside.1, inside.2, same⟩

def reversalOf (command : CommandContext) (requestedBy originalId : Nat)
    (original : PaymentRecord) : PaymentRecord where
  paymentRequestId := original.paymentRequestId
  amountMinor := -original.amountMinor
  paidAt := command.clockText
  bankReference := "reversal:" ++ original.bankReference
  recordType := .reversal
  reversesPaymentRecordId := some originalId
  correctsPaymentRecordId := none
  invoiceExceptionId := original.invoiceExceptionId
  recordedBy := requestedBy
  reviewedBy := some command.access.userId
  reviewStatus := .approved
  updatedAt := command.now

def correctionOf (command : CommandContext) (requestedBy originalId : Nat)
    (original : PaymentRecord) (proposal : CorrectionProposal) : PaymentRecord where
  paymentRequestId := proposal.paymentRequestId
  amountMinor := proposal.amountMinor
  paidAt := proposal.paidAt
  bankReference := proposal.bankReference
  recordType := .correction
  reversesPaymentRecordId := none
  correctsPaymentRecordId := some originalId
  invoiceExceptionId := original.invoiceExceptionId
  recordedBy := requestedBy
  reviewedBy := some command.access.userId
  reviewStatus := .approved
  updatedAt := command.now

theorem writeCorrection_returns {requestedBy originalId : Nat} {original : PaymentRecord}
    {proposal : CorrectionProposal} {u : Unit}
    (returns : (writeCorrection command requestedBy originalId original proposal).Returns
      db u sent db') :
    sent = [] ∧ db' paymentRecords =
      ((db paymentRecords).insert (reversalOf command requestedBy originalId original)).insert
        (correctionOf command requestedBy originalId original proposal) := by
  simp only [writeCorrection, returns_bind_insertUnique, returns_pure] at returns
  obtain ⟨-, -, -, -, sends, rfl⟩ := returns
  exact ⟨sends, by simp [reversalOf, correctionOf]⟩

theorem refundContext_returns {original : PaymentRecord} {proposal : CorrectionProposal}
    {refund : Option RefundContext}
    (returns : (refundContext original proposal : Tx writes (Option RefundContext)).Returns
      db refund sent db') :
    sent = [] ∧ db' = db ∧
      ((original.recordType ≠ .refund ∧ refund = none) ∨
        (original.recordType = .refund ∧ ∃ context, refund = some context ∧
          original.invoiceExceptionId = some context.exceptionId ∧
          (db invoiceExceptions).find? context.exceptionId = some context.exception ∧
          original.paymentRequestId ∈ exceptionRequests db context.exception.invoiceId ∧
          proposal.paymentRequestId ∈ exceptionRequests db context.exception.invoiceId)) := by
  unfold refundContext at returns
  split at returns
  · rename_i other
    obtain ⟨rfl, rfl, rfl⟩ := returns_pure.mp returns
    exact ⟨rfl, rfl, Or.inl ⟨other, rfl⟩⟩
  · rename_i isRefund
    simp only [returns_bind_orThrow, returns_bind_select, returns_bind_query,
      returns_bind_refuseIf, returns_pure] at returns
    obtain ⟨exceptionId, linked, exception, found, allocated, rfl, rfl, rfl⟩ := returns
    push Not at allocated
    exact ⟨rfl, rfl, Or.inr ⟨not_not.mp isRefund, _, rfl, linked, found, by simpa using allocated.1,
      by simpa using allocated.2⟩⟩

/-- The exception of a refund follows the refund ledger, and the correction of
a payment leaves the exceptions alone. -/
theorem projectRefund_returns {original : PaymentRecord} {proposal : CorrectionProposal}
    {refund : Option RefundContext} {mid : Database} {u : Unit}
    (context : (refundContext original proposal : Tx writes (Option RefundContext)).Returns
      db refund [] db)
    (returns : (projectRefund command refund).Returns mid u sent db') :
    sent = [] ∧
      (original.recordType ≠ .refund → db' invoiceExceptions = mid invoiceExceptions) ∧
      (original.recordType = .refund → ∃ exceptionId exception,
        original.invoiceExceptionId = some exceptionId ∧
        (db invoiceExceptions).find? exceptionId = some exception ∧
        original.paymentRequestId ∈ exceptionRequests db exception.invoiceId ∧
        proposal.paymentRequestId ∈ exceptionRequests db exception.invoiceId ∧
        0 ≤ Finance.refunded (mid paymentRecords) exceptionId ∧
        Finance.refunded (mid paymentRecords) exceptionId +
          exception.replacementCoveredAmountMinor ≤ exception.affectedAmountMinor ∧
        db' invoiceExceptions = (mid invoiceExceptions).modify exceptionId fun row => { row with
          refundedAmountMinor := Finance.refunded (mid paymentRecords) exceptionId
          status := if Finance.refunded (mid paymentRecords) exceptionId +
              exception.replacementCoveredAmountMinor = exception.affectedAmountMinor
            then .resolved else .awaitingRemediation
          resolvedAt := if Finance.refunded (mid paymentRecords) exceptionId +
              exception.replacementCoveredAmountMinor = exception.affectedAmountMinor
            then some command.clock else none
          updatedAt := command.now }) := by
  obtain ⟨-, -, ⟨other, rfl⟩ | ⟨isRefund, found, rfl, linked, stored, here, there⟩⟩ :=
    refundContext_returns context
  · obtain ⟨-, rfl, rfl⟩ := returns_pure.mp returns
    exact ⟨rfl, fun _ => rfl, fun isRefund => absurd isRefund other⟩
  · obtain ⟨rfl, nonneg, bounded, rfl⟩ := projectException_returns returns
    exact ⟨rfl, fun other => absurd isRefund other, fun _ => ⟨found.exceptionId, found.exception,
      linked, stored, here, there, nonneg, bounded, by simp⟩⟩

/-- What an approved correction did: the original is reversed and replaced, the
two requests are projected, and for a refund also its exception. -/
structure Corrected (command : CommandContext) (approval : ApprovalRequest)
    (original : PaymentRecord) (proposal : CorrectionProposal) (db db' : Database) : Prop where
  found : (db paymentRecords).find? approval.entityId = some original
  correctable : original.recordType = .payment ∨ original.recordType = .refund
  uncorrected : ∀ id row, (db paymentRecords).find? id = some row →
    row.reversesPaymentRecordId ≠ some approval.entityId ∧
      row.correctsPaymentRecordId ≠ some approval.entityId
  positive : 1 ≤ proposal.amountMinor
  records : db' paymentRecords =
    ((db paymentRecords).insert
      (reversalOf command approval.requestedBy approval.entityId original)).insert
      (correctionOf command approval.requestedBy approval.entityId original proposal)
  requests : ∀ id, id = original.paymentRequestId ∨ id = proposal.paymentRequestId →
    ∃ request, (db factoryPaymentRequests).find? id = some request
  projected : Table.Revises
    (ProjectsAll (db' paymentRecords) [original.paymentRequestId, proposal.paymentRequestId])
    (db factoryPaymentRequests) (db' factoryPaymentRequests)
  payable : original.recordType = .payment → ∀ request,
    (db factoryPaymentRequests).find? proposal.paymentRequestId = some request →
      requestPayable request = true
  payment : original.recordType = .payment → db' invoiceExceptions = db invoiceExceptions
  refund : original.recordType = .refund → ∃ exceptionId exception,
    original.invoiceExceptionId = some exceptionId ∧
    (db invoiceExceptions).find? exceptionId = some exception ∧
    original.paymentRequestId ∈ exceptionRequests db exception.invoiceId ∧
    proposal.paymentRequestId ∈ exceptionRequests db exception.invoiceId ∧
    0 ≤ Finance.refunded (db' paymentRecords) exceptionId ∧
    Finance.refunded (db' paymentRecords) exceptionId + exception.replacementCoveredAmountMinor ≤
      exception.affectedAmountMinor ∧
    db' invoiceExceptions = (db invoiceExceptions).modify exceptionId fun row => { row with
      refundedAmountMinor := Finance.refunded (db' paymentRecords) exceptionId
      status := if Finance.refunded (db' paymentRecords) exceptionId +
          exception.replacementCoveredAmountMinor = exception.affectedAmountMinor
        then .resolved else .awaitingRemediation
      resolvedAt := if Finance.refunded (db' paymentRecords) exceptionId +
          exception.replacementCoveredAmountMinor = exception.affectedAmountMinor
        then some command.clock else none
      updatedAt := command.now }

theorem applyCorrection_returns
    (returns : (applyCorrection command approval).Returns db reply sent db') :
    sent = [] ∧ ∃ original proposal, Corrected command approval original proposal db db' := by
  rw [applyCorrection,
    returns_bind_of_reads fun read => (readProposal_returns read).2] at returns
  obtain ⟨proposal, read, returns⟩ := returns
  simp only [returns_bind_select, returns_bind_orThrow, returns_bind_refuseIf,
    returns_bind_query] at returns
  obtain ⟨original, found, correctable, -, fresh, returns⟩ := returns
  rw [returns_bind_of_reads fun locked =>
    ⟨(correctionRequests_returns locked).1, (correctionRequests_returns locked).2.1⟩] at returns
  obtain ⟨requests, locked, returns⟩ := returns
  obtain ⟨-, -, keys, current⟩ := correctionRequests_returns locked
  simp only [returns_bind_orThrow, returns_bind_refuseIf] at returns
  obtain ⟨proposed, foundProposed, payable, returns⟩ := returns
  rw [returns_bind_of_reads fun context =>
    ⟨(refundContext_returns context).1, (refundContext_returns context).2.1⟩] at returns
  obtain ⟨refund, context, returns⟩ := returns
  simp only [returns_bind_widen, returns_pure] at returns
  obtain ⟨_, _, written, _, write, ⟨_, _, mid, _, project, ⟨_, _, _, _, exception,
    ⟨-, rfl, rfl⟩, rfl⟩, rfl⟩, rfl⟩ := returns
  obtain ⟨rfl, records⟩ := writeCorrection_returns write
  have requestsKept : written factoryPaymentRequests = db factoryPaymentRequests :=
    write.unwritten _ (by decide)
  obtain ⟨rfl, projected⟩ := projectRequests_returns project (by
    intro r member old foundOld
    rw [requestsKept, current r member] at foundOld
    cases foundOld
    rfl)
  obtain ⟨rfl, payment, refundCase⟩ := projectRefund_returns context exception
  have member : ∀ id, id ∈ requests.map (·.1) ↔
      id = original.paymentRequestId ∨ id = proposal.paymentRequestId := by
    intro id
    rw [keys]
    exact mem_correctionIds
  have recordsMid : mid paymentRecords = written paymentRecords := project.unwritten _ (by decide)
  have recordsAfter : db' paymentRecords = mid paymentRecords := exception.unwritten _ (by decide)
  have requestsAfter : db' factoryPaymentRequests = mid factoryPaymentRequests :=
    exception.unwritten _ (by decide)
  have exceptionsMid : mid invoiceExceptions = db invoiceExceptions :=
    (project.unwritten _ (by decide)).trans (write.unwritten _ (by decide))
  have proposedHere := current proposed (List.mem_of_find?_eq_some foundProposed)
  have proposedKey : proposed.1 = proposal.paymentRequestId := by
    simpa using List.find?_some foundProposed
  refine ⟨rfl, original, proposal, ?_⟩
  exact
    { found := found
      correctable := by
        cases kind : original.recordType <;> simp_all [Finance.RecordType.correctable]
      uncorrected := by
        intro id row foundRow
        have outside : (id, row) ∉ (db paymentRecords).select fun _ row =>
            row.reversesPaymentRecordId == some approval.entityId ||
              row.correctsPaymentRecordId == some approval.entityId := by
          rw [not_not.mp fresh]
          exact List.not_mem_nil
        rw [Table.mem_select] at outside
        simpa [foundRow] using outside
      positive := (readProposal_returns read).1
      records := by rw [recordsAfter, recordsMid, records]
      requests := by
        intro id touched
        obtain ⟨r, inside, rfl⟩ := List.mem_map.mp ((member id).mpr touched)
        exact ⟨r.2, current r inside⟩
      projected := by
        rw [requestsKept] at projected
        rw [requestsAfter, recordsAfter, recordsMid]
        refine projected.imp fun id old row _ law => ?_
        have listed : id ∈ [original.paymentRequestId, proposal.paymentRequestId] ↔
            id ∈ requests.map (·.1) := by
          rw [member]
          simp
        exact ⟨fun inside => law.1 (listed.mp inside),
          fun outside => law.2 fun inside => outside (listed.mpr inside)⟩
      payable := by
        intro isPayment request foundRequest
        rw [← proposedKey, proposedHere] at foundRequest
        cases foundRequest
        simpa [isPayment] using payable
      payment := by
        intro isPayment
        rw [payment (by rw [isPayment]; decide), exceptionsMid]
      refund := by
        intro isRefund
        rw [recordsAfter, ← exceptionsMid]
        rw [← exceptionsMid] at refundCase
        exact refundCase isRefund }

end SupplyChain.ApprovalEffects
