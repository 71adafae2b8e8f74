import SupplyChain.ProductionOrders.Steps

/-!
The execution orders and their reports agree in every reachable state: a
running order has completed nothing and has no report, an order that waits for
its variance has completed what its report says, and no order has two reports.
-/

namespace SupplyChain.ProductionOrders

open Relational TableName Stock

variable {effects : Approvals.ProcurementEffects} {command : CommandContext} {db db' : Database}
  {event : Event} {opening : Database} {events : List Event}

/-- There is no execution order, material line or report yet. -/
structure OpeningProduction (db : Database) : Prop where
  orders : ∀ id, (db executionOrders).find? id = none
  lines : ∀ id, (db productionMaterialLines).find? id = none
  reports : ∀ id, (db productionReports).find? id = none

structure Agrees (db : Database) : Prop where
  planned : ∀ id order, (db executionOrders).find? id = some order → 1 ≤ order.plannedQuantity
  running : ∀ id order, (db executionOrders).find? id = some order →
    order.status.running = true → order.completedQuantity = 0 ∧
      ∀ reportId report, (db productionReports).find? reportId = some report →
        report.executionOrderId ≠ id
  reported : ∀ reportId report, (db productionReports).find? reportId = some report →
    0 ≤ report.actualFinishedQuantity ∧
      ∃ order, (db executionOrders).find? report.executionOrderId = some order ∧
        (order.status = .variancePending →
          order.completedQuantity = report.actualFinishedQuantity)
  single : ∀ reportId report other otherReport,
    (db productionReports).find? reportId = some report →
    (db productionReports).find? other = some otherReport →
    report.executionOrderId = otherReport.executionOrderId → reportId = other

theorem OpeningProduction.agrees (opens : OpeningProduction opening) : Agrees opening where
  planned id order found := by simp [opens.orders] at found
  running id order found := by simp [opens.orders] at found
  reported reportId report found := by simp [opens.reports] at found
  single reportId report other otherReport found := by simp [opens.reports] at found

/-! ## What a transition does to orders and reports -/

theorem Stored.report {id : Nat} {order : ExecutionOrder} {sku : String} {actual : Int}
    {deviates pending : Bool} (stored : Stored command id order sku actual deviates db db' pending) :
    ∃ report, db' productionReports = (db productionReports).insert report ∧
      report.executionOrderId = id ∧ report.actualFinishedQuantity = actual := by
  cases stored with
  | asked _ reports _ _ _ => exact ⟨_, reports, rfl, rfl⟩
  | empty _ reports _ _ _ => exact ⟨_, reports, rfl, rfl⟩
  | stored _ _ _ reports _ _ _ => exact ⟨_, reports, rfl, rfl⟩

/-- What a transition does to the orders and the reports: nothing, it starts
an order, or it completes a running one with a report. -/
theorem Transitioned.plant {id : Nat} {order : ExecutionOrder} {sku : String}
    {action : ProductionAction} {sent : List DomainEvent}
    (transitioned : Transitioned command id order sku db db' action sent) :
    (db' executionOrders = db executionOrders ∧ db' productionReports = db productionReports) ∨
    (order.status = .planned ∧ db' productionReports = db productionReports ∧
      db' executionOrders =
        (db executionOrders).modify id fun row => { row with status := .inProduction }) ∨
    (∃ actual pending report, order.status.running = true ∧ 0 ≤ actual ∧
      (pending = false → order.plannedQuantity ≤ actual) ∧
      db' executionOrders = (db executionOrders).modify id (fun row => { row with
        status := if pending then .variancePending else .completed
        completedQuantity := actual }) ∧
      db' productionReports = (db productionReports).insert report ∧
      report.executionOrderId = id ∧ report.actualFinishedQuantity = actual) := by
  cases transitioned with
  | released _ _ _ _ _ _ kept => exact Or.inl ⟨kept _ (by decide), kept _ (by decide)⟩
  | started planned orders kept => exact Or.inr (Or.inl ⟨planned, kept _ (by decide), orders⟩)
  | reported begins reported ends =>
      refine Or.inl ⟨?_, ?_⟩
      · rw [ends _ (by decide), reported.kept _ (by decide), begins _ (by decide)]
      · rw [ends _ (by decide), reported.kept _ (by decide), begins _ (by decide)]
  | @completed _ _ _ _ actual _ pending begins reported completed _ _ =>
      have orders := (reported.kept executionOrders (by decide)).trans (begins _ (by decide))
      have reports := (reported.kept productionReports (by decide)).trans (begins _ (by decide))
      obtain ⟨report, inserted, owner, finished⟩ := completed.stored.report
      refine Or.inr (Or.inr ⟨actual, pending, report, completed.running, completed.nonneg,
        completed.within, ?_, ?_, owner, finished⟩)
      · rw [completed.orders, orders]
      · rw [inserted, reports]

/-! ## Preservation -/

theorem Agrees.started {id : Nat} {order : ExecutionOrder} (agrees : Agrees db)
    (found : (db executionOrders).find? id = some order) (planned : order.status = .planned)
    (orders : db' executionOrders =
      (db executionOrders).modify id fun row => { row with status := .inProduction })
    (reports : db' productionReports = db productionReports) : Agrees db' where
  planned key row foundRow := by
    rw [orders] at foundRow
    rcases Table.find?_modify_cases foundRow with ⟨rfl, old, foundOld, rfl⟩ | ⟨-, old⟩
    · exact agrees.planned _ old foundOld
    · exact agrees.planned _ row old
  running key row foundRow runs := by
    rw [orders] at foundRow
    rw [reports]
    rcases Table.find?_modify_cases foundRow with ⟨rfl, old, foundOld, rfl⟩ | ⟨-, old⟩
    · rw [found] at foundOld
      cases foundOld
      exact agrees.running _ order found (by rw [planned]; rfl)
    · exact agrees.running _ row old runs
  reported reportId report foundReport := by
    rw [reports] at foundReport
    obtain ⟨nonneg, owner, foundOwner, waits⟩ := agrees.reported reportId report foundReport
    refine ⟨nonneg, ?_⟩
    rw [orders]
    by_cases same : report.executionOrderId = id
    · rw [same] at foundOwner ⊢
      refine ⟨_, Table.find?_modify_self _ foundOwner, ?_⟩
      intro waiting
      cases waiting
    · exact ⟨owner, by rw [Table.find?_modify_ne _ _ same]; exact foundOwner, waits⟩
  single reportId report other otherReport first second := by
    rw [reports] at first second
    exact agrees.single reportId report other otherReport first second

theorem Agrees.completed {id : Nat} {order : ExecutionOrder} {actual : Int} {pending : Bool}
    {report : ProductionReport} (agrees : Agrees db)
    (found : (db executionOrders).find? id = some order) (runs : order.status.running = true)
    (nonneg : 0 ≤ actual)
    (orders : db' executionOrders = (db executionOrders).modify id (fun row => { row with
      status := if pending then .variancePending else .completed
      completedQuantity := actual }))
    (reports : db' productionReports = (db productionReports).insert report)
    (owner : report.executionOrderId = id) (finished : report.actualFinishedQuantity = actual) :
    Agrees db' := by
  have fresh := (agrees.running id order found runs).2
  constructor
  · intro key row foundRow
    rw [orders] at foundRow
    rcases Table.find?_modify_cases foundRow with ⟨rfl, old, foundOld, rfl⟩ | ⟨-, old⟩
    · exact agrees.planned _ old foundOld
    · exact agrees.planned _ row old
  · intro key row foundRow still
    rw [orders] at foundRow
    rcases Table.find?_modify_cases foundRow with ⟨rfl, old, foundOld, rfl⟩ | ⟨differ, old⟩
    · cases pending <;> cases still
    · refine ⟨(agrees.running _ row old still).1, ?_⟩
      intro reportId other foundReport
      rw [reports] at foundReport
      rcases Table.find?_insert_cases foundReport with ⟨-, rfl⟩ | older
      · exact fun same => differ (same.symm.trans owner)
      · exact (agrees.running _ row old still).2 reportId other older
  · intro reportId other foundReport
    rw [reports] at foundReport
    rw [orders]
    rcases Table.find?_insert_cases foundReport with ⟨-, rfl⟩ | older
    · refine ⟨by rw [finished]; exact nonneg, ?_⟩
      rw [owner]
      exact ⟨_, Table.find?_modify_self _ found, fun _ => finished.symm⟩
    · obtain ⟨actualNonneg, row, foundRow, waits⟩ := agrees.reported reportId other older
      refine ⟨actualNonneg, row, ?_, waits⟩
      rw [Table.find?_modify_ne _ _ (fresh reportId other older)]
      exact foundRow
  · intro first firstReport second secondReport foundFirst foundSecond same
    rw [reports] at foundFirst foundSecond
    rcases Table.find?_insert_cases foundFirst with ⟨rfl, rfl⟩ | older
    · rcases Table.find?_insert_cases foundSecond with ⟨rfl, -⟩ | older
      · rfl
      · exact absurd (same.symm.trans owner) (fresh second secondReport older)
    · rcases Table.find?_insert_cases foundSecond with ⟨-, rfl⟩ | older'
      · exact absurd (same.trans owner) (fresh first firstReport older)
      · exact agrees.single first firstReport second secondReport older older' same

theorem Agrees.created {body : CreateProductionOrder} {item : OrderItem} {bom : ProductBom}
    (agrees : Agrees db) (created : Created command body item bom db db')
    (reports : db' productionReports = db productionReports) : Agrees db' where
  planned key row foundRow := by
    rw [created.orders] at foundRow
    rcases Table.find?_insert_cases foundRow with ⟨-, rfl⟩ | old
    · exact created.positive
    · exact agrees.planned key row old
  running key row foundRow runs := by
    rw [created.orders] at foundRow
    rw [reports]
    rcases Table.find?_insert_cases foundRow with ⟨rfl, rfl⟩ | old
    · refine ⟨rfl, ?_⟩
      intro reportId report foundReport same
      obtain ⟨-, order, foundOrder, -⟩ := agrees.reported reportId report foundReport
      rw [same, Table.find?_nextId] at foundOrder
      cases foundOrder
    · exact agrees.running key row old runs
  reported reportId report foundReport := by
    rw [reports] at foundReport
    obtain ⟨nonneg, order, foundOrder, waits⟩ := agrees.reported reportId report foundReport
    refine ⟨nonneg, order, ?_, waits⟩
    rw [created.orders]
    exact Table.find?_insert_of_some foundOrder
  single reportId report other otherReport first second := by
    rw [reports] at first second
    exact agrees.single reportId report other otherReport first second

theorem judged_status (approval : ApprovalRequest) (decision : Decision)
    (row : ApprovalEffects.ReportRow) (order : ExecutionOrder) :
    (judgedOrder approval decision row order).status.running = false ∧
      (judgedOrder approval decision row order).status ≠ .variancePending := by
  simp only [judgedOrder]
  cases decision with
  | approved => exact ⟨rfl, by simp⟩
  | rejected =>
      cases ApprovalEffects.isOverproduction approval.payload with
      | true => exact ⟨rfl, by decide⟩
      | false => exact ⟨rfl, by decide⟩

theorem Agrees.judged {body : Approvals.DecideApproval} {approval : ApprovalRequest}
    {row : ApprovalEffects.ReportRow} (agrees : Agrees db)
    (judged : Judged command body approval row db db') : Agrees db' := by
  obtain ⟨foundReport, foundOrder, -⟩ := ApprovalEffects.reportRow_some judged.report
  have owner : ∀ reportId report, (db' productionReports).find? reportId = some report →
      ∃ old, (db productionReports).find? reportId = some old ∧
        report.executionOrderId = old.executionOrderId ∧
        report.actualFinishedQuantity = old.actualFinishedQuantity := by
    intro reportId report found
    rw [judged.reports] at found
    rcases Table.find?_modify_cases found with ⟨rfl, old, foundOld, rfl⟩ | ⟨-, old⟩
    · exact ⟨old, foundOld, rfl, rfl⟩
    · exact ⟨report, old, rfl, rfl⟩
  constructor
  · intro key order found
    rw [judged.orders] at found
    rcases Table.find?_modify_cases found with ⟨rfl, old, foundOld, rfl⟩ | ⟨-, old⟩
    · exact agrees.planned _ old foundOld
    · exact agrees.planned _ order old
  · intro key order found runs
    rw [judged.orders] at found
    rcases Table.find?_modify_cases found with ⟨rfl, old, foundOld, rfl⟩ | ⟨-, old⟩
    · rw [(judged_status approval body.decision row old).1] at runs
      cases runs
    · refine ⟨(agrees.running _ order old runs).1, ?_⟩
      intro reportId report foundNow
      obtain ⟨before, foundBefore, same, -⟩ := owner reportId report foundNow
      rw [same]
      exact (agrees.running _ order old runs).2 reportId before foundBefore
  · intro reportId report foundNow
    obtain ⟨before, foundBefore, same, actual⟩ := owner reportId report foundNow
    obtain ⟨nonneg, order, found, waits⟩ := agrees.reported reportId before foundBefore
    rw [same, actual, judged.orders]
    refine ⟨nonneg, ?_⟩
    by_cases here : before.executionOrderId = row.report.executionOrderId
    · rw [here] at found ⊢
      refine ⟨_, Table.find?_modify_self _ found, ?_⟩
      exact fun waiting => absurd waiting (judged_status approval body.decision row order).2
    · exact ⟨order, by rw [Table.find?_modify_ne _ _ here]; exact found, waits⟩
  · intro first firstReport second secondReport foundFirst foundSecond same
    obtain ⟨before, foundBefore, owned, -⟩ := owner first firstReport foundFirst
    obtain ⟨before', foundBefore', owned', -⟩ := owner second secondReport foundSecond
    exact agrees.single first before second before' foundBefore foundBefore'
      (by rw [← owned, ← owned', same])

theorem Agrees.same (agrees : Agrees db) (orders : db' executionOrders = db executionOrders)
    (reports : db' productionReports = db productionReports) : Agrees db' := by
  constructor
  · rw [orders]
    exact agrees.planned
  · rw [orders, reports]
    exact agrees.running
  · rw [orders, reports]
    exact agrees.reported
  · rw [reports]
    exact agrees.single

theorem Worked.agrees (worked : Worked db event db') (agrees : Agrees db) : Agrees db' := by
  cases worked with
  | created created kept => exact agrees.created created (kept _ (by decide))
  | transitioned found foundItem transitioned kept =>
      rcases transitioned.plant with ⟨orders, reports⟩ | ⟨planned, reports, orders⟩ |
        ⟨actual, pending, report, runs, nonneg, -, orders, reports, owner, finished⟩
      · exact agrees.same orders reports
      · exact agrees.started found planned orders reports
      · exact agrees.completed found runs nonneg orders reports owner finished
  | judged judged => exact agrees.judged judged
  | elsewhere orders lines reports => exact agrees.same orders reports

theorem step_agrees (step : Step effects db event db') (agrees : Agrees db) : Agrees db' :=
  step.preserves Agrees
    (fun apart agrees => agrees.same (apart _ (by decide)) (apart _ (by decide)))
    fun work => (work_worked work).agrees agrees

theorem reached_agrees (opens : OpeningProduction opening)
    (run : Run (Step effects) opening events db) : Agrees db :=
  run.preserves Agrees step_agrees opens.agrees

/-! ## An order item to replay -/

/-- An order item of ten finished goods with its plan, its bill of two parts
for each good, the warehouse of its factory and a hundred of the parts in it. -/
def plannedDatabase : Database :=
  (((((((((emptyDatabase.put purchaseOrders (Table.empty.insert
      { orderNo := "PO", orderDate := "2", status := .confirmed
        totalTaxIncludedMinor := 100 })).put
    orderItems (Table.empty.insert
      { purchaseOrderId := 1, sku := "GOOD", itemType := some "finished", supplierId := none
        quantity := 10, receivedQuantity := 0, unitPriceTaxIncludedMinor := 10 })).put
    purchasePlanItems (Table.empty.insert
      { purchasePlanId := 1, expectedArrivalDate := "9", factoryId := 1, warehouseId := 1
        sku := "GOOD", bomId := 1, plannedQuantity := 10, orderedQuantity := 10
        completionStatus := .withinTolerance })).put
    purchasePlanOrderLinks (Table.empty.insert
      { purchasePlanItemId := 1, orderItemId := 1, allocatedQuantity := 10 })).put
    productBoms (Table.empty.insert
      { finishedSku := "GOOD", version := "1", active := true, approvalStatus := .approved
        effectiveFrom := "1", effectiveTo := none })).put
    bomComponents (Table.empty.insert
      { bomId := 1, componentSku := "PART", quantityPerFinished := 2
        issueToleranceBps := 10000, consumptionToleranceBps := 10000
        lossToleranceBps := 10000 })).put
    skus (Table.empty.insert
      { code := "GOOD", itemType := some "finished", overproductionToleranceBps := 0 })).put
    warehouses (Table.empty.insert
      { code := "F", name := "F", type := .factory, factoryId := some 1, status := .active })).put
    inventoryBatches (Table.empty.insert
      { batchNo := "P", warehouseId := 1, sku := "PART", inboundDate := "1"
        availableQuantity := 100 }))

theorem plannedDatabase_opens : OpeningProduction plannedDatabase where
  orders _ := rfl
  lines _ := rfl
  reports _ := rfl

def plans (time : Nat) (quantity : Int) : Request :=
  requestAt time 1 [.supplyChain] (.createProductionOrder
    { orderItemId := 1, factoryId := 1, bomId := 1, plannedQuantity := quantity
      plannedStartDate := "1", plannedFinishDate := "2" })

def works (time : Nat) (action : ProductionAction) : Request :=
  requestAt time 1 [.supplyChain] (.transitionProductionOrder { id := 1, action })

/-- A reservation of the parts for the order. -/
def reserves (time : Nat) (quantity : Int) : Request :=
  requestAt time 1 [.supplyChain] (.reserveInventory
    { batchId := 1, entityType := .productionOrder, entityId := some 1
      requestedQuantity := quantity })

def judges (time approvalId : Nat) (decision : Decision) : Request :=
  requestAt time 2 [.supplyChain] (.decideApproval { id := approvalId, decision })

end SupplyChain.ProductionOrders
