import SupplyChain.ProductionOrders.Reports

/-!
The output of an execution order: when the order leaves production, its report,
its completed quantity and the batches that the step creates account for every
finished unit, unless a refused variance stores nothing of what it accepts.
-/

namespace SupplyChain.ProductionOrders

open Relational TableName Stock
open ApprovalEffects (ReportRow reportRow acceptedQuantity factoryOwnedQuantity isOverproduction
  stores companyBatch factoryBatch)

variable {effects : Approvals.ProcurementEffects} {command : CommandContext} {db db' : Database}
  {event : Event} {opening : Database} {events : List Event}

/-- Everything that a batch holds. -/
def totalQuantity (batch : InventoryBatch) : Int :=
  batch.availableQuantity + batch.lockedQuantity + batch.defectiveQuantity +
    batch.pendingInspectionQuantity + batch.quarantineQuantity

/-- The quantity of the batches of an owner that are new in `now`. -/
def createdQuantity (before now : Table InventoryBatch) (ownership : Ownership) : Int :=
  now.weigh fun id batch =>
    if before.nextId ≤ id ∧ batch.ownership = ownership then totalQuantity batch else 0

/-- The step takes the order of a report out of production or of its variance. -/
structure Finishes (db db' : Database) (orderId reportId : Nat) : Prop where
  before : ∃ order, (db executionOrders).find? orderId = some order ∧
    (order.status.running = true ∨ order.status = .variancePending)
  after : ∃ order, (db' executionOrders).find? orderId = some order ∧
    order.status.running = false ∧ order.status ≠ .variancePending
  report : ∃ report, (db' productionReports).find? reportId = some report ∧
    report.executionOrderId = orderId

/-- No finished unit is recorded without stock and none is lost. -/
def Accounts (db db' : Database) (orderId reportId : Nat) : Prop :=
  ∃ order report, (db' executionOrders).find? orderId = some order ∧
    (db' productionReports).find? reportId = some report ∧
    report.companyInventoryQuantity =
      createdQuantity (db inventoryBatches) (db' inventoryBatches) .company ∧
    report.factoryOwnedQuantity =
      createdQuantity (db inventoryBatches) (db' inventoryBatches) .factory ∧
    order.completedQuantity = report.companyInventoryQuantity ∧
    report.companyInventoryQuantity + report.factoryOwnedQuantity = report.actualFinishedQuantity

/-- A refused variance is one of an overproduction, or nothing was made. -/
def StoresOutput (db : Database) : Event → Prop
  | .command ⟨_, .decideApproval body⟩ => body.decision = .rejected →
      ∀ approval ∈ (db approvalRequests).find? body.id, ∀ row ∈ varianceRow db body,
        isOverproduction approval.payload = true ∨ row.report.actualFinishedQuantity = 0
  | _ => True

/-! ## Created batches -/

theorem createdQuantity_same {before now : Table InventoryBatch} {ownership : Ownership}
    (same : now.nextId = before.nextId) : createdQuantity before now ownership = 0 := by
  refine Table.weigh_zero ?_
  intro id batch found
  have below := Table.find?_lt_nextId found
  rw [if_neg fun both => by omega]

theorem createdQuantity_insert {before now : Table InventoryBatch} {ownership : Ownership}
    (grows : before.nextId ≤ now.nextId) (batch : InventoryBatch) :
    createdQuantity before (now.insert batch) ownership =
      createdQuantity before now ownership +
        (if batch.ownership = ownership then totalQuantity batch else 0) := by
  rw [createdQuantity, Table.weigh_insert, createdQuantity]
  simp [grows]

theorem createdQuantity_insertWhen {before now : Table InventoryBatch} {ownership : Ownership}
    (grows : before.nextId ≤ now.nextId) {batch : InventoryBatch} {quantity : Int}
    (holds : totalQuantity batch = quantity) :
    createdQuantity before (now.insertWhen (0 < quantity) batch) ownership =
      createdQuantity before now ownership +
        (if batch.ownership = ownership then max 0 quantity else 0) := by
  unfold Table.insertWhen
  by_cases positive : 0 < quantity
  · rw [if_pos positive, createdQuantity_insert grows, holds]
    split <;> omega
  · rw [if_neg positive]
    split <;> omega

theorem insertWhen_grows {table : Table InventoryBatch} (condition : Prop) [Decidable condition]
    (batch : InventoryBatch) : table.nextId ≤ (table.insertWhen condition batch).nextId := by
  unfold Table.insertWhen
  split
  · exact Nat.le_succ _
  · exact Nat.le_refl _

/-! ## The steps that finish an order -/

theorem Finishes.changed {orderId reportId : Nat} (finishes : Finishes db db' orderId reportId) :
    (db' executionOrders).find? orderId ≠ (db executionOrders).find? orderId := by
  intro same
  obtain ⟨order, found, was⟩ := finishes.before
  obtain ⟨now, foundNow, stopped, decided⟩ := finishes.after
  rw [same, found] at foundNow
  cases foundNow
  rcases was with runs | waits
  · rw [stopped] at runs
    cases runs
  · exact decided waits

theorem ReportedAll.admits {orderId : Nat} {lines : List MaterialReport} {moves : List Move}
    (reported : ReportedAll orderId lines moves db db') :
    ∀ move ∈ moves, ∀ batch, move ≠ .intake batch := by
  rintro move member batch rfl
  obtain ⟨rows, row, -, quantity, other | other⟩ := reported.onPool _ member
  · cases other
  · cases other

theorem Stored.created {id : Nat} {order : ExecutionOrder} {sku : String} {actual : Int}
    {deviates : Bool} {before : Table InventoryBatch}
    (stored : Stored command id order sku actual deviates db db' false)
    (same : (db inventoryBatches).nextId = before.nextId) :
    createdQuantity before (db' inventoryBatches) .company = actual ∧
      createdQuantity before (db' inventoryBatches) .factory = 0 ∧
      ∃ batchId, db' productionReports =
        (db productionReports).insert (reportOf id order actual false false false batchId) := by
  cases stored with
  | empty none reports batches _ _ =>
      rw [batches, createdQuantity_same same, createdQuantity_same same]
      exact ⟨none.symm, rfl, _, reports⟩
  | stored positive _ _ reports batches _ _ =>
      rw [batches, createdQuantity_insert (Nat.le_of_eq same.symm),
        createdQuantity_insert (Nat.le_of_eq same.symm), createdQuantity_same same,
        createdQuantity_same same]
      exact ⟨by simp [outputBatch, totalQuantity], by simp [outputBatch], _, reports⟩

theorem Transitioned.accounts {id orderId reportId : Nat} {order : ExecutionOrder} {sku : String}
    {action : ProductionAction} {sent : List DomainEvent} (agrees : Agrees db)
    (found : (db executionOrders).find? id = some order)
    (transitioned : Transitioned command id order sku db db' action sent)
    (finishes : Finishes db db' orderId reportId) : Accounts db db' orderId reportId := by
  have changed := finishes.changed
  cases transitioned with
  | released _ _ _ _ _ _ kept => rw [kept _ (by decide)] at changed; exact absurd rfl changed
  | started planned orders kept =>
      obtain ⟨now, foundNow, stopped, -⟩ := finishes.after
      rw [orders] at changed foundNow
      rcases Table.find?_modify_cases foundNow with ⟨rfl, old, -, rfl⟩ | ⟨differ, -⟩
      · cases stopped
      · exact absurd (Table.find?_modify_ne _ _ differ) changed
  | reported begins reported ends =>
      rw [ends _ (by decide), reported.kept _ (by decide), begins _ (by decide)] at changed
      exact absurd rfl changed
  | @completed lines start mid moves actual deviates pending begins reported completed _ _ =>
      have orders := (reported.kept executionOrders (by decide)).trans (begins _ (by decide))
      have reports := (reported.kept productionReports (by decide)).trans (begins _ (by decide))
      obtain ⟨now, foundNow, stopped, decided⟩ := finishes.after
      have written := completed.orders
      rw [orders] at written
      rw [written] at changed foundNow
      rcases Table.find?_modify_cases foundNow with ⟨rfl, old, -, rfl⟩ | ⟨differ, -⟩
      · cases pending with
        | true => exact absurd rfl decided
        | false =>
            have same : (mid inventoryBatches).nextId = (db inventoryBatches).nextId := by
              have run := reported.run
              rw [begins.stock] at run
              exact run.nextBatch reported.admits
            obtain ⟨company, factory, batchId, inserted⟩ := completed.stored.created same
            rw [reports] at inserted
            obtain ⟨report, foundReport, owner⟩ := finishes.report
            rw [inserted] at foundReport
            rcases Table.find?_insert_cases foundReport with ⟨rfl, rfl⟩ | older
            · refine ⟨_, _, by rw [written]; exact Table.find?_modify_self _ found,
                by rw [inserted]; exact Table.find?_insert_nextId _ _, ?_⟩
              rw [company, factory]
              simp [reportOf]
            · exact absurd owner ((agrees.running _ order found completed.running).2 _ _ older)
      · exact absurd (Table.find?_modify_ne _ _ differ) changed

theorem accounts_iff {orderId reportId : Nat} {order : ExecutionOrder} {report : ProductionReport}
    (foundOrder : (db' executionOrders).find? orderId = some order)
    (foundReport : (db' productionReports).find? reportId = some report) :
    Accounts db db' orderId reportId ↔
      report.companyInventoryQuantity =
        createdQuantity (db inventoryBatches) (db' inventoryBatches) .company ∧
      report.factoryOwnedQuantity =
        createdQuantity (db inventoryBatches) (db' inventoryBatches) .factory ∧
      order.completedQuantity = report.companyInventoryQuantity ∧
      report.companyInventoryQuantity + report.factoryOwnedQuantity =
        report.actualFinishedQuantity := by
  constructor
  · rintro ⟨order', report', found, found', balances⟩
    rw [foundOrder] at found
    rw [foundReport] at found'
    cases found
    cases found'
    exact balances
  · intro balances
    exact ⟨order, report, foundOrder, foundReport, balances⟩

/-- A decision that stores creates what it accepts and what it leaves to the
factory; another one creates nothing. -/
theorem Judged.created {body : Approvals.DecideApproval} {approval : ApprovalRequest}
    {row : ReportRow} (judged : Judged command body approval row db db') :
    (stores approval body.decision ∧
      createdQuantity (db inventoryBatches) (db' inventoryBatches) .company =
        max 0 (acceptedQuantity row body.decision) ∧
      createdQuantity (db inventoryBatches) (db' inventoryBatches) .factory =
        max 0 (factoryOwnedQuantity row body.decision (isOverproduction approval.payload))) ∨
    (¬ stores approval body.decision ∧
      createdQuantity (db inventoryBatches) (db' inventoryBatches) .company = 0 ∧
      createdQuantity (db inventoryBatches) (db' inventoryBatches) .factory = 0) := by
  rcases judged.batches with ⟨none, batches⟩ | ⟨brings, warehouseId, batches⟩
  · rw [batches]
    exact Or.inr ⟨none, createdQuantity_same rfl, createdQuantity_same rfl⟩
  · refine Or.inl ⟨brings, ?_, ?_⟩
    · rw [batches, judgedBatches, createdQuantity_insertWhen (insertWhen_grows _ _)
        (by simp [totalQuantity, factoryBatch]), createdQuantity_insertWhen (Nat.le_refl _)
        (by simp [totalQuantity, companyBatch]), createdQuantity_same rfl]
      simp [companyBatch, factoryBatch]
    · rw [batches, judgedBatches, createdQuantity_insertWhen (insertWhen_grows _ _)
        (by simp [totalQuantity, factoryBatch]), createdQuantity_insertWhen (Nat.le_refl _)
        (by simp [totalQuantity, companyBatch]), createdQuantity_same rfl]
      simp [companyBatch, factoryBatch]

theorem Judged.finishes {body : Approvals.DecideApproval} {approval : ApprovalRequest}
    {row : ReportRow} {orderId reportId : Nat} (agrees : Agrees db)
    (judged : Judged command body approval row db db')
    (finishes : Finishes db db' orderId reportId) :
    orderId = row.report.executionOrderId ∧ reportId = approval.entityId := by
  obtain ⟨foundReport, foundOrder, -⟩ := ApprovalEffects.reportRow_some judged.report
  have changed := finishes.changed
  rw [judged.orders] at changed
  by_cases same : orderId = row.report.executionOrderId
  · refine ⟨same, ?_⟩
    obtain ⟨report, found, owner⟩ := finishes.report
    rw [judged.reports] at found
    rcases Table.find?_modify_cases found with ⟨here, -⟩ | ⟨-, old⟩
    · exact here
    · exact agrees.single _ _ _ _ old foundReport (owner.trans same)
  · exact absurd (Table.find?_modify_ne _ _ same) changed

theorem Judged.accounts {body : Approvals.DecideApproval} {approval : ApprovalRequest}
    {row : ReportRow} (agrees : Agrees db) (judged : Judged command body approval row db db') :
    Accounts db db' row.report.executionOrderId approval.entityId ↔
      (body.decision = .rejected →
        isOverproduction approval.payload = true ∨ row.report.actualFinishedQuantity = 0) := by
  obtain ⟨foundReport, foundOrder, -⟩ := ApprovalEffects.reportRow_some judged.report
  have nonneg := (agrees.reported _ _ foundReport).1
  have planned := agrees.planned _ _ foundOrder
  have order : (db' executionOrders).find? row.report.executionOrderId =
      some (judgedOrder approval body.decision row row.order) := by
    rw [judged.orders]
    exact Table.find?_modify_self _ foundOrder
  have report : (db' productionReports).find? approval.entityId =
      some (judgedReport approval body.decision row row.report) := by
    rw [judged.reports]
    exact Table.find?_modify_self _ foundReport
  rw [accounts_iff order report]
  simp only [judgedOrder, judgedReport]
  rcases judged.created with ⟨brings, company, factory⟩ | ⟨none, company, factory⟩
  · rw [company, factory]
    cases decision : body.decision with
    | approved =>
        simp only [acceptedQuantity, factoryOwnedQuantity, if_true, reduceCtorEq, false_and,
          if_false, false_implies, iff_true, true_and]
        omega
    | rejected =>
        simp only [stores, decision, reduceCtorEq, false_or] at brings
        simp only [acceptedQuantity, factoryOwnedQuantity, brings, reduceCtorEq, if_false,
          and_self, if_true, true_or, implies_true, iff_true, true_and]
        omega
  · rw [company, factory]
    simp only [stores, not_or, Bool.not_eq_true] at none
    obtain ⟨refused, within⟩ := none
    have rejected : body.decision = .rejected := by
      cases decision : body.decision with
      | approved => exact absurd decision refused
      | rejected => rfl
    simp only [acceptedQuantity, factoryOwnedQuantity, within, rejected, reduceCtorEq,
      Bool.false_eq_true, and_false, if_false, false_or, true_implies, true_and]
    omega

/-! ## Every finished order -/

theorem output_accounts (opens : OpeningProduction opening)
    (run : Run (Step effects) opening events db) (step : Step effects db event db')
    {orderId reportId : Nat} (finishes : Finishes db db' orderId reportId) :
    Accounts db db' orderId reportId ↔ StoresOutput db event := by
  have agrees := reached_agrees opens run
  obtain ⟨mid, work, apart⟩ := step.works
  have orders := apart executionOrders (by decide)
  have reports := apart productionReports (by decide)
  have batches := apart inventoryBatches (by decide)
  have finished : Finishes db mid orderId reportId :=
    ⟨finishes.before, by rw [← orders]; exact finishes.after,
      by rw [← reports]; exact finishes.report⟩
  rw [Accounts, orders, reports, batches]
  change Accounts db mid orderId reportId ↔ StoresOutput db event
  cases work_worked work with
  | created created kept =>
      exfalso
      obtain ⟨order, found, -⟩ := finished.before
      apply finished.changed
      rw [created.orders, Table.find?_insert_of_some found, found]
  | transitioned found foundItem transitioned kept =>
      have balances := transitioned.accounts agrees found finished
      simpa only [StoresOutput, iff_true] using balances
  | judged judged =>
      obtain ⟨rfl, rfl⟩ := judged.finishes agrees finished
      rw [judged.accounts agrees]
      simp [StoresOutput, judged.found, judged.varianceRow]
  | elsewhere same lines reported =>
      exfalso
      exact finished.changed (by rw [same])

/-- What a step can be seen to finish. -/
def finishesSeen (db db' : Database) (orderId reportId : Nat) : Bool :=
  ((db executionOrders).find? orderId).any (fun order =>
      order.status.running || order.status == .variancePending) &&
    ((db' executionOrders).find? orderId).any (fun order =>
      !order.status.running && order.status != .variancePending) &&
    ((db' productionReports).find? reportId).any fun report => report.executionOrderId == orderId

theorem finishesSeen_finishes {orderId reportId : Nat}
    (seen : finishesSeen db db' orderId reportId = true) : Finishes db db' orderId reportId := by
  simp only [finishesSeen, Bool.and_eq_true, Option.any_eq_true, Bool.or_eq_true, beq_iff_eq,
    Bool.not_eq_true', bne_iff_ne] at seen
  exact ⟨seen.1.1, seen.1.2, seen.2⟩

/-- A refused underproduction: eight units are recorded in the company
inventory and no batch was created for them. -/
theorem output_without_stock :
    OpeningProduction plannedDatabase ∧
      ∃ db db', Run (Step noProcurement) plannedDatabase
          ([plans 1 10, works 2 (.complete 8 [])].map .command) db ∧
        Step noProcurement db (.command (judges 3 1 .rejected)) db' ∧ Finishes db db' 1 1 ∧
        (∃ report, (db' productionReports).find? 1 = some report ∧
          report.companyInventoryQuantity = 8) ∧
        createdQuantity (db inventoryBatches) (db' inventoryBatches) .company = 0 ∧
        ¬ Accounts db db' 1 1 := by
  refine ⟨plannedDatabase_opens, ?_⟩
  obtain ⟨db, db', run, step, seen⟩ := replay_steps noProcurement
    [plans 1 10, works 2 (.complete 8 [])] (judges 3 1 .rejected) plannedDatabase
    (fun db db' => finishesSeen db db' 1 1 &&
      ((db' productionReports).find? 1).any (fun report =>
        report.companyInventoryQuantity == 8) &&
      createdQuantity (db inventoryBatches) (db' inventoryBatches) .company == 0)
    (by decide +kernel)
  simp only [Bool.and_eq_true, Option.any_eq_true, beq_iff_eq] at seen
  obtain ⟨⟨finishes, report, found, eight⟩, none⟩ := seen
  refine ⟨db, db', run, step, finishesSeen_finishes finishes, ⟨report, found, eight⟩, none, ?_⟩
  rintro ⟨_, other, -, foundOther, company, -⟩
  rw [found] at foundOther
  cases foundOther
  omega

/-- An approved overproduction accounts for the fifteen units made. -/
theorem output_accounts_approved :
    ∃ db db', Run (Step noProcurement) plannedDatabase
        ([plans 1 10, works 2 (.complete 15 [])].map .command) db ∧
      Step noProcurement db (.command (judges 3 1 .approved)) db' ∧ Finishes db db' 1 1 ∧
      StoresOutput db (.command (judges 3 1 .approved)) ∧ Accounts db db' 1 1 := by
  obtain ⟨db, db', run, step, seen⟩ := replay_steps noProcurement
    [plans 1 10, works 2 (.complete 15 [])] (judges 3 1 .approved) plannedDatabase
    (fun db db' => finishesSeen db db' 1 1) (by decide +kernel)
  have finishes := finishesSeen_finishes seen
  have stores : StoresOutput db (.command (judges 3 1 .approved)) := by
    intro rejected
    cases rejected
  exact ⟨db, db', run, step, finishes, stores,
    (output_accounts plannedDatabase_opens run step finishes).mpr stores⟩

end SupplyChain.ProductionOrders
