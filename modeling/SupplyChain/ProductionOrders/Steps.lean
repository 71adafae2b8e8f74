import SupplyChain.Operations
import SupplyChain.ProductionOrders.Outcomes
import SupplyChain.Approvals.Outcomes

/-!
What every step of the operations system does to the execution orders, their
material lines and their reports: an order is created, makes a transition, has
its variance decided, or stays as it is.
-/

namespace SupplyChain.ProductionOrders

open Relational Transaction TableName Stock
open ApprovalEffects (ReportRow reportRow acceptedQuantity factoryOwnedQuantity isOverproduction
  stores companyBatch factoryBatch)

variable {effects : Approvals.ProcurementEffects} {command : CommandContext} {db db' : Database}
  {reply : JsonValue} {sent : List DomainEvent} {event : Event}

/-! ## Decisions of a variance -/

/-- The order of a decided report. -/
def judgedOrder (approval : ApprovalRequest) (decision : Decision) (row : ReportRow)
    (order : ExecutionOrder) : ExecutionOrder :=
  { order with
    completedQuantity := acceptedQuantity row decision
    status := if decision = .approved then .completed
      else if isOverproduction approval.payload then .completedFactoryOwned
      else .varianceRejected }

/-- The report after its decision. -/
def judgedReport (approval : ApprovalRequest) (decision : Decision) (row : ReportRow)
    (report : ProductionReport) : ProductionReport :=
  { report with
    result := if decision = .approved then .approved
      else if isOverproduction approval.payload then .rejectedFactoryOwned else .rejected
    companyInventoryQuantity := acceptedQuantity row decision
    factoryOwnedQuantity :=
      factoryOwnedQuantity row decision (isOverproduction approval.payload) }

/-- The batches of a decided report. -/
def judgedBatches (command : CommandContext) (approval : ApprovalRequest) (decision : Decision)
    (row : ReportRow) (warehouseId : Nat) (batches : Table InventoryBatch) :
    Table InventoryBatch :=
  (batches.insertWhen (0 < acceptedQuantity row decision)
    (companyBatch command approval.entityId row warehouseId (acceptedQuantity row decision))).insertWhen
    (0 < factoryOwnedQuantity row decision (isOverproduction approval.payload))
    (factoryBatch command approval.entityId row warehouseId
      (factoryOwnedQuantity row decision (isOverproduction approval.payload)))

/-- What a committed decision of a production variance did. -/
structure Judged (command : CommandContext) (body : Approvals.DecideApproval)
    (approval : ApprovalRequest) (row : ReportRow) (db db' : Database) : Prop where
  found : (db approvalRequests).find? body.id = some approval
  pending : approval.status = .pending
  workflow : approval.workflowType = .productionVariance
  report : reportRow db approval.entityId = some row
  waiting : row.order.status = .variancePending
  orders : db' executionOrders = (db executionOrders).modify row.report.executionOrderId
    (judgedOrder approval body.decision row)
  reports : db' productionReports = (db productionReports).modify approval.entityId
    (judgedReport approval body.decision row)
  lines : db' productionMaterialLines = (db productionMaterialLines).update
    (fun _ line => line.executionOrderId == row.report.executionOrderId)
    (fun line => { line with
      deviationStatus := if body.decision = .approved then .approved else .rejected
      reservedQuantity := 0 })
  batches : (¬ stores approval body.decision ∧ db' inventoryBatches = db inventoryBatches) ∨
    (stores approval body.decision ∧ ∃ warehouseId, db' inventoryBatches =
      judgedBatches command approval body.decision row warehouseId (db inventoryBatches))
  approvals : ∃ change : ApprovalRequest → ApprovalRequest,
    db' approvalRequests = (db approvalRequests).modify body.id change ∧
      ∀ row, (change row).status = body.decision.status ∧
        (change row).workflowType = row.workflowType ∧ (change row).entityId = row.entityId
  kept : ∀ t, t ∉ [resourceVersions, productionReports, productionMaterialLines, executionOrders,
    inventoryBatches, inventoryMovements, approvalRequests, authChallenges] → db' t = db t

theorem decideApproval_judged {body : Approvals.DecideApproval} {approval : ApprovalRequest}
    {mid : Database} (decided : Approvals.Decided effects command body approval db mid db')
    (workflow : approval.workflowType = .productionVariance) :
    ∃ row, Judged command body approval row db db' := by
  obtain ⟨outcome, effect⟩ := decided.effect
  simp only [Approvals.approvalEffect, workflow, returns_widen] at effect
  obtain ⟨row, report, waiting, -, orders, batches⟩ :=
    ApprovalEffects.productionVariance_returns effect
  obtain ⟨other, report', reports, lines⟩ := ApprovalEffects.productionVariance_tables effect
  obtain rfl : row = other := Option.some.inj (report.symm.trans report')
  have same := decided.kept
  refine ⟨row,
    { found := decided.found
      pending := decided.pending
      workflow := workflow
      report := by
        rw [← report]
        simp [reportRow, same]
      waiting := waiting
      orders := by rw [orders, same _ (by decide) (by decide)]; rfl
      reports := by rw [reports, same _ (by decide) (by decide)]; rfl
      lines := by rw [lines, same _ (by decide) (by decide)]
      batches := ?_
      approvals := ?_
      kept := ?_ }⟩
  · rw [← same inventoryBatches (by decide) (by decide)]
    rcases batches with ⟨none, kept⟩ | ⟨brings, warehouseId, -, -, stored⟩
    · exact Or.inl ⟨none, kept⟩
    · exact Or.inr ⟨brings, warehouseId, stored⟩
  · rw [effect.unwritten approvalRequests (by decide)]
    exact decided.decided
  · intro t outside
    simp only [List.mem_cons, List.not_mem_nil, or_false, not_or] at outside
    rw [effect.unwritten t (by simp [outside]), same t (by simp [outside]) (by simp [outside])]

/-- The report that a decision is about, when it is one of a variance. -/
def varianceRow (db : Database) (body : Approvals.DecideApproval) : Option ReportRow :=
  ((db approvalRequests).find? body.id).bind fun approval =>
    if approval.workflowType = .productionVariance then reportRow db approval.entityId else none

theorem Judged.varianceRow {body : Approvals.DecideApproval} {approval : ApprovalRequest}
    {row : ReportRow} (judged : Judged command body approval row db db') :
    varianceRow db body = some row := by
  simp [ProductionOrders.varianceRow, judged.found, judged.workflow, judged.report]

theorem work_transitioned {body : TransitionProductionOrder}
    (work : Work effects db (.command ⟨command, .transitionProductionOrder body⟩) db') :
    ∃ order item sent, (db executionOrders).find? body.id = some order ∧
      (db orderItems).find? order.orderItemId = some item ∧
      Transitioned command body.id order item.sku db db' body.action sent := by
  cases work with
  | command returns =>
      simp only [runCommand, returns_widen] at returns
      obtain ⟨order, item, found, foundItem, transitioned⟩ :=
        transitionProductionOrder_returns returns
      exact ⟨order, item, _, found, foundItem, transitioned⟩

/-! ## Steps -/

/-- What a step does to the production tables. -/
inductive Worked (db : Database) : Event → Database → Prop
  | created {db' : Database} {command : CommandContext} {body : CreateProductionOrder}
      {item : OrderItem} {bom : ProductBom} (created : Created command body item bom db db')
      (kept : ∀ t, t ∉ [resourceVersions, executionOrders, productionMaterialLines] →
        db' t = db t) :
      Worked db (.command ⟨command, .createProductionOrder body⟩) db'
  | transitioned {db' : Database} {command : CommandContext} {body : TransitionProductionOrder}
      {order : ExecutionOrder} {item : OrderItem} {sent : List DomainEvent}
      (found : (db executionOrders).find? body.id = some order)
      (foundItem : (db orderItems).find? order.orderItemId = some item)
      (transitioned : Transitioned command body.id order item.sku db db' body.action sent)
      (kept : ∀ t, t ∉ [resourceVersions, executionOrders, inventoryBatches,
        inventoryReservations, productionReports, inventoryMovements, productionMaterialLines,
        approvalRequests] → db' t = db t) :
      Worked db (.command ⟨command, .transitionProductionOrder body⟩) db'
  | judged {db' : Database} {command : CommandContext} {body : Approvals.DecideApproval}
      {approval : ApprovalRequest} {row : ReportRow}
      (judged : Judged command body approval row db db') :
      Worked db (.command ⟨command, .decideApproval body⟩) db'
  | elsewhere {event : Event} {db' : Database}
      (orders : db' executionOrders = db executionOrders)
      (lines : db' productionMaterialLines = db productionMaterialLines)
      (reports : db' productionReports = db productionReports) : Worked db event db'

theorem decideApproval_worked {body : Approvals.DecideApproval}
    (returns : (Approvals.decideApproval effects command body).Returns db reply sent db') :
    Worked db (.command ⟨command, .decideApproval body⟩) db' := by
  obtain ⟨-, approval, mid, decided⟩ := Approvals.decideApproval_returns returns
  by_cases workflow : approval.workflowType = .productionVariance
  · obtain ⟨row, judged⟩ := decideApproval_judged decided workflow
    exact Worked.judged judged
  · obtain ⟨outcome, effect⟩ := decided.effect
    have same := decided.kept
    unfold Approvals.approvalEffect at effect
    cases named : approval.workflowType with
    | productionVariance => exact absurd named workflow
    | _ =>
        simp only [named, returns_widen] at effect
        have unwritten := effect.unwritten
        exact Worked.elsewhere (by simp [unwritten, same]) (by simp [unwritten, same])
          (by simp [unwritten, same])

theorem work_worked (work : Work effects db event db') : Worked db event db' := by
  cases work with
  | @command _ request reply sent returns =>
      obtain ⟨command, body⟩ := request
      unfold runCommand at returns
      cases body with
      | decideApproval body => exact decideApproval_worked (returns_widen.mp returns)
      | createProductionOrder body =>
          have ran := returns_widen.mp returns
          obtain ⟨-, item, bom, created⟩ := createProductionOrder_returns ran
          refine Worked.created created ?_
          intro t outside
          simp only [List.mem_cons, List.not_mem_nil, or_false, not_or] at outside
          exact ran.unwritten t (by simp [outside])
      | transitionProductionOrder body =>
          have ran := returns_widen.mp returns
          obtain ⟨order, item, found, foundItem, transitioned⟩ :=
            transitionProductionOrder_returns ran
          exact Worked.transitioned found foundItem transitioned ran.unwritten
      | _ =>
          have unwritten := (returns_widen.mp returns).unwritten
          exact Worked.elsewhere (by simp [unwritten]) (by simp [unwritten]) (by simp [unwritten])
  | warnInvoiceRisk warned =>
      have unwritten := warned.unwritten
      exact Worked.elsewhere (by simp [unwritten]) (by simp [unwritten]) (by simp [unwritten])
  | procurement own =>
      exact Worked.elsewhere (by simp [own, foreignTables]) (by simp [own, foreignTables])
        (by simp [own, foreignTables])
  | approvalRequest => exact Worked.elsewhere (by simp) (by simp) (by simp)
  | outboxMessage => exact Worked.elsewhere rfl rfl rfl

/-- Where an order after a step comes from: it was there for the same order item,
or it is being created. -/
theorem Worked.orderFrom (worked : Worked db event db') {id : Nat} {new : ExecutionOrder}
    (found : (db' executionOrders).find? id = some new) :
    (∃ old, (db executionOrders).find? id = some old ∧ new.orderItemId = old.orderItemId) ∨
    ∃ command body item bom, event = .command ⟨command, .createProductionOrder body⟩ ∧
      Created command body item bom db db' ∧ new = orderOf command body ∧
      id = (db executionOrders).nextId := by
  have same : (db executionOrders).find? id = some new →
      ∃ old, (db executionOrders).find? id = some old ∧ new.orderItemId = old.orderItemId :=
    fun old => ⟨new, old, rfl⟩
  have changed : ∀ {order : Nat} {change : ExecutionOrder → ExecutionOrder},
      ((db executionOrders).modify order change).find? id = some new →
      (∀ row, (change row).orderItemId = row.orderItemId) →
      ∃ old, (db executionOrders).find? id = some old ∧ new.orderItemId = old.orderItemId := by
    intro order change modified kept
    rcases Table.find?_modify_cases modified with ⟨rfl, old, foundOld, rfl⟩ | ⟨-, old⟩
    · exact ⟨old, foundOld, kept old⟩
    · exact same old
  cases worked with
  | created created kept =>
      rw [created.orders] at found
      rcases Table.find?_insert_cases found with ⟨rfl, rfl⟩ | old
      · exact Or.inr ⟨_, _, _, _, rfl, created, rfl, rfl⟩
      · exact Or.inl (same old)
  | @transitioned _ _ body _ _ _ foundOrder foundItem transitioned kept =>
      refine Or.inl ?_
      obtain ⟨order, action⟩ := body
      cases transitioned with
      | released _ _ _ _ _ _ kept =>
          rw [kept _ (by decide)] at found
          exact same found
      | started _ orders _ =>
          rw [orders] at found
          exact changed found fun _ => rfl
      | reported begins reported ends =>
          rw [ends _ (by decide), reported.kept _ (by decide), begins _ (by decide)] at found
          exact same found
      | completed begins reported completed _ _ =>
          rw [completed.orders, reported.kept _ (by decide), begins _ (by decide)] at found
          exact changed found fun _ => rfl
  | judged judged =>
      rw [judged.orders] at found
      exact Or.inl (changed found fun _ => rfl)
  | elsewhere orders _ _ =>
      rw [orders] at found
      exact Or.inl (same found)

end SupplyChain.ProductionOrders
