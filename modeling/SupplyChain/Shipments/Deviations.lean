import SupplyChain.Shipments.Steps
import SupplyChain.Approvals.Decisions

/-!
The date of a dispatch and the deviation that was approved for it. The request
of a deviation names a date and the effect of its approval keeps only a status,
so what a dispatch names afterwards is compared with nothing.
-/

namespace SupplyChain.Shipments

open Relational Transaction TableName

variable {effects : Approvals.ProcurementEffects} {command : CommandContext}
  {opening db db' : Database} {event : Event} {events : List Event} {reply : JsonValue}
  {sent : List DomainEvent}

/-- The date that the payload of a deviation names. -/
def deviationDate (approval : ApprovalRequest) : Option String :=
  match approval.payload.member "shippedAt" with
  | some (.text date) => some date
  | _ => none

/-- An approved request for the deviation of a delivery batch. -/
def approvedDeviation (id : Nat) (_ : Nat) (approval : ApprovalRequest) : Bool :=
  approval.workflowType == .shipmentDeviation && approval.entityId == id &&
    approval.status == .approved

/-- The dates that were approved for a delivery batch. -/
def approvedDates (db : Database) (id : Nat) : List String :=
  ((db approvalRequests).select (approvedDeviation id)).filterMap fun r => deviationDate r.2

/-- The date lies on the planned day, or it is one that was approved. -/
def Covered (db : Database) (id : Nat) (plannedShipAt date : String) : Prop :=
  localDay plannedShipAt = localDay date ∨ date ∈ approvedDates db id

instance (db : Database) (id : Nat) (plannedShipAt date : String) :
    Decidable (Covered db id plannedShipAt date) :=
  inferInstanceAs (Decidable (_ ∨ _))

/-- Every date of a dispatch is covered. -/
def DispatchedAsApproved (db : Database) : Prop :=
  ∀ id row date, (db deliveryBatches).find? id = some row → row.shippedAt = some date →
    Covered db id row.plannedShipAt date

/-- A dispatch after an approval names a date that is covered. -/
def NamesApproved (db : Database) : Event → Prop
  | .command ⟨_, .shipmentCommand (.ship body)⟩ =>
      ∀ row ∈ (db deliveryBatches).find? body.deliveryBatchId, row.status = .approvedToShip →
        Covered db body.deliveryBatchId row.plannedShipAt (trim body.shippedAt)
  | _ => True

instance (db : Database) (event : Event) : Decidable (NamesApproved db event) := by
  unfold NamesApproved
  split <;> infer_instance

/-! ## Approved dates stay -/

theorem mem_approvedDates {id : Nat} {date : String} :
    date ∈ approvedDates db id ↔
      ∃ key approval, (db approvalRequests).find? key = some approval ∧
        approvedDeviation id key approval = true ∧ deviationDate approval = some date := by
  simp only [approvedDates, List.mem_filterMap, Table.mem_select]
  constructor
  · rintro ⟨⟨key, approval⟩, ⟨found, approved⟩, named⟩
    exact ⟨key, approval, found, approved, named⟩
  · rintro ⟨key, approval, found, approved, named⟩
    exact ⟨(key, approval), ⟨found, approved⟩, named⟩

/-- A decision changes the request that it decides and no other. -/
theorem decided_kept {body : Approvals.DecideApproval} {approval row : ApprovalRequest}
    {binding : Approvals.ApprovalBinding} {key : Nat}
    (commits : Approvals.Commits effects command body approval binding db db')
    (found : (db approvalRequests).find? key = some row) (decided : row.status ≠ .pending) :
    (db' approvalRequests).find? key = some row := by
  have other : body.id ≠ key :=
    Approvals.Settled.undecided ⟨row, found, decided⟩ commits
  obtain ⟨outcome, effect⟩ := commits.effect
  rw [effect.unwritten approvalRequests (by decide), Approvals.decisionState, Store.put_same,
    Table.find?_modify_ne _ _ other.symm]
  exact found

theorem work_decided {key : Nat} {row : ApprovalRequest} (work : Work effects db event db')
    (found : (db approvalRequests).find? key = some row) (decided : row.status ≠ .pending) :
    (db' approvalRequests).find? key = some row := by
  have added : Approvals.addsRequests.allows (db approvalRequests) (db' approvalRequests) →
      (db' approvalRequests).find? key = some row := by
    intro adds
    obtain ⟨after, foundAfter, same⟩ := adds.kept key row found
    rw [same]
    exact foundAfter
  cases work with
  | @command _ request reply sent returns =>
      obtain ⟨command, operation⟩ := request
      cases operation with
      | decideApproval body =>
          simp only [runCommand, returns_widen] at returns
          obtain ⟨approval, binding, commits⟩ := Approvals.decideApproval_commits returns
          exact decided_kept commits found decided
      | _ => exact added (Approvals.runCommand_adds (fun _ same => by cases same) returns)
  | warnInvoiceRisk warned =>
      rw [warned.unwritten approvalRequests (by decide)]
      exact found
  | procurement own =>
      rw [own approvalRequests (by decide)]
      exact found
  | approvalRequest foreign pending =>
      apply added
      rw [Store.put_same]
      exact Law.adds_insert _ _
  | outboxMessage => exact found

theorem approvedDates_kept {id : Nat} {date : String} (work : Work effects db event db')
    (approved : date ∈ approvedDates db id) : date ∈ approvedDates db' id := by
  obtain ⟨key, approval, found, deviation, named⟩ := mem_approvedDates.mp approved
  apply mem_approvedDates.mpr
  refine ⟨key, approval, work_decided work found ?_, deviation, named⟩
  intro pending
  simp [approvedDeviation, pending] at deviation

theorem Covered.kept {id : Nat} {plannedShipAt date : String} (work : Work effects db event db')
    (covered : Covered db id plannedShipAt date) : Covered db' id plannedShipAt date := by
  rcases covered with onTheDay | approved
  · exact Or.inl onTheDay
  · exact Or.inr (approvedDates_kept work approved)

/-! ## What a dispatch does to its delivery batch -/

/-- A dispatch asks for approval, or it ships on the date that it names: off the
planned day only what was approved. -/
theorem shipShipment_dates {id version : Nat} {current : ShipmentRow} {body : ShipShipment}
    (returns : (shipShipment command id current version body).Returns db reply sent db') :
    (localDay current.batch.plannedShipAt ≠ localDay (trim body.shippedAt) ∧
      current.batch.status ≠ .approvedToShip ∧
      ∃ reason, db' deliveryBatches = (db deliveryBatches).update
        (fun key row => key == id && row.status == .planned)
        fun row => { row with
          requiresApproval := true, deviationReason := some reason
          status := .pendingSupplyChain }) ∨
      (db' approvalRequests = db approvalRequests ∧
        (localDay current.batch.plannedShipAt = localDay (trim body.shippedAt) ∨
          current.batch.status = .approvedToShip) ∧
        ∃ carrier logisticsNo, db' deliveryBatches = (db deliveryBatches).modify id fun row =>
          { row with
            shippedAt := some (trim body.shippedAt), carrier, logisticsNo, status := .shipped }) := by
  simp only [shipShipment, requireFactoryBinding, returns_bind_requireRole, returns_bind_refuseIf,
    returns_bind_string, returns_bind_identifier, returns_bind_requireCleanFile] at returns
  obtain ⟨-, -, -, -, -, -, -, file, -, -, -, -, returns⟩ := returns
  rcases returns_ite.mp returns with ⟨off, asks⟩ | ⟨allowed, ships⟩
  · exact Or.inl ⟨off.1, off.2, (requestDeviation_returns (returns_widen.mp asks)).2.2⟩
  · simp only [returns_bind_widen, returns_bind_optionalString, returns_bind_insertRow,
      returns_bind_bumpVersion, returns_bind_domainEvent, returns_pure] at ships
    obtain ⟨_, _, mid, _, dispatched, ⟨-, -, _, ⟨_, ⟨-, rfl, rfl⟩, rfl⟩, rfl⟩, rfl⟩ := ships
    obtain ⟨-, -, -, deliveries, -⟩ := dispatch_returns dispatched
    have approvals := dispatched.unwritten approvalRequests (by decide)
    refine Or.inr ⟨by simpa using approvals, ?_, _, _, by simpa using deliveries⟩
    by_cases onTheDay : localDay current.batch.plannedShipAt = localDay (trim body.shippedAt)
    · exact Or.inl onTheDay
    · by_cases approved : current.batch.status = .approvedToShip
      · exact Or.inr approved
      · exact absurd ⟨onTheDay, approved⟩ allowed

theorem ship_dates {body : ShipShipment}
    (returns : (shipmentCommand command (.ship body)).Returns db reply sent db') :
    ∃ batch, (db deliveryBatches).find? body.deliveryBatchId = some batch ∧
      ((localDay batch.plannedShipAt ≠ localDay (trim body.shippedAt) ∧
        batch.status ≠ .approvedToShip ∧
        ∃ reason, db' deliveryBatches = (db deliveryBatches).update
          (fun key row => key == body.deliveryBatchId && row.status == .planned)
          fun row => { row with
            requiresApproval := true, deviationReason := some reason
            status := .pendingSupplyChain }) ∨
        (db' approvalRequests = db approvalRequests ∧
          (localDay batch.plannedShipAt = localDay (trim body.shippedAt) ∨
            batch.status = .approvedToShip) ∧
          ∃ carrier logisticsNo,
            db' deliveryBatches = (db deliveryBatches).modify body.deliveryBatchId fun row =>
              { row with
                shippedAt := some (trim body.shippedAt), carrier, logisticsNo
                status := .shipped })) := by
  simp only [shipmentCommand, returns_bind_identifier, returns_bind_requireShipmentRow,
    returns_bind_lockVersion, returns_widen] at returns
  obtain ⟨-, current, found, version, -, -, ran⟩ := returns
  refine ⟨current.batch, (shipmentRow_some found).1, ?_⟩
  simpa using shipShipment_dates ran

/-- The dates and the plans of the delivery batches stay. -/
def DatesKept (db db' : Database) : Prop :=
  ∀ id row date, (db' deliveryBatches).find? id = some row → row.shippedAt = some date →
    ∃ old, (db deliveryBatches).find? id = some old ∧ old.shippedAt = some date ∧
      row.plannedShipAt = old.plannedShipAt

theorem datesKept_same (same : db' deliveryBatches = db deliveryBatches) : DatesKept db db' := by
  intro id row date found shipped
  rw [same] at found
  exact ⟨row, found, shipped, rfl⟩

theorem datesKept_update {guard : Nat → DeliveryBatch → Bool}
    {change : DeliveryBatch → DeliveryBatch}
    (deliveries : db' deliveryBatches = (db deliveryBatches).update guard change)
    (kept : ∀ row, (change row).shippedAt = row.shippedAt ∧
      (change row).plannedShipAt = row.plannedShipAt) : DatesKept db db' := by
  intro id row date found shipped
  rw [deliveries, Table.find?_update] at found
  obtain ⟨old, foundOld, rfl⟩ := Option.map_eq_some_iff.mp found
  by_cases touched : guard id old = true
  · rw [if_pos touched] at shipped ⊢
    obtain ⟨dates, plans⟩ := kept old
    exact ⟨old, foundOld, dates.symm.trans shipped, plans⟩
  · rw [if_neg touched] at shipped ⊢
    exact ⟨old, foundOld, shipped, rfl⟩

/-- A step that is no dispatch gives no delivery batch a date. -/
theorem work_datesKept (work : Work effects db event db')
    (other : ∀ request body, event = .command ⟨request, .shipmentCommand body⟩ →
      ∀ ship, body ≠ .ship ship) : DatesKept db db' := by
  have delivered := work_delivered work
  cases delivered with
  | @commanded _ command body sent outcome =>
      cases outcome with
      | created _ _ _ deliveries _ _ _ =>
          intro id row date found shipped
          rw [deliveries] at found
          rcases Table.find?_insert_cases found with ⟨-, rfl⟩ | old
          · cases shipped
          · exact ⟨row, old, shipped, rfl⟩
      | resolved deliveries _ _ _ => exact datesKept_same deliveries
      | confirmed _ _ deliveries _ _ _ => exact datesKept_update deliveries fun _ => ⟨rfl, rfl⟩
      | dispatched => exact absurd rfl (other _ _ rfl _)
      | received _ received _ _ =>
          obtain ⟨status, -, deliveries⟩ := received.deliveries
          exact datesKept_update deliveries fun _ => ⟨rfl, rfl⟩
  | judged _ _ _ _ deliveries _ => exact datesKept_update deliveries fun _ => ⟨rfl, rfl⟩
  | elsewhere deliveries _ => exact datesKept_same deliveries

theorem DispatchedAsApproved.kept (work : Work effects db event db') (dates : DatesKept db db')
    (asApproved : DispatchedAsApproved db) : DispatchedAsApproved db' := by
  intro id row date found shipped
  obtain ⟨old, foundOld, shippedOld, plan⟩ := dates id row date found shipped
  rw [plan]
  exact (asApproved id old date foundOld shippedOld).kept work

/-! ## Runs -/

/-- A dispatch leaves every date covered exactly when it names a covered one. -/
theorem ship_asApproved {body : ShipShipment}
    (work : Work effects db (.command ⟨command, .shipmentCommand (.ship body)⟩) db')
    (asApproved : DispatchedAsApproved db) :
    NamesApproved db (.command ⟨command, .shipmentCommand (.ship body)⟩) ↔
      DispatchedAsApproved db' := by
  have returned := work
  cases returned with
  | @command _ request reply sent returns =>
      simp only [runCommand, returns_widen] at returns
      obtain ⟨batch, found, ⟨-, waits, reason, asks⟩ | ⟨approvals, allowed, carrier, logisticsNo, ships⟩⟩ :=
        ship_dates returns
      · -- the request leaves the dates, and it is made from the status `planned`
        have dates : DatesKept db db' := datesKept_update asks fun _ => ⟨rfl, rfl⟩
        have planned : NamesApproved db (.command ⟨command, .shipmentCommand (.ship body)⟩) := by
          intro row member status
          rw [found] at member
          cases member
          exact absurd status waits
        exact ⟨fun _ => asApproved.kept work dates, fun _ => planned⟩
      · constructor
        · intro names id row date foundAfter shipped
          rw [ships] at foundAfter
          rcases Table.find?_modify_cases foundAfter with ⟨rfl, old, foundOld, rfl⟩ | ⟨-, kept⟩
          · rw [found] at foundOld
            cases foundOld
            cases shipped
            rcases allowed with onTheDay | status
            · exact Or.inl onTheDay
            · exact (names batch found status).kept work
          · exact (asApproved id row date kept shipped).kept work
        · intro after row member _
          rw [found] at member
          cases member
          have covered := after body.deliveryBatchId _ (trim body.shippedAt)
            (by rw [ships]; exact Table.find?_modify_self _ found) rfl
          rcases covered with onTheDay | approved
          · exact Or.inl onTheDay
          · rw [approvedDates, approvals] at approved
            exact Or.inr approved

theorem work_asApproved (work : Work effects db event db') (asApproved : DispatchedAsApproved db) :
    NamesApproved db event ↔ DispatchedAsApproved db' := by
  by_cases ships : ∃ command body, event = .command ⟨command, .shipmentCommand (.ship body)⟩
  · obtain ⟨command, body, rfl⟩ := ships
    exact ship_asApproved work asApproved
  · have dates : DatesKept db db' := by
      apply work_datesKept work
      rintro command body rfl ship rfl
      exact ships ⟨command, ship, rfl⟩
    have free : NamesApproved db event := by
      unfold NamesApproved
      split
      · rename_i command body
        exact absurd ⟨command, body, rfl⟩ ships
      · trivial
    exact ⟨fun _ => asApproved.kept work dates, fun _ => free⟩

theorem step_asApproved (step : Step effects db event db')
    (asApproved : DispatchedAsApproved db) :
    NamesApproved db event ↔ DispatchedAsApproved db' := by
  obtain ⟨mid, work, apart⟩ := step.works
  rw [work_asApproved work asApproved]
  simp only [DispatchedAsApproved, Covered, approvedDates, apart deliveryBatches (by decide),
    apart approvalRequests (by decide)]

/-- Along a run every dispatch is on the planned day or on an approved date
exactly when the dispatches after an approval name such a date. -/
theorem deviations_as_approved (opens : DispatchedAsApproved opening) :
    Run (fun a event b => Step effects a event b ∧ NamesApproved a event) opening events db ↔
      Run (fun a event b => Step effects a event b ∧ DispatchedAsApproved b) opening events db := by
  apply Run.iff_under DispatchedAsApproved
  · intro a event b step names asApproved
    exact (step_asApproved step asApproved).mp names
  · intro a event b step asApproved
    exact step_asApproved step asApproved
  · exact opens

/-! ## A deviation to replay -/

/-- Ten pieces made and stocked by a factory, with the evidence of a dispatch. -/
def stockedDatabase : Database :=
  ((((emptyDatabase.put orderItems (Table.empty.insert
      { purchaseOrderId := 1, sku := "S", itemType := some "finished", supplierId := none
        quantity := 10, receivedQuantity := 0, unitPriceTaxIncludedMinor := 5 })).put
    executionOrders (Table.empty.insert
      { executionNo := "E", orderItemId := 1, factoryId := 1, bomId := 1, plannedQuantity := 10
        completedQuantity := 10, status := .completed })).put
    warehouses (Table.empty.insert
      { code := "W", name := "W", type := .factory, factoryId := some 1, status := .active })).put
    inventoryBatches (Table.empty.insert
      { batchNo := "B", warehouseId := 1, sku := "S", inboundDate := "2026-01-01"
        availableQuantity := 10 })).put
    fileObjects (Table.empty.insert
      { objectKey := "O", category := "shipment_evidence", entityType := "delivery_batch"
        entityId := some 1, ownerUserId := 1, factoryId := none, supplierId := none
        clean := true })

theorem stockedDatabase_opens : DispatchedAsApproved stockedDatabase := by
  intro id row date found
  cases found

def plansShipment : Request :=
  requestAt 1 1 [.supplyChain] (.shipmentCommand (.create
    { executionOrderId := 1, batchNo := "D", quantity := 10
      plannedShipAt := "2026-03-01T08:00:00+08:00", destination := "W" }))

def confirmsShipment : Request :=
  requestAt 2 1 [.supplyChain] (.shipmentCommand (.confirm 1))

def dispatchesOn (time : Nat) (date : String) : Request :=
  requestAt time 1 [.supplyChain] (.shipmentCommand (.ship
    { deliveryBatchId := 1, shippedAt := date, carrier := "C", logisticsNo := "L"
      deviationReason := some "R", evidenceFileId := 1 }))

def approvesDeviation : Request :=
  requestAt 4 2 [.supplyChain] (.decideApproval { id := 1, decision := .approved })

/-- The deviation to the fifth is approved. -/
def untilApproved : List Request :=
  [plansShipment, confirmsShipment, dispatchesOn 3 "2026-03-05T08:00:00+08:00", approvesDeviation]

def dispatchedOn (date : String) (db : Database) : Bool :=
  ((db deliveryBatches).find? 1).any fun row =>
    row.status == .shipped && row.shippedAt == some date

theorem deviations_as_approved_fifth :
    ∃ db, dispatchedOn "2026-03-05T08:00:00+08:00" db = true ∧
      Run (fun a event b => Step noProcurement a event b ∧ DispatchedAsApproved b) stockedDatabase
        ((untilApproved ++ [dispatchesOn 5 "2026-03-05T08:00:00+08:00"]).map .command) db := by
  obtain ⟨db, run, seen⟩ := replayUnder_reaches noProcurement NamesApproved
    (untilApproved ++ [dispatchesOn 5 "2026-03-05T08:00:00+08:00"]) stockedDatabase
    (dispatchedOn "2026-03-05T08:00:00+08:00") (by decide +kernel)
  exact ⟨db, seen, (deviations_as_approved stockedDatabase_opens).mp run⟩

/-- Once the fifth is approved the batch is dispatched on the ninth. -/
theorem dispatched_unapproved :
    DispatchedAsApproved stockedDatabase ∧
      ∃ db row, Run (Step noProcurement) stockedDatabase
        ((untilApproved ++ [dispatchesOn 5 "2026-03-09T08:00:00+08:00"]).map .command) db ∧
        (db deliveryBatches).find? 1 = some row ∧ row.status = .shipped ∧
        row.plannedShipAt = "2026-03-01T08:00:00+08:00" ∧
        row.shippedAt = some "2026-03-09T08:00:00+08:00" ∧
        approvedDates db 1 = ["2026-03-05T08:00:00+08:00"] ∧ ¬ DispatchedAsApproved db := by
  refine ⟨stockedDatabase_opens, ?_⟩
  obtain ⟨db, run, seen⟩ := replay_reaches noProcurement
    (untilApproved ++ [dispatchesOn 5 "2026-03-09T08:00:00+08:00"]) stockedDatabase
    (fun db => ((db deliveryBatches).find? 1).any (fun row =>
        row.status == .shipped && row.plannedShipAt == "2026-03-01T08:00:00+08:00" &&
          row.shippedAt == some "2026-03-09T08:00:00+08:00") &&
      approvedDates db 1 == ["2026-03-05T08:00:00+08:00"]) (by decide +kernel)
  simp only [Bool.and_eq_true, beq_iff_eq] at seen
  obtain ⟨row, found, columns⟩ := Option.any_eq_true _ _ |>.mp seen.1
  simp only [Bool.and_eq_true, beq_iff_eq] at columns
  obtain ⟨⟨status, planned⟩, shipped⟩ := columns
  refine ⟨db, row, run, found, status, planned, shipped, seen.2, ?_⟩
  intro asApproved
  have covered := asApproved 1 row _ found shipped
  rw [Covered, planned, seen.2] at covered
  exact absurd covered (by decide +kernel)

end SupplyChain.Shipments
