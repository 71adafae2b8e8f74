import SupplyChain.Inventory
import SupplyChain.Stocktakes
import SupplyChain.PurchaseReceipts
import SupplyChain.QualityInspections
import SupplyChain.Returns
import SupplyChain.Approvals
import SupplyChain.Relational.Runs

/-!
The operations commands as one system. A request runs its command in a unit of
work and inserts the messages it sent into the outbox under their unique key;
between the requests the reminder sweep warns about exceptions and the other
modules change the tables that are theirs.
-/

namespace SupplyChain

open Relational Transaction TableName

/-- The commands of `OPERATIONS_COMMANDS`. -/
inductive OperationsCommand
  | decideApproval (body : Approvals.DecideApproval)
  | reserveInventory (body : Inventory.ReserveInventory)
  | requestTransfer (body : Inventory.RequestTransfer)
  | transitionTransfer (body : Inventory.TransitionTransfer)
  | createProductionOrder (body : ProductionOrders.CreateProductionOrder)
  | transitionProductionOrder (body : ProductionOrders.TransitionProductionOrder)
  | receivePurchase (body : PurchaseReceipts.ReceivePurchase)
  | submitQualityInspection (body : QualityInspections.SubmitQualityInspection)
  | openStocktake (body : Stocktakes.OpenStocktake)
  | transitionStocktake (body : Stocktakes.TransitionStocktake)
  | shipmentCommand (body : Shipments.ShipmentCommand)
  | returnCommand (body : Returns.ReturnCommand)
  | financeCommand (body : Finance.FinanceCommand)
  | warehouseCommand (body : Warehouses.WarehouseCommand)

structure Request where
  command : CommandContext
  body : OperationsCommand

/-- The tables of the operations commands; the outbox is written when they end. -/
abbrev commandTables : List TableName :=
  [inventoryBatches, inventoryReservations, inventoryTransfers, inventoryMovements, stocktakes,
    stocktakeCounts, stocktakeAdjustments, executionOrders, productionMaterialLines,
    productionReports, purchaseReceipts, qualityInspections, deliveryBatches, shipmentEvidence,
    shipmentReceipts, logisticsExceptions, productReturns, productReturnInspections,
    productReturnDispositions, warehouses, approvalRequests, resourceVersions, factoryInvoices,
    invoiceVerifications, invoicePaymentAllocations, factoryPaymentRequests, invoiceExceptions,
    replacementInvoiceLinks, paymentRecords, businessKeys, skus, productBoms, bomComponents,
    purchaseOrders, orderItems, purchasePlanItems, purchasePlanOrderLinks, purchasePlans,
    factoryPlanResponses, reminderSchedules, suppliers, supplierSkus, corePriceAgreements,
    corePriceChangeRequests, procurementVersions, priceVersions, authChallenges, userRoles]

open Approvals (ProcurementEffects)

def runCommand (effects : ProcurementEffects) (request : Request) : Tx commandTables JsonValue :=
  match request.body with
  | .decideApproval body => (Approvals.decideApproval effects request.command body).widen
  | .reserveInventory body => (Inventory.reserveInventory request.command body).widen
  | .requestTransfer body => (Inventory.requestTransfer request.command body).widen
  | .transitionTransfer body => (Inventory.transitionTransfer request.command body).widen
  | .createProductionOrder body =>
      (ProductionOrders.createProductionOrder request.command body).widen
  | .transitionProductionOrder body =>
      (ProductionOrders.transitionProductionOrder request.command body).widen
  | .receivePurchase body => (PurchaseReceipts.receivePurchase request.command body).widen
  | .submitQualityInspection body =>
      (QualityInspections.submitQualityInspection request.command body).widen
  | .openStocktake body => (Stocktakes.openStocktake request.command body).widen
  | .transitionStocktake body => (Stocktakes.transitionStocktake request.command body).widen
  | .shipmentCommand body => (Shipments.shipmentCommand request.command body).widen
  | .returnCommand body => (Returns.returnCommand request.command body).widen
  | .financeCommand body => (Finance.financeCommand request.command body).widen
  | .warehouseCommand body => (Warehouses.warehouseCommand request.command body).widen

/-- `enqueueOutbox` for the messages of a command in the order it sent them.
The insert has no IGNORE: a key that is taken fails the unit of work. -/
def enqueueOutbox : List DomainEvent → Database → Except Failure Database
  | [], db => .ok db
  | event :: rest, db =>
      if (db outboxMessages).any (fun _ row => row.deduplicationKey == event.deduplicationKey) then
        .error (.duplicateKey outboxMessages)
      else
        enqueueOutbox rest
          (db.put outboxMessages ((db outboxMessages).insert ⟨event.deduplicationKey⟩))

/-- One request as a unit of work: its reply and the database it commits. -/
def execute (effects : ProcurementEffects) (request : Request) (db : Database) :
    Except Failure (JsonValue × Database) := do
  let committed ← (runCommand effects request).run db
  let db' ← enqueueOutbox committed.sent committed.store
  return (committed.value, db')

theorem enqueueOutbox_kept {sent : List DomainEvent} {db db' : Database}
    (enqueued : enqueueOutbox sent db = .ok db') {t : TableName} (other : t ≠ outboxMessages) :
    db' t = db t := by
  induction sent generalizing db with
  | nil =>
      cases enqueued
      rfl
  | cons event rest ih =>
      unfold enqueueOutbox at enqueued
      split at enqueued
      · cases enqueued
      · rw [ih enqueued, Store.put_other _ _ other]

/-- A committed request ran its command and inserted what it sent. -/
theorem execute_ok {effects : ProcurementEffects} {request : Request} {db db' : Database}
    {reply : JsonValue} (committed : execute effects request db = .ok (reply, db')) :
    ∃ sent mid, (runCommand effects request).Returns db reply sent mid ∧
      enqueueOutbox sent mid = .ok db' := by
  unfold execute at committed
  cases ran : (runCommand effects request).run db with
  | error failure => simp [ran, bind, Except.bind] at committed
  | ok first =>
      cases enqueued : enqueueOutbox first.sent first.store with
      | error failure => simp [ran, enqueued, bind, Except.bind] at committed
      | ok last =>
          simp only [ran, enqueued, bind, Except.bind, pure, Except.pure, Except.ok.injEq,
            Prod.mk.injEq] at committed
          obtain ⟨rfl, rfl⟩ := committed
          exact ⟨first.sent, first.store, ran, enqueued⟩

/-! ## Steps and runs -/

/-- The tables that other modules insert into and change. -/
def foreignTables : List TableName :=
  [skus, productBoms, bomComponents, purchaseOrders, orderItems, purchasePlanItems,
    purchasePlanOrderLinks, purchasePlans, factoryPlanResponses, reminderSchedules, factories,
    suppliers, supplierSkus, corePriceAgreements, corePriceChangeRequests, procurementVersions,
    priceVersions, qualityRules, fileObjects, authChallenges, priceChallenges, users, userRoles]

def Workflow.foreign : Workflow → Bool
  | .userRoleChange | .procurement _ => true
  | _ => false

/-- What happens to the database: an operations command, the risk warning of
the reminder sweep, or a write of another module: to its own tables, of an
approval request of its own workflows, or of a message under its own keys. -/
inductive Event
  | command (request : Request)
  | warnInvoiceRisk (now exceptionId : Nat)
  | procurement
  | approvalRequest (row : ApprovalRequest)
  | outboxMessage (key : String)

inductive Step (effects : ProcurementEffects) : Database → Event → Database → Prop
  | command {db db' : Database} {request : Request} {reply : JsonValue}
      (committed : execute effects request db = .ok (reply, db')) :
      Step effects db (.command request) db'
  | warnInvoiceRisk {db db' : Database} {now exceptionId : Nat}
      (warned : (Finance.warnInvoiceRisk now exceptionId).Returns db () [] db') :
      Step effects db (.warnInvoiceRisk now exceptionId) db'
  | procurement {db db' : Database} (own : ∀ t, t ∉ foreignTables → db' t = db t) :
      Step effects db .procurement db'
  | approvalRequest {db : Database} {row : ApprovalRequest}
      (foreign : row.workflowType.foreign = true) (pending : row.status = .pending) :
      Step effects db (.approvalRequest row)
        (db.put approvalRequests ((db approvalRequests).insert row))
  | outboxMessage {db : Database} {key : String} (foreign : ¬ "r3:".toList <+: key.toList) :
      Step effects db (.outboxMessage key)
        (db.put outboxMessages ((db outboxMessages).insert ⟨key⟩))

/-- A step before its messages are inserted into the outbox. -/
inductive Work (effects : ProcurementEffects) : Database → Event → Database → Prop
  | command {db db' : Database} {request : Request} {reply : JsonValue} {sent : List DomainEvent}
      (returns : (runCommand effects request).Returns db reply sent db') :
      Work effects db (.command request) db'
  | warnInvoiceRisk {db db' : Database} {now exceptionId : Nat}
      (warned : (Finance.warnInvoiceRisk now exceptionId).Returns db () [] db') :
      Work effects db (.warnInvoiceRisk now exceptionId) db'
  | procurement {db db' : Database} (own : ∀ t, t ∉ foreignTables → db' t = db t) :
      Work effects db .procurement db'
  | approvalRequest {db : Database} {row : ApprovalRequest}
      (foreign : row.workflowType.foreign = true) (pending : row.status = .pending) :
      Work effects db (.approvalRequest row)
        (db.put approvalRequests ((db approvalRequests).insert row))
  | outboxMessage {db : Database} {key : String} : Work effects db (.outboxMessage key) db

/-- Nothing but the outbox differs. -/
def ApartFromOutbox (db db' : Database) : Prop :=
  ∀ t, t ≠ outboxMessages → db' t = db t

theorem Step.works {effects : ProcurementEffects} {db db' : Database} {event : Event}
    (step : Step effects db event db') :
    ∃ mid, Work effects db event mid ∧ ApartFromOutbox mid db' := by
  cases step with
  | command committed =>
      obtain ⟨sent, mid, returns, enqueued⟩ := execute_ok committed
      exact ⟨mid, Work.command returns, fun t other => enqueueOutbox_kept enqueued other⟩
  | warnInvoiceRisk warned => exact ⟨db', Work.warnInvoiceRisk warned, fun _ _ => rfl⟩
  | procurement own => exact ⟨db', Work.procurement own, fun _ _ => rfl⟩
  | approvalRequest foreign pending =>
      exact ⟨_, Work.approvalRequest foreign pending, fun _ _ => rfl⟩
  | outboxMessage => exact ⟨db, Work.outboxMessage, fun t other => Store.put_other _ _ other⟩

/-- An invariant that does not read the outbox is preserved by a step when its
work preserves it. -/
theorem Step.preserves {effects : ProcurementEffects} {db db' : Database} {event : Event}
    (invariant : Database → Prop)
    (unread : ∀ {mid last : Database}, ApartFromOutbox mid last → invariant mid → invariant last)
    (step : Step effects db event db')
    (preserved : ∀ {mid}, Work effects db event mid → invariant mid) : invariant db' := by
  obtain ⟨mid, work, apart⟩ := step.works
  exact unread apart (preserved work)

/-! ## Replays -/

/-- The database after a list of requests that all commit. -/
def replay (effects : ProcurementEffects) : List Request → Database → Option Database
  | [], db => some db
  | request :: rest, db =>
      match execute effects request db with
      | .ok committed => replay effects rest committed.2
      | .error _ => none

theorem replay_run {effects : ProcurementEffects} {requests : List Request} {db db' : Database}
    (replayed : replay effects requests db = some db') :
    Run (Step effects) db (requests.map .command) db' := by
  induction requests generalizing db with
  | nil =>
      cases replayed
      exact Run.done
  | cons request rest ih =>
      unfold replay at replayed
      split at replayed
      · rename_i committed done
        exact Run.next (Step.command done) (ih replayed)
      · cases replayed

theorem replay_reaches (effects : ProcurementEffects) (requests : List Request) (db : Database)
    (seen : Database → Bool) (passes : (replay effects requests db).any seen = true) :
    ∃ db', Run (Step effects) db (requests.map .command) db' ∧ seen db' = true := by
  obtain ⟨db', replayed, holds⟩ := Option.any_eq_true _ _ |>.mp passes
  exact ⟨db', replay_run replayed, holds⟩

/-- A replay and one more request, seen before and after it. -/
theorem replay_steps (effects : ProcurementEffects) (requests : List Request) (last : Request)
    (db : Database) (seen : Database → Database → Bool)
    (passes : (replay effects requests db).any (fun mid =>
      match execute effects last mid with
      | .ok committed => seen mid committed.2
      | .error _ => false) = true) :
    ∃ mid db', Run (Step effects) db (requests.map .command) mid ∧
      Step effects mid (.command last) db' ∧ seen mid db' = true := by
  obtain ⟨mid, replayed, holds⟩ := Option.any_eq_true _ _ |>.mp passes
  split at holds
  · rename_i committed done
    exact ⟨mid, committed.2, replay_run replayed, Step.command done, holds⟩
  · cases holds

/-- The database after a list of requests that all commit, each where the rule
holds. -/
def replayUnder (effects : ProcurementEffects) (rule : Database → Event → Prop)
    [∀ db event, Decidable (rule db event)] : List Request → Database → Option Database
  | [], db => some db
  | request :: rest, db =>
      if rule db (.command request) then
        match execute effects request db with
        | .ok committed => replayUnder effects rule rest committed.2
        | .error _ => none
      else none

theorem replayUnder_run {effects : ProcurementEffects} {rule : Database → Event → Prop}
    [∀ db event, Decidable (rule db event)] {requests : List Request} {db db' : Database}
    (replayed : replayUnder effects rule requests db = some db') :
    Run (fun db event db' => Step effects db event db' ∧ rule db event) db
      (requests.map .command) db' := by
  induction requests generalizing db with
  | nil =>
      cases replayed
      exact Run.done
  | cons request rest ih =>
      unfold replayUnder at replayed
      split at replayed
      · rename_i ruled
        split at replayed
        · rename_i committed done
          exact Run.next ⟨Step.command done, ruled⟩ (ih replayed)
        · cases replayed
      · cases replayed

/-- What a replay under a rule can be seen to end in, a run whose steps keep
the rule ends in. -/
theorem replayUnder_reaches (effects : ProcurementEffects) (rule : Database → Event → Prop)
    [∀ db event, Decidable (rule db event)] (requests : List Request) (db : Database)
    (seen : Database → Bool)
    (passes : (replayUnder effects rule requests db).any seen = true) :
    ∃ db', Run (fun db event db' => Step effects db event db' ∧ rule db event) db
      (requests.map .command) db' ∧ seen db' = true := by
  obtain ⟨db', replayed, holds⟩ := Option.any_eq_true _ _ |>.mp passes
  exact ⟨db', replayUnder_run replayed, holds⟩

def emptyDatabase : Database := fun _ => Table.empty

/-- A procurement side that registers no workflow. -/
def noProcurement : ProcurementEffects where
  registered _ := false
  execute _ _ _ _ _ := fail (forbidden "Approval workflow owner is not registered")
  silent := by
    intro _ _ _ _ _ _ _ _ _ returns
    cases returns

/-- A request of a user at a point in time, with uuids of its own. -/
def requestAt (time userId : Nat) (roles : List Role) (body : OperationsCommand) : Request where
  command :=
    { access := { userId, sessionId := some userId, roles, factoryId := none, supplierId := none }
      now := time
      clock := time
      clockText := toString time
      today := toString time
      randomUUID := fun draw => toString time ++ "-" ++ toString draw
      sha256 := fun text => text }
  body := body

end SupplyChain
