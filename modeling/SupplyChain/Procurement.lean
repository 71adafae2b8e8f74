import SupplyChain.PurchaseOrders
import SupplyChain.MasterData
import SupplyChain.Suppliers
import SupplyChain.SupplyApprovalEffects
import SupplyChain.Operations

/-!
The procurement commands beside the operations commands, as one system. A
procurement request runs its command in a unit of work and inserts the messages
it sent into the outbox; the decisions of its approvals are operations
commands, whose effects are those that the procurement side registers.
-/

namespace SupplyChain.Procurement

open Relational Transaction TableName Supply
open SupplyApprovalEffects (supplyEffects)

/-- The modelled commands of the procurement writers. -/
inductive SupplyCommand
  | writeSupplier (body : Suppliers.WriteSupplier)
  | writeSupplierSku (body : Suppliers.WriteSupplierSku)
  | writeSupplierPrice (body : Suppliers.WriteSupplierPrice)
  | createBom (body : MasterData.CreateBom)
  | createPurchasePlan (body : PurchasePlans.CreatePurchasePlan)
  | updatePurchasePlan (body : PurchasePlans.UpdatePurchasePlan)
  | createPurchaseOrder (body : PurchaseOrders.CreatePurchaseOrder)
  | updatePurchaseOrder (body : PurchaseOrders.UpdatePurchaseOrder)

structure SupplyRequest where
  command : SupplyContext
  body : SupplyCommand

abbrev supplyTables : List TableName :=
  [suppliers, supplierSkus, corePriceAgreements, corePriceChangeRequests, priceVersions,
    priceChallenges, productBoms, bomComponents, purchasePlans, purchasePlanItems,
    factoryPlanResponses, purchaseOrders, orderItems, purchasePlanOrderLinks, approvalRequests,
    procurementVersions, reminderSchedules]

def runSupply (request : SupplyRequest) : SupplyTx supplyTables JsonValue :=
  match request.body with
  | .writeSupplier body => (Suppliers.writeSupplier request.command body).widen
  | .writeSupplierSku body => (Suppliers.writeSupplierSku request.command body).widen
  | .writeSupplierPrice body => (Suppliers.writeSupplierPrice request.command body).widen
  | .createBom body => (MasterData.createBom request.command body).widen
  | .createPurchasePlan body => (PurchasePlans.createPurchasePlan request.command body).widen
  | .updatePurchasePlan body => (PurchasePlans.updatePurchasePlan request.command body).widen
  | .createPurchaseOrder body => (PurchaseOrders.createPurchaseOrder request.command body).widen
  | .updatePurchaseOrder body => (PurchaseOrders.updatePurchaseOrder request.command body).widen

/-- `enqueueOutbox` for the messages of a procurement command. -/
def enqueueKeys : List String → Database → Except Failure Database
  | [], db => .ok db
  | key :: rest, db =>
      if (db outboxMessages).any (fun _ row => row.deduplicationKey == key) then
        .error (.duplicateKey outboxMessages)
      else enqueueKeys rest (db.put outboxMessages ((db outboxMessages).insert ⟨key⟩))

def executeSupply (request : SupplyRequest) (db : Database) :
    Except Failure (JsonValue × Database) := do
  let committed ← (runSupply request).run db
  let db' ← enqueueKeys committed.sent committed.store
  return (committed.value, db')

theorem enqueueKeys_kept {sent : List String} {db db' : Database}
    (enqueued : enqueueKeys sent db = .ok db') {t : TableName} (other : t ≠ outboxMessages) :
    db' t = db t := by
  induction sent generalizing db with
  | nil =>
      cases enqueued
      rfl
  | cons key rest ih =>
      unfold enqueueKeys at enqueued
      split at enqueued
      · cases enqueued
      · rw [ih enqueued, Store.put_other _ _ other]

theorem executeSupply_ok {request : SupplyRequest} {db db' : Database} {reply : JsonValue}
    (committed : executeSupply request db = .ok (reply, db')) :
    ∃ sent mid, (runSupply request).Returns db reply sent mid ∧
      enqueueKeys sent mid = .ok db' := by
  unfold executeSupply at committed
  cases ran : (runSupply request).run db with
  | error failure => simp [ran, bind, Except.bind] at committed
  | ok first =>
      cases enqueued : enqueueKeys first.sent first.store with
      | error failure => simp [ran, enqueued, bind, Except.bind] at committed
      | ok last =>
          simp only [ran, enqueued, bind, Except.bind, pure, Except.pure, Except.ok.injEq,
            Prod.mk.injEq] at committed
          obtain ⟨rfl, rfl⟩ := committed
          exact ⟨first.sent, first.store, ran, enqueued⟩

/-! ## Steps and runs -/

inductive SupplyEvent
  | operations (event : Event)
  | supply (request : SupplyRequest)
  | elsewhere

/-- The tables of the modules that are not modelled: the skus and the import of
suppliers, the users and their challenges, the files, the rules of the quality
and the dispatch of the reminders. -/
def elsewhereTables : List TableName :=
  [skus, suppliers, factories, procurementVersions, qualityRules, fileObjects, authChallenges,
    priceChallenges, users, userRoles, reminderSchedules]

/-- The workflows whose requests are created by modules that are not modelled. -/
def elsewhereWorkflow : Workflow → Prop
  | .userRoleChange => True
  | .procurement name => name = "sku_verification"
  | _ => False

/-- What an operations event may be where the procurement side is modelled. -/
def OwnEvent : Event → Prop
  | .procurement => False
  | .approvalRequest row => elsewhereWorkflow row.workflowType
  | _ => True

inductive SupplyStep : Database → SupplyEvent → Database → Prop
  | operations {db db' : Database} {event : Event} (own : OwnEvent event)
      (step : Step supplyEffects db event db') : SupplyStep db (.operations event) db'
  | supply {db db' : Database} {request : SupplyRequest} {reply : JsonValue}
      (committed : executeSupply request db = .ok (reply, db')) :
      SupplyStep db (.supply request) db'
  | elsewhere {db db' : Database} (own : ∀ t, t ∉ elsewhereTables → db' t = db t) :
      SupplyStep db .elsewhere db'

/-- A step before its messages are inserted into the outbox. -/
inductive SupplyWork : Database → SupplyEvent → Database → Prop
  | operations {db db' : Database} {event : Event} (own : OwnEvent event)
      (work : Work supplyEffects db event db') : SupplyWork db (.operations event) db'
  | supply {db db' : Database} {request : SupplyRequest} {reply : JsonValue} {sent : List String}
      (returns : (runSupply request).Returns db reply sent db') :
      SupplyWork db (.supply request) db'
  | elsewhere {db db' : Database} (own : ∀ t, t ∉ elsewhereTables → db' t = db t) :
      SupplyWork db .elsewhere db'

theorem SupplyStep.works {db db' : Database} {event : SupplyEvent}
    (step : SupplyStep db event db') :
    ∃ mid, SupplyWork db event mid ∧ ApartFromOutbox mid db' := by
  cases step with
  | operations own step =>
      obtain ⟨mid, work, apart⟩ := step.works
      exact ⟨mid, SupplyWork.operations own work, apart⟩
  | supply committed =>
      obtain ⟨sent, mid, returns, enqueued⟩ := executeSupply_ok committed
      exact ⟨mid, SupplyWork.supply returns, fun t other => enqueueKeys_kept enqueued other⟩
  | elsewhere own => exact ⟨db', SupplyWork.elsewhere own, fun _ _ => rfl⟩

/-- An invariant that does not read the outbox is preserved by a step when its
work preserves it. -/
theorem SupplyStep.preserves {db db' : Database} {event : SupplyEvent}
    (invariant : Database → Prop)
    (unread : ∀ {mid last : Database}, ApartFromOutbox mid last → invariant mid → invariant last)
    (step : SupplyStep db event db')
    (preserved : ∀ {mid}, SupplyWork db event mid → invariant mid) : invariant db' := by
  obtain ⟨mid, work, apart⟩ := step.works
  exact unread apart (preserved work)

/-! ## Replays -/

/-- A request of either side. -/
inductive Act
  | operations (request : Request)
  | supply (request : SupplyRequest)

def Act.event : Act → SupplyEvent
  | .operations request => .operations (.command request)
  | .supply request => .supply request

def act (db : Database) : Act → Option Database
  | .operations request =>
      match execute supplyEffects request db with
      | .ok committed => some committed.2
      | .error _ => none
  | .supply request =>
      match executeSupply request db with
      | .ok committed => some committed.2
      | .error _ => none

theorem act_step {db db' : Database} {one : Act} (done : act db one = some db') :
    SupplyStep db one.event db' := by
  cases one with
  | operations request =>
      simp only [act] at done
      split at done
      · rename_i committed ran
        cases done
        exact SupplyStep.operations trivial (Step.command ran)
      · cases done
  | supply request =>
      simp only [act] at done
      split at done
      · rename_i committed ran
        cases done
        exact SupplyStep.supply ran
      · cases done

/-- The database after a list of acts that all commit. -/
def replayActs : List Act → Database → Option Database
  | [], db => some db
  | one :: rest, db =>
      match act db one with
      | some mid => replayActs rest mid
      | none => none

theorem replayActs_run {acts : List Act} {db db' : Database}
    (replayed : replayActs acts db = some db') :
    Run SupplyStep db (acts.map Act.event) db' := by
  induction acts generalizing db with
  | nil =>
      cases replayed
      exact Run.done
  | cons one rest ih =>
      unfold replayActs at replayed
      split at replayed
      · rename_i mid done
        exact Run.next (act_step done) (ih replayed)
      · cases replayed

theorem replayActs_reaches (acts : List Act) (db : Database) (seen : Database → Bool)
    (passes : (replayActs acts db).any seen = true) :
    ∃ db', Run SupplyStep db (acts.map Act.event) db' ∧ seen db' = true := by
  obtain ⟨db', replayed, holds⟩ := Option.any_eq_true _ _ |>.mp passes
  exact ⟨db', replayActs_run replayed, holds⟩

/-- A request of a user of the procurement side at a point in time. -/
def supplyAt (time : Nat) (access : AccessContext) (body : SupplyCommand) : SupplyRequest where
  command :=
    { access
      now := time
      clock := time
      idempotencyKey := toString time
      sha256 := fun text => text
      toUpperCase := fun text => text }
  body := body

end SupplyChain.Procurement
