import SupplyChain.Operations
import SupplyChain.Shipments.Outcomes
import SupplyChain.Approvals.Outcomes

/-!
What every step of the operations system does to the delivery batches and
their receipts.
-/

namespace SupplyChain.Shipments

open Relational Transaction TableName

variable {effects : Approvals.ProcurementEffects} {command : CommandContext} {db db' : Database}
  {reply : JsonValue} {sent : List DomainEvent} {event : Event}

inductive Delivered (db : Database) : Event → Database → Prop
  | commanded {db' : Database} {command : CommandContext} {body : ShipmentCommand}
      {sent : List DomainEvent} (outcome : Outcome command db db' sent body) :
      Delivered db (.command ⟨command, .shipmentCommand body⟩) db'
  | judged {db' : Database} {command : CommandContext} {body : Approvals.DecideApproval}
      {approval : ApprovalRequest} {batch : DeliveryBatch}
      (foundApproval : (db approvalRequests).find? body.id = some approval)
      (workflow : approval.workflowType = .shipmentDeviation)
      (found : (db deliveryBatches).find? approval.entityId = some batch)
      (waiting : batch.status = .pendingSupplyChain)
      (deliveries : db' deliveryBatches =
        (db deliveryBatches).modify approval.entityId fun row => { row with
          status := if body.decision = .approved then .approvedToShip else .deviationRejected })
      (receipts : db' shipmentReceipts = db shipmentReceipts) :
      Delivered db (.command ⟨command, .decideApproval body⟩) db'
  | elsewhere {event : Event} {db' : Database}
      (deliveries : db' deliveryBatches = db deliveryBatches)
      (receipts : db' shipmentReceipts = db shipmentReceipts) : Delivered db event db'

theorem decideApproval_delivered {body : Approvals.DecideApproval}
    (returns : (Approvals.decideApproval effects command body).Returns db reply sent db') :
    Delivered db (.command ⟨command, .decideApproval body⟩) db' := by
  obtain ⟨-, approval, mid, decided⟩ := Approvals.decideApproval_returns returns
  obtain ⟨outcome, effect⟩ := decided.effect
  have same := decided.kept
  unfold Approvals.approvalEffect at effect
  cases workflow : approval.workflowType with
  | shipmentDeviation =>
      simp only [workflow, returns_widen] at effect
      obtain ⟨⟨batch, found, waiting⟩, -, rfl⟩ :=
        ApprovalEffects.shipmentDeviation_returns effect
      rw [same _ (by decide) (by decide)] at found
      refine Delivered.judged decided.found workflow found waiting ?_ ?_
      · rw [Store.put_same, same _ (by decide) (by decide)]
      · rw [Store.put_other _ _ (by decide), same _ (by decide) (by decide)]
  | _ =>
      simp only [workflow, returns_widen] at effect
      have unwritten := effect.unwritten
      exact Delivered.elsewhere (by simp [unwritten, same]) (by simp [unwritten, same])

theorem work_delivered (work : Work effects db event db') : Delivered db event db' := by
  cases work with
  | @command _ request reply sent returns =>
      obtain ⟨command, body⟩ := request
      unfold runCommand at returns
      cases body with
      | decideApproval body => exact decideApproval_delivered (returns_widen.mp returns)
      | shipmentCommand body =>
          exact Delivered.commanded (shipmentCommand_returns (returns_widen.mp returns))
      | _ =>
          have unwritten := (returns_widen.mp returns).unwritten
          exact Delivered.elsewhere (by simp [unwritten]) (by simp [unwritten])
  | warnInvoiceRisk warned =>
      have unwritten := warned.unwritten
      exact Delivered.elsewhere (by simp [unwritten]) (by simp [unwritten])
  | procurement own =>
      exact Delivered.elsewhere (by simp [own, foreignTables]) (by simp [own, foreignTables])
  | approvalRequest => exact Delivered.elsewhere (by simp) (by simp)
  | outboxMessage => exact Delivered.elsewhere rfl rfl

end SupplyChain.Shipments
