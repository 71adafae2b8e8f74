import SupplyChain.Procurement
import SupplyChain.Relational.Frames
import SupplyChain.Approvals.Outcomes
import SupplyChain.PurchaseReceipts.Outcomes

/-!
What every step of the procurement system does to the tables of the procurement
side: a procurement command ran, the effect of a decision ran, or nothing but
the received quantity of an order item changed.
-/

namespace SupplyChain.Procurement

open Relational Transaction TableName Supply
open SupplyApprovalEffects

variable {db db' : Database} {event : SupplyEvent} {command : CommandContext}

/-- The effect that ran for a workflow. -/
inductive Ran (command : CommandContext) (approval : ApprovalRequest) (decision : Decision)
    (db db' : Database) : String → Prop
  | onboarding {sent : List DomainEvent}
      (returns : (applySupplierOnboarding approval decision).Returns db () sent db') :
      Ran command approval decision db db' "supplier_onboarding"
  | relation {sent : List DomainEvent}
      (returns : (applySupplierSku command approval decision).Returns db () sent db') :
      Ran command approval decision db db' "supplier_sku_change"
  | price {sent : List DomainEvent}
      (returns : (applySupplierPrice approval decision).Returns db () sent db') :
      Ran command approval decision db db' "supplier_price_change"
  | sku {sent : List DomainEvent}
      (returns : (applySku approval decision).Returns db () sent db') :
      Ran command approval decision db db' "sku_verification"
  | bom {sent : List DomainEvent}
      (returns : (applyBom approval decision).Returns db () sent db') :
      Ran command approval decision db db' "bom_version"
  | planVersion {sent : List DomainEvent}
      (returns : (applyPlanVersion command approval decision).Returns db () sent db') :
      Ran command approval decision db db' "purchase_plan_version"
  | planDeviation {sent : List DomainEvent}
      (returns : (applyPlanDeviation command approval decision).Returns db () sent db') :
      Ran command approval decision db db' "purchase_plan_deviation"
  | planException {sent : List DomainEvent}
      (returns : (applyPlanException command approval decision).Returns db () sent db') :
      Ran command approval decision db db' "purchase_plan_factory_exception"
  | orderException {sent : List DomainEvent}
      (returns : (applyOrderException command approval decision).Returns db () sent db') :
      Ran command approval decision db db' "purchase_order_factory_exception"
  | unknown {name : String} (other : name ∉ effectTypes) (same : db' = db) :
      Ran command approval decision db db' name

theorem applyEffect_ran {name : String} {approval : ApprovalRequest} {decision : Decision}
    {sent : List DomainEvent}
    (returns : (applyEffect command name approval decision).Returns db () sent db') :
    Ran command approval decision db db' name := by
  unfold applyEffect at returns
  rcases returns_ite.mp returns with ⟨rfl, ran⟩ | ⟨notOnboarding, returns⟩
  · exact Ran.onboarding (returns_widen.mp ran)
  rcases returns_ite.mp returns with ⟨rfl, ran⟩ | ⟨notRelation, returns⟩
  · exact Ran.relation (returns_widen.mp ran)
  rcases returns_ite.mp returns with ⟨rfl, ran⟩ | ⟨notPrice, returns⟩
  · exact Ran.price (returns_widen.mp ran)
  rcases returns_ite.mp returns with ⟨rfl, ran⟩ | ⟨notSku, returns⟩
  · exact Ran.sku (returns_widen.mp ran)
  rcases returns_ite.mp returns with ⟨rfl, ran⟩ | ⟨notBom, returns⟩
  · exact Ran.bom (returns_widen.mp ran)
  rcases returns_ite.mp returns with ⟨rfl, ran⟩ | ⟨notVersion, returns⟩
  · exact Ran.planVersion (returns_widen.mp ran)
  rcases returns_ite.mp returns with ⟨rfl, ran⟩ | ⟨notDeviation, returns⟩
  · exact Ran.planDeviation (returns_widen.mp ran)
  rcases returns_ite.mp returns with ⟨rfl, ran⟩ | ⟨notException, returns⟩
  · exact Ran.planException (returns_widen.mp ran)
  rcases returns_ite.mp returns with ⟨rfl, ran⟩ | ⟨notOrder, returns⟩
  · exact Ran.orderException (returns_widen.mp ran)
  refine Ran.unknown ?_ (returns_pure.mp returns).2.2
  simp [effectTypes, notOnboarding, notRelation, notPrice, notSku, notBom, notVersion, notDeviation,
    notException, notOrder]

/-- What a committed decision of a procurement request did. The effect reads the
request after it was claimed, and its version counts on when it is done. -/
structure Applied (command : CommandContext) (body : Approvals.DecideApproval) (name : String)
    (approval : ApprovalRequest) (db db' : Database) : Prop where
  found : (db approvalRequests).find? body.id = some approval
  pending : approval.status = .pending
  workflow : approval.workflowType = .procurement name
  authorized : authorizedReviewer db command.access.userId command.today = true
  decided : ∃ change : ApprovalRequest → ApprovalRequest,
    db' approvalRequests = (db approvalRequests).modify body.id change ∧
      ∀ row, (change row).status = body.decision.status ∧
        (change row).workflowType = row.workflowType ∧ (change row).entityId = row.entityId
  effect : ∃ claimed mid after,
    (claimed.entityType = approval.entityType ∧ claimed.entityId = approval.entityId ∧
      claimed.payload = approval.payload) ∧
    (∀ t, t ≠ approvalRequests → t ≠ authChallenges → mid t = db t) ∧
    Ran command claimed body.decision mid after name ∧
    ∀ t, t ≠ procurementVersions → db' t = after t

theorem executeEffect_returns {effectType : String} {id : Nat} {decision : Decision}
    {reply : JsonValue} {sent : List DomainEvent}
    (returns : (executeEffect command effectType id decision).Returns db reply sent db') :
    authorizedReviewer db command.access.userId command.today = true ∧
      ∃ approval after, (db approvalRequests).find? id = some approval ∧
        (applyEffect command effectType approval decision).Returns db () sent after ∧
        ∀ t, t ≠ procurementVersions → db' t = after t := by
  simp only [executeEffect, returns_bind_query, returns_bind_refuseIf, returns_bind_select,
    returns_bind_orThrow] at returns
  obtain ⟨authorized, approval, found, -, -, version, -, returns⟩ := returns
  obtain ⟨_, first, after, _, effect, rest, rfl⟩ := returns_bind.mp returns
  simp only [raiseVersion] at rest
  obtain ⟨_, none, raised, _, counted, done, rfl⟩ := returns_bind.mp rest
  simp only [returns_bind_query, returns_bind_refuseIf, returns_updateWhere] at counted
  obtain ⟨-, rfl, rfl⟩ := counted
  obtain ⟨-, rfl, rfl⟩ := returns_pure.mp done
  refine ⟨by simpa using authorized, approval, after, found, by simpa using effect, ?_⟩
  exact fun t other => Store.put_other _ _ other

theorem authorizedReviewer_congr {mid : Database} {userId : Nat} {today : String}
    (sameUsers : mid users = db users) (sameRoles : mid userRoles = db userRoles) :
    authorizedReviewer mid userId today = authorizedReviewer db userId today := by
  simp only [authorizedReviewer, sameUsers, sameRoles]

theorem decideApproval_applied {body : Approvals.DecideApproval} {approval : ApprovalRequest}
    {mid : Database} {name : String}
    (decided : Approvals.Decided supplyEffects command body approval db mid db')
    (workflow : approval.workflowType = .procurement name) :
    Applied command body name approval db db' := by
  obtain ⟨outcome, effect⟩ := decided.effect
  simp only [Approvals.approvalEffect, workflow, returns_widen] at effect
  obtain ⟨authorized, claimed, after, found, applied, kept⟩ := executeEffect_returns effect
  obtain ⟨row, foundRow, -, entityType, entityId, payload⟩ := decided.claimed
  obtain rfl : claimed = row := Option.some.inj (found.symm.trans foundRow)
  refine
    { found := decided.found
      pending := decided.pending
      workflow := workflow
      authorized := ?_
      decided := ?_
      effect := ⟨claimed, mid, after, ⟨entityType, entityId, payload⟩, decided.kept,
        applyEffect_ran applied, kept⟩ }
  · rw [← authorized]
    exact (authorizedReviewer_congr (decided.kept _ (by decide) (by decide))
      (decided.kept _ (by decide) (by decide))).symm
  · rw [effect.unwritten approvalRequests (by decide)]
    exact decided.decided

/-! ## Steps -/

/-- What an order item keeps when goods are received for it. -/
def itemKey (item : OrderItem) : Nat × String × Option String × Option Nat × Int :=
  (item.purchaseOrderId, item.sku, item.itemType, item.supplierId, item.quantity)

/-- The tables that only the procurement commands and the effects of their
approvals write. -/
def plannedTables : List TableName :=
  [supplierSkus, corePriceAgreements, corePriceChangeRequests, priceVersions, productBoms,
    bomComponents, purchasePlans, purchasePlanItems, factoryPlanResponses, purchaseOrders,
    purchasePlanOrderLinks]

theorem planned_apart {t : TableName} (planned : t ∈ plannedTables) :
    t ≠ approvalRequests ∧ t ≠ authChallenges ∧ t ≠ procurementVersions := by
  simp only [plannedTables, List.mem_cons, List.not_mem_nil, or_false] at planned
  rcases planned with rfl | rfl | rfl | rfl | rfl | rfl | rfl | rfl | rfl | rfl | rfl <;> decide

/-- The effect of a decision starts on the planned tables as they were. -/
theorem planned_before {mid : Database}
    (before : ∀ t, t ≠ approvalRequests → t ≠ authChallenges → mid t = db t) :
    ∀ t ∈ plannedTables, mid t = db t :=
  fun t planned => before t (planned_apart planned).1 (planned_apart planned).2.1

theorem planned_last {after : Database} (last : ∀ t, t ≠ procurementVersions → db' t = after t) :
    ∀ t ∈ plannedTables, db' t = after t :=
  fun t planned => last t (planned_apart planned).2.2

/-- The request of a procurement command. -/
def supplied : SupplyEvent → Option SupplyRequest
  | .supply request => some request
  | _ => none

/-- The procurement request that an event decides, with its workflow and the
decision. -/
def decides (db : Database) : SupplyEvent → Option (String × ApprovalRequest × Decision)
  | .operations (.command ⟨_, .decideApproval body⟩) =>
      ((db approvalRequests).find? body.id).bind fun approval =>
        match approval.workflowType with
        | .procurement name => some (name, approval, body.decision)
        | _ => none
  | _ => none

theorem Applied.decides {command : CommandContext} {body : Approvals.DecideApproval} {name : String}
    {approval : ApprovalRequest} (applied : Applied command body name approval db db') :
    decides db (.operations (.command ⟨command, .decideApproval body⟩)) =
      some (name, approval, body.decision) := by
  simp [Procurement.decides, applied.found, applied.workflow]

/-- What a step does to the tables of the procurement side. -/
inductive Touched (db : Database) : SupplyEvent → Database → Prop
  | supply {db' : Database} {request : SupplyRequest} {reply : JsonValue} {sent : List String}
      (returns : (runSupply request).Returns db reply sent db') :
      Touched db (.supply request) db'
  | applied {db' : Database} {command : CommandContext} {body : Approvals.DecideApproval}
      {name : String} {approval : ApprovalRequest}
      (applied : Applied command body name approval db db') :
      Touched db (.operations (.command ⟨command, .decideApproval body⟩)) db'
  | apart {event : SupplyEvent} {db' : Database} (notSupplied : supplied event = none)
      (undecided : decides db event = none) (own : ∀ t ∈ plannedTables, db' t = db t)
      (items : (Law.revises itemKey).allows (db orderItems) (db' orderItems)) :
      Touched db event db'

theorem apart_of_unwritten (notSupplied : supplied event = none)
    (undecided : decides db event = none) (own : ∀ t ∈ orderItems :: plannedTables, db' t = db t) :
    Touched db event db' := by
  refine Touched.apart notSupplied undecided (fun t member => own t (List.mem_cons_of_mem _ member)) ?_
  rw [own orderItems List.mem_cons_self]
  exact (Law.revises itemKey).refl _

theorem decideApproval_touched {body : Approvals.DecideApproval} {reply : JsonValue}
    {sent : List DomainEvent}
    (returns : (Approvals.decideApproval supplyEffects command body).Returns db reply sent db') :
    Touched db (.operations (.command ⟨command, .decideApproval body⟩)) db' := by
  obtain ⟨-, approval, mid, decided⟩ := Approvals.decideApproval_returns returns
  obtain ⟨outcome, effect⟩ := decided.effect
  have same := decided.kept
  unfold Approvals.approvalEffect at effect
  cases named : approval.workflowType with
  | procurement name => exact Touched.applied (decideApproval_applied decided named)
  | _ =>
      simp only [named, returns_widen] at effect
      have unwritten := effect.unwritten
      refine apart_of_unwritten rfl ?_ (by simp [plannedTables, unwritten, same])
      simp [decides, decided.found, named]

theorem work_touched (work : SupplyWork db event db') : Touched db event db' := by
  cases work with
  | supply returns => exact Touched.supply returns
  | elsewhere own => exact apart_of_unwritten rfl rfl (by simp [plannedTables, own, elsewhereTables])
  | operations own work =>
      cases work with
      | @command _ request reply sent returns =>
          obtain ⟨command, body⟩ := request
          unfold runCommand at returns
          cases body with
          | decideApproval body => exact decideApproval_touched (returns_widen.mp returns)
          | receivePurchase body =>
              have ran := returns_widen.mp returns
              obtain ⟨-, item, batch, receipt, received⟩ :=
                PurchaseReceipts.receivePurchase_returns ran
              have unwritten := ran.unwritten
              refine Touched.apart rfl rfl (by simp [plannedTables, unwritten]) ?_
              rw [received.items]
              exact Law.revises_update _ fun _ => rfl
          | _ =>
              have unwritten := (returns_widen.mp returns).unwritten
              exact apart_of_unwritten rfl rfl (by simp [plannedTables, unwritten])
      | warnInvoiceRisk warned =>
          have unwritten := warned.unwritten
          exact apart_of_unwritten rfl rfl (by simp [plannedTables, unwritten])
      | procurement => exact own.elim
      | approvalRequest => exact apart_of_unwritten rfl rfl (by simp [plannedTables])
      | outboxMessage => exact apart_of_unwritten rfl rfl fun _ _ => rfl

end SupplyChain.Procurement
