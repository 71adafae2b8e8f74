import SupplyChain.Procurement.Steps
import SupplyChain.Supply.Frames
import SupplyChain.Approvals.Requests

/-!
The approval requests of the procurement system: every command only adds
requests of its own workflows, a decision settles the one it is about, and a
pending request is never changed.
-/

namespace SupplyChain.Procurement

open Relational Transaction TableName Supply

variable {db db' : Database} {event : SupplyEvent} {command : SupplyContext}
  {writes : List TableName} {names : List String}

/-- The workflows of the requests that a command may create. -/
def requestsOf : SupplyCommand → List String
  | .writeSupplier _ => ["supplier_onboarding"]
  | .writeSupplierSku _ => ["supplier_sku_change"]
  | .writeSupplierPrice _ => ["supplier_price_change"]
  | .createBom _ => ["bom_version"]
  | .createPurchasePlan _ => ["purchase_plan_version"]
  | .updatePurchasePlan _ => ["purchase_plan_deviation", "purchase_plan_factory_exception"]
  | .createPurchaseOrder _ => ["purchase_plan_deviation"]
  | .updatePurchaseOrder _ => ["purchase_order_factory_exception"]

/-- Requests of the named workflows are added. -/
abbrev gainsOf (names : List String) : Law (Table ApprovalRequest) :=
  Law.gains fun row => ∃ name ∈ names, row.workflowType = .procurement name

/-! ## Commands -/

theorem createApproval_gains [Writes approvalRequests writes] [Writes procurementVersions writes]
    {workflowType entityType : String} {entityId : Nat} {payload : JsonValue} {highRisk : Bool}
    (named : workflowType ∈ names) :
    Obeys (onTable approvalRequests (gainsOf names))
      (createApproval command workflowType entityType entityId payload highRisk :
        SupplyTx writes Nat) := by
  refine obeys_bind (keeps_insertUnique fun table => ?_) fun approvalId => ?_
  · exact Law.gains_insert table ⟨workflowType, named, rfl⟩
  · exact obeys_bind (obeys_insertUnique (onTable_free (by decide))) fun _ => obeys_pure

section Suppliers

open Suppliers

variable {contract : Contract Row String}

theorem managingFactory_obeys {tier : Int} {given : Option Nat} :
    Obeys contract (managingFactory tier given : SupplyTx writes (Option Nat)) := by
  refine obeys_ite (fun _ => obeys_pure) fun _ => ?_
  exact obeys_bind obeys_positiveKey fun _ => obeys_pure

theorem bindsFactory_obeys {access : AccessContext} {managedByFactoryId : Option Nat} :
    Obeys contract (bindsFactory access managedByFactoryId : SupplyTx writes Unit) := by
  unfold bindsFactory
  split
  · exact obeys_ite (fun _ => obeys_refuseIf) fun _ => obeys_pure
  · exact obeys_pure

theorem requireManagedFactory_obeys {managedByFactoryId : Option Nat} :
    Obeys contract (requireManagedFactory managedByFactoryId : SupplyTx writes Unit) := by
  unfold requireManagedFactory
  split
  · exact obeys_pure
  · exact obeys_bind obeys_query fun _ => obeys_refuseIf

theorem writeSupplier_gains {body : WriteSupplier} :
    Obeys (onTable approvalRequests (gainsOf ["supplier_onboarding"]))
      (writeSupplier command body) := by
  refine obeys_bind obeys_text fun code => obeys_bind obeys_text fun name => ?_
  refine obeys_bind obeys_positiveInteger fun tier => obeys_bind obeys_refuseIf fun _ => ?_
  refine obeys_bind managingFactory_obeys fun factoryId => obeys_bind obeys_refuseIf fun _ => ?_
  refine obeys_bind bindsFactory_obeys fun _ => obeys_bind obeys_text fun licenseKey => ?_
  refine obeys_bind obeys_requireFile fun _ => obeys_bind requireManagedFactory_obeys fun _ => ?_
  refine obeys_bind obeys_query fun known => obeys_bind obeys_refuseIf fun _ => ?_
  refine obeys_bind obeys_text fun _ => obeys_bind obeys_text fun _ => ?_
  refine obeys_bind obeys_text fun _ => obeys_bind obeys_text fun _ => ?_
  refine obeys_bind obeys_text fun _ => ?_
  refine obeys_bind (obeys_insertUnique (onTable_free (by decide))) fun supplierId => ?_
  refine obeys_ite (fun _ => obeys_bind Supply.keeps_domainEvent fun _ => obeys_pure) fun _ => ?_
  refine obeys_bind (createApproval_gains (by decide)) fun approvalId => ?_
  exact obeys_bind keeps_approvalNotification fun _ => obeys_pure

theorem relationOf_obeys {body : WriteSupplierSku} {sku effectiveFrom : String}
    {stockUnit : Option String} {directFactory : Bool} :
    Obeys contract (relationOf command body sku effectiveFrom stockUnit directFactory :
      SupplyTx writes SupplierSku) := by
  have positive : ∀ value, Obeys contract (optionalPositive value : SupplyTx writes _) := by
    intro value
    unfold optionalPositive
    split
    · exact obeys_pure
    · exact obeys_bind obeys_positiveInteger fun _ => obeys_pure
  have nonNegative : ∀ value, Obeys contract (optionalNonNegative value : SupplyTx writes _) := by
    intro value
    unfold optionalNonNegative
    split
    · exact obeys_pure
    · exact obeys_bind obeys_nonNegativeInteger fun _ => obeys_pure
  refine obeys_bind obeys_positiveInteger fun _ => obeys_bind obeys_positiveInteger fun _ => ?_
  refine obeys_bind obeys_positiveInteger fun _ => obeys_bind obeys_optionalText fun _ => ?_
  refine obeys_bind (nonNegative _) fun _ => obeys_bind (positive _) fun _ => ?_
  exact obeys_bind (positive _) fun _ => obeys_pure

theorem writeSupplierSku_gains {body : WriteSupplierSku} :
    Obeys (onTable approvalRequests (gainsOf ["supplier_sku_change"]))
      (writeSupplierSku command body) := by
  refine obeys_bind obeys_positiveKey fun factoryId => obeys_bind obeys_positiveKey fun _ => ?_
  refine obeys_bind obeys_text fun sku => obeys_bind obeys_date fun effectiveFrom => ?_
  refine obeys_bind (obeys_whenever obeys_refuseIf) fun _ => obeys_bind obeys_query fun _ => ?_
  refine obeys_bind obeys_select fun found => obeys_bind obeys_query fun skuRow => ?_
  refine obeys_bind obeys_orThrow fun supplier => obeys_bind obeys_orThrow fun stocked => ?_
  refine obeys_bind obeys_refuseIf fun _ => obeys_bind obeys_refuseIf fun _ => ?_
  refine obeys_bind obeys_query fun existing => obeys_bind relationOf_obeys fun relation => ?_
  refine obeys_bind (obeys_widen (keeps_unwritten (by decide))) fun stored => ?_
  refine obeys_ite (fun _ => obeys_bind Supply.keeps_domainEvent fun _ => obeys_pure) fun _ => ?_
  refine obeys_bind (createApproval_gains (by decide)) fun approvalId => ?_
  exact obeys_bind keeps_approvalNotification fun _ => obeys_pure

theorem writeSupplierPrice_gains {body : WriteSupplierPrice} :
    Obeys (onTable approvalRequests (gainsOf ["supplier_price_change"]))
      (writeSupplierPrice command body) := by
  refine obeys_bind obeys_positiveKey fun supplierId => obeys_bind obeys_text fun sku => ?_
  refine obeys_bind obeys_positiveInteger fun _ => obeys_bind obeys_positiveInteger fun _ => ?_
  refine obeys_bind obeys_nonNegativeInteger fun _ => obeys_bind obeys_refuseIf fun _ => ?_
  refine obeys_bind obeys_date fun effectiveFrom => obeys_bind obeys_text fun reason => ?_
  refine obeys_bind obeys_text fun fileKey => obeys_bind obeys_select fun found => ?_
  refine obeys_bind obeys_orThrow fun supplier => obeys_bind obeys_query fun known => ?_
  refine obeys_bind obeys_refuseIf fun _ => obeys_bind obeys_refuseIf fun _ => ?_
  refine obeys_bind obeys_refuseIf fun _ => obeys_bind obeys_query fun relations => ?_
  refine obeys_bind obeys_refuseIf fun _ => obeys_bind obeys_requireFile fun evidence => ?_
  refine obeys_bind obeys_query fun current => obeys_bind obeys_refuseIf fun _ => ?_
  refine obeys_bind (obeys_widen (keeps_unwritten (by decide))) fun version => ?_
  refine obeys_ite (fun _ => obeys_widen (keeps_unwritten (by decide))) fun _ => obeys_widen ?_
  refine obeys_bind (obeys_insertInto (onTable_free (by decide))) fun changeId => ?_
  refine obeys_bind (createApproval_gains (by decide)) fun approvalId => ?_
  exact obeys_bind keeps_approvalNotification fun _ => obeys_pure

end Suppliers

section MasterData

open MasterData

variable {contract : Contract Row String}

theorem prepareComponents_obeys {seen : List String} {inputs : List ComponentInput} :
    Obeys contract (prepareComponents command seen inputs : SupplyTx writes _) := by
  have rates : ∀ value, Obeys contract (bps value : SupplyTx writes Int) :=
    fun value => obeys_bind obeys_refuseIf fun _ => obeys_pure
  induction inputs generalizing seen with
  | nil => exact obeys_pure
  | cons input rest ih =>
      refine obeys_bind ?_ fun prepared => obeys_bind ih fun others => obeys_pure
      refine obeys_bind obeys_text fun given => obeys_bind obeys_refuseIf fun _ => ?_
      refine obeys_bind obeys_query fun found => obeys_bind obeys_refuseIf fun _ => ?_
      refine obeys_bind obeys_positiveInteger fun _ => obeys_bind (rates _) fun _ => ?_
      exact obeys_bind (rates _) fun _ => obeys_bind (rates _) fun _ => obeys_pure

theorem lastDay_obeys {value : Option String} :
    Obeys contract (lastDay value : SupplyTx writes _) := by
  unfold lastDay
  split
  · exact obeys_pure
  · refine obeys_ite (fun _ => obeys_pure) fun _ => ?_
    exact obeys_bind obeys_date fun _ => obeys_pure

theorem overlapReasonOf_obeys {overlapAllowed : Bool} {reason : Option String} :
    Obeys contract (overlapReasonOf overlapAllowed reason : SupplyTx writes _) :=
  obeys_ite (fun _ => obeys_text) fun _ => obeys_pure

theorem createBom_gains {body : CreateBom} :
    Obeys (onTable approvalRequests (gainsOf ["bom_version"])) (createBom command body) := by
  refine obeys_bind obeys_refuseIf fun _ => obeys_bind obeys_text fun given => ?_
  refine obeys_bind obeys_text fun version => obeys_bind obeys_date fun effectiveFrom => ?_
  refine obeys_bind lastDay_obeys fun effectiveTo => obeys_bind obeys_refuseIf fun _ => ?_
  refine obeys_bind overlapReasonOf_obeys fun overlapReason => ?_
  refine obeys_bind obeys_refuseIf fun _ => obeys_bind obeys_refuseIf fun _ => ?_
  refine obeys_bind obeys_query fun finished => obeys_bind obeys_refuseIf fun _ => ?_
  refine obeys_bind obeys_query fun existing => obeys_bind obeys_refuseIf fun _ => ?_
  refine obeys_bind obeys_refuseIf fun _ => obeys_bind prepareComponents_obeys fun components => ?_
  refine obeys_bind (obeys_insertUnique (onTable_free (by decide))) fun bomId => ?_
  refine obeys_bind (obeys_widen (keeps_unwritten (by decide))) fun _ => ?_
  refine obeys_bind (createApproval_gains (by decide)) fun approvalId => ?_
  exact obeys_bind keeps_approvalNotification fun _ => obeys_pure

end MasterData

section PurchasePlans

open PurchasePlans

variable {contract : Contract Row String}

theorem prepareLines_obeys {seen : List (String × Nat × Nat × String)} {inputs : List PlanLine} :
    Obeys contract (prepareLines seen inputs : SupplyTx writes _) := by
  induction inputs generalizing seen with
  | nil => exact obeys_pure
  | cons input rest ih =>
      refine obeys_bind ?_ fun prepared => obeys_bind ih fun others => obeys_pure
      refine obeys_bind obeys_date fun arrival => obeys_bind obeys_positiveKey fun factoryId => ?_
      refine obeys_bind obeys_positiveKey fun warehouseId => obeys_bind obeys_text fun sku => ?_
      refine obeys_bind obeys_text fun productName => obeys_bind obeys_positiveKey fun bomId => ?_
      refine obeys_bind obeys_positiveInteger fun quantity => obeys_bind obeys_refuseIf fun _ => ?_
      refine obeys_bind obeys_query fun bound => obeys_bind obeys_refuseIf fun _ => ?_
      refine obeys_bind obeys_select fun bom => obeys_bind obeys_refuseIf fun _ => ?_
      refine obeys_bind obeys_query fun skuRow => obeys_bind obeys_orThrow fun found => ?_
      exact obeys_bind obeys_refuseIf fun _ => obeys_pure

theorem createPurchasePlan_gains {body : CreatePurchasePlan} :
    Obeys (onTable approvalRequests (gainsOf ["purchase_plan_version"]))
      (createPurchasePlan command body) := by
  refine obeys_bind obeys_refuseIf fun _ => obeys_bind obeys_text fun planNo => ?_
  refine obeys_bind obeys_refuseIf fun _ => obeys_bind obeys_optionalText fun sourceFileKey => ?_
  refine obeys_bind obeys_requireSourceFile fun _ => obeys_bind obeys_query fun previous => ?_
  refine obeys_bind prepareLines_obeys fun prepared => ?_
  refine obeys_bind (obeys_insertUnique (onTable_free (by decide))) fun planId => ?_
  refine obeys_bind (obeys_widen (keeps_unwritten (by decide))) fun _ => ?_
  refine obeys_ite (fun _ => ?_) fun _ => ?_
  · refine obeys_bind (createApproval_gains (by decide)) fun approvalId => ?_
    exact obeys_bind keeps_approvalNotification fun _ => obeys_pure
  · refine obeys_bind (obeys_createReminder (onTable_free (by decide))) fun _ => ?_
    exact obeys_bind Supply.keeps_domainEvent fun _ => obeys_pure

theorem requestDeviation_gains [Writes approvalRequests writes] [Writes procurementVersions writes]
    {entityType : String} {entityId : Nat} {deviations : List JsonValue}
    (named : "purchase_plan_deviation" ∈ names) :
    Obeys (onTable approvalRequests (gainsOf names))
      (requestDeviation command entityType entityId deviations : SupplyTx writes _) := by
  refine obeys_ite (fun _ => obeys_pure) fun _ => ?_
  exact obeys_bind (createApproval_gains named) fun _ => obeys_pure

theorem finalizeOrdering_gains {id expectedUpdatedAt : Nat} {plan : PurchasePlan}
    {items : List (Nat × PurchasePlanItem)} :
    Obeys (onTable approvalRequests
        (gainsOf ["purchase_plan_deviation", "purchase_plan_factory_exception"]))
      (finalizeOrdering command id plan expectedUpdatedAt items) := by
  refine obeys_bind (obeys_widen (keeps_unwritten (by decide))) fun _ => ?_
  refine obeys_bind (requestDeviation_gains (by decide)) fun approvalId => ?_
  refine obeys_bind (obeys_updateRow (onTable_free (by decide))) fun _ => ?_
  cases approvalId with
  | none => exact obeys_bind Supply.keeps_domainEvent fun _ => obeys_pure
  | some approvalId => exact obeys_bind keeps_approvalNotification fun _ => obeys_pure

theorem proposedDate_obeys {decision : FactoryDecision} {given : Option String} :
    Obeys contract (proposedDate decision given : SupplyTx writes _) := by
  cases decision with
  | unable => exact obeys_bind obeys_date fun _ => obeys_pure
  | confirmed => exact obeys_optionalText

theorem statedReason_obeys {decision : FactoryDecision} {given : Option String} :
    Obeys contract (statedReason decision given : SupplyTx writes _) := by
  cases decision with
  | unable => exact obeys_text
  | confirmed => exact obeys_bind obeys_optionalText fun _ => obeys_pure

theorem answerPlan_gains {id expectedUpdatedAt factoryId : Nat}
    {items : List (Nat × PurchasePlanItem)} {body : FactoryAnswer} :
    Obeys (onTable approvalRequests
        (gainsOf ["purchase_plan_deviation", "purchase_plan_factory_exception"]))
      (answerPlan command id expectedUpdatedAt items factoryId body) := by
  refine obeys_bind obeys_refuseIf fun _ => obeys_bind obeys_refuseIf fun _ => ?_
  refine obeys_bind obeys_date fun start => obeys_bind obeys_date fun finish => ?_
  refine obeys_bind obeys_refuseIf fun _ => obeys_bind proposedDate_obeys fun proposed => ?_
  refine obeys_bind statedReason_obeys fun reason => ?_
  refine obeys_bind (obeys_insertInto (onTable_free (by decide))) fun responseId => ?_
  refine obeys_bind (obeys_updateRow (onTable_free (by decide))) fun _ => ?_
  refine obeys_ite (fun _ => ?_) fun _ => obeys_bind Supply.keeps_domainEvent fun _ => obeys_pure
  refine obeys_bind (createApproval_gains (by decide)) fun approvalId => ?_
  exact obeys_bind keeps_approvalNotification fun _ => obeys_pure

theorem updatePurchasePlan_gains {body : UpdatePurchasePlan} :
    Obeys (onTable approvalRequests
        (gainsOf ["purchase_plan_deviation", "purchase_plan_factory_exception"]))
      (updatePurchasePlan command body) := by
  unfold updatePurchasePlan
  refine obeys_bind obeys_positiveKey fun id => ?_
  cases body.action with
  | finalizeOrdering =>
      refine obeys_bind obeys_refuseIf fun _ => obeys_bind obeys_select fun found => ?_
      refine obeys_bind obeys_orThrow fun plan => obeys_bind obeys_refuseIf fun _ => ?_
      refine obeys_bind obeys_query fun items => obeys_bind obeys_refuseIf fun _ => ?_
      exact obeys_bind obeys_refuseIf fun _ => obeys_widen finalizeOrdering_gains
  | answer answer =>
      refine obeys_bind obeys_refuseIf fun _ => obeys_bind obeys_select fun found => ?_
      refine obeys_bind obeys_orThrow fun plan => obeys_bind obeys_refuseIf fun _ => ?_
      refine obeys_bind obeys_query fun items => obeys_bind obeys_refuseIf fun _ => ?_
      refine obeys_bind obeys_refuseIf fun _ => obeys_bind obeys_orThrow fun factoryId => ?_
      exact obeys_widen answerPlan_gains

end PurchasePlans

section PurchaseOrders

open PurchaseOrders

variable {contract : Contract Row String}

theorem prepareItem_obeys {orderDate : String} {seen : List (String × Nat)} {input : OrderLine} :
    Obeys contract (prepareItem orderDate seen input : SupplyTx writes _) := by
  refine obeys_bind obeys_positiveKey fun planItemId => obeys_bind obeys_positiveKey fun _ => ?_
  refine obeys_bind obeys_positiveInteger fun quantity => obeys_bind obeys_date fun due => ?_
  refine obeys_bind obeys_select fun found => obeys_bind obeys_orThrow fun planItem => ?_
  refine obeys_bind obeys_select fun parent => obeys_bind obeys_orThrow fun plan => ?_
  refine obeys_bind obeys_query fun latest => obeys_bind obeys_refuseIf fun _ => ?_
  refine obeys_bind obeys_refuseIf fun _ => obeys_bind obeys_text fun sku => ?_
  refine obeys_bind obeys_refuseIf fun _ => obeys_bind obeys_text fun productName => ?_
  refine obeys_bind obeys_text fun itemType => obeys_bind obeys_refuseIf fun _ => ?_
  refine obeys_bind obeys_refuseIf fun _ => obeys_bind obeys_select fun supplier => ?_
  refine obeys_bind obeys_refuseIf fun _ => obeys_bind obeys_query fun related => ?_
  refine obeys_bind obeys_refuseIf fun _ => obeys_bind obeys_query fun agreed => ?_
  refine obeys_bind obeys_orThrow fun price => obeys_bind obeys_refuseIf fun _ => ?_
  refine obeys_bind obeys_refuseIf fun _ => obeys_bind obeys_refuseIf fun _ => ?_
  exact obeys_pure

theorem prepareItems_obeys {orderDate : String} {seen : List (String × Nat)}
    {inputs : List OrderLine} :
    Obeys contract (prepareItems orderDate seen inputs : SupplyTx writes _) := by
  induction inputs generalizing seen with
  | nil => exact obeys_pure
  | cons input rest ih =>
      exact obeys_bind prepareItem_obeys fun prepared => obeys_bind ih fun others => obeys_pure

theorem createPurchaseOrder_gains {body : CreatePurchaseOrder} :
    Obeys (onTable approvalRequests (gainsOf ["purchase_plan_deviation"]))
      (createPurchaseOrder command body) := by
  refine obeys_bind obeys_refuseIf fun _ => obeys_bind obeys_text fun orderNo => ?_
  refine obeys_bind obeys_date fun orderDate => obeys_bind obeys_refuseIf fun _ => ?_
  refine obeys_bind obeys_optionalText fun sourceFileKey => ?_
  refine obeys_bind obeys_requireSourceFile fun _ => obeys_bind obeys_query fun duplicate => ?_
  refine obeys_bind obeys_refuseIf fun _ => obeys_bind obeys_refuseIf fun _ => ?_
  refine obeys_bind prepareItems_obeys fun prepared => obeys_bind obeys_refuseIf fun _ => ?_
  refine obeys_bind (obeys_insertUnique (onTable_free (by decide))) fun orderId => ?_
  refine obeys_bind (obeys_widen (keeps_unwritten (by decide))) fun _ => ?_
  refine obeys_bind (obeys_widen (keeps_unwritten (by decide))) fun _ => ?_
  refine obeys_bind (requestDeviation_gains (by decide)) fun approvalId => ?_
  cases approvalId with
  | none =>
      refine obeys_bind (obeys_createReminder (onTable_free (by decide))) fun _ => ?_
      exact obeys_bind Supply.keeps_domainEvent fun _ => obeys_pure
  | some approvalId => exact obeys_bind keeps_approvalNotification fun _ => obeys_pure

theorem updatePurchaseOrder_gains {body : UpdatePurchaseOrder} :
    Obeys (onTable approvalRequests (gainsOf ["purchase_order_factory_exception"]))
      (updatePurchaseOrder command body) := by
  refine obeys_bind obeys_positiveKey fun id => obeys_bind obeys_refuseIf fun _ => ?_
  refine obeys_bind obeys_orThrow fun factoryId => obeys_bind proposedDate_obeys fun due => ?_
  refine obeys_bind statedReason_obeys fun reason => obeys_bind obeys_select fun found => ?_
  refine obeys_bind obeys_orThrow fun order => obeys_bind obeys_refuseIf fun _ => ?_
  refine obeys_bind obeys_refuseIf fun _ => obeys_bind obeys_query fun scopes => ?_
  refine obeys_bind obeys_refuseIf fun _ => ?_
  refine obeys_bind (obeys_updateRow (onTable_free (by decide))) fun _ => ?_
  refine obeys_ite (fun _ => ?_) fun _ => obeys_bind Supply.keeps_domainEvent fun _ => obeys_pure
  refine obeys_bind (createApproval_gains (by decide)) fun approvalId => ?_
  exact obeys_bind keeps_approvalNotification fun _ => obeys_pure

end PurchaseOrders

theorem runSupply_gains {request : SupplyRequest} :
    Obeys (onTable approvalRequests (gainsOf (requestsOf request.body))) (runSupply request) := by
  obtain ⟨command, body⟩ := request
  unfold runSupply
  cases body with
  | writeSupplier body => exact obeys_widen writeSupplier_gains
  | writeSupplierSku body => exact obeys_widen writeSupplierSku_gains
  | writeSupplierPrice body => exact obeys_widen writeSupplierPrice_gains
  | createBom body => exact obeys_widen createBom_gains
  | createPurchasePlan body => exact obeys_widen createPurchasePlan_gains
  | updatePurchasePlan body => exact obeys_widen updatePurchasePlan_gains
  | createPurchaseOrder body => exact obeys_widen createPurchaseOrder_gains
  | updatePurchaseOrder body => exact obeys_widen updatePurchaseOrder_gains

/-! ## Steps -/

/-- The procurement workflows of the requests that an event may create. -/
def requestedBy : SupplyEvent → List String
  | .supply request => requestsOf request.body
  | .operations (.approvalRequest _) => ["sku_verification"]
  | _ => []

theorem requestedBy_unsupplied (notSupplied : supplied event = none) :
    ∀ name ∈ requestedBy event, name = "sku_verification" := by
  intro name member
  unfold requestedBy at member
  split at member
  · cases notSupplied
  · exact List.mem_singleton.mp member
  · cases member

/-- A request that is pending after a step was already there, as it is, or it is
new and of one of the workflows of the event. -/
def PendingKept (db : Database) (event : SupplyEvent) (db' : Database) : Prop :=
  ∀ id row, (db' approvalRequests).find? id = some row → row.status = .pending →
    (db approvalRequests).find? id = some row ∨
      ∀ name, row.workflowType = .procurement name → name ∈ requestedBy event

theorem pendingKept_same (same : db' approvalRequests = db approvalRequests) :
    PendingKept db event db' := by
  intro id row found pending
  rw [same] at found
  exact Or.inl found

/-- A decision leaves no trace of the request that it settles among the pending
ones. -/
theorem pendingKept_decided {id : Nat} {decision : Decision}
    {change : ApprovalRequest → ApprovalRequest}
    (decided : db' approvalRequests = (db approvalRequests).modify id change)
    (settles : ∀ row, (change row).status = decision.status) : PendingKept db event db' := by
  intro key row found pending
  rw [decided] at found
  rcases Table.find?_modify_cases found with ⟨rfl, old, -, rfl⟩ | ⟨-, same⟩
  · rw [settles] at pending
    cases decision <;> cases pending
  · exact Or.inl same

theorem work_pendingKept (work : SupplyWork db event db') : PendingKept db event db' := by
  cases work with
  | supply returns =>
      intro id row found pending
      rcases (runSupply_gains.obeyed returns).2 id row found with old | ⟨name, named, workflow⟩
      · exact Or.inl old
      · refine Or.inr fun other same => ?_
        rw [workflow] at same
        cases same
        exact named
  | elsewhere own => exact pendingKept_same (own _ (by decide))
  | operations own work =>
      cases work with
      | @command _ request reply sent returns =>
          obtain ⟨command, body⟩ := request
          cases body with
          | decideApproval body =>
              unfold runCommand at returns
              obtain ⟨-, approval, mid, decided⟩ :=
                Approvals.decideApproval_returns (returns_widen.mp returns)
              obtain ⟨outcome, effect⟩ := decided.effect
              obtain ⟨change, modified, settles⟩ := decided.decided
              have settled := (effect.unwritten approvalRequests (by decide)).trans modified
              exact pendingKept_decided settled fun row => (settles row).1
          | _ =>
              have gains := (Approvals.runCommand_gains (fun _ same => by cases same)).obeyed returns
              intro id row found pending
              rcases gains.2 id row found with old | own
              · exact Or.inl old
              · exact Or.inr fun name same => absurd same (own name)
      | warnInvoiceRisk warned => exact pendingKept_same (warned.unwritten _ (by decide))
      | procurement => exact own.elim
      | @approvalRequest row unique =>
          intro id other found pending
          rw [Store.put_same] at found
          rcases Table.find?_insert_cases found with ⟨-, rfl⟩ | old
          · refine Or.inr fun name same => ?_
            simp only [OwnEvent, same, elsewhereWorkflow] at own
            simp [requestedBy, own]
          · exact Or.inl old
      | outboxMessage => exact pendingKept_same rfl

/-- What nothing changes of a request. -/
def requestKey (request : ApprovalRequest) : Workflow × String × Nat × JsonValue :=
  (request.workflowType, request.entityType, request.entityId, request.payload)

/-- No request is lost; one that is settled stays as it is, and a pending one is
only settled. -/
def RequestsKept (db db' : Database) : Prop :=
  ∀ id row, (db approvalRequests).find? id = some row →
    ∃ new, (db' approvalRequests).find? id = some new ∧ requestKey new = requestKey row ∧
      (row.status ≠ .pending → new = row)

theorem requestsKept_same (same : db' approvalRequests = db approvalRequests) :
    RequestsKept db db' := by
  intro id row found
  exact ⟨row, same ▸ found, rfl, fun _ => rfl⟩

theorem requestsKept_gains {kind : ApprovalRequest → Prop}
    (gains : (Law.gains kind).allows (db approvalRequests) (db' approvalRequests)) :
    RequestsKept db db' := by
  intro id row found
  obtain ⟨new, foundNew, rfl⟩ := gains.1.kept id row found
  exact ⟨_, foundNew, rfl, fun _ => rfl⟩

theorem work_requestsKept (work : SupplyWork db event db') : RequestsKept db db' := by
  cases work with
  | supply returns => exact requestsKept_gains (runSupply_gains.obeyed returns)
  | elsewhere own => exact requestsKept_same (own _ (by decide))
  | operations own work =>
      cases work with
      | @command _ request reply sent returns =>
          obtain ⟨command, body⟩ := request
          cases body with
          | decideApproval body =>
              unfold runCommand at returns
              obtain ⟨-, approval, mid, decided⟩ :=
                Approvals.decideApproval_returns (returns_widen.mp returns)
              obtain ⟨outcome, effect⟩ := decided.effect
              obtain ⟨change, modified, -⟩ := decided.decided
              obtain ⟨claimed, foundClaimed, workflow, entityType, entityId, payload⟩ :=
                decided.claimed
              intro id row found
              rw [effect.unwritten approvalRequests (by decide)]
              by_cases own : id = body.id
              · subst own
                obtain rfl := Option.some.inj (decided.found.symm.trans found)
                refine ⟨claimed, foundClaimed, ?_, fun settled => absurd decided.pending settled⟩
                rw [requestKey, workflow, entityType, entityId, payload]
                rfl
              · rw [modified, Table.find?_modify_ne _ _ own]
                exact ⟨row, found, rfl, fun _ => rfl⟩
          | _ =>
              exact requestsKept_gains
                ((Approvals.runCommand_gains (fun _ same => by cases same)).obeyed returns)
      | warnInvoiceRisk warned => exact requestsKept_same (warned.unwritten _ (by decide))
      | procurement => exact own.elim
      | approvalRequest unique =>
          intro id row found
          rw [Store.put_same]
          exact ⟨row, Table.find?_insert_of_some found, rfl, fun _ => rfl⟩
      | outboxMessage => exact requestsKept_same rfl

end SupplyChain.Procurement
