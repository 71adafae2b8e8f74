import SupplyChain.Suppliers
import SupplyChain.Approvals
import SupplyChain.Relational.Frames

/-!
The effects that the procurement side registers for the approvals of its
workflows. The messages they send carry keys of another family than those of
the operations commands and are left out.
-/

namespace SupplyChain.SupplyApprovalEffects

open Relational Transaction TableName Supply
open Approvals (ProcurementEffects procurementTables)

variable {writes : List TableName}

/-- An active user whose main role is the supply chain, or who holds an active
role of the administrator or the supply chain on the current day. -/
def authorizedReviewer (db : Database) (userId : Nat) (today : String) : Bool :=
  ((db users).find? userId).any fun user =>
    user.active && (user.role == .supplyChain || (db userRoles).any fun _ row =>
      row.userId == userId && (row.roleCode == .admin || row.roleCode == .supplyChain) &&
        row.status == .active && decide (row.effectiveFrom ≤ today) &&
        row.effectiveTo.all fun last => decide (today ≤ last))

def textAt (payload : JsonValue) (name : String) : Option String :=
  match payload.member name with
  | some (.text value) => some value
  | _ => none

/-- A positive safe integer among the members. -/
def positiveAt (payload : JsonValue) (name : String) : Option Nat :=
  match payload.member name with
  | some (.number value) => if 0 < value ∧ isSafeInteger value then some value.toNat else none
  | _ => none

def applySupplierOnboarding (approval : ApprovalRequest) (decision : Decision) :
    Tx [suppliers] Unit :=
  updateRow suppliers approval.entityId (fun row => row.verificationStatus == .pending)
    (fun row => { row with
      verificationStatus := decision.status, active := decide (decision = .approved) })
    (conflict "Supplier onboarding target changed concurrently")

/-- `/^[a-f\d]{64}$/`. -/
def isDigest (value : String) : Bool :=
  value.toList.length == 64 && value.toList.all fun c =>
    ('a' ≤ c && c ≤ 'f') || ('0' ≤ c && c ≤ '9')

/-- The other relations of the factory and the sku lose the primary mark. -/
def clearPrimary (command : CommandContext) (id : Nat) (relation : SupplierSku) :
    Tx [supplierSkus] Unit :=
  updateWhere supplierSkus
    (fun key row => row.factoryId == relation.factoryId && row.sku == relation.sku && key != id &&
      row.isPrimary)
    fun row => { row with isPrimary := false, updatedAt := command.now }

def applySupplierSku (command : CommandContext) (approval : ApprovalRequest)
    (decision : Decision) : Tx [supplierSkus, procurementVersions] Unit := do
  let targetVersion ← orThrow (positiveAt approval.payload "targetVersion")
    (conflict "Supplier-SKU approval target version is invalid")
  let targetHash ← orThrow ((textAt approval.payload "targetHash").filter isDigest)
    (conflict "Supplier-SKU approval target version is invalid")
  let found ← select supplierSkus approval.entityId
  let relation ← orThrow found (notFound "Supplier-SKU approval target not found")
  let version ← query fun db =>
    versionOf (db procurementVersions) "supplier_sku" approval.entityId
  refuseIf (version ≠ some targetVersion)
    (conflict "Supplier-SKU approval target changed concurrently")
  refuseIf (Suppliers.supplierSkuTargetHash command.sha256 relation ≠ targetHash)
    (conflict "Supplier-SKU approval target changed concurrently")
  whenever (decision = .approved ∧ relation.isPrimary = true)
    (clearPrimary command approval.entityId relation).widen
  updateRow supplierSkus approval.entityId
    (fun row => row.status == .pending && row.updatedAt == relation.updatedAt)
    (fun row => { row with
      status := if decision = .approved then .active else .inactive, updatedAt := command.now })
    (conflict "Supplier-SKU approval target changed concurrently")
  raiseVersion "supplier_sku" approval.entityId targetVersion
    "Supplier-SKU approval target changed concurrently"

/-- The approved price takes the place of the one it was requested against. -/
def replacePrice (change : CorePriceChangeRequest) (resourceId : String) (priceVersion : Nat) :
    Tx [corePriceAgreements, priceVersions] Unit := do
  let active ← query fun db => (Suppliers.activePrice db change.supplierId change.sku).map (·.1)
  refuseIf (active ≠ change.currentAgreementId)
    (conflict "Active supplier price changed concurrently")
  Suppliers.retirePrice change.currentAgreementId change.proposedEffectiveFrom
    "Active supplier price changed concurrently"
  insertRow corePriceAgreements
    { supplierId := change.supplierId, sku := change.sku
      unitPriceTaxIncludedMinor := change.proposedTaxIncludedMinor
      effectiveFrom := change.proposedEffectiveFrom }
  Suppliers.raisePriceVersion resourceId priceVersion "Supplier price changed concurrently"

def applySupplierPrice (approval : ApprovalRequest) (decision : Decision) :
    Tx [corePriceAgreements, corePriceChangeRequests, priceVersions] Unit := do
  let resourceId ← orThrow ((textAt approval.payload "priceResourceId").filter (· ≠ ""))
    (conflict "Supplier price approval target version is invalid")
  let priceVersion ← orThrow (positiveAt approval.payload "priceVersion")
    (conflict "Supplier price approval target version is invalid")
  let found ← select corePriceChangeRequests approval.entityId
  let change ← orThrow found (notFound "Supplier price approval target not found")
  refuseIf (change.decision ≠ .pending) (conflict "Supplier price request already decided")
  refuseIf (resourceId ≠ Suppliers.priceResourceId change.supplierId change.sku)
    (conflict "Supplier price approval target is invalid")
  let version ← query fun db => Suppliers.priceVersionOf (db priceVersions) resourceId
  refuseIf (version ≠ some priceVersion) (conflict "Supplier price changed concurrently")
  whenever (decision = .approved) (replacePrice change resourceId priceVersion).widen
  updateRow corePriceChangeRequests approval.entityId (fun row => row.decision == .pending)
    (fun row => { row with decision := decision.status })
    (conflict "Supplier price request changed concurrently")

def applySku (approval : ApprovalRequest) (decision : Decision) : Tx [skus] Unit :=
  updateRow skus approval.entityId (fun row => row.verificationStatus == .pending)
    (fun row => { row with
      verificationStatus := decision.status, active := decide (decision = .approved) })
    (conflict "SKU approval target changed concurrently")

/-- The keys of the versions that an approved version retires. -/
def retiredBoms (payload : JsonValue) : List Nat :=
  match payload.member "retireBomIds" with
  | some (.array ids) => ids.filterMap fun id =>
      match id with
      | .number value => if 0 < value ∧ isSafeInteger value then some value.toNat else none
      | _ => none
  | _ => []

def retireBom (last : String) (id : Nat) : Tx [productBoms] Unit :=
  updateWhere productBoms (fun key _ => key == id) fun row => { row with effectiveTo := some last }

def retireBoms (payload : JsonValue) : Tx [productBoms] Unit :=
  match payload.member "retirementDate" with
  | some (.text last) => forEach (retireBom last) (retiredBoms payload)
  | _ => return ()

def applyBom (approval : ApprovalRequest) (decision : Decision) : Tx [productBoms] Unit := do
  whenever (decision = .approved) (retireBoms approval.payload)
  updateRow productBoms approval.entityId (fun row => row.approvalStatus == .pending)
    (fun row => { row with
      approvalStatus := decision.status, active := decide (decision = .approved) })
    (conflict "BOM approval target changed concurrently")

def applyPlanVersion (command : CommandContext) (approval : ApprovalRequest)
    (decision : Decision) : Tx [purchasePlans, reminderSchedules] Unit := do
  updateRow purchasePlans approval.entityId (fun row => row.status == .pendingApproval)
    (fun row => { row with
      status := if decision = .approved then .awaitingFactoryConfirmation else .draft
      updatedAt := command.now })
    (conflict "Purchase plan approval target changed concurrently")
  whenever (decision = .approved)
    (createReminder .purchasePlanConfirmation approval.entityId approval.requestNo
      (command.clock + 3 * day))

/-- The plan items that a deviation names. -/
def deviatingItems (entries : List JsonValue) : List Nat :=
  entries.filterMap fun entry =>
    match entry.member "planItemId" with
    | some (.number value) => if 0 < value ∧ isSafeInteger value then some value.toNat else none
    | _ => none

def deviationEntries (payload : JsonValue) : Tx writes (List JsonValue) :=
  match payload with
  | .array entries => return entries
  | _ => fail (conflict "Purchase plan deviation payload is invalid")

/-- Marks an approved item and answers with its plan. -/
def decideItem (decision : Decision) (planItemId : Nat) : Tx [purchasePlanItems] Nat := do
  let found ← select purchasePlanItems planItemId
  let item ← orThrow found (notFound "Purchase plan deviation item not found")
  whenever (decision = .approved)
    (updateWhere purchasePlanItems (fun key _ => key == planItemId)
      fun row => { row with completionStatus := .exceptionApproved })
  return item.purchasePlanId

def decideOrder (command : CommandContext) (orderId : Nat) (decision : Decision) :
    Tx [purchaseOrders, reminderSchedules] Unit := do
  let found ← select purchaseOrders orderId
  let order ← orThrow found (notFound "Purchase order approval target not found")
  refuseIf (order.status ≠ .pendingApproval)
    (conflict "Purchase order approval target changed concurrently")
  updateRow purchaseOrders orderId
    (fun row => row.status == .pendingApproval && row.updatedAt == order.updatedAt)
    (fun row => { row with
      status := if decision = .approved then .factoryConfirmation else .approvalRejected
      updatedAt := command.now })
    (conflict "Purchase order approval target changed concurrently")
  whenever (decision = .approved)
    (createReminder .purchaseOrderConfirmation orderId order.orderNo (command.clock + day))

def decidePlan (command : CommandContext) (planId : Nat) : Tx [purchasePlans] Unit := do
  let incomplete ← query fun db => (db purchasePlanItems).any fun _ row =>
    row.purchasePlanId == planId && !row.completionStatus.done
  let found ← select purchasePlans planId
  let plan ← orThrow found (notFound "Purchase plan approval target not found")
  refuseIf (plan.status ≠ .ordering)
    (conflict "Purchase plan approval target changed concurrently")
  updateRow purchasePlans planId
    (fun row => row.status == .ordering && row.updatedAt == plan.updatedAt)
    (fun row => { row with
      status := if incomplete then .ordering else .orderedComplete, updatedAt := command.now })
    (conflict "Purchase plan approval target changed concurrently")

def applyPlanDeviation (command : CommandContext) (approval : ApprovalRequest)
    (decision : Decision) :
    Tx [purchasePlanItems, purchaseOrders, purchasePlans, reminderSchedules] Unit := do
  let entries ← deviationEntries approval.payload
  let planIds ← (collect (decideItem decision) (deviatingItems entries)).widen
  whenever (approval.entityType = "purchase_order")
    (decideOrder command approval.entityId decision).widen
  let own := if approval.entityType = "purchase_plan" then [approval.entityId] else []
  (forEach (decidePlan command) (planIds ++ own).eraseDups).widen

/-- The new arrival date of the items of a factory; two items that differed in
the date alone would clash. -/
def moveArrival (planId factoryId : Nat) (arrivalDate : String) : Tx [purchasePlanItems] Unit := do
  let moved ← query fun db => (db purchasePlanItems).select fun _ row =>
    row.purchasePlanId == planId && row.factoryId == factoryId
  refuseIf (¬ (moved.map fun r => (r.2.warehouseId, r.2.sku)).Nodup)
    (.duplicateKey purchasePlanItems)
  updateWhere purchasePlanItems
    (fun _ row => row.purchasePlanId == planId && row.factoryId == factoryId)
    fun row => { row with expectedArrivalDate := arrivalDate }

def reopenPlan (command : CommandContext) (planId : Nat) (status : PurchasePlanStatus) :
    Tx [purchasePlans] Unit :=
  updateWhere purchasePlans (fun key _ => key == planId)
    fun row => { row with status, updatedAt := command.now }

def moveProposed (response : FactoryPlanResponse) : Tx [purchasePlanItems] Unit :=
  match response.proposedArrivalDate with
  | none => return ()
  | some arrivalDate => moveArrival response.purchasePlanId response.factoryId arrivalDate

def acceptResponse (command : CommandContext) (response : FactoryPlanResponse) :
    Tx [purchasePlanItems, purchasePlans] Unit := do
  (moveProposed response).widen
  (reopenPlan command response.purchasePlanId .confirmed).widen

def refuseResponse (command : CommandContext) (response : FactoryPlanResponse)
    (requestNo : String) : Tx [purchasePlans, reminderSchedules] Unit := do
  (reopenPlan command response.purchasePlanId .awaitingFactoryConfirmation).widen
  createReminder .purchasePlanConfirmation response.purchasePlanId requestNo
    (command.clock + 3 * day)

def applyPlanException (command : CommandContext) (approval : ApprovalRequest)
    (decision : Decision) :
    Tx [factoryPlanResponses, purchasePlanItems, purchasePlans, reminderSchedules] Unit := do
  let found ← select factoryPlanResponses approval.entityId
  let response ← orThrow found (notFound "Factory plan response not found")
  updateRow factoryPlanResponses approval.entityId (fun row => row.status == .pendingSupplyChain)
    (fun row => { row with status := if decision = .approved then .approved else .rejected })
    (conflict "Factory plan response changed concurrently")
  if decision = .approved then (acceptResponse command response).widen
  else (refuseResponse command response approval.requestNo).widen

def settleDispute (command : CommandContext) (orderId : Nat) (status : PurchaseOrderStatus) :
    Tx [purchaseOrders] Unit :=
  updateWhere purchaseOrders (fun key row => key == orderId && row.status == .disputed)
    fun row => { row with status, updatedAt := command.now }

/-- The due dates of the order items, which nothing reads back, are left out. -/
def applyOrderException (command : CommandContext) (approval : ApprovalRequest)
    (decision : Decision) : Tx [purchaseOrders, reminderSchedules] Unit :=
  match decision with
  | .approved =>
      match approval.payload.member "proposedDueDate" with
      | some (.text _) => (settleDispute command approval.entityId .confirmed).widen
      | _ => fail (conflict "Purchase order exception date is missing")
  | .rejected => do
      (settleDispute command approval.entityId .factoryConfirmation).widen
      createReminder .purchaseOrderConfirmation approval.entityId approval.requestNo
        (command.clock + day)

def effectTypes : List String :=
  ["supplier_onboarding", "supplier_sku_change", "supplier_price_change", "sku_verification",
    "bom_version", "purchase_plan_version", "purchase_plan_deviation",
    "purchase_plan_factory_exception", "purchase_order_factory_exception"]

def applyEffect (command : CommandContext) (effectType : String) (approval : ApprovalRequest)
    (decision : Decision) : Tx procurementTables Unit :=
  if effectType = "supplier_onboarding" then (applySupplierOnboarding approval decision).widen
  else if effectType = "supplier_sku_change" then
    (applySupplierSku command approval decision).widen
  else if effectType = "supplier_price_change" then (applySupplierPrice approval decision).widen
  else if effectType = "sku_verification" then (applySku approval decision).widen
  else if effectType = "bom_version" then (applyBom approval decision).widen
  else if effectType = "purchase_plan_version" then
    (applyPlanVersion command approval decision).widen
  else if effectType = "purchase_plan_deviation" then
    (applyPlanDeviation command approval decision).widen
  else if effectType = "purchase_plan_factory_exception" then
    (applyPlanException command approval decision).widen
  else if effectType = "purchase_order_factory_exception" then
    (applyOrderException command approval decision).widen
  else return ()

def executeEffect (command : CommandContext) (effectType : String) (id : Nat)
    (decision : Decision) : Tx procurementTables JsonValue := do
  let authorized ← query fun db => authorizedReviewer db command.access.userId command.today
  refuseIf (authorized = false) (conflict "Approval reviewer role is not authorized")
  let found ← select approvalRequests id
  let approval ← orThrow found (notFound "Approval request not found for this domain effect")
  refuseIf (approval.workflowType.name ≠ effectType)
    (notFound "Approval request not found for this domain effect")
  refuseIf (approval.requestedBy = command.access.userId)
    (conflict "Requester cannot review the same approval")
  let stored ← query fun db => versionOf (db procurementVersions) "approval_request" id
  let version ← orThrow stored (conflict "Approval version changed concurrently")
  applyEffect command effectType approval decision
  raiseVersion "approval_request" id version "Approval effect changed concurrently"
  return .object [("decision", .text decision.name), ("entityId", .number approval.entityId),
    ("workflowType", .text effectType)]

/-! ## The effects under a contract -/

/-- A contract that an update of the plan items within their factory and sku
and an update of the versions of a bill stay in. -/
structure Retouches (contract : Contract Row DomainEvent) : Prop where
  items : ∀ db guard (change : PurchasePlanItem → PurchasePlanItem),
    (∀ row, (change row).factoryId = row.factoryId ∧ (change row).sku = row.sku) →
      contract.allows db [] (db.put purchasePlanItems ((db purchasePlanItems).update guard change))
  boms : ∀ db guard (change : ProductBom → ProductBom),
    contract.allows db [] (db.put productBoms ((db productBoms).update guard change))
  orders : Free contract purchaseOrders
  plans : Free contract purchasePlans
  responses : Free contract factoryPlanResponses
  reminders : Free contract reminderSchedules
  skus : Free contract skus
  suppliers : Free contract suppliers
  relations : ∀ db guard (change : SupplierSku → SupplierSku),
    contract.allows db [] (db.put supplierSkus ((db supplierSkus).update guard change))
  prices : Free contract corePriceAgreements
  priceChanges : Free contract corePriceChangeRequests
  versions : Free contract procurementVersions
  priceVersions : Free contract priceVersions

variable {contract : Contract Row DomainEvent} {command : CommandContext}
  {approval : ApprovalRequest} {decision : Decision}

theorem raiseVersion_obeys [Writes procurementVersions writes] (retouches : Retouches contract)
    {resourceType message : String} {id version : Nat} :
    Obeys contract (raiseVersion resourceType id version message : Tx writes Unit) :=
  obeys_bind obeys_query fun _ => obeys_bind obeys_refuseIf fun _ =>
    obeys_updateWhere retouches.versions

theorem applySupplierOnboarding_obeys (retouches : Retouches contract) :
    Obeys contract (applySupplierOnboarding approval decision) :=
  obeys_updateRow retouches.suppliers

theorem applySupplierSku_obeys (retouches : Retouches contract) :
    Obeys contract (applySupplierSku command approval decision) := by
  refine obeys_bind obeys_orThrow fun targetVersion => obeys_bind obeys_orThrow fun hash => ?_
  refine obeys_bind obeys_select fun found => obeys_bind obeys_orThrow fun relation => ?_
  refine obeys_bind obeys_query fun version => obeys_bind obeys_refuseIf fun _ => ?_
  refine obeys_bind obeys_refuseIf fun _ => obeys_bind (obeys_whenever (obeys_widen ?_)) fun _ => ?_
  · unfold clearPrimary updateWhere
    exact obeys_write fun db => retouches.relations db _ _
  · refine obeys_bind ?_ fun _ => raiseVersion_obeys retouches
    refine obeys_bind obeys_query fun _ => obeys_bind obeys_refuseIf fun _ => ?_
    exact obeys_write fun db => retouches.relations db _ _

theorem replacePrice_obeys (retouches : Retouches contract) {change : CorePriceChangeRequest}
    {resourceId : String} {version : Nat} :
    Obeys contract (replacePrice change resourceId version) := by
  have retires : ∀ current effectiveFrom message, Obeys contract
      (Suppliers.retirePrice current effectiveFrom message :
        Tx [corePriceAgreements, priceVersions] Unit) := by
    intro current effectiveFrom message
    cases current with
    | none => exact obeys_pure
    | some id => exact obeys_updateRow retouches.prices
  refine obeys_bind obeys_query fun active => obeys_bind obeys_refuseIf fun _ => ?_
  refine obeys_bind (retires _ _ _) fun _ => obeys_bind (obeys_insertRow retouches.prices) fun _ => ?_
  refine obeys_bind obeys_query fun _ => obeys_bind obeys_refuseIf fun _ => ?_
  exact obeys_updateWhere retouches.priceVersions

theorem applySupplierPrice_obeys (retouches : Retouches contract) :
    Obeys contract (applySupplierPrice approval decision) := by
  refine obeys_bind obeys_orThrow fun resourceId => obeys_bind obeys_orThrow fun version => ?_
  refine obeys_bind obeys_select fun found => obeys_bind obeys_orThrow fun change => ?_
  refine obeys_bind obeys_refuseIf fun _ => obeys_bind obeys_refuseIf fun _ => ?_
  refine obeys_bind obeys_query fun stored => obeys_bind obeys_refuseIf fun _ => ?_
  refine obeys_bind (obeys_whenever (obeys_widen (replacePrice_obeys retouches))) fun _ => ?_
  exact obeys_updateRow retouches.priceChanges

theorem applySku_obeys (retouches : Retouches contract) :
    Obeys contract (applySku approval decision) :=
  obeys_updateRow retouches.skus

theorem retireBoms_obeys (retouches : Retouches contract) {payload : JsonValue} :
    Obeys contract (retireBoms payload) := by
  unfold retireBoms
  split
  · apply obeys_forEach
    intro id _
    unfold retireBom updateWhere
    exact obeys_write fun db => retouches.boms db _ _
  · exact obeys_pure

theorem applyBom_obeys (retouches : Retouches contract) :
    Obeys contract (applyBom approval decision) := by
  refine obeys_bind (obeys_whenever (retireBoms_obeys retouches)) fun _ => ?_
  refine obeys_bind obeys_query fun _ => obeys_bind obeys_refuseIf fun _ => ?_
  exact obeys_write fun db => retouches.boms db _ _

theorem applyPlanVersion_obeys (retouches : Retouches contract) :
    Obeys contract (applyPlanVersion command approval decision) :=
  obeys_bind (obeys_updateRow retouches.plans) fun _ =>
    obeys_whenever (obeys_insertRow retouches.reminders)

theorem decideItem_obeys (retouches : Retouches contract) {planItemId : Nat} :
    Obeys contract (decideItem decision planItemId) := by
  refine obeys_bind obeys_select fun found => obeys_bind obeys_orThrow fun item => ?_
  refine obeys_bind (obeys_whenever ?_) fun _ => obeys_pure
  exact obeys_write fun db => retouches.items db _ _ fun _ => ⟨rfl, rfl⟩

theorem decideOrder_obeys (retouches : Retouches contract) {orderId : Nat} :
    Obeys contract (decideOrder command orderId decision) := by
  refine obeys_bind obeys_select fun found => obeys_bind obeys_orThrow fun order => ?_
  refine obeys_bind obeys_refuseIf fun _ => obeys_bind (obeys_updateRow retouches.orders) fun _ => ?_
  exact obeys_whenever (obeys_insertRow retouches.reminders)

theorem decidePlan_obeys (retouches : Retouches contract) {planId : Nat} :
    Obeys contract (decidePlan command planId) := by
  refine obeys_bind obeys_query fun incomplete => obeys_bind obeys_select fun found => ?_
  refine obeys_bind obeys_orThrow fun plan => obeys_bind obeys_refuseIf fun _ => ?_
  exact obeys_updateRow retouches.plans

theorem applyPlanDeviation_obeys (retouches : Retouches contract) :
    Obeys contract (applyPlanDeviation command approval decision) := by
  have read : ∀ payload, Obeys contract (deviationEntries payload :
      Tx [purchasePlanItems, purchaseOrders, purchasePlans, reminderSchedules] _) := by
    intro payload
    unfold deviationEntries
    split
    · exact obeys_pure
    · exact obeys_fail
  refine obeys_bind (read _) fun entries => ?_
  refine obeys_bind (obeys_widen (obeys_collect fun id _ => decideItem_obeys retouches))
    fun planIds => ?_
  refine obeys_bind (obeys_whenever (obeys_widen (decideOrder_obeys retouches))) fun _ => ?_
  exact obeys_widen (obeys_forEach fun id _ => decidePlan_obeys retouches)

theorem reopenPlan_obeys (retouches : Retouches contract) {planId : Nat}
    {status : PurchasePlanStatus} : Obeys contract (reopenPlan command planId status) :=
  obeys_updateWhere retouches.plans

theorem moveArrival_obeys (retouches : Retouches contract) {planId factoryId : Nat}
    {arrivalDate : String} : Obeys contract (moveArrival planId factoryId arrivalDate) := by
  refine obeys_bind obeys_query fun moved => obeys_bind obeys_refuseIf fun _ => ?_
  exact obeys_write fun db => retouches.items db _ _ fun _ => ⟨rfl, rfl⟩

theorem acceptResponse_obeys (retouches : Retouches contract) {response : FactoryPlanResponse} :
    Obeys contract (acceptResponse command response) := by
  have moves : Obeys contract (moveProposed response) := by
    unfold moveProposed
    split
    · exact obeys_pure
    · exact moveArrival_obeys retouches
  exact obeys_bind (obeys_widen moves) fun _ => obeys_widen (reopenPlan_obeys retouches)

theorem applyPlanException_obeys (retouches : Retouches contract) :
    Obeys contract (applyPlanException command approval decision) := by
  refine obeys_bind obeys_select fun found => obeys_bind obeys_orThrow fun response => ?_
  refine obeys_bind (obeys_updateRow retouches.responses) fun _ => obeys_ite ?_ ?_
  · exact fun _ => obeys_widen (acceptResponse_obeys retouches)
  · refine fun _ => obeys_widen (obeys_bind (obeys_widen (reopenPlan_obeys retouches)) fun _ => ?_)
    exact obeys_insertRow retouches.reminders

theorem applyOrderException_obeys (retouches : Retouches contract) :
    Obeys contract (applyOrderException command approval decision) := by
  unfold applyOrderException
  cases decision with
  | approved =>
      dsimp only
      split
      · exact obeys_widen (obeys_updateWhere retouches.orders)
      · exact obeys_fail
  | rejected =>
      refine obeys_bind (obeys_widen (obeys_updateWhere retouches.orders)) fun _ => ?_
      exact obeys_insertRow retouches.reminders

theorem applyEffect_obeys (retouches : Retouches contract) {effectType : String} :
    Obeys contract (applyEffect command effectType approval decision) := by
  unfold applyEffect
  refine obeys_ite (fun _ => obeys_widen (applySupplierOnboarding_obeys retouches)) fun _ => ?_
  refine obeys_ite (fun _ => obeys_widen (applySupplierSku_obeys retouches)) fun _ => ?_
  refine obeys_ite (fun _ => obeys_widen (applySupplierPrice_obeys retouches)) fun _ => ?_
  refine obeys_ite (fun _ => obeys_widen (applySku_obeys retouches)) fun _ => ?_
  refine obeys_ite (fun _ => obeys_widen (applyBom_obeys retouches)) fun _ => ?_
  refine obeys_ite (fun _ => obeys_widen (applyPlanVersion_obeys retouches)) fun _ => ?_
  refine obeys_ite (fun _ => obeys_widen (applyPlanDeviation_obeys retouches)) fun _ => ?_
  refine obeys_ite (fun _ => obeys_widen (applyPlanException_obeys retouches)) fun _ => ?_
  refine obeys_ite (fun _ => obeys_widen (applyOrderException_obeys retouches)) fun _ => ?_
  exact obeys_pure

theorem executeEffect_obeys (retouches : Retouches contract) {effectType : String} {id : Nat} :
    Obeys contract (executeEffect command effectType id decision) := by
  refine obeys_bind obeys_query fun authorized => obeys_bind obeys_refuseIf fun _ => ?_
  refine obeys_bind obeys_select fun found => obeys_bind obeys_orThrow fun approval => ?_
  refine obeys_bind obeys_refuseIf fun _ => obeys_bind obeys_refuseIf fun _ => ?_
  refine obeys_bind obeys_query fun stored => obeys_bind obeys_orThrow fun version => ?_
  refine obeys_bind (applyEffect_obeys retouches) fun _ => ?_
  exact obeys_bind (raiseVersion_obeys retouches) fun _ => obeys_pure

theorem silent_retouches : Retouches silent where
  items _ _ _ _ := rfl
  boms _ _ _ := rfl
  orders := silent_free
  plans := silent_free
  responses := silent_free
  reminders := silent_free
  skus := silent_free
  suppliers := silent_free
  relations _ _ _ := rfl
  prices := silent_free
  priceChanges := silent_free
  versions := silent_free
  priceVersions := silent_free

/-- The effects that the procurement side registers. -/
def supplyEffects : ProcurementEffects where
  registered name := effectTypes.contains name
  execute command name id _ decision := executeEffect command name id decision
  silent returns := (executeEffect_obeys silent_retouches).obeyed returns

end SupplyChain.SupplyApprovalEffects
