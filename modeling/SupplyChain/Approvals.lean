import SupplyChain.ApprovalEffects

/-!
The decision of an approval request. The effects of the procurement side run
in the same transaction; they are a parameter whose type says which tables
they may write, and their own outbox messages carry keys of another family.
-/

namespace SupplyChain.Approvals

open Relational Transaction TableName

/-- The tables that the procurement side, the master data and the user
administration write. Of these the operations writers only update the received
quantity of an order item, user roles and consumed challenges. -/
abbrev procurementTables : List TableName :=
  [skus, productBoms, bomComponents, purchaseOrders, orderItems, purchasePlanItems,
    purchasePlanOrderLinks, purchasePlans, factoryPlanResponses, reminderSchedules, suppliers,
    supplierSkus, corePriceAgreements, corePriceChangeRequests,
    procurementVersions, priceVersions]

/-- The registered effects of the procurement workflows. They send none of the
events of the operations side. -/
structure ProcurementEffects where
  registered : String → Bool
  execute : CommandContext → String → Nat → ApprovalRequest → Decision →
    Tx procurementTables JsonValue
  silent : ∀ {command workflow id approval decision db reply sent db'},
    (execute command workflow id approval decision).Returns db reply sent db' → sent = []

structure DecideApproval where
  id : Nat
  decision : Decision
  comment : Option String := none
  challengeNo : Option String := none

def requiredRoles : Workflow → List Role
  | .userRoleChange => [.admin]
  | .financialRecordCorrection => [.admin, .finance]
  | _ => [.admin, .supplyChain]

structure ApprovalBinding where
  objectType : String
  objectVersion : Nat
  stepUpAction : String

variable {writes : List TableName}

def approvalBinding (effects : ProcurementEffects) (id : Nat) (approval : ApprovalRequest)
    (decision : Decision) : Tx writes ApprovalBinding :=
  match approval.workflowType with
  | .procurement name => do
      refuseIf (effects.registered name = false)
        (forbidden "Approval workflow owner is not registered")
      let found ← query fun db => versionOf (db procurementVersions) "approval_request" id
      let stored ← orThrow found (versionConflict "R2 approval version is unavailable")
      let version ← identifier stored "objectVersion"
      return { objectType := "r2:approval_request", objectVersion := version
               stepUpAction := if decision = .approved then "approve" else "reject" }
  | _ => do
      let version ← identifier approval.updatedAt "objectVersion"
      return { objectType := "approval", objectVersion := version, stepUpAction := "review" }

/-- A high-risk decision consumes a step-up claim bound to it. -/
def stepUpDecision [Writes authChallenges writes] (command : CommandContext)
    (body : DecideApproval) (id : Nat) (comment : String) (binding : ApprovalBinding) :
    Tx writes Unit := do
  let sessionId ← orThrow command.access.sessionId
    (forbidden "Step-up requires an authenticated session")
  let challengeNo ← string (body.challengeNo.getD "") "challengeNo" 191
  consumeStepUpClaim command
    { challengeNo, userId := command.access.userId, sessionId, action := binding.stepUpAction
      objectType := binding.objectType, objectId := id, objectVersion := binding.objectVersion
      requestDigest := payloadDigest command (.object [("id", .number id),
        ("decision", .text body.decision.name), ("comment", .text comment)]) }

abbrev effectTables : List TableName :=
  [userRoles, inventoryTransfers, deliveryBatches, warehouses, resourceVersions, stocktakes,
    stocktakeAdjustments, inventoryBatches, inventoryMovements, productionReports,
    productionMaterialLines, executionOrders, businessKeys, paymentRecords,
    factoryPaymentRequests, invoiceExceptions, skus, productBoms, bomComponents, purchaseOrders,
    orderItems, purchasePlanItems, purchasePlanOrderLinks, purchasePlans, factoryPlanResponses,
    reminderSchedules, suppliers, supplierSkus, corePriceAgreements, corePriceChangeRequests,
    procurementVersions, priceVersions]

/-- The effect that the registry resolves for the workflow. -/
def approvalEffect (effects : ProcurementEffects) (command : CommandContext) (id : Nat)
    (approval : ApprovalRequest) (decision : Decision) : Tx effectTables JsonValue :=
  match approval.workflowType with
  | .userRoleChange => (ApprovalEffects.userRoleChange command approval decision).widen
  | .warehouseTransfer => (ApprovalEffects.warehouseTransfer approval decision).widen
  | .warehouseMerge => (ApprovalEffects.warehouseMerge approval decision).widen
  | .stocktakeVariance => (ApprovalEffects.stocktakeVariance approval decision).widen
  | .productionVariance => (ApprovalEffects.productionVariance command approval decision).widen
  | .shipmentDeviation => (ApprovalEffects.shipmentDeviation approval decision).widen
  | .financialRecordCorrection =>
      (ApprovalEffects.financialRecordCorrection command approval decision).widen
  | .procurement name => (effects.execute command name id approval decision).widen

def decideApproval (effects : ProcurementEffects) (command : CommandContext)
    (body : DecideApproval) : Tx (approvalRequests :: authChallenges :: effectTables) JsonValue := do
  let id ← identifier body.id "id"
  let comment ← optionalString body.comment
  let found ← select approvalRequests id
  let approval ← orThrow found (notFound "Approval not found")
  let binding ← approvalBinding effects id approval body.decision
  requireRole command.access (requiredRoles approval.workflowType)
  refuseIf (approval.requestedBy = command.access.userId)
    (conflict "Requester cannot review their own approval")
  refuseIf (approval.status ≠ .pending) (versionConflict "Approval was already decided")
  whenever (approval.highRisk = true) (stepUpDecision command body id comment binding)
  updateRow approvalRequests id (fun row => row.status == .pending)
    (fun row => { row with
      status := body.decision.status, reviewedBy := some command.access.userId
      reviewComment := comment, updatedAt := Finance.laterThan row.updatedAt command.now })
    (versionConflict "Approval changed concurrently")
  let effect ← (approvalEffect effects command id approval body.decision).widen
  domainEvent .approvalDecided .approval id
  return .object [("success", .boolean true), ("approvalId", .number id),
    ("workflowType", .text approval.workflowType.name), ("decision", .text body.decision.name),
    ("effect", effect)]

end SupplyChain.Approvals
