import SupplyChain.Supply

/-!
The purchase plans: a new version of a plan with its items, the end of ordering,
and the answer of the factory that a plan is bound to.
-/

namespace SupplyChain.PurchasePlans

open Relational Transaction TableName Supply

variable {writes : List TableName}

/-! ## Creation -/

structure PlanLine where
  expectedArrivalDate : String
  factoryId : Nat
  warehouseId : Nat
  sku : String
  productName : String
  bomId : Nat
  plannedQuantity : Int

/-- The body of the request; `raw` is the JSON it was sent as. -/
structure CreatePurchasePlan where
  planNo : String
  items : List PlanLine
  sourceFileKey : Option String := none
  raw : JsonValue := .null

/-- The first row of `ORDER BY version DESC`. -/
def latestPlan (db : Database) (planNo : String) : Option (Nat × PurchasePlan) :=
  (((db purchasePlans).select fun _ row => row.planNo == planNo).insertionSort
    fun a b => b.2.version ≤ a.2.version).head?

/-- The key under which the items of a plan are summed up. -/
def summaryKey (line : PlanLine) : String × Nat × Nat × String :=
  (line.expectedArrivalDate, line.factoryId, line.warehouseId, line.sku)

/-- A checked line with its trimmed texts, and the tolerances of its sku. -/
structure PreparedLine where
  line : PlanLine
  overToleranceBps : Int
  underToleranceBps : Int

def bomUsable (bom : ProductBom) (sku arrivalDate : String) : Bool :=
  bom.finishedSku == sku && bom.approvalStatus == .approved && bom.active &&
    decide (bom.effectiveFrom ≤ arrivalDate) &&
    bom.effectiveTo.all fun last => decide (arrivalDate ≤ last)

def prepareLine (seen : List (String × Nat × Nat × String)) (input : PlanLine) :
    SupplyTx writes PreparedLine := do
  let expectedArrivalDate ← date input.expectedArrivalDate
  let factoryId ← positiveKey input.factoryId
  let warehouseId ← positiveKey input.warehouseId
  let sku ← text input.sku 191
  let productName ← text input.productName 500
  let bomId ← positiveKey input.bomId
  let plannedQuantity ← positiveInteger input.plannedQuantity
  let line : PlanLine :=
    { expectedArrivalDate, factoryId, warehouseId, sku, productName, bomId, plannedQuantity }
  refuseIf (seen.contains (summaryKey line) = true)
    (conflict "Purchase plan summary key is duplicated")
  let bound ← query fun db => ((db factories).find? factoryId).any fun factory =>
    factory.active && ((db warehouses).find? warehouseId).any fun warehouse =>
      warehouse.factoryId == some factoryId && warehouse.status == .active
  refuseIf (bound = false) (notFound "Active factory/warehouse binding not found")
  let bom ← select productBoms bomId
  refuseIf (bom.any (fun row => bomUsable row sku expectedArrivalDate) = false)
    (badRequest ("Approved active BOM required for SKU " ++ sku))
  let skuRow ← query fun db => (db skus).first? fun _ row => row.code == sku && row.active
  let found ← orThrow skuRow (badRequest ("Active finished SKU required: " ++ sku))
  refuseIf (found.2.itemType ≠ some "finished")
    (badRequest ("Active finished SKU required: " ++ sku))
  return { line
           overToleranceBps := found.2.purchaseOverToleranceBps
           underToleranceBps := found.2.purchaseUnderToleranceBps }

/-- The loop over the lines; `seen` holds the summary keys of those before. -/
def prepareLines (seen : List (String × Nat × Nat × String)) :
    List PlanLine → SupplyTx writes (List PreparedLine)
  | [] => return []
  | line :: rest => do
      let prepared ← prepareLine seen line
      let others ← prepareLines (seen ++ [summaryKey prepared.line]) rest
      return prepared :: others

def insertPlanItem (planId : Nat) (item : PreparedLine) : SupplyTx [purchasePlanItems] Unit := do
  let _ ← insertUnique purchasePlanItems
    (fun row => row.purchasePlanId == planId &&
      row.expectedArrivalDate == item.line.expectedArrivalDate &&
      row.factoryId == item.line.factoryId && row.warehouseId == item.line.warehouseId &&
      row.sku == item.line.sku)
    { purchasePlanId := planId, expectedArrivalDate := item.line.expectedArrivalDate
      factoryId := item.line.factoryId, warehouseId := item.line.warehouseId
      sku := item.line.sku, bomId := item.line.bomId
      plannedQuantity := item.line.plannedQuantity, orderedQuantity := 0
      overToleranceBps := item.overToleranceBps, underToleranceBps := item.underToleranceBps
      completionStatus := .notOrdered }
    (.duplicateKey purchasePlanItems)
  return ()

def createPurchasePlan (command : SupplyContext) (body : CreatePurchasePlan) :
    SupplyTx [purchasePlans, purchasePlanItems, approvalRequests, procurementVersions,
      reminderSchedules] JsonValue := do
  refuseIf (isInternal command.access = false) (forbidden "Forbidden")
  let planNo ← text body.planNo 191
  refuseIf (body.items = [] ∨ 1000 < body.items.length) (badRequest "Purchase plan items required")
  let sourceFileKey ← optionalText body.sourceFileKey
  requireSourceFile command.access sourceFileKey
  let previous ← query fun db => latestPlan db planNo
  let version := previous.elim 1 fun plan => plan.2.version + 1
  let prepared ← prepareLines [] body.items
  let status : PurchasePlanStatus :=
    if previous.isSome then .pendingApproval else .awaitingFactoryConfirmation
  let planId ← insertUnique purchasePlans
    (fun row => row.planNo == planNo && row.version == version)
    { planNo, version, status, updatedAt := command.now } (.duplicateKey purchasePlans)
  (forEach (insertPlanItem planId) prepared).widen
  let dueAt := command.clock + 3 * day
  if previous.isSome then do
    let approvalId ←
      createApproval command "purchase_plan_version" "purchase_plan" planId body.raw
    approvalNotification command "purchase_plan_version" approvalId
  else do
    createReminder .purchasePlanConfirmation planId planNo dueAt
    Supply.domainEvent command "FactoryConfirmationDue" "purchase_plan" planId
  return .object [("plan", .object [("id", .number planId), ("planNo", .text planNo),
    ("version", .number version), ("sourceFileKey", sourceFileKey.elim .null .text),
    ("status", .text status.name),
    ("confirmationDueAt", if previous.isSome then .null else .number dueAt)]),
    ("approvalRequired", .boolean previous.isSome)]

/-! ## The end of ordering and the answer of the factory -/

inductive FactoryDecision
  | confirmed | unable
  deriving DecidableEq

def FactoryDecision.name : FactoryDecision → String
  | .confirmed => "confirmed"
  | .unable => "unable"

structure FactoryAnswer where
  decision : FactoryDecision
  expectedStartDate : String
  expectedFinishDate : String
  proposedArrivalDate : Option String := none
  reason : Option String := none

inductive PlanAction
  | finalizeOrdering
  | answer (body : FactoryAnswer)

structure UpdatePurchasePlan where
  id : Nat
  expectedUpdatedAt : Nat
  action : PlanAction

def planItems (db : Database) (planId : Nat) : List (Nat × PurchasePlanItem) :=
  (db purchasePlanItems).select fun _ row => row.purchasePlanId == planId

/-- The deviation of an ordered from the planned quantity in basis points. -/
def rateBps (ordered planned : Int) : Int :=
  roundDiv ((ordered - planned) * 10000) planned

def underPlan (item : PurchasePlanItem) : Bool :=
  decide (rateBps item.orderedQuantity item.plannedQuantity < -item.underToleranceBps)

def deviation (planItemId : Nat) (sku type : String) (rate : Int) : JsonValue :=
  .object [("planItemId", .number planItemId), ("sku", .text sku), ("type", .text type),
    ("rateBps", .number rate)]

def finalizeItem (item : Nat × PurchasePlanItem) : SupplyTx [purchasePlanItems] Unit :=
  updateRow purchasePlanItems item.1
    (fun row => row.orderedQuantity == item.2.orderedQuantity &&
      row.completionStatus == item.2.completionStatus)
    (fun row => { row with
      completionStatus := if underPlan item.2 then .underPlanPending else .withinTolerance })
    (conflict "Purchase plan item changed concurrently")

/-- The approval of the deviations, when there are some. -/
def requestDeviation [Writes approvalRequests writes] [Writes procurementVersions writes]
    (command : SupplyContext) (entityType : String) (entityId : Nat) (deviations : List JsonValue) :
    SupplyTx writes (Option Nat) :=
  if deviations = [] then return none
  else do
    let approvalId ←
      createApproval command "purchase_plan_deviation" entityType entityId (.array deviations)
    return some approvalId

def finalizeOrdering (command : SupplyContext) (id : Nat) (plan : PurchasePlan)
    (expectedUpdatedAt : Nat) (items : List (Nat × PurchasePlanItem)) :
    SupplyTx [purchasePlans, purchasePlanItems, approvalRequests, procurementVersions]
      JsonValue := do
  let under := items.filter fun item => underPlan item.2
  let deviations := under.map fun item =>
    deviation item.1 item.2.sku "under_plan"
      (rateBps item.2.orderedQuantity item.2.plannedQuantity)
  (forEach finalizeItem items).widen
  let approvalId ← requestDeviation command "purchase_plan" id deviations
  let status : PurchasePlanStatus := if under = [] then .orderedComplete else .ordering
  updateRow purchasePlans id
    (fun row => row.status == plan.status && row.updatedAt == expectedUpdatedAt)
    (fun row => { row with status, updatedAt := command.now })
    (conflict "Purchase plan changed concurrently")
  match approvalId with
  | none => Supply.domainEvent command "PurchasePlanOrderingFinalized" "purchase_plan" id
  | some approvalId => approvalNotification command "purchase_plan_deviation" approvalId
  return .object [("success", .boolean true), ("approvalRequired", .boolean (!under.isEmpty)),
    ("deviations", .array deviations), ("status", .text status.name)]

/-- The date a factory that is unable proposes must be given; a confirmation may
come with one. -/
def proposedDate (decision : FactoryDecision) (given : Option String) :
    SupplyTx writes (Option String) :=
  match decision with
  | .unable => do
      let proposed ← date (given.getD "")
      return some proposed
  | .confirmed => optionalText given 10

def statedReason (decision : FactoryDecision) (given : Option String) : SupplyTx writes String :=
  match decision with
  | .unable => text (given.getD "") 2000
  | .confirmed => do
      let reason ← optionalText given 2000
      return reason.getD ""

def answerPlan (command : SupplyContext) (id expectedUpdatedAt : Nat)
    (items : List (Nat × PurchasePlanItem)) (factoryId : Nat) (body : FactoryAnswer) :
    SupplyTx [purchasePlans, factoryPlanResponses, approvalRequests, procurementVersions]
      JsonValue := do
  refuseIf (items.all (fun item => item.2.factoryId != factoryId) = true)
    (forbidden "Purchase plan is not bound to this factory")
  refuseIf (items.any (fun item => item.2.factoryId != factoryId) = true)
    (conflict "Multi-factory plan response requires the approved factory-subaggregate model")
  let expectedStartDate ← date body.expectedStartDate
  let expectedFinishDate ← date body.expectedFinishDate
  refuseIf (expectedFinishDate < expectedStartDate)
    (badRequest "Finish date cannot precede start date")
  let proposedArrivalDate ← proposedDate body.decision body.proposedArrivalDate
  let reason ← statedReason body.decision body.reason
  let responseStatus : PlanResponseStatus :=
    if body.decision = .confirmed then .accepted else .pendingSupplyChain
  let responseId ← insertInto factoryPlanResponses
    { purchasePlanId := id, factoryId, proposedArrivalDate, status := responseStatus }
  updateRow purchasePlans id
    (fun row => row.status == .awaitingFactoryConfirmation && row.updatedAt == expectedUpdatedAt)
    (fun row => { row with
      status := if body.decision = .confirmed then .confirmed else .disputed
      updatedAt := command.now })
    (conflict "Purchase plan changed concurrently")
  if body.decision = .unable then do
    let approvalId ← createApproval command "purchase_plan_factory_exception"
      "factory_plan_response" responseId (.object [("planId", .number id),
        ("decision", .text body.decision.name), ("expectedStartDate", .text expectedStartDate),
        ("expectedFinishDate", .text expectedFinishDate),
        ("proposedArrivalDate", proposedArrivalDate.elim .null .text), ("reason", .text reason)])
    approvalNotification command "purchase_plan_factory_exception" approvalId
  else Supply.domainEvent command "FactoryPlanConfirmed" "purchase_plan" id
  return .object [("success", .boolean true), ("response", .object [("id", .number responseId),
    ("purchasePlanId", .number id), ("factoryId", .number factoryId),
    ("decision", .text body.decision.name), ("expectedStartDate", .text expectedStartDate),
    ("expectedFinishDate", .text expectedFinishDate),
    ("proposedArrivalDate", proposedArrivalDate.elim .null .text), ("reason", .text reason),
    ("status", .text (if body.decision = .confirmed then "accepted" else "pending_supply_chain"))])]

def updatePurchasePlan (command : SupplyContext) (body : UpdatePurchasePlan) :
    SupplyTx [purchasePlans, purchasePlanItems, factoryPlanResponses, approvalRequests,
      procurementVersions] JsonValue := do
  let id ← positiveKey body.id "Purchase plan required"
  match body.action with
  | .finalizeOrdering => refuseIf (isInternal command.access = false) (forbidden "Forbidden")
  | .answer _ => refuseIf (hasRole command.access [.factory] = false ∨
      command.access.factoryId = none) (forbidden "Factory role and binding are required")
  let found ← select purchasePlans id
  let plan ← orThrow found (notFound "Purchase plan not found")
  refuseIf (plan.updatedAt ≠ body.expectedUpdatedAt)
    (conflict "Purchase plan changed concurrently")
  let items ← query fun db => planItems db id
  match body.action with
  | .finalizeOrdering => do
      refuseIf (plan.status ≠ .confirmed ∧ plan.status ≠ .ordering)
        (conflict "Purchase plan is not in an orderable state")
      refuseIf (items = []) (conflict "Purchase plan has no items")
      (finalizeOrdering command id plan body.expectedUpdatedAt items).widen
  | .answer answer => do
      refuseIf (plan.status ≠ .awaitingFactoryConfirmation)
        (conflict "Purchase plan does not require factory confirmation")
      refuseIf (items = []) (conflict "Purchase plan has no items")
      let factoryId ← orThrow command.access.factoryId
        (forbidden "Factory role and binding are required")
      (answerPlan command id body.expectedUpdatedAt items factoryId answer).widen

end SupplyChain.PurchasePlans
