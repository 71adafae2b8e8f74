import SupplyChain.PurchasePlans

/-!
The purchase orders: the creation of an order whose lines are allocated to the
items of confirmed plans, and the answer of the factory it is bound to.
-/

namespace SupplyChain.PurchaseOrders

open Relational Transaction TableName Supply PurchasePlans

variable {writes : List TableName}

/-! ## Creation -/

structure OrderLine where
  planItemId : Nat
  supplierId : Nat
  quantity : Int
  dueDate : String
  sku : String
  productName : String
  itemType : String
  unitPriceTaxIncludedMinor : Option Int := none

structure CreatePurchaseOrder where
  orderNo : String
  orderDate : String
  items : List OrderLine
  sourceFileKey : Option String := none

/-- A checked line with the plan item, the plan and the price it was checked
against. -/
structure PreparedItem where
  planItemId : Nat
  planItem : PurchasePlanItem
  plan : PurchasePlan
  supplierId : Nat
  quantity : Int
  sku : String
  itemType : String
  unitPriceTaxIncludedMinor : Int

def PreparedItem.amount (item : PreparedItem) : Int :=
  item.unitPriceTaxIncludedMinor * item.quantity

/-- What the plan item will have ordered. -/
def PreparedItem.cumulative (item : PreparedItem) : Int :=
  item.planItem.orderedQuantity + item.quantity

def PreparedItem.rate (item : PreparedItem) : Int :=
  rateBps item.cumulative item.planItem.plannedQuantity

/-- The line takes the plan item beyond its tolerance. -/
def PreparedItem.outside (item : PreparedItem) : Bool :=
  decide (item.planItem.overToleranceBps < item.rate)

def PreparedItem.completionStatus (item : PreparedItem) : CompletionStatus :=
  if item.outside then .overPlanPending
  else if -item.planItem.underToleranceBps ≤ item.rate then .withinTolerance
  else .notOrdered

/-- The agreement in force on a date: the first row of
`ORDER BY effective_from DESC, id DESC`. -/
def priceOn (db : Database) (supplierId : Nat) (sku date : String) : Option CorePriceAgreement :=
  ((((db corePriceAgreements).select fun _ row =>
      row.supplierId == supplierId && row.sku == sku && row.active &&
        decide (row.effectiveFrom ≤ date) &&
        row.effectiveTo.all fun last => decide (date ≤ last)).insertionSort
    fun a b => b.2.effectiveFrom < a.2.effectiveFrom ∨
      (b.2.effectiveFrom = a.2.effectiveFrom ∧ b.1 ≤ a.1)).head?).map (·.2)

def prepareItem (orderDate : String) (seen : List (String × Nat)) (input : OrderLine) :
    SupplyTx writes PreparedItem := do
  let planItemId ← positiveKey input.planItemId
  let supplierId ← positiveKey input.supplierId "Supplier is required"
  let quantity ← positiveInteger input.quantity
  let _ ← date input.dueDate
  let found ← select purchasePlanItems planItemId
  let planItem ← orThrow found
    (notFound ("Purchase plan item not found: " ++ toString planItemId))
  let parent ← select purchasePlans planItem.purchasePlanId
  let parentPlan ← orThrow parent (notFound "Purchase plan not found for order item")
  let latest ← query fun db => latestPlan db parentPlan.planNo
  refuseIf (latest.all (fun plan => plan.1 != planItem.purchasePlanId ||
      plan.2.version != parentPlan.version) = true)
    (conflict "Purchase order requires the latest purchase-plan version")
  refuseIf (parentPlan.status ≠ .confirmed ∧ parentPlan.status ≠ .ordering)
    (conflict "Purchase order requires an approved orderable purchase plan")
  let sku ← text input.sku 191
  refuseIf (sku ≠ planItem.sku) (conflict "Purchase order SKU does not match the plan item")
  let _ ← text input.productName 500
  let itemType ← text input.itemType 30
  refuseIf (["finished", "auxiliary", "component"].contains itemType = false)
    (badRequest "Invalid purchase item type")
  refuseIf (seen.contains (sku, supplierId) = true)
    (conflict "Purchase order supplier/SKU line is duplicated")
  let supplier ← select suppliers supplierId
  refuseIf (supplier.any (·.active) = false) (notFound "Active supplier not found")
  let related ← query fun db => (db supplierSkus).any fun _ row =>
    row.factoryId == planItem.factoryId && row.supplierId == supplierId && row.sku == sku &&
      row.status == .active && decide (row.effectiveFrom ≤ orderDate)
  refuseIf (related = false)
    (conflict "Active supplier-SKU relation not found for the plan factory")
  let agreed ← query fun db => priceOn db supplierId sku orderDate
  let price ← orThrow agreed (conflict "Approved effective supplier price not found")
  refuseIf (input.unitPriceTaxIncludedMinor.any (fun stated =>
      decide (¬ isSafeInteger stated ∨ stated < 0)) = true)
    (badRequest "Non-negative integer required")
  refuseIf (input.unitPriceTaxIncludedMinor.any (fun stated =>
      stated != price.unitPriceTaxIncludedMinor) = true)
    (conflict "Client price does not match the authoritative agreement")
  refuseIf (¬ isSafeInteger (planItem.orderedQuantity + quantity))
    (badRequest "Purchase quantity overflow")
  return { planItemId, planItem, plan := parentPlan, supplierId, quantity, sku, itemType
           unitPriceTaxIncludedMinor := price.unitPriceTaxIncludedMinor }

/-- The loop over the lines; `seen` holds the sku and supplier of those before.
The plan of a line is read again for every line, where the code keeps the rows
it locked: nothing is written in between. -/
def prepareItems (orderDate : String) (seen : List (String × Nat)) :
    List OrderLine → SupplyTx writes (List PreparedItem)
  | [] => return []
  | line :: rest => do
      let prepared ← prepareItem orderDate seen line
      let others ← prepareItems orderDate (seen ++ [(prepared.sku, prepared.supplierId)]) rest
      return prepared :: others

/-- A line becomes an order item with its one link to the plan item. -/
def insertOrderItem (orderId : Nat) (item : PreparedItem) :
    SupplyTx [orderItems, purchasePlanOrderLinks, purchasePlanItems] Unit := do
  let orderItemId ← insertUnique orderItems
    (fun row => row.purchaseOrderId == orderId && row.sku == item.sku &&
      row.supplierId == some item.supplierId)
    { purchaseOrderId := orderId, sku := item.sku, itemType := some item.itemType
      supplierId := some item.supplierId, quantity := item.quantity, receivedQuantity := 0
      unitPriceTaxIncludedMinor := item.unitPriceTaxIncludedMinor }
    (.duplicateKey orderItems)
  let _ ← insertUnique purchasePlanOrderLinks
    (fun row => row.purchasePlanItemId == item.planItemId && row.orderItemId == orderItemId)
    { purchasePlanItemId := item.planItemId, orderItemId, allocatedQuantity := item.quantity }
    (.duplicateKey purchasePlanOrderLinks)
  updateRow purchasePlanItems item.planItemId
    (fun row => row.orderedQuantity == item.planItem.orderedQuantity &&
      row.completionStatus == item.planItem.completionStatus)
    (fun row => { row with
      orderedQuantity := item.cumulative, completionStatus := item.completionStatus })
    (conflict "Purchase plan allocation changed concurrently")

/-- The plans of the lines, each once, as they were read. -/
def affectedPlans (items : List PreparedItem) : List (Nat × PurchasePlan) :=
  items.foldl (fun plans item =>
    if plans.any (fun plan => plan.1 == item.planItem.purchasePlanId) then plans
    else plans ++ [(item.planItem.purchasePlanId, item.plan)]) []

/-- An ordered plan is complete when every item of it is. -/
def settlePlan (command : SupplyContext) (plan : Nat × PurchasePlan) :
    SupplyTx [purchasePlans] Unit := do
  let complete ← query fun db => (planItems db plan.1).all fun item => item.2.completionStatus.done
  updateRow purchasePlans plan.1
    (fun row => row.status == plan.2.status && row.updatedAt == plan.2.updatedAt)
    (fun row => { row with
      status := if complete then .orderedComplete else .ordering, updatedAt := command.now })
    (conflict "Purchase plan changed concurrently")

def deviationsOf (items : List PreparedItem) : List JsonValue :=
  (items.filter (·.outside)).map fun item =>
    deviation item.planItemId item.sku "over_plan" item.rate

def createPurchaseOrder (command : SupplyContext) (body : CreatePurchaseOrder) :
    SupplyTx [purchaseOrders, orderItems, purchasePlanOrderLinks, purchasePlanItems,
      purchasePlans, approvalRequests, procurementVersions, reminderSchedules] JsonValue := do
  refuseIf (isInternal command.access = false) (forbidden "Forbidden")
  let orderNo ← text body.orderNo 191
  let orderDate ← date body.orderDate
  refuseIf (body.items = [] ∨ 1000 < body.items.length) (badRequest "Purchase order items required")
  let sourceFileKey ← optionalText body.sourceFileKey
  requireSourceFile command.access sourceFileKey
  let duplicate ← query fun db => (db purchaseOrders).any fun _ row => row.orderNo == orderNo
  refuseIf (duplicate = true) (conflict "Purchase order number already exists")
  refuseIf (1 < body.items.length ∧ body.items.any (fun line =>
      decide (¬ isSafeInteger line.planItemId ∨ line.planItemId = 0)) = true)
    (badRequest "Positive integer required")
  let prepared ← prepareItems orderDate []
    (body.items.insertionSort fun a b => a.planItemId ≤ b.planItemId)
  let total := (prepared.map PreparedItem.amount).sum
  refuseIf (¬ isSafeInteger total) (badRequest "Purchase order amount overflow")
  let deviations := deviationsOf prepared
  let status : PurchaseOrderStatus :=
    if prepared.any (·.outside) then .pendingApproval else .factoryConfirmation
  let orderId ← insertUnique purchaseOrders (fun row => row.orderNo == orderNo)
    { orderNo, orderDate, status, totalTaxIncludedMinor := total, updatedAt := command.now }
    (.duplicateKey purchaseOrders)
  (forEach (insertOrderItem orderId) prepared).widen
  (forEach (settlePlan command) (affectedPlans prepared)).widen
  let approvalId ← requestDeviation command "purchase_order" orderId deviations
  let dueAt := command.clock + day
  match approvalId with
  | none => do
      createReminder .purchaseOrderConfirmation orderId orderNo dueAt
      Supply.domainEvent command "PurchaseOrderFactoryConfirmationDue" "purchase_order" orderId
  | some approvalId => approvalNotification command "purchase_plan_deviation" approvalId
  return .object [("order", .object [("id", .number orderId), ("orderNo", .text orderNo),
    ("sourceFileKey", sourceFileKey.elim .null .text), ("status", .text status.name),
    ("orderDate", .text orderDate), ("totalTaxIncludedMinor", .number total)]),
    ("approvalRequired", .boolean (!deviations.isEmpty)), ("deviations", .array deviations),
    ("confirmationDueAt", if deviations.isEmpty then .number dueAt else .null)]

/-! ## The answer of the factory -/

structure UpdatePurchaseOrder where
  id : Nat
  expectedUpdatedAt : Nat
  decision : FactoryDecision
  proposedDueDate : Option String := none
  reason : Option String := none

/-- The factories of the plan items that the items of an order are linked to. -/
def orderScopes (db : Database) (orderId : Nat) : List Nat :=
  ((db purchasePlanOrderLinks).select fun _ link =>
    ((db orderItems).find? link.orderItemId).any fun item =>
      item.purchaseOrderId == orderId).filterMap fun r =>
    ((db purchasePlanItems).find? r.2.purchasePlanItemId).map (·.factoryId)

def updatePurchaseOrder (command : SupplyContext) (body : UpdatePurchaseOrder) :
    SupplyTx [purchaseOrders, approvalRequests, procurementVersions] JsonValue := do
  let id ← positiveKey body.id "Purchase order required"
  refuseIf (hasRole command.access [.factory] = false)
    (forbidden "Factory role and binding are required")
  let factoryId ← orThrow command.access.factoryId
    (forbidden "Factory role and binding are required")
  let proposedDueDate ← proposedDate body.decision body.proposedDueDate
  let reason ← statedReason body.decision body.reason
  let found ← select purchaseOrders id
  let order ← orThrow found (notFound "Purchase order not found")
  refuseIf (order.updatedAt ≠ body.expectedUpdatedAt)
    (conflict "Purchase order changed concurrently")
  refuseIf (order.status ≠ .factoryConfirmation)
    (conflict "Purchase order does not require factory confirmation")
  let scopes ← query fun db => orderScopes db id
  refuseIf (scopes = [] ∨ scopes.any (fun scope => scope != factoryId) = true)
    (forbidden "Purchase order is not exclusively bound to this factory")
  let status : PurchaseOrderStatus := if body.decision = .confirmed then .confirmed else .disputed
  updateRow purchaseOrders id
    (fun row => row.status == .factoryConfirmation && row.updatedAt == body.expectedUpdatedAt)
    (fun row => { row with status, updatedAt := command.now })
    (conflict "Purchase order changed concurrently")
  if body.decision = .unable then do
    let approvalId ← createApproval command "purchase_order_factory_exception" "purchase_order" id
      (.object [("proposedDueDate", proposedDueDate.elim .null .text), ("reason", .text reason),
        ("factoryId", .number factoryId)])
    approvalNotification command "purchase_order_factory_exception" approvalId
  else Supply.domainEvent command "PurchaseOrderConfirmed" "purchase_order" id
  return .object [("success", .boolean true), ("status", .text status.name)]

end SupplyChain.PurchaseOrders
