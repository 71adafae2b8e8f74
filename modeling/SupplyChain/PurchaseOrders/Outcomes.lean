import SupplyChain.Procurement.Requests

/-!
What the commands on the purchase orders did when they committed.
-/

namespace SupplyChain.PurchaseOrders

open Relational Transaction TableName Supply PurchasePlans Procurement

variable {db db' : Database} {writes : List TableName} {command : SupplyContext}

/-! ## The lines -/

/-- What a checked line was checked against. -/
structure Checked (db : Database) (item : PreparedItem) : Prop where
  foundItem : (db purchasePlanItems).find? item.planItemId = some item.planItem
  foundPlan : (db purchasePlans).find? item.planItem.purchasePlanId = some item.plan
  latest : latestPlan db item.plan.planNo = some (item.planItem.purchasePlanId, item.plan)
  orderable : item.plan.status = .confirmed ∨ item.plan.status = .ordering
  quantity : 0 < item.quantity
  sku : item.sku = item.planItem.sku

theorem latestPlan_found {planNo : String} {plan : Nat × PurchasePlan}
    (latest : latestPlan db planNo = some plan) :
    (db purchasePlans).find? plan.1 = some plan.2 ∧ plan.2.planNo = planNo := by
  have member := Table.mem_of_head?_insertionSort latest
  obtain ⟨found, same⟩ := Table.mem_select.mp member
  exact ⟨found, beq_iff_eq.mp same⟩

theorem prepareItem_returns {orderDate : String} {seen : List (String × Nat)} {input : OrderLine}
    {item : PreparedItem} {sent : List String}
    (returns : (prepareItem orderDate seen input : SupplyTx writes _).Returns db item sent db') :
    item.planItemId = input.planItemId ∧ Checked db item := by
  simp only [prepareItem, returns_bind_positiveKey, returns_bind_positiveInteger,
    returns_bind_date, returns_bind_select, returns_bind_orThrow, returns_bind_query,
    returns_bind_refuseIf, returns_bind_text, returns_pure] at returns
  obtain ⟨-, -, positive, -, -, planItem, foundItem, plan, foundPlan, latest, orderable, -, sku, -,
    -, -, -, -, -, price, -, -, -, -, rfl, -, -⟩ := returns
  refine ⟨rfl, foundItem, foundPlan, ?_, ?_, positive.2, not_not.mp sku⟩
  · cases chosen : latestPlan db plan.planNo with
    | none => simp [chosen] at latest
    | some last =>
        obtain ⟨found, -⟩ := latestPlan_found chosen
        simp only [chosen, Option.all_some, Bool.or_eq_true, bne_iff_ne, not_or, not_not] at latest
        rw [latest.1] at found
        obtain rfl := Option.some.inj (found.symm.trans foundPlan)
        rw [← latest.1]
  · by_contra neither
    exact orderable ⟨fun confirmed => neither (Or.inl confirmed),
      fun ordering => neither (Or.inr ordering)⟩

theorem prepareItems_returns {orderDate : String} {seen : List (String × Nat)}
    {inputs : List OrderLine} {prepared : List PreparedItem} {sent : List String}
    (returns : (prepareItems orderDate seen inputs : SupplyTx writes _).Returns
      db prepared sent db') :
    prepared.map (·.planItemId) = inputs.map (·.planItemId) ∧ ∀ item ∈ prepared, Checked db item := by
  induction inputs generalizing seen prepared sent with
  | nil =>
      obtain ⟨rfl, -, -⟩ := returns_pure.mp returns
      simp
  | cons input rest ih =>
      obtain ⟨item, _, mid, _, first, later, rfl⟩ := returns_bind.mp returns
      obtain ⟨rfl, rfl⟩ := (prepareItem_obeys : Obeys idle _).obeyed first
      obtain ⟨others, _, last, _, more, done, rfl⟩ := returns_bind.mp later
      obtain ⟨rfl, -, rfl⟩ := returns_pure.mp done
      obtain ⟨same, checked⟩ := prepareItem_returns first
      obtain ⟨sameRest, checkedRest⟩ := ih more
      refine ⟨by rw [List.map_cons, List.map_cons, same, sameRest], ?_⟩
      intro one member
      rcases List.mem_cons.mp member with rfl | member
      · exact checked
      · exact checkedRest one member

/-- The order item of a line. -/
def itemOf (orderId : Nat) (item : PreparedItem) : OrderItem where
  purchaseOrderId := orderId
  sku := item.sku
  itemType := some item.itemType
  supplierId := some item.supplierId
  quantity := item.quantity
  receivedQuantity := 0
  unitPriceTaxIncludedMinor := item.unitPriceTaxIncludedMinor

/-- A line has become an order item that is allocated to its plan item, which
still had the ordered quantity that the line was checked against. -/
structure Allocated (orderId : Nat) (db : Database) (item : PreparedItem) (db' : Database) :
    Prop where
  found : ∃ row, (db purchasePlanItems).find? item.planItemId = some row ∧
    row.orderedQuantity = item.planItem.orderedQuantity ∧
    row.completionStatus = item.planItem.completionStatus
  orderItems : db' orderItems = (db orderItems).insert (itemOf orderId item)
  links : db' purchasePlanOrderLinks = (db purchasePlanOrderLinks).insert
    { purchasePlanItemId := item.planItemId, orderItemId := (db .orderItems).nextId
      allocatedQuantity := item.quantity }
  planItems : db' purchasePlanItems = (db purchasePlanItems).modify item.planItemId fun row =>
    { row with orderedQuantity := item.cumulative, completionStatus := item.completionStatus }
  others : ∀ t, t ≠ .orderItems → t ≠ purchasePlanOrderLinks → t ≠ purchasePlanItems →
    db' t = db t

theorem insertOrderItem_returns {orderId : Nat} {item : PreparedItem} {u : Unit}
    {sent : List String} (returns : (insertOrderItem orderId item).Returns db u sent db') :
    Allocated orderId db item db' := by
  simp only [insertOrderItem, returns_bind_insertUnique, returns_updateRow] at returns
  obtain ⟨-, -, ⟨row, found, guarded⟩, -, rfl⟩ := returns
  rw [Store.put_other _ _ (by decide), Store.put_other _ _ (by decide)] at found
  simp only [Bool.and_eq_true, beq_iff_eq] at guarded
  refine ⟨⟨row, found, guarded⟩, ?_, ?_, ?_, fun t notItem notLink notPlan => ?_⟩
  · simp [itemOf]
  · simp
  · simp
  · simp [notItem, notLink, notPlan]

/-! ## The plans of an order -/

/-- Every item of the plan is done. -/
def Complete (db : Database) (planId : Nat) : Prop :=
  ∀ id row, (db purchasePlanItems).find? id = some row → row.purchasePlanId = planId →
    row.completionStatus.done = true

theorem all_planItems {planId : Nat} :
    (planItems db planId).all (fun item => item.2.completionStatus.done) = true ↔
      Complete db planId := by
  rw [List.all_eq_true]
  constructor
  · intro all id row found own
    exact all (id, row) (Table.mem_select.mpr ⟨found, by simp [own]⟩)
  · intro complete item member
    obtain ⟨found, own⟩ := Table.mem_select.mp member
    exact complete item.1 item.2 found (beq_iff_eq.mp own)

/-- A plan is complete or still ordered from, as its items say. -/
structure Recomputed (db : Database) (planId : Nat) (db' : Database) : Prop where
  found : ∃ row, (db purchasePlans).find? planId = some row
  plans : ∃ now status, (status = .orderedComplete ∧ Complete db planId ∨
      status = .ordering ∧ ¬ Complete db planId) ∧
    db' purchasePlans = (db purchasePlans).modify planId fun row =>
      { row with status, updatedAt := now }
  others : ∀ t, t ≠ purchasePlans → db' t = db t

theorem settlePlan_returns {plan : Nat × PurchasePlan} {u : Unit} {sent : List String}
    (returns : (settlePlan command plan).Returns db u sent db') : Recomputed db plan.1 db' := by
  simp only [settlePlan, returns_bind_query, returns_updateRow] at returns
  obtain ⟨⟨row, found, -⟩, -, rfl⟩ := returns
  refine ⟨⟨row, found⟩, ⟨command.now, _, ?_, Store.put_same _ _ _⟩,
    fun t other => Store.put_other _ _ other⟩
  by_cases complete : Complete db plan.1
  · simp [complete, all_planItems.mpr complete]
  · have incomplete : (planItems db plan.1).all (fun item => item.2.completionStatus.done) = false :=
      Bool.eq_false_iff.mpr (mt all_planItems.mp complete)
    simp [complete, incomplete]

/-- One round of `affectedPlans`. -/
def withPlan (plans : List (Nat × PurchasePlan)) (item : PreparedItem) : List (Nat × PurchasePlan) :=
  if plans.any (fun plan => plan.1 == item.planItem.purchasePlanId) then plans
  else plans ++ [(item.planItem.purchasePlanId, item.plan)]

theorem withPlan_foldl (items : List PreparedItem) (plans : List (Nat × PurchasePlan)) :
    (∀ plan ∈ plans, plan ∈ items.foldl withPlan plans) ∧
      ∀ item ∈ items, ∃ plan ∈ items.foldl withPlan plans,
        plan.1 = item.planItem.purchasePlanId := by
  induction items generalizing plans with
  | nil => simp
  | cons head tail ih =>
      obtain ⟨kept, listed⟩ := ih (withPlan plans head)
      have stays : ∀ plan ∈ plans, plan ∈ withPlan plans head := by
        intro plan member
        unfold withPlan
        split
        · exact member
        · exact List.mem_append_left _ member
      have own : ∃ plan ∈ withPlan plans head, plan.1 = head.planItem.purchasePlanId := by
        unfold withPlan
        split
        · rename_i known
          obtain ⟨plan, member, same⟩ := List.any_eq_true.mp known
          exact ⟨plan, member, beq_iff_eq.mp same⟩
        · exact ⟨_, List.mem_append_right _ (List.mem_singleton.mpr rfl), rfl⟩
      refine ⟨fun plan member => kept plan (stays plan member), ?_⟩
      intro item member
      rcases List.mem_cons.mp member with rfl | member
      · obtain ⟨plan, planned, same⟩ := own
        exact ⟨plan, kept plan planned, same⟩
      · exact listed item member

theorem mem_affectedPlans {items : List PreparedItem} {item : PreparedItem} (member : item ∈ items) :
    ∃ plan ∈ affectedPlans items, plan.1 = item.planItem.purchasePlanId :=
  (withPlan_foldl items []).2 item member

/-! ## The commands -/

/-- What a committed order did: its row, its lines, its plans and the request of
its deviations, one after the other. -/
structure OrderCreated (command : SupplyContext) (body : CreatePurchaseOrder)
    (prepared : List PreparedItem) (order : PurchaseOrder) (db allocated settled db' : Database) :
    Prop where
  lines : ∀ line ∈ body.items, ∃ item ∈ prepared, item.planItemId = line.planItemId
  planItems : (prepared.map (·.planItemId)).Perm (body.items.map (·.planItemId))
  nonempty : prepared ≠ []
  checked : ∀ item ∈ prepared, Checked db item
  status : order.status =
    if prepared.any (·.outside) then .pendingApproval else .factoryConfirmation
  allocates : Run (Allocated (db purchaseOrders).nextId)
    (db.put purchaseOrders ((db purchaseOrders).insert order)) prepared allocated
  settles : Run Recomputed allocated ((affectedPlans prepared).map (·.1)) settled
  requests : db' approvalRequests =
    if deviationsOf prepared = [] then db approvalRequests
    else (db approvalRequests).insert (requestOf command "purchase_plan_deviation" "purchase_order"
      (db purchaseOrders).nextId (.array (deviationsOf prepared)))
  others : ∀ t, t ≠ approvalRequests → t ≠ procurementVersions → t ≠ reminderSchedules →
    db' t = settled t

theorem requestDeviation_returns [Writes approvalRequests writes]
    [Writes procurementVersions writes] {entityType : String} {entityId : Nat}
    {deviations : List JsonValue} {id : Option Nat} {sent : List String}
    (returns : (requestDeviation command entityType entityId deviations :
      SupplyTx writes _).Returns db id sent db') :
    db' approvalRequests =
      (if deviations = [] then db approvalRequests
      else (db approvalRequests).insert
        (requestOf command "purchase_plan_deviation" entityType entityId (.array deviations))) ∧
      ∀ t, t ≠ approvalRequests → t ≠ procurementVersions → db' t = db t := by
  rcases returns_ite.mp returns with ⟨none, done⟩ | ⟨some, asks⟩
  · obtain ⟨-, -, rfl⟩ := returns_pure.mp done
    exact ⟨by rw [if_pos none], fun _ _ _ => rfl⟩
  · obtain ⟨_, _, _, _, asked, done, rfl⟩ := returns_bind.mp asks
    obtain ⟨-, -, rfl⟩ := returns_pure.mp done
    obtain ⟨-, -, requests, others⟩ := createApproval_returns asked
    exact ⟨by rw [if_neg some, requests], others⟩

def orderOf (command : SupplyContext) (body : CreatePurchaseOrder) (prepared : List PreparedItem) :
    PurchaseOrder where
  orderNo := trim body.orderNo
  orderDate := trim body.orderDate
  status := if prepared.any (·.outside) then .pendingApproval else .factoryConfirmation
  totalTaxIncludedMinor := (prepared.map PreparedItem.amount).sum
  updatedAt := command.now

theorem createPurchaseOrder_returns {body : CreatePurchaseOrder} {reply : JsonValue}
    {sent : List String} (returns : (createPurchaseOrder command body).Returns db reply sent db') :
    ∃ prepared order allocated settled,
      OrderCreated command body prepared order db allocated settled db' := by
  simp only [createPurchaseOrder, returns_bind_refuseIf, returns_bind_text,
    returns_bind_date] at returns
  obtain ⟨-, -, -, -, some, returns⟩ := returns
  rw [returns_bind_of_reads (obeys_optionalText : Obeys idle _).obeyed] at returns
  obtain ⟨sourceFileKey, -, returns⟩ := returns
  rw [returns_bind_of_reads (obeys_requireSourceFile : Obeys idle _).obeyed] at returns
  obtain ⟨_, -, returns⟩ := returns
  simp only [returns_bind_query, returns_bind_refuseIf] at returns
  obtain ⟨-, -, returns⟩ := returns
  rw [returns_bind_of_reads (prepareItems_obeys : Obeys idle _).obeyed] at returns
  obtain ⟨prepared, prepares, returns⟩ := returns
  obtain ⟨same, checked⟩ := prepareItems_returns prepares
  simp only [returns_bind_refuseIf, returns_bind_insertUnique] at returns
  obtain ⟨-, -, returns⟩ := returns
  obtain ⟨_, _, allocated, _, allocates, rest, rfl⟩ := returns_bind.mp returns
  obtain ⟨_, _, settled, _, settles, more, rfl⟩ := returns_bind.mp rest
  obtain ⟨approvalId, _, asked, _, asks, last, rfl⟩ := returns_bind.mp more
  obtain ⟨requests, others⟩ := requestDeviation_returns asks
  have unallocated := (returns_widen.mp allocates).unwritten
  have unsettled := (returns_widen.mp settles).unwritten
  have told : ∀ t, t ≠ reminderSchedules → db' t = asked t := by
    cases approvalId with
    | none =>
        simp only [createReminder, returns_bind_insertRow] at last
        obtain ⟨_, _, notified, _, notifies, done, rfl⟩ := returns_bind.mp last
        obtain ⟨-, -, rfl⟩ := returns_send.mp notifies
        obtain ⟨-, -, rfl⟩ := returns_pure.mp done
        exact fun t other => Store.put_other _ _ other
    | some id =>
        obtain ⟨_, _, notified, _, notifies, done, rfl⟩ := returns_bind.mp last
        obtain rfl := approvalNotification_returns notifies
        obtain ⟨-, -, rfl⟩ := returns_pure.mp done
        exact fun _ _ => rfl
  refine ⟨prepared, orderOf command body prepared, allocated, settled, ?_⟩
  refine
    { lines := ?_, planItems := ?_, nonempty := ?_, checked := checked, status := rfl
      allocates := ?_, settles := ?_, requests := ?_, others := ?_ }
  · intro line member
    have listed : line.planItemId ∈ prepared.map (·.planItemId) := by
      rw [same, List.mem_map]
      exact ⟨line, (List.mem_insertionSort _).mpr member, rfl⟩
    obtain ⟨item, isPrepared, own⟩ := List.mem_map.mp listed
    exact ⟨item, isPrepared, own⟩
  · rw [same]
    exact (List.perm_insertionSort _ body.items).map _
  · rintro rfl
    have lengths := congrArg List.length same
    simp only [List.map_nil, List.length_nil, List.length_map, List.length_insertionSort] at lengths
    exact some (Or.inl (List.eq_nil_of_length_eq_zero lengths.symm))
  · have rounds := forEach_run (returns_widen.mp allocates)
    exact rounds.imp fun round => round.elim fun _ inserts => insertOrderItem_returns inserts
  · have rounds := forEach_run (returns_widen.mp settles)
    exact (rounds.imp fun round => round.elim fun _ recomputes => settlePlan_returns recomputes).rename
  · rw [told _ (by decide), requests, unsettled _ (by decide), unallocated _ (by decide),
      Store.put_other _ _ (by decide)]
  · exact fun t notRequests notVersions notReminders =>
      (told t notReminders).trans (others t notRequests notVersions)

/-- What a committed answer of a factory did to its order. -/
structure OrderAnswered (id : Nat) (db db' : Database) : Prop where
  found : ∃ order, (db purchaseOrders).find? id = some order ∧ order.status = .factoryConfirmation
  orders : ∃ now status, (status = .confirmed ∨ status = .disputed) ∧
    db' purchaseOrders = (db purchaseOrders).modify id fun row =>
      { row with status, updatedAt := now }
  others : ∀ t, t ≠ purchaseOrders → t ≠ approvalRequests → t ≠ procurementVersions →
    db' t = db t

theorem updatePurchaseOrder_returns {body : UpdatePurchaseOrder} {reply : JsonValue}
    {sent : List String} (returns : (updatePurchaseOrder command body).Returns db reply sent db') :
    OrderAnswered body.id db db' := by
  have unwritten := returns.unwritten
  simp only [updatePurchaseOrder, returns_bind_positiveKey, returns_bind_refuseIf,
    returns_bind_orThrow] at returns
  obtain ⟨-, -, factoryId, -, returns⟩ := returns
  rw [returns_bind_of_reads (proposedDate_obeys : Obeys idle _).obeyed] at returns
  obtain ⟨due, -, returns⟩ := returns
  rw [returns_bind_of_reads (statedReason_obeys : Obeys idle _).obeyed] at returns
  obtain ⟨reason, -, returns⟩ := returns
  simp only [returns_bind_select, returns_bind_orThrow, returns_bind_refuseIf, returns_bind_query,
    returns_bind_updateRow] at returns
  obtain ⟨order, found, -, pending, -, -, returns⟩ := returns
  have orders : db' purchaseOrders = (db purchaseOrders).modify body.id fun row =>
      { row with
        status := if body.decision = .confirmed then .confirmed else .disputed
        updatedAt := command.now } := by
    rcases returns_ite.mp returns with ⟨-, asks⟩ | ⟨-, tells⟩
    · obtain ⟨_, _, asked, _, ask, rest, rfl⟩ := returns_bind.mp asks
      obtain ⟨_, _, _, _, notifies, done, rfl⟩ := returns_bind.mp rest
      obtain rfl := approvalNotification_returns notifies
      obtain ⟨-, -, rfl⟩ := returns_pure.mp done
      obtain ⟨-, -, -, others⟩ := createApproval_returns ask
      rw [others _ (by decide) (by decide), Store.put_same]
    · obtain ⟨_, _, _, _, notifies, done, rfl⟩ := returns_bind.mp tells
      obtain ⟨-, -, rfl⟩ := returns_send.mp notifies
      obtain ⟨-, -, rfl⟩ := returns_pure.mp done
      rw [Store.put_same]
  refine ⟨⟨order, found, not_not.mp pending⟩, ⟨_, _, ?_, orders⟩, ?_⟩
  · split
    · exact Or.inl rfl
    · exact Or.inr rfl
  · exact fun t notOrder notRequest notVersion => unwritten t (by simp [notOrder, notRequest, notVersion])

end SupplyChain.PurchaseOrders
