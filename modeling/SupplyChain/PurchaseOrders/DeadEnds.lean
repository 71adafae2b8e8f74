import SupplyChain.PurchaseOrders.Deliveries

/-!
Where an accepted order can lead. A factory confirms an order only when all its lines
are of that factory, which the creation of an order does not ask for. Every line of an
order has one allocation, so that nothing else stands in the way of its goods than the
state of its warehouse.
-/

namespace SupplyChain.PurchaseOrders

open Relational Transaction TableName Supply PurchasePlans Procurement SupplyApprovalEffects
open ProductionOrders (planAllocations plannedFor)

variable {db mid db' s s' : Database} {event : SupplyEvent} {events : List SupplyEvent}
  {itemId : Nat} {item : OrderItem}

/-! ## The confirmation -/

/-- Some factory user confirms the order. -/
def Confirmable (db : Database) (id : Nat) : Prop :=
  ∃ command body reply sent db', body.id = id ∧ body.decision = .confirmed ∧
    (updatePurchaseOrder command body).Returns db reply sent db'

def factoryUser (factoryId : Nat) : AccessContext :=
  { userId := 1, sessionId := none, roles := [.factory], factoryId := some factoryId
    supplierId := none }

/-- The lines of the order are of plan items of one factory. -/
def OneFactory (db : Database) (id : Nat) : Prop :=
  ∃ factoryId, ∀ scope ∈ orderScopes db id, scope = factoryId

/-- What a committed confirmation did, and what it asked for. -/
structure OrderConfirmed (id : Nat) (db db' : Database) : Prop where
  key : Addressable id
  linked : orderScopes db id ≠ []
  exclusive : OneFactory db id
  confirmed : ∃ now, db' = db.put purchaseOrders ((db purchaseOrders).modify id fun row =>
    { row with status := .confirmed, updatedAt := now })

theorem updatePurchaseOrder_confirms {command : SupplyContext} {body : UpdatePurchaseOrder}
    {reply : JsonValue} {sent : List String} (confirms : body.decision = .confirmed)
    (returns : (updatePurchaseOrder command body).Returns db reply sent db') :
    OrderConfirmed body.id db db' := by
  simp only [updatePurchaseOrder, returns_bind_positiveKey, returns_bind_refuseIf,
    returns_bind_orThrow] at returns
  obtain ⟨key, -, factoryId, -, returns⟩ := returns
  rw [returns_bind_of_reads (proposedDate_obeys : Obeys idle _).obeyed] at returns
  obtain ⟨due, -, returns⟩ := returns
  rw [returns_bind_of_reads (statedReason_obeys : Obeys idle _).obeyed] at returns
  obtain ⟨reason, -, returns⟩ := returns
  simp only [returns_bind_select, returns_bind_orThrow, returns_bind_refuseIf, returns_bind_query,
    returns_bind_updateRow] at returns
  obtain ⟨order, -, -, -, bound, -, returns⟩ := returns
  push Not at bound
  refine ⟨⟨key.1, Nat.one_le_iff_ne_zero.mpr key.2⟩, bound.1, ⟨factoryId, ?_⟩, command.now, ?_⟩
  · intro scope member
    by_contra other
    exact bound.2 (List.any_eq_true.mpr ⟨scope, member, bne_iff_ne.mpr other⟩)
  · rcases returns_ite.mp returns with ⟨unable, -⟩ | ⟨-, tells⟩
    · rw [confirms] at unable
      cases unable
    · obtain ⟨_, _, _, _, notifies, done, rfl⟩ := returns_bind.mp tells
      obtain ⟨-, -, rfl⟩ := returns_send.mp notifies
      obtain ⟨-, -, rfl⟩ := returns_pure.mp done
      rw [if_pos confirms]

/-- An order that waits for its factory can be confirmed exactly when its lines are of
one factory. -/
theorem confirmable_iff {id : Nat} {order : PurchaseOrder}
    (found : (db purchaseOrders).find? id = some order)
    (pending : order.status = .factoryConfirmation) :
    Confirmable db id ↔ Addressable id ∧ orderScopes db id ≠ [] ∧ OneFactory db id := by
  constructor
  · rintro ⟨command, body, reply, sent, db', rfl, confirms, returns⟩
    have confirmed := updatePurchaseOrder_confirms confirms returns
    exact ⟨confirmed.key, confirmed.linked, confirmed.exclusive⟩
  · rintro ⟨key, linked, factoryId, exclusive⟩
    have own : ((orderScopes db id).any fun scope => scope != factoryId) = false := by
      rw [List.any_eq_false]
      intro scope member
      rw [exclusive scope member]
      simp
    refine ⟨⟨factoryUser factoryId, 0, 0, "", "", fun text => text, fun text => text⟩,
      { id, expectedUpdatedAt := order.updatedAt, decision := .confirmed }, ?_⟩
    have admitted : hasRole (factoryUser factoryId) [.factory] = true := rfl
    have undated : (proposedDate .confirmed none : SupplyTx [purchaseOrders, approvalRequests,
      procurementVersions] _).Returns db none [] db := rfl
    have unreasoned : (statedReason .confirmed none : SupplyTx [purchaseOrders, approvalRequests,
      procurementVersions] _).Returns db "" [] db := rfl
    simp only [updatePurchaseOrder, returns_bind_positiveKey, returns_bind_refuseIf,
      returns_bind_orThrow, returns_bind_of_reads (proposedDate_obeys : Obeys idle _).obeyed,
      returns_bind_of_reads (statedReason_obeys : Obeys idle _).obeyed, returns_bind_select,
      returns_bind_query, returns_bind_updateRow, found, Option.some.injEq, reduceCtorEq, if_false,
      if_true, Supply.domainEvent, returns_bind_send, returns_pure]
    have waits : (order.status == .factoryConfirmation && order.updatedAt == order.updatedAt) =
        true := by simp [pending]
    refine ⟨_, _, _, trivial, trivial, ⟨key.1, Nat.one_le_iff_ne_zero.mp key.2⟩, by simp [admitted],
      factoryId, rfl, none, undated, "", unreasoned, order, rfl, not_not.mpr rfl,
      not_not.mpr pending, by simp [linked, own], ⟨order, rfl, waits⟩, _, ⟨rfl, rfl, rfl⟩, rfl⟩

/-! ## The items of the orders -/

def OfConfirmed (db : Database) (itemId : Nat) : Prop :=
  ∃ item order, (db orderItems).find? itemId = some item ∧
    (db purchaseOrders).find? item.purchaseOrderId = some order ∧ order.status = .confirmed

/-- The item has one link, to a plan item of its sku. -/
structure Allotted (db : Database) (itemId : Nat) (item : OrderItem) (planItem : PurchasePlanItem) :
    Prop where
  link : ∃ key link, (db purchasePlanOrderLinks).select (fun _ row => row.orderItemId == itemId) =
      [(key, link)] ∧ link.allocatedQuantity = item.quantity ∧
    (db purchasePlanItems).find? link.purchasePlanItemId = some planItem
  positive : 0 < item.quantity
  sku : planItem.sku = item.sku

/-- Every item of an order is allotted, and nothing is received before its order is
confirmed. -/
structure Expected (db : Database) : Prop where
  placed : ∀ itemId item, (db orderItems).find? itemId = some item →
    ∃ order, (db purchaseOrders).find? item.purchaseOrderId = some order
  allotted : ∀ itemId item, (db orderItems).find? itemId = some item →
    ∃ planItem, Allotted db itemId item planItem
  known : ∀ key link, (db purchasePlanOrderLinks).find? key = some link →
    ∃ item, (db orderItems).find? link.orderItemId = some item
  untouched : ∀ itemId item order, (db orderItems).find? itemId = some item →
    (db purchaseOrders).find? item.purchaseOrderId = some order → order.status ≠ .confirmed →
    item.receivedQuantity = 0
  received : ∀ key receipt, (db purchaseReceipts).find? key = some receipt →
    OfConfirmed db receipt.orderItemId

theorem Allotted.planned {planItem : PurchasePlanItem} (allotted : Allotted db itemId item planItem) :
    planAllocations db itemId = [(item.quantity, planItem)] := by
  obtain ⟨key, link, only, quantity, found⟩ := allotted.link
  rw [planAllocations, only, ← quantity]
  simp [found]

/-- What an item keeps while no order is created. -/
def ItemFrom (db db' : Database) : Prop :=
  ∀ id new, (db' orderItems).find? id = some new →
    ∃ old, (db orderItems).find? id = some old ∧ itemKey new = itemKey old ∧
      (new.receivedQuantity = old.receivedQuantity ∨ OfConfirmed db id)

theorem Expected.of_kept (expected : Expected db)
    (links : db' purchasePlanOrderLinks = db purchasePlanOrderLinks)
    (planItems : ∀ id row, (db purchasePlanItems).find? id = some row →
      ∃ new, (db' purchasePlanItems).find? id = some new ∧ new.sku = row.sku)
    (items : ItemFrom db db')
    (kept : ∀ id old, (db orderItems).find? id = some old →
      ∃ new, (db' orderItems).find? id = some new ∧ itemKey new = itemKey old)
    (orders : ∀ id order, (db purchaseOrders).find? id = some order →
      ∃ new, (db' purchaseOrders).find? id = some new ∧
        (order.status = .confirmed → new.status = .confirmed))
    (receipts : ∀ key receipt, (db' purchaseReceipts).find? key = some receipt →
      OfConfirmed db receipt.orderItemId) : Expected db' := by
  have confirmed : ∀ {id}, OfConfirmed db id → OfConfirmed db' id := by
    rintro id ⟨item, order, found, foundOrder, isConfirmed⟩
    obtain ⟨new, foundNew, same⟩ := kept id item found
    obtain ⟨last, foundLast, stays⟩ := orders _ order foundOrder
    refine ⟨new, last, foundNew, ?_, stays isConfirmed⟩
    rw [show new.purchaseOrderId = item.purchaseOrderId from (Prod.mk.inj same).1]
    exact foundLast
  constructor
  · intro id new found
    obtain ⟨old, foundOld, same, -⟩ := items id new found
    obtain ⟨order, foundOrder⟩ := expected.placed id old foundOld
    obtain ⟨last, foundLast, -⟩ := orders _ order foundOrder
    rw [show new.purchaseOrderId = old.purchaseOrderId from (Prod.mk.inj same).1]
    exact ⟨last, foundLast⟩
  · intro id new found
    obtain ⟨old, foundOld, same, -⟩ := items id new found
    obtain ⟨planItem, allotted⟩ := expected.allotted id old foundOld
    obtain ⟨key, link, only, quantity, foundPlan⟩ := allotted.link
    obtain ⟨row, foundRow, sku⟩ := planItems _ planItem foundPlan
    simp only [itemKey, Prod.mk.injEq] at same
    obtain ⟨-, sameSku, -, -, sameQuantity⟩ := same
    refine ⟨row, ⟨key, link, by rw [links, only], by rw [quantity, sameQuantity], foundRow⟩, ?_, ?_⟩
    · rw [sameQuantity]
      exact allotted.positive
    · rw [sku, allotted.sku, sameSku]
  · intro key link found
    rw [links] at found
    obtain ⟨item, foundItem⟩ := expected.known key link found
    obtain ⟨new, foundNew, -⟩ := kept _ item foundItem
    exact ⟨new, foundNew⟩
  · intro id new order found foundOrder unconfirmed
    obtain ⟨old, foundOld, same, quantity⟩ := items id new found
    have own : new.purchaseOrderId = old.purchaseOrderId := (Prod.mk.inj same).1
    rw [own] at foundOrder
    obtain ⟨before, foundBefore⟩ := expected.placed id old foundOld
    obtain ⟨last, foundLast, stays⟩ := orders _ before foundBefore
    obtain rfl := Option.some.inj (foundLast.symm.trans foundOrder)
    rcases quantity with unchanged | ⟨row, place, foundRow, foundPlace, isConfirmed⟩
    · rw [unchanged]
      exact expected.untouched id old before foundOld foundBefore fun isConfirmed =>
        unconfirmed (stays isConfirmed)
    · obtain rfl := Option.some.inj (foundRow.symm.trans foundOld)
      obtain rfl := Option.some.inj (foundPlace.symm.trans foundBefore)
      exact absurd (stays isConfirmed) unconfirmed
  · intro key receipt found
    exact confirmed (receipts key receipt found)

theorem itemFrom_of_same (items : db' orderItems = db orderItems) : ItemFrom db db' :=
  fun _ new found => ⟨new, items ▸ found, rfl, Or.inl rfl⟩

theorem Expected.congr (expected : Expected db)
    (same : ∀ t ∈ [orderItems, purchasePlanOrderLinks, purchasePlanItems, purchaseReceipts],
      db' t = db t)
    (orders : ∀ id order, (db purchaseOrders).find? id = some order →
      (db' purchaseOrders).find? id = some order) : Expected db' := by
  have items := same orderItems (by decide)
  refine expected.of_kept (same _ (by decide)) ?_ (itemFrom_of_same items) ?_ ?_ ?_
  · intro id row found
    rw [same _ (by decide)]
    exact ⟨row, found, rfl⟩
  · intro id old found
    rw [items]
    exact ⟨old, found, rfl⟩
  · intro id order found
    exact ⟨order, orders id order found, fun isConfirmed => isConfirmed⟩
  · intro key receipt found
    rw [same _ (by decide)] at found
    exact expected.received key receipt found

/-! ## A new order -/

theorem Allocated.planItemsKept {orderId : Nat} {line : PreparedItem}
    (allocated : Allocated orderId s line s') (id : Nat) (row : PurchasePlanItem)
    (found : (s purchasePlanItems).find? id = some row) :
    ∃ new, (s' purchasePlanItems).find? id = some new ∧ new.sku = row.sku := by
  by_cases own : id = line.planItemId
  · subst own
    rw [allocated.planItems]
    exact ⟨_, Table.find?_modify_self _ found, rfl⟩
  · rw [allocated.planItems, Table.find?_modify_ne _ _ own]
    exact ⟨row, found, rfl⟩

theorem Allocated.expected {orderId : Nat} {line : PreparedItem} {row : PurchasePlanItem}
    {order : PurchaseOrder} (allocated : Allocated orderId s line s') (expected : Expected s)
    (ordered : (s purchaseOrders).find? orderId = some order) (positive : 0 < line.quantity)
    (found : (s purchasePlanItems).find? line.planItemId = some row) (sku : row.sku = line.sku) :
    Expected s' := by
  have orders := allocated.others purchaseOrders (by decide) (by decide) (by decide)
  have receipts := allocated.others purchaseReceipts (by decide) (by decide) (by decide)
  have planItems := allocated.planItemsKept
  constructor
  · intro itemId item foundItem
    rw [allocated.orderItems] at foundItem
    rw [orders]
    rcases Table.find?_insert_cases foundItem with ⟨-, rfl⟩ | old
    · exact ⟨order, ordered⟩
    · exact expected.placed itemId item old
  · intro itemId item foundItem
    rw [allocated.orderItems] at foundItem
    rcases Table.find?_insert_cases foundItem with ⟨rfl, rfl⟩ | old
    · -- no link names an item that is not there yet
      have fresh : (s purchasePlanOrderLinks).select
          (fun _ link => link.orderItemId == (s .orderItems).nextId) = [] := by
        rw [Table.select_eq_nil]
        intro key link foundLink
        obtain ⟨item, known⟩ := expected.known key link foundLink
        rw [beq_eq_false_iff_ne]
        intro same
        rw [same, Table.find?_nextId] at known
        cases known
      let link : PurchasePlanOrderLink :=
        { purchasePlanItemId := line.planItemId, orderItemId := (s .orderItems).nextId
          allocatedQuantity := line.quantity }
      obtain ⟨new, foundNew, same⟩ := planItems _ row found
      refine ⟨new, ⟨(s purchasePlanOrderLinks).nextId, link, ?_, rfl, foundNew⟩, positive,
        same.trans sku⟩
      rw [allocated.links, Table.select_insert, fresh]
      simp [link]
    · obtain ⟨planItem, allotted⟩ := expected.allotted itemId item old
      obtain ⟨key, link, only, quantity, foundPlan⟩ := allotted.link
      obtain ⟨new, foundNew, sameSku⟩ := planItems _ planItem foundPlan
      refine ⟨new, ⟨key, link, ?_, quantity, foundNew⟩, allotted.positive, ?_⟩
      · have earlier := Table.find?_lt_nextId old
        have other : ((s .orderItems).nextId == itemId) = false := by
          rw [beq_eq_false_iff_ne]
          omega
        rw [allocated.links, Table.select_insert, only]
        simp [other]
      · rw [sameSku, allotted.sku]
  · intro key link foundLink
    rw [allocated.links] at foundLink
    rw [allocated.orderItems]
    rcases Table.find?_insert_cases foundLink with ⟨-, rfl⟩ | old
    · exact ⟨_, Table.find?_insert_nextId _ _⟩
    · obtain ⟨item, known⟩ := expected.known key link old
      exact ⟨item, Table.find?_insert_of_some known⟩
  · intro itemId item placed foundItem foundOrder unconfirmed
    rw [allocated.orderItems] at foundItem
    rw [orders] at foundOrder
    rcases Table.find?_insert_cases foundItem with ⟨-, rfl⟩ | old
    · rfl
    · exact expected.untouched itemId item placed old foundOrder unconfirmed
  · intro key receipt foundReceipt
    rw [receipts] at foundReceipt
    obtain ⟨item, placed, known, foundOrder, isConfirmed⟩ :=
      expected.received key receipt foundReceipt
    refine ⟨item, placed, ?_, by rw [orders]; exact foundOrder, isConfirmed⟩
    rw [allocated.orderItems]
    exact Table.find?_insert_of_some known

theorem allocated_expected {orderId : Nat} {lines : List PreparedItem} {order : PurchaseOrder}
    (run : Run (Allocated orderId) s lines s') (expected : Expected s)
    (ordered : (s purchaseOrders).find? orderId = some order)
    (positive : ∀ line ∈ lines, 0 < line.quantity)
    (skus : ∀ line ∈ lines, ∃ row, (s purchasePlanItems).find? line.planItemId = some row ∧
      row.sku = line.sku) : Expected s' := by
  induction run with
  | done => exact expected
  | @next s mid last line rest first later ih =>
      obtain ⟨row, found, sku⟩ := skus line List.mem_cons_self
      apply ih (first.expected expected ordered (positive line List.mem_cons_self) found sku)
      · rw [first.others _ (by decide) (by decide) (by decide)]
        exact ordered
      · exact fun other member => positive other (List.mem_cons_of_mem _ member)
      · intro other member
        obtain ⟨planned, foundPlanned, own⟩ := skus other (List.mem_cons_of_mem _ member)
        obtain ⟨new, foundNew, same⟩ := first.planItemsKept _ planned foundPlanned
        exact ⟨new, foundNew, same.trans own⟩

theorem OrderCreated.expected {command : SupplyContext} {body : CreatePurchaseOrder}
    {prepared : List PreparedItem} {order : PurchaseOrder} {allocated settled : Database}
    (created : OrderCreated command body prepared order db allocated settled db')
    (expected : Expected db) : Expected db' := by
  have opened : Expected (db.put purchaseOrders ((db purchaseOrders).insert order)) := by
    apply expected.congr
    · intro t member
      apply Store.put_other
      rintro rfl
      exact absurd member (by decide)
    · intro id row found
      rw [Store.put_same]
      exact Table.find?_insert_of_some found
  have filled : Expected allocated := by
    apply allocated_expected created.allocates opened
    · rw [Store.put_same]
      exact Table.find?_insert_nextId _ _
    · exact fun line member => (created.checked line member).quantity
    · intro line member
      have checked := created.checked line member
      rw [Store.put_other _ _ (by decide)]
      exact ⟨_, checked.foundItem, checked.sku.symm⟩
  have last : ∀ t, t ≠ approvalRequests → t ≠ procurementVersions → t ≠ reminderSchedules →
      t ≠ purchasePlans → db' t = allocated t := by
    intro t notRequests notVersions notReminders notPlans
    rw [created.others t notRequests notVersions notReminders,
      (recomputed_kept created.settles).2 t notPlans]
  apply filled.congr
  · intro t member
    apply last <;>
    · rintro rfl
      exact absurd member (by decide)
  · intro id row found
    rw [last _ (by decide) (by decide) (by decide) (by decide)]
    exact found

/-! ## Steps and runs -/

theorem decideApproval_itemsKept {command : CommandContext} {body : Approvals.DecideApproval}
    {reply : JsonValue} {sent : List DomainEvent}
    (returns : (Approvals.decideApproval supplyEffects command body).Returns db reply sent db') :
    db' orderItems = db orderItems := by
  obtain ⟨-, approval, mid, decided⟩ := Approvals.decideApproval_returns returns
  obtain ⟨outcome, effect⟩ := decided.effect
  unfold Approvals.approvalEffect at effect
  cases named : approval.workflowType with
  | procurement name => exact applied_itemsKept (decideApproval_applied decided named)
  | _ =>
      simp only [named, returns_widen] at effect
      rw [effect.unwritten _ (by decide), decided.kept _ (by decide) (by decide)]

theorem work_itemFrom (work : SupplyWork db event db')
    (notOrdered : ∀ command body, supplied event ≠ some ⟨command, .createPurchaseOrder body⟩) :
    ItemFrom db db' := by
  cases work with
  | @supply _ request _ _ returns =>
      obtain ⟨command, body⟩ := request
      unfold runSupply at returns
      cases body with
      | createPurchaseOrder body => exact absurd rfl (notOrdered command body)
      | _ => exact itemFrom_of_same ((returns_widen.mp returns).unwritten orderItems (by decide))
  | elsewhere own => exact itemFrom_of_same (own _ (by decide))
  | operations own work =>
      cases work with
      | @command _ request reply sent returns =>
          obtain ⟨command, body⟩ := request
          unfold runCommand at returns
          cases body with
          | decideApproval body =>
              exact itemFrom_of_same (decideApproval_itemsKept (returns_widen.mp returns))
          | receivePurchase body =>
              obtain ⟨-, item, batch, receipt, received⟩ :=
                PurchaseReceipts.receivePurchase_returns (returns_widen.mp returns)
              obtain ⟨order, foundOrder, confirmed⟩ := received.confirmed
              intro id new found
              rw [received.items] at found
              by_cases same : id = body.orderItemId
              · subst same
                rw [Table.find?_modify_self _ received.found] at found
                cases found
                exact ⟨item, received.found, rfl, Or.inr ⟨item, order, received.found, foundOrder,
                  confirmed⟩⟩
              · rw [Table.find?_modify_ne _ _ same] at found
                exact ⟨new, found, rfl, Or.inl rfl⟩
          | _ => exact itemFrom_of_same ((returns_widen.mp returns).unwritten orderItems (by decide))
      | warnInvoiceRisk warned => exact itemFrom_of_same (warned.unwritten _ (by decide))
      | procurement => exact own.elim
      | approvalRequest => exact itemFrom_of_same (by simp)
      | outboxMessage => exact itemFrom_of_same rfl

theorem Follows.receipts (follows : Follows db event db') (expected : Expected db) {key : Nat}
    {receipt : PurchaseReceipt} (found : (db' purchaseReceipts).find? key = some receipt) :
    OfConfirmed db receipt.orderItemId := by
  cases follows with
  | placed created receipts =>
      rw [receipts] at found
      exact expected.received key receipt found
  | received received orders =>
      rw [received.receipts] at found
      rcases Table.find?_insert_cases found with ⟨-, rfl⟩ | old
      · obtain ⟨order, foundOrder, confirmed⟩ := received.confirmed
        rw [received.item]
        exact ⟨_, order, received.found, foundOrder, confirmed⟩
      · exact expected.received key receipt old
  | nothing orders receipts others =>
      rw [receipts] at found
      exact expected.received key receipt found

theorem work_expected (work : SupplyWork db event db') (expected : Expected db) : Expected db' := by
  have ordered := touched_ordered (work_touched work)
  by_cases creates : ∃ command body, supplied event = some ⟨command, .createPurchaseOrder body⟩
  · obtain ⟨command, body, supply⟩ := creates
    cases ordered with
    | orderCreated _ _ created => exact created.expected expected
    | elsewhere notOrdered _ _ _ _ => exact absurd supply (notOrdered _ _)
    | planCreated given | planUpdated given | orderAnswered given | planVersioned given
    | deviated given | planExcepted given | orderExcepted given =>
        rw [given] at supply
        cases supply
  · have notOrdered : ∀ command body,
        supplied event ≠ some ⟨command, .createPurchaseOrder body⟩ :=
      fun command body supply => creates ⟨command, body, supply⟩
    refine expected.of_kept (ordered.linksSame notOrdered) ?_ (work_itemFrom work notOrdered) ?_ ?_ ?_
    · intro id row found
      obtain ⟨new, foundNew, same⟩ := ordered.itemKept found
      simp only [planItemKey, Prod.mk.injEq] at same
      exact ⟨new, foundNew, same.1.2.2.2.1⟩
    · exact fun id old found => ordered.orderItemKept found
    · intro id order found
      obtain ⟨new, foundNew, moved⟩ := ordered.orderMoves found
      refine ⟨new, foundNew, fun confirmed => ?_⟩
      rw [confirmed] at moved
      exact List.mem_singleton.mp moved
    · exact fun key receipt found => (work_follows work).receipts expected found

theorem step_expected (step : SupplyStep db event db') (expected : Expected db) : Expected db' := by
  refine step.preserves Expected ?_ fun work => work_expected work expected
  intro mid last apart held
  apply held.congr
  · intro t member
    apply apart
    rintro rfl
    exact absurd member (by decide)
  · intro id order found
    rw [apart _ (by decide)]
    exact found

/-- Nothing has been planned, ordered or received. -/
structure NothingExpected (db : Database) : Prop extends NothingOrdered db where
  orderItems : ∀ id, (db .orderItems).find? id = none
  receipts : ∀ id, (db purchaseReceipts).find? id = none

theorem NothingExpected.expected (opening : NothingExpected db) : Expected db where
  placed id item found := by simp [opening.orderItems] at found
  allotted id item found := by simp [opening.orderItems] at found
  known key link found := by simp [opening.links] at found
  untouched id item order found := by simp [opening.orderItems] at found
  received key receipt found := by simp [opening.receipts] at found

theorem run_expected (opening : NothingExpected db) (run : Run SupplyStep db events db') :
    Expected db' ∧ Booked db' := by
  apply run.preserves (fun db => Expected db ∧ Booked db)
  · rintro a event b step ⟨expected, booked⟩
    obtain ⟨mid, ordered, apart⟩ := step_ordered step
    exact ⟨step_expected step expected, (ordered_of_apart apart).booked (ordered.booked booked)⟩
  · exact ⟨opening.expected, opening.toNothingOrdered.booked⟩

/-! ## Orders that lead on -/

/-- A factory can confirm the order, and whenever one has, each of its items can be
received or produced. -/
structure LeadsOn (db : Database) (id : Nat) : Prop where
  confirmable : Confirmable db id
  deliverable : ∀ {command body reply sent db'}, body.id = id → body.decision = .confirmed →
    (updatePurchaseOrder command body).Returns db reply sent db' →
    ∀ itemId item, (db' orderItems).find? itemId = some item → item.purchaseOrderId = id →
      Receivable db' itemId ∨ Producible db' itemId

/-- The goods of the order can come: the warehouse of each plan item takes them in, or
its factory produces them. -/
def Obtainable (db : Database) (id : Nat) (order : PurchaseOrder) : Prop :=
  ∀ itemId item planItem, (db orderItems).find? itemId = some item → item.purchaseOrderId = id →
    Allotted db itemId item planItem →
    Receives db itemId item planItem.warehouseId ∨
      Produces db itemId item order item.quantity planItem

theorem OrderConfirmed.items {id : Nat} (confirmed : OrderConfirmed id db db') :
    db' orderItems = db orderItems := by
  obtain ⟨now, rfl⟩ := confirmed.confirmed
  exact Store.put_other _ _ (by decide)

theorem receives_put {orders : Table PurchaseOrder} {warehouseId : Nat} :
    Receives (db.put purchaseOrders orders) itemId item warehouseId ↔
      Receives db itemId item warehouseId := by
  constructor
  · rintro ⟨orderKey, own, warehouseKey, active, thawed, freeze, version, movement⟩
    exact ⟨orderKey, own, warehouseKey, by simpa [Stock.ActiveWarehouse] using active,
      by simpa [frozen] using thawed, by simpa using freeze, by simpa using version,
      by simpa using movement⟩
  · rintro ⟨orderKey, own, warehouseKey, active, thawed, freeze, version, movement⟩
    exact ⟨orderKey, own, warehouseKey, by simpa [Stock.ActiveWarehouse] using active,
      by simpa [frozen] using thawed, by simpa using freeze, by simpa using version,
      by simpa using movement⟩

theorem produces_put {orders : Table PurchaseOrder} {order placed : PurchaseOrder} {quantity : Int}
    {planItem : PurchasePlanItem} (dated : placed.orderDate = order.orderDate) :
    Produces (db.put purchaseOrders orders) itemId item placed quantity planItem ↔
      Produces db itemId item order quantity planItem := by
  constructor
  · rintro ⟨own, factoryKey, finished, sku, allocated, bill, room, version⟩
    rw [dated] at bill
    exact ⟨own, factoryKey, finished, sku, allocated, by simpa using bill, by simpa using room,
      by simpa using version⟩
  · rintro ⟨own, factoryKey, finished, sku, allocated, bill, room, version⟩
    rw [← dated] at bill
    exact ⟨own, factoryKey, finished, sku, allocated, by simpa using bill, by simpa using room,
      by simpa using version⟩

theorem Booked.scopes (booked : Booked db) (id : Nat) (order : PurchaseOrder)
    (found : (db purchaseOrders).find? id = some order) : orderScopes db id ≠ [] := by
  obtain ⟨key, link, item, foundLink, foundItem, own⟩ := booked.placed id order found
  obtain ⟨planItem, foundPlan⟩ := booked.known key link foundLink
  have member : planItem.factoryId ∈ orderScopes db id := by
    refine List.mem_filterMap.mpr ⟨(key, link), Table.mem_select.mpr ⟨foundLink, ?_⟩, ?_⟩
    · simp [foundItem, own]
    · simp [foundPlan]
  exact List.ne_nil_of_mem member

theorem OrderConfirmed.deliverable_iff {id : Nat} {order : PurchaseOrder}
    {planItem : PurchasePlanItem} (confirmed : OrderConfirmed id db db') (expected : Expected db)
    (foundOrder : (db purchaseOrders).find? id = some order)
    (pending : order.status = .factoryConfirmation)
    (found : (db orderItems).find? itemId = some item) (own : item.purchaseOrderId = id)
    (allotted : Allotted db itemId item planItem) :
    Receivable db' itemId ∨ Producible db' itemId ↔
      Receives db itemId item planItem.warehouseId ∨
        Produces db itemId item order item.quantity planItem := by
  obtain ⟨now, rfl⟩ := confirmed.confirmed
  let after := db.put purchaseOrders ((db purchaseOrders).modify id fun row =>
    { row with status := .confirmed, updatedAt := now })
  have foundAfter : (after purchaseOrders).find? item.purchaseOrderId =
      some { order with status := .confirmed, updatedAt := now } := by
    rw [own]
    simp only [after, Store.put_same]
    exact Table.find?_modify_self _ foundOrder
  have foundItem : (after orderItems).find? itemId = some item := by simpa [after] using found
  have planned : planAllocations after itemId = [(item.quantity, planItem)] := by
    simpa [after, planAllocations] using allotted.planned
  have unreceived : ∀ key receipt, (after purchaseReceipts).find? key = some receipt →
      receipt.orderItemId ≠ itemId := by
    intro key receipt foundReceipt same
    obtain ⟨row, placed, foundRow, foundPlaced, isConfirmed⟩ :=
      expected.received key receipt (by simpa [after] using foundReceipt)
    rw [same, found] at foundRow
    cases foundRow
    rw [own, foundOrder] at foundPlaced
    cases foundPlaced
    rw [pending] at isConfirmed
    cases isConfirmed
  have untouched := expected.untouched itemId item order found (by rw [own]; exact foundOrder)
    (by rw [pending]; decide)
  rw [receivable_iff foundItem foundAfter rfl untouched allotted.positive planned unreceived,
    producible_iff foundItem foundAfter allotted.positive planned]
  apply or_congr
  · exact receives_put
  · exact produces_put rfl

/-- In every state reached from nothing, an order that waits for its factory leads on
exactly when its lines are of one factory and its goods can come. -/
theorem orders_lead_on {id : Nat} {order : PurchaseOrder} (opening : NothingExpected db)
    (run : Run SupplyStep db events db') (found : (db' purchaseOrders).find? id = some order)
    (pending : order.status = .factoryConfirmation) :
    LeadsOn db' id ↔ Addressable id ∧ OneFactory db' id ∧ Obtainable db' id order := by
  obtain ⟨expected, booked⟩ := run_expected opening run
  have linked := booked.scopes id order found
  constructor
  · rintro ⟨confirmable, deliverable⟩
    obtain ⟨key, -, exclusive⟩ := (confirmable_iff found pending).mp confirmable
    refine ⟨key, exclusive, fun itemId item planItem foundItem own allotted => ?_⟩
    obtain ⟨command, body, reply, sent, last, rfl, confirms, returns⟩ := confirmable
    have confirmed := updatePurchaseOrder_confirms confirms returns
    apply (confirmed.deliverable_iff expected found pending foundItem own allotted).mp
    exact deliverable rfl confirms returns itemId item (confirmed.items ▸ foundItem) own
  · rintro ⟨key, exclusive, obtainable⟩
    refine ⟨(confirmable_iff found pending).mpr ⟨key, linked, exclusive⟩, ?_⟩
    rintro command body reply sent last rfl confirms returns itemId item foundItem own
    have confirmed := updatePurchaseOrder_confirms confirms returns
    rw [confirmed.items] at foundItem
    obtain ⟨planItem, allotted⟩ := expected.allotted itemId item foundItem
    apply (confirmed.deliverable_iff expected found pending foundItem own allotted).mpr
    exact obtainable itemId item planItem foundItem own allotted

theorem orderingDatabase_expects : NothingExpected orderingDatabase where
  toNothingOrdered := orderingDatabase_opens
  orderItems _ := rfl
  receipts _ := rfl

/-- An order of what one factory planned. -/
theorem orders_lead_on_once : ∃ db' order,
    Run SupplyStep orderingDatabase ((plansTen ++ [orders 3 "O" 1 10]).map Act.event) db' ∧
      (db' purchaseOrders).find? 1 = some order ∧
      (LeadsOn db' 1 ↔ Addressable 1 ∧ OneFactory db' 1 ∧ Obtainable db' 1 order) := by
  obtain ⟨db', run, seen⟩ := replayActs_reaches (plansTen ++ [orders 3 "O" 1 10]) orderingDatabase
    (fun db => ((db purchaseOrders).find? 1).any (·.status == .factoryConfirmation))
    (by decide +kernel)
  obtain ⟨order, found, pending⟩ := Option.any_eq_true _ _ |>.mp seen
  exact ⟨db', order, run, found,
    orders_lead_on orderingDatabase_expects run found (beq_iff_eq.mp pending)⟩

/-! ## An order of two factories -/

/-- A second factory with a warehouse, and a supplier of it. -/
def twoFactories : Database :=
  ((((orderingDatabase.put factories ((orderingDatabase factories).insert { code := "G" })).put
    warehouses ((orderingDatabase warehouses).insert
      { code := "X", name := "X", type := .factory, factoryId := some 2, status := .active })).put
    suppliers ((orderingDatabase suppliers).insert
      { code := "U", tier := some 1, managedByFactoryId := none })).put
    supplierSkus ((orderingDatabase supplierSkus).insert
      { factoryId := 2, supplierId := 2, sku := "S", effectiveFrom := "2026-01-01"
        status := .active, requestedBy := 1 })).put
    corePriceAgreements ((orderingDatabase corePriceAgreements).insert
      { supplierId := 2, sku := "S", unitPriceTaxIncludedMinor := 5
        effectiveFrom := "2026-01-01" })

/-- Ten pieces are planned at the other factory too, and it confirms them. -/
def plansElsewhere : List Act :=
  [.supply (supplyAt 3
      { userId := 1, sessionId := some 1, roles := [.supplyChain], factoryId := none
        supplierId := none }
      (.createPurchasePlan
        { planNo := "Q"
          items := [{ expectedArrivalDate := "2026-03-01", factoryId := 2, warehouseId := 2
                      sku := "S", productName := "S", bomId := 1, plannedQuantity := 10 }] })),
    .supply (supplyAt 4
      { userId := 4, sessionId := some 4, roles := [.factory], factoryId := some 2
        supplierId := none }
      (.updatePurchasePlan
        { id := 2, expectedUpdatedAt := 3
          action := .answer
            { decision := .confirmed, expectedStartDate := "2026-02-01"
              expectedFinishDate := "2026-02-20" } }))]

/-- One order takes the pieces of both plans. -/
def ordersBoth : Act :=
  .supply (supplyAt 5
    { userId := 1, sessionId := some 1, roles := [.supplyChain], factoryId := none
      supplierId := none }
    (.createPurchaseOrder
      { orderNo := "O", orderDate := "2026-02-01", items := [line 1 1, line 2 2] }))
where
  line (planItemId supplierId : Nat) : OrderLine :=
    { planItemId, supplierId, quantity := 10, dueDate := "2026-02-20", sku := "S"
      productName := "S", itemType := "finished" }

/-- No factory can ever confirm it. -/
theorem shared_order_stuck : ∃ db' order,
    Run SupplyStep twoFactories ((plansTen ++ plansElsewhere ++ [ordersBoth]).map Act.event) db' ∧
      (db' purchaseOrders).find? 1 = some order ∧ order.status = .factoryConfirmation ∧
      ¬ LeadsOn db' 1 := by
  obtain ⟨db', run, seen⟩ := replayActs_reaches (plansTen ++ plansElsewhere ++ [ordersBoth])
    twoFactories (fun db => ((db purchaseOrders).find? 1).any (·.status == .factoryConfirmation) &&
      orderScopes db 1 == [1, 2]) (by decide +kernel)
  rw [Bool.and_eq_true, Option.any_eq_true, beq_iff_eq] at seen
  obtain ⟨⟨order, found, pending⟩, scopes⟩ := seen
  rw [beq_iff_eq] at pending
  refine ⟨db', order, run, found, pending, fun leads => ?_⟩
  obtain ⟨-, -, factoryId, exclusive⟩ := (confirmable_iff found pending).mp leads.confirmable
  rw [scopes] at exclusive
  have one := exclusive 1 (by decide)
  have two := exclusive 2 (by decide)
  omega

end SupplyChain.PurchaseOrders
