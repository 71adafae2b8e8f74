import SupplyChain.PurchaseOrders.Ledger
import SupplyChain.PurchaseReceipts.Outcomes
import SupplyChain.ProductionOrders.Steps

/-!
What follows from an order: production is placed and goods are received for the
items of an order. A receipt asks for a confirmed order. A production order does
not ask, so an order that waits for its approval can be refused after production
was placed for it.
-/

namespace SupplyChain.PurchaseOrders

open Relational Transaction TableName Supply PurchasePlans Procurement

variable {db mid db' : Database} {event : SupplyEvent} {events : List SupplyEvent}

/-- An order that waits for an approval, was refused or is in dispute. -/
def withheld : PurchaseOrderStatus → Bool
  | .pendingApproval | .approvalRejected | .disputed => true
  | .factoryConfirmation | .confirmed => false

/-- The order of the item may have production and receipts. -/
def MayFollow (db : Database) (orderItemId : Nat) : Prop :=
  ∀ item ∈ (db orderItems).find? orderItemId,
    ∀ order ∈ (db purchaseOrders).find? item.purchaseOrderId, withheld order.status = false

/-- Production is placed and goods are received only for orders that are not
withheld at that moment. -/
def RespectsWithheld (db : Database) (_ : SupplyEvent) (db' : Database) : Prop :=
  (∀ id row, (db' executionOrders).find? id = some row → (db executionOrders).find? id = none →
    MayFollow db row.orderItemId) ∧
  ∀ id row, (db' purchaseReceipts).find? id = some row → (db purchaseReceipts).find? id = none →
    MayFollow db row.orderItemId

/-- A refused order has neither production nor receipts. -/
def RefusedBare (db : Database) : Prop :=
  ∀ itemId item order, (db orderItems).find? itemId = some item →
    (db purchaseOrders).find? item.purchaseOrderId = some order →
    order.status = .approvalRejected →
    (∀ id row, (db executionOrders).find? id = some row → row.orderItemId ≠ itemId) ∧
      ∀ id row, (db purchaseReceipts).find? id = some row → row.orderItemId ≠ itemId

/-- No production is placed for an order that is withheld. -/
def PlacesCleared (db : Database) : SupplyEvent → Prop
  | .operations (.command ⟨_, .createProductionOrder body⟩) => MayFollow db body.orderItemId
  | _ => True

/-! ## One step -/

/-- What a step adds to what follows from the orders. -/
inductive Follows (db : Database) : SupplyEvent → Database → Prop
  | placed {db' : Database} {command : CommandContext}
      {body : ProductionOrders.CreateProductionOrder} {item : OrderItem} {bom : ProductBom}
      (created : ProductionOrders.Created command body item bom db db')
      (receipts : db' purchaseReceipts = db purchaseReceipts) :
      Follows db (.operations (.command ⟨command, .createProductionOrder body⟩)) db'
  | received {db' : Database} {command : CommandContext}
      {body : PurchaseReceipts.ReceivePurchase} {item : OrderItem} {batch : InventoryBatch}
      {receipt : PurchaseReceipt}
      (received : PurchaseReceipts.Received body item batch receipt db db')
      (orders : db' executionOrders = db executionOrders) :
      Follows db (.operations (.command ⟨command, .receivePurchase body⟩)) db'
  | nothing {event : SupplyEvent} {db' : Database}
      (orders : ∀ id row, (db' executionOrders).find? id = some row →
        ∃ old, (db executionOrders).find? id = some old ∧ row.orderItemId = old.orderItemId)
      (receipts : db' purchaseReceipts = db purchaseReceipts)
      (others : PlacesCleared db event) : Follows db event db'

theorem follows_of_same (orders : db' executionOrders = db executionOrders)
    (receipts : db' purchaseReceipts = db purchaseReceipts) (others : PlacesCleared db event) :
    Follows db event db' :=
  Follows.nothing (fun _ row found => ⟨row, by rw [← orders]; exact found, rfl⟩) receipts others

theorem work_follows (work : SupplyWork db event db') : Follows db event db' := by
  cases work with
  | supply returns =>
      have unwritten := returns.unwritten
      exact follows_of_same (unwritten _ (by decide)) (unwritten _ (by decide)) trivial
  | elsewhere own => exact follows_of_same (own _ (by decide)) (own _ (by decide)) trivial
  | operations own work =>
      have worked := ProductionOrders.work_worked work
      cases work with
      | @command _ request reply sent returns =>
          obtain ⟨command, body⟩ := request
          unfold runCommand at returns
          cases body with
          | createProductionOrder body =>
              have ran := returns_widen.mp returns
              obtain ⟨-, item, bom, created⟩ := ProductionOrders.createProductionOrder_returns ran
              exact Follows.placed created (ran.unwritten _ (by decide))
          | receivePurchase body =>
              have ran := returns_widen.mp returns
              obtain ⟨-, item, batch, receipt, received⟩ :=
                PurchaseReceipts.receivePurchase_returns ran
              exact Follows.received received (ran.unwritten _ (by decide))
          | _ =>
              have unwritten := (returns_widen.mp returns).unwritten
              refine Follows.nothing ?_ (unwritten _ (by decide)) trivial
              intro id row found
              rcases worked.orderFrom found with old | ⟨_, _, _, _, other, -⟩
              · exact old
              · cases other
      | warnInvoiceRisk warned =>
          have unwritten := warned.unwritten
          exact follows_of_same (unwritten _ (by decide)) (unwritten _ (by decide)) trivial
      | procurement => exact own.elim
      | approvalRequest => exact follows_of_same (by simp) (by simp) trivial
      | outboxMessage => exact follows_of_same rfl rfl trivial

theorem Follows.respects_iff (follows : Follows db event db') :
    RespectsWithheld db event db' ↔ PlacesCleared db event := by
  cases follows with
  | @placed _ command body item bom created receipts =>
      constructor
      · intro respects
        have placed := Table.find?_insert_nextId (db executionOrders)
          (ProductionOrders.orderOf command body)
        rw [← created.orders] at placed
        exact respects.1 _ _ placed (Table.find?_nextId _)
      · intro cleared
        refine ⟨?_, ?_⟩
        · intro id row found fresh
          rw [created.orders] at found
          rcases Table.find?_insert_cases found with ⟨-, rfl⟩ | old
          · exact cleared
          · rw [fresh] at old
            cases old
        · intro id row found fresh
          rw [receipts, fresh] at found
          cases found
  | @received _ command body item batch receipt received orders =>
      refine iff_of_true ⟨?_, ?_⟩ trivial
      · intro id row found fresh
        rw [orders, fresh] at found
        cases found
      · intro id row found fresh
        rw [received.receipts] at found
        rcases Table.find?_insert_cases found with ⟨-, rfl⟩ | old
        · intro other foundItem order foundOrder
          rw [received.item, received.found] at foundItem
          cases foundItem
          obtain ⟨confirmed, foundConfirmed, status⟩ := received.confirmed
          rw [foundConfirmed] at foundOrder
          cases foundOrder
          rw [status]
          rfl
        · rw [fresh] at old
          cases old
  | nothing orders receipts others =>
      refine iff_of_true ⟨?_, ?_⟩ others
      · intro id row found fresh
        obtain ⟨old, foundOld, -⟩ := orders id row found
        rw [fresh] at foundOld
        cases foundOld
      · intro id row found fresh
        rw [receipts, fresh] at found
        cases found

/-! ## Past the approval -/

/-- The item is of an order whose approval, if it needed any, was given. -/
def Approved (db : Database) (orderItemId : Nat) : Prop :=
  ∃ item order, (db orderItems).find? orderItemId = some item ∧
    (db purchaseOrders).find? item.purchaseOrderId = some order ∧
    order.status ≠ .pendingApproval ∧ order.status ≠ .approvalRejected

/-- What an order may be after a step. -/
def nextStatuses : PurchaseOrderStatus → List PurchaseOrderStatus
  | .pendingApproval => [.pendingApproval, .factoryConfirmation, .approvalRejected]
  | .factoryConfirmation => [.factoryConfirmation, .confirmed, .disputed]
  | .disputed => [.disputed, .confirmed, .factoryConfirmation]
  | .confirmed => [.confirmed]
  | .approvalRejected => [.approvalRejected]

theorem mem_nextStatuses (status : PurchaseOrderStatus) : status ∈ nextStatuses status := by
  cases status <;> decide

theorem Ordered.orderMoves (ordered : Ordered db event db') {id : Nat} {order : PurchaseOrder}
    (found : (db purchaseOrders).find? id = some order) :
    ∃ new, (db' purchaseOrders).find? id = some new ∧ new.status ∈ nextStatuses order.status := by
  have same : db' purchaseOrders = db purchaseOrders →
      ∃ new, (db' purchaseOrders).find? id = some new ∧
        new.status ∈ nextStatuses order.status :=
    fun equal => ⟨order, equal ▸ found, mem_nextStatuses _⟩
  have restated : ∀ {guard : Nat → PurchaseOrder → Bool} {now : Nat} {status : PurchaseOrderStatus},
      db' purchaseOrders = (db purchaseOrders).update guard (fun row =>
        { row with status, updatedAt := now }) →
      (guard id order = true → status ∈ nextStatuses order.status) →
      ∃ new, (db' purchaseOrders).find? id = some new ∧
        new.status ∈ nextStatuses order.status := by
    intro guard now status orders given
    refine ⟨_, by rw [orders, Table.find?_update, found]; rfl, ?_⟩
    dsimp only
    split
    · rename_i guarded
      exact given guarded
    · exact mem_nextStatuses _
  cases ordered with
  | planCreated supply undecided created others => exact same (others _ (by decide) (by decide))
  | planUpdated supply undecided updated others => exact same (others _ (by decide) (by decide))
  | orderCreated supply undecided created =>
      refine ⟨order, ?_, mem_nextStatuses _⟩
      rw [created.others _ (by decide) (by decide) (by decide),
        (recomputed_kept created.settles).2 _ (by decide),
        (allocated_kept created.allocates).2.2 _ (by decide) (by decide) (by decide),
        Store.put_same]
      exact Table.find?_insert_of_some found
  | orderAnswered supply undecided answered =>
      obtain ⟨waiting, foundWaiting, waits⟩ := answered.found
      obtain ⟨now, status, given, orders⟩ := answered.orders
      apply restated orders
      intro guarded
      rw [beq_iff_eq] at guarded
      subst guarded
      rw [found] at foundWaiting
      cases foundWaiting
      rw [waits]
      rcases given with rfl | rfl
      · decide
      · decide
  | planVersioned notSupplied verdict restates others => exact same (others _ (by decide) (by decide))
  | @deviated approval decision entries ids mid last key notSupplied verdict requested pending
      workflow settled deviated others =>
      by_cases isOrder : approval.entityType = "purchase_order"
      · obtain ⟨⟨waiting, foundWaiting, waits⟩, now, orders⟩ := deviated.ordered isOrder
        apply restated orders
        intro guarded
        rw [beq_iff_eq] at guarded
        subst guarded
        rw [found] at foundWaiting
        cases foundWaiting
        rw [waits]
        split
        · decide
        · decide
      · exact same (deviated.unordered isOrder)
  | planExcepted notSupplied verdict restates redated others =>
      exact same (others _ (by decide) (by decide))
  | orderExcepted notSupplied verdict restates others =>
      obtain ⟨now, status, listed, orders⟩ := restates
      apply restated orders
      intro guarded
      rw [Bool.and_eq_true, beq_iff_eq, beq_iff_eq] at guarded
      rw [guarded.2]
      exact List.mem_cons_of_mem _ listed
  | elsewhere notOrdered notUpdated undecided items others =>
      exact same (others _ (by decide) (by decide))

theorem Ordered.pastApproval (ordered : Ordered db event db') {id : Nat} {order : PurchaseOrder}
    (found : (db purchaseOrders).find? id = some order)
    (past : order.status ≠ .pendingApproval ∧ order.status ≠ .approvalRejected) :
    ∃ new, (db' purchaseOrders).find? id = some new ∧
      new.status ≠ .pendingApproval ∧ new.status ≠ .approvalRejected := by
  obtain ⟨new, foundNew, moved⟩ := ordered.orderMoves found
  refine ⟨new, foundNew, ?_⟩
  cases status : order.status with
  | pendingApproval => exact absurd status past.1
  | approvalRejected => exact absurd status past.2
  | factoryConfirmation | confirmed | disputed =>
      rw [status] at moved
      constructor
      · intro waits
        rw [waits] at moved
        exact absurd moved (by decide)
      · intro refused
        rw [refused] at moved
        exact absurd moved (by decide)

theorem Ordered.approved (ordered : Ordered db event db') {orderItemId : Nat}
    (approved : Approved db orderItemId) : Approved db' orderItemId := by
  obtain ⟨item, order, found, foundOrder, past⟩ := approved
  obtain ⟨newItem, foundNew, key⟩ := ordered.orderItemKept found
  obtain ⟨new, foundNewOrder, pastNew⟩ := ordered.pastApproval foundOrder past
  refine ⟨newItem, new, foundNew, ?_, pastNew⟩
  rw [show newItem.purchaseOrderId = item.purchaseOrderId from (Prod.mk.inj key).1]
  exact foundNewOrder

/-! ## Runs -/

/-- Production was placed and goods were received only for items of orders past
their approval. -/
structure Followed (db : Database) : Prop where
  placed : ∀ id row, (db executionOrders).find? id = some row → Approved db row.orderItemId
  received : ∀ id row, (db purchaseReceipts).find? id = some row → Approved db row.orderItemId

theorem Followed.refusedBare (followed : Followed db) : RefusedBare db := by
  intro itemId item order found foundOrder refused
  have unapproved : ¬ Approved db itemId := by
    rintro ⟨other, placed, foundOther, foundPlaced, -, unrefused⟩
    rw [found] at foundOther
    cases foundOther
    rw [foundOrder] at foundPlaced
    cases foundPlaced
    exact unrefused refused
  constructor
  · rintro id row foundRow rfl
    exact unapproved (followed.placed id row foundRow)
  · rintro id row foundRow rfl
    exact unapproved (followed.received id row foundRow)

theorem approved_of_cleared {orderItemId : Nat} {item : OrderItem}
    (cleared : MayFollow db orderItemId) (found : (db orderItems).find? orderItemId = some item)
    (placed : ∃ order, (db purchaseOrders).find? item.purchaseOrderId = some order) :
    Approved db orderItemId := by
  obtain ⟨order, foundOrder⟩ := placed
  have status := cleared item found order foundOrder
  refine ⟨item, order, found, foundOrder, ?_, ?_⟩
  · intro waits
    rw [waits] at status
    cases status
  · intro refused
    rw [refused] at status
    cases status

theorem step_followed (step : SupplyStep db event db') (cleared : PlacesCleared db event)
    (followed : Followed db) : Followed db' := by
  obtain ⟨mid, work, apart⟩ := step.works
  obtain ⟨last, ordered, outside⟩ := step_ordered step
  have later : ∀ {orderItemId}, Approved db orderItemId → Approved db' orderItemId := by
    intro orderItemId approved
    have kept := ordered.approved approved
    rwa [Approved, ← outside orderItems (by decide), ← outside purchaseOrders (by decide)] at kept
  constructor
  · intro id row found
    rw [apart _ (by decide)] at found
    cases work_follows work with
    | placed created receipts =>
        rw [created.orders] at found
        rcases Table.find?_insert_cases found with ⟨-, rfl⟩ | old
        · exact later (approved_of_cleared cleared created.foundItem created.placed)
        · exact later (followed.placed id row old)
    | received received orders =>
        rw [orders] at found
        exact later (followed.placed id row found)
    | nothing orders receipts others =>
        obtain ⟨old, foundOld, same⟩ := orders id row found
        rw [same]
        exact later (followed.placed id old foundOld)
  · intro id row found
    rw [apart _ (by decide)] at found
    cases work_follows work with
    | placed created receipts =>
        rw [receipts] at found
        exact later (followed.received id row found)
    | received received orders =>
        rw [received.receipts] at found
        rcases Table.find?_insert_cases found with ⟨-, rfl⟩ | old
        · obtain ⟨order, foundOrder, confirmed⟩ := received.confirmed
          refine later ⟨_, order, ?_, foundOrder, ?_⟩
          · rw [received.item]
            exact received.found
          · rw [confirmed]
            exact ⟨by decide, by decide⟩
        · exact later (followed.received id row old)
    | nothing orders receipts others =>
        rw [receipts] at found
        exact later (followed.received id row found)

theorem step_respects_iff (step : SupplyStep db event db') :
    RespectsWithheld db event db' ↔ PlacesCleared db event := by
  obtain ⟨mid, work, apart⟩ := step.works
  have same : RespectsWithheld db event db' ↔ RespectsWithheld db event mid := by
    simp only [RespectsWithheld, apart executionOrders (by decide),
      apart purchaseReceipts (by decide)]
  rw [same]
  exact (work_follows work).respects_iff

/-- Nothing follows from the orders yet. -/
structure NothingFollows (db : Database) : Prop where
  orders : ∀ id, (db executionOrders).find? id = none
  receipts : ∀ id, (db purchaseReceipts).find? id = none

theorem NothingFollows.followed (opening : NothingFollows db) : Followed db where
  placed id row found := by simp [opening.orders] at found
  received id row found := by simp [opening.receipts] at found

/-- From a system in which nothing follows from the orders, the runs that place
production for cleared orders only are the runs that respect withheld orders,
and they end with refused orders that have neither production nor receipts. -/
theorem refused_orders_bare (opening : NothingFollows db) :
    Run (fun a event b => SupplyStep a event b ∧ PlacesCleared a event) db events db' ↔
      Run (fun a event b => SupplyStep a event b ∧ RespectsWithheld a event b) db events db' ∧
        RefusedBare db' := by
  constructor
  · intro run
    have followed := run.preserves Followed
      (fun held followed => step_followed held.1 held.2 followed) opening.followed
    refine ⟨run.imp ?_, followed.refusedBare⟩
    rintro a event b ⟨step, cleared⟩
    exact ⟨step, (step_respects_iff step).mpr cleared⟩
  · rintro ⟨run, -⟩
    refine run.imp ?_
    rintro a event b ⟨step, respects⟩
    exact ⟨step, (step_respects_iff step).mp respects⟩

/-! ## Production of an order that is refused -/

theorem orderingDatabase_follows : NothingFollows orderingDatabase where
  orders _ := rfl
  receipts _ := rfl

/-- An order of finished goods. -/
def ordersGoods (time : Nat) (orderNo : String) (quantity : Int) : Act :=
  .supply (supplyAt time
    { userId := 1, sessionId := some 1, roles := [.supplyChain], factoryId := none
      supplierId := none }
    (.createPurchaseOrder
      { orderNo, orderDate := "2026-02-01"
        items := [{ planItemId := 1, supplierId := 1, quantity, dueDate := "2026-02-20", sku := "S"
                    productName := "S", itemType := "finished" }] }))

/-- Production of some goods of the first order item. -/
def places (time : Nat) (quantity : Int) : Act :=
  .operations (requestAt time 1 [.supplyChain] (.createProductionOrder
    { orderItemId := 1, factoryId := 1, bomId := 1, plannedQuantity := quantity
      plannedStartDate := "2026-02-02", plannedFinishDate := "2026-02-10" }))

/-- Twelve goods are ordered where ten are planned, production of them is placed
while the order waits, and then the order is refused. -/
def refusesPlaced : List Act :=
  plansTen ++ [ordersGoods 3 "O" 12, places 4 12, settles 5 1 .rejected]

theorem refused_order_produced :
    ∃ db, Run SupplyStep orderingDatabase (refusesPlaced.map Act.event) db ∧ ¬ RefusedBare db := by
  obtain ⟨db, run, seen⟩ := replayActs_reaches refusesPlaced orderingDatabase
    (fun db => ((db orderItems).find? 1).any fun item =>
      ((db purchaseOrders).find? item.purchaseOrderId).any
          (fun order => order.status == .approvalRejected) &&
        ((db executionOrders).find? 1).any fun row => row.orderItemId == 1) (by decide +kernel)
  refine ⟨db, run, ?_⟩
  intro bare
  simp only [Option.any_eq_true, Bool.and_eq_true, beq_iff_eq] at seen
  obtain ⟨item, found, ⟨order, foundOrder, refused⟩, row, foundRow, own⟩ := seen
  exact (bare 1 item order found foundOrder refused).1 1 row foundRow own

/-- Production that waits for the approval of its order. -/
theorem refused_orders_bare_waiting :
    ∃ db', ((db' executionOrders).find? 1).isSome = true ∧
      (Run (fun a event b => SupplyStep a event b ∧ PlacesCleared a event) orderingDatabase
          ((plansTen ++ [ordersGoods 3 "O" 12, settles 4 1 .approved, places 5 12]).map Act.event)
          db' ↔
        Run (fun a event b => SupplyStep a event b ∧ RespectsWithheld a event b) orderingDatabase
            ((plansTen ++ [ordersGoods 3 "O" 12, settles 4 1 .approved, places 5 12]).map Act.event)
            db' ∧
          RefusedBare db') := by
  obtain ⟨db', -, seen⟩ := replayActs_reaches
    (plansTen ++ [ordersGoods 3 "O" 12, settles 4 1 .approved, places 5 12]) orderingDatabase
    (fun db => ((db executionOrders).find? 1).isSome) (by decide +kernel)
  exact ⟨db', seen, refused_orders_bare orderingDatabase_follows⟩

end SupplyChain.PurchaseOrders
