import SupplyChain.PurchaseOrders.Latest

/-!
The ordered quantity of a plan item beside the allocations it is the sum of. A
refused order keeps its allocations, and nothing is given back.
-/

namespace SupplyChain.PurchaseOrders

open Relational Transaction TableName Supply PurchasePlans Procurement

variable {db db' : Database} {event : SupplyEvent} {events : List SupplyEvent}

/-- The sum of the allocations to a plan item. -/
def linkedQuantity (db : Database) (itemId : Nat) : Int :=
  (db purchasePlanOrderLinks).weigh fun _ link =>
    if link.purchasePlanItemId = itemId then link.allocatedQuantity else 0

/-- The order of a link was refused. -/
def refused (db : Database) (link : PurchasePlanOrderLink) : Bool :=
  ((db orderItems).find? link.orderItemId).any fun item =>
    ((db purchaseOrders).find? item.purchaseOrderId).any fun order =>
      order.status == .approvalRejected

/-- The sum of the allocations to a plan item without those of refused orders. -/
def standingQuantity (db : Database) (itemId : Nat) : Int :=
  (db purchasePlanOrderLinks).weigh fun _ link =>
    if link.purchasePlanItemId = itemId ∧ refused db link = false then link.allocatedQuantity
    else 0

/-- Every plan item has ordered what its standing allocations add up to. -/
def LedgerHolds (db : Database) : Prop :=
  ∀ id item, (db purchasePlanItems).find? id = some item →
    item.orderedQuantity = standingQuantity db id

/-- The ordered quantity of every item is the sum of all its allocations. -/
structure Balanced (db : Database) : Prop where
  ordered : ∀ id item, (db purchasePlanItems).find? id = some item →
    item.orderedQuantity = linkedQuantity db id
  known : ∀ id link, (db purchasePlanOrderLinks).find? id = some link →
    ∃ item, (db purchasePlanItems).find? link.purchasePlanItemId = some item
  positive : ∀ id link, (db purchasePlanOrderLinks).find? id = some link →
    0 < link.allocatedQuantity

/-- An order has an allocation. -/
def Placed (db : Database) (orderId : Nat) : Prop :=
  ∃ key link item, (db purchasePlanOrderLinks).find? key = some link ∧
    (db orderItems).find? link.orderItemId = some item ∧ item.purchaseOrderId = orderId

/-- The books of the allocations: they balance, and every order has one. -/
structure Booked (db : Database) : Prop extends Balanced db where
  placed : ∀ id order, (db purchaseOrders).find? id = some order → Placed db id

def NoneRefused (db : Database) : Prop :=
  ∀ id order, (db purchaseOrders).find? id = some order → order.status ≠ .approvalRejected

/-! ## Refused orders -/

theorem NoneRefused.standing (none : NoneRefused db) (link : PurchasePlanOrderLink) :
    refused db link = false := by
  unfold refused
  cases foundItem : (db orderItems).find? link.orderItemId with
  | none => rfl
  | some item =>
      cases foundOrder : (db purchaseOrders).find? item.purchaseOrderId with
      | none => simp [foundOrder]
      | some order => simp [foundOrder, none _ order foundOrder]

theorem Booked.holds (booked : Booked db) (none : NoneRefused db) : LedgerHolds db := by
  intro id item found
  rw [booked.ordered id item found]
  apply Table.weigh_congr
  intro key link foundLink
  simp [none.standing link]

/-- The allocation of a refused order counts as ordered, and does not stand. -/
theorem Booked.unbalanced (booked : Booked db) {id : Nat} {order : PurchaseOrder}
    (found : (db purchaseOrders).find? id = some order) (rejected : order.status = .approvalRejected) :
    ¬ LedgerHolds db := by
  intro holds
  obtain ⟨key, link, item, foundLink, foundItem, own⟩ := booked.placed id order found
  obtain ⟨planItem, foundPlan⟩ := booked.known key link foundLink
  have isRefused : refused db link = true := by
    simp [refused, foundItem, own, found, rejected]
  have both : linkedQuantity db link.purchasePlanItemId =
      standingQuantity db link.purchasePlanItemId :=
    (booked.ordered _ planItem foundPlan).symm.trans (holds _ planItem foundPlan)
  let lost : Nat → PurchasePlanOrderLink → Int := fun _ other =>
    if other.purchasePlanItemId = link.purchasePlanItemId ∧ refused db other = true then
      other.allocatedQuantity else 0
  have parts : linkedQuantity db link.purchasePlanItemId =
      standingQuantity db link.purchasePlanItemId + (db purchasePlanOrderLinks).weigh lost := by
    unfold linkedQuantity standingQuantity
    rw [← Table.weigh_add]
    apply Table.weigh_congr
    intro other row foundRow
    by_cases same : row.purchasePlanItemId = link.purchasePlanItemId
    · cases isOut : refused db row <;> simp [lost, same, isOut]
    · simp [lost, same]
  have share : lost key link ≤ (db purchasePlanOrderLinks).weigh lost := by
    apply Table.weight_le_weigh lost foundLink
    intro other row foundRow
    simp only [lost]
    split
    · exact Int.le_of_lt (booked.positive other row foundRow)
    · exact Int.le_refl 0
  have own : lost key link = link.allocatedQuantity := by
    simp [lost, isRefused]
  have positive := booked.positive key link foundLink
  omega

/-! ## Steps -/

/-- The books are kept by a step that adds no link: the items keep what is
ordered of them or are new, and no order is new. -/
theorem Booked.of_kept (booked : Booked db)
    (links : db' purchasePlanOrderLinks = db purchasePlanOrderLinks)
    (forward : ∀ id item, (db purchasePlanItems).find? id = some item →
      ∃ new, (db' purchasePlanItems).find? id = some new)
    (backward : ∀ id new, (db' purchasePlanItems).find? id = some new →
      (∃ item, (db purchasePlanItems).find? id = some item ∧
        new.orderedQuantity = item.orderedQuantity) ∨
      ((db purchasePlanItems).find? id = none ∧ new.orderedQuantity = 0))
    (items : ∀ id item, (db orderItems).find? id = some item →
      ∃ new, (db' orderItems).find? id = some new ∧ new.purchaseOrderId = item.purchaseOrderId)
    (orders : ∀ id new, (db' purchaseOrders).find? id = some new →
      ∃ order, (db purchaseOrders).find? id = some order) : Booked db' := by
  refine ⟨⟨?_, ?_, ?_⟩, ?_⟩
  · intro id new found
    unfold linkedQuantity
    rw [links]
    rcases backward id new found with ⟨item, foundItem, same⟩ | ⟨fresh, zero⟩
    · rw [same]
      exact booked.ordered id item foundItem
    · rw [zero, Table.weigh_zero]
      intro key link foundLink
      have other : link.purchasePlanItemId ≠ id := by
        rintro rfl
        obtain ⟨item, foundItem⟩ := booked.known key link foundLink
        rw [fresh] at foundItem
        cases foundItem
      simp [other]
  · intro id link found
    rw [links] at found
    obtain ⟨item, foundItem⟩ := booked.known id link found
    exact forward _ item foundItem
  · intro id link found
    rw [links] at found
    exact booked.positive id link found
  · intro id new found
    obtain ⟨order, foundOrder⟩ := orders id new found
    obtain ⟨key, link, item, foundLink, foundItem, own⟩ := booked.placed id order foundOrder
    obtain ⟨next, foundNext, same⟩ := items _ item foundItem
    exact ⟨key, link, next, links ▸ foundLink, foundNext, same.trans own⟩

theorem Allocated.balanced {orderId : Nat} {item : PreparedItem}
    (allocated : Allocated orderId db item db') (positive : 0 < item.quantity)
    (balanced : Balanced db) : Balanced db' := by
  obtain ⟨row, foundRow, sameOrdered, -⟩ := allocated.found
  have linked : ∀ id, linkedQuantity db' id =
      linkedQuantity db id + if item.planItemId = id then item.quantity else 0 := by
    intro id
    unfold linkedQuantity
    rw [allocated.links, Table.weigh_insert]
  constructor
  · intro id new found
    rw [linked]
    rw [allocated.planItems] at found
    rcases Table.find?_modify_cases found with ⟨rfl, old, foundOld, rfl⟩ | ⟨other, same⟩
    · obtain rfl := Option.some.inj (foundRow.symm.trans foundOld)
      have before := balanced.ordered _ row foundRow
      rw [if_pos rfl, ← before, sameOrdered]
      rfl
    · rw [if_neg (Ne.symm other), Int.add_zero]
      exact balanced.ordered id new same
  · intro id link found
    have stays : ∀ {key old}, (db purchasePlanItems).find? key = some old →
        ∃ new, (db' purchasePlanItems).find? key = some new := by
      intro key old foundOld
      rw [allocated.planItems, Table.find?_modify, foundOld]
      split
      · exact ⟨_, rfl⟩
      · exact ⟨old, rfl⟩
    rw [allocated.links] at found
    rcases Table.find?_insert_cases found with ⟨-, rfl⟩ | old
    · exact stays foundRow
    · obtain ⟨planItem, foundPlan⟩ := balanced.known id link old
      exact stays foundPlan
  · intro id link found
    rw [allocated.links] at found
    rcases Table.find?_insert_cases found with ⟨-, rfl⟩ | old
    · exact positive
    · exact balanced.positive id link old

theorem Allocated.placed {orderId id : Nat} {item : PreparedItem}
    (allocated : Allocated orderId db item db') (placed : Placed db id) : Placed db' id := by
  obtain ⟨key, link, row, foundLink, foundItem, own⟩ := placed
  refine ⟨key, link, row, ?_, ?_, own⟩
  · rw [allocated.links]
    exact Table.find?_insert_of_some foundLink
  · rw [allocated.orderItems]
    exact Table.find?_insert_of_some foundItem

theorem Allocated.places {orderId : Nat} {item : PreparedItem}
    (allocated : Allocated orderId db item db') : Placed db' orderId := by
  refine ⟨(db purchasePlanOrderLinks).nextId,
    { purchasePlanItemId := item.planItemId, orderItemId := (db .orderItems).nextId
      allocatedQuantity := item.quantity }, itemOf orderId item, ?_, ?_, rfl⟩
  · rw [allocated.links, Table.find?_insert_nextId]
  · rw [allocated.orderItems, Table.find?_insert_nextId]

/-- The lines of an order keep the books balanced and place the order. -/
theorem allocated_books {orderId : Nat} {prepared : List PreparedItem}
    (run : Run (Allocated orderId) db prepared db') (positive : ∀ item ∈ prepared, 0 < item.quantity)
    (balanced : Balanced db) :
    Balanced db' ∧ (∀ id, Placed db id → Placed db' id) ∧
      (prepared ≠ [] → Placed db' orderId) := by
  induction run with
  | done => exact ⟨balanced, fun _ placed => placed, fun none => absurd rfl none⟩
  | next first later ih =>
      obtain ⟨balancedLast, placedLast, -⟩ :=
        ih (fun item member => positive item (List.mem_cons_of_mem _ member))
          (first.balanced (positive _ List.mem_cons_self) balanced)
      refine ⟨balancedLast, fun id placed => placedLast id (first.placed placed), fun _ => ?_⟩
      exact placedLast orderId first.places

theorem OrderCreated.booked {command : SupplyContext} {body : CreatePurchaseOrder}
    {prepared : List PreparedItem} {order : PurchaseOrder} {allocated settled : Database}
    (created : OrderCreated command body prepared order db allocated settled db')
    (booked : Booked db) : Booked db' := by
  have opened : Balanced (Store.put db purchaseOrders ((db purchaseOrders).insert order)) := by
    constructor
    · simpa [linkedQuantity] using booked.ordered
    · simpa using booked.known
    · simpa using booked.positive
  obtain ⟨balanced, kept, own⟩ := allocated_books created.allocates
    (fun item member => (created.checked item member).quantity) opened
  have last : ∀ t, t ≠ approvalRequests → t ≠ procurementVersions → t ≠ reminderSchedules →
      t ≠ purchasePlans → db' t = allocated t := by
    intro t notRequests notVersions notReminders notPlans
    rw [created.others t notRequests notVersions notReminders,
      (recomputed_kept created.settles).2 t notPlans]
  have items := last purchasePlanItems (by decide) (by decide) (by decide) (by decide)
  have links := last purchasePlanOrderLinks (by decide) (by decide) (by decide) (by decide)
  have rows := last .orderItems (by decide) (by decide) (by decide) (by decide)
  have orders := last purchaseOrders (by decide) (by decide) (by decide) (by decide)
  have placed : ∀ id, Placed allocated id → Placed db' id := by
    intro id given
    unfold Placed
    rw [links, rows]
    exact given
  refine ⟨⟨?_, ?_, ?_⟩, ?_⟩
  · unfold linkedQuantity
    rw [items, links]
    exact balanced.ordered
  · rw [items, links]
    exact balanced.known
  · rw [links]
    exact balanced.positive
  · intro id row found
    rw [orders, (allocated_kept created.allocates).2.2 _ (by decide) (by decide) (by decide),
      Store.put_same] at found
    apply placed
    rcases Table.find?_insert_cases found with ⟨rfl, rfl⟩ | old
    · exact own created.nonempty
    · apply kept
      obtain ⟨key, link, item, foundLink, foundItem, same⟩ := booked.placed id row old
      exact ⟨key, link, item, by simpa using foundLink, by simpa using foundItem, same⟩

/-- Where an item after a step comes from, when no order is created. -/
theorem Ordered.itemFrom (ordered : Ordered db event db')
    (notOrdered : ∀ command body, supplied event ≠ some ⟨command, .createPurchaseOrder body⟩)
    {id : Nat} {new : PurchasePlanItem} (found : (db' purchasePlanItems).find? id = some new) :
    (∃ item, (db purchasePlanItems).find? id = some item ∧
      new.orderedQuantity = item.orderedQuantity) ∨
    ((db purchasePlanItems).find? id = none ∧ new.orderedQuantity = 0) := by
  have same : db' purchasePlanItems = db purchasePlanItems →
      ∃ item, (db purchasePlanItems).find? id = some item ∧
        new.orderedQuantity = item.orderedQuantity := by
    intro equal
    exact ⟨new, equal ▸ found, rfl⟩
  cases ordered with
  | planCreated supply undecided created others =>
      cases before : (db purchasePlanItems).find? id with
      | none =>
          refine Or.inr ⟨rfl, ?_⟩
          rcases created.planItems.2 id new found with old | unordered
          · rw [before] at old
            cases old
          · exact unordered.ordered
      | some item =>
          obtain ⟨row, foundRow, rfl⟩ := created.planItems.1.kept id item before
          obtain rfl := Option.some.inj (foundRow.symm.trans found)
          exact Or.inl ⟨_, rfl, rfl⟩
  | planUpdated supply undecided updated others =>
      cases updated with
      | finalized action finalized =>
          rw [finalized.items, Option.map_eq_some_iff] at found
          obtain ⟨item, foundItem, rfl⟩ := found
          refine Or.inl ⟨item, foundItem, ?_⟩
          split <;> rfl
      | answered action answered => exact Or.inl (same answered.items)
  | orderCreated supply undecided created => exact absurd supply (notOrdered _ _)
  | orderAnswered supply undecided answered =>
      exact Or.inl (same (answered.others _ (by decide) (by decide) (by decide)))
  | planVersioned notSupplied verdict restated others =>
      exact Or.inl (same (others _ (by decide) (by decide)))
  | deviated notSupplied verdict requested pending workflow settled deviated others =>
      rw [deviated.items, Option.map_eq_some_iff] at found
      obtain ⟨item, foundItem, rfl⟩ := found
      refine Or.inl ⟨item, foundItem, ?_⟩
      unfold deviatedItem
      split <;> rfl
  | planExcepted notSupplied verdict restated redated others =>
      obtain ⟨date, items⟩ := redated id
      rw [items, Option.map_eq_some_iff] at found
      obtain ⟨item, foundItem, rfl⟩ := found
      exact Or.inl ⟨item, foundItem, rfl⟩
  | orderExcepted notSupplied verdict restated others =>
      exact Or.inl (same (others _ (by decide) (by decide)))
  | elsewhere notOrdered notUpdated undecided items others =>
      exact Or.inl (same (others _ (by decide) (by decide)))

/-- The event refuses the deviations of an order. -/
def RefusesOrder (db : Database) (event : SupplyEvent) : Prop :=
  ∃ approval, decides db event = some ("purchase_plan_deviation", approval, .rejected) ∧
    approval.entityType = "purchase_order"

/-- Where an order after a step comes from, when none is created. -/
theorem Ordered.orderFrom (ordered : Ordered db event db')
    (notOrdered : ∀ command body, supplied event ≠ some ⟨command, .createPurchaseOrder body⟩)
    {id : Nat} {new : PurchaseOrder} (found : (db' purchaseOrders).find? id = some new) :
    ∃ order, (db purchaseOrders).find? id = some order ∧
      (new.status = .approvalRejected → order.status = .approvalRejected ∨ RefusesOrder db event) := by
  have same : db' purchaseOrders = db purchaseOrders →
      ∃ order, (db purchaseOrders).find? id = some order ∧
        (new.status = .approvalRejected →
          order.status = .approvalRejected ∨ RefusesOrder db event) := by
    intro equal
    exact ⟨new, equal ▸ found, Or.inl⟩
  have restated : ∀ {guard : Nat → PurchaseOrder → Bool} {now : Nat} {status : PurchaseOrderStatus},
      db' purchaseOrders = (db purchaseOrders).update guard (fun row =>
        { row with status, updatedAt := now }) →
      (status = .approvalRejected → RefusesOrder db event) →
      ∃ order, (db purchaseOrders).find? id = some order ∧
        (new.status = .approvalRejected →
          order.status = .approvalRejected ∨ RefusesOrder db event) := by
    intro guard now status orders refuses
    rw [orders, Table.find?_update, Option.map_eq_some_iff] at found
    obtain ⟨order, foundOrder, rfl⟩ := found
    refine ⟨order, foundOrder, fun rejected => ?_⟩
    split at rejected
    · exact Or.inr (refuses rejected)
    · exact Or.inl rejected
  cases ordered with
  | planCreated supply undecided created others => exact same (others _ (by decide) (by decide))
  | planUpdated supply undecided updated others => exact same (others _ (by decide) (by decide))
  | orderCreated supply undecided created => exact absurd supply (notOrdered _ _)
  | orderAnswered supply undecided answered =>
      obtain ⟨now, status, given, orders⟩ := answered.orders
      apply restated orders
      rintro rfl
      rcases given with other | other <;> cases other
  | planVersioned notSupplied verdict restates others => exact same (others _ (by decide) (by decide))
  | @deviated approval decision entries ids mid last key notSupplied verdict requested pending
      workflow settled deviated others =>
      by_cases isOrder : approval.entityType = "purchase_order"
      · obtain ⟨-, now, orders⟩ := deviated.ordered isOrder
        apply restated orders
        intro rejected
        cases decision with
        | approved => cases rejected
        | rejected => exact ⟨approval, verdict, isOrder⟩
      · exact same (deviated.unordered isOrder)
  | planExcepted notSupplied verdict restates redated others =>
      exact same (others _ (by decide) (by decide))
  | orderExcepted notSupplied verdict restates others =>
      obtain ⟨now, status, listed, orders⟩ := restates
      apply restated orders
      rintro rfl
      simp at listed
  | elsewhere notOrdered notUpdated undecided items others =>
      exact same (others _ (by decide) (by decide))

theorem Ordered.linksSame (ordered : Ordered db event db')
    (notOrdered : ∀ command body, supplied event ≠ some ⟨command, .createPurchaseOrder body⟩) :
    db' purchasePlanOrderLinks = db purchasePlanOrderLinks := by
  cases ordered with
  | orderCreated supply undecided created => exact absurd supply (notOrdered _ _)
  | orderAnswered supply undecided answered =>
      exact answered.others _ (by decide) (by decide) (by decide)
  | planCreated supply undecided created others => exact others _ (by decide) (by decide)
  | planUpdated supply undecided updated others => exact others _ (by decide) (by decide)
  | planVersioned notSupplied verdict restated others => exact others _ (by decide) (by decide)
  | deviated notSupplied verdict requested pending workflow settled deviated others =>
      exact others _ (by decide) (by decide)
  | planExcepted notSupplied verdict restated redated others => exact others _ (by decide) (by decide)
  | orderExcepted notSupplied verdict restated others => exact others _ (by decide) (by decide)
  | elsewhere notOrdered notUpdated undecided items others => exact others _ (by decide) (by decide)

/-- An order item keeps its order, its sku and its quantity. -/
theorem Ordered.orderItemKept (ordered : Ordered db event db') {id : Nat} {item : OrderItem}
    (found : (db orderItems).find? id = some item) :
    ∃ new, (db' orderItems).find? id = some new ∧ itemKey new = itemKey item := by
  have same : db' orderItems = db orderItems →
      ∃ new, (db' orderItems).find? id = some new ∧ itemKey new = itemKey item := by
    intro equal
    exact ⟨item, equal ▸ found, rfl⟩
  cases ordered with
  | orderCreated supply undecided created =>
      refine ⟨item, ?_, rfl⟩
      obtain ⟨-, gains, -⟩ := allocated_kept created.allocates
      obtain ⟨row, foundRow, rfl⟩ := gains.1.kept id item (by simpa using found)
      rw [created.others _ (by decide) (by decide) (by decide),
        (recomputed_kept created.settles).2 _ (by decide), foundRow]
  | orderAnswered supply undecided answered =>
      exact same (answered.others _ (by decide) (by decide) (by decide))
  | planCreated supply undecided created others => exact same (others _ (by decide) (by decide))
  | planUpdated supply undecided updated others => exact same (others _ (by decide) (by decide))
  | planVersioned notSupplied verdict restated others => exact same (others _ (by decide) (by decide))
  | deviated notSupplied verdict requested pending workflow settled deviated others =>
      exact same (others _ (by decide) (by decide))
  | planExcepted notSupplied verdict restated redated others =>
      exact same (others _ (by decide) (by decide))
  | orderExcepted notSupplied verdict restated others => exact same (others _ (by decide) (by decide))
  | elsewhere notOrdered notUpdated undecided items others =>
      have revises : Table.Revises (fun _ old row => itemKey row = itemKey old)
        (db orderItems) (db' orderItems) := items
      exact revises.forward found

theorem Ordered.booked (ordered : Ordered db event db') (booked : Booked db) : Booked db' := by
  by_cases creates : ∃ command body, supplied event = some ⟨command, .createPurchaseOrder body⟩
  · obtain ⟨command, body, supply⟩ := creates
    cases ordered with
    | orderCreated supply undecided created => exact created.booked booked
    | elsewhere notOrdered notUpdated undecided items others => exact absurd supply (notOrdered _ _)
    | planCreated given | planUpdated given | orderAnswered given | planVersioned given
    | deviated given | planExcepted given | orderExcepted given =>
        rw [given] at supply
        cases supply
  · have notOrdered : ∀ command body, supplied event ≠ some ⟨command, .createPurchaseOrder body⟩ :=
      fun command body supply => creates ⟨command, body, supply⟩
    apply booked.of_kept (ordered.linksSame notOrdered)
    · intro id item found
      obtain ⟨new, foundNew, -⟩ := ordered.itemKept found
      exact ⟨new, foundNew⟩
    · exact fun id new found => ordered.itemFrom notOrdered found
    · intro id item found
      obtain ⟨new, foundNew, same⟩ := ordered.orderItemKept found
      exact ⟨new, foundNew, (Prod.mk.inj same).1⟩
    · intro id new found
      obtain ⟨order, foundOrder, -⟩ := ordered.orderFrom notOrdered found
      exact ⟨order, foundOrder⟩

theorem OrderCreated.orderFrom {command : SupplyContext} {body : CreatePurchaseOrder}
    {prepared : List PreparedItem} {order : PurchaseOrder} {allocated settled : Database}
    (created : OrderCreated command body prepared order db allocated settled db') {id : Nat}
    {new : PurchaseOrder} (found : (db' purchaseOrders).find? id = some new) :
    new = order ∨ (db purchaseOrders).find? id = some new := by
  rw [created.others _ (by decide) (by decide) (by decide),
    (recomputed_kept created.settles).2 _ (by decide),
    (allocated_kept created.allocates).2.2 _ (by decide) (by decide) (by decide),
    Store.put_same] at found
  rcases Table.find?_insert_cases found with ⟨-, rfl⟩ | old
  · exact Or.inl rfl
  · exact Or.inr old

theorem Ordered.noneRefused (ordered : Ordered db event db') (none : NoneRefused db)
    (kept : ¬ RefusesOrder db event) : NoneRefused db' := by
  by_cases creates : ∃ command body, supplied event = some ⟨command, .createPurchaseOrder body⟩
  · obtain ⟨command, body, supply⟩ := creates
    cases ordered with
    | orderCreated supply undecided created =>
        intro id new found rejected
        rcases created.orderFrom found with rfl | old
        · rw [created.status] at rejected
          split at rejected <;> cases rejected
        · exact none id new old rejected
    | elsewhere notOrdered notUpdated undecided items others => exact absurd supply (notOrdered _ _)
    | planCreated given | planUpdated given | orderAnswered given | planVersioned given
    | deviated given | planExcepted given | orderExcepted given =>
        rw [given] at supply
        cases supply
  · intro id new found rejected
    obtain ⟨order, foundOrder, reason⟩ :=
      ordered.orderFrom (fun command body supply => creates ⟨command, body, supply⟩) found
    rcases reason rejected with before | refuses
    · exact none id order foundOrder before
    · exact kept refuses

theorem Ordered.refuses (ordered : Ordered db event db') (refuses : RefusesOrder db event) :
    ∃ id order, (db' purchaseOrders).find? id = some order ∧ order.status = .approvalRejected := by
  obtain ⟨approval, verdict, isOrder⟩ := refuses
  cases ordered with
  | deviated notSupplied named requested pending workflow settled deviated others =>
      rw [verdict] at named
      cases named
      obtain ⟨⟨order, found, -⟩, now, orders⟩ := deviated.ordered isOrder
      refine ⟨approval.entityId, { order with status := .approvalRejected, updatedAt := now }, ?_, rfl⟩
      rw [orders]
      exact Table.find?_modify_self _ found
  | elsewhere notOrdered notUpdated undecided items others =>
      exact absurd verdict (undecided _ _)
  | planCreated _ given | planUpdated _ given | orderCreated _ given | orderAnswered _ given
  | planVersioned _ given | planExcepted _ given | orderExcepted _ given =>
      simp [verdict] at given

/-! ## Runs -/

/-- From books without a refused order a step keeps the ledger exactly when it
refuses no order. -/
theorem step_ledger (step : SupplyStep db event db') (booked : Booked db) (none : NoneRefused db) :
    Booked db' ∧ (LedgerHolds db' ↔ ¬ RefusesOrder db event) ∧
      (¬ RefusesOrder db event → NoneRefused db') := by
  obtain ⟨mid, ordered, apart⟩ := step_ordered step
  have books := (ordered_of_apart apart).booked (ordered.booked booked)
  have quiet : ¬ RefusesOrder mid .elsewhere := by
    rintro ⟨approval, verdict, -⟩
    cases verdict
  refine ⟨books, ⟨fun holds refuses => ?_, fun kept => ?_⟩, fun kept => ?_⟩
  · obtain ⟨id, order, found, rejected⟩ := ordered.refuses refuses
    rw [← apart purchaseOrders (by decide)] at found
    exact books.unbalanced found rejected holds
  · exact books.holds ((ordered_of_apart apart).noneRefused (ordered.noneRefused none kept) quiet)
  · exact (ordered_of_apart apart).noneRefused (ordered.noneRefused none kept) quiet

/-- Nothing has been planned or ordered. -/
structure NothingOrdered (db : Database) : Prop where
  items : ∀ id, (db purchasePlanItems).find? id = none
  links : ∀ id, (db purchasePlanOrderLinks).find? id = none
  orders : ∀ id, (db purchaseOrders).find? id = none

theorem NothingOrdered.booked (opening : NothingOrdered db) : Booked db where
  ordered id item found := by simp [opening.items] at found
  known id link found := by simp [opening.links] at found
  positive id link found := by simp [opening.links] at found
  placed id order found := by simp [opening.orders] at found

/-- From a system without plans and orders the ordered quantities are the
standing allocations in every state of a run exactly when no step of the run
refuses the deviations of an order. -/
theorem ordered_quantity_ledger (opening : NothingOrdered db) :
    Run (fun a event b => SupplyStep a event b ∧ LedgerHolds b) db events db' ↔
      Run (fun a event b => SupplyStep a event b ∧ ¬ RefusesOrder a event) db events db' := by
  apply Run.iff_under (fun db => Booked db ∧ NoneRefused db)
  · rintro a event b step holds ⟨booked, none⟩
    obtain ⟨books, agree, kept⟩ := step_ledger step booked none
    exact ⟨books, kept (agree.mp holds)⟩
  · rintro a event b step ⟨booked, none⟩
    exact (step_ledger step booked none).2.1
  · refine ⟨opening.booked, fun id order found => ?_⟩
    simp [opening.orders] at found

/-- A factory with a warehouse, a finished sku with its bill of materials, a
supplier of it with a price, and two users of the supply chain. -/
def orderingDatabase : Database :=
  (((((((emptyDatabase.put factories (Table.empty.insert { code := "F" })).put
    warehouses (Table.empty.insert
      { code := "W", name := "W", type := .factory, factoryId := some 1, status := .active })).put
    skus (Table.empty.insert
      { code := "S", itemType := some "finished", overproductionToleranceBps := 0
        active := true })).put
    productBoms (Table.empty.insert
      { finishedSku := "S", version := "V", active := true, approvalStatus := .approved
        effectiveFrom := "2026-01-01", effectiveTo := none })).put
    suppliers (Table.empty.insert { code := "T", tier := some 1, managedByFactoryId := none })).put
    supplierSkus (Table.empty.insert
      { factoryId := 1, supplierId := 1, sku := "S", effectiveFrom := "2026-01-01"
        status := .active, requestedBy := 1 })).put
    corePriceAgreements (Table.empty.insert
      { supplierId := 1, sku := "S", unitPriceTaxIncludedMinor := 5
        effectiveFrom := "2026-01-01" })).put
    users ((Table.empty.insert { role := .supplyChain, active := true }).insert
      { role := .supplyChain, active := true })

theorem orderingDatabase_opens : NothingOrdered orderingDatabase where
  items _ := rfl
  links _ := rfl
  orders _ := rfl

/-- The supply chain plans ten pieces, and the factory confirms them. -/
def plansTen : List Act :=
  [.supply (supplyAt 1
      { userId := 1, sessionId := some 1, roles := [.supplyChain], factoryId := none
        supplierId := none }
      (.createPurchasePlan
        { planNo := "P"
          items := [{ expectedArrivalDate := "2026-03-01", factoryId := 1, warehouseId := 1
                      sku := "S", productName := "S", bomId := 1, plannedQuantity := 10 }] })),
    .supply (supplyAt 2
      { userId := 3, sessionId := some 3, roles := [.factory], factoryId := some 1
        supplierId := none }
      (.updatePurchasePlan
        { id := 1, expectedUpdatedAt := 1
          action := .answer
            { decision := .confirmed, expectedStartDate := "2026-02-01"
              expectedFinishDate := "2026-02-20" } }))]

/-- Another user of the supply chain decides a request. -/
def settles (time id : Nat) (decision : Decision) : Act :=
  .operations (requestAt time 2 [.supplyChain] (.decideApproval { id, decision }))

/-- The two pieces that an order has beyond the plan are refused. -/
def refusesTwo : List Act := plansTen ++ [orders 3 "O" 1 12, settles 4 1 .rejected]

/-- Its twelve pieces stay ordered. -/
theorem refused_quantity_kept : ∃ db', Run SupplyStep orderingDatabase (refusesTwo.map Act.event) db' ∧
    ¬ LedgerHolds db' := by
  obtain ⟨db', run, seen⟩ := replayActs_reaches refusesTwo orderingDatabase
    (fun db => ((db purchasePlanItems).find? 1).any fun item =>
      item.orderedQuantity != standingQuantity db 1) (by decide +kernel)
  refine ⟨db', run, fun holds => ?_⟩
  obtain ⟨item, found, differs⟩ := Option.any_eq_true _ _ |>.mp seen
  exact bne_iff_ne.mp differs (holds 1 item found)

/-- The ledger is right as long as the order waits. -/
theorem ordered_quantity_ledger_waiting : ∃ db', ((db' purchaseOrders).find? 1).isSome = true ∧
    (Run (fun a event b => SupplyStep a event b ∧ LedgerHolds b) orderingDatabase
        ((refusesTwo.take 3).map Act.event) db' ↔
      Run (fun a event b => SupplyStep a event b ∧ ¬ RefusesOrder a event) orderingDatabase
        ((refusesTwo.take 3).map Act.event) db') := by
  obtain ⟨db', -, seen⟩ := replayActs_reaches (refusesTwo.take 3) orderingDatabase
    (fun db => ((db purchaseOrders).find? 1).isSome) (by decide +kernel)
  exact ⟨db', seen, ordered_quantity_ledger orderingDatabase_opens⟩

end SupplyChain.PurchaseOrders
