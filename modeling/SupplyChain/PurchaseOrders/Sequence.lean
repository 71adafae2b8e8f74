import SupplyChain.PurchaseOrders.Ledger

/-!
The lines of an order one after another. The command checks all lines before it
writes any of them; here a line is checked when those before it are written. Both
ways agree unless two lines are of one plan item, of which the second finds its
item changed by the first.
-/

namespace SupplyChain.PurchaseOrders

open Relational Transaction TableName Supply PurchasePlans Procurement

variable {db db' s s' : Database} {writes writes' : List TableName} {command : SupplyContext}
  {orderId : Nat} {orderDate : String} {seen : List (String × Nat)}

/-! ## One line after another -/

/-- Each line is checked against the plan item as the lines before it left it. -/
def orderLines (orderId : Nat) (orderDate : String) (seen : List (String × Nat)) :
    List OrderLine →
      SupplyTx [orderItems, purchasePlanOrderLinks, purchasePlanItems] (List PreparedItem)
  | [] => return []
  | line :: rest => do
      let prepared ← prepareItem orderDate seen line
      insertOrderItem orderId prepared
      let others ← orderLines orderId orderDate (seen ++ [(prepared.sku, prepared.supplierId)]) rest
      return prepared :: others

theorem plans_within : ∀ t ∈ [purchasePlans], t ∈
    [purchaseOrders, orderItems, purchasePlanOrderLinks, purchasePlanItems, purchasePlans,
      approvalRequests, procurementVersions, reminderSchedules] := by
  decide

theorem lines_within : ∀ t ∈ [orderItems, purchasePlanOrderLinks, purchasePlanItems], t ∈
    [purchaseOrders, orderItems, purchasePlanOrderLinks, purchasePlanItems, purchasePlans,
      approvalRequests, procurementVersions, reminderSchedules] := by
  decide

/-- What the command does when its lines are written: it settles their plans, and asks
for the approval of their deviations or for the confirmation of the factory. -/
def concludeOrder (command : SupplyContext) (orderNo orderDate : String)
    (sourceFileKey : Option String) (orderId : Nat) (prepared : List PreparedItem) :
    SupplyTx [purchaseOrders, orderItems, purchasePlanOrderLinks, purchasePlanItems,
      purchasePlans, approvalRequests, procurementVersions, reminderSchedules] JsonValue := do
  let total := (prepared.map PreparedItem.amount).sum
  let deviations := deviationsOf prepared
  let status : PurchaseOrderStatus :=
    if prepared.any (·.outside) then .pendingApproval else .factoryConfirmation
  (forEach (settlePlan command) (affectedPlans prepared)).widen plans_within
  let approvalId ← requestDeviation command "purchase_order" orderId deviations
  let dueAt := command.clock + day
  match approvalId with
  | none => do
      createReminder .purchaseOrderConfirmation orderId orderNo dueAt
      Supply.domainEvent command "PurchaseOrderFactoryConfirmationDue" "purchase_order" orderId
  | some approvalId => approvalNotification command "purchase_plan_deviation" approvalId
  return .object [("order", .object [("id", .number orderId), ("orderNo", .text orderNo),
    ("sourceFileKey", sourceFileKey.elim .null .text), ("status", .text status.name),
    ("orderDate", .text orderDate), ("totalTaxIncludedMinor", .number total)]),
    ("approvalRequired", .boolean (!deviations.isEmpty)), ("deviations", .array deviations),
    ("confirmationDueAt", if deviations.isEmpty then .number dueAt else .null)]

/-- The command with its lines one after another. -/
def createInSequence (command : SupplyContext) (body : CreatePurchaseOrder) :
    SupplyTx [purchaseOrders, orderItems, purchasePlanOrderLinks, purchasePlanItems,
      purchasePlans, approvalRequests, procurementVersions, reminderSchedules] JsonValue := do
  refuseIf (isInternal command.access = false) (forbidden "Forbidden")
  let orderNo ← text body.orderNo 191
  let orderDate ← date body.orderDate
  refuseIf (body.items = [] ∨ 1000 < body.items.length) (badRequest "Purchase order items required")
  let sourceFileKey ← optionalText body.sourceFileKey
  requireSourceFile command.access sourceFileKey
  let duplicate ← query fun db => (db purchaseOrders).any fun _ row => row.orderNo == orderNo
  refuseIf (duplicate = true) (conflict "Purchase order number already exists")
  refuseIf (1 < body.items.length ∧ body.items.any (fun line =>
      decide (¬ isSafeInteger line.planItemId ∨ line.planItemId = 0)) = true)
    (badRequest "Positive integer required")
  let orderId ← query fun db => (db purchaseOrders).nextId
  let prepared ← (orderLines orderId orderDate []
    (body.items.insertionSort fun a b => a.planItemId ≤ b.planItemId)).widen lines_within
  let total := (prepared.map PreparedItem.amount).sum
  refuseIf (¬ isSafeInteger total) (badRequest "Purchase order amount overflow")
  let _ ← insertUnique purchaseOrders (fun row => row.orderNo == orderNo)
    { orderNo, orderDate
      status := if prepared.any (·.outside) then .pendingApproval else .factoryConfirmation
      totalTaxIncludedMinor := total, updatedAt := command.now }
    (.duplicateKey purchaseOrders)
  concludeOrder command orderNo orderDate sourceFileKey orderId prepared

/-- The command succeeds exactly when its lines do one after another, and leaves every
plan item with the same ordered quantity and every line with the same verdict. -/
structure AsInSequence (db : Database) (command : SupplyContext) (body : CreatePurchaseOrder) :
    Prop where
  succeeds : (∃ reply sent db', (createPurchaseOrder command body).Returns db reply sent db') ↔
    ∃ reply sent db', (createInSequence command body).Returns db reply sent db'
  agrees : ∀ {reply reply' sent sent' db' last},
    (createPurchaseOrder command body).Returns db reply sent db' →
      (createInSequence command body).Returns db reply' sent' last →
        reply = reply' ∧ db' purchasePlanItems = last purchasePlanItems

/-! ## A line on its own -/

/-- The tables that the writing of a line changes. -/
def ApartFromLines (s s' : Database) : Prop :=
  ∀ t, t ≠ orderItems → t ≠ purchasePlanOrderLinks → t ≠ purchasePlanItems → s' t = s t

theorem prepareItem_congr {input : OrderLine} {item : PreparedItem}
    (same : (s' purchasePlanItems).find? input.planItemId =
      (s purchasePlanItems).find? input.planItemId) (apart : ApartFromLines s s') :
    (prepareItem orderDate seen input : SupplyTx writes _).Returns s' item [] s' ↔
      (prepareItem orderDate seen input : SupplyTx writes' _).Returns s item [] s := by
  have plans := apart purchasePlans (by decide) (by decide) (by decide)
  have relations := apart supplierSkus (by decide) (by decide) (by decide)
  have known := apart suppliers (by decide) (by decide) (by decide)
  have prices := apart corePriceAgreements (by decide) (by decide) (by decide)
  simp only [prepareItem, returns_bind_positiveKey, returns_bind_positiveInteger,
    returns_bind_date, returns_bind_select, returns_bind_orThrow, returns_bind_query,
    returns_bind_refuseIf, returns_bind_text, returns_pure, latestPlan, priceOn, same, plans,
    relations, known, prices]

theorem prepareItem_pure {input : OrderLine} {item : PreparedItem} {sent : List String}
    (returns : (prepareItem orderDate seen input : SupplyTx writes _).Returns s item sent s') :
    sent = [] ∧ s' = s :=
  (prepareItem_obeys : Obeys idle _).obeyed returns

theorem prepareItems_congr {inputs : List OrderLine} {prepared : List PreparedItem}
    (same : ∀ line ∈ inputs, (s' purchasePlanItems).find? line.planItemId =
      (s purchasePlanItems).find? line.planItemId) (apart : ApartFromLines s s') :
    (prepareItems orderDate seen inputs : SupplyTx writes _).Returns s' prepared [] s' ↔
      (prepareItems orderDate seen inputs : SupplyTx writes' _).Returns s prepared [] s := by
  induction inputs generalizing seen prepared with
  | nil => simp only [prepareItems, returns_pure]
  | cons line rest ih =>
      have later := fun seen prepared => @ih seen prepared fun other member =>
        same other (List.mem_cons_of_mem line member)
      simp only [prepareItems, returns_bind_of_reads prepareItem_pure,
        returns_bind_of_reads (prepareItems_obeys : Obeys idle _).obeyed, returns_pure, later,
        and_true]
      exact exists_congr fun item =>
        and_congr_left fun _ => prepareItem_congr (same line List.mem_cons_self) apart

theorem insertOrderItem_beside {item : PreparedItem} {orders : Table PurchaseOrder}
    {sent : List String} {last : Database} :
    (insertOrderItem orderId item).Returns (s.put purchaseOrders orders) () sent last ↔
      ∃ s', (insertOrderItem orderId item).Returns s () sent s' ∧
        last = s'.put purchaseOrders orders := by
  simp only [insertOrderItem, returns_bind_insertUnique, returns_updateRow]
  constructor
  · rintro ⟨freeItem, freeLink, found, rfl, rfl⟩
    refine ⟨_, ⟨freeItem, freeLink, found, rfl, rfl⟩, ?_⟩
    funext t
    cases t <;> rfl
  · rintro ⟨s', ⟨freeItem, freeLink, found, rfl, rfl⟩, rfl⟩
    refine ⟨freeItem, freeLink, found, rfl, ?_⟩
    funext t
    cases t <;> rfl

theorem insertOrderItems_beside {prepared : List PreparedItem} {orders : Table PurchaseOrder}
    {sent : List String} {last : Database} :
    (forEach (insertOrderItem orderId) prepared).Returns (s.put purchaseOrders orders) () sent last ↔
      ∃ s', (forEach (insertOrderItem orderId) prepared).Returns s () sent s' ∧
        last = s'.put purchaseOrders orders := by
  induction prepared generalizing s sent last with
  | nil => simp only [returns_forEach_nil, and_assoc, exists_eq_left, exists_and_left]
  | cons item rest ih =>
      simp only [returns_forEach_cons, insertOrderItem_beside]
      constructor
      · rintro ⟨first, _, later, ⟨mid, head, rfl⟩, tail, rfl⟩
        obtain ⟨s', written, rfl⟩ := ih.mp tail
        exact ⟨s', ⟨first, mid, later, head, written, rfl⟩, rfl⟩
      · rintro ⟨s', ⟨first, mid, later, head, tail, rfl⟩, rfl⟩
        exact ⟨first, _, later, ⟨mid, head, rfl⟩, ih.mpr ⟨s', tail, rfl⟩, rfl⟩

/-! ## All lines -/

/-- Where no two lines are of one plan item, they can be checked before any is written. -/
theorem orderLines_returns {lines : List OrderLine} {prepared : List PreparedItem}
    {sent : List String} (distinct : (lines.map (·.planItemId)).Nodup) :
    (orderLines orderId orderDate seen lines).Returns s prepared sent s' ↔
      (prepareItems orderDate seen lines : SupplyTx writes _).Returns s prepared [] s ∧
        (forEach (insertOrderItem orderId) prepared).Returns s () sent s' := by
  induction lines generalizing s seen prepared sent with
  | nil =>
      rw [orderLines, prepareItems, returns_pure, returns_pure]
      constructor
      · rintro ⟨rfl, rfl, rfl⟩
        exact ⟨⟨rfl, rfl, rfl⟩, returns_forEach_nil.mpr ⟨rfl, rfl⟩⟩
      · rintro ⟨⟨rfl, -, -⟩, written⟩
        obtain ⟨rfl, rfl⟩ := returns_forEach_nil.mp written
        exact ⟨rfl, rfl, rfl⟩
  | cons line rest ih =>
      rw [List.map_cons, List.nodup_cons] at distinct
      obtain ⟨absent, distinct⟩ := distinct
      -- the lines to come find their plan items as they were before this one
      have unchanged : ∀ {item mid first}, item.planItemId = line.planItemId →
          (insertOrderItem orderId item).Returns s () first mid →
          ∀ {seen others},
            (prepareItems orderDate seen rest : SupplyTx writes _).Returns mid others [] mid ↔
              (prepareItems orderDate seen rest : SupplyTx writes _).Returns s others [] s := by
        intro item mid first own writes seen others
        have allocated := insertOrderItem_returns writes
        apply prepareItems_congr _ allocated.others
        intro other member
        rw [allocated.planItems, Table.find?_modify_ne]
        rw [own]
        intro same
        exact absent (same ▸ List.mem_map_of_mem member)
      simp only [orderLines, prepareItems, returns_bind_of_reads prepareItem_pure,
        returns_bind_of_reads (prepareItems_obeys : Obeys idle _).obeyed]
      constructor
      · rintro ⟨item, checked, returns⟩
        obtain ⟨_, first, mid, _, writes, more, rfl⟩ := returns_bind.mp returns
        obtain ⟨others, later, last, _, tail, done, rfl⟩ := returns_bind.mp more
        obtain ⟨rfl, rfl, rfl⟩ := returns_pure.mp done
        obtain ⟨prepares, written⟩ := (ih distinct).mp tail
        have own := (prepareItem_returns checked).1
        refine ⟨⟨item, ?_, others, (unchanged own writes).mp prepares, returns_pure.mpr ⟨rfl, rfl, rfl⟩⟩, ?_⟩
        · exact (prepareItem_congr rfl fun _ _ _ _ => rfl).mp checked
        · exact returns_forEach_cons.mpr ⟨first, mid, later, writes, written, by simp⟩
      · rintro ⟨⟨item, checked, others, prepares, done⟩, written⟩
        obtain ⟨rfl, -, -⟩ := returns_pure.mp done
        obtain ⟨first, mid, later, writes, tail, rfl⟩ := returns_forEach_cons.mp written
        have own := (prepareItem_returns checked).1
        refine ⟨item, (prepareItem_congr rfl fun _ _ _ _ => rfl).mp checked, ?_⟩
        refine returns_bind.mpr ⟨(), first, mid, later, writes, ?_, rfl⟩
        refine returns_bind.mpr ⟨others, later, s', [], ?_, returns_pure.mpr ⟨rfl, rfl, rfl⟩, by simp⟩
        exact (ih distinct).mpr ⟨(unchanged own writes).mpr prepares, tail⟩

/-- The command does what its lines in sequence do when no two lines are of one plan item. -/
theorem createInSequence_iff {body : CreatePurchaseOrder} {reply : JsonValue} {sent : List String}
    (distinct : (body.items.map (·.planItemId)).Nodup) :
    (createPurchaseOrder command body).Returns db reply sent db' ↔
      (createInSequence command body).Returns db reply sent db' := by
  have sorted : ((body.items.insertionSort fun a b => a.planItemId ≤ b.planItemId).map
      (·.planItemId)).Nodup :=
    ((List.perm_insertionSort _ body.items).map _).nodup_iff.mpr distinct
  simp only [createPurchaseOrder, createInSequence, returns_bind_refuseIf, returns_bind_text,
    returns_bind_date, returns_bind_of_reads (obeys_optionalText : Obeys idle _).obeyed,
    returns_bind_of_reads (obeys_requireSourceFile : Obeys idle _).obeyed, returns_bind_query,
    returns_bind_of_reads (prepareItems_obeys : Obeys idle _).obeyed, returns_bind_insertUnique,
    returns_bind_widen]
  refine and_congr_right fun _ => and_congr_right fun _ => and_congr_right fun _ =>
    and_congr_right fun _ => and_congr_right fun _ => exists_congr fun sourceFileKey =>
    and_congr_right fun _ => exists_congr fun _ => and_congr_right fun _ =>
    and_congr_right fun _ => and_congr_right fun _ => ?_
  constructor
  · rintro ⟨prepared, prepares, safe, free, _, first, last, rest, written, concludes, rfl⟩
    obtain ⟨mid, lines, rfl⟩ := insertOrderItems_beside.mp written
    have orders := lines.unwritten purchaseOrders (by decide)
    refine ⟨prepared, first, mid, rest, (orderLines_returns sorted).mpr ⟨prepares, lines⟩, ?_, rfl⟩
    rw [orders]
    exact ⟨safe, free, returns_bind_widen.mpr concludes⟩
  · rintro ⟨prepared, first, mid, rest, inTurn, ⟨safe, free, concludes⟩, rfl⟩
    obtain ⟨prepares, lines⟩ := (orderLines_returns sorted).mp inTurn
    have orders := lines.unwritten purchaseOrders (by decide)
    rw [orders] at free concludes
    refine ⟨prepared, prepares, safe, free, (), first, _, rest, ?_, returns_bind_widen.mp concludes, rfl⟩
    exact insertOrderItems_beside.mpr ⟨mid, lines, rfl⟩

/-! ## Two lines of one plan item -/

/-- No line follows that was checked before its plan item was ordered from. -/
theorem allocated_absent {items : List PreparedItem} {id : Nat} {before now : PurchasePlanItem}
    (run : Run (Allocated orderId) s items s') (checked : ∀ item ∈ items, Checked db item)
    (read : (db purchasePlanItems).find? id = some before)
    (found : (s purchasePlanItems).find? id = some now)
    (raised : before.orderedQuantity < now.orderedQuantity) :
    id ∉ items.map (·.planItemId) := by
  induction run with
  | done => exact List.not_mem_nil
  | @next s mid last item rest first later ih =>
      have judged := checked item List.mem_cons_self
      have apart : id ≠ item.planItemId := by
        intro same
        obtain ⟨row, foundRow, unchanged, -⟩ := first.found
        rw [← same, found] at foundRow
        obtain rfl := Option.some.inj foundRow
        have foundItem := judged.foundItem
        rw [← same, read] at foundItem
        obtain rfl := Option.some.inj foundItem
        omega
      have kept : (mid purchasePlanItems).find? id = some now := by
        rw [first.planItems, Table.find?_modify_ne _ _ apart]
        exact found
      have absent := ih (fun item member => checked item (List.mem_cons_of_mem _ member)) kept
      rw [List.map_cons]
      exact List.not_mem_cons_of_ne_of_not_mem apart absent

/-- Lines that were checked together can only be written when no two are of one plan item. -/
theorem allocated_distinct {items : List PreparedItem}
    (run : Run (Allocated orderId) s items s') (checked : ∀ item ∈ items, Checked db item) :
    (items.map (·.planItemId)).Nodup := by
  induction run with
  | done => exact List.nodup_nil
  | @next s mid last item rest first later ih =>
      have judged := checked item List.mem_cons_self
      have others := fun item member => checked item (List.mem_cons_of_mem _ member)
      obtain ⟨row, found, -⟩ := first.found
      rw [List.map_cons, List.nodup_cons]
      refine ⟨?_, ih others⟩
      -- the plan item has more ordered now than when the lines were checked
      apply allocated_absent later others judged.foundItem
      · rw [first.planItems, Table.find?_modify_self _ found]
      · have positive := judged.quantity
        show item.planItem.orderedQuantity < item.planItem.orderedQuantity + item.quantity
        omega

theorem createPurchaseOrder_distinct {body : CreatePurchaseOrder} {reply : JsonValue}
    {sent : List String} (returns : (createPurchaseOrder command body).Returns db reply sent db') :
    (body.items.map (·.planItemId)).Nodup := by
  obtain ⟨prepared, order, allocated, settled, created⟩ := createPurchaseOrder_returns returns
  exact created.planItems.nodup_iff.mp (allocated_distinct created.allocates created.checked)

/-! ## The lines of an order -/

/-- An order is as its lines in sequence exactly when these are refused or no two of them
are of one plan item. -/
theorem lines_in_sequence {body : CreatePurchaseOrder} :
    AsInSequence db command body ↔
      ((∃ reply sent db', (createInSequence command body).Returns db reply sent db') →
        (body.items.map (·.planItemId)).Nodup) := by
  constructor
  · intro asInSequence accepted
    obtain ⟨reply, sent, db', returns⟩ := asInSequence.succeeds.mpr accepted
    exact createPurchaseOrder_distinct returns
  · intro distinct
    constructor
    · constructor
      · rintro ⟨reply, sent, db', returns⟩
        have apart := createPurchaseOrder_distinct returns
        exact ⟨reply, sent, db', (createInSequence_iff apart).mp returns⟩
      · intro accepted
        have apart := distinct accepted
        obtain ⟨reply, sent, db', returns⟩ := accepted
        exact ⟨reply, sent, db', (createInSequence_iff apart).mpr returns⟩
    · intro reply reply' sent sent' db' last returns inTurn
      have apart := createPurchaseOrder_distinct returns
      have same := (createInSequence_iff apart).mp returns
      cases same.symm.trans inTurn
      exact ⟨rfl, rfl⟩

/-- A second supplier of the sku at the same price. -/
def twoSuppliers : Database :=
  ((orderingDatabase.put suppliers ((orderingDatabase suppliers).insert
      { code := "U", tier := some 1, managedByFactoryId := none })).put
    supplierSkus ((orderingDatabase supplierSkus).insert
      { factoryId := 1, supplierId := 2, sku := "S", effectiveFrom := "2026-01-01"
        status := .active, requestedBy := 1 })).put
    corePriceAgreements ((orderingDatabase corePriceAgreements).insert
      { supplierId := 2, sku := "S", unitPriceTaxIncludedMinor := 5
        effectiveFrom := "2026-01-01" })

/-- Six pieces from the one supplier, four from the other. -/
def splitOrder : CreatePurchaseOrder :=
  { orderNo := "O", orderDate := "2026-02-01", items := [line 1 6, line 2 4] }
where
  line (supplierId : Nat) (quantity : Int) : OrderLine :=
    { planItemId := 1, supplierId, quantity, dueDate := "2026-02-20", sku := "S"
      productName := "S", itemType := "component" }

def splits : SupplyContext :=
  (supplyAt 3 { userId := 1, sessionId := some 1, roles := [.supplyChain], factoryId := none
                supplierId := none } (.createPurchaseOrder splitOrder)).command

theorem isOk_run {m : SupplyTx writes JsonValue} :
    (m.run db).isOk = true ↔ ∃ reply sent db', m.Returns db reply sent db' := by
  unfold Returns
  cases m.run db with
  | ok result => exact ⟨fun _ => ⟨_, _, _, rfl⟩, fun _ => rfl⟩
  | error failure => simp [Except.isOk, Except.toBool]

/-- The ten pieces of a plan item cannot be ordered from two suppliers at once. -/
theorem split_order_refused : ∃ db, Run SupplyStep twoSuppliers (plansTen.map Act.event) db ∧
    (splitOrder.items.map fun line => (line.sku, line.supplierId)).Nodup ∧
    ¬ AsInSequence db splits splitOrder := by
  obtain ⟨db, run, seen⟩ := replayActs_reaches plansTen twoSuppliers
    (fun db => ((createInSequence splits splitOrder).run db).isOk &&
      !((createPurchaseOrder splits splitOrder).run db).isOk) (by decide +kernel)
  refine ⟨db, run, by decide, ?_⟩
  rw [Bool.and_eq_true, Bool.not_eq_true', isOk_run, Bool.eq_false_iff, ne_eq, isOk_run] at seen
  exact fun asInSequence => seen.2 (asInSequence.succeeds.mpr seen.1)

end SupplyChain.PurchaseOrders
