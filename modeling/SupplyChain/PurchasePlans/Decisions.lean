import SupplyChain.PurchasePlans.Outcomes

/-!
What the decisions about purchase plans and purchase orders did when they
committed.
-/

namespace SupplyChain.PurchasePlans

open Relational Transaction TableName Supply Procurement SupplyApprovalEffects
open PurchaseOrders (Complete Recomputed)

variable {db db' : Database} {writes : List TableName} {command : CommandContext}
  {approval : ApprovalRequest} {decision : Decision}

/-- A plan took a status, whatever it had. -/
def Restated (planId : Nat) (statuses : List PurchasePlanStatus) (db db' : Database) : Prop :=
  ∃ now, ∃ status ∈ statuses, db' purchasePlans = (db purchasePlans).modify planId fun row =>
    { row with status, updatedAt := now }

theorem applyPlanVersion_returns {u : Unit} {sent : List DomainEvent}
    (returns : (applyPlanVersion command approval decision).Returns db u sent db') :
    Restated approval.entityId [.awaitingFactoryConfirmation, .draft] db db' := by
  obtain ⟨_, _, mid, _, updates, reminds, rfl⟩ := returns_bind.mp returns
  obtain ⟨-, -, rfl⟩ := returns_updateRow.mp updates
  refine ⟨command.now, if decision = .approved then .awaitingFactoryConfirmation else .draft, ?_, ?_⟩
  · cases decision <;> simp
  · rcases returns_whenever.mp reminds with ⟨-, reminded⟩ | ⟨-, -, rfl⟩
    · obtain ⟨-, rfl⟩ := returns_insertRow.mp reminded
      rw [Store.put_other _ _ (by decide), Store.put_same]
    · rw [Store.put_same]

/-! ## Deviations -/

/-- An item after the decision of a deviation. -/
def deviatedItem (decision : Decision) (ids : List Nat) (id : Nat) (item : PurchasePlanItem) :
    PurchasePlanItem :=
  if decision = .approved ∧ id ∈ ids then { item with completionStatus := .exceptionApproved }
  else item

/-- What a decision of the deviations of an order did to it. -/
structure OrderDecided (id : Nat) (decision : Decision) (db db' : Database) : Prop where
  pending : ∃ order, (db purchaseOrders).find? id = some order ∧ order.status = .pendingApproval
  orders : ∃ now, db' purchaseOrders = (db purchaseOrders).modify id fun row =>
    { row with
      status := if decision = .approved then .factoryConfirmation else .approvalRejected
      updatedAt := now }

/-- What a committed decision of deviations did. The plans are recomputed one
after the other from the items as they are then. -/
structure Deviated (approval : ApprovalRequest) (decision : Decision) (entries : List JsonValue)
    (ids : List Nat) (mid last db db' : Database) : Prop where
  payload : approval.payload = .array entries
  known : ∀ id ∈ deviatingItems entries, ∃ row, (db purchasePlanItems).find? id = some row ∧
    row.purchasePlanId ∈ ids
  items : ∀ id, (db' purchasePlanItems).find? id =
    ((db purchasePlanItems).find? id).map (deviatedItem decision (deviatingItems entries) id)
  ordered : approval.entityType = "purchase_order" → OrderDecided approval.entityId decision db db'
  unordered : approval.entityType ≠ "purchase_order" → db' purchaseOrders = db purchaseOrders
  plans : mid purchasePlans = db purchasePlans
  marked : mid purchasePlanItems = db' purchasePlanItems
  recomputes : Run Recomputed mid ids last
  recomputed : db' purchasePlans = last purchasePlans

theorem decideItem_returns {id planId : Nat} {sent : List DomainEvent}
    (returns : (decideItem decision id).Returns db planId sent db') :
    (∃ row, (db purchasePlanItems).find? id = some row ∧ row.purchasePlanId = planId) ∧
      ∀ key, (db' purchasePlanItems).find? key =
        ((db purchasePlanItems).find? key).map (deviatedItem decision [id] key) := by
  simp only [decideItem, returns_bind_select, returns_bind_orThrow] at returns
  obtain ⟨row, found, returns⟩ := returns
  obtain ⟨_, _, mid, _, marks, done, rfl⟩ := returns_bind.mp returns
  obtain ⟨rfl, -, rfl⟩ := returns_pure.mp done
  refine ⟨⟨row, found, rfl⟩, fun key => ?_⟩
  rcases returns_whenever.mp marks with ⟨approved, marked⟩ | ⟨rejected, -, rfl⟩
  · obtain ⟨-, rfl⟩ := returns_updateWhere.mp marked
    rw [Store.put_same, Table.find?_update]
    congr 1
    funext item
    by_cases own : key = id <;> simp [deviatedItem, approved, own]
  · have same : deviatedItem decision [id] key = fun row => row := by
      funext row
      simp [deviatedItem, rejected]
    rw [same, Option.map_id']

theorem deviatedItem_append (decision : Decision) (first rest : List Nat) (id : Nat)
    (item : PurchasePlanItem) :
    deviatedItem decision rest id (deviatedItem decision first id item) =
      deviatedItem decision (first ++ rest) id item := by
  unfold deviatedItem
  by_cases approved : decision = .approved
  · by_cases one : id ∈ first <;> by_cases two : id ∈ rest <;> simp [approved, one, two]
  · simp [approved]

theorem deviatedItem_plan (decision : Decision) (ids : List Nat) (id : Nat)
    (item : PurchasePlanItem) :
    (deviatedItem decision ids id item).purchasePlanId = item.purchasePlanId := by
  unfold deviatedItem
  split <;> rfl

theorem decideItems_returns {ids planIds : List Nat} {sent : List DomainEvent}
    (returns : (collect (decideItem decision) ids).Returns db planIds sent db') :
    (∀ id ∈ ids, ∃ row, (db purchasePlanItems).find? id = some row ∧
      row.purchasePlanId ∈ planIds) ∧
    ∀ key, (db' purchasePlanItems).find? key =
      ((db purchasePlanItems).find? key).map (deviatedItem decision ids key) := by
  induction ids generalizing planIds db sent with
  | nil =>
      obtain ⟨-, -, rfl⟩ := returns_collect_nil.mp returns
      refine ⟨by simp, fun key => ?_⟩
      have same : deviatedItem decision [] key = fun row => row := by
        funext row
        simp [deviatedItem]
      rw [same, Option.map_id']
  | cons id rest ih =>
      obtain ⟨planId, _, mid, others, _, first, later, rfl, rfl⟩ := returns_collect_cons.mp returns
      obtain ⟨⟨row, found, own⟩, marks⟩ := decideItem_returns first
      obtain ⟨known, marksRest⟩ := ih later
      constructor
      · intro key member
        rcases List.mem_cons.mp member with rfl | member
        · exact ⟨row, found, own ▸ List.mem_cons_self⟩
        · obtain ⟨marked, foundMarked, listed⟩ := known key member
          rw [marks, Option.map_eq_some_iff] at foundMarked
          obtain ⟨old, foundOld, rfl⟩ := foundMarked
          rw [deviatedItem_plan] at listed
          exact ⟨old, foundOld, List.mem_cons_of_mem _ listed⟩
      · intro key
        rw [marksRest, marks, Option.map_map]
        congr 1
        funext row
        exact deviatedItem_append decision [id] rest key row

theorem decideOrder_returns {id : Nat} {u : Unit} {sent : List DomainEvent}
    (returns : (decideOrder command id decision).Returns db u sent db') :
    OrderDecided id decision db db' := by
  simp only [decideOrder, returns_bind_select, returns_bind_orThrow, returns_bind_refuseIf,
    returns_bind_updateRow] at returns
  obtain ⟨order, found, pending, -, reminds⟩ := returns
  refine ⟨⟨order, found, not_not.mp pending⟩, command.now, ?_⟩
  rcases returns_whenever.mp reminds with ⟨-, reminded⟩ | ⟨-, -, rfl⟩
  · obtain ⟨-, rfl⟩ := returns_insertRow.mp reminded
    rw [Store.put_other _ _ (by decide), Store.put_same]
  · rw [Store.put_same]

theorem any_incomplete {planId : Nat} :
    (db purchasePlanItems).any (fun _ row =>
      row.purchasePlanId == planId && !row.completionStatus.done) = false ↔ Complete db planId := by
  rw [Table.any_eq_false]
  constructor
  · intro none id row found own
    simpa [own] using none id row found
  · intro complete id row found
    by_cases own : row.purchasePlanId = planId
    · simp [own, complete id row found own]
    · simp [own]

theorem decidePlan_returns {planId : Nat} {u : Unit} {sent : List DomainEvent}
    (returns : (decidePlan command planId).Returns db u sent db') : Recomputed db planId db' := by
  simp only [decidePlan, returns_bind_query, returns_bind_select, returns_bind_orThrow,
    returns_bind_refuseIf, returns_updateRow] at returns
  obtain ⟨plan, found, -, -, -, rfl⟩ := returns
  refine ⟨⟨plan, found⟩, ⟨command.now, _, ?_, Store.put_same _ _ _⟩,
    fun t other => Store.put_other _ _ other⟩
  by_cases complete : Complete db planId
  · simp [complete, any_incomplete.mpr complete]
  · have incomplete := Bool.eq_true_of_not_eq_false (mt any_incomplete.mp complete)
    simp [complete, incomplete]

theorem applyPlanDeviation_returns {u : Unit} {sent : List DomainEvent}
    (returns : (applyPlanDeviation command approval decision).Returns db u sent db') :
    ∃ entries ids mid, Deviated approval decision entries ids mid db' db db' := by
  obtain ⟨entries, _, read, _, reads, rest, rfl⟩ := returns_bind.mp returns
  have payload : approval.payload = .array entries ∧ read = db := by
    unfold deviationEntries at reads
    split at reads
    · rename_i given named
      obtain ⟨rfl, -, rfl⟩ := returns_pure.mp reads
      exact ⟨named, rfl⟩
    · exact (returns_fail.mp reads).elim
  obtain ⟨payload, rfl⟩ := payload
  obtain ⟨planIds, _, marked, _, marks, more, rfl⟩ := returns_bind.mp rest
  have unmarked := (returns_widen.mp marks).unwritten
  obtain ⟨known, items⟩ := decideItems_returns (returns_widen.mp marks)
  obtain ⟨_, _, ordered, _, orders, last, rfl⟩ := returns_bind.mp more
  have unsettled := (returns_widen.mp last).unwritten
  have before : ∀ t, t ≠ purchaseOrders → t ≠ reminderSchedules → ordered t = marked t := by
    rcases returns_whenever.mp orders with ⟨-, decided⟩ | ⟨-, -, rfl⟩
    · exact fun t notOrders notReminders =>
        (returns_widen.mp decided).unwritten t (by simp [notOrders, notReminders])
    · exact fun _ _ _ => rfl
  have settledOrders : db' purchaseOrders = ordered purchaseOrders := unsettled _ (by decide)
  refine ⟨entries, _, ordered,
    { payload := payload
      known := ?_, items := ?_, ordered := ?_, unordered := ?_, plans := ?_, marked := ?_
      recomputes := (forEach_run (returns_widen.mp last)).imp fun ⟨_, ran⟩ =>
        decidePlan_returns ran
      recomputed := rfl }⟩
  · intro id member
    obtain ⟨row, found, listed⟩ := known id member
    exact ⟨row, found, List.mem_eraseDups.mpr (List.mem_append_left _ listed)⟩
  · intro id
    rw [unsettled _ (by decide), before _ (by decide) (by decide), items]
  · intro isOrder
    rcases returns_whenever.mp orders with ⟨-, decided⟩ | ⟨other, -, -⟩
    · obtain ⟨pending, now, orders⟩ := decideOrder_returns (returns_widen.mp decided)
      rw [unmarked _ (by decide)] at pending orders
      exact ⟨pending, now, settledOrders.trans orders⟩
    · exact absurd isOrder other
  · intro other
    rcases returns_whenever.mp orders with ⟨isOrder, -⟩ | ⟨-, -, rfl⟩
    · exact absurd isOrder other
    · rw [settledOrders, unmarked _ (by decide)]
  · rw [before _ (by decide) (by decide), unmarked _ (by decide)]
  · rw [unsettled _ (by decide)]

/-! ## Exceptions of the factories -/

/-- Nothing of an item changed but its date. -/
def Redated (db db' : Database) : Prop :=
  ∀ id, ∃ date : String → String, (db' purchasePlanItems).find? id =
    ((db purchasePlanItems).find? id).map fun row =>
      { row with expectedArrivalDate := date row.expectedArrivalDate }

theorem redated_same (same : db' purchasePlanItems = db purchasePlanItems) : Redated db db' := by
  intro id
  refine ⟨fun given => given, ?_⟩
  rw [same, Option.map_id']

theorem moveProposed_returns {response : FactoryPlanResponse} {u : Unit} {sent : List DomainEvent}
    (returns : (moveProposed response).Returns db u sent db') : Redated db db' := by
  unfold moveProposed at returns
  split at returns
  · obtain ⟨-, -, rfl⟩ := returns_pure.mp returns
    exact redated_same rfl
  · rename_i arrivalDate proposed
    simp only [moveArrival, returns_bind_query, returns_bind_refuseIf,
      returns_updateWhere] at returns
    obtain ⟨-, -, rfl⟩ := returns
    intro id
    cases found : (db purchasePlanItems).find? id with
    | none => exact ⟨fun given => given, by simp [Table.find?_update, found]⟩
    | some row =>
        by_cases own : row.purchasePlanId = response.purchasePlanId ∧
            row.factoryId = response.factoryId
        · exact ⟨fun _ => arrivalDate, by simp [Table.find?_update, found, own]⟩
        · exact ⟨fun given => given, by simp [Table.find?_update, found, own]⟩

theorem applyPlanException_returns {u : Unit} {sent : List DomainEvent}
    (returns : (applyPlanException command approval decision).Returns db u sent db') :
    (∃ planId, Restated planId [.confirmed, .awaitingFactoryConfirmation] db db') ∧
      Redated db db' := by
  simp only [applyPlanException, returns_bind_select, returns_bind_orThrow,
    returns_bind_updateRow] at returns
  obtain ⟨response, found, -, returns⟩ := returns
  rcases returns_ite.mp returns with ⟨-, accepts⟩ | ⟨-, refuses⟩
  · obtain ⟨_, _, moved, _, moves, reopens, rfl⟩ := returns_bind.mp (returns_widen.mp accepts)
    have unmoved := (returns_widen.mp moves).unwritten
    have dated := moveProposed_returns (returns_widen.mp moves)
    obtain ⟨-, rfl⟩ := returns_updateWhere.mp (returns_widen.mp reopens)
    refine ⟨⟨response.purchasePlanId, command.now, .confirmed, by simp, ?_⟩, fun id => ?_⟩
    · rw [Store.put_same, unmoved _ (by decide), Store.put_other _ _ (by decide), Table.update_key]
    · obtain ⟨date, items⟩ := dated id
      refine ⟨date, ?_⟩
      rw [Store.put_other _ _ (by decide), items, Store.put_other _ _ (by decide)]
  · obtain ⟨_, _, reopened, _, reopens, reminds, rfl⟩ := returns_bind.mp (returns_widen.mp refuses)
    obtain ⟨-, rfl⟩ := returns_updateWhere.mp (returns_widen.mp reopens)
    obtain ⟨-, rfl⟩ := returns_insertRow.mp reminds
    refine ⟨⟨response.purchasePlanId, command.now, .awaitingFactoryConfirmation, by simp, ?_⟩, ?_⟩
    · rw [Store.put_other _ _ (by decide), Store.put_same, Store.put_other _ _ (by decide),
        Table.update_key]
    · apply redated_same
      simp

/-- What a committed decision of the exception of an order did: a disputed order
takes a new status. -/
def OrderRestated (id : Nat) (db db' : Database) : Prop :=
  ∃ now, ∃ status ∈ [PurchaseOrderStatus.confirmed, .factoryConfirmation],
    db' purchaseOrders = (db purchaseOrders).update
      (fun key row => key == id && row.status == .disputed)
      fun row => { row with status, updatedAt := now }

theorem applyOrderException_returns {u : Unit} {sent : List DomainEvent}
    (returns : (applyOrderException command approval decision).Returns db u sent db') :
    OrderRestated approval.entityId db db' := by
  unfold applyOrderException at returns
  cases decision with
  | approved =>
      dsimp only at returns
      split at returns
      · obtain ⟨-, rfl⟩ := returns_updateWhere.mp (returns_widen.mp returns)
        exact ⟨command.now, .confirmed, by simp, Store.put_same _ _ _⟩
      · exact (returns_fail.mp returns).elim
  | rejected =>
      obtain ⟨_, _, settled, _, settles, reminds, rfl⟩ := returns_bind.mp returns
      obtain ⟨-, rfl⟩ := returns_updateWhere.mp (returns_widen.mp settles)
      obtain ⟨-, rfl⟩ := returns_insertRow.mp reminds
      refine ⟨command.now, .factoryConfirmation, by simp, ?_⟩
      rw [Store.put_other _ _ (by decide), Store.put_same]

end SupplyChain.PurchasePlans
