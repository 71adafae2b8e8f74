import SupplyChain.PurchaseOrders.Ledger

/-!
The completion of the purchase plans. An item is done when its ordered quantity
is within its tolerance, or when a deviation was approved; the end of ordering
and a late approval mark items as done without looking at the other side.
-/

namespace SupplyChain.PurchaseOrders

open Relational Transaction TableName Supply PurchasePlans Procurement SupplyApprovalEffects

variable {db db' : Database} {event : SupplyEvent} {events : List SupplyEvent}

/-- The rounded deviation of the ordered from the planned quantity. -/
def itemRate (item : PurchasePlanItem) : Int :=
  rateBps item.orderedQuantity item.plannedQuantity

def WithinTolerance (item : PurchasePlanItem) : Prop :=
  -item.underToleranceBps ≤ itemRate item ∧ itemRate item ≤ item.overToleranceBps

/-- The deviations of a request say the current rate of the item. -/
def StatesRate (entries : List JsonValue) (id : Nat) (item : PurchasePlanItem) : Prop :=
  ∃ entry ∈ entries, id ∈ deviatingItems [entry] ∧
    entry.member "rateBps" = some (.number (itemRate item))

/-- A deviation of the item's current ordered quantity was approved. -/
def Covered (db : Database) (id : Nat) (item : PurchasePlanItem) : Prop :=
  ∃ key request entries, (db approvalRequests).find? key = some request ∧
    request.workflowType = .procurement "purchase_plan_deviation" ∧ request.status = .approved ∧
    request.payload = .array entries ∧ StatesRate entries id item

/-- Every item of a complete plan is within its tolerance or covered. -/
def Justified (db : Database) : Prop :=
  ∀ planId plan id item, (db purchasePlans).find? planId = some plan →
    plan.status = .orderedComplete → (db purchasePlanItems).find? id = some item →
    item.purchasePlanId = planId → WithinTolerance item ∨ Covered db id item

/-- The event is the end of ordering of a plan. -/
def Finalizes (event : SupplyEvent) (planId : Nat) : Prop :=
  ∃ command body, supplied event = some ⟨command, .updatePurchasePlan body⟩ ∧
    body.action = .finalizeOrdering ∧ body.id = planId

/-- An item beyond its plan whose current quantity was not approved. -/
def Unapproved (db : Database) (id : Nat) (item : PurchasePlanItem) : Prop :=
  item.completionStatus = .overPlanPending ∨
    (item.overToleranceBps < itemRate item ∧ ¬ Covered db id item)

/-- Ordering ends when no item beyond its plan waits for its approval, and a
deviation is approved when it still says the rates of the items. -/
structure Timely (db : Database) (event : SupplyEvent) : Prop where
  finalize : ∀ planId, Finalizes event planId → ∀ id item,
    (db purchasePlanItems).find? id = some item → item.purchasePlanId = planId →
    item.overToleranceBps < itemRate item → item.completionStatus.done = true
  approve : ∀ request entries,
    decides db event = some ("purchase_plan_deviation", request, .approved) →
    request.payload = .array entries → ∀ id ∈ deviatingItems entries, ∀ item,
    (db purchasePlanItems).find? id = some item → WithinTolerance item ∨ StatesRate entries id item

/-- What holds of the items and the plans in a timely run. -/
structure Kept (db : Database) : Prop where
  done : ∀ id item, (db purchasePlanItems).find? id = some item →
    item.completionStatus.done = true → WithinTolerance item ∨ Covered db id item
  excess : ∀ id item, (db purchasePlanItems).find? id = some item →
    item.completionStatus = .overPlanPending → item.overToleranceBps < itemRate item
  complete : ∀ planId plan, (db purchasePlans).find? planId = some plan →
    plan.status = .orderedComplete → Complete db planId

theorem Kept.justified (kept : Kept db) : Justified db := by
  intro planId plan id item foundPlan status found own
  exact kept.done id item found (kept.complete planId plan foundPlan status id item found own)

theorem Covered.kept {id : Nat} {item new : PurchasePlanItem} (covered : Covered db id item)
    (requests : RequestsKept db db') (same : itemRate new = itemRate item) :
    Covered db' id new := by
  obtain ⟨key, request, entries, found, workflow, approved, payload, entry, listed, named, rate⟩ :=
    covered
  obtain ⟨row, foundRow, -, settled⟩ := requests key request found
  obtain rfl := settled (by rw [approved]; decide)
  exact ⟨key, row, entries, foundRow, workflow, approved, payload, entry, listed, named,
    same ▸ rate⟩

/-! ## Recomputed plans -/

theorem complete_congr (items : db' purchasePlanItems = db purchasePlanItems) {planId : Nat} :
    Complete db' planId ↔ Complete db planId := by
  unfold Complete
  rw [items]

/-- After a run over some plans they are complete only if their items are, when
that held of the others before. -/
theorem recomputed_complete {ids : List Nat} (run : Run Recomputed db ids db')
    (before : ∀ planId plan, planId ∉ ids → (db purchasePlans).find? planId = some plan →
      plan.status = .orderedComplete → Complete db planId) :
    ∀ planId plan, (db' purchasePlans).find? planId = some plan →
      plan.status = .orderedComplete → Complete db' planId := by
  induction run with
  | done => exact fun planId plan => before planId plan List.not_mem_nil
  | @next a mid b id rest first later ih =>
      apply ih
      intro planId plan absent found status
      rw [complete_congr (first.others _ (by decide))]
      obtain ⟨now, given, verdict, plans⟩ := first.plans
      rw [plans] at found
      rcases Table.find?_modify_cases found with ⟨rfl, old, foundOld, rfl⟩ | ⟨other, same⟩
      · rcases verdict with ⟨-, complete⟩ | ⟨rfl, -⟩
        · exact complete
        · cases status
      · exact before planId plan (by simp [other, absent]) same status

/-! ## Allocated items -/

theorem itemRate_allocated {item : PreparedItem} {row : PurchasePlanItem}
    (same : planItemKey row = planItemKey item.planItem) {status : CompletionStatus} :
    itemRate { row with orderedQuantity := item.cumulative, completionStatus := status } =
      item.rate := by
  simp only [planItemKey, Prod.mk.injEq] at same
  simp only [itemRate, PreparedItem.rate, same.2.1]

theorem allocated_status {item : PreparedItem} {row : PurchasePlanItem}
    (same : planItemKey row = planItemKey item.planItem) :
    let new := { row with
      orderedQuantity := item.cumulative, completionStatus := item.completionStatus }
    (new.completionStatus.done = true → WithinTolerance new) ∧
      (new.completionStatus = .overPlanPending → new.overToleranceBps < itemRate new) := by
  intro new
  have rate : itemRate new = item.rate := itemRate_allocated same
  simp only [planItemKey, Prod.mk.injEq] at same
  have overTolerance : new.overToleranceBps = item.planItem.overToleranceBps := same.2.2.1
  have underTolerance : new.underToleranceBps = item.planItem.underToleranceBps := same.2.2.2
  have status : new.completionStatus = item.completionStatus := rfl
  unfold WithinTolerance
  rw [rate, overTolerance, underTolerance, status, PreparedItem.completionStatus]
  by_cases outside : item.outside = true
  · have beyond : item.planItem.overToleranceBps < item.rate := of_decide_eq_true outside
    simp [outside, CompletionStatus.done, beyond]
  · have inside : item.rate ≤ item.planItem.overToleranceBps := by
      simpa [PreparedItem.outside] using outside
    by_cases enough : -item.planItem.underToleranceBps ≤ item.rate
    · simp [outside, enough, inside]
    · simp [outside, enough, CompletionStatus.done]

/-- The status of an item that a line was allocated to is what its rate says. -/
structure Judged (item : PreparedItem) (id : Nat) (new : PurchasePlanItem) : Prop where
  own : item.planItemId = id
  key : planItemKey new = planItemKey item.planItem
  done : new.completionStatus.done = true → WithinTolerance new
  excess : new.completionStatus = .overPlanPending → new.overToleranceBps < itemRate new

/-- An item after the lines of an order is as it was, or it was judged anew. -/
theorem allocated_items {orderId : Nat} {prepared : List PreparedItem}
    (run : Run (Allocated orderId) db prepared db')
    (keys : ∀ item ∈ prepared, ∀ row, (db purchasePlanItems).find? item.planItemId = some row →
      planItemKey row = planItemKey item.planItem) {id : Nat} {new : PurchasePlanItem}
    (found : (db' purchasePlanItems).find? id = some new) :
    (db purchasePlanItems).find? id = some new ∨ ∃ item ∈ prepared, Judged item id new := by
  induction run with
  | done => exact Or.inl found
  | @next a mid b item rest first later ih =>
      have keysRest : ∀ other ∈ rest, ∀ row,
          (mid purchasePlanItems).find? other.planItemId = some row →
          planItemKey row = planItemKey other.planItem := by
        intro other member row foundRow
        rw [first.planItems] at foundRow
        rcases Table.find?_modify_cases foundRow with ⟨same, old, foundOld, rfl⟩ | ⟨-, same⟩
        · exact keys other (List.mem_cons_of_mem _ member) old (same ▸ foundOld)
        · exact keys other (List.mem_cons_of_mem _ member) row same
      rcases ih keysRest found with before | ⟨other, member, judged⟩
      · rw [first.planItems] at before
        rcases Table.find?_modify_cases before with ⟨rfl, old, foundOld, rfl⟩ | ⟨-, same⟩
        · have key := keys item List.mem_cons_self old foundOld
          obtain ⟨done, excess⟩ := allocated_status key
          exact Or.inr ⟨item, List.mem_cons_self, rfl, key, done, excess⟩
        · exact Or.inl same
      · exact Or.inr ⟨other, List.mem_cons_of_mem _ member, judged⟩

theorem OrderCreated.kept {command : SupplyContext} {body : CreatePurchaseOrder}
    {prepared : List PreparedItem} {order : PurchaseOrder} {allocated settled : Database}
    (created : OrderCreated command body prepared order db allocated settled db')
    (requests : RequestsKept db db') (kept : Kept db) : Kept db' := by
  have items : db' purchasePlanItems = allocated purchasePlanItems := by
    rw [created.others _ (by decide) (by decide) (by decide),
      (recomputed_kept created.settles).2 _ (by decide)]
  have origin : ∀ id new, (db' purchasePlanItems).find? id = some new →
      (db purchasePlanItems).find? id = some new ∨ ∃ item ∈ prepared, Judged item id new := by
    intro id new found
    rw [items] at found
    have opened : Store.put db purchaseOrders ((db purchaseOrders).insert order)
        purchasePlanItems = db purchasePlanItems := Store.put_other _ _ (by decide)
    rw [← opened]
    apply allocated_items created.allocates _ found
    intro item member row foundRow
    rw [opened, (created.checked item member).foundItem] at foundRow
    cases foundRow
    rfl
  constructor
  · intro id new found done
    rcases origin id new found with same | ⟨item, member, judged⟩
    · exact (kept.done id new same done).imp_right fun covered => covered.kept requests rfl
    · exact Or.inl (judged.done done)
  · intro id new found pending
    rcases origin id new found with same | ⟨item, member, judged⟩
    · exact kept.excess id new same pending
    · exact judged.excess pending
  · intro planId plan found status
    rw [created.others _ (by decide) (by decide) (by decide)] at found
    have complete := recomputed_complete created.settles (fun other row absent foundRow isComplete => by
      rw [(allocated_kept created.allocates).2.2 _ (by decide) (by decide) (by decide),
        Store.put_other _ _ (by decide)] at foundRow
      intro id new foundNew own
      rw [← items] at foundNew
      rcases origin id new foundNew with same | ⟨item, member, judged⟩
      · exact kept.complete other row foundRow isComplete id new same own
      · -- the plan of a line is one of those that are recomputed
        obtain ⟨affected, listed, plan⟩ := mem_affectedPlans member
        have key := judged.key
        simp only [planItemKey, Prod.mk.injEq] at key
        refine absurd ?_ absent
        rw [← own, key.1.1, ← plan]
        exact List.mem_map.mpr ⟨affected, listed, rfl⟩) planId plan found status
    exact (complete_congr (created.others _ (by decide) (by decide) (by decide))).mpr complete

/-! ## The end of ordering -/

theorem finalizedItem_rate (item : PurchasePlanItem) :
    itemRate (finalizedItem item) = itemRate item := rfl

theorem underPlan_eq_false {item : PurchasePlanItem} :
    underPlan item = false ↔ -item.underToleranceBps ≤ itemRate item := by
  simp [underPlan, itemRate]

theorem finalizedItem_done {item : PurchasePlanItem} :
    (finalizedItem item).completionStatus.done = true ↔ underPlan item = false := by
  unfold finalizedItem
  cases under : underPlan item <;> simp [CompletionStatus.done]

theorem kept_of_finalized {command : SupplyContext} {planId : Nat}
    (finalized : Finalized command planId db db')
    (timely : ∀ id item, (db purchasePlanItems).find? id = some item →
      item.purchasePlanId = planId → item.overToleranceBps < itemRate item →
      item.completionStatus.done = true)
    (requests : RequestsKept db db') (kept : Kept db) : Kept db' := by
  have origin : ∀ id new, (db' purchasePlanItems).find? id = some new →
      ∃ item, (db purchasePlanItems).find? id = some item ∧
        ((item.purchasePlanId = planId ∧ new = finalizedItem item) ∨
          (item.purchasePlanId ≠ planId ∧ new = item)) := by
    intro id new found
    rw [finalized.items, Option.map_eq_some_iff] at found
    obtain ⟨item, foundItem, rfl⟩ := found
    refine ⟨item, foundItem, ?_⟩
    by_cases own : item.purchasePlanId = planId
    · exact Or.inl ⟨own, if_pos own⟩
    · exact Or.inr ⟨own, if_neg own⟩
  constructor
  · intro id new found done
    obtain ⟨item, foundItem, ⟨own, rfl⟩ | ⟨-, rfl⟩⟩ := origin id new found
    · have enough := underPlan_eq_false.mp (finalizedItem_done.mp done)
      by_cases beyond : item.overToleranceBps < itemRate item
      · -- an item beyond its plan was done before
        have before := timely id item foundItem own beyond
        rcases kept.done id item foundItem before with within | covered
        · exact Or.inl within
        · exact Or.inr (covered.kept requests (finalizedItem_rate item))
      · exact Or.inl ⟨enough, Int.not_lt.mp beyond⟩
    · exact (kept.done id new foundItem done).imp_right fun covered => covered.kept requests rfl
  · intro id new found pending
    obtain ⟨item, foundItem, ⟨-, rfl⟩ | ⟨-, rfl⟩⟩ := origin id new found
    · unfold finalizedItem at pending
      dsimp only at pending
      split at pending <;> cases pending
    · exact kept.excess id new foundItem pending
  · intro other plan found status id new foundNew own
    obtain ⟨now, given, verdict, plans⟩ := finalized.plans
    obtain ⟨item, foundItem, cause⟩ := origin id new foundNew
    rw [plans] at found
    rcases Table.find?_modify_cases found with ⟨rfl, old, foundOld, rfl⟩ | ⟨differs, same⟩
    · rcases verdict with ⟨-, none⟩ | ⟨rfl, -⟩
      · rcases cause with ⟨belongs, rfl⟩ | ⟨foreign, rfl⟩
        · rw [finalizedItem_done]
          by_contra under
          have listed : (id, item) ∈ (planItems db other).filter fun item => underPlan item.2 := by
            rw [List.mem_filter]
            refine ⟨Table.mem_select.mpr ⟨foundItem, beq_iff_eq.mpr belongs⟩, ?_⟩
            simpa using under
          rw [List.map_eq_nil_iff.mp none] at listed
          cases listed
        · exact absurd own foreign
      · cases status
    · rcases cause with ⟨belongs, rfl⟩ | ⟨-, rfl⟩
      · exact absurd (own.symm.trans belongs) differs
      · exact kept.complete other plan same status id new foundItem own

theorem Kept.approved (kept : Kept db) {id : Nat} {item : PurchasePlanItem}
    (found : (db purchasePlanItems).find? id = some item)
    (timely : item.overToleranceBps < itemRate item → item.completionStatus.done = true) :
    ¬ Unapproved db id item := by
  rintro (pending | ⟨beyond, uncovered⟩)
  · have done := timely (kept.excess id item found pending)
    rw [pending] at done
    cases done
  · rcases kept.done id item found (timely beyond) with within | covered
    · exact absurd within.2 (Int.not_le.mpr beyond)
    · exact uncovered covered

/-! ## Decisions -/

theorem kept_of_deviated {approval : ApprovalRequest} {decision : Decision} {entries : List JsonValue}
    {ids : List Nat} {mid last : Database} {key : Nat}
    (deviated : Deviated approval decision entries ids mid last db db')
    (requested : (db approvalRequests).find? key = some approval)
    (workflow : approval.workflowType = .procurement "purchase_plan_deviation")
    (settled : ∃ row, (db' approvalRequests).find? key = some row ∧ row.status = decision.status)
    (timely : decision = .approved → ∀ id ∈ deviatingItems entries, ∀ item,
      (db purchasePlanItems).find? id = some item → WithinTolerance item ∨ StatesRate entries id item)
    (requests : RequestsKept db db') (kept : Kept db) : Kept db' := by
  have origin : ∀ id new, (db' purchasePlanItems).find? id = some new →
      ∃ item, (db purchasePlanItems).find? id = some item ∧
        new = deviatedItem decision (deviatingItems entries) id item := by
    intro id new found
    rw [deviated.items, Option.map_eq_some_iff] at found
    obtain ⟨item, foundItem, rfl⟩ := found
    exact ⟨item, foundItem, rfl⟩
  constructor
  · intro id new found done
    obtain ⟨item, foundItem, rfl⟩ := origin id new found
    by_cases named : decision = .approved ∧ id ∈ deviatingItems entries
    · have marked : deviatedItem decision (deviatingItems entries) id item =
          { item with completionStatus := .exceptionApproved } := if_pos named
      rw [marked]
      refine (timely named.1 id named.2 item foundItem).imp_right fun states => ?_
      obtain ⟨row, foundRow, status⟩ := settled
      obtain ⟨other, foundOther, same, -⟩ := requests key approval requested
      obtain rfl := Option.some.inj (foundRow.symm.trans foundOther)
      simp only [requestKey, Prod.mk.injEq] at same
      rw [named.1] at status
      exact ⟨key, row, entries, foundRow, same.1.trans workflow, status,
        same.2.2.2.trans deviated.payload, states⟩
    · have same : deviatedItem decision (deviatingItems entries) id item = item := if_neg named
      rw [same] at done ⊢
      exact (kept.done id item foundItem done).imp_right fun covered => covered.kept requests rfl
  · intro id new found pending
    obtain ⟨item, foundItem, rfl⟩ := origin id new found
    unfold deviatedItem at pending ⊢
    split at pending
    · cases pending
    · rename_i unnamed
      rw [if_neg unnamed]
      exact kept.excess id item foundItem pending
  · intro planId plan found status
    rw [deviated.recomputed] at found
    have complete := recomputed_complete deviated.recomputes (fun other row absent foundRow isComplete => by
      rw [deviated.plans] at foundRow
      intro id new foundNew own
      rw [deviated.marked] at foundNew
      obtain ⟨item, foundItem, rfl⟩ := origin id new foundNew
      rw [deviatedItem_plan] at own
      have done := kept.complete other row foundRow isComplete id item foundItem own
      unfold deviatedItem
      split
      · rfl
      · exact done) planId plan found status
    rw [complete_congr ((recomputed_kept deviated.recomputes).2 _ (by decide))] at complete
    exact (complete_congr deviated.marked.symm).mpr complete

/-- Items that keep their rate and status, beside plans of which none is newly
complete, are kept. -/
theorem Kept.of_same (kept : Kept db) (requests : RequestsKept db db')
    (items : ∀ id new, (db' purchasePlanItems).find? id = some new →
      (∃ item, (db purchasePlanItems).find? id = some item ∧
        planItemKey new = planItemKey item ∧ new.orderedQuantity = item.orderedQuantity ∧
        new.completionStatus = item.completionStatus) ∨
      (new.completionStatus = .notOrdered ∧ (db purchasePlans).find? new.purchasePlanId = none))
    (plans : ∀ planId new, (db' purchasePlans).find? planId = some new →
      new.status = .orderedComplete →
      ∃ plan, (db purchasePlans).find? planId = some plan ∧ plan.status = .orderedComplete) :
    Kept db' := by
  constructor
  · intro id new found done
    rcases items id new found with ⟨item, foundItem, key, ordered, status⟩ | ⟨status, -⟩
    · simp only [planItemKey, Prod.mk.injEq] at key
      have rate : itemRate new = itemRate item := by
        simp only [itemRate, ordered, key.2.1]
      rw [status] at done
      refine (kept.done id item foundItem done).imp (fun within => ?_) fun covered =>
        covered.kept requests rate
      unfold WithinTolerance
      rw [rate, key.2.2.1, key.2.2.2]
      exact within
    · rw [status] at done
      cases done
  · intro id new found pending
    rcases items id new found with ⟨item, foundItem, key, ordered, status⟩ | ⟨status, -⟩
    · simp only [planItemKey, Prod.mk.injEq] at key
      have rate : itemRate new = itemRate item := by
        simp only [itemRate, ordered, key.2.1]
      rw [rate, key.2.2.1]
      exact kept.excess id item foundItem (status ▸ pending)
    · rw [status] at pending
      cases pending
  · intro planId new found status id row foundRow own
    obtain ⟨plan, foundPlan, complete⟩ := plans planId new found status
    rcases items id row foundRow with ⟨item, foundItem, key, -, same⟩ | ⟨-, unknown⟩
    · simp only [planItemKey, Prod.mk.injEq] at key
      rw [same]
      exact kept.complete planId plan foundPlan complete id item foundItem
        (key.1.1.symm.trans own)
    · rw [own, foundPlan] at unknown
      cases unknown

/-! ## Steps -/

theorem restated_complete {planId : Nat} {statuses : List PurchasePlanStatus}
    (restated : Restated planId statuses db db') (unlisted : .orderedComplete ∉ statuses) {id : Nat}
    {new : PurchasePlan} (found : (db' purchasePlans).find? id = some new)
    (complete : new.status = .orderedComplete) :
    ∃ plan, (db purchasePlans).find? id = some plan ∧ plan.status = .orderedComplete := by
  obtain ⟨now, status, listed, plans⟩ := restated
  rw [plans] at found
  rcases Table.find?_modify_cases found with ⟨-, old, foundOld, rfl⟩ | ⟨-, same⟩
  · dsimp only at complete
    exact absurd (complete ▸ listed) unlisted
  · exact ⟨new, same, complete⟩

theorem Ordered.kept (ordered : Ordered db event db') (timely : Timely db event)
    (requests : RequestsKept db db') (kept : Kept db) : Kept db' := by
  have sameItems : db' purchasePlanItems = db purchasePlanItems →
      ∀ id new, (db' purchasePlanItems).find? id = some new →
      (∃ item, (db purchasePlanItems).find? id = some item ∧
        planItemKey new = planItemKey item ∧ new.orderedQuantity = item.orderedQuantity ∧
        new.completionStatus = item.completionStatus) ∨
      (new.completionStatus = .notOrdered ∧ (db purchasePlans).find? new.purchasePlanId = none) := by
    intro equal id new found
    exact Or.inl ⟨new, equal ▸ found, rfl, rfl, rfl⟩
  have samePlans : db' purchasePlans = db purchasePlans →
      ∀ planId new, (db' purchasePlans).find? planId = some new → new.status = .orderedComplete →
      ∃ plan, (db purchasePlans).find? planId = some plan ∧ plan.status = .orderedComplete := by
    intro equal planId new found complete
    exact ⟨new, equal ▸ found, complete⟩
  cases ordered with
  | planCreated supply undecided created others =>
      refine kept.of_same requests (fun id new found => ?_) fun planId new found complete => ?_
      · rcases created.planItems.2 id new found with old | unordered
        · exact Or.inl ⟨new, old, rfl, rfl, rfl⟩
        · refine Or.inr ⟨unordered.status, ?_⟩
          rw [unordered.plan, Table.find?_nextId]
      · rw [created.plans] at found
        rcases Table.find?_insert_cases found with ⟨-, rfl⟩ | old
        · rcases created.status with other | other <;> rw [complete] at other <;> cases other
        · exact ⟨new, old, complete⟩
  | @planUpdated command body supply undecided updated others =>
      cases updated with
      | finalized action finalized =>
          apply kept_of_finalized finalized _ requests kept
          exact timely.finalize body.id ⟨command, body, supply, action, rfl⟩
      | answered action answered =>
          refine kept.of_same requests (sameItems answered.items) fun planId new found complete => ?_
          obtain ⟨now, status, given, plans⟩ := answered.plans
          apply restated_complete ⟨now, status, _, plans⟩ _ found complete
          · exact [.confirmed, .disputed]
          · simpa using given
          · simp
  | orderCreated supply undecided created => exact created.kept requests kept
  | orderAnswered supply undecided answered =>
      exact kept.of_same requests (sameItems (answered.others _ (by decide) (by decide) (by decide)))
        (samePlans (answered.others _ (by decide) (by decide) (by decide)))
  | planVersioned notSupplied verdict restated others =>
      refine kept.of_same requests (sameItems (others _ (by decide) (by decide))) ?_
      exact fun planId new found complete => restated_complete restated (by decide) found complete
  | deviated notSupplied verdict requested pending workflow settled deviated others =>
      apply kept_of_deviated deviated requested workflow settled _ requests kept
      rintro rfl id named item found
      exact timely.approve _ _ verdict deviated.payload id named item found
  | planExcepted notSupplied verdict restated redated others =>
      refine kept.of_same requests (fun id new found => ?_) fun planId new found complete =>
        restated_complete restated (by decide) found complete
      obtain ⟨date, items⟩ := redated id
      rw [items, Option.map_eq_some_iff] at found
      obtain ⟨item, foundItem, rfl⟩ := found
      exact Or.inl ⟨item, foundItem, rfl, rfl, rfl⟩
  | orderExcepted notSupplied verdict restated others =>
      exact kept.of_same requests (sameItems (others _ (by decide) (by decide)))
        (samePlans (others _ (by decide) (by decide)))
  | elsewhere notOrdered notUpdated undecided items others =>
      exact kept.of_same requests (sameItems (others _ (by decide) (by decide)))
        (samePlans (others _ (by decide) (by decide)))

theorem step_kept (step : SupplyStep db event db') (timely : Timely db event) (kept : Kept db) :
    Kept db' := by
  obtain ⟨mid, work, apart⟩ := step.works
  have worked := (touched_ordered (work_touched work)).kept timely (work_requestsKept work) kept
  refine (ordered_of_apart apart).kept ⟨?_, ?_⟩ (requestsKept_same (apart _ (by decide))) worked
  · rintro planId ⟨command, body, supply, -, -⟩
    cases supply
  · intro request entries verdict
    cases verdict

theorem NothingOrdered.kept (opening : NothingOrdered db)
    (unplanned : ∀ id, (db purchasePlans).find? id = none) : Kept db where
  done id item found := by simp [opening.items] at found
  excess id item found := by simp [opening.items] at found
  complete planId plan found := by simp [unplanned] at found

/-- The supply chain ends the ordering of the plan. -/
def finalizes (time expectedUpdatedAt : Nat) : Act :=
  .supply (supplyAt time
    { userId := 1, sessionId := some 1, roles := [.supplyChain], factoryId := none
      supplierId := none }
    (.updatePurchasePlan { id := 1, expectedUpdatedAt, action := .finalizeOrdering }))

end SupplyChain.PurchaseOrders
