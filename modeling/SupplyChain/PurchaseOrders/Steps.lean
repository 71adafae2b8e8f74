import SupplyChain.PurchasePlans.Decisions

/-!
What every step of the procurement system does to the purchase plans, the
purchase orders and the allocations between them.
-/

namespace SupplyChain.PurchaseOrders

open Relational Transaction TableName Supply PurchasePlans Procurement SupplyApprovalEffects

variable {db db' mid after : Database} {event : SupplyEvent} {approval claimed : ApprovalRequest}
  {decision : Decision}

/-! ## A decision seen from outside -/

theorem restated_congr {planId : Nat} {statuses : List PurchasePlanStatus}
    (restated : Restated planId statuses mid after)
    (before : mid purchasePlans = db purchasePlans) (last : db' purchasePlans = after purchasePlans) :
    Restated planId statuses db db' := by
  obtain ⟨now, status, listed, plans⟩ := restated
  exact ⟨now, status, listed, by rw [last, plans, before]⟩

theorem redated_congr (redated : Redated mid after)
    (before : mid purchasePlanItems = db purchasePlanItems)
    (last : db' purchasePlanItems = after purchasePlanItems) : Redated db db' := by
  intro id
  obtain ⟨date, items⟩ := redated id
  exact ⟨date, by rw [last, items, before]⟩

theorem orderRestated_congr {id : Nat} (restated : OrderRestated id mid after)
    (before : mid purchaseOrders = db purchaseOrders)
    (last : db' purchaseOrders = after purchaseOrders) : OrderRestated id db db' := by
  obtain ⟨now, status, listed, orders⟩ := restated
  exact ⟨now, status, listed, by rw [last, orders, before]⟩

theorem deviated_congr {entries : List JsonValue} {ids : List Nat} {marked final : Database}
    (deviated : Deviated claimed decision entries ids marked final mid after)
    (same : claimed.entityType = approval.entityType ∧ claimed.entityId = approval.entityId ∧
      claimed.payload = approval.payload)
    (before : ∀ t ∈ plannedTables, mid t = db t) (last : ∀ t ∈ plannedTables, db' t = after t) :
    Deviated approval decision entries ids marked final db db' := by
  have items := before purchasePlanItems (by decide)
  have orders := before purchaseOrders (by decide)
  have itemsLast := last purchasePlanItems (by decide)
  have ordersLast := last purchaseOrders (by decide)
  obtain ⟨entityType, entityId, payload⟩ := same
  refine
    { payload := payload ▸ deviated.payload
      known := items ▸ deviated.known
      items := fun id => ?_
      ordered := fun isOrder => ?_
      unordered := fun other => ?_
      plans := deviated.plans.trans (before _ (by decide))
      marked := deviated.marked.trans itemsLast.symm
      recomputes := deviated.recomputes
      recomputed := (last _ (by decide)).trans deviated.recomputed }
  · rw [itemsLast, deviated.items, items]
  · obtain ⟨pending, now, decided⟩ := deviated.ordered (entityType.trans isOrder)
    rw [entityId, orders] at pending decided
    exact ⟨pending, now, ordersLast.trans decided⟩
  · rw [ordersLast, deviated.unordered (fun isOrder => other (entityType.symm.trans isOrder)), orders]

/-! ## Steps -/

def orderTables : List TableName :=
  [purchasePlans, purchasePlanItems, purchaseOrders, orderItems, purchasePlanOrderLinks]

/-- Of the plans, the orders and their allocations nothing else changed. -/
def OnlyTouched (touched : List TableName) (db db' : Database) : Prop :=
  ∀ t ∈ orderTables, t ∉ touched → db' t = db t

/-- What a step does to the plans, the orders and their allocations. -/
inductive Ordered (db : Database) (event : SupplyEvent) (db' : Database) : Prop
  | planCreated {command : SupplyContext} {body : CreatePurchasePlan} {plan : PurchasePlan}
      (supply : supplied event = some ⟨command, .createPurchasePlan body⟩)
      (undecided : decides db event = none) (created : PlanCreated body plan db db')
      (others : OnlyTouched [purchasePlans, purchasePlanItems] db db')
  | planUpdated {command : SupplyContext} {body : UpdatePurchasePlan}
      (supply : supplied event = some ⟨command, .updatePurchasePlan body⟩)
      (undecided : decides db event = none) (updated : PlanUpdated command body db db')
      (others : OnlyTouched [purchasePlans, purchasePlanItems] db db')
  | orderCreated {command : SupplyContext} {body : CreatePurchaseOrder}
      {prepared : List PreparedItem} {order : PurchaseOrder} {allocated settled : Database}
      (supply : supplied event = some ⟨command, .createPurchaseOrder body⟩)
      (undecided : decides db event = none)
      (created : OrderCreated command body prepared order db allocated settled db')
  | orderAnswered {command : SupplyContext} {body : UpdatePurchaseOrder}
      (supply : supplied event = some ⟨command, .updatePurchaseOrder body⟩)
      (undecided : decides db event = none) (answered : OrderAnswered body.id db db')
  | planVersioned {approval : ApprovalRequest} {decision : Decision} (notSupplied : supplied event = none)
      (verdict : decides db event = some ("purchase_plan_version", approval, decision))
      (restated : Restated approval.entityId [.awaitingFactoryConfirmation, .draft] db db')
      (others : OnlyTouched [purchasePlans] db db')
  | deviated {approval : ApprovalRequest} {decision : Decision} {entries : List JsonValue}
      {ids : List Nat} {mid last : Database} {id : Nat} (notSupplied : supplied event = none)
      (verdict : decides db event = some ("purchase_plan_deviation", approval, decision))
      (requested : (db approvalRequests).find? id = some approval)
      (pending : approval.status = .pending)
      (workflow : approval.workflowType = .procurement "purchase_plan_deviation")
      (settled : ∃ row, (db' approvalRequests).find? id = some row ∧ row.status = decision.status)
      (deviated : Deviated approval decision entries ids mid last db db')
      (others : OnlyTouched [purchasePlans, purchasePlanItems, purchaseOrders] db db')
  | planExcepted {approval : ApprovalRequest} {decision : Decision} {planId : Nat}
      (notSupplied : supplied event = none)
      (verdict : decides db event = some ("purchase_plan_factory_exception", approval, decision))
      (restated : Restated planId [.confirmed, .awaitingFactoryConfirmation] db db')
      (redated : Redated db db') (others : OnlyTouched [purchasePlans, purchasePlanItems] db db')
  | orderExcepted {approval : ApprovalRequest} {decision : Decision}
      (notSupplied : supplied event = none)
      (verdict : decides db event = some ("purchase_order_factory_exception", approval, decision))
      (restated : OrderRestated approval.entityId db db')
      (others : OnlyTouched [purchaseOrders] db db')
  | elsewhere (notOrdered : ∀ command body, supplied event ≠ some ⟨command, .createPurchaseOrder body⟩)
      (notUpdated : ∀ command body, supplied event ≠ some ⟨command, .updatePurchasePlan body⟩)
      (undecided : ∀ approval decision,
        decides db event ≠ some ("purchase_plan_deviation", approval, decision))
      (items : (Law.revises itemKey).allows (db orderItems) (db' orderItems))
      (others : OnlyTouched [orderItems] db db')

theorem onlyTouched_unwritten {writes touched : List TableName}
    (unwritten : ∀ t, t ∉ writes → db' t = db t)
    (listed : ∀ t ∈ orderTables, t ∈ writes → t ∈ touched) : OnlyTouched touched db db' :=
  fun t member untouched => unwritten t fun written => untouched (listed t member written)

theorem onlyTouched_between {touched : List TableName} (only : OnlyTouched touched mid after)
    (before : ∀ t, t ≠ approvalRequests → t ≠ authChallenges → mid t = db t)
    (last : ∀ t, t ≠ procurementVersions → db' t = after t) : OnlyTouched touched db db' := by
  intro t member untouched
  have named : t ≠ approvalRequests ∧ t ≠ authChallenges ∧ t ≠ procurementVersions := by
    simp only [orderTables, List.mem_cons, List.not_mem_nil, or_false] at member
    rcases member with rfl | rfl | rfl | rfl | rfl <;> decide
  rw [last t named.2.2, only t member untouched, before t named.1 named.2.1]

theorem applied_itemsKept {command : CommandContext} {body : Approvals.DecideApproval}
    {name : String} (applied : Applied command body name approval db db') :
    db' orderItems = db orderItems := by
  obtain ⟨claimed, mid, after, same, before, ran, last⟩ := applied.effect
  have kept : after orderItems = mid orderItems := by
    cases ran with
    | unknown other same => rw [same]
    | _ =>
        rename_i returns
        exact returns.unwritten _ (by decide)
  rw [last _ (by decide), kept, before _ (by decide) (by decide)]

theorem applied_ordered {command : CommandContext} {body : Approvals.DecideApproval} {name : String}
    (applied : Applied command body name approval db db') :
    Ordered db (.operations (.command ⟨command, .decideApproval body⟩)) db' := by
  have verdict := applied.decides
  obtain ⟨claimed, mid, after, same, before, ran, last⟩ := applied.effect
  have first := planned_before before
  have final := planned_last last
  have items : (Law.revises itemKey).allows (db orderItems) (db' orderItems) := by
    rw [applied_itemsKept applied]
    exact (Law.revises itemKey).refl _
  cases ran with
  | planVersion returns =>
      refine Ordered.planVersioned rfl verdict ?_ ?_
      · rw [← same.2.1]
        exact restated_congr (applyPlanVersion_returns returns) (first _ (by decide))
          (final _ (by decide))
      · exact onlyTouched_between
          (onlyTouched_unwritten returns.unwritten (by decide)) before last
  | planDeviation returns =>
      obtain ⟨entries, ids, marked, deviated⟩ := applyPlanDeviation_returns returns
      obtain ⟨change, modified, settles⟩ := applied.decided
      refine Ordered.deviated rfl verdict applied.found applied.pending applied.workflow
        ⟨change approval, ?_, (settles approval).1⟩ (deviated_congr deviated same first final) ?_
      · rw [modified]
        exact Table.find?_modify_self _ applied.found
      · exact onlyTouched_between
          (onlyTouched_unwritten returns.unwritten (by decide)) before last
  | planException returns =>
      obtain ⟨⟨planId, restated⟩, redated⟩ := applyPlanException_returns returns
      refine Ordered.planExcepted rfl verdict
        (restated_congr restated (first _ (by decide)) (final _ (by decide)))
        (redated_congr redated (first _ (by decide)) (final _ (by decide))) ?_
      exact onlyTouched_between
        (onlyTouched_unwritten returns.unwritten (by decide)) before last
  | orderException returns =>
      refine Ordered.orderExcepted rfl verdict ?_ ?_
      · rw [← same.2.1]
        exact orderRestated_congr (applyOrderException_returns returns) (first _ (by decide))
          (final _ (by decide))
      · exact onlyTouched_between
          (onlyTouched_unwritten returns.unwritten (by decide)) before last
  | unknown other same =>
      subst same
      refine Ordered.elsewhere (by simp [supplied]) (by simp [supplied]) ?_ items ?_
      · intro approval decision named
        rw [verdict] at named
        cases named
        exact other (by decide)
      · exact onlyTouched_between (fun _ _ _ => rfl) before last
  | _ =>
      rename_i returns
      refine Ordered.elsewhere (by simp [supplied]) (by simp [supplied]) (by simp [verdict]) items ?_
      exact onlyTouched_between
        (onlyTouched_unwritten returns.unwritten (by decide)) before last

theorem touched_ordered (touched : Touched db event db') : Ordered db event db' := by
  cases touched with
  | @supply _ request reply sent returns =>
      obtain ⟨command, body⟩ := request
      unfold runSupply at returns
      cases body with
      | createPurchasePlan body =>
          have ran := returns_widen.mp returns
          obtain ⟨plan, created⟩ := createPurchasePlan_returns ran
          exact Ordered.planCreated rfl rfl created (onlyTouched_unwritten ran.unwritten (by decide))
      | updatePurchasePlan body =>
          have ran := returns_widen.mp returns
          exact Ordered.planUpdated rfl rfl (updatePurchasePlan_returns ran)
            (onlyTouched_unwritten ran.unwritten (by decide))
      | createPurchaseOrder body =>
          obtain ⟨prepared, order, allocated, settled, created⟩ :=
            createPurchaseOrder_returns (returns_widen.mp returns)
          exact Ordered.orderCreated rfl rfl created
      | updatePurchaseOrder body =>
          exact Ordered.orderAnswered rfl rfl (updatePurchaseOrder_returns (returns_widen.mp returns))
      | _ =>
          have unwritten := (returns_widen.mp returns).unwritten
          refine Ordered.elsewhere (by simp [supplied]) (by simp [supplied]) (by simp [decides]) ?_
            (onlyTouched_unwritten unwritten (by decide))
          rw [unwritten orderItems (by decide)]
          exact (Law.revises itemKey).refl _
  | applied applied => exact applied_ordered applied
  | apart notSupplied undecided own items =>
      refine Ordered.elsewhere (by simp [notSupplied]) (by simp [notSupplied]) (by simp [undecided])
        items fun t member untouched => own t ?_
      simp only [orderTables, List.mem_cons, List.not_mem_nil, or_false] at member untouched
      rcases member with rfl | rfl | rfl | rfl | rfl
      · decide
      · decide
      · decide
      · exact absurd rfl untouched
      · decide

/-! ## What no step changes -/

/-- What nothing changes of a plan. -/
def planKey (plan : PurchasePlan) : String × Int := (plan.planNo, plan.version)

/-- What nothing changes of a plan item. -/
def planItemKey (item : PurchasePlanItem) :
    (Nat × Nat × Nat × String × Nat) × (Int × Int × Int) :=
  ((item.purchasePlanId, item.factoryId, item.warehouseId, item.sku, item.bomId),
    (item.plannedQuantity, item.overToleranceBps, item.underToleranceBps))

theorem Recomputed.plansKept {planId : Nat} (recomputed : Recomputed db planId db') :
    (Law.retains planKey).allows (db purchasePlans) (db' purchasePlans) := by
  obtain ⟨now, status, -, plans⟩ := recomputed.plans
  rw [plans]
  exact Law.retains_update _ fun _ => rfl

theorem recomputed_kept {ids : List Nat} (run : Run Recomputed db ids db') :
    (Law.retains planKey).allows (db purchasePlans) (db' purchasePlans) ∧
      ∀ t, t ≠ purchasePlans → db' t = db t := by
  constructor
  · exact (Law.through (fun db : Database => db purchasePlans) (Law.retains planKey)).over run
      fun recomputed => recomputed.plansKept
  · intro t other
    exact (Law.fixes fun db : Database => db t).over run fun recomputed => recomputed.others t other

theorem allocated_kept {orderId : Nat} {prepared : List PreparedItem}
    (run : Run (Allocated orderId) db prepared db') :
    (Law.retains planItemKey).allows (db purchasePlanItems) (db' purchasePlanItems) ∧
      (Law.gains fun item => item.purchaseOrderId = orderId).allows
        (db orderItems) (db' orderItems) ∧
      ∀ t, t ≠ orderItems → t ≠ purchasePlanOrderLinks → t ≠ purchasePlanItems →
        db' t = db t := by
  refine ⟨?_, ?_, fun t notItems notLinks notPlans => ?_⟩
  · apply (Law.through (fun db : Database => db purchasePlanItems) (Law.retains planItemKey)).over run
    intro a item b allocated
    dsimp only [Law.through]
    rw [allocated.planItems]
    exact Law.retains_update _ fun _ => rfl
  · apply (Law.through (fun db : Database => db orderItems) (Law.gains _)).over run
    intro a item b allocated
    dsimp only [Law.through]
    rw [allocated.orderItems]
    exact Law.gains_insert _ rfl
  · exact (Law.fixes fun db : Database => db t).over run fun allocated =>
      allocated.others t notItems notLinks notPlans

theorem allocated_links {orderId : Nat} {prepared : List PreparedItem}
    (run : Run (Allocated orderId) db prepared db') {id : Nat} {link : PurchasePlanOrderLink}
    (found : (db' purchasePlanOrderLinks).find? id = some link) :
    (db purchasePlanOrderLinks).find? id = some link ∨
      ∃ item ∈ prepared, link.purchasePlanItemId = item.planItemId ∧
        link.allocatedQuantity = item.quantity := by
  induction run with
  | done => exact Or.inl found
  | next first later ih =>
      rcases ih found with old | ⟨item, member, same⟩
      · rw [first.links] at old
        rcases Table.find?_insert_cases old with ⟨-, rfl⟩ | older
        · exact Or.inr ⟨_, List.mem_cons_self, rfl, rfl⟩
        · exact Or.inl older
      · exact Or.inr ⟨item, List.mem_cons_of_mem _ member, same⟩

theorem restated_kept {planId : Nat} {statuses : List PurchasePlanStatus}
    (restated : Restated planId statuses db db') :
    (Law.retains planKey).allows (db purchasePlans) (db' purchasePlans) := by
  obtain ⟨now, status, -, plans⟩ := restated
  rw [plans]
  exact Law.retains_update _ fun _ => rfl

/-- No step loses a plan, or changes its number or its version. -/
theorem Ordered.plansKept (ordered : Ordered db event db') :
    (Law.retains planKey).allows (db purchasePlans) (db' purchasePlans) := by
  have same : db' purchasePlans = db purchasePlans →
      (Law.retains planKey).allows (db purchasePlans) (db' purchasePlans) := by
    intro equal
    rw [equal]
    exact (Law.retains planKey).refl _
  cases ordered with
  | planCreated supply undecided created others =>
      rw [created.plans]
      exact Law.retains_insert _ _
  | planUpdated supply undecided updated others =>
      cases updated with
      | finalized action finalized =>
          obtain ⟨now, status, -, plans⟩ := finalized.plans
          rw [plans]
          exact Law.retains_update _ fun _ => rfl
      | answered action answered =>
          obtain ⟨now, status, -, plans⟩ := answered.plans
          rw [plans]
          exact Law.retains_update _ fun _ => rfl
  | orderCreated supply undecided created =>
      have settled := (recomputed_kept created.settles).1
      rw [created.others _ (by decide) (by decide) (by decide)]
      rw [(allocated_kept created.allocates).2.2 _ (by decide) (by decide) (by decide),
        Store.put_other _ _ (by decide)] at settled
      exact settled
  | orderAnswered supply undecided answered =>
      exact same (answered.others _ (by decide) (by decide) (by decide))
  | planVersioned notSupplied verdict restated others => exact restated_kept restated
  | deviated notSupplied verdict requested pending workflow settled deviated others =>
      have recomputed := (recomputed_kept deviated.recomputes).1
      rw [deviated.plans] at recomputed
      rw [deviated.recomputed]
      exact recomputed
  | planExcepted notSupplied verdict restated redated others => exact restated_kept restated
  | orderExcepted notSupplied verdict restated others => exact same (others _ (by decide) (by decide))
  | elsewhere notOrdered notUpdated undecided items others =>
      exact same (others _ (by decide) (by decide))

theorem retains_mapped {Row Value : Type} {read : Row → Value} {table last : Table Row}
    {change : Nat → Row → Row} (kept : ∀ id row, read (change id row) = read row)
    (rows : ∀ id, last.find? id = (table.find? id).map (change id)) {id : Nat} {row : Row}
    (found : table.find? id = some row) :
    ∃ new, last.find? id = some new ∧ read new = read row :=
  ⟨change id row, by rw [rows, found, Option.map_some], kept id row⟩

/-- No step loses an item of a plan, or changes what was planned with it. -/
theorem Ordered.itemKept (ordered : Ordered db event db') {id : Nat} {item : PurchasePlanItem}
    (found : (db purchasePlanItems).find? id = some item) :
    ∃ new, (db' purchasePlanItems).find? id = some new ∧ planItemKey new = planItemKey item := by
  have same : db' purchasePlanItems = db purchasePlanItems →
      ∃ new, (db' purchasePlanItems).find? id = some new ∧
        planItemKey new = planItemKey item := by
    intro equal
    rw [equal]
    exact ⟨item, found, rfl⟩
  cases ordered with
  | planCreated supply undecided created others =>
      obtain ⟨new, kept, rfl⟩ := created.planItems.1.kept id item found
      exact ⟨_, kept, rfl⟩
  | planUpdated supply undecided updated others =>
      cases updated with
      | finalized action finalized =>
          apply retains_mapped _ finalized.items found
          intro key row
          split <;> rfl
      | answered action answered => exact same answered.items
  | orderCreated supply undecided created =>
      have kept := (allocated_kept created.allocates).1
      rw [Store.put_other _ _ (by decide)] at kept
      rw [created.others _ (by decide) (by decide) (by decide),
        (recomputed_kept created.settles).2 _ (by decide)]
      exact kept.kept id item found
  | orderAnswered supply undecided answered =>
      exact same (answered.others _ (by decide) (by decide) (by decide))
  | planVersioned notSupplied verdict restated others => exact same (others _ (by decide) (by decide))
  | deviated notSupplied verdict requested pending workflow settled deviated others =>
      apply retains_mapped _ deviated.items found
      intro key row
      unfold deviatedItem
      split <;> rfl
  | planExcepted notSupplied verdict restated redated others =>
      obtain ⟨date, items⟩ := redated id
      refine ⟨{ item with expectedArrivalDate := date item.expectedArrivalDate }, ?_, rfl⟩
      rw [items, found, Option.map_some]
  | orderExcepted notSupplied verdict restated others => exact same (others _ (by decide) (by decide))
  | elsewhere notOrdered notUpdated undecided items others =>
      exact same (others _ (by decide) (by decide))

/-- A link is only ever added by an order, for one of its lines. -/
theorem Ordered.linkAdded (ordered : Ordered db event db') {id : Nat} {link : PurchasePlanOrderLink}
    (found : (db' purchasePlanOrderLinks).find? id = some link) :
    (db purchasePlanOrderLinks).find? id = some link ∨
      ∃ item, Checked db item ∧ link.purchasePlanItemId = item.planItemId ∧
        link.allocatedQuantity = item.quantity := by
  have same : db' purchasePlanOrderLinks = db purchasePlanOrderLinks →
      (db purchasePlanOrderLinks).find? id = some link := by
    intro equal
    rwa [← equal]
  cases ordered with
  | orderCreated supply undecided created =>
      rw [created.others _ (by decide) (by decide) (by decide),
        (recomputed_kept created.settles).2 _ (by decide)] at found
      rcases allocated_links created.allocates found with old | ⟨item, member, own⟩
      · rw [Store.put_other _ _ (by decide)] at old
        exact Or.inl old
      · exact Or.inr ⟨item, created.checked item member, own⟩
  | orderAnswered supply undecided answered =>
      exact Or.inl (same (answered.others _ (by decide) (by decide) (by decide)))
  | planCreated supply undecided created others =>
      exact Or.inl (same (others _ (by decide) (by decide)))
  | planUpdated supply undecided updated others =>
      exact Or.inl (same (others _ (by decide) (by decide)))
  | planVersioned notSupplied verdict restated others =>
      exact Or.inl (same (others _ (by decide) (by decide)))
  | deviated notSupplied verdict requested pending workflow settled deviated others =>
      exact Or.inl (same (others _ (by decide) (by decide)))
  | planExcepted notSupplied verdict restated redated others =>
      exact Or.inl (same (others _ (by decide) (by decide)))
  | orderExcepted notSupplied verdict restated others =>
      exact Or.inl (same (others _ (by decide) (by decide)))
  | elsewhere notOrdered notUpdated undecided items others =>
      exact Or.inl (same (others _ (by decide) (by decide)))

/-- The messages of a step say nothing of the plans and the orders. -/
theorem ordered_of_apart (apart : ApartFromOutbox db db') : Ordered db .elsewhere db' := by
  refine Ordered.elsewhere (by simp [supplied]) (by simp [supplied]) (by simp [decides]) ?_ ?_
  · rw [apart _ (by decide)]
    exact (Law.revises itemKey).refl _
  · intro t member untouched
    apply apart
    rintro rfl
    exact absurd member (by decide)

theorem step_ordered (step : SupplyStep db event db') :
    ∃ mid, Ordered db event mid ∧ ApartFromOutbox mid db' := by
  obtain ⟨mid, work, apart⟩ := step.works
  exact ⟨mid, touched_ordered (work_touched work), apart⟩

/-- What was planned with an item stays as it is along a run. -/
theorem run_itemKept {events : List SupplyEvent} (run : Run SupplyStep db events db') {id : Nat}
    {item : PurchasePlanItem} (found : (db purchasePlanItems).find? id = some item) :
    ∃ new, (db' purchasePlanItems).find? id = some new ∧ planItemKey new = planItemKey item := by
  induction run generalizing item with
  | done => exact ⟨item, found, rfl⟩
  | next first later ih =>
      obtain ⟨mid, ordered, apart⟩ := step_ordered first
      obtain ⟨new, foundNew, same⟩ := ordered.itemKept found
      rw [← apart purchasePlanItems (by decide)] at foundNew
      obtain ⟨last, foundLast, sameLast⟩ := ih foundNew
      exact ⟨last, foundLast, sameLast.trans same⟩

end SupplyChain.PurchaseOrders
