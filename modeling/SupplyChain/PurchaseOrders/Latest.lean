import SupplyChain.PurchaseOrders.Steps

/-!
Orders are only allocated to the latest version of a plan, and no decision about
an older version brings it back.
-/

namespace SupplyChain.PurchaseOrders

open Relational Transaction TableName Supply PurchasePlans Procurement

variable {db db' : Database} {event : SupplyEvent} {events : List SupplyEvent} {planId : Nat}

/-- No version of the plan's number is newer than the plan. -/
def Newest (db : Database) (planId : Nat) (plan : PurchasePlan) : Prop :=
  (db purchasePlans).find? planId = some plan ∧
    ∀ id row, (db purchasePlans).find? id = some row → row.planNo = plan.planNo →
      row.version ≤ plan.version

/-- Every new link of a step is to an item of the newest version of its plan, and
orders may be placed on that version. -/
def LinksNewest (db : Database) (_ : SupplyEvent) (db' : Database) : Prop :=
  ∀ id link, (db' purchasePlanOrderLinks).find? id = some link →
    (db purchasePlanOrderLinks).find? id = some link ∨
      ∃ item plan, (db purchasePlanItems).find? link.purchasePlanItemId = some item ∧
        Newest db item.purchasePlanId plan ∧ (plan.status = .confirmed ∨ plan.status = .ordering)

/-- A version of a plan that a newer one has replaced. -/
def Superseded (db : Database) (planId : Nat) : Prop :=
  ∃ plan id newer, (db purchasePlans).find? planId = some plan ∧
    (db purchasePlans).find? id = some newer ∧ newer.planNo = plan.planNo ∧
    plan.version < newer.version

theorem head?_insertionSort_le {items : List (Nat × PurchasePlan)} {first : Nat × PurchasePlan}
    (head : (items.insertionSort fun a b => b.2.version ≤ a.2.version).head? = some first) :
    ∀ item ∈ items, item.2.version ≤ first.2.version := by
  have total : Std.Total fun a b : Nat × PurchasePlan => b.2.version ≤ a.2.version :=
    ⟨fun a b => Int.le_total _ _⟩
  have transitive : IsTrans (Nat × PurchasePlan) fun a b => b.2.version ≤ a.2.version :=
    ⟨fun _ _ _ one two => Int.le_trans two one⟩
  have sorted := List.pairwise_insertionSort
    (fun a b : Nat × PurchasePlan => b.2.version ≤ a.2.version) items
  intro item member
  have listed := (List.mem_insertionSort fun a b : Nat × PurchasePlan =>
    b.2.version ≤ a.2.version).mpr member
  obtain ⟨rest, same⟩ := List.head?_eq_some_iff.mp head
  rw [same] at sorted listed
  rcases List.mem_cons.mp listed with rfl | later
  · exact Int.le_refl _
  · exact (List.pairwise_cons.mp sorted).1 item later

theorem latestPlan_newest {planNo : String} {plan : Nat × PurchasePlan}
    (latest : latestPlan db planNo = some plan) : Newest db plan.1 plan.2 := by
  obtain ⟨found, same⟩ := latestPlan_found latest
  refine ⟨found, fun id row foundRow own => ?_⟩
  apply head?_insertionSort_le latest (id, row)
  exact Table.mem_select.mpr ⟨foundRow, beq_iff_eq.mpr (own.trans same)⟩

theorem Checked.newest {item : PreparedItem} (checked : Checked db item) :
    Newest db item.planItem.purchasePlanId item.plan :=
  latestPlan_newest checked.latest

theorem Newest.not_superseded {plan : PurchasePlan} (newest : Newest db planId plan) :
    ¬ Superseded db planId := by
  rintro ⟨other, id, newer, found, foundNewer, planNo, older⟩
  obtain rfl := Option.some.inj (newest.1.symm.trans found)
  exact absurd (newest.2 id newer foundNewer planNo) (Int.not_le.mpr older)

theorem Ordered.linksNewest (ordered : Ordered db event db') : LinksNewest db event db' := by
  intro id link found
  rcases ordered.linkAdded found with old | ⟨item, checked, own, -⟩
  · exact Or.inl old
  · exact Or.inr ⟨item.planItem, item.plan, own ▸ checked.foundItem, checked.newest,
      checked.orderable⟩

theorem Ordered.superseded (ordered : Ordered db event db') (superseded : Superseded db planId) :
    Superseded db' planId := by
  obtain ⟨plan, id, newer, found, foundNewer, planNo, older⟩ := superseded
  obtain ⟨row, foundRow, same⟩ := ordered.plansKept.kept planId plan found
  obtain ⟨next, foundNext, sameNext⟩ := ordered.plansKept.kept id newer foundNewer
  simp only [planKey, Prod.mk.injEq] at same sameNext
  refine ⟨row, id, next, foundRow, foundNext, ?_, ?_⟩
  · rw [sameNext.1, planNo, same.1]
  · rw [same.2, sameNext.2]
    exact older

/-- The links to the items of a plan. -/
def LinkedTo (db : Database) (planId id : Nat) (link : PurchasePlanOrderLink) : Prop :=
  (db purchasePlanOrderLinks).find? id = some link ∧
    ∃ item, (db purchasePlanItems).find? link.purchasePlanItemId = some item ∧
      item.purchasePlanId = planId

/-! ## Runs -/

theorem step_linksNewest (step : SupplyStep db event db') : LinksNewest db event db' := by
  obtain ⟨mid, ordered, apart⟩ := step_ordered step
  unfold LinksNewest
  rw [apart _ (by decide)]
  exact ordered.linksNewest

theorem step_superseded (step : SupplyStep db event db') (superseded : Superseded db planId) :
    Superseded db' planId := by
  obtain ⟨mid, ordered, apart⟩ := step_ordered step
  unfold Superseded
  rw [apart _ (by decide)]
  exact ordered.superseded superseded

theorem run_linkedTo (run : Run SupplyStep db events db') (superseded : Superseded db planId)
    {id : Nat} {link : PurchasePlanOrderLink} (linked : LinkedTo db' planId id link) :
    (db purchasePlanOrderLinks).find? id = some link := by
  induction run with
  | done => exact linked.1
  | next first later ih =>
      have found := ih (step_superseded first superseded) linked
      rcases step_linksNewest first id link found with old | ⟨row, plan, foundRow, newest, -⟩
      · exact old
      · -- the item is of the same plan at the end of the run
        obtain ⟨-, item, foundItem, own⟩ := linked
        obtain ⟨new, foundNew, same⟩ := run_itemKept (Run.next first later) foundRow
        obtain rfl := Option.some.inj (foundNew.symm.trans foundItem)
        simp only [planItemKey, Prod.mk.injEq] at same
        rw [same.1.1] at own
        exact absurd (own ▸ superseded) newest.not_superseded

theorem createPurchaseOrder_refused {command : SupplyContext} {body : CreatePurchaseOrder}
    {line : OrderLine} {item : PurchasePlanItem} {reply : JsonValue}
    (superseded : Superseded db item.purchasePlanId) (member : line ∈ body.items)
    (found : (db purchasePlanItems).find? line.planItemId = some item) :
    executeSupply ⟨command, .createPurchaseOrder body⟩ db ≠ .ok (reply, db') := by
  intro committed
  obtain ⟨sent, mid, returns, -⟩ := executeSupply_ok committed
  unfold runSupply at returns
  obtain ⟨prepared, order, allocated, settled, created⟩ :=
    createPurchaseOrder_returns (returns_widen.mp returns)
  obtain ⟨one, isPrepared, same⟩ := created.lines line member
  have checked := created.checked one isPrepared
  have foundItem := checked.foundItem
  rw [same, found] at foundItem
  cases foundItem
  exact checked.newest.not_superseded superseded

/-- Along every run each order is linked to versions that are the newest of their
plan and may be ordered from; and from the moment on that a newer version
exists, no order is linked to the older one any more. -/
theorem latest_version_ordering (run : Run SupplyStep db events db') :
    Run (fun a event b => SupplyStep a event b ∧ LinksNewest a event b) db events db' ∧
      ∀ planId, Superseded db planId →
        (∀ id link, LinkedTo db' planId id link →
          (db purchasePlanOrderLinks).find? id = some link) ∧
        ∀ command body line item reply last, line ∈ body.items →
          (db' purchasePlanItems).find? line.planItemId = some item →
          item.purchasePlanId = planId →
          executeSupply ⟨command, .createPurchaseOrder body⟩ db' ≠ .ok (reply, last) := by
  constructor
  · exact run.imp fun step => ⟨step, step_linksNewest step⟩
  · intro planId superseded
    constructor
    · intro id link linked
      exact run_linkedTo run superseded linked
    · intro command body line item reply last member found own
      have still := run.preserves (fun db => Superseded db planId)
        (fun step holds => step_superseded step holds) superseded
      exact createPurchaseOrder_refused (own ▸ still) member found

/-- Two confirmed versions of a plan, each with an item, and a supplier of its
sku. -/
def versionedDatabase : Database :=
  (((((emptyDatabase.put purchasePlans ((Table.empty.insert (version 1)).insert (version 2))).put
    purchasePlanItems ((Table.empty.insert (planned 1)).insert (planned 2))).put
    suppliers (Table.empty.insert { code := "T", tier := some 1, managedByFactoryId := none })).put
    supplierSkus (Table.empty.insert
      { factoryId := 1, supplierId := 1, sku := "S", effectiveFrom := "2026-01-01"
        status := .active, requestedBy := 1 })).put
    corePriceAgreements (Table.empty.insert
      { supplierId := 1, sku := "S", unitPriceTaxIncludedMinor := 5
        effectiveFrom := "2026-01-01" }))
where
  version (number : Int) : PurchasePlan :=
    { planNo := "P", version := number, status := .confirmed }
  planned (planId : Nat) : PurchasePlanItem :=
    { purchasePlanId := planId, expectedArrivalDate := "2026-03-01", factoryId := 1
      warehouseId := 1, sku := "S", bomId := 1, plannedQuantity := 10 }

/-- The supply chain orders some pieces of a plan item. -/
def orders (time : Nat) (orderNo : String) (planItemId : Nat) (quantity : Int) : Act :=
  .supply (supplyAt time
    { userId := 1, sessionId := some 1, roles := [.supplyChain], factoryId := none
      supplierId := none }
    (.createPurchaseOrder
      { orderNo, orderDate := "2026-02-01"
        items := [{ planItemId, supplierId := 1, quantity, dueDate := "2026-02-20", sku := "S"
                    productName := "S", itemType := "component" }] }))

/-- An order on the second version commits, and the first one stays out of reach. -/
theorem latest_version_second : ∃ db', (db' purchasePlanOrderLinks).find? 1 ≠ none ∧
    Superseded versionedDatabase 1 ∧
    Run (fun a event b => SupplyStep a event b ∧ LinksNewest a event b) versionedDatabase
      ([orders 1 "O" 2 4].map Act.event) db' ∧
    ∀ id link, LinkedTo db' 1 id link → (versionedDatabase purchasePlanOrderLinks).find? id = some link := by
  obtain ⟨db', run, seen⟩ := replayActs_reaches [orders 1 "O" 2 4] versionedDatabase
    (fun db => ((db purchasePlanOrderLinks).find? 1).isSome) (by decide +kernel)
  have superseded : Superseded versionedDatabase 1 :=
    ⟨versionedDatabase.version 1, 2, versionedDatabase.version 2, rfl, rfl, rfl, by decide⟩
  obtain ⟨kept, stays⟩ := latest_version_ordering run
  exact ⟨db', Option.isSome_iff_ne_none.mp seen, superseded, kept, (stays 1 superseded).1⟩

end SupplyChain.PurchaseOrders
