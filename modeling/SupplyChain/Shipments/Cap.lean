import SupplyChain.Shipments.Steps
import SupplyChain.ProductionOrders.Reports

/-!
The live delivery batches of an execution order stay within what it completed
or plans, in every run whose refused variances find no more of them than the
order plans.
-/

namespace SupplyChain.Shipments

open Relational TableName
open ProductionOrders (OpeningProduction Agrees Worked varianceRow)
open ApprovalEffects (ReportRow)

variable {effects : Approvals.ProcurementEffects} {command : CommandContext} {db db' : Database}
  {event : Event} {opening : Database} {events : List Event}

structure Capped (db : Database) : Prop where
  delivery : ∀ id row, (db deliveryBatches).find? id = some row → 1 ≤ row.quantity ∧
    ∃ order, (db executionOrders).find? row.executionOrderId = some order
  cap : ∀ id order, (db executionOrders).find? id = some order →
    plannedQuantity (db deliveryBatches) id ≤ max order.completedQuantity order.plannedQuantity

/-- A refused variance finds no more live deliveries than its order plans. -/
def RefusesWithinPlan (db : Database) : Event → Prop
  | .command ⟨_, .decideApproval body⟩ => body.decision = .rejected →
      ∀ row ∈ varianceRow db body,
        plannedQuantity (db deliveryBatches) row.report.executionOrderId ≤
          row.order.plannedQuantity
  | _ => True

instance (db : Database) (event : Event) : Decidable (RefusesWithinPlan db event) := by
  obtain ⟨_, body⟩ | _ := event
  · obtain _ | _ := body <;> (dsimp only [RefusesWithinPlan]; infer_instance)
  all_goals exact isTrue trivial

/-! ## What a step does to the live deliveries -/

theorem plannedQuantity_of_none {orderId : Nat}
    (none : ∀ id row, (db deliveryBatches).find? id = some row → row.executionOrderId ≠ orderId) :
    plannedQuantity (db deliveryBatches) orderId = 0 := by
  refine Table.weigh_zero ?_
  intro id row found
  simp [none id row found]

theorem plannedQuantity_revised {old new : Table DeliveryBatch}
    (positive : ∀ id row, old.find? id = some row → 1 ≤ row.quantity)
    (revises : Table.Revises DeliveryKept old new) (orderId : Nat) :
    plannedQuantity new orderId ≤ plannedQuantity old orderId := by
  obtain ⟨change, rfl, kept⟩ := revises
  rw [plannedQuantity, Table.weigh_revise]
  refine Table.weigh_mono ?_
  intro id row found
  obtain ⟨owner, quantity, -, live⟩ := kept id row found
  have atLeast := positive id row found
  rw [owner, quantity]
  by_cases here : row.executionOrderId = orderId
  · by_cases stays : DeliveryStatus.plannedAgainst (change id row).status = true
    · simp [here, stays, live stays]
    · rw [if_neg fun both => stays both.2]
      split <;> omega
  · simp [here]

theorem dispatchable_live {status : DeliveryStatus} (dispatchable : status.dispatchable = true) :
    DeliveryStatus.plannedAgainst status = true := by
  cases status <;> first | rfl | cases dispatchable

theorem Delivered.changes (delivered : Delivered db event db') :
    (∃ body : CreateShipment, ∃ order,
      (db executionOrders).find? body.executionOrderId = some order ∧ 1 ≤ body.quantity ∧
      plannedQuantity (db deliveryBatches) body.executionOrderId + body.quantity ≤
        max order.completedQuantity order.plannedQuantity ∧
      db' deliveryBatches = (db deliveryBatches).insert (deliveryOf body)) ∨
    Table.Revises DeliveryKept (db deliveryBatches) (db' deliveryBatches) := by
  have same : db' deliveryBatches = db deliveryBatches →
      Table.Revises DeliveryKept (db deliveryBatches) (db' deliveryBatches) := by
    intro equal
    rw [equal]
    exact Table.Revises.refl deliveryKept_refl
  cases delivered with
  | commanded outcome =>
      cases outcome with
      | @created body order found positive room deliveries _ _ _ =>
          exact Or.inl ⟨body, order, found, positive, room, deliveries⟩
      | resolved deliveries _ _ _ => exact Or.inr (same deliveries)
      | confirmed found waiting deliveries _ _ _ =>
          refine Or.inr ?_
          rw [deliveries]
          refine revises_delivery ?_ fun old => ⟨rfl, rfl, rfl⟩
          intro old foundOld
          rw [found] at foundOld
          cases foundOld
          rw [waiting]
          rfl
      | dispatched found dispatched _ =>
          have current := (shipmentRow_some found).1
          refine Or.inr ?_
          cases dispatched with
          | deviates _ _ planned deliveries =>
              obtain ⟨reason, deliveries⟩ := deliveries
              rw [deliveries]
              refine revises_delivery ?_ fun old => ⟨rfl, rfl, rfl⟩
              intro old foundOld
              rw [current] at foundOld
              cases foundOld
              rw [planned]
              rfl
          | ships _ _ _ dispatchable deliveries _ =>
              obtain ⟨shippedAt, carrier, logisticsNo, deliveries⟩ := deliveries
              rw [deliveries]
              refine revises_delivery ?_ fun old => ⟨rfl, rfl, rfl⟩
              intro old foundOld
              rw [current] at foundOld
              cases foundOld
              exact dispatchable_live dispatchable
      | received found received _ _ =>
          have current := (shipmentRow_some found).1
          obtain ⟨status, -, deliveries⟩ := received.deliveries
          refine Or.inr ?_
          rw [deliveries]
          refine revises_delivery ?_ fun old => ⟨rfl, rfl, rfl⟩
          intro old foundOld
          rw [current] at foundOld
          cases foundOld
          rw [received.shipped]
          rfl
  | judged foundApproval workflow found waiting deliveries _ =>
      refine Or.inr ?_
      rw [deliveries]
      refine revises_delivery ?_ fun old => ⟨rfl, rfl, rfl⟩
      intro old foundOld
      rw [found] at foundOld
      cases foundOld
      rw [waiting]
      rfl
  | elsewhere deliveries _ => exact Or.inr (same deliveries)

/-! ## Preservation -/

theorem Capped.delivered (capped : Capped db) (delivered : Delivered db event db')
    (orders : db' executionOrders = db executionOrders) : Capped db' := by
  rcases delivered.changes with ⟨body, order, found, positive, room, deliveries⟩ | revises
  · constructor
    · intro id row foundRow
      rw [deliveries] at foundRow
      rw [orders]
      rcases Table.find?_insert_cases foundRow with ⟨-, rfl⟩ | old
      · exact ⟨positive, order, found⟩
      · exact capped.delivery id row old
    · intro id other foundOther
      rw [orders] at foundOther
      have before := capped.cap id other foundOther
      rw [plannedQuantity, deliveries, Table.weigh_insert]
      by_cases here : body.executionOrderId = id
      · subst here
        rw [found] at foundOther
        cases foundOther
        simpa [deliveryOf, DeliveryStatus.plannedAgainst, plannedQuantity] using room
      · simpa [deliveryOf, here, plannedQuantity] using before
  · constructor
    · intro id row foundRow
      obtain ⟨old, foundOld, owner, quantity, -⟩ := revises.backward foundRow
      rw [owner, quantity, orders]
      exact capped.delivery id old foundOld
    · intro id order found
      rw [orders] at found
      have within := plannedQuantity_revised
        (fun key row foundRow => (capped.delivery key row foundRow).1) revises id
      exact Int.le_trans within (capped.cap id order found)

theorem Capped.worked (capped : Capped db)
    (deliveries : db' deliveryBatches = db deliveryBatches)
    (kept : ∀ id order, (db executionOrders).find? id = some order →
      ∃ now, (db' executionOrders).find? id = some now)
    (raised : ∀ id now, (db' executionOrders).find? id = some now →
      (db executionOrders).find? id = none ∨
      ∃ order, (db executionOrders).find? id = some order ∧
        (plannedQuantity (db deliveryBatches) id ≤ max order.completedQuantity order.plannedQuantity →
          plannedQuantity (db deliveryBatches) id ≤ max now.completedQuantity now.plannedQuantity))
    (nonneg : ∀ id now, (db' executionOrders).find? id = some now → 0 ≤ now.plannedQuantity) :
    Capped db' := by
  constructor
  · intro id row found
    rw [deliveries] at found
    obtain ⟨positive, order, foundOrder⟩ := capped.delivery id row found
    exact ⟨positive, kept _ order foundOrder⟩
  · intro id now found
    rw [deliveries]
    rcases raised id now found with fresh | ⟨order, foundOrder, raises⟩
    · have none : plannedQuantity (db deliveryBatches) id = 0 := by
        refine plannedQuantity_of_none ?_
        intro key row foundRow same
        obtain ⟨-, order, foundOrder⟩ := capped.delivery key row foundRow
        rw [same, fresh] at foundOrder
        cases foundOrder
      have planned := nonneg id now found
      omega
    · exact raises (capped.cap id order foundOrder)

theorem Capped.work (capped : Capped db) (agrees : Agrees db) (worked : Worked db event db')
    (delivered : Delivered db event db') (refuses : RefusesWithinPlan db event) : Capped db' := by
  have planned := (worked.agrees agrees).planned
  have nonneg : ∀ id now, (db' executionOrders).find? id = some now → 0 ≤ now.plannedQuantity := by
    intro id now found
    have positive := planned id now found
    omega
  cases worked with
  | created created kept =>
      refine capped.worked (kept _ (by decide)) ?_ ?_ nonneg
      · intro id order found
        exact ⟨order, by rw [created.orders]; exact Table.find?_insert_of_some found⟩
      · intro id now found
        rw [created.orders] at found
        rcases Table.find?_insert_cases found with ⟨rfl, -⟩ | old
        · exact Or.inl (Table.find?_nextId _)
        · exact Or.inr ⟨now, old, fun within => within⟩
  | transitioned found foundItem transitioned kept =>
      have deliveries := kept deliveryBatches (by decide)
      rcases transitioned.plant with ⟨orders, -⟩ | ⟨-, -, orders⟩ |
        ⟨actual, pending, report, runs, actualNonneg, -, orders, -⟩
      · exact capped.delivered delivered orders
      · refine capped.worked deliveries ?_ ?_ nonneg
        · intro id order foundOrder
          rw [orders, Table.find?_modify]
          split
          · exact ⟨_, by rw [foundOrder]; rfl⟩
          · exact ⟨order, foundOrder⟩
        · intro id now foundNow
          rw [orders] at foundNow
          rcases Table.find?_modify_cases foundNow with ⟨rfl, old, foundOld, rfl⟩ | ⟨-, old⟩
          · exact Or.inr ⟨old, foundOld, fun within => within⟩
          · exact Or.inr ⟨now, old, fun within => within⟩
      · refine capped.worked deliveries ?_ ?_ nonneg
        · intro id order foundOrder
          rw [orders, Table.find?_modify]
          split
          · exact ⟨_, by rw [foundOrder]; rfl⟩
          · exact ⟨order, foundOrder⟩
        · intro id now foundNow
          rw [orders] at foundNow
          rcases Table.find?_modify_cases foundNow with ⟨rfl, old, foundOld, rfl⟩ | ⟨-, old⟩
          · refine Or.inr ⟨old, foundOld, ?_⟩
            -- a running order has completed nothing yet
            rw [found] at foundOld
            cases foundOld
            have none := (agrees.running _ _ found runs).1
            simp only [none]
            omega
          · exact Or.inr ⟨now, old, fun within => within⟩
  | @judged _ command body approval row judged =>
      obtain ⟨foundReport, foundOrder, -⟩ := ApprovalEffects.reportRow_some judged.report
      refine capped.worked (judged.kept _ (by decide)) ?_ ?_ nonneg
      · intro id order found
        rw [judged.orders, Table.find?_modify]
        split
        · exact ⟨_, by rw [found]; rfl⟩
        · exact ⟨order, found⟩
      · intro id now foundNow
        rw [judged.orders] at foundNow
        rcases Table.find?_modify_cases foundNow with ⟨rfl, old, foundOld, rfl⟩ | ⟨-, old⟩
        · refine Or.inr ⟨old, foundOld, ?_⟩
          rw [foundOrder] at foundOld
          cases foundOld
          intro within
          cases decision : body.decision with
          | approved =>
              -- what waits for a decision is what the report says
              obtain ⟨-, order, known, waits⟩ := agrees.reported _ _ foundReport
              rw [foundOrder] at known
              cases known
              have accepted := waits judged.waiting
              simpa [ProductionOrders.judgedOrder, ApprovalEffects.acceptedQuantity, decision,
                ← accepted] using within
          | rejected =>
              have room := refuses decision row judged.varianceRow
              exact Int.le_trans room (Int.le_max_right _ _)
        · exact Or.inr ⟨now, old, fun within => within⟩
  | elsewhere orders lines reports => exact capped.delivered delivered orders

theorem Capped.unread (capped : Capped db) (apart : ApartFromOutbox db db') : Capped db' := by
  constructor
  · rw [apart _ (by decide), apart _ (by decide)]
    exact capped.delivery
  · rw [apart _ (by decide), apart _ (by decide)]
    exact capped.cap

/-! ## Runs -/

/-- Neither an execution order nor a delivery exists yet. -/
structure OpeningShipments (db : Database) : Prop where
  production : OpeningProduction db
  deliveries : ∀ id, (db deliveryBatches).find? id = none

theorem OpeningShipments.capped (opens : OpeningShipments opening) : Capped opening where
  delivery id row found := by simp [opens.deliveries] at found
  cap id order found := by simp [opens.production.orders] at found

theorem shipment_cap (opens : OpeningShipments opening)
    (run : Run (fun db event db' => Step effects db event db' ∧ RefusesWithinPlan db event)
      opening events db)
    {id : Nat} {order : ExecutionOrder} (found : (db executionOrders).find? id = some order) :
    plannedQuantity (db deliveryBatches) id ≤
      max order.completedQuantity order.plannedQuantity := by
  have both : Agrees db ∧ Capped db := by
    refine run.preserves (fun db => Agrees db ∧ Capped db) ?_
      ⟨opens.production.agrees, opens.capped⟩
    rintro a label b ⟨step, refuses⟩ ⟨agrees, capped⟩
    refine ⟨ProductionOrders.step_agrees step agrees, ?_⟩
    exact step.preserves Capped (fun apart capped => capped.unread apart) fun work =>
      capped.work agrees (ProductionOrders.work_worked work) (work_delivered work) refuses
  exact both.2.cap id order found

/-! ## A variance to replay -/

def ships (time : Nat) (quantity : Int) : Request :=
  requestAt time 1 [.supplyChain] (.shipmentCommand (.create
    { executionOrderId := 1, batchNo := "D", quantity, plannedShipAt := "2", destination := "W" }))

theorem plannedDatabase_opens : OpeningShipments ProductionOrders.plannedDatabase where
  production := ProductionOrders.plannedDatabase_opens
  deliveries _ := rfl

/-- Fifteen were made for a plan of ten and fifteen planned to ship; the
refusal of the overproduction leaves ten of them and the shipment of fifteen. -/
theorem shipment_over_cap :
    OpeningShipments ProductionOrders.plannedDatabase ∧
      ∃ db order, Run (Step noProcurement) ProductionOrders.plannedDatabase
        ([ProductionOrders.plans 1 10, ProductionOrders.works 2 (.complete 15 []), ships 3 15,
          ProductionOrders.judges 4 1 .rejected].map .command) db ∧
        (db executionOrders).find? 1 = some order ∧ order.completedQuantity = 10 ∧
        order.plannedQuantity = 10 ∧ plannedQuantity (db deliveryBatches) 1 = 15 := by
  refine ⟨plannedDatabase_opens, ?_⟩
  obtain ⟨db, run, seen⟩ := replay_reaches noProcurement
    [ProductionOrders.plans 1 10, ProductionOrders.works 2 (.complete 15 []), ships 3 15,
      ProductionOrders.judges 4 1 .rejected] ProductionOrders.plannedDatabase
    (fun db => ((db executionOrders).find? 1).any (fun order =>
        order.completedQuantity == 10 && order.plannedQuantity == 10) &&
      plannedQuantity (db deliveryBatches) 1 == 15) (by decide +kernel)
  simp only [Bool.and_eq_true, beq_iff_eq] at seen
  obtain ⟨order, found, amounts⟩ := Option.any_eq_true _ _ |>.mp seen.1
  simp only [Bool.and_eq_true, beq_iff_eq] at amounts
  exact ⟨db, order, run, found, amounts.1, amounts.2, seen.2⟩

theorem shipment_cap_refused :
    ∃ db order, Run (fun db event db' => Step noProcurement db event db' ∧
        RefusesWithinPlan db event) ProductionOrders.plannedDatabase
        ([ProductionOrders.plans 1 10, ships 2 10, ProductionOrders.works 3 (.complete 15 []),
          ProductionOrders.judges 4 1 .rejected].map .command) db ∧
      (db executionOrders).find? 1 = some order ∧
      plannedQuantity (db deliveryBatches) 1 ≤
        max order.completedQuantity order.plannedQuantity := by
  obtain ⟨db, run, seen⟩ := replayUnder_reaches noProcurement RefusesWithinPlan
    [ProductionOrders.plans 1 10, ships 2 10, ProductionOrders.works 3 (.complete 15 []),
      ProductionOrders.judges 4 1 .rejected] ProductionOrders.plannedDatabase
    (fun db => ((db executionOrders).find? 1).isSome) (by decide +kernel)
  obtain ⟨order, found⟩ := Option.isSome_iff_exists.mp seen
  exact ⟨db, order, run, found, shipment_cap plannedDatabase_opens run found⟩

end SupplyChain.Shipments
