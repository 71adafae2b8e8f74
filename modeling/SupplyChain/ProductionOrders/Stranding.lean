import SupplyChain.ProductionOrders.Backing

/-!
The stock that is locked for an execution order: a finished order holds none of
it as long as every order uses up what it holds before it finishes, and nothing
is reserved for it afterwards.
-/

namespace SupplyChain.ProductionOrders

open Relational Transaction TableName Stock

variable {effects : Approvals.ProcurementEffects} {command : CommandContext} {db db' : Database}
  {event : Event} {opening : Database} {events : List Event}

def finished : ExecutionStatus → Bool
  | .completed | .completedFactoryOwned | .varianceRejected => true
  | .planned | .inProduction | .variancePending => false

/-- No finished order has an active reservation that holds stock. -/
def NoneStranded (db : Database) : Prop :=
  ∀ id order, (db executionOrders).find? id = some order → finished order.status = true →
    ∀ reservationId reservation,
      (db inventoryReservations).find? reservationId = some reservation →
      Holds id reservation → reservation.reservedQuantity ≤ 0

/-- A completion that needs no approval. -/
def completesWithin (db : Database) (order : ExecutionOrder) (sku : String) (actual : Int)
    (lines : List MaterialReport) : Bool :=
  !(overproduced db order sku actual || underproduced order actual || lines.any (deviating db))

/-- An order finishes only when its reports use up its whole pool or when the
pool is empty, and a finished order reserves nothing. -/
def FreesLocks (db : Database) : Event → Prop
  | .command ⟨_, .transitionProductionOrder ⟨id, .complete actual lines⟩⟩ =>
      ∀ order ∈ (db executionOrders).find? id, ∀ item ∈ (db orderItems).find? order.orderItemId,
        completesWithin db order item.sku actual lines = true →
          pool (stockOf db) id none + spentTotal db id none = spentAfter db id none lines
  | .command ⟨_, .decideApproval body⟩ =>
      ∀ row ∈ varianceRow db body, pool (stockOf db) row.report.executionOrderId none = 0
  | .command ⟨_, .reserveInventory body⟩ =>
      body.entityType = .productionOrder → ∀ id ∈ body.entityId,
        ∀ order ∈ (db executionOrders).find? id, finished order.status = true →
          ∀ batch ∈ (db inventoryBatches).find? body.batchId, batch.availableQuantity ≤ 0
  | _ => True

/-- There is no execution order yet, and the reservations are in order. -/
structure OpeningReservations (db : Database) : Prop where
  orders : ∀ id, (db executionOrders).find? id = none
  linked : Linked (stockOf db)
  nonneg : NonnegReservations (stockOf db)

/-! ## What a step leaves an order with -/

structure Freed (db : Database) : Prop where
  linked : Linked (stockOf db)
  nonneg : NonnegReservations (stockOf db)
  none : NoneStranded db

theorem OpeningReservations.freed (opens : OpeningReservations opening) : Freed opening where
  linked := opens.linked
  nonneg := opens.nonneg
  none id order found := by simp [opens.orders] at found

theorem holds_nothing {orderId reservationId : Nat} {reservation : InventoryReservation}
    (linked : Linked (stockOf db)) (nonneg : NonnegReservations (stockOf db))
    (empty : pool (stockOf db) orderId none = 0)
    (found : (db inventoryReservations).find? reservationId = some reservation)
    (holds : Holds orderId reservation) : reservation.reservedQuantity ≤ 0 := by
  rw [← empty]
  exact holds.le_pool found linked nonneg

/-- Under the rule a step adds nothing to what a finished order holds. -/
theorem held_before {orderId reservationId : Nat} {order : ExecutionOrder}
    {reservation : InventoryReservation} (moves : MovesBy db event db')
    (rule : FreesLocks db event)
    (foundOrder : (db executionOrders).find? orderId = some order)
    (done : finished order.status = true ∨ ∀ command body, event ≠
      .command ⟨command, .reserveInventory body⟩)
    (found : (db' inventoryReservations).find? reservationId = some reservation)
    (holds : Holds orderId reservation) :
    reservation.reservedQuantity ≤ 0 ∨ ∃ old,
      (db inventoryReservations).find? reservationId = some old ∧ Holds orderId old ∧
        reservation.reservedQuantity ≤ old.reservedQuantity := by
  obtain ⟨moves, run, made⟩ := moves
  rcases run.heldBefore found holds with before | ⟨fresh, sku, member, holdsFresh, below⟩
  · exact Or.inr before
  · have makes := made _ member
    cases makes with
    | @reserved _ body batch priority foundBatch =>
        rcases done with done | other
        · have dry := rule holdsFresh.entityType orderId holdsFresh.entityId order foundOrder done
            batch foundBatch
          refine Or.inl (Int.le_trans below ?_)
          simp only [Inventory.reservationOf]
          omega
        · exact absurd rfl (other _ _)

/-- A finished order that a step left as it was still holds nothing. -/
theorem Freed.still {orderId reservationId : Nat} {order : ExecutionOrder}
    {reservation : InventoryReservation} (freed : Freed db) (moves : MovesBy db event db')
    (rule : FreesLocks db event)
    (foundOrder : (db executionOrders).find? orderId = some order)
    (done : finished order.status = true)
    (found : (db' inventoryReservations).find? reservationId = some reservation)
    (holds : Holds orderId reservation) : reservation.reservedQuantity ≤ 0 := by
  rcases held_before moves rule foundOrder (Or.inl done) found holds with
    empty | ⟨old, foundOld, holdsOld, below⟩
  · exact empty
  · exact Int.le_trans below (freed.none orderId order foundOrder done _ old foundOld holdsOld)

theorem overproduced_congr (same : db' skus = db skus) (order : ExecutionOrder) (sku : String)
    (actual : Int) : overproduced db' order sku actual = overproduced db order sku actual := by
  have tolerance : toleranceOf db' sku = toleranceOf db sku := by
    simp only [toleranceOf, same]
  simp only [overproduced, tolerance]

/-- A completion within tolerance under the rule empties the pool. -/
theorem Transitioned.empties {id : Nat} {order : ExecutionOrder} {item : OrderItem}
    {body : TransitionProductionOrder} {sent : List DomainEvent} {now : ExecutionOrder}
    (transitioned : Transitioned command body.id order item.sku db db' body.action sent)
    (freed : Freed db) (rule : FreesLocks db (.command ⟨command, .transitionProductionOrder body⟩))
    (found : (db executionOrders).find? body.id = some order)
    (foundItem : (db orderItems).find? order.orderItemId = some item)
    (after : (db' executionOrders).find? id = some now) (done : finished now.status = true) :
    (db executionOrders).find? id = some now ∨
      (id = body.id ∧ ∃ mid, db' inventoryReservations = mid inventoryReservations ∧
        Linked (stockOf mid) ∧ NonnegReservations (stockOf mid) ∧
          pool (stockOf mid) id none = 0) := by
  obtain ⟨orderId, action⟩ := body
  dsimp only at transitioned found
  cases transitioned with
  | released _ _ _ _ _ _ kept =>
      rw [kept _ (by decide)] at after
      exact Or.inl after
  | started planned orders kept =>
      rw [orders] at after
      rcases Table.find?_modify_cases after with ⟨rfl, old, -, rfl⟩ | ⟨-, old⟩
      · cases done
      · exact Or.inl old
  | reported begins reported ends =>
      rw [ends _ (by decide), reported.kept _ (by decide), begins _ (by decide)] at after
      exact Or.inl after
  | @completed lines start mid moves actual deviates pending begins reported completed
      reservations deviation =>
      have orders := (reported.kept executionOrders (by decide)).trans (begins _ (by decide))
      have written := completed.orders
      rw [orders] at written
      rw [written] at after
      rcases Table.find?_modify_cases after with ⟨rfl, old, -, rfl⟩ | ⟨-, old⟩
      · cases pending with
        | true => cases done
        | false =>
            have linked : Linked (stockOf start) := by rw [begins.stock]; exact freed.linked
            have nonneg : NonnegReservations (stockOf start) := by
              rw [begins.stock]
              exact freed.nonneg
            refine Or.inr ⟨rfl, mid, reservations, reported.linked linked,
              reported.run.nonnegReservations nonneg, ?_⟩
            have judged := completed.judged
            rw [overproduced_congr ((reported.kept skus (by decide)).trans (begins _ (by decide))),
              deviation, begins.any_deviating] at judged
            have used := rule order found item foundItem (by rw [completesWithin, ← judged]; rfl)
            have conserved : pool (stockOf mid) id none + spentTotal mid id none =
                pool (stockOf start) id none + spentTotal start id none :=
              reported.conserves linked
            have spentNow : spentTotal mid id none = spentAfter start id none lines :=
              reported.spentTotal
            rw [begins.stock, spentNow, spentTotal, spentAfter, begins.lineTotal, begins.lineTotal] at conserved
            rw [spentTotal, spentAfter] at used
            omega
      · exact Or.inl old

/-- A decision of a variance finishes the order of its report. -/
theorem Judged.after {body : Approvals.DecideApproval} {approval : ApprovalRequest}
    {row : ApprovalEffects.ReportRow} {id : Nat} {now : ExecutionOrder}
    (judged : Judged command body approval row db db')
    (after : (db' executionOrders).find? id = some now) :
    (db executionOrders).find? id = some now ∨
      (id = row.report.executionOrderId ∧ ∃ old, (db executionOrders).find? id = some old) := by
  rw [judged.orders] at after
  rcases Table.find?_modify_cases after with ⟨rfl, old, foundOld, rfl⟩ | ⟨-, old⟩
  · exact Or.inr ⟨rfl, old, foundOld⟩
  · exact Or.inl old

/-! ## Runs -/

theorem work_freed (work : Work effects db event db') (rule : FreesLocks db event)
    (freed : Freed db) : Freed db' := by
  have moves := work_moves work
  obtain ⟨_, run, -⟩ := work_moves work
  refine ⟨run.linked freed.linked, run.nonnegReservations freed.nonneg, ?_⟩
  intro id now after done reservationId reservation found holds
  cases work_worked work with
  | created created kept =>
      rw [created.orders] at after
      rcases Table.find?_insert_cases after with ⟨-, rfl⟩ | old
      · cases done
      · exact freed.still moves rule old done found holds
  | transitioned foundOrder foundItem transitioned kept =>
      rcases transitioned.empties freed rule foundOrder foundItem after done with
        old | ⟨rfl, mid, reservations, linked, nonneg, empty⟩
      · exact freed.still moves rule old done found holds
      · rw [reservations] at found
        exact holds_nothing linked nonneg empty found holds
  | judged judged =>
      rcases judged.after after with old | ⟨rfl, old, foundOld⟩
      · exact freed.still moves rule old done found holds
      · have empty := rule _ judged.varianceRow
        rcases held_before moves rule foundOld (Or.inr fun _ _ => by simp) found holds with
          nothing | ⟨before, foundBefore, holdsBefore, below⟩
        · exact nothing
        · exact Int.le_trans below
            (holds_nothing freed.linked freed.nonneg empty foundBefore holdsBefore)
  | elsewhere orders lines reports =>
      rw [orders] at after
      exact freed.still moves rule after done found holds

theorem Freed.apart (freed : Freed db) (apart : ApartFromOutbox db db') : Freed db' := by
  have stock : stockOf db' = stockOf db := by
    simp only [stockOf, apart inventoryBatches (by decide), apart inventoryReservations (by decide)]
  refine ⟨by rw [stock]; exact freed.linked, by rw [stock]; exact freed.nonneg, ?_⟩
  rw [NoneStranded, apart executionOrders (by decide), apart inventoryReservations (by decide)]
  exact freed.none

/-- In every run that uses up or releases what an order holds before it
finishes, and reserves nothing for it afterwards, no lock is stranded. -/
theorem none_stranded (opens : OpeningReservations opening)
    (run : Run (fun db event db' => Step effects db event db' ∧ FreesLocks db event)
      opening events db) :
    NoneStranded db := by
  have freed := run.preserves Freed
    (fun ruled freed => ruled.1.preserves Freed (fun apart freed => freed.apart apart)
      fun work => work_freed work ruled.2 freed) opens.freed
  exact freed.none

/-! ## Orders that finish -/

instance (db : Database) (event : Event) : Decidable (FreesLocks db event) := by
  cases event with
  | command request =>
      obtain ⟨_, body⟩ := request
      cases body with
      | transitionProductionOrder body =>
          obtain ⟨id, action⟩ := body
          cases action <;> (dsimp only [FreesLocks]; infer_instance)
      | _ =>
          dsimp only [FreesLocks]
          infer_instance
  | _ => exact isTrue trivial

theorem plannedDatabase_reserves : OpeningReservations plannedDatabase where
  orders _ := rfl
  linked id row found := by cases found
  nonneg id row found := by cases found

/-- The order is done, and its reservation holds the quantity. -/
def holdsFinished (quantity : Int) (db : Database) : Bool :=
  ((db executionOrders).find? 1).any (fun order => finished order.status) &&
    ((db inventoryReservations).find? 1).any fun reservation =>
      decide (Holds 1 reservation) && reservation.reservedQuantity == quantity

theorem used_none_stranded :
    ∃ db, (∃ order, (db executionOrders).find? 1 = some order ∧ finished order.status = true) ∧
      NoneStranded db := by
  obtain ⟨db, run, done⟩ := replayUnder_reaches noProcurement FreesLocks
    [plans 1 10, reserves 2 20, works 3 (.complete 10 [⟨1, 20, 20, 0⟩])] plannedDatabase
    (fun db => ((db executionOrders).find? 1).any fun order => finished order.status)
    (by decide +kernel)
  exact ⟨db, Option.any_eq_true _ _ |>.mp done, none_stranded plannedDatabase_reserves run⟩

/-- An order that completes without using what was reserved for it strands the
reservation. -/
theorem stranded_reservation :
    OpeningReservations plannedDatabase ∧
      ∃ db, Run (Step noProcurement) plannedDatabase
          ([plans 1 10, reserves 2 20, works 3 .start, works 4 (.complete 10 [])].map .command) db ∧
        ¬ NoneStranded db := by
  obtain ⟨db, run, strands⟩ := replay_reaches noProcurement
    [plans 1 10, reserves 2 20, works 3 .start, works 4 (.complete 10 [])] plannedDatabase
    (holdsFinished 20) (by decide +kernel)
  refine ⟨plannedDatabase_reserves, db, run, ?_⟩
  intro none
  simp only [holdsFinished, Bool.and_eq_true, Option.any_eq_true, decide_eq_true_eq, beq_iff_eq]
    at strands
  obtain ⟨⟨order, foundOrder, done⟩, reservation, found, holds, twenty⟩ := strands
  have empty := none 1 order foundOrder done 1 reservation found holds
  omega

end SupplyChain.ProductionOrders
