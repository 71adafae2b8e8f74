import SupplyChain.Greedy.Order
import SupplyChain.ProductionOrders.Backing

/-!
What a report of materials takes, to the piece: the draws on the reservations of
an order, the stock that the batches give up for them and the movements that
are written. The loop over the pool is the greedy plan of what is reported, and
the reports that follow each other draw on what the earlier ones left.
-/

namespace SupplyChain.ProductionOrders

open Relational Transaction TableName Stock

variable {command : CommandContext} {db db' : Database} {sent : List DomainEvent}
  {orderId : Nat} {wanted : Option String}

/-! ## Draws -/

/-- The tables that consumption writes. -/
structure Books where
  reservations : Table InventoryReservation
  batches : Table InventoryBatch
  movements : Table InventoryMovement

def booksOf (db : Database) : Books where
  reservations := db inventoryReservations
  batches := db inventoryBatches
  movements := db inventoryMovements

/-- A row of the pool and what is taken from it. -/
abbrev Draw := PoolRow × Int

/-- The movement that a draw writes under the key `id`. -/
def movementOf (command : CommandContext) (draw : Draw) (id : Nat) : InventoryMovement where
  warehouseId := draw.1.warehouseId
  sku := draw.1.sku
  type := "production_consumption"
  quantity := -draw.2
  sourceKey := "production_consumption:" ++ command.randomUUID id

/-- A batch after a locked quantity of it was used. -/
def unlocked (quantity : Int) (row : InventoryBatch) : InventoryBatch :=
  { row with lockedQuantity := row.lockedQuantity - quantity }

/-- One draw: the reservation, its batch and the movement that is written. -/
structure Drew (command : CommandContext) (orderId : Nat) (b : Books) (draw : Draw)
    (b' : Books) : Prop where
  positive : 0 < draw.2
  held : ∃ reservation, b.reservations.find? draw.1.id = some reservation ∧
    Holds orderId reservation ∧ draw.2 ≤ reservation.reservedQuantity ∧
    reservation.batchId = draw.1.batchId
  stored : ∃ batch, b.batches.find? draw.1.batchId = some batch ∧
    draw.2 ≤ batch.lockedQuantity ∧ batch.warehouseId = draw.1.warehouseId ∧
    batch.sku = draw.1.sku
  reservations : b'.reservations = b.reservations.modify draw.1.id (drawn draw.2)
  batches : b'.batches = b.batches.modify draw.1.batchId (unlocked draw.2)
  movements : b'.movements = b.movements.insert (movementOf command draw b.movements.nextId)

theorem consumeReservation_drew {row : PoolRow} {take : Int} {u : Unit}
    (current : Current (stockOf db) orderId wanted row) (positive : 0 < take)
    (returns : (consumeReservation command row take).Returns db u sent db') :
    sent = [] ∧ Drew command orderId (booksOf db) (row, take) (booksOf db') := by
  simp only [consumeReservation, returns_bind_updateRow, returns_bind_query,
    returns_insertMovement, Bool.and_eq_true, decide_eq_true_eq] at returns
  obtain ⟨⟨held, foundHeld, -, within⟩, ⟨locked, foundLocked, enough⟩, -, rfl, rfl⟩ := returns
  obtain ⟨reservation, found, holds, -, batchId⟩ := current.reservation
  obtain ⟨batch, foundBatch, sku, warehouse⟩ := current.batch
  rw [stockOf, foundHeld] at found
  cases found
  simp only [Store.put_other, ne_eq, reduceCtorEq, not_false_eq_true] at foundLocked
  rw [stockOf, foundLocked] at foundBatch
  cases foundBatch
  refine ⟨rfl, ?_⟩
  exact
    { positive := positive
      held := ⟨held, foundHeld, holds, within, batchId⟩
      stored := ⟨locked, foundLocked, enough, warehouse, sku⟩
      reservations := by
        simp only [booksOf, Store.put_same, Store.put_other, ne_eq, reduceCtorEq,
          not_false_eq_true]
        rfl
      batches := by
        simp only [booksOf, Store.put_same, Store.put_other, ne_eq, reduceCtorEq,
          not_false_eq_true]
        rfl
      movements := by
        simp only [booksOf, Store.put_same, Store.put_other, ne_eq, reduceCtorEq,
          not_false_eq_true]
        rfl }

/-- What the rows of a pool can give. -/
def supplies (rows : List PoolRow) : List Draw :=
  (rows.map fun row => (row, row.reservedQuantity)).filter fun supply => decide (0 < supply.2)

theorem consumeFrom_draws {rows : List PoolRow} {remaining left : Int}
    (distinct : (rows.map (·.id)).Nodup)
    (current : ∀ row ∈ rows, Current (stockOf db) orderId wanted row) (nonneg : 0 ≤ remaining)
    (returns : (consumeFrom command rows remaining).Returns db left sent db') :
    left = (Greedy.plan remaining (supplies rows)).left ∧
      Run (Drew command orderId) (booksOf db) (Greedy.plan remaining (supplies rows)).taken
        (booksOf db') := by
  induction rows generalizing db remaining left sent with
  | nil =>
      obtain ⟨rfl, rfl, rfl⟩ := returns_pure.mp returns
      exact ⟨rfl, Run.done⟩
  | cons row rest ih =>
      have distinctRest := (List.nodup_cons.mp distinct).2
      unfold consumeFrom at returns
      rcases returns_ite.mp returns with ⟨met, returns⟩ | ⟨unmet, returns⟩
      · obtain ⟨rfl, rfl, rfl⟩ := returns_pure.mp returns
        rw [met, Greedy.plan_zero]
        exact ⟨rfl, Run.done⟩
      · rcases returns_ite.mp returns with ⟨empty, returns⟩ | ⟨stocked, returns⟩
        · have same : supplies (row :: rest) = supplies rest := by
            rw [supplies, List.map_cons, List.filter_cons_of_neg (by simpa using empty)]
            rfl
          rw [same]
          exact ih distinctRest
            (fun other member => current other (List.mem_cons_of_mem _ member)) nonneg returns
        · obtain ⟨_, first, mid, second, head, tail, rfl⟩ := returns_bind.mp returns
          have here := current row List.mem_cons_self
          have positive : 0 < min remaining row.reservedQuantity := by omega
          obtain ⟨-, moved⟩ := consumeReservation_moves here positive head
          obtain ⟨-, drew⟩ := consumeReservation_drew here positive head
          obtain ⟨left, run⟩ := ih distinctRest (current_rest distinct current moved rfl)
            (by omega) tail
          have same : supplies (row :: rest) = (row, row.reservedQuantity) :: supplies rest := by
            rw [supplies, List.map_cons, List.filter_cons_of_pos (by simpa using stocked)]
            rfl
          rw [same, Greedy.plan_cons unmet]
          exact ⟨left, Run.next drew run⟩

theorem consumeReservedInventory_draws {rows : List PoolRow} {quantity : Int} {u : Unit}
    (distinct : (rows.map (·.id)).Nodup)
    (current : ∀ row ∈ rows, Current (stockOf db) orderId wanted row) (nonneg : 0 ≤ quantity)
    (returns : (consumeReservedInventory command rows quantity).Returns db u sent db') :
    (Greedy.plan quantity (supplies rows)).left = 0 ∧
      Run (Drew command orderId) (booksOf db) (Greedy.plan quantity (supplies rows)).taken
        (booksOf db') := by
  unfold consumeReservedInventory at returns
  rcases returns_ite.mp returns with ⟨none, returns⟩ | ⟨-, returns⟩
  · obtain ⟨-, rfl, rfl⟩ := returns_pure.mp returns
    have zero : quantity = 0 := by omega
    rw [zero, Greedy.plan_zero]
    exact ⟨rfl, Run.done⟩
  · obtain ⟨left, first, mid, second, loop, refused, rfl⟩ := returns_bind.mp returns
    obtain ⟨rest, run⟩ := consumeFrom_draws distinct current nonneg loop
    obtain ⟨whole, rfl, rfl⟩ := returns_refuseIf.mp refused
    exact ⟨by rw [← rest]; exact not_not.mp whole, run⟩

/-! ## What a list of draws takes -/

/-- What the draws take from a reservation. -/
def takenFrom (draws : List Draw) (reservationId : Nat) : Int :=
  (draws.map fun draw => if draw.1.id = reservationId then draw.2 else 0).sum

/-- What the draws take from a batch. -/
def usedOf (draws : List Draw) (batchId : Nat) : Int :=
  (draws.map fun draw => if draw.1.batchId = batchId then draw.2 else 0).sum

/-- What the draws take of a component. -/
def takenOf (draws : List Draw) (sku : String) : Int :=
  (draws.map fun draw => if draw.1.sku = sku then draw.2 else 0).sum

/-- The movements that the draws write, in their order. -/
def recorded (command : CommandContext) (movements : Table InventoryMovement) :
    List Draw → Table InventoryMovement
  | [] => movements
  | draw :: rest => recorded command (movements.insert (movementOf command draw movements.nextId)) rest

section

variable {b b' : Books} {draws later : List Draw} {draw : Draw}

@[simp]
theorem takenFrom_nil (id : Nat) : takenFrom [] id = 0 := rfl

theorem takenFrom_cons (draw : Draw) (rest : List Draw) (id : Nat) :
    takenFrom (draw :: rest) id = (if draw.1.id = id then draw.2 else 0) + takenFrom rest id := by
  simp [takenFrom]

theorem takenFrom_append (draws later : List Draw) (id : Nat) :
    takenFrom (draws ++ later) id = takenFrom draws id + takenFrom later id := by
  simp [takenFrom]

theorem usedOf_cons (draw : Draw) (rest : List Draw) (id : Nat) :
    usedOf (draw :: rest) id = (if draw.1.batchId = id then draw.2 else 0) + usedOf rest id := by
  simp [usedOf]

theorem takenOf_append (draws later : List Draw) (sku : String) :
    takenOf (draws ++ later) sku = takenOf draws sku + takenOf later sku := by
  simp [takenOf]

theorem takenFrom_nonneg (positive : ∀ draw ∈ draws, 0 < draw.2) (id : Nat) :
    0 ≤ takenFrom draws id := by
  refine List.sum_nonneg ?_
  intro quantity member
  obtain ⟨draw, inside, rfl⟩ := List.mem_map.mp member
  have := positive draw inside
  split <;> omega

theorem le_takenFrom (positive : ∀ draw ∈ draws, 0 < draw.2) (inside : draw ∈ draws) :
    draw.2 ≤ takenFrom draws draw.1.id := by
  induction draws with
  | nil => cases inside
  | cons first rest ih =>
      have inRest := fun other member => positive other (List.mem_cons_of_mem first member)
      have later := takenFrom_nonneg inRest draw.1.id
      have here := positive first List.mem_cons_self
      rw [takenFrom_cons]
      rcases List.mem_cons.mp inside with rfl | member
      · rw [if_pos rfl]
        omega
      · have := ih inRest member
        split <;> omega

theorem drawn_of_takenFrom {id : Nat} (taken : takenFrom draws id ≠ 0) :
    ∃ draw ∈ draws, draw.1.id = id := by
  by_contra none
  refine taken (List.sum_eq_zero ?_)
  intro quantity member
  obtain ⟨draw, inside, rfl⟩ := List.mem_map.mp member
  exact if_neg fun same => none ⟨draw, inside, same⟩

theorem Drew.run_positive (run : Run (Drew command orderId) b draws b') :
    ∀ draw ∈ draws, 0 < draw.2 := by
  induction run with
  | done => simp
  | next first _ ih =>
      intro draw member
      rcases List.mem_cons.mp member with rfl | inside
      · exact first.positive
      · exact ih draw inside

/-- A reservation after a total was taken from it. -/
def leftAfter (total : Int) (row : InventoryReservation) : InventoryReservation :=
  if total = 0 then row else drawn total row

theorem drawn_drawn (first second : Int) (row : InventoryReservation) :
    drawn second (drawn first row) = drawn (first + second) row := by
  simp only [drawn, Int.sub_sub]

/-- A reservation gives exactly what the draws take from it, and never more than
it has. -/
theorem Drew.run_reservation (run : Run (Drew command orderId) b draws b') {id : Nat}
    {row : InventoryReservation} (found : b.reservations.find? id = some row) :
    b'.reservations.find? id = some (leftAfter (takenFrom draws id) row) ∧
      (takenFrom draws id ≠ 0 → Holds orderId row ∧ takenFrom draws id ≤ row.reservedQuantity) := by
  induction run generalizing row with
  | done => exact ⟨by simpa [leftAfter] using found, fun taken => absurd rfl taken⟩
  | @next b mid b' draw rest first more ih =>
      have positive := Drew.run_positive more
      have above := takenFrom_nonneg positive id
      rw [takenFrom_cons]
      obtain ⟨reservation, held, holds, within, -⟩ := first.held
      by_cases here : draw.1.id = id
      · subst here
        rw [held] at found
        cases found
        have foundMid : mid.reservations.find? draw.1.id = some (drawn draw.2 row) := by
          rw [first.reservations]
          exact Table.find?_modify_self _ held
        obtain ⟨foundLater, within'⟩ := ih foundMid
        have taken := first.positive
        rw [if_pos rfl]
        constructor
        · rw [foundLater]
          congr 1
          simp only [leftAfter]
          by_cases last : takenFrom rest draw.1.id = 0
          · rw [if_pos last, last, if_neg (by omega), Int.add_zero]
          · rw [if_neg last, if_neg (by omega), drawn_drawn]
        · intro _
          refine ⟨holds, ?_⟩
          by_cases last : takenFrom rest draw.1.id = 0
          · omega
          · have := (within' last).2
            simp only [drawn] at this
            omega
      · have foundMid : mid.reservations.find? id = some row := by
          rw [first.reservations, Table.find?_modify_ne _ _ fun same => here same.symm]
          exact found
        rw [if_neg here, Int.zero_add]
        exact ih foundMid

theorem Drew.run_batch (run : Run (Drew command orderId) b draws b') {id : Nat}
    {row : InventoryBatch} (found : b.batches.find? id = some row) :
    b'.batches.find? id = some (unlocked (usedOf draws id) row) ∧
      (usedOf draws id ≠ 0 → usedOf draws id ≤ row.lockedQuantity) := by
  induction run generalizing row with
  | done => exact ⟨by simpa [unlocked, usedOf] using found, fun used => absurd rfl used⟩
  | @next b mid b' draw rest first more ih =>
      have positive := Drew.run_positive more
      rw [usedOf_cons]
      obtain ⟨batch, stored, enough, -⟩ := first.stored
      by_cases here : draw.1.batchId = id
      · subst here
        rw [stored] at found
        cases found
        have foundMid : mid.batches.find? draw.1.batchId = some (unlocked draw.2 row) := by
          rw [first.batches]
          exact Table.find?_modify_self _ stored
        obtain ⟨foundLater, within⟩ := ih foundMid
        rw [if_pos rfl]
        constructor
        · rw [foundLater]
          simp only [unlocked, Int.sub_sub]
        · intro _
          by_cases last : usedOf rest draw.1.batchId = 0
          · omega
          · have := within last
            simp only [unlocked] at this
            omega
      · have foundMid : mid.batches.find? id = some row := by
          rw [first.batches, Table.find?_modify_ne _ _ fun same => here same.symm]
          exact found
        rw [if_neg here, Int.zero_add]
        exact ih foundMid

theorem Drew.run_movements (run : Run (Drew command orderId) b draws b') :
    b'.movements = recorded command b.movements draws := by
  induction run with
  | done => rfl
  | next first _ ih => rw [ih, first.movements, recorded]

end

/-! ## The order of the draws -/

theorem poolBefore_iff (a b : PoolRow) :
    poolBefore a b ↔ b.priority < a.priority ∨ (b.priority = a.priority ∧ a.id ≤ b.id) := by
  unfold poolBefore
  rw [Ordering.isLE_then_iff_or, compare_lt_iff_lt, compare_eq_iff_eq,
    ← Ordering.ne_gt_iff_isLE, compare_gt_iff_gt, not_lt]

theorem pool_sorted (db : Database) (orderId : Nat) (wanted : Option String) :
    (readReservationPool db orderId wanted).Pairwise poolBefore := by
  have total : Std.Total poolBefore := ⟨fun a b => by
    rw [poolBefore_iff, poolBefore_iff]
    omega⟩
  have transitive : IsTrans PoolRow poolBefore := ⟨fun a b c => by
    rw [poolBefore_iff, poolBefore_iff, poolBefore_iff]
    omega⟩
  exact List.pairwise_insertionSort poolBefore _

/-- Priority first, then the key: the order in which reservations are used. -/
def UsedBefore (a b : Nat × InventoryReservation) : Prop :=
  b.2.priority < a.2.priority ∨ (a.2.priority = b.2.priority ∧ a.1 < b.1)

/-- A reservation of an order on a component. -/
structure HeldOn (b : Books) (orderId : Nat) (sku : String) (r : Nat × InventoryReservation) :
    Prop where
  found : b.reservations.find? r.1 = some r.2
  holds : Holds orderId r.2
  component : onSku b.batches (some sku) r.2 = true

/-- A reservation is drawn on only when those that come before it on the same
component are used up. -/
def InOrder (orderId : Nat) (b : Books) (draws : List Draw) : Prop :=
  ∀ sku first second, HeldOn b orderId sku first → HeldOn b orderId sku second →
    UsedBefore first second → 0 < first.2.reservedQuantity → takenFrom draws second.1 ≠ 0 →
    takenFrom draws first.1 = first.2.reservedQuantity

theorem pooled {sku : String} {r : Nat × InventoryReservation}
    (held : HeldOn (booksOf db) orderId sku r) :
    ∃ row ∈ readReservationPool db orderId (some sku), row.id = r.1 ∧
      row.reservedQuantity = r.2.reservedQuantity ∧ row.priority = r.2.priority := by
  obtain ⟨batch, foundBatch, same⟩ := Option.any_eq_true _ _ |>.mp held.component
  refine ⟨{ id := r.1, batchId := r.2.batchId, reservedQuantity := r.2.reservedQuantity
            priority := r.2.priority, warehouseId := batch.warehouseId
            lockedQuantity := batch.lockedQuantity, sku := batch.sku }, ?_, rfl, rfl, rfl⟩
  rw [readReservationPool_eq, List.mem_insertionSort]
  refine List.mem_filterMap.mpr ⟨r, mem_heldBy.mpr ⟨held.found, held.holds⟩, ?_⟩
  rw [poolRow, show (db inventoryBatches).find? r.2.batchId = some batch from foundBatch]
  exact if_pos (by simpa [among] using same)

theorem mem_supplies {rows : List PoolRow} {supply : Draw} :
    supply ∈ supplies rows ↔
      supply.1 ∈ rows ∧ supply.2 = supply.1.reservedQuantity ∧ 0 < supply.2 := by
  rw [supplies, List.mem_filter, List.mem_map, decide_eq_true_eq]
  constructor
  · rintro ⟨⟨row, member, rfl⟩, positive⟩
    exact ⟨member, rfl, positive⟩
  · rintro ⟨member, same, positive⟩
    exact ⟨⟨supply.1, member, Prod.ext rfl same.symm⟩, positive⟩

theorem supplies_keys (rows : List PoolRow) :
    ((supplies rows).map (·.1)).Sublist rows := by
  have same : (rows.map fun row => (row, row.reservedQuantity)).map (·.1) = rows := by
    rw [List.map_map]
    exact List.map_id rows
  have sub := (List.filter_sublist (p := fun supply : Draw => decide (0 < supply.2))
    (l := rows.map fun row => (row, row.reservedQuantity))).map (·.1)
  rw [same] at sub
  exact sub

theorem supplies_distinct {rows : List PoolRow} (distinct : (rows.map (·.id)).Nodup) :
    ((supplies rows).map (·.1)).Nodup :=
  (distinct.of_map _).sublist (supplies_keys rows)

theorem plan_inOrder {sku : String} {quantity : Int}
    (run : Run (Drew command orderId) (booksOf db)
      (Greedy.plan quantity (supplies (readReservationPool db orderId (some sku)))).taken
      (booksOf db')) :
    InOrder orderId (booksOf db)
      (Greedy.plan quantity (supplies (readReservationPool db orderId (some sku)))).taken := by
  intro component first second held held' before stocked taken
  obtain ⟨draw, member, drawnOn⟩ := drawn_of_takenFrom taken
  obtain ⟨available, supplied⟩ := Greedy.plan_drawn draw member
  have inPool := (mem_supplies.mp supplied).1
  have distinct := supplies_distinct (pool_distinct db orderId (some sku))
  -- the component is the one that the pool is for
  have same : component = sku := by
    have current := mem_pool inPool
    obtain ⟨reservation, found, -, -, batchId⟩ := current.reservation
    obtain ⟨batch, foundBatch, batchSku, -⟩ := current.batch
    obtain ⟨batch', foundBatch', same⟩ := Option.any_eq_true _ _ |>.mp held'.component
    rw [drawnOn] at found
    have := held'.found
    rw [show (booksOf db).reservations.find? second.1 = some reservation from found] at this
    cases this
    rw [batchId, show (booksOf db).batches.find? draw.1.batchId = some batch from foundBatch]
      at foundBatch'
    cases foundBatch'
    have wanted := current.wanted
    simp only [among, Option.all_some, beq_iff_eq] at wanted same
    rw [← wanted, ← batchSku, same]
  subst same
  obtain ⟨row, pooledRow, id, reserved, priority⟩ := pooled held
  obtain ⟨row', pooledRow', id', -, priority'⟩ := pooled held'
  have unique : draw.1 = row' := by
    refine List.inj_on_of_nodup_map (pool_distinct db orderId (some component)) inPool pooledRow' ?_
    rw [drawnOn, id']
  obtain ⟨earlier, after, split⟩ := List.append_of_mem supplied
  have supply : (row, row.reservedQuantity) ∈
      supplies (readReservationPool db orderId (some component)) :=
    mem_supplies.mpr ⟨pooledRow, rfl, by dsimp only; omega⟩
  have sorted : ((supplies (readReservationPool db orderId (some component))).map (·.1)).Pairwise
      poolBefore := (pool_sorted db orderId (some component)).sublist (supplies_keys _)
  have whole : (row, row.reservedQuantity) ∈ (Greedy.plan quantity
      (supplies (readReservationPool db orderId (some component)))).taken := by
    refine Greedy.plan_before distinct split member rfl _ ?_
    rw [split] at supply sorted
    rcases List.mem_append.mp supply with inside | later
    · exact inside
    · exfalso
      rw [List.map_append, List.map_cons, List.pairwise_append] at sorted
      rcases List.mem_cons.mp later with here | beyond
      · have : row = row' := by
          rw [← unique]
          exact congrArg Prod.fst here
        unfold UsedBefore at before
        subst this
        omega
      · have wrong := (List.pairwise_cons.mp sorted.2.1).1 row
          (List.mem_map.mpr ⟨_, beyond, rfl⟩)
        rw [unique, poolBefore_iff] at wrong
        unfold UsedBefore at before
        omega
  have positive := Drew.run_positive run
  have least := le_takenFrom positive whole
  have most := (Drew.run_reservation run held.found).2
  dsimp only at least
  rw [id, reserved] at least
  have := (most (by omega)).2
  omega

theorem Drew.run_component {b b' : Books} {draws : List Draw}
    (run : Run (Drew command orderId) b draws b') (wanted : Option String)
    (row : InventoryReservation) :
    onSku b'.batches wanted row = onSku b.batches wanted row := by
  induction run with
  | done => rfl
  | next first _ ih =>
      rw [ih]
      simp only [onSku, first.batches, Table.find?_modify]
      split
      · rw [Option.any_map]
        rfl
      · rfl

theorem InOrder.append {b mid b' : Books} {draws later : List Draw}
    (first : Run (Drew command orderId) b draws mid) (second : Run (Drew command orderId) mid later b')
    (inOrder : InOrder orderId b draws) (laterInOrder : InOrder orderId mid later) :
    InOrder orderId b (draws ++ later) := by
  intro sku one two held held' before stocked taken
  obtain ⟨foundOne, gave⟩ := Drew.run_reservation first held.found
  obtain ⟨foundTwo, -⟩ := Drew.run_reservation first held'.found
  have limit := (Drew.run_reservation (first.append second) held.found).2
  have early := takenFrom_nonneg (Drew.run_positive first) one.1
  have late := takenFrom_nonneg (Drew.run_positive second) one.1
  rw [takenFrom_append] at taken limit ⊢
  by_cases here : takenFrom draws two.1 = 0
  · rw [here, Int.zero_add] at taken
    rw [leftAfter, if_pos here] at foundTwo
    have heldTwo : HeldOn mid orderId sku two :=
      ⟨foundTwo, held'.holds, by rw [Drew.run_component first]; exact held'.component⟩
    by_cases idle : takenFrom draws one.1 = 0
    · rw [leftAfter, if_pos idle] at foundOne
      have heldOne : HeldOn mid orderId sku one :=
        ⟨foundOne, held.holds, by rw [Drew.run_component first]; exact held.component⟩
      rw [idle, Int.zero_add]
      exact laterInOrder sku one two heldOne heldTwo before stocked taken
    · have within := (gave idle).2
      by_cases used : takenFrom draws one.1 = one.2.reservedQuantity
      · have := (limit (by omega)).2
        omega
      · -- something is left of the first reservation, and the later draws use it up
        rw [leftAfter, if_neg idle] at foundOne
        have heldOne : HeldOn mid orderId sku (one.1, drawn (takenFrom draws one.1) one.2) :=
          { found := foundOne
            holds := ⟨by simp only [drawn]; rw [if_neg (by omega)],
              held.holds.entityType, held.holds.entityId⟩
            component := by
              rw [Drew.run_component first]
              exact held.component }
        have rest := laterInOrder sku _ two heldOne heldTwo before
          (by simp only [drawn]; omega) taken
        simp only [drawn] at rest
        omega
  · have whole := inOrder sku one two held held' before stocked here
    have := (limit (by omega)).2
    omega

/-! ## A list of reports -/

theorem updateMaterial_draws {input : MaterialReport} {exceeds : Bool}
    (returns : (updateMaterial command orderId input).Returns db exceeds sent db') :
    ∃ line component, (db productionMaterialLines).find? input.id = some line ∧
      (db bomComponents).find? line.bomComponentId = some component ∧
      (Greedy.plan (input.spent - spent line)
        (supplies (readReservationPool db orderId (some component.componentSku)))).left = 0 ∧
      Run (Drew command orderId) (booksOf db) (Greedy.plan (input.spent - spent line)
        (supplies (readReservationPool db orderId (some component.componentSku)))).taken
        (booksOf db') := by
  simp only [updateMaterial, returns_bind_identifier, returns_bind_integer, returns_bind_refuseIf,
    returns_bind_query, returns_bind_orThrow] at returns
  obtain ⟨-, -, -, -, -, ⟨line, component⟩, found, increasing, returns⟩ := returns
  obtain ⟨rows, _, mid, _, locks, later, rfl⟩ := returns_bind.mp returns
  obtain ⟨rfl, rfl, -, kept⟩ := lockActiveReservations_returns locks
  simp only [returns_bind_refuseIf, returns_bind_updateRow, returns_bind_widen,
    returns_pure, not_lt] at later
  obtain ⟨-, -, _, _, last, _, consumes, ⟨rfl, rfl, rfl⟩, rfl⟩ := later
  obtain ⟨row, foundRow, joined⟩ := Option.bind_eq_some_iff.mp found
  split at joined
  · obtain ⟨_, foundComponent, same⟩ := Option.map_eq_some_iff.mp joined
    cases same
    push Not at increasing
    have stock : ∀ lines, stockOf (mid.put productionMaterialLines lines) = stockOf db := by
      intro lines
      simp [stockOf, kept]
    have current : ∀ row ∈ readReservationPool db orderId (some component.componentSku),
        ∀ lines, Current (stockOf (mid.put productionMaterialLines lines)) orderId
          (some component.componentSku) row := by
      intro row member lines
      rw [stock]
      exact mem_pool member
    obtain ⟨whole, run⟩ := consumeReservedInventory_draws
      (pool_distinct db orderId (some component.componentSku))
      (fun row member => current row member _)
      (by dsimp only at increasing ⊢; omega) consumes
    have quantity : input.consumedQuantity - line.consumedQuantity +
        (input.lossQuantity - line.lossQuantity) = input.spent - spent line := by
      simp only [MaterialReport.spent, spent]
      omega
    rw [quantity] at whole run
    have books : ∀ lines, booksOf (mid.put productionMaterialLines lines) = booksOf db := by
      intro lines
      simp [booksOf, kept]
    rw [books] at run
    exact ⟨line, component, foundRow, foundComponent, whole, run⟩
  · cases joined

/-- The draws name reservations of the order as they were, with their batches. -/
def Drew.Labels (b : Books) (orderId : Nat) (draw : Draw) : Prop :=
  ∃ reservation batch, b.reservations.find? draw.1.id = some reservation ∧
    Holds orderId reservation ∧ reservation.batchId = draw.1.batchId ∧
    b.batches.find? draw.1.batchId = some batch ∧ batch.warehouseId = draw.1.warehouseId ∧
    batch.sku = draw.1.sku

theorem Drew.held_before {b b' : Books} {draw : Draw} {id : Nat} {row : InventoryReservation}
    (drew : Drew command orderId b draw b') (found : b'.reservations.find? id = some row)
    (holds : Holds orderId row) :
    ∃ old, b.reservations.find? id = some old ∧ Holds orderId old ∧ old.batchId = row.batchId := by
  rw [drew.reservations] at found
  rcases Table.find?_modify_cases found with ⟨rfl, old, before, rfl⟩ | ⟨-, before⟩
  · obtain ⟨reservation, held, holds, -⟩ := drew.held
    rw [before] at held
    cases held
    exact ⟨old, before, holds, rfl⟩
  · exact ⟨row, before, holds, rfl⟩

theorem Drew.stored_before {b b' : Books} {draw : Draw} {id : Nat} {row : InventoryBatch}
    (drew : Drew command orderId b draw b') (found : b'.batches.find? id = some row) :
    ∃ old, b.batches.find? id = some old ∧ old.warehouseId = row.warehouseId ∧
      old.sku = row.sku := by
  rw [drew.batches] at found
  rcases Table.find?_modify_cases found with ⟨rfl, old, before, rfl⟩ | ⟨-, before⟩
  · exact ⟨old, before, rfl, rfl⟩
  · exact ⟨row, before, rfl, rfl⟩

theorem Drew.run_labels {b b' : Books} {draws : List Draw}
    (run : Run (Drew command orderId) b draws b') : ∀ draw ∈ draws, Drew.Labels b orderId draw := by
  induction run with
  | done => simp
  | @next b mid b' first rest drew _ ih =>
      intro draw member
      rcases List.mem_cons.mp member with rfl | inside
      · obtain ⟨reservation, held, holds, -, batchId⟩ := drew.held
        obtain ⟨batch, stored, -, labels⟩ := drew.stored
        exact ⟨reservation, batch, held, holds, batchId, stored, labels⟩
      · obtain ⟨reservation, batch, held, holds, batchId, stored, warehouse, sku⟩ := ih draw inside
        obtain ⟨old, before, holdsBefore, same⟩ := drew.held_before held holds
        obtain ⟨oldBatch, storedBefore, warehouse', sku'⟩ := drew.stored_before stored
        exact ⟨old, oldBatch, before, holdsBefore, same.trans batchId, storedBefore,
          warehouse'.trans warehouse, sku'.trans sku⟩

/-- What the draws take of a component is what the reservations on it give. -/
theorem takenOf_eq {b : Books} {draws : List Draw} (sku : String)
    (labels : ∀ draw ∈ draws, Drew.Labels b orderId draw) :
    takenOf draws sku = b.reservations.weigh fun id row =>
      if Holds orderId row ∧ onSku b.batches (some sku) row = true then takenFrom draws id else 0 := by
  induction draws with
  | nil =>
      rw [Table.weigh_zero]
      · rfl
      · intro id row _
        simp
  | cons draw rest ih =>
      obtain ⟨reservation, batch, held, holds, batchId, stored, -, sameSku⟩ :=
        labels draw List.mem_cons_self
      have more := ih fun other member => labels other (List.mem_cons_of_mem _ member)
      have here := Table.weigh_single held (if draw.1.sku = sku then draw.2 else 0)
      rw [takenOf, List.map_cons, List.sum_cons, ← here]
      rw [takenOf] at more
      rw [more, ← Table.weigh_add]
      refine Table.weigh_congr ?_
      intro id row found
      rw [takenFrom_cons]
      by_cases same : id = draw.1.id
      · subst same
        rw [held] at found
        cases found
        have component : onSku b.batches (some sku) reservation = true ↔ draw.1.sku = sku := by
          rw [onSku, batchId, stored, Option.any_some, among, sameSku]
          simp
        by_cases wanted : draw.1.sku = sku <;> simp [holds, component, wanted]
      · have apart : ¬ draw.1.id = id := fun equal => same equal.symm
        simp [same, apart]

/-- What a plan over the pool of a component takes is all of that component. -/
theorem takenOf_plan {component : String} {quantity : Int} (sku : String)
    (whole : (Greedy.plan quantity
      (supplies (readReservationPool db orderId (some component)))).left = 0) :
    takenOf (Greedy.plan quantity
      (supplies (readReservationPool db orderId (some component)))).taken sku =
      if component = sku then quantity else 0 := by
  have total := Greedy.plan_total quantity (supplies (readReservationPool db orderId (some component)))
  rw [whole, Int.add_zero] at total
  have labels : ∀ draw ∈ (Greedy.plan quantity
      (supplies (readReservationPool db orderId (some component)))).taken,
      draw.1.sku = component := by
    intro draw member
    obtain ⟨available, supplied⟩ := Greedy.plan_drawn draw member
    have wanted := (mem_pool (mem_supplies.mp supplied).1).wanted
    simpa [among] using wanted
  have same : ∀ draw ∈ (Greedy.plan quantity
      (supplies (readReservationPool db orderId (some component)))).taken,
      (if draw.1.sku = sku then draw.2 else 0) = if component = sku then draw.2 else 0 := by
    intro draw member
    rw [labels draw member]
  rw [takenOf, List.map_congr_left same]
  by_cases wanted : component = sku
  · simp only [wanted, if_true]
    exact wanted ▸ total
  · simp [wanted]

/-- What the order's reservations on a component gave. -/
def given (db db' : Database) (orderId : Nat) (sku : String) : Int :=
  (db inventoryReservations).weigh fun id row =>
    if Holds orderId row ∧ onSku (db inventoryBatches) (some sku) row = true then
      row.reservedQuantity -
        ((db' inventoryReservations).find? id).elim 0 (·.reservedQuantity)
    else 0

/-- What a report of materials took, draw by draw. -/
structure TookExactly (command : CommandContext) (orderId : Nat) (draws : List Draw)
    (db db' : Database) : Prop where
  positive : ∀ draw ∈ draws, 0 < draw.2
  labels : ∀ draw ∈ draws, Drew.Labels (booksOf db) orderId draw
  reservations : ∀ id row, (db inventoryReservations).find? id = some row →
    ∃ row', (db' inventoryReservations).find? id = some row' ∧
      row.reservedQuantity - row'.reservedQuantity = takenFrom draws id ∧
      (takenFrom draws id = 0 → row' = row) ∧
      (takenFrom draws id ≠ 0 → 0 ≤ row'.reservedQuantity ∧
        (row'.status = .consumed ↔ row'.reservedQuantity = 0))
  batches : ∀ id row, (db inventoryBatches).find? id = some row →
    ∃ row', (db' inventoryBatches).find? id = some row' ∧
      row.lockedQuantity - row'.lockedQuantity = usedOf draws id ∧
      { row' with lockedQuantity := row.lockedQuantity } = row ∧
      (usedOf draws id ≠ 0 → 0 ≤ row'.lockedQuantity)
  movements : db' inventoryMovements = recorded command (db inventoryMovements) draws
  totals : ∀ sku, given db db' orderId sku =
    spentTotal db' orderId (some sku) - spentTotal db orderId (some sku)
  order : InOrder orderId (booksOf db) draws

theorem reports_draws {inputs : List MaterialReport} {flags : List Bool}
    (returns : (collect (updateMaterial command orderId) inputs).Returns db flags sent db') :
    ∃ draws, Run (Drew command orderId) (booksOf db) draws (booksOf db') ∧
      InOrder orderId (booksOf db) draws ∧
      ∀ sku, takenOf draws sku =
        spentTotal db' orderId (some sku) - spentTotal db orderId (some sku) := by
  induction inputs generalizing db flags sent with
  | nil =>
      obtain ⟨rfl, rfl, rfl⟩ := returns_collect_nil.mp returns
      refine ⟨[], Run.done, ?_, fun sku => by simp [takenOf]⟩
      intro sku first second _ _ _ _ taken
      exact absurd rfl taken
  | cons input rest ih =>
      obtain ⟨exceeds, head, mid, others, later, one, tail, rfl, rfl⟩ :=
        returns_collect_cons.mp returns
      obtain ⟨line, component, foundLine, foundComponent, whole, run⟩ := updateMaterial_draws one
      obtain ⟨-, -, line', component', moves, reported⟩ := updateMaterial_returns one
      have sameLine := foundLine.symm.trans reported.foundLine
      cases sameLine
      have sameComponent := foundComponent.symm.trans reported.foundComponent
      cases sameComponent
      obtain ⟨more, laterRun, inOrder, totals⟩ := ih tail
      refine ⟨_, run.append laterRun, (plan_inOrder run).append run laterRun inOrder, ?_⟩
      intro sku
      rw [takenOf_append, takenOf_plan sku whole, totals, reported.spentTotal]
      have wanted : among (some sku) component.componentSku = true ↔
          component.componentSku = sku := by
        simp [among]
      simp only [true_and, wanted]
      split <;> omega

theorem updateMaterials_took {raw : List MaterialReport} {deviates : Bool}
    (returns : (updateMaterials command orderId raw).Returns db deviates sent db') :
    ∃ draws, TookExactly command orderId draws db db' := by
  unfold updateMaterials at returns
  obtain ⟨flags, first, mid, _, loop, done, rfl⟩ := returns_bind.mp returns
  obtain ⟨rfl, rfl, rfl⟩ := returns_pure.mp done
  obtain ⟨draws, run, inOrder, totals⟩ := reports_draws loop
  have labels := Drew.run_labels run
  refine ⟨draws, ?_⟩
  exact
    { positive := Drew.run_positive run
      labels := labels
      reservations := by
        intro id row found
        obtain ⟨foundAfter, within⟩ := Drew.run_reservation run found
        refine ⟨_, foundAfter, ?_, ?_, ?_⟩
        · unfold leftAfter
          split
          · omega
          · simp only [drawn]
            omega
        · exact fun none => if_pos none
        · intro taken
          have := (within taken).2
          rw [leftAfter, if_neg taken]
          refine ⟨by simp only [drawn]; omega, ?_⟩
          simp only [drawn]
          split <;> simp_all
      batches := by
        intro id row found
        obtain ⟨foundAfter, within⟩ := Drew.run_batch run found
        refine ⟨_, foundAfter, by simp only [unlocked]; omega, rfl, ?_⟩
        intro used
        have := within used
        simp only [unlocked]
        omega
      movements := Drew.run_movements run
      totals := by
        intro sku
        rw [← totals sku, takenOf_eq sku labels, given]
        refine Table.weigh_congr ?_
        intro id row found
        have foundAfter : (db' inventoryReservations).find? id =
            some (leftAfter (takenFrom draws id) row) := (Drew.run_reservation run found).1
        rw [foundAfter]
        simp only [leftAfter, Option.elim_some]
        refine ite_congr rfl (fun _ => ?_) (fun _ => rfl)
        split
        · omega
        · simp only [drawn]
          omega
      order := inOrder }

/-! ## A pool that is too small -/

/-- What the active reservations of an order on a component can give. -/
def capacity (db : Database) (orderId : Nat) (sku : String) : Int :=
  (db inventoryReservations).weigh fun _ row =>
    if Holds orderId row ∧ onSku (db inventoryBatches) (some sku) row = true then
      max 0 row.reservedQuantity
    else 0

/-- The reports use up more of a component than its reservations can give. -/
def Short (db : Database) (orderId : Nat) (sku : String) (raw : List MaterialReport) : Prop :=
  capacity db orderId sku <
    spentAfter db orderId (some sku) raw - spentTotal db orderId (some sku)

theorem TookExactly.within {draws : List Draw} (took : TookExactly command orderId draws db db')
    (sku : String) : given db db' orderId sku ≤ capacity db orderId sku := by
  refine Table.weigh_mono ?_
  intro id row found
  obtain ⟨row', found', taken, same, used⟩ := took.reservations id row found
  rw [found']
  dsimp only [Option.elim_some]
  split
  · by_cases none : takenFrom draws id = 0
    · rw [same none]
      omega
    · have := (used none).1
      omega
  · exact Int.le_refl _

theorem updateMaterials_not_short {raw : List MaterialReport} {deviates : Bool}
    (returns : (updateMaterials command orderId raw).Returns db deviates sent db') (sku : String) :
    ¬ Short db orderId sku raw := by
  obtain ⟨draws, took⟩ := updateMaterials_took returns
  obtain ⟨-, -, moves, reported⟩ := updateMaterials_returns returns
  have within := took.within sku
  rw [took.totals sku, reported.spentTotal] at within
  exact not_lt.mpr within

/-- The lines that a transition reports. -/
def ProductionAction.reports : ProductionAction → Option (List MaterialReport)
  | .materials lines | .complete _ lines => some lines
  | .start | .releaseMaterials => none

theorem transition_reports {body : TransitionProductionOrder} {raw : List MaterialReport}
    {reply : JsonValue} (reports : body.action.reports = some raw)
    (returns : (transitionProductionOrder command body).Returns db reply sent db') :
    ∃ start deviates first mid, SameRows db start ∧
      (updateMaterials command body.id raw).Returns start deviates first mid := by
  simp only [transitionProductionOrder, returns_bind_requireRole, returns_bind_identifier,
    returns_bind_query, returns_bind_orThrow, returns_bind_refuseIf, returns_bind_lockVersion]
    at returns
  obtain ⟨-, -, ⟨order, sku⟩, -, -, version, -, -, returns⟩ := returns
  have begins := sameRows_put db
    (lockedVersions (db resourceVersions) "execution_order" body.id)
  generalize db.put resourceVersions _ = start at begins returns
  cases action : body.action with
  | releaseMaterials =>
      rw [action] at reports
      cases reports
  | start =>
      rw [action] at reports
      cases reports
  | materials lines =>
      rw [action] at reports
      cases reports
      simp only [action, returns_bind_widen] at returns
      obtain ⟨deviates, first, mid, _, updates, -⟩ := returns
      exact ⟨start, deviates, first, mid, begins, updates⟩
  | complete actual lines =>
      rw [action] at reports
      cases reports
      simp only [action, returns_bind_widen] at returns
      obtain ⟨deviates, first, mid, _, updates, -⟩ := returns
      exact ⟨start, deviates, first, mid, begins, updates⟩

theorem SameRows.short {mid : Database} (same : SameRows db mid) (sku : String)
    (raw : List MaterialReport) : Short mid orderId sku raw ↔ Short db orderId sku raw := by
  simp only [Short, capacity, spentAfter, spentTotal, same.lineTotal,
    same inventoryReservations (by decide), same inventoryBatches (by decide)]

/-- The database that a unit of work leaves: one that throws is rolled back. -/
def leaves {writes : List TableName} {α : Type} (work : Tx writes α) (db : Database) : Database :=
  match work.run db with
  | .ok committed => committed.store
  | .error _ => db

theorem throws_of_not_returns {writes : List TableName} {α : Type} {work : Tx writes α}
    (never : ∀ a sent db', ¬ work.Returns db a sent db') :
    (∃ failure, work.Fails db failure) ∧ leaves work db = db := by
  unfold leaves
  cases outcome : work.run db with
  | ok committed => exact absurd outcome (never committed.value committed.sent committed.store)
  | error failure => exact ⟨⟨failure, outcome⟩, rfl⟩

/-- A report of materials takes from the reservations of the order exactly what
it uses up, in their order; where they cannot give it, the report throws, and
so does the command it is a part of. -/
theorem materials_exact (command : CommandContext) (orderId : Nat) (raw : List MaterialReport)
    (db : Database) :
    (∀ deviates sent db', (updateMaterials command orderId raw).Returns db deviates sent db' →
      ∃ draws, TookExactly command orderId draws db db') ∧
    (∀ sku, Short db orderId sku raw →
      ((∃ failure, (updateMaterials command orderId raw).Fails db failure) ∧
        leaves (updateMaterials command orderId raw) db = db) ∧
      ∀ body : TransitionProductionOrder, body.id = orderId → body.action.reports = some raw →
        (∃ failure, (transitionProductionOrder command body).Fails db failure) ∧
          leaves (transitionProductionOrder command body) db = db) := by
  constructor
  · intro deviates sent db' returns
    exact updateMaterials_took returns
  · intro sku short
    constructor
    · refine throws_of_not_returns ?_
      intro deviates sent db' returns
      exact updateMaterials_not_short returns sku short
    · rintro body rfl reports
      refine throws_of_not_returns ?_
      intro reply sent db' returns
      obtain ⟨start, deviates, first, mid, begins, updates⟩ := transition_reports reports returns
      exact updateMaterials_not_short updates sku ((begins.short sku raw).mpr short)

end SupplyChain.ProductionOrders
