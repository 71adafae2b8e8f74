import SupplyChain.ProductionOrders
import SupplyChain.Stock.Pool

/-!
The materials of a production order: the pool that a command reads is the pool
of the stock, and what it consumes or releases is taken out of that pool.
-/

namespace SupplyChain.ProductionOrders

open Relational Transaction TableName Stock

variable {command : CommandContext} {db db' : Database} {sent : List DomainEvent}
  {writes : List TableName} {orderId : Nat} {wanted : Option String}

/-! ## The pool that is read -/

/-- A row of the pool shows its reservation and its batch as they are. -/
structure Current (s : Stock) (orderId : Nat) (wanted : Option String) (row : PoolRow) : Prop where
  reservation : ∃ reservation, s.reservations.find? row.id = some reservation ∧
    Holds orderId reservation ∧ reservation.reservedQuantity = row.reservedQuantity ∧
    reservation.batchId = row.batchId
  batch : ∃ batch, s.batches.find? row.batchId = some batch ∧ batch.sku = row.sku ∧
    batch.warehouseId = row.warehouseId
  wanted : among wanted row.sku = true

/-- The active reservations of an order, before they are joined and sorted. -/
def heldBy (db : Database) (orderId : Nat) : List (Nat × InventoryReservation) :=
  (db inventoryReservations).select fun _ reservation =>
    reservation.entityType == .productionOrder && reservation.entityId == some orderId &&
      reservation.status == .active

/-- The row of the pool for a reservation. -/
def poolRow (db : Database) (wanted : Option String) (r : Nat × InventoryReservation) :
    Option PoolRow :=
  ((db inventoryBatches).find? r.2.batchId).bind fun batch =>
    if wanted.all (fun sku => batch.sku == sku) then
      some { id := r.1, batchId := r.2.batchId, reservedQuantity := r.2.reservedQuantity
             priority := r.2.priority, warehouseId := batch.warehouseId
             lockedQuantity := batch.lockedQuantity, sku := batch.sku }
    else none

theorem readReservationPool_eq (db : Database) (orderId : Nat) (wanted : Option String) :
    readReservationPool db orderId wanted =
      ((heldBy db orderId).filterMap (poolRow db wanted)).insertionSort poolBefore := rfl

theorem mem_heldBy {r : Nat × InventoryReservation} :
    r ∈ heldBy db orderId ↔ (db inventoryReservations).find? r.1 = some r.2 ∧ Holds orderId r.2 := by
  rw [heldBy, Table.mem_select]
  simp only [Bool.and_eq_true, beq_iff_eq]
  constructor
  · rintro ⟨found, ⟨entityType, entityId⟩, active⟩
    exact ⟨found, active, entityType, entityId⟩
  · rintro ⟨found, active, entityType, entityId⟩
    exact ⟨found, ⟨entityType, entityId⟩, active⟩

theorem poolRow_some {r : Nat × InventoryReservation} {row : PoolRow}
    (joined : poolRow db wanted r = some row) :
    row.id = r.1 ∧ row.batchId = r.2.batchId ∧ row.reservedQuantity = r.2.reservedQuantity ∧
      among wanted row.sku = true ∧ ∃ batch, (db inventoryBatches).find? r.2.batchId = some batch ∧
        batch.sku = row.sku ∧ batch.warehouseId = row.warehouseId := by
  obtain ⟨batch, found, joined⟩ := Option.bind_eq_some_iff.mp joined
  split at joined
  · rename_i inside
    cases joined
    exact ⟨rfl, rfl, rfl, inside, batch, found, rfl, rfl⟩
  · cases joined

theorem mem_pool {row : PoolRow} (member : row ∈ readReservationPool db orderId wanted) :
    Current (stockOf db) orderId wanted row := by
  rw [readReservationPool_eq, List.mem_insertionSort] at member
  obtain ⟨r, held, joined⟩ := List.mem_filterMap.mp member
  obtain ⟨found, holds⟩ := mem_heldBy.mp held
  obtain ⟨id, batchId, reserved, inside, batch, foundBatch, sku, warehouse⟩ := poolRow_some joined
  exact
    { reservation := ⟨r.2, by rw [id]; exact found, holds, reserved.symm, batchId.symm⟩
      batch := ⟨batch, by rw [batchId]; exact foundBatch, sku, warehouse⟩
      wanted := inside }

theorem pool_distinct (db : Database) (orderId : Nat) (wanted : Option String) :
    ((readReservationPool db orderId wanted).map (·.id)).Nodup := by
  rw [readReservationPool_eq, ((List.perm_insertionSort _ _).map _).nodup_iff]
  have ascending := (db inventoryReservations).select_ascending fun _ reservation =>
    reservation.entityType == .productionOrder && reservation.entityId == some orderId &&
      reservation.status == .active
  rw [List.Nodup, List.pairwise_map]
  refine ascending.filterMap (poolRow db wanted) ?_
  intro a b below row joined row' joined'
  rw [(poolRow_some joined).1, (poolRow_some joined').1]
  exact Nat.ne_of_lt below

theorem sum_filterMap {α β : Type} (f : α → Option β) (weight : β → Int) (items : List α) :
    ((items.filterMap f).map weight).sum = (items.map fun item => (f item).elim 0 weight).sum := by
  induction items with
  | nil => rfl
  | cons item rest ih =>
      cases kept : f item with
      | none => simp [kept, ih]
      | some value => simp [kept, ih]

/-- The pool that is read adds up to the pool of the stock. -/
theorem pool_sum (db : Database) (orderId : Nat) (wanted : Option String) :
    ((readReservationPool db orderId wanted).map (·.reservedQuantity)).sum =
      pool (stockOf db) orderId wanted := by
  rw [readReservationPool_eq, ((List.perm_insertionSort _ _).map _).sum_eq, sum_filterMap, heldBy]
  rw [(db inventoryReservations).sum_select _ fun id row =>
    (poolRow db wanted (id, row)).elim 0 (·.reservedQuantity)]
  refine Table.weigh_congr ?_
  intro id row found
  have held : (row.entityType == .productionOrder && row.entityId == some orderId &&
      row.status == .active) = true ↔ Holds orderId row := by
    have member := @mem_heldBy db orderId (id, row)
    rw [heldBy, Table.mem_select] at member
    simpa [found] using member
  have reserved : (poolRow db wanted (id, row)).elim 0 (·.reservedQuantity) =
      if onSku (db inventoryBatches) wanted row = true then row.reservedQuantity else 0 := by
    unfold poolRow onSku among
    cases (db inventoryBatches).find? row.batchId with
    | none => rfl
    | some batch =>
        simp only [Option.bind_some, Option.any_some]
        split <;> rfl
  simp only [held, reserved]
  by_cases holds : Holds orderId row <;> simp [holds, stockOf]

theorem Current.kept {s s' : Stock} {row : PoolRow} (current : Current s orderId wanted row)
    (kept : Kept s s') (same : ∀ reservation, s.reservations.find? row.id = some reservation →
      s'.reservations.find? row.id = some reservation) : Current s' orderId wanted row := by
  obtain ⟨reservation, found, rest⟩ := current.reservation
  obtain ⟨batch, foundBatch, sku, warehouse⟩ := current.batch
  obtain ⟨now, foundNow, -, warehouse', sku', -⟩ := kept.batches.kept _ _ foundBatch
  exact
    { reservation := ⟨reservation, same reservation found, rest⟩
      batch := ⟨now, foundNow, sku'.trans sku, warehouse'.trans warehouse⟩
      wanted := current.wanted }

/-- A move on the first row leaves the rows that follow current: they are on
other reservations. -/
theorem current_rest {s s' : Stock} {row : PoolRow} {rest : List PoolRow} {move : Move}
    (distinct : ((row :: rest).map (·.id)).Nodup)
    (current : ∀ other ∈ row :: rest, Current s orderId wanted other) (moved : Moved s move s')
    (onRow : move.reservationId = some row.id) :
    ∀ other ∈ rest, Current s' orderId wanted other := by
  intro other member
  refine (current other (List.mem_cons_of_mem _ member)).kept moved.kept ?_
  intro reservation found
  refine moved.otherReservation found ?_
  rw [onRow]
  intro same
  have listed : other.id ∈ rest.map (·.id) := List.mem_map_of_mem member
  rw [← Option.some.inj same] at listed
  exact (List.nodup_cons.mp distinct).1 listed

/-! ## Consumption and release -/

/-- A move on a row of the pool. -/
def OnPool (orderId : Nat) (pool : List PoolRow) (move : Move) : Prop :=
  ∃ row ∈ pool, ∃ quantity, move = .consume row.id row.batchId orderId row.sku quantity ∨
    move = .release row.id row.batchId orderId row.sku quantity

theorem OnPool.later {row : PoolRow} {rest : List PoolRow} {move : Move}
    (onPool : OnPool orderId rest move) : OnPool orderId (row :: rest) move := by
  obtain ⟨other, member, labels⟩ := onPool
  exact ⟨other, List.mem_cons_of_mem _ member, labels⟩

/-- What a move on the pool takes out of it. -/
def taken : Move → Int
  | .consume _ _ _ _ quantity | .release _ _ _ _ quantity => quantity
  | _ => 0

theorem consumeReservation_moves {row : PoolRow} {take : Int} {u : Unit}
    (current : Current (stockOf db) orderId wanted row) (positive : 0 < take)
    (returns : (consumeReservation command row take).Returns db u sent db') :
    sent = [] ∧ Moved (stockOf db) (.consume row.id row.batchId orderId row.sku take) (stockOf db') := by
  simp only [consumeReservation, returns_bind_updateRow, returns_bind_query,
    returns_insertMovement, Bool.and_eq_true, decide_eq_true_eq] at returns
  obtain ⟨⟨held, foundHeld, -, within⟩, ⟨locked, foundLocked, enough⟩, -, rfl, rfl⟩ := returns
  obtain ⟨reservation, found, holds, -, batchId⟩ := current.reservation
  obtain ⟨batch, foundBatch, sku, -⟩ := current.batch
  rw [stockOf, foundHeld] at found
  cases found
  simp only [Store.put_other, ne_eq, reduceCtorEq, not_false_eq_true] at foundLocked
  rw [stockOf, foundLocked] at foundBatch
  cases foundBatch
  rw [← batchId] at foundLocked ⊢
  have moved := Moved.consume (s := stockOf db) foundHeld holds positive within foundLocked enough
  rw [sku] at moved
  refine ⟨rfl, ?_⟩
  simp only [stockOf, Store.put_same, Store.put_other, ne_eq, reduceCtorEq, not_false_eq_true]
  exact moved

/-- What the loop consumes is what was wanted less what is left, all of it from
the pool. -/
theorem consumeFrom_moves {rows : List PoolRow} {remaining left : Int}
    (distinct : (rows.map (·.id)).Nodup)
    (current : ∀ row ∈ rows, Current (stockOf db) orderId wanted row) (nonneg : 0 ≤ remaining)
    (returns : (consumeFrom command rows remaining).Returns db left sent db') :
    sent = [] ∧ ∃ moves, Moves (stockOf db) moves (stockOf db') ∧
      (∀ move ∈ moves, OnPool orderId rows move) ∧ (moves.map taken).sum = remaining - left := by
  induction rows generalizing db remaining left sent with
  | nil =>
      obtain ⟨rfl, rfl, rfl⟩ := returns_pure.mp returns
      exact ⟨rfl, [], Run.done, by simp, by simp⟩
  | cons row rest ih =>
      have distinctRest := (List.nodup_cons.mp distinct).2
      unfold consumeFrom at returns
      rcases returns_ite.mp returns with ⟨met, returns⟩ | ⟨unmet, returns⟩
      · obtain ⟨rfl, rfl, rfl⟩ := returns_pure.mp returns
        exact ⟨rfl, [], Run.done, by simp, by simp [met]⟩
      · rcases returns_ite.mp returns with ⟨-, returns⟩ | ⟨stocked, returns⟩
        · obtain ⟨sends, moves, run, onPool, sum⟩ := ih distinctRest
            (fun other member => current other (List.mem_cons_of_mem _ member)) nonneg returns
          exact ⟨sends, moves, run, fun move member => (onPool move member).later, sum⟩
        · obtain ⟨_, first, mid, second, head, tail, rfl⟩ := returns_bind.mp returns
          have here := current row List.mem_cons_self
          obtain ⟨rfl, moved⟩ := consumeReservation_moves here (by omega) head
          have currentRest := current_rest distinct current moved rfl
          obtain ⟨rfl, moves, run, onPool, sum⟩ := ih distinctRest currentRest (by omega) tail
          refine ⟨rfl, _, Run.next moved run, ?_, ?_⟩
          · intro move member
            rcases List.mem_cons.mp member with rfl | inside
            · exact ⟨row, List.mem_cons_self, _, Or.inl rfl⟩
            · exact (onPool move inside).later
          · simp only [List.map_cons, List.sum_cons, sum, taken]
            omega

theorem consumeReservedInventory_moves {rows : List PoolRow} {quantity : Int} {u : Unit}
    (distinct : (rows.map (·.id)).Nodup)
    (current : ∀ row ∈ rows, Current (stockOf db) orderId wanted row)
    (nonneg : 0 ≤ quantity)
    (returns : (consumeReservedInventory command rows quantity).Returns db u sent db') :
    sent = [] ∧ ∃ moves, Moves (stockOf db) moves (stockOf db') ∧
      (∀ move ∈ moves, OnPool orderId rows move) ∧ (moves.map taken).sum = quantity := by
  unfold consumeReservedInventory at returns
  rcases returns_ite.mp returns with ⟨none, returns⟩ | ⟨-, returns⟩
  · obtain ⟨-, rfl, rfl⟩ := returns_pure.mp returns
    exact ⟨rfl, [], Run.done, by simp, by simp; omega⟩
  · obtain ⟨left, first, mid, second, loop, refused, rfl⟩ := returns_bind.mp returns
    obtain ⟨rfl, moves, run, onPool, sum⟩ := consumeFrom_moves distinct current nonneg loop
    obtain ⟨whole, rfl, rfl⟩ := returns_refuseIf.mp refused
    exact ⟨rfl, moves, run, onPool, by rw [sum, not_not.mp whole, Int.sub_zero]⟩

theorem releaseReservation_moves {row : PoolRow} {u : Unit}
    (current : Current (stockOf db) orderId wanted row) (positive : 0 < row.reservedQuantity)
    (returns : (releaseReservation command row row.reservedQuantity).Returns db u sent db') :
    sent = [] ∧ Moved (stockOf db)
      (.release row.id row.batchId orderId row.sku row.reservedQuantity) (stockOf db') := by
  simp only [releaseReservation, returns_bind_updateRow, returns_bind_query,
    returns_insertMovement, decide_eq_true_eq] at returns
  obtain ⟨-, ⟨locked, foundLocked, enough⟩, -, rfl, rfl⟩ := returns
  obtain ⟨reservation, found, holds, reserved, batchId⟩ := current.reservation
  obtain ⟨batch, foundBatch, sku, -⟩ := current.batch
  simp only [Store.put_other, ne_eq, reduceCtorEq, not_false_eq_true] at foundLocked
  rw [stockOf, foundLocked] at foundBatch
  cases foundBatch
  rw [← batchId] at foundLocked ⊢
  rw [← reserved] at positive enough ⊢
  have moved := Moved.release (s := stockOf db) found holds positive foundLocked enough
  rw [sku] at moved
  refine ⟨rfl, ?_⟩
  simp only [stockOf, Store.put_same, Store.put_other, ne_eq, reduceCtorEq, not_false_eq_true]
  exact moved

theorem releaseAll_moves {rows : List PoolRow} {released : Int}
    (distinct : (rows.map (·.id)).Nodup)
    (current : ∀ row ∈ rows, Current (stockOf db) orderId wanted row)
    (returns : (releaseAll command rows).Returns db released sent db') :
    sent = [] ∧ ∃ moves, Moves (stockOf db) moves (stockOf db') ∧
      (∀ move ∈ moves, OnPool orderId rows move) ∧ (moves.map taken).sum = released := by
  induction rows generalizing db released sent with
  | nil =>
      obtain ⟨rfl, rfl, rfl⟩ := returns_pure.mp returns
      exact ⟨rfl, [], Run.done, by simp, rfl⟩
  | cons row rest ih =>
      have distinctRest := (List.nodup_cons.mp distinct).2
      unfold releaseAll at returns
      rcases returns_ite.mp returns with ⟨-, returns⟩ | ⟨stocked, returns⟩
      · obtain ⟨sends, moves, run, onPool, sum⟩ := ih distinctRest
          (fun other member => current other (List.mem_cons_of_mem _ member)) returns
        exact ⟨sends, moves, run, fun move member => (onPool move member).later, sum⟩
      · obtain ⟨_, first, mid, second, head, tail, rfl⟩ := returns_bind.mp returns
        obtain ⟨others, third, _, _, loop, done, rfl⟩ := returns_bind.mp tail
        obtain ⟨rfl, rfl, rfl⟩ := returns_pure.mp done
        obtain ⟨rfl, moved⟩ :=
          releaseReservation_moves (current row List.mem_cons_self) (by omega) head
        obtain ⟨rfl, moves, run, onPool, sum⟩ := ih distinctRest
          (current_rest distinct current moved rfl) loop
        refine ⟨rfl, _, Run.next moved run, ?_, by simp [taken, sum]⟩
        intro move member
        rcases List.mem_cons.mp member with rfl | inside
        · exact ⟨row, List.mem_cons_self, _, Or.inr rfl⟩
        · exact (onPool move inside).later

/-! ## Reading the pool under the freeze -/

theorem lockFreezeForPool_returns [Writes resourceVersions writes] {rows : List PoolRow} {u : Unit}
    (returns : (lockFreezeForPool rows : Tx writes Unit).Returns db u sent db') :
    sent = [] ∧ (∀ row ∈ rows, frozen db row.warehouseId row.sku = false) ∧
      ∀ t, t ≠ resourceVersions → db' t = db t := by
  refine forEach_thawed (fun row : PoolRow => row.warehouseId) (fun row => row.sku) ?_ returns
  intro row s sends s' round
  simp only [returns_bind_freezeExists, returns_refuseIf, Bool.not_eq_true] at round
  obtain ⟨-, thawed, rfl, rfl⟩ := round
  exact ⟨rfl, thawed, fun t other => Store.put_other _ _ other⟩

/-- The pool that is locked is the pool as it is, and none of it is frozen. -/
theorem lockActiveReservations_returns [Writes resourceVersions writes] {rows : List PoolRow}
    (returns : (lockActiveReservations orderId wanted : Tx writes (List PoolRow)).Returns
      db rows sent db') :
    sent = [] ∧ rows = readReservationPool db orderId wanted ∧
      (∀ row ∈ rows, frozen db row.warehouseId row.sku = false) ∧
      ∀ t, t ≠ resourceVersions → db' t = db t := by
  simp only [lockActiveReservations, returns_bind_query] at returns
  obtain ⟨_, first, mid, second, locks, read, rfl⟩ := returns_bind.mp returns
  obtain ⟨rfl, rfl, rfl⟩ := returns_query.mp read
  obtain ⟨rfl, thawed, kept⟩ := lockFreezeForPool_returns locks
  have same : readReservationPool db' orderId wanted = readReservationPool db orderId wanted := by
    simp only [readReservationPool, kept inventoryReservations (by decide),
      kept inventoryBatches (by decide)]
  refine ⟨rfl, same, ?_, kept⟩
  rw [same]
  exact thawed

theorem releaseReservedMaterials_returns {released : Int}
    (returns : (releaseReservedMaterials command orderId).Returns db released sent db') :
    sent = [] ∧ 0 < released ∧
      (∀ row ∈ readReservationPool db orderId none, frozen db row.warehouseId row.sku = false) ∧
      ∃ moves, Moves (stockOf db) moves (stockOf db') ∧
        (∀ move ∈ moves, OnPool orderId (readReservationPool db orderId none) move) ∧
        (moves.map taken).sum = released := by
  unfold releaseReservedMaterials at returns
  obtain ⟨rows, _, mid, _, locks, later, rfl⟩ := returns_bind.mp returns
  obtain ⟨rfl, rfl, thawed, kept⟩ := lockActiveReservations_returns locks
  simp only [returns_bind_refuseIf, returns_bind_widen, returns_pure] at later
  obtain ⟨-, total, _, last, _, loop, ⟨positive, rfl, rfl, rfl⟩, rfl⟩ := later
  have stock : stockOf mid = stockOf db := by simp [stockOf, kept]
  obtain ⟨rfl, moves, run, onPool, sum⟩ := releaseAll_moves (pool_distinct db orderId none)
    (fun row member => by rw [stock]; exact mem_pool member) loop
  rw [stock] at run
  exact ⟨rfl, by omega, thawed, moves, run, onPool, sum⟩

/-! ## The report of a line -/

/-- The report is out of the tolerances of its line. -/
def deviating (db : Database) (input : MaterialReport) : Bool :=
  ((db productionMaterialLines).find? input.id).any fun line =>
    ((db bomComponents).find? line.bomComponentId).any fun component =>
      exceedsTolerance line.theoreticalQuantity input.issuedQuantity input.consumedQuantity
        input.lossQuantity component

/-- What the report of one material line did. -/
structure Reported (orderId : Nat) (input : MaterialReport) (line : ProductionMaterialLine)
    (component : BomComponent) (moves : List Move) (db db' : Database) : Prop where
  foundLine : (db productionMaterialLines).find? input.id = some line
  owned : line.executionOrderId = orderId
  foundComponent : (db bomComponents).find? line.bomComponentId = some component
  nonneg : 0 ≤ input.issuedQuantity ∧ 0 ≤ input.consumedQuantity ∧ 0 ≤ input.lossQuantity
  balanced : input.consumedQuantity + input.lossQuantity ≤ input.issuedQuantity
  increasing : line.issuedQuantity ≤ input.issuedQuantity ∧
    line.consumedQuantity ≤ input.consumedQuantity ∧ line.lossQuantity ≤ input.lossQuantity
  backed : input.issuedQuantity ≤ line.consumedQuantity + line.lossQuantity +
    pool (stockOf db) orderId (some component.componentSku)
  thawed : ∀ row ∈ readReservationPool db orderId (some component.componentSku),
    frozen db row.warehouseId row.sku = false
  lines : ∃ deviationStatus, db' productionMaterialLines =
    (db productionMaterialLines).modify input.id fun row => { row with
      issuedQuantity := input.issuedQuantity, consumedQuantity := input.consumedQuantity
      lossQuantity := input.lossQuantity, deviationStatus }
  judged : ∀ row, (db' productionMaterialLines).find? input.id = some row →
    row.deviationStatus = if deviating db input then .pendingApproval else .withinTolerance
  run : Moves (stockOf db) moves (stockOf db')
  onPool : ∀ move ∈ moves,
    OnPool orderId (readReservationPool db orderId (some component.componentSku)) move
  used : (moves.map taken).sum =
    input.consumedQuantity - line.consumedQuantity + (input.lossQuantity - line.lossQuantity)
  kept : ∀ t, t ∉ [resourceVersions, productionMaterialLines, inventoryReservations,
    inventoryBatches, inventoryMovements] → db' t = db t

theorem updateMaterial_returns {input : MaterialReport} {exceeds : Bool}
    (returns : (updateMaterial command orderId input).Returns db exceeds sent db') :
    sent = [] ∧ exceeds = deviating db input ∧
      ∃ line component moves, Reported orderId input line component moves db db' := by
  have frame := returns.unwritten
  simp only [updateMaterial, returns_bind_identifier, returns_bind_integer, returns_bind_refuseIf,
    returns_bind_query, returns_bind_orThrow] at returns
  obtain ⟨-, ⟨-, issued⟩, ⟨-, consumed⟩, ⟨-, loss⟩, balanced, ⟨line, component⟩, found, increasing,
    returns⟩ := returns
  obtain ⟨rows, _, mid, _, locks, later, rfl⟩ := returns_bind.mp returns
  obtain ⟨rfl, rfl, thawed, kept⟩ := lockActiveReservations_returns locks
  simp only [returns_bind_refuseIf, returns_bind_updateRow, returns_bind_widen,
    returns_pure, not_lt] at later
  obtain ⟨backed, -, _, _, last, _, consumes, ⟨rfl, rfl, rfl⟩, rfl⟩ := later
  obtain ⟨row, foundRow, joined⟩ := Option.bind_eq_some_iff.mp found
  split at joined
  · rename_i owned
    obtain ⟨_, foundComponent, same⟩ := Option.map_eq_some_iff.mp joined
    cases same
    push Not at increasing
    have stock : ∀ lines, stockOf (mid.put productionMaterialLines lines) = stockOf db := by
      intro lines
      simp [stockOf, kept]
    obtain ⟨rfl, moves, run, onPool, used⟩ := consumeReservedInventory_moves
      (pool_distinct db orderId (some component.componentSku))
      (fun row member => by rw [stock]; exact mem_pool member)
      (by dsimp only at increasing ⊢; omega) consumes
    rw [stock] at run
    have lines := consumes.unwritten productionMaterialLines (by decide)
    have exceeds : deviating db input = exceedsTolerance line.theoreticalQuantity
        input.issuedQuantity input.consumedQuantity input.lossQuantity component := by
      simp [deviating, foundRow, foundComponent]
    refine ⟨rfl, exceeds.symm, line, component, moves, ?_⟩
    exact
      { foundLine := foundRow
        owned := owned
        foundComponent := foundComponent
        nonneg := ⟨issued, consumed, loss⟩
        balanced := not_lt.mp balanced
        increasing := ⟨by have := increasing.1; dsimp only at this; omega,
          by have := increasing.2.1; dsimp only at this; omega,
          by have := increasing.2.2; dsimp only at this; omega⟩
        backed := by
          rw [← pool_sum]
          exact backed
        thawed := thawed
        lines := ⟨_, by simpa [kept] using lines⟩
        judged := by
          intro row found
          simp only [Store.put_same, kept productionMaterialLines (by decide)] at lines
          rw [lines, Table.find?_modify_self _ foundRow] at found
          rw [← Option.some.inj found, exceeds]
        run := run
        onPool := onPool
        used := used
        kept := frame }
  · cases joined

/-- The report of a list of lines, one after the other. -/
inductive ReportedAll (orderId : Nat) :
    List MaterialReport → List Move → Database → Database → Prop
  | done {db : Database} : ReportedAll orderId [] [] db db
  | next {db mid db' : Database} {input : MaterialReport} {rest : List MaterialReport}
      {line : ProductionMaterialLine} {component : BomComponent} {moves later : List Move}
      (first : Reported orderId input line component moves db mid)
      (others : ReportedAll orderId rest later mid db') :
      ReportedAll orderId (input :: rest) (moves ++ later) db db'

/-- A report does not change what the tolerances of a line are measured by. -/
theorem Reported.deviating {input : MaterialReport} {line : ProductionMaterialLine}
    {component : BomComponent} {moves : List Move}
    (reported : Reported orderId input line component moves db db') (other : MaterialReport) :
    ProductionOrders.deviating db' other = ProductionOrders.deviating db other := by
  obtain ⟨deviationStatus, lines⟩ := reported.lines
  simp only [ProductionOrders.deviating, lines, reported.kept bomComponents (by decide),
    Table.find?_modify]
  by_cases same : other.id = input.id
  · rw [if_pos same]
    cases (db productionMaterialLines).find? other.id <;> rfl
  · rw [if_neg same]

theorem reports_returns {inputs : List MaterialReport} {flags : List Bool}
    (returns : (collect (updateMaterial command orderId) inputs).Returns db flags sent db') :
    sent = [] ∧ flags = inputs.map (deviating db) ∧
      ∃ moves, ReportedAll orderId inputs moves db db' := by
  induction inputs generalizing db flags sent with
  | nil =>
      obtain ⟨rfl, rfl, rfl⟩ := returns_collect_nil.mp returns
      exact ⟨rfl, rfl, [], ReportedAll.done⟩
  | cons input rest ih =>
      obtain ⟨exceeds, head, mid, others, later, one, tail, rfl, rfl⟩ :=
        returns_collect_cons.mp returns
      obtain ⟨rfl, rfl, line, component, moves, reported⟩ := updateMaterial_returns one
      obtain ⟨rfl, rfl, laterMoves, all⟩ := ih tail
      have same := List.map_congr_left fun other (_ : other ∈ rest) => reported.deviating other
      exact ⟨rfl, by rw [same, List.map_cons], _, ReportedAll.next reported all⟩

theorem updateMaterials_returns {inputs : List MaterialReport} {deviates : Bool}
    (returns : (updateMaterials command orderId inputs).Returns db deviates sent db') :
    sent = [] ∧ deviates = inputs.any (deviating db) ∧
      ∃ moves, ReportedAll orderId inputs moves db db' := by
  unfold updateMaterials at returns
  obtain ⟨flags, first, mid, _, loop, done, rfl⟩ := returns_bind.mp returns
  obtain ⟨rfl, rfl, rfl⟩ := returns_pure.mp done
  obtain ⟨rfl, rfl, reported⟩ := reports_returns loop
  exact ⟨rfl, by rw [List.any_map]; rfl, reported⟩

theorem ReportedAll.run {inputs : List MaterialReport} {moves : List Move}
    (reported : ReportedAll orderId inputs moves db db') :
    Moves (stockOf db) moves (stockOf db') := by
  induction reported with
  | done => exact Run.done
  | next first _ ih => exact first.run.append ih

theorem ReportedAll.onPool {inputs : List MaterialReport} {moves : List Move}
    (reported : ReportedAll orderId inputs moves db db') :
    ∀ move ∈ moves, ∃ rows, OnPool orderId rows move := by
  induction reported with
  | done => simp
  | next first _ ih =>
      intro move member
      rcases List.mem_append.mp member with here | later
      · exact ⟨_, first.onPool move here⟩
      · exact ih move later

/-- A move of the order on a batch that no open stocktake covers. -/
def OnThawed (db : Database) (orderId : Nat) (move : Move) : Prop :=
  ∃ reservationId batchId sku quantity, Thawed db batchId ∧
    (move = .consume reservationId batchId orderId sku quantity ∨
      move = .release reservationId batchId orderId sku quantity)

theorem OnPool.thawed {move : Move}
    (onPool : OnPool orderId (readReservationPool db orderId wanted) move)
    (thawed : ∀ row ∈ readReservationPool db orderId wanted,
      frozen db row.warehouseId row.sku = false) : OnThawed db orderId move := by
  obtain ⟨row, member, quantity, label⟩ := onPool
  obtain ⟨batch, found, sku, warehouse⟩ := (mem_pool member).batch
  refine ⟨row.id, row.batchId, row.sku, quantity, thawed_of_found found ?_, label⟩
  rw [warehouse, sku]
  exact thawed row member

/-- A batch that is thawed after moves of the stock was thawed before them. -/
theorem OnThawed.before {mid : Database} {move : Move} (onThawed : OnThawed mid orderId move)
    (kept : Stock.Kept (stockOf db) (stockOf mid)) (tasks : mid stocktakes = db stocktakes)
    (counts : mid stocktakeCounts = db stocktakeCounts) : OnThawed db orderId move := by
  obtain ⟨reservationId, batchId, sku, quantity, thawed, label⟩ := onThawed
  refine ⟨reservationId, batchId, sku, quantity, ?_, label⟩
  intro batch found
  obtain ⟨now, foundNow, -, warehouse, sameSku, -⟩ := kept.batches.kept _ _ found
  rw [← warehouse, ← sameSku, ← frozen_congr tasks counts]
  exact thawed now foundNow

theorem ReportedAll.onThawed {inputs : List MaterialReport} {moves : List Move}
    (reported : ReportedAll orderId inputs moves db db') :
    ∀ move ∈ moves, OnThawed db orderId move := by
  induction reported with
  | done => simp
  | next first _ ih =>
      intro move member
      rcases List.mem_append.mp member with here | later
      · exact (first.onPool move here).thawed first.thawed
      · exact (ih move later).before first.run.kept (first.kept _ (by decide))
          (first.kept _ (by decide))

theorem ReportedAll.kept {inputs : List MaterialReport} {moves : List Move}
    (reported : ReportedAll orderId inputs moves db db') :
    ∀ t, t ∉ [resourceVersions, productionMaterialLines, inventoryReservations,
      inventoryBatches, inventoryMovements] → db' t = db t := by
  induction reported with
  | done => exact fun _ _ => rfl
  | next first _ ih => exact fun t other => (ih t other).trans (first.kept t other)

end SupplyChain.ProductionOrders
