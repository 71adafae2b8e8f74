import SupplyChain.Stock
import SupplyChain.Relational.Runs

/-!
The stock as a ledger: its batches and the reservations on them, and the moves
that change them. A command makes a list of moves; what holds of the stock in
every reachable state is proved move by move.
-/

namespace SupplyChain

open Relational TableName

structure Stock where
  batches : Table InventoryBatch
  reservations : Table InventoryReservation

namespace Stock

def stockOf (db : Database) : Stock where
  batches := db inventoryBatches
  reservations := db inventoryReservations

def ActiveWarehouse (db : Database) (warehouseId : Nat) : Prop :=
  ∃ warehouse, (db warehouses).find? warehouseId = some warehouse ∧ warehouse.status = .active

/-- No open stocktake covers the batch. -/
def Thawed (db : Database) (batchId : Nat) : Prop :=
  ∀ batch, (db inventoryBatches).find? batchId = some batch →
    frozen db batch.warehouseId batch.sku = false

theorem thawed_of_found {db : Database} {batchId : Nat} {batch : InventoryBatch}
    (found : (db inventoryBatches).find? batchId = some batch)
    (thawed : frozen db batch.warehouseId batch.sku = false) : Thawed db batchId := by
  intro other foundOther
  obtain rfl : batch = other := Option.some.inj (found.symm.trans foundOther)
  exact thawed

/-- The batches of a deduction are in one of the warehouses and of the sku. -/
theorem mem_deductible {db : Database} {warehouseIds : List Nat} {sku : String}
    {r : Nat × InventoryBatch} (member : r ∈ deductible db warehouseIds sku) :
    (db inventoryBatches).find? r.1 = some r.2 ∧ r.2.warehouseId ∈ warehouseIds ∧
      r.2.sku = sku ∧ 0 < r.2.availableQuantity := by
  rw [deductible, List.mem_insertionSort, Table.mem_select] at member
  simp only [Bool.and_eq_true, beq_iff_eq, decide_eq_true_eq, List.contains_eq_mem] at member
  obtain ⟨found, ⟨⟨⟨⟨within, sku⟩, -⟩, stocked⟩, -⟩, -⟩ := member
  exact ⟨found, within, sku, stocked⟩

inductive Move
  | intake (batch : InventoryBatch)
  | reserve (reservation : InventoryReservation) (sku : String)
  | consume (reservationId batchId orderId : Nat) (sku : String) (quantity : Int)
  | release (reservationId batchId orderId : Nat) (sku : String) (quantity : Int)
  | deduct (batchId : Nat) (quantity : Int)
  | settle (batchId : Nat) (quantity : Int) (passed : Bool)
  | restock (batchId : Nat) (quantity restocked : Int)
  | adjust (batchId : Nat) (bucket : Bucket) (counted : Int)

/-- What a move does to the batch it is on. -/
def Move.change : Move → InventoryBatch → InventoryBatch
  | .intake _, row => row
  | .reserve reservation _, row => { row with
      availableQuantity := row.availableQuantity - reservation.reservedQuantity,
      lockedQuantity := row.lockedQuantity + reservation.reservedQuantity }
  | .consume _ _ _ _ quantity, row => { row with lockedQuantity := row.lockedQuantity - quantity }
  | .release _ _ _ _ quantity, row => { row with
      lockedQuantity := row.lockedQuantity - quantity
      availableQuantity := row.availableQuantity + quantity }
  | .deduct _ quantity, row => { row with
      availableQuantity := row.availableQuantity - quantity }
  | .settle _ quantity passed, row => { row with
      pendingInspectionQuantity := row.pendingInspectionQuantity - quantity
      availableQuantity := row.availableQuantity + (if passed then quantity else 0)
      quarantineQuantity := row.quarantineQuantity + (if passed then 0 else quantity) }
  | .restock _ quantity restocked, row => { row with
      quarantineQuantity := row.quarantineQuantity - quantity
      availableQuantity := row.availableQuantity + restocked
      defectiveQuantity := row.defectiveQuantity + (quantity - restocked) }
  | .adjust _ bucket counted, row => row.withQuantity bucket counted

/-- An active reservation for a production order. -/
structure Holds (orderId : Nat) (reservation : InventoryReservation) : Prop where
  active : reservation.status = .active
  entityType : reservation.entityType = .productionOrder
  entityId : reservation.entityId = some orderId

/-- A reservation after a part of it was consumed. -/
def drawn (quantity : Int) (row : InventoryReservation) : InventoryReservation :=
  { row with
    reservedQuantity := row.reservedQuantity - quantity
    status := if row.reservedQuantity - quantity = 0 then .consumed else .active }

/-- A reservation after it was released. -/
def freed (row : InventoryReservation) : InventoryReservation :=
  { row with reservedQuantity := 0, status := .released }

inductive Moved : Stock → Move → Stock → Prop
  | intake {s : Stock} {batch : InventoryBatch} (unlocked : batch.lockedQuantity = 0) :
      Moved s (.intake batch) { s with batches := s.batches.insert batch }
  | reserve {s : Stock} {reservation : InventoryReservation} {batch : InventoryBatch}
      (found : s.batches.find? reservation.batchId = some batch)
      (active : reservation.status = .active)
      (nonneg : 0 ≤ reservation.reservedQuantity)
      (stocked : reservation.reservedQuantity ≤ max 0 batch.availableQuantity) :
      Moved s (.reserve reservation batch.sku)
        { batches := s.batches.modify reservation.batchId
            (Move.change (.reserve reservation batch.sku))
          reservations := s.reservations.insert reservation }
  | consume {s : Stock} {reservationId orderId : Nat} {quantity : Int}
      {reservation : InventoryReservation} {batch : InventoryBatch}
      (held : s.reservations.find? reservationId = some reservation)
      (holds : Holds orderId reservation) (positive : 0 < quantity)
      (within : quantity ≤ reservation.reservedQuantity)
      (found : s.batches.find? reservation.batchId = some batch)
      (locked : quantity ≤ batch.lockedQuantity) :
      Moved s (.consume reservationId reservation.batchId orderId batch.sku quantity)
        { batches := s.batches.modify reservation.batchId
            (Move.change (.consume reservationId reservation.batchId orderId batch.sku quantity))
          reservations := s.reservations.modify reservationId (drawn quantity) }
  | release {s : Stock} {reservationId orderId : Nat} {reservation : InventoryReservation}
      {batch : InventoryBatch}
      (held : s.reservations.find? reservationId = some reservation)
      (holds : Holds orderId reservation) (positive : 0 < reservation.reservedQuantity)
      (found : s.batches.find? reservation.batchId = some batch)
      (locked : reservation.reservedQuantity ≤ batch.lockedQuantity) :
      Moved s
        (.release reservationId reservation.batchId orderId batch.sku reservation.reservedQuantity)
        { batches := s.batches.modify reservation.batchId
            (Move.change (.release reservationId reservation.batchId orderId batch.sku
              reservation.reservedQuantity))
          reservations := s.reservations.modify reservationId freed }
  | deduct {s : Stock} {batchId : Nat} {quantity : Int} {batch : InventoryBatch}
      (found : s.batches.find? batchId = some batch)
      (stocked : quantity ≤ batch.availableQuantity) :
      Moved s (.deduct batchId quantity)
        { s with batches := s.batches.modify batchId (Move.change (.deduct batchId quantity)) }
  | settle {s : Stock} {batchId : Nat} {quantity : Int} {passed : Bool} {batch : InventoryBatch}
      (found : s.batches.find? batchId = some batch) (positive : 0 < quantity)
      (waiting : quantity ≤ batch.pendingInspectionQuantity) :
      Moved s (.settle batchId quantity passed)
        { s with
          batches := s.batches.modify batchId (Move.change (.settle batchId quantity passed)) }
  | restock {s : Stock} {batchId : Nat} {quantity restocked : Int} {batch : InventoryBatch}
      (found : s.batches.find? batchId = some batch)
      (quarantined : quantity ≤ batch.quarantineQuantity) :
      Moved s (.restock batchId quantity restocked)
        { s with
          batches := s.batches.modify batchId (Move.change (.restock batchId quantity restocked)) }
  | adjust {s : Stock} {batchId : Nat} {bucket : Bucket} {counted : Int} {batch : InventoryBatch}
      (found : s.batches.find? batchId = some batch) :
      Moved s (.adjust batchId bucket counted)
        { s with
          batches := s.batches.modify batchId (Move.change (.adjust batchId bucket counted)) }

/-- A command took the stock from `s` to `s'` by these moves. -/
abbrev Moves (s : Stock) (moves : List Move) (s' : Stock) : Prop :=
  Run Moved s moves s'

/-! ## What every move keeps -/

/-- What identifies a batch. -/
def BatchKept (_ : Nat) (old row : InventoryBatch) : Prop :=
  row.batchNo = old.batchNo ∧ row.warehouseId = old.warehouseId ∧ row.sku = old.sku ∧
    row.ownership = old.ownership

theorem batchKept_refl (id : Nat) (row : InventoryBatch) : BatchKept id row row :=
  ⟨rfl, rfl, rfl, rfl⟩

theorem batchKept_trans (id : Nat) (a b c : InventoryBatch) (first : BatchKept id a b)
    (second : BatchKept id b c) : BatchKept id a c :=
  ⟨second.1.trans first.1, second.2.1.trans first.2.1, second.2.2.1.trans first.2.2.1,
    second.2.2.2.trans first.2.2.2⟩

theorem change_kept (move : Move) (id : Nat) (row : InventoryBatch) :
    BatchKept id row (move.change row) := by
  cases move with
  | adjust batchId bucket counted =>
      cases bucket <;> exact batchKept_refl id row
  | _ => exact batchKept_refl id row

/-- What a reservation is for; one that is no longer active does not change. -/
def ReservationKept (_ : Nat) (old row : InventoryReservation) : Prop :=
  row.batchId = old.batchId ∧ row.entityType = old.entityType ∧ row.entityId = old.entityId ∧
    row.reservedQuantity ≤ old.reservedQuantity ∧ (old.status ≠ .active → row = old)

theorem reservationKept_refl (id : Nat) (row : InventoryReservation) :
    ReservationKept id row row :=
  ⟨rfl, rfl, rfl, Int.le_refl _, fun _ => rfl⟩

theorem reservationKept_trans (id : Nat) (a b c : InventoryReservation)
    (first : ReservationKept id a b) (second : ReservationKept id b c) :
    ReservationKept id a c := by
  refine ⟨second.1.trans first.1, second.2.1.trans first.2.1, second.2.2.1.trans first.2.2.1,
    Int.le_trans second.2.2.2.1 first.2.2.2.1, ?_⟩
  intro settled
  have same := first.2.2.2.2 settled
  rw [second.2.2.2.2 (by rw [same]; exact settled), same]

structure Kept (s s' : Stock) : Prop where
  batches : Table.Evolves BatchKept s.batches s'.batches
  reservations : Table.Evolves ReservationKept s.reservations s'.reservations

theorem Kept.refl (s : Stock) : Kept s s where
  batches := Table.Evolves.refl batchKept_refl
  reservations := Table.Evolves.refl reservationKept_refl

theorem Kept.trans {s s' s'' : Stock} (first : Kept s s') (second : Kept s' s'') :
    Kept s s'' where
  batches := first.batches.trans batchKept_trans second.batches
  reservations := first.reservations.trans reservationKept_trans second.reservations

theorem Moved.kept {s s' : Stock} {move : Move} (moved : Moved s move s') : Kept s s' := by
  have changed : ∀ (id : Nat) (move : Move),
      Table.Evolves BatchKept s.batches (s.batches.modify id move.change) := fun id move =>
    Table.evolves_modify batchKept_refl fun old _ => change_kept move id old
  have unreserved : Table.Evolves ReservationKept s.reservations s.reservations :=
    Table.Evolves.refl reservationKept_refl
  cases moved with
  | intake unlocked => exact ⟨Table.evolves_insert batchKept_refl _, unreserved⟩
  | reserve found active nonneg stocked =>
      exact ⟨changed _ _, Table.evolves_insert reservationKept_refl _⟩
  | consume held holds positive within found locked =>
      refine ⟨changed _ _, Table.evolves_modify reservationKept_refl ?_⟩
      intro old foundOld
      rw [held] at foundOld
      cases foundOld
      exact ⟨rfl, rfl, rfl, by simp only [drawn]; omega, fun settled => absurd holds.active settled⟩
  | release held holds positive found locked =>
      refine ⟨changed _ _, Table.evolves_modify reservationKept_refl ?_⟩
      intro old foundOld
      rw [held] at foundOld
      cases foundOld
      exact ⟨rfl, rfl, rfl, by simp only [freed]; omega, fun settled => absurd holds.active settled⟩
  | deduct => exact ⟨changed _ _, unreserved⟩
  | settle => exact ⟨changed _ _, unreserved⟩
  | restock => exact ⟨changed _ _, unreserved⟩
  | adjust => exact ⟨changed _ _, unreserved⟩

theorem Moves.kept {s s' : Stock} {moves : List Move} (run : Moves s moves s') : Kept s s' :=
  run.relates Kept.refl Kept.trans fun moved => moved.kept

theorem Moved.nextBatch {s s' : Stock} {move : Move} (moved : Moved s move s')
    (other : ∀ batch, move ≠ .intake batch) : s'.batches.nextId = s.batches.nextId := by
  cases moved with
  | @intake batch => exact absurd rfl (other batch)
  | _ => rfl

theorem Moves.nextBatch {s s' : Stock} {moves : List Move} (run : Moves s moves s')
    (others : ∀ move ∈ moves, ∀ batch, move ≠ .intake batch) :
    s'.batches.nextId = s.batches.nextId := by
  induction run with
  | done => rfl
  | next head _ ih =>
      rw [ih fun move member => others move (List.mem_cons_of_mem _ member),
        head.nextBatch (others _ List.mem_cons_self)]

theorem admitted (s : Stock) (condition : Prop) [Decidable condition] (batch : InventoryBatch)
    (unlocked : batch.lockedQuantity = 0) :
    ∃ moves, Moves s moves { s with batches := s.batches.insertWhen condition batch } ∧
      ∀ move ∈ moves, condition ∧ move = .intake batch := by
  by_cases holds : condition
  · refine ⟨[.intake batch], ?_, ?_⟩
    · simp only [Table.insertWhen, holds, if_true]
      exact Run.single (Moved.intake unlocked)
    · intro move member
      exact ⟨holds, List.mem_singleton.mp member⟩
  · refine ⟨[], ?_, by simp⟩
    simp only [Table.insertWhen, holds, if_false]
    exact Run.done

/-- The reservation that a move draws on. -/
def Move.reservationId : Move → Option Nat
  | .consume reservationId _ _ _ _ | .release reservationId _ _ _ _ => some reservationId
  | _ => none

theorem Moved.otherReservation {s s' : Stock} {move : Move} (moved : Moved s move s') {id : Nat}
    {row : InventoryReservation} (found : s.reservations.find? id = some row)
    (other : move.reservationId ≠ some id) : s'.reservations.find? id = some row := by
  cases moved with
  | reserve => exact Table.find?_insert_of_some found
  | consume =>
      rw [Table.find?_modify_ne _ _ fun same => other (by rw [same]; rfl)]
      exact found
  | release =>
      rw [Table.find?_modify_ne _ _ fun same => other (by rw [same]; rfl)]
      exact found
  | _ => exact found

/-! ## Deductions -/

section

open Transaction

variable {writes : List TableName} {db db' : Database} {sent : List DomainEvent} {u : Unit}

theorem deductBatch_returns [Writes inventoryBatches writes] {id : Nat} {quantity : Int}
    (returns : (deductBatch id quantity : Tx writes Unit).Returns db u sent db') :
    sent = [] ∧ (∃ batch, (db inventoryBatches).find? id = some batch ∧
        quantity ≤ batch.availableQuantity) ∧
      db' = db.put inventoryBatches
        ((db inventoryBatches).modify id (Move.change (.deduct id quantity))) := by
  obtain ⟨⟨batch, found, stocked⟩, sends, same⟩ := returns_updateRow.mp returns
  exact ⟨sends, ⟨batch, found, by simpa using stocked⟩, same⟩

theorem deductions_moves [Writes inventoryBatches writes] {taken : List (Nat × Int)}
    (returns : (forEach (fun draw : Nat × Int => deductBatch draw.1 draw.2) taken :
      Tx writes Unit).Returns db u sent db') :
    sent = [] ∧ Moves (stockOf db) (taken.map fun draw => .deduct draw.1 draw.2) (stockOf db') ∧
      ∀ t, t ≠ inventoryBatches → db' t = db t := by
  induction taken generalizing db sent with
  | nil =>
      obtain ⟨rfl, rfl⟩ := returns_forEach_nil.mp returns
      exact ⟨rfl, Run.done, fun _ _ => rfl⟩
  | cons draw rest ih =>
      obtain ⟨first, mid, later, head, tail, rfl⟩ := returns_forEach_cons.mp returns
      obtain ⟨rfl, ⟨batch, found, stocked⟩, rfl⟩ := deductBatch_returns head
      obtain ⟨rfl, moves, kept⟩ := ih tail
      refine ⟨rfl, Run.next ?_ moves, ?_⟩
      · have moved := Moved.deduct (s := stockOf db) found stocked
        simpa [stockOf] using moved
      · intro t other
        rw [kept t other, Store.put_other _ _ other]

end

end Stock

end SupplyChain
