import SupplyChain.Stock.Moves

/-!
The pool of a production order: the quantity that its active reservations
hold, on one sku or on all of them, and how each move changes it.
-/

namespace SupplyChain.Stock

open Relational

instance (orderId : Nat) (reservation : InventoryReservation) :
    Decidable (Holds orderId reservation) :=
  decidable_of_iff
    (reservation.status = .active ∧ reservation.entityType = .productionOrder ∧
      reservation.entityId = some orderId)
    ⟨fun h => ⟨h.1, h.2.1, h.2.2⟩, fun h => ⟨h.active, h.entityType, h.entityId⟩⟩

/-- Whether a sku is the one asked for; `none` asks for all of them. -/
def among (wanted : Option String) (sku : String) : Bool :=
  wanted.all fun other => sku == other

/-- Whether the batch of a reservation has the sku asked for. -/
def onSku (batches : Table InventoryBatch) (wanted : Option String)
    (reservation : InventoryReservation) : Bool :=
  (batches.find? reservation.batchId).any fun batch => among wanted batch.sku

def pool (s : Stock) (orderId : Nat) (wanted : Option String) : Int :=
  s.reservations.weigh fun _ row =>
    if Holds orderId row ∧ onSku s.batches wanted row = true then row.reservedQuantity else 0

/-- Every reservation is on a batch. -/
def Linked (s : Stock) : Prop :=
  ∀ id row, s.reservations.find? id = some row →
    ∃ batch, s.batches.find? row.batchId = some batch

theorem Moved.linked {s s' : Stock} {move : Move} (moved : Moved s move s') (linked : Linked s) :
    Linked s' := by
  have kept := moved.kept
  have before : ∀ id row, s'.reservations.find? id = some row →
      (∃ old, s.reservations.find? id = some old ∧ row.batchId = old.batchId) ∨
        ∃ batch, s.batches.find? row.batchId = some batch := by
    intro id row found
    cases moved with
    | reserve foundBatch _ _ _ =>
        rcases Table.find?_insert_cases found with ⟨-, rfl⟩ | old
        · exact Or.inr ⟨_, foundBatch⟩
        · exact Or.inl ⟨row, old, rfl⟩
    | consume held _ _ _ _ _ =>
        rcases Table.find?_modify_cases found with ⟨rfl, old, foundOld, rfl⟩ | ⟨-, old⟩
        · exact Or.inl ⟨old, foundOld, rfl⟩
        · exact Or.inl ⟨row, old, rfl⟩
    | release held _ _ _ _ =>
        rcases Table.find?_modify_cases found with ⟨rfl, old, foundOld, rfl⟩ | ⟨-, old⟩
        · exact Or.inl ⟨old, foundOld, rfl⟩
        · exact Or.inl ⟨row, old, rfl⟩
    | _ => exact Or.inl ⟨row, found, rfl⟩
  intro id row found
  rcases before id row found with ⟨old, foundOld, same⟩ | ⟨batch, foundBatch⟩
  · obtain ⟨batch, foundBatch⟩ := linked id old foundOld
    obtain ⟨now, foundNow, -⟩ := kept.batches.kept _ _ foundBatch
    exact ⟨now, by rw [same]; exact foundNow⟩
  · obtain ⟨now, foundNow, -⟩ := kept.batches.kept _ _ foundBatch
    exact ⟨now, foundNow⟩

theorem Moved.onSku {s s' : Stock} {move : Move} (moved : Moved s move s') {wanted : Option String}
    {row : InventoryReservation} {batch : InventoryBatch}
    (found : s.batches.find? row.batchId = some batch) :
    onSku s'.batches wanted row = onSku s.batches wanted row := by
  obtain ⟨now, foundNow, -, -, sku, -⟩ := moved.kept.batches.kept _ _ found
  simp [Stock.onSku, found, foundNow, sku]

/-- What a move adds to the pool of an order. -/
def Move.poolChange (orderId : Nat) (wanted : Option String) : Move → Int
  | .reserve reservation sku =>
      if Holds orderId reservation ∧ among wanted sku = true then reservation.reservedQuantity
      else 0
  | .consume _ _ order sku quantity | .release _ _ order sku quantity =>
      if order = orderId ∧ among wanted sku = true then -quantity else 0
  | _ => 0

theorem Holds.order {orderId order : Nat} {row : InventoryReservation} (holds : Holds order row) :
    Holds orderId row ↔ order = orderId := by
  constructor
  · intro other
    have same := holds.entityId.symm.trans other.entityId
    exact Option.some.inj same
  · rintro rfl
    exact holds

theorem holds_drawn {orderId : Nat} {row : InventoryReservation} (active : row.status = .active)
    {quantity : Int} (left : row.reservedQuantity - quantity ≠ 0) :
    Holds orderId (drawn quantity row) ↔ Holds orderId row := by
  constructor
  · intro holds
    exact ⟨active, holds.entityType, holds.entityId⟩
  · intro holds
    exact ⟨by simp [drawn, left], holds.entityType, holds.entityId⟩

/-- A move changes the pool of an order by what it reserves, consumes or
releases for it. -/
theorem Moved.pool {s s' : Stock} {move : Move} (moved : Moved s move s') (linked : Linked s)
    (orderId : Nat) (wanted : Option String) :
    Stock.pool s' orderId wanted = Stock.pool s orderId wanted + move.poolChange orderId wanted := by
  -- the reservations stay on their skus
  have still : Stock.pool s' orderId wanted = s'.reservations.weigh fun _ row =>
      if Holds orderId row ∧ Stock.onSku s.batches wanted row = true then row.reservedQuantity
      else 0 := by
    refine Table.weigh_congr ?_
    intro id row found
    have bound : ∃ batch, s.batches.find? row.batchId = some batch := by
      cases moved with
      | reserve foundBatch _ _ _ =>
          rcases Table.find?_insert_cases found with ⟨-, rfl⟩ | old
          · exact ⟨_, foundBatch⟩
          · exact linked id row old
      | consume _ _ _ _ _ _ =>
          rcases Table.find?_modify_cases found with ⟨rfl, old, foundOld, rfl⟩ | ⟨-, old⟩
          · exact linked _ old foundOld
          · exact linked id row old
      | release _ _ _ _ _ =>
          rcases Table.find?_modify_cases found with ⟨rfl, old, foundOld, rfl⟩ | ⟨-, old⟩
          · exact linked _ old foundOld
          · exact linked id row old
      | _ => exact linked id row found
    obtain ⟨batch, foundBatch⟩ := bound
    rw [moved.onSku foundBatch]
  rw [still]
  cases moved with
  | reserve found active nonneg stocked =>
      rw [Table.weigh_insert]
      simp [Stock.pool, Move.poolChange, Stock.onSku, found]
  | @consume id order quantity reservation batch held holds positive within found locked =>
      rw [Table.weigh_modify held, Stock.pool]
      congr 1
      have sku : Stock.onSku s.batches wanted reservation = among wanted batch.sku := by
        simp [Stock.onSku, found]
      have sku' : Stock.onSku s.batches wanted (drawn quantity reservation) =
          among wanted batch.sku := by
        simp [Stock.onSku, drawn, found]
      rw [sku, sku']
      simp only [Move.poolChange, holds.order]
      by_cases left : reservation.reservedQuantity - quantity = 0
      · have gone : ¬ Holds orderId (drawn quantity reservation) := by
          intro still
          simpa [drawn, left] using still.active
        simp only [gone, false_and, if_false]
        split <;> omega
      · have reserved : (drawn quantity reservation).reservedQuantity =
            reservation.reservedQuantity - quantity := rfl
        simp only [holds_drawn holds.active left, holds.order, reserved]
        split <;> omega
  | @release id order reservation batch held holds positive found locked =>
      rw [Table.weigh_modify held, Stock.pool]
      congr 1
      have sku : Stock.onSku s.batches wanted reservation = among wanted batch.sku := by
        simp [Stock.onSku, found]
      have gone : ¬ Holds orderId (freed reservation) := by
        intro still
        simpa [freed] using still.active
      simp only [Move.poolChange, gone, false_and, if_false, sku, holds.order]
      split <;> omega
  | _ => simp [Stock.pool, Move.poolChange]

theorem Moves.linked {s s' : Stock} {moves : List Move} (run : Moves s moves s')
    (linked : Linked s) : Linked s' :=
  run.preserves Linked (fun moved => moved.linked) linked

theorem Moves.pool {s s' : Stock} {moves : List Move} (run : Moves s moves s') (linked : Linked s)
    (orderId : Nat) (wanted : Option String) :
    Stock.pool s' orderId wanted =
      Stock.pool s orderId wanted + (moves.map (Move.poolChange orderId wanted)).sum := by
  induction run with
  | done => simp
  | next head _ ih =>
      rw [ih (head.linked linked), head.pool linked, List.map_cons, List.sum_cons]
      omega

/-! ## What an order holds -/

/-- No reservation holds a negative quantity. -/
def NonnegReservations (s : Stock) : Prop :=
  ∀ id row, s.reservations.find? id = some row → 0 ≤ row.reservedQuantity

theorem Moved.nonnegReservations {s s' : Stock} {move : Move} (moved : Moved s move s')
    (nonneg : NonnegReservations s) : NonnegReservations s' := by
  intro id row found
  cases moved with
  | reserve _ _ fresh _ =>
      rcases Table.find?_insert_cases found with ⟨-, rfl⟩ | old
      · exact fresh
      · exact nonneg id row old
  | consume held _ _ within _ _ =>
      rcases Table.find?_modify_cases found with ⟨rfl, old, foundOld, rfl⟩ | ⟨-, old⟩
      · rw [held] at foundOld
        cases foundOld
        simp only [drawn]
        omega
      · exact nonneg id row old
  | release _ _ _ _ _ =>
      rcases Table.find?_modify_cases found with ⟨rfl, old, foundOld, rfl⟩ | ⟨-, old⟩
      · exact Int.le_refl _
      · exact nonneg id row old
  | _ => exact nonneg id row found

theorem Moves.nonnegReservations {s s' : Stock} {moves : List Move} (run : Moves s moves s')
    (nonneg : NonnegReservations s) : NonnegReservations s' :=
  run.preserves NonnegReservations (fun moved => moved.nonnegReservations) nonneg

theorem pool_nonneg {s : Stock} (nonneg : NonnegReservations s) (orderId : Nat)
    (wanted : Option String) : 0 ≤ pool s orderId wanted := by
  refine Table.weigh_nonneg ?_
  intro id row found
  have owed := nonneg id row found
  split
  · exact owed
  · exact Int.le_refl _

/-- What an order holds on one reservation is part of its pool. -/
theorem Holds.le_pool {s : Stock} {orderId id : Nat} {row : InventoryReservation}
    (holds : Holds orderId row) (found : s.reservations.find? id = some row) (linked : Linked s)
    (nonneg : NonnegReservations s) : row.reservedQuantity ≤ pool s orderId none := by
  obtain ⟨batch, foundBatch⟩ := linked id row found
  have bound : onSku s.batches none row = true := by
    simp [onSku, foundBatch, among]
  have part := Table.weight_le_weigh (fun _ row =>
    if Holds orderId row ∧ onSku s.batches none row = true then row.reservedQuantity else 0) found
    (by
      intro key other present
      have owed := nonneg key other present
      split
      · exact owed
      · exact Int.le_refl _)
  simpa only [holds, bound, and_self, if_true, pool] using part

/-- What an order holds on a reservation it held before, at least as much of
it, or it is being reserved. -/
theorem Moved.heldBefore {s s' : Stock} {move : Move} (moved : Moved s move s') {orderId id : Nat}
    {row : InventoryReservation} (found : s'.reservations.find? id = some row)
    (holds : Holds orderId row) :
    (∃ old, s.reservations.find? id = some old ∧ Holds orderId old ∧
      row.reservedQuantity ≤ old.reservedQuantity) ∨ ∃ sku, move = .reserve row sku := by
  have same : s.reservations.find? id = some row → ∃ old, s.reservations.find? id = some old ∧
      Holds orderId old ∧ row.reservedQuantity ≤ old.reservedQuantity :=
    fun old => ⟨row, old, holds, Int.le_refl _⟩
  cases moved with
  | reserve _ _ _ _ =>
      rcases Table.find?_insert_cases found with ⟨-, rfl⟩ | old
      · exact Or.inr ⟨_, rfl⟩
      · exact Or.inl (same old)
  | consume held active positive _ _ _ =>
      rcases Table.find?_modify_cases found with ⟨rfl, old, foundOld, rfl⟩ | ⟨-, old⟩
      · rw [held] at foundOld
        cases foundOld
        refine Or.inl ⟨_, held, ⟨active.active, holds.entityType, holds.entityId⟩, ?_⟩
        simp only [drawn]
        omega
      · exact Or.inl (same old)
  | release _ _ _ _ _ =>
      rcases Table.find?_modify_cases found with ⟨rfl, old, foundOld, rfl⟩ | ⟨-, old⟩
      · cases holds.active
      · exact Or.inl (same old)
  | _ => exact Or.inl (same found)

theorem Moves.heldBefore {s s' : Stock} {moves : List Move} (run : Moves s moves s')
    {orderId id : Nat} {row : InventoryReservation} (found : s'.reservations.find? id = some row)
    (holds : Holds orderId row) :
    (∃ old, s.reservations.find? id = some old ∧ Holds orderId old ∧
      row.reservedQuantity ≤ old.reservedQuantity) ∨
    ∃ reservation sku, .reserve reservation sku ∈ moves ∧ Holds orderId reservation ∧
      row.reservedQuantity ≤ reservation.reservedQuantity := by
  induction run with
  | done => exact Or.inl ⟨row, found, holds, Int.le_refl _⟩
  | next head _ ih =>
      rcases ih found with ⟨mid, foundMid, holdsMid, below⟩ | ⟨reservation, sku, member, rest⟩
      · rcases head.heldBefore foundMid holdsMid with ⟨old, foundOld, holdsOld, less⟩ | ⟨sku, rfl⟩
        · exact Or.inl ⟨old, foundOld, holdsOld, Int.le_trans below less⟩
        · exact Or.inr ⟨mid, sku, List.mem_cons_self, holdsMid, below⟩
      · exact Or.inr ⟨reservation, sku, List.mem_cons_of_mem _ member, rest⟩

end SupplyChain.Stock
