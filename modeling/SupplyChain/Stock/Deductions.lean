import SupplyChain.Greedy.Order
import SupplyChain.Inventory.Outcomes
import SupplyChain.Relational.Keys
import SupplyChain.Shipments.Outcomes

/-!
The first stock to expire is the first to leave. A transfer and a shipment draw
on the same list of batches with the same loop, and the planner of the web
application is a third copy of it; each goes through exactly when the batches
hold the quantity, and the guarded updates that follow find what was planned.
-/

namespace SupplyChain.Stock

open Relational Transaction TableName

variable {Key : Type} {db db' : Database} {sent : List DomainEvent} {writes : List TableName}

/-! ## The planner of the web application -/

/-- A number as the planner reads it: an integer, or `none` for a number that
is not one. -/
structure InventoryBatchSnapshot where
  id : Nat
  availableQuantity : Option Int

/-- What a batch counts for: nothing when its quantity is not a safe integer. -/
def InventoryBatchSnapshot.available (batch : InventoryBatchSnapshot) : Int :=
  match batch.availableQuantity with
  | some quantity => if isSafeInteger quantity then max 0 quantity else 0
  | none => 0

def deducted (quantity : Int) (row : InventoryBatch) : InventoryBatch :=
  { row with availableQuantity := row.availableQuantity - quantity }

/-- The batches after a list of deductions. -/
def afterDeductions (batches : Table InventoryBatch) : List (Nat × Int) → Table InventoryBatch
  | [] => batches
  | draw :: rest => afterDeductions (batches.modify draw.1 (deducted draw.2)) rest

theorem afterDeductions_other {batches : Table InventoryBatch} {draws : List (Nat × Int)} {id : Nat}
    (other : id ∉ draws.map (·.1)) :
    (afterDeductions batches draws).find? id = batches.find? id := by
  induction draws generalizing batches with
  | nil => rfl
  | cons draw rest ih =>
      rw [List.map_cons, List.mem_cons, not_or] at other
      rw [afterDeductions, ih other.2, Table.find?_modify_ne _ _ other.1]

/-- Each deduction is on a batch of its own that has the quantity. -/
structure Covered (batches : Table InventoryBatch) (draws : List (Nat × Int)) : Prop where
  distinct : (draws.map (·.1)).Nodup
  stocked : ∀ draw ∈ draws, ∃ batch, batches.find? draw.1 = some batch ∧
    draw.2 ≤ batch.availableQuantity

theorem Covered.guarded {batches : Table InventoryBatch} {draws early late : List (Nat × Int)}
    {draw : Nat × Int} (covered : Covered batches draws) (split : draws = early ++ draw :: late) :
    ∃ batch, (afterDeductions batches early).find? draw.1 = some batch ∧
      draw.2 ≤ batch.availableQuantity := by
  subst split
  have distinct := covered.distinct
  rw [List.map_append, List.map_cons, List.nodup_append] at distinct
  rw [afterDeductions_other fun inside => distinct.2.2 _ inside _ List.mem_cons_self rfl]
  exact covered.stocked draw (by simp)

theorem Covered.rest {batches : Table InventoryBatch} {draw : Nat × Int}
    {rest : List (Nat × Int)} (covered : Covered batches (draw :: rest)) :
    Covered (batches.modify draw.1 (deducted draw.2)) rest := by
  have distinct := covered.distinct
  rw [List.map_cons, List.nodup_cons] at distinct
  refine ⟨distinct.2, ?_⟩
  intro other member
  have apart : other.1 ≠ draw.1 := by
    intro same
    rw [← same] at distinct
    exact distinct.1 (List.mem_map_of_mem member)
  rw [Table.find?_modify_ne _ _ apart]
  exact covered.stocked other (List.mem_cons_of_mem _ member)

/-- A plan that takes the first supplies first, and succeeds exactly when they
hold the quantity. -/
structure FirstExpired (quantity : Int) (supplies : List (Key × Int)) (plan : Greedy.Plan Key) :
    Prop where
  succeeds : plan.left = 0 ↔ quantity ≤ Greedy.total supplies
  whole : plan.left = 0 → Greedy.total plan.taken = quantity
  bounded : ∀ draw ∈ plan.taken, 0 < draw.2 ∧
    ∃ available, (draw.1, available) ∈ supplies ∧ draw.2 ≤ available
  once : (plan.taken.map (·.1)).Nodup
  order : ∀ before supply after draw, supplies = before ++ supply :: after → draw ∈ plan.taken →
    draw.1 = supply.1 → ∀ earlier ∈ before, earlier ∈ plan.taken

theorem firstExpired {quantity : Int} {supplies : List (Key × Int)} (nonneg : 0 ≤ quantity)
    (distinct : (supplies.map (·.1)).Nodup) (stocked : ∀ supply ∈ supplies, 0 < supply.2) :
    FirstExpired quantity supplies (Greedy.plan quantity supplies) where
  succeeds := Greedy.plan_left_eq_zero_iff nonneg fun supply member => (stocked supply member).le
  whole := by
    intro met
    have total := Greedy.plan_total quantity supplies
    omega
  bounded := Greedy.plan_taken nonneg stocked
  once := distinct.sublist (Greedy.plan_keys quantity supplies).sublist
  order := by
    intro before supply after draw split member same
    exact Greedy.plan_before distinct split member same

/-- The batches that a deduction may draw on, with what they hold. -/
def suppliesOf (key : Nat × InventoryBatch → Key) (db : Database) (warehouseIds : List Nat)
    (sku : String) : List (Key × Int) :=
  (deductible db warehouseIds sku).map fun r => (key r, r.2.availableQuantity)

theorem deductible_distinct (db : Database) (warehouseIds : List Nat) (sku : String) :
    ((deductible db warehouseIds sku).map (·.1)).Nodup := by
  rw [deductible, ((List.perm_insertionSort _ _).map _).nodup_iff, List.Nodup, List.pairwise_map]
  refine ((db inventoryBatches).select_ascending _).imp ?_
  intro a b below
  exact Nat.ne_of_lt below

section

variable {key : Nat × InventoryBatch → Key} {id : Key → Nat} {warehouseIds : List Nat}
  {sku : String} {quantity : Int}

theorem suppliesOf_ids (named : ∀ r, id (key r) = r.1) :
    ((suppliesOf key db warehouseIds sku).map fun supply => id supply.1) =
      (deductible db warehouseIds sku).map (·.1) := by
  rw [suppliesOf, List.map_map]
  exact List.map_congr_left fun r _ => named r

theorem suppliesOf_distinct (named : ∀ r, id (key r) = r.1) :
    ((suppliesOf key db warehouseIds sku).map (·.1)).Nodup := by
  have distinct := deductible_distinct db warehouseIds sku
  rw [← suppliesOf_ids named] at distinct
  refine List.Nodup.of_map id ?_
  rw [List.map_map]
  exact distinct

theorem suppliesOf_stocked :
    ∀ supply ∈ suppliesOf key db warehouseIds sku, 0 < supply.2 := by
  intro supply member
  obtain ⟨r, listed, rfl⟩ := List.mem_map.mp member
  exact (mem_deductible listed).2.2.2

end

/-! ## The loops of the commands -/

section Transfers

open Inventory

variable {id : Nat} {transfer : InventoryTransfer}

/-- The batches that a transfer may draw on. -/
def transferSupplies (db : Database) (transfer : InventoryTransfer) : List (Nat × Int) :=
  suppliesOf (·.1) db [transfer.fromWarehouseId] transfer.sku

theorem transferPlan_first (nonneg : 0 ≤ transfer.quantity) :
    FirstExpired transfer.quantity (transferSupplies db transfer) (transferPlan db transfer) :=
  firstExpired nonneg (@suppliesOf_distinct _ db (·.1) (fun id => id) _ _ fun _ => rfl) suppliesOf_stocked

end Transfers

section Shipments

open Shipments

variable {id : Nat} {current : ShipmentRow} {warehouseIds : List Nat} {sku : String}

theorem drawn_within : ∀ t ∈ [inventoryBatches, inventoryMovements],
    t ∈ [resourceVersions, deliveryBatches, inventoryBatches, inventoryMovements] := by decide

/-- The part of a dispatch that follows the locks: its loop over the batches and
the updates. -/
def drawShipment (id : Nat) (current : ShipmentRow) (shippedAt carrier logisticsNo : String)
    (warehouseIds : List Nat) :
    Tx [resourceVersions, deliveryBatches, inventoryBatches, inventoryMovements] Unit := do
  let batches ← query fun db => deductible db warehouseIds current.item.sku
  let plan := Greedy.plan current.batch.quantity
    (batches.map fun r => ((r.1, r.2.warehouseId), r.2.availableQuantity))
  refuseIf (plan.left ≠ 0) (conflict "Insufficient released inventory")
  updateRow deliveryBatches id (fun row => row.status.dispatchable)
    (fun row => { row with
      shippedAt := some shippedAt, carrier, logisticsNo, status := .shipped })
    (versionConflict "Shipment changed concurrently")
  (forEach (dispatchBatch id current.item.sku) plan.taken).widen drawn_within

theorem dispatch_eq (id : Nat) (current : ShipmentRow) (shippedAt carrier logisticsNo : String) :
    dispatch id current shippedAt carrier logisticsNo = (do
      let active ← query fun db => (db warehouses).select fun _ row =>
        row.factoryId == some current.order.factoryId && row.status == .active
      refuseIf (active = []) (conflict "Factory has no active warehouse")
      forEach (fun warehouseId => do
        lockWarehouseFreeze warehouseId
        let frozen ← freezeExists warehouseId current.item.sku
        refuseIf (frozen = true) (conflict "Shipment warehouse is frozen by a stocktake"))
          (active.map (·.1))
      drawShipment id current shippedAt carrier logisticsNo (active.map (·.1))) := rfl

/-- The batches that a shipment may draw on, with their warehouses. -/
def shipmentSupplies (db : Database) (warehouseIds : List Nat) (current : ShipmentRow) :
    List ((Nat × Nat) × Int) :=
  suppliesOf (fun r => (r.1, r.2.warehouseId)) db warehouseIds current.item.sku

def shipmentPlan (db : Database) (warehouseIds : List Nat) (current : ShipmentRow) :
    Greedy.Plan (Nat × Nat) :=
  Greedy.plan current.batch.quantity (shipmentSupplies db warehouseIds current)

end Shipments

end SupplyChain.Stock
