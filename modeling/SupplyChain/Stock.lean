import SupplyChain.Platform
import SupplyChain.Greedy

/-!
What the writers of stock share: the stocktake freeze, the inserts of batches
and movements under their unique keys, and the choice of batches for a
deduction, first expiry first out.
-/

namespace SupplyChain

open Relational Transaction TableName

/-! ## The stocktake freeze -/

/-- Whether an open stocktake of the warehouse covers the sku, as a whole or
through a row of its round-0 snapshot; what the query of `freezeExists`
answers. -/
def frozen (db : Database) (warehouseId : Nat) (sku : String) : Bool :=
  (db stocktakes).any fun id task =>
    task.warehouseId == warehouseId && task.status.open &&
      (task.scope == .fullWarehouse ||
        (db stocktakeCounts).any fun _ count =>
          count.stocktakeId == id && count.countRound == 0 && count.sku == sku)

@[simp]
theorem frozen_put_resourceVersions (db : Database) (versions : Table ResourceVersion)
    (warehouseId : Nat) (sku : String) :
    frozen (db.put resourceVersions versions) warehouseId sku = frozen db warehouseId sku := by
  simp [frozen]

variable {writes : List TableName} {α : Type} {db db' : Database} {a : α} {sent : List DomainEvent}

def lockWarehouseFreeze [Writes resourceVersions writes] (warehouseId : Nat) : Tx writes Unit := do
  let _ ← lockVersion "warehouse_inventory_freeze" warehouseId
  return ()

def freezeExists [Writes resourceVersions writes] (warehouseId : Nat) (sku : String) :
    Tx writes Bool := do
  lockWarehouseFreeze warehouseId
  query fun db => frozen db warehouseId sku

/-- The versions after the freeze version of a warehouse was locked. -/
def freezeVersions (versions : Table ResourceVersion) (warehouseId : Nat) : Table ResourceVersion :=
  lockedVersions versions "warehouse_inventory_freeze" warehouseId

/-- The locked freeze version is usable. -/
def freezeLocks (versions : Table ResourceVersion) (warehouseId : Nat) : Prop :=
  ∃ version, versionOf (freezeVersions versions warehouseId) "warehouse_inventory_freeze"
    warehouseId = some version ∧ isSafeInteger version ∧ 1 ≤ version

@[simp]
theorem returns_lockWarehouseFreeze [Writes resourceVersions writes] {warehouseId : Nat} {u : Unit} :
    (lockWarehouseFreeze warehouseId : Tx writes Unit).Returns db u sent db' ↔
      freezeLocks (db resourceVersions) warehouseId ∧ sent = [] ∧
        db' = db.put resourceVersions (freezeVersions (db resourceVersions) warehouseId) := by
  simp [lockWarehouseFreeze, freezeLocks, freezeVersions, ← and_assoc]

@[simp]
theorem returns_bind_lockWarehouseFreeze [Writes resourceVersions writes] {warehouseId : Nat}
    {f : Unit → Tx writes α} :
    (lockWarehouseFreeze warehouseId >>= f).Returns db a sent db' ↔
      freezeLocks (db resourceVersions) warehouseId ∧
        (f ()).Returns
          (db.put resourceVersions (freezeVersions (db resourceVersions) warehouseId)) a sent db' := by
  simp [returns_bind, Unique.exists_iff, and_assoc]

@[simp]
theorem returns_freezeExists [Writes resourceVersions writes] {warehouseId : Nat} {sku : String}
    {answer : Bool} :
    (freezeExists warehouseId sku : Tx writes Bool).Returns db answer sent db' ↔
      freezeLocks (db resourceVersions) warehouseId ∧ answer = frozen db warehouseId sku ∧
        sent = [] ∧
        db' = db.put resourceVersions (freezeVersions (db resourceVersions) warehouseId) := by
  simp [freezeExists]

@[simp]
theorem returns_bind_freezeExists [Writes resourceVersions writes] {warehouseId : Nat}
    {sku : String} {f : Bool → Tx writes α} :
    (freezeExists warehouseId sku >>= f).Returns db a sent db' ↔
      freezeLocks (db resourceVersions) warehouseId ∧
        (f (frozen db warehouseId sku)).Returns
          (db.put resourceVersions (freezeVersions (db resourceVersions) warehouseId)) a sent db' := by
  simp [returns_bind, and_assoc]

theorem frozen_congr (tasks : db' stocktakes = db stocktakes)
    (counts : db' stocktakeCounts = db stocktakeCounts) (warehouseId : Nat) (sku : String) :
    frozen db' warehouseId sku = frozen db warehouseId sku := by
  simp only [frozen, tasks, counts]

/-- A loop whose rounds find a warehouse and sku thawed and write only versions
finds all of them thawed where it begins. -/
theorem forEach_thawed {Item : Type} {f : Item → Tx writes Unit} (warehouse : Item → Nat)
    (sku : Item → String)
    (round : ∀ {item db sent db'}, (f item).Returns db () sent db' →
      sent = [] ∧ frozen db (warehouse item) (sku item) = false ∧
        ∀ t, t ≠ resourceVersions → db' t = db t)
    {items : List Item} {u : Unit} (returns : (forEach f items).Returns db u sent db') :
    sent = [] ∧ (∀ item ∈ items, frozen db (warehouse item) (sku item) = false) ∧
      ∀ t, t ≠ resourceVersions → db' t = db t := by
  induction items generalizing db sent with
  | nil =>
      obtain ⟨rfl, rfl⟩ := returns_forEach_nil.mp returns
      exact ⟨rfl, by simp, fun _ _ => rfl⟩
  | cons item rest ih =>
      obtain ⟨first, mid, later, head, tail, rfl⟩ := returns_forEach_cons.mp returns
      obtain ⟨rfl, here, keptHead⟩ := round head
      obtain ⟨rfl, there, keptTail⟩ := ih tail
      refine ⟨rfl, ?_, fun t other => (keptTail t other).trans (keptHead t other)⟩
      intro other member
      rcases List.mem_cons.mp member with rfl | inside
      · exact here
      · rw [← there other inside]
        exact (frozen_congr (keptHead _ (by decide)) (keptHead _ (by decide)) _ _).symm

/-! ## Batches and movements -/

def insertBatch [Writes inventoryBatches writes] (batch : InventoryBatch) : Tx writes Nat :=
  insertUnique inventoryBatches (fun row => row.batchNo == batch.batchNo) batch
    (.duplicateKey inventoryBatches)

def insertMovement [Writes inventoryMovements writes] (warehouseId : Nat) (sku type : String)
    (quantity : Int) (sourceKey : String) : Tx writes Unit := do
  let _ ← insertUnique inventoryMovements (fun row => row.sourceKey == sourceKey)
    { warehouseId, sku, type, quantity, sourceKey } (.duplicateKey inventoryMovements)
  return ()

@[simp]
theorem returns_bind_insertBatch [Writes inventoryBatches writes] {batch : InventoryBatch}
    {f : Nat → Tx writes α} :
    (insertBatch batch >>= f).Returns db a sent db' ↔
      ((db inventoryBatches).any fun _ row => row.batchNo == batch.batchNo) = false ∧
        (f (db inventoryBatches).nextId).Returns
          (db.put inventoryBatches ((db inventoryBatches).insert batch)) a sent db' :=
  returns_bind_insertUnique

@[simp]
theorem returns_insertMovement [Writes inventoryMovements writes] {warehouseId : Nat}
    {sku type sourceKey : String} {quantity : Int} {u : Unit} :
    (insertMovement warehouseId sku type quantity sourceKey : Tx writes Unit).Returns db u sent db' ↔
      ((db inventoryMovements).any fun _ row => row.sourceKey == sourceKey) = false ∧
        sent = [] ∧ db' = db.put inventoryMovements
          ((db inventoryMovements).insert { warehouseId, sku, type, quantity, sourceKey }) := by
  simp [insertMovement]

@[simp]
theorem returns_bind_insertMovement [Writes inventoryMovements writes] {warehouseId : Nat}
    {sku type sourceKey : String} {quantity : Int} {f : Unit → Tx writes α} :
    (insertMovement warehouseId sku type quantity sourceKey >>= f).Returns db a sent db' ↔
      ((db inventoryMovements).any fun _ row => row.sourceKey == sourceKey) = false ∧
        (f ()).Returns (db.put inventoryMovements
          ((db inventoryMovements).insert { warehouseId, sku, type, quantity, sourceKey }))
          a sent db' := by
  simp [returns_bind, Unique.exists_iff]

/-- `ORDER BY expiry_date ASC, inbound_date ASC, id ASC`; NULL comes first. -/
def expiresFirst (a b : Nat × InventoryBatch) : Prop :=
  (((compare a.2.expiryDate b.2.expiryDate).then (compare a.2.inboundDate b.2.inboundDate)).then
    (compare a.1 b.1)).isLE = true

instance : DecidableRel expiresFirst := fun _ _ => inferInstanceAs (Decidable (_ = true))

/-- The batches a deduction may draw on, in the order it draws on them. -/
def deductible (db : Database) (warehouseIds : List Nat) (sku : String) :
    List (Nat × InventoryBatch) :=
  ((db inventoryBatches).select fun _ batch =>
    warehouseIds.contains batch.warehouseId && batch.sku == sku && batch.ownership == .company &&
      decide (0 < batch.availableQuantity) && batch.expiryStatus != .expiredFrozen &&
      batch.quarantineQuantity == 0).insertionSort expiresFirst

/-- Takes a planned quantity from the available bucket of a batch. -/
def deductBatch [Writes inventoryBatches writes] (id : Nat) (quantity : Int) : Tx writes Unit :=
  updateRow inventoryBatches id (fun batch => decide (quantity ≤ batch.availableQuantity))
    (fun batch => { batch with availableQuantity := batch.availableQuantity - quantity })
    (versionConflict "Inventory changed concurrently")

end SupplyChain
