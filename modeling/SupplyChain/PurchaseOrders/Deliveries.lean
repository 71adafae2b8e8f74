import SupplyChain.PurchaseOrders.Downstream
import SupplyChain.Relational.Inserts

/-!
What may follow from a confirmed order. An item is received when its one plan item
names a warehouse that takes goods in, and production is placed while its allocation
has room left.
-/

namespace SupplyChain.PurchaseOrders

open Relational Transaction TableName Supply PurchasePlans Procurement PurchaseReceipts
open ProductionOrders (planAllocations plannedFor createProductionOrder)

variable {db db' : Database} {itemId : Nat} {item : OrderItem} {order : PurchaseOrder}
  {planItem : PurchasePlanItem}

/-- Some user receives the item. -/
def Receivable (db : Database) (itemId : Nat) : Prop :=
  ∃ command body reply sent db', body.orderItemId = itemId ∧
    (receivePurchase command body).Returns db reply sent db'

/-- Some user places production of the item. -/
def Producible (db : Database) (itemId : Nat) : Prop :=
  ∃ command body reply sent db', body.orderItemId = itemId ∧
    (createProductionOrder command body).Returns db reply sent db'

/-- A user who may do everything that is not a factory's own. -/
def administrator : AccessContext :=
  { userId := 1, sessionId := none, roles := [.admin], factoryId := none, supplierId := none }

/-- A number that the commands take for a key. -/
def Addressable (id : Nat) : Prop := isSafeInteger id ∧ 1 ≤ id

/-! ## Locks -/

/-- A version that is there already is one that a command accepts. -/
def Lockable (versions : Table ResourceVersion) (resourceType : String) (resourceId : Nat) : Prop :=
  ∀ version, versionOf versions resourceType resourceId = some version → Addressable version

theorem first_addressable : Addressable 1 := ⟨by decide, by decide⟩

theorem versionOf_insert {versions : Table ResourceVersion} {row : ResourceVersion}
    {resourceType : String} {resourceId : Nat} :
    versionOf (versions.insert row) resourceType resourceId =
      (versionOf versions resourceType resourceId).or
        (if row.resourceType = resourceType ∧ row.resourceId = resourceId then some row.version
        else none) := by
  unfold versionOf
  rw [Table.first?_insert]
  by_cases own : row.resourceType = resourceType ∧ row.resourceId = resourceId
  · cases (versions.first? fun _ row =>
      row.resourceType == resourceType && row.resourceId == resourceId) <;> simp [own]
  · have other : (row.resourceType == resourceType && row.resourceId == resourceId) = false := by
      simpa using own
    simp [own, other]

theorem lockable_iff {versions : Table ResourceVersion} {resourceType : String} {resourceId : Nat} :
    (∃ version, versionOf (lockedVersions versions resourceType resourceId) resourceType
        resourceId = some version ∧ isSafeInteger version ∧ 1 ≤ version) ↔
      Lockable versions resourceType resourceId := by
  unfold lockedVersions Lockable
  cases known : versionOf versions resourceType resourceId with
  | none =>
      simp only [if_true, versionOf_insert, known, and_self, Option.none_or]
      exact ⟨fun _ _ absent => (by cases absent), fun _ => ⟨1, rfl, by decide, by decide⟩⟩
  | some version => simp [known, Addressable]

theorem lockable_locked {versions : Table ResourceVersion} {resourceType otherType : String}
    {resourceId otherId : Nat} :
    Lockable (lockedVersions versions otherType otherId) resourceType resourceId ↔
      Lockable versions resourceType resourceId := by
  unfold Lockable lockedVersions
  split
  · rw [versionOf_insert]
    cases versionOf versions resourceType resourceId with
    | none =>
        -- a version that is locked for the first time is the first one
        rw [Option.none_or]
        split
        · refine ⟨fun _ _ absent => (by cases absent), fun _ version first => ?_⟩
          cases first
          exact first_addressable
        · exact Iff.rfl
    | some version => rw [Option.some_or]
  · exact Iff.rfl

theorem freezeLocks_iff {versions : Table ResourceVersion} {warehouseId : Nat} :
    freezeLocks versions warehouseId ↔
      Lockable versions "warehouse_inventory_freeze" warehouseId :=
  lockable_iff

theorem lockable_freeze {versions : Table ResourceVersion} {resourceType : String}
    {resourceId warehouseId : Nat} :
    Lockable (freezeVersions versions warehouseId) resourceType resourceId ↔
      Lockable versions resourceType resourceId :=
  lockable_locked

/-! ## Receipts -/

/-- The warehouse takes the item in: it is active and not frozen, and the receipt finds
its versions usable and its movement unrecorded. -/
structure Receives (db : Database) (itemId : Nat) (item : OrderItem) (warehouseId : Nat) :
    Prop where
  orderKey : Addressable item.purchaseOrderId
  itemKey : Addressable itemId
  warehouseKey : Addressable warehouseId
  active : Stock.ActiveWarehouse db warehouseId
  thawed : frozen db warehouseId item.sku = false
  freeze : Lockable (db resourceVersions) "warehouse_inventory_freeze" warehouseId
  version : Lockable (db resourceVersions) "purchase_receipt" (db purchaseReceipts).nextId
  movement : ((db inventoryMovements).any fun _ row => row.sourceKey ==
    "purchase_receipt:" ++ toString (db purchaseReceipts).nextId) = false

theorem allocationKeys_single {quantity : Int}
    (planned : planAllocations db itemId = [(quantity, planItem)]) :
    allocationKeys db itemId = [(planItem.factoryId, planItem.warehouseId)] := by
  have mapped : allocationKeys db itemId =
      (planAllocations db itemId).map fun row => (row.2.factoryId, row.2.warehouseId) := by
    unfold allocationKeys planAllocations
    rw [List.map_filterMap]
    apply List.filterMap_congr
    intro r _
    rw [Option.map_map]
    rfl
  rw [mapped, planned]
  rfl

/-- An untouched item of a confirmed order can be received exactly when the warehouse of
its plan item takes it in. -/
theorem receivable_iff {quantity : Int} (found : (db orderItems).find? itemId = some item)
    (foundOrder : (db purchaseOrders).find? item.purchaseOrderId = some order)
    (confirmed : order.status = .confirmed) (outstanding : item.receivedQuantity = 0)
    (positive : 0 < item.quantity)
    (planned : planAllocations db itemId = [(quantity, planItem)])
    (unreceived : ∀ key receipt, (db purchaseReceipts).find? key = some receipt →
      receipt.orderItemId ≠ itemId) :
    Receivable db itemId ↔ Receives db itemId item planItem.warehouseId := by
  have keys := allocationKeys_single planned
  constructor
  · rintro ⟨command, body, reply, sent, db', own, returns⟩
    subst own
    simp only [receivePurchase, returns_bind_requireRole, returns_bind_identifier,
      returns_bind_optionalString, returns_bind_query, returns_bind_orThrow,
      returns_bind_refuseIf, returns_bind_of_reads quantityReceived_reads,
      returns_bind_lockWarehouseFreeze, returns_bind_requireWarehouseScope,
      returns_bind_freezeExists, returns_bind_insertBatch, returns_bind_insertUnique,
      frozen_put_resourceVersions, Bool.not_eq_true, not_not, keys, List.head?_cons,
      Option.some.injEq] at returns
    obtain ⟨-, orderKey, itemKey, warehouseKey, -, row, read, -, -, -, quantity, -, -, -, rfl, -, -,
      same, locks, warehouse, foundWarehouse, -, active, -, thawed, -, -, returns⟩ := returns
    obtain ⟨own, read⟩ : item.purchaseOrderId = body.purchaseOrderId ∧ row.1 = item := by
      rw [found, Option.bind_some] at read
      split at read
      · rename_i own
        obtain ⟨_, -, rfl⟩ := Option.map_eq_some_iff.mp read
        exact ⟨own, rfl⟩
      · cases read
    subst read
    obtain ⟨_, _, _, _, counted, rest, rfl⟩ := returns_bind.mp returns
    obtain ⟨-, rfl, rfl⟩ := returns_updateRow.mp counted
    simp only [returns_bind_insertMovement, returns_bind_lockVersion] at rest
    obtain ⟨movement, version, stored, usable, -⟩ := rest
    dsimp only at same
    rw [same] at warehouseKey locks foundWarehouse thawed
    exact
      { orderKey := own ▸ orderKey
        itemKey := itemKey
        warehouseKey := warehouseKey
        active := ⟨warehouse, by simpa using foundWarehouse, active⟩
        thawed := thawed
        freeze := freezeLocks_iff.mp locks
        version := by
          have locked := lockable_iff.mp ⟨version, stored, usable⟩
          simpa [lockable_freeze] using locked
        movement := by simpa using movement }
  · intro receives
    obtain ⟨batch, freshBatch⟩ := (db inventoryBatches).exists_unused (·.batchNo)
      ("RCV-" ++ order.orderNo ++ "-" ++ toString itemId ++ "-")
    obtain ⟨receipt, freshReceipt⟩ := (db purchaseReceipts).exists_unused (·.receiptNo) "RC-"
    obtain ⟨warehouse, foundWarehouse, active⟩ := receives.active
    have unused : ((db purchaseReceipts).any fun _ row =>
        row.receiptNo == "RC-" ++ receipt || row.orderItemId == itemId) = false := by
      rw [Table.any_eq_false] at freshReceipt ⊢
      intro key row foundRow
      rw [freshReceipt key row foundRow, Bool.false_or, beq_eq_false_iff_ne]
      exact unreceived key row foundRow
    refine ⟨⟨administrator, 0, 0, "", "", fun n => if n = 0 then batch else receipt, id⟩,
      { purchaseOrderId := item.purchaseOrderId, orderItemId := itemId
        warehouseId := planItem.warehouseId }, ?_⟩
    have admitted : hasRole administrator [.admin, .supplyChain, .factory] = true := by decide
    have inside : ∀ factory, ¬ outsideFactory administrator factory := fun _ outside =>
      absurd outside.1 (by decide)
    have blank : textLength (trim "") ≤ 2000 := by decide
    have unoffered : 0 ≤ item.quantity := Int.le_of_lt positive
    simp [receivePurchase, quantityReceived, receiveItem, admitted, inside, blank, found,
      foundOrder, confirmed, outstanding, keys, unoffered, positive, freezeLocks_iff, lockable_iff,
      lockable_freeze, receives.freeze, receives.version, receives.thawed, foundWarehouse, active,
      unused]
    exact ⟨receives.orderKey, receives.itemKey, receives.warehouseKey, freshBatch,
      receives.movement⟩

/-! ## Production -/

/-- The factory of the plan item produces the item: it is a finished good with a bill of
materials in force, its allocation has room left, and the production order finds its
version usable. -/
structure Produces (db : Database) (itemId : Nat) (item : OrderItem) (order : PurchaseOrder)
    (quantity : Int) (planItem : PurchasePlanItem) : Prop where
  itemKey : Addressable itemId
  factoryKey : Addressable planItem.factoryId
  finished : item.itemType = some "finished"
  sku : planItem.sku = item.sku
  allocated : isSafeInteger quantity
  bill : ∃ bomId bom, Addressable bomId ∧ (db productBoms).find? bomId = some bom ∧
    bom.finishedSku = item.sku ∧ bom.active = true ∧ bom.approvalStatus = .approved ∧
    bom.effectiveFrom ≤ order.orderDate ∧ ∀ last ∈ bom.effectiveTo, order.orderDate ≤ last
  room : plannedFor (db executionOrders) itemId < quantity
  version : Lockable (db resourceVersions) "execution_order" (db executionOrders).nextId

theorem forEach_insertMaterialLine_returns {orderId : Nat} {plannedQuantity : Int}
    {components : List (Nat × BomComponent)} :
    ∃ db', (forEach (ProductionOrders.insertMaterialLine orderId plannedQuantity)
      components).Returns db () [] db' := by
  induction components generalizing db with
  | nil => exact ⟨db, returns_forEach_nil.mpr ⟨rfl, rfl⟩⟩
  | cons component rest ih =>
      obtain ⟨db', later⟩ := ih
      exact ⟨db', returns_forEach_cons.mpr
        ⟨[], _, [], returns_insertRow.mpr ⟨rfl, rfl⟩, later, rfl⟩⟩

/-- Production of an item can be placed exactly when the factory of its plan item produces
it. -/
theorem producible_iff {quantity : Int} (found : (db orderItems).find? itemId = some item)
    (foundOrder : (db purchaseOrders).find? item.purchaseOrderId = some order)
    (positive : 0 < quantity) (planned : planAllocations db itemId = [(quantity, planItem)]) :
    Producible db itemId ↔ Produces db itemId item order quantity planItem := by
  constructor
  · rintro ⟨command, body, reply, sent, db', own, returns⟩
    subst own
    simp only [createProductionOrder, returns_bind_requireRole, returns_bind_identifier,
      returns_bind_refuseIf, returns_bind_integer, returns_bind_string, returns_bind_query,
      returns_bind_orThrow, returns_bind_select, returns_bind_insertUnique, returns_bind_widen,
      returns_bind_lockVersion, found, foundOrder, Option.bind_some, Option.map_some,
      Option.some.injEq, planned, List.map_cons, List.map_nil, List.sum_cons, List.sum_nil,
      Int.add_zero] at returns
    obtain ⟨-, itemKey, factoryKey, -, bomKey, ⟨-, asked⟩, -, -, -, finished, _, rfl, authoritative,
      allocated, bom, foundBom, usable, effective, room, -, _, _, mid, _, lines,
      ⟨version, stored, usableVersion, -⟩, -⟩ := returns
    have versions := lines.unwritten resourceVersions (by decide)
    push Not at authoritative allocated usable
    have effective := not_or.mp effective
    dsimp only at effective
    have within : plannedFor (db executionOrders) body.orderItemId + body.plannedQuantity ≤ quantity :=
      not_lt.mp room
    have own : planItem.factoryId = body.factoryId ∧ planItem.sku = item.sku := by
      simpa using authoritative.2
    refine
      { itemKey := itemKey
        factoryKey := own.1 ▸ factoryKey
        finished := by simpa using finished
        sku := own.2
        allocated := allocated.1
        bill := ⟨body.bomId, bom, bomKey, foundBom, usable.1, by simpa using usable.2.1, usable.2.2,
          String.not_lt.mp effective.1, ?_⟩
        room := by omega
        version := ?_ }
    · intro last inForce
      have late := effective.2
      rw [Option.mem_def.mp inForce, Option.any_some, decide_eq_true_eq] at late
      exact String.not_lt.mp late
    · have locked := lockable_iff.mp ⟨version, stored, usableVersion⟩
      rwa [versions, Store.put_other _ _ (by decide)] at locked
  · intro produces
    obtain ⟨execution, fresh⟩ := (db executionOrders).exists_unused (·.executionNo) "MO-"
    obtain ⟨bomId, bom, bomKey, foundBom, sku, active, approved, starts, ends⟩ := produces.bill
    refine ⟨⟨administrator, 0, 0, "", "", fun _ => execution, id⟩,
      { orderItemId := itemId, factoryId := planItem.factoryId, bomId, plannedQuantity := 1
        plannedStartDate := "2026", plannedFinishDate := "2026" }, ?_⟩
    have admitted : hasRole administrator [.admin, .supplyChain, .factory] = true := by decide
    have inside : ∀ factory, ¬ outsideFactory administrator factory := fun _ outside =>
      absurd outside.1 (by decide)
    have stated : textLength (trim "2026") ≠ 0 ∧ textLength (trim "2026") ≤ 100 := by decide
    have one : isSafeInteger 1 ∧ (1 : Int) ≤ 1 := by decide
    have effective : ¬ (order.orderDate < bom.effectiveFrom ∨
        bom.effectiveTo.any (fun last => decide (last < order.orderDate)) = true) := by
      rintro (early | late)
      · exact String.not_lt.mpr starts early
      · cases final : bom.effectiveTo with
        | none =>
            rw [final] at late
            cases late
        | some last =>
            rw [final, Option.any_some, decide_eq_true_eq] at late
            exact String.not_lt.mpr (ends last final) late
    have finished : ¬ (some (item, order)).all (fun row => row.1.itemType != some "finished") = true := by
      simp [produces.finished]
    have authoritative : ¬ ([(quantity, planItem)] = [] ∨ [(quantity, planItem)].any (fun row =>
        row.2.factoryId != planItem.factoryId || row.2.sku != item.sku) = true) := by
      simp [produces.sku]
    have room : ¬ quantity < plannedFor (db executionOrders) itemId + 1 :=
      not_lt.mpr produces.room
    rw [plannedFor] at room
    simp only [createProductionOrder, returns_bind_requireRole, returns_bind_identifier,
      returns_bind_refuseIf, returns_bind_integer, returns_bind_string, returns_bind_query,
      returns_bind_orThrow, returns_bind_select, returns_bind_insertUnique, returns_bind_widen,
      returns_bind_lockVersion, found, foundOrder, Option.bind_some, Option.map_some,
      Option.some.injEq, planned, List.map_cons, List.map_nil, List.sum_cons, List.sum_nil,
      Int.add_zero, exists_eq_left']
    obtain ⟨mid, lines⟩ := forEach_insertMaterialLine_returns
    obtain ⟨version, stored, usable⟩ := lockable_iff.mpr produces.version
    refine ⟨_, _, _, trivial, admitted, produces.itemKey, produces.factoryKey, inside _, bomKey, one,
      stated, stated, String.lt_irrefl _, finished, authoritative, ?_, bom, foundBom, ?_, effective, room,
      fresh, (), [], mid, _, lines, ⟨version, ?_, usable,
        returns_bind_domainEvent.mpr ⟨_, returns_pure.mpr ⟨rfl, rfl, rfl⟩, rfl⟩⟩, rfl⟩
    · rintro (unsafeSum | none)
      · exact unsafeSum produces.allocated
      · exact absurd positive (not_lt.mpr none)
    · rintro (other | inactive | undecided)
      · exact other sku
      · rw [active] at inactive
        cases inactive
      · exact undecided approved
    · have versions := lines.unwritten resourceVersions (by decide)
      rw [versions, Store.put_other _ _ (by decide)]
      exact stored

end SupplyChain.PurchaseOrders
