import SupplyChain.Relational.Refusals
import SupplyChain.Stock

/-!
The checks that every command begins with never fail with a conflict: what is
refused as one is refused by the command itself.
-/

namespace SupplyChain

open Relational Transaction TableName

variable {writes : List TableName} {message : String}

theorem badRequest_ne_conflict {other : String} : badRequest other ≠ conflict message := by
  simp [badRequest, conflict]

theorem forbidden_ne_conflict {other : String} : forbidden other ≠ conflict message := by
  simp [forbidden, conflict]

theorem notFound_ne_conflict {other : String} : notFound other ≠ conflict message := by
  simp [notFound, conflict]

theorem versionConflict_ne_conflict {other : String} :
    versionConflict other ≠ conflict message := by
  simp [versionConflict, conflict]

theorem duplicateKey_ne_conflict {table : TableName} :
    Failure.duplicateKey table ≠ conflict message := by
  simp [conflict]

theorem conflict_ne_conflict {other : String} (differ : other ≠ message) :
    conflict other ≠ conflict message := by
  simpa [conflict] using differ

theorem never_integer {value minimum : Int} {name : String} :
    Never (conflict message) (integer value name minimum : Tx writes Int) :=
  never_bind (never_refuseIf badRequest_ne_conflict) fun _ => never_pure

theorem never_identifier {value : Nat} {name : String} :
    Never (conflict message) (identifier value name : Tx writes Nat) :=
  never_bind (never_refuseIf badRequest_ne_conflict) fun _ => never_pure

theorem never_optionalInteger {value : Option Nat} {name : String} :
    Never (conflict message) (optionalInteger value name : Tx writes (Option Nat)) :=
  never_bind (never_refuseIf badRequest_ne_conflict) fun _ => never_pure

theorem never_optionalString {value : Option String} {maximum : Nat} :
    Never (conflict message) (optionalString value maximum : Tx writes String) :=
  never_bind (never_refuseIf badRequest_ne_conflict) fun _ => never_pure

theorem never_domainEvent {type : EventType} {aggregateType : AggregateType} {aggregateId : Nat}
    {suffix : Option String} :
    Never (conflict message) (domainEvent type aggregateType aggregateId suffix : Tx writes Unit) :=
  never_send

theorem never_lockVersion [Writes resourceVersions writes] {resourceType : String}
    {resourceId : Nat} :
    Never (conflict message) (lockVersion resourceType resourceId : Tx writes Nat) := by
  refine never_bind never_query fun known => ?_
  refine never_bind (never_whenever never_insertRow) fun _ => ?_
  refine never_bind never_query fun rows => ?_
  refine never_bind (never_orThrow versionConflict_ne_conflict) fun version => ?_
  exact never_bind (never_refuseIf versionConflict_ne_conflict) fun _ => never_pure

theorem never_bumpVersion [Writes resourceVersions writes] {resourceType : String}
    {resourceId version : Nat} :
    Never (conflict message) (bumpVersion resourceType resourceId version : Tx writes Nat) := by
  refine never_bind never_query fun matched => ?_
  refine never_bind (never_refuseIf versionConflict_ne_conflict) fun _ => ?_
  exact never_bind never_updateWhere fun _ => never_pure

theorem never_lockWarehouseFreeze [Writes resourceVersions writes] {warehouseId : Nat} :
    Never (conflict message) (lockWarehouseFreeze warehouseId : Tx writes Unit) :=
  never_bind never_lockVersion fun _ => never_pure

theorem never_freezeExists [Writes resourceVersions writes] {warehouseId : Nat} {sku : String} :
    Never (conflict message) (freezeExists warehouseId sku : Tx writes Bool) :=
  never_bind never_lockWarehouseFreeze fun _ => never_query

theorem never_requireWarehouseScope {access : AccessContext} {warehouseId : Nat} :
    Never (conflict message) (requireWarehouseScope access warehouseId : Tx writes Warehouse) := by
  refine never_bind never_select fun found => ?_
  refine never_bind (never_orThrow notFound_ne_conflict) fun warehouse => ?_
  exact never_bind (never_refuseIf forbidden_ne_conflict) fun _ => never_pure

theorem never_insertMovement [Writes inventoryMovements writes] {warehouseId : Nat}
    {sku type sourceKey : String} {quantity : Int} :
    Never (conflict message)
      (insertMovement warehouseId sku type quantity sourceKey : Tx writes Unit) :=
  never_bind (never_insertUnique duplicateKey_ne_conflict) fun _ => never_pure

/-! ## A conflict comes after the checks -/

section

variable {α : Type} {db : Database}

@[simp]
theorem fails_bind_requireRole {access : AccessContext} {roles : List Role}
    {f : Unit → Tx writes α} :
    (requireRole access roles >>= f).Fails db (conflict message) ↔
      hasRole access roles = true ∧ (f ()).Fails db (conflict message) := by
  simp [requireRole, forbidden_ne_conflict]

@[simp]
theorem fails_bind_identifier {value : Nat} {name : String} {f : Nat → Tx writes α} :
    (identifier value name >>= f).Fails db (conflict message) ↔
      (isSafeInteger value ∧ 1 ≤ value) ∧ (f value).Fails db (conflict message) := by
  have passes : ¬ (identifier value name : Tx writes Nat).Fails db (conflict message) :=
    never_identifier db
  rw [fails_bind, or_iff_right passes]
  simp [identifier, Nat.one_le_iff_ne_zero]

@[simp]
theorem fails_bind_integer {value minimum : Int} {name : String} {f : Int → Tx writes α} :
    (integer value name minimum >>= f).Fails db (conflict message) ↔
      (isSafeInteger value ∧ minimum ≤ value) ∧ (f value).Fails db (conflict message) := by
  simp [fails_bind, never_integer db]

@[simp]
theorem fails_bind_optionalInteger {value : Option Nat} {name : String}
    {f : Option Nat → Tx writes α} :
    (optionalInteger value name >>= f).Fails db (conflict message) ↔
      (∀ id, value = some id → isSafeInteger id ∧ 1 ≤ id) ∧
        (f value).Fails db (conflict message) := by
  simp [fails_bind, never_optionalInteger db]

@[simp]
theorem fails_bind_optionalString {value : Option String} {maximum : Nat}
    {f : String → Tx writes α} :
    (optionalString value maximum >>= f).Fails db (conflict message) ↔
      textLength (trim (value.getD "")) ≤ maximum ∧
        (f (trim (value.getD ""))).Fails db (conflict message) := by
  have passes : ¬ (optionalString value maximum : Tx writes String).Fails db (conflict message) :=
    never_optionalString db
  rw [fails_bind, or_iff_right passes]
  simp [optionalString, and_assoc]

/-- A conflict after a locked version is one with the other tables as they were. -/
theorem continues_lockVersion [Writes resourceVersions writes] {resourceType : String}
    {resourceId : Nat} {f : Nat → Tx writes α}
    (failed : (lockVersion resourceType resourceId >>= f).Fails db (conflict message)) :
    ∃ version mid, (∀ t, t ≠ resourceVersions → mid t = db t) ∧
      (f version).Fails mid (conflict message) := by
  obtain ⟨version, sent, mid, locks, failed⟩ := never_lockVersion.continues failed
  have bound : (lockVersion resourceType resourceId >>= fun found => pure found : Tx writes Nat).Returns
      db version (sent ++ []) mid := returns_bind.mpr ⟨version, sent, mid, [], locks, by simp, rfl⟩
  simp only [returns_bind_lockVersion, returns_pure] at bound
  obtain ⟨_, -, -, -, -, rfl⟩ := bound
  exact ⟨version, _, fun t other => Store.put_other _ _ other, failed⟩

@[simp]
theorem fails_bind_lockWarehouseFreeze [Writes resourceVersions writes] {warehouseId : Nat}
    {f : Unit → Tx writes α} :
    (lockWarehouseFreeze warehouseId >>= f).Fails db (conflict message) ↔
      freezeLocks (db resourceVersions) warehouseId ∧
        (f ()).Fails (db.put resourceVersions (freezeVersions (db resourceVersions) warehouseId))
          (conflict message) := by
  simp [fails_bind, never_lockWarehouseFreeze db, and_assoc, Unique.exists_iff]

@[simp]
theorem fails_bind_freezeExists [Writes resourceVersions writes] {warehouseId : Nat}
    {sku : String} {f : Bool → Tx writes α} :
    (freezeExists warehouseId sku >>= f).Fails db (conflict message) ↔
      freezeLocks (db resourceVersions) warehouseId ∧
        (f (frozen db warehouseId sku)).Fails
          (db.put resourceVersions (freezeVersions (db resourceVersions) warehouseId))
          (conflict message) := by
  simp [fails_bind, never_freezeExists db, and_assoc]

@[simp]
theorem fails_bind_requireWarehouseScope {access : AccessContext} {warehouseId : Nat}
    {f : Warehouse → Tx writes α} :
    (requireWarehouseScope access warehouseId >>= f).Fails db (conflict message) ↔
      ∃ warehouse, (db warehouses).find? warehouseId = some warehouse ∧
        ¬ outsideFactory access warehouse.factoryId ∧
        (f warehouse).Fails db (conflict message) := by
  have passes : ¬ (requireWarehouseScope access warehouseId : Tx writes Warehouse).Fails db
      (conflict message) := never_requireWarehouseScope db
  rw [fails_bind, or_iff_right passes]
  constructor
  · rintro ⟨warehouse, sent, mid, within, failed⟩
    simp only [requireWarehouseScope, returns_bind_select, returns_bind_orThrow,
      returns_bind_refuseIf, returns_pure] at within
    obtain ⟨_, found, inside, rfl, -, rfl⟩ := within
    exact ⟨warehouse, found, inside, failed⟩
  · rintro ⟨warehouse, found, inside, failed⟩
    refine ⟨warehouse, [], db, ?_, failed⟩
    simp [requireWarehouseScope, found, inside]

end

end SupplyChain
