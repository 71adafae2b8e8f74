import SupplyChain.Platform

/-!
The warehouse commands: creation, the request of a merge into another
warehouse, and deactivation.
-/

namespace SupplyChain.Warehouses

open Relational Transaction TableName

structure CreateWarehouse where
  code : String
  name : String
  type : WarehouseType
  factoryId : Option Nat := none
  address : Option String := none

structure RequestMerge where
  id : Nat
  targetId : Nat
  reason : String

inductive WarehouseCommand
  | create (body : CreateWarehouse)
  | requestMerge (body : RequestMerge)
  | deactivate (id : Nat)

def upperCase (text : String) : String := String.ofList (text.toList.map Char.toUpper)

def createWarehouse (body : CreateWarehouse) :
    Tx [resourceVersions, warehouses] JsonValue := do
  let trimmed ← string body.code "code" 191
  let code := upperCase trimmed
  let name ← string body.name "name"
  let factoryId ← optionalInteger body.factoryId "factoryId"
  refuseIf (body.type = .factory ∧ factoryId = none)
    (badRequest "Factory warehouse requires a factory binding")
  let _ ← optionalString body.address
  let id ← insertUnique warehouses (fun row => row.code == code)
    { code, name, type := body.type, factoryId, status := .active } (.duplicateKey warehouses)
  let _ ← lockVersion "warehouse" id
  domainEvent .warehouseCreated .warehouse id
  return .object [("warehouse", .object [("id", .number id), ("code", .text code),
    ("name", .text name), ("type", .text body.type.name),
    ("factoryId", factoryId.elim .null fun factory => .number factory),
    ("status", .text "active"), ("version", .number 1)])]

def stockIn (batch : InventoryBatch) : Int :=
  batch.availableQuantity + batch.lockedQuantity + batch.defectiveQuantity +
    batch.pendingInspectionQuantity + batch.quarantineQuantity

def TransferStatus.unfinished : TransferStatus → Bool
  | .pendingSupplyChain | .approved | .shipped => true
  | _ => false

/-- The three counts that block a merge or a deactivation. -/
def hasBlockers (db : Database) (warehouseId : Nat) : Bool :=
  ((db inventoryBatches).any fun _ batch =>
    batch.warehouseId == warehouseId && stockIn batch != 0) ||
  ((db inventoryTransfers).any fun _ transfer =>
    (transfer.fromWarehouseId == warehouseId || transfer.toWarehouseId == warehouseId) &&
      TransferStatus.unfinished transfer.status) ||
  ((db stocktakes).any fun _ task => task.warehouseId == warehouseId && task.status.open)

def requestMerge (command : CommandContext) (id : Nat) (warehouse : Warehouse) (version : Nat)
    (body : RequestMerge) : Tx [approvalRequests] JsonValue := do
  refuseIf (warehouse.status ≠ .active) (conflict "Warehouse is not active")
  let targetId ← identifier body.targetId "targetId"
  let reason ← string body.reason "reason"
  refuseIf (targetId = id) (badRequest "Merge target must differ")
  let found ← select warehouses targetId
  let target ← orThrow found (notFound "Target warehouse not found")
  refuseIf (target.status ≠ .active) (conflict "Target warehouse is not active")
  let approvalNo := "AP-WHM-" ++ command.randomUUID 0
  let approvalId ← insertApproval command approvalNo .warehouseMerge "warehouse" id
    (.object [("sourceId", .number id), ("targetId", .number targetId), ("reason", .text reason)])
  domainEvent .approvalRequested .warehouse id (some (toString approvalId))
  return .object [("approval", .object [("id", .number approvalId),
    ("requestNo", .text approvalNo)]), ("approvalRequired", .boolean true),
    ("version", .number version)]

def deactivate (id : Nat) (warehouse : Warehouse) (version : Nat) :
    Tx [resourceVersions, warehouses] JsonValue := do
  refuseIf (warehouse.status ≠ .active) (conflict "Warehouse is not active")
  let blocked ← query fun db => hasBlockers db id
  refuseIf (blocked = true) (conflict "Warehouse has active blockers")
  updateRow warehouses id (fun row => row.status == .active)
    (fun row => { row with status := .inactive })
    (versionConflict "Warehouse changed concurrently")
  let nextVersion ← bumpVersion "warehouse" id version
  domainEvent .warehouseDeactivated .warehouse id
  return .object [("success", .boolean true), ("id", .number id), ("status", .text "inactive"),
    ("version", .number nextVersion)]

def warehouseCommand (command : CommandContext) (body : WarehouseCommand) :
    Tx [resourceVersions, warehouses, approvalRequests] JsonValue := do
  requireRole command.access [.admin, .supplyChain]
  match body with
  | .create warehouse => (createWarehouse warehouse).widen
  | .requestMerge merge => do
      let id ← identifier merge.id "id"
      let found ← select warehouses id
      let warehouse ← orThrow found (notFound "Warehouse not found")
      let version ← lockVersion "warehouse" id
      (requestMerge command id warehouse version merge).widen
  | .deactivate key => do
      let id ← identifier key "id"
      let found ← select warehouses id
      let warehouse ← orThrow found (notFound "Warehouse not found")
      let version ← lockVersion "warehouse" id
      (deactivate id warehouse version).widen

end SupplyChain.Warehouses
