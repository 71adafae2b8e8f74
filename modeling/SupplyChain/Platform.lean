import SupplyChain.Schema

/-!
The platform under the operations writers: errors and their texts, the input
checks, resource versions, scopes, clean files, step-up claims and the events
a command sends to the outbox.
-/

namespace SupplyChain

open Relational Transaction TableName

/-! ## Errors -/

inductive ErrorCode
  | badRequest | forbidden | notFound | conflict | versionConflict | fileQuarantined
  | internalServerError
  deriving DecidableEq

structure PlatformError where
  statusCode : Nat
  code : ErrorCode
  message : String
  deriving DecidableEq

/-- Why a unit of work rolled back: a refusal of the code, or a row that the
unique key of a table rejects. -/
inductive Failure
  | platform (error : PlatformError)
  | duplicateKey (table : TableName)
  deriving DecidableEq

def badRequest (message : String) : Failure := .platform ⟨400, .badRequest, message⟩
def forbidden (message : String) : Failure := .platform ⟨403, .forbidden, message⟩
def notFound (message : String) : Failure := .platform ⟨404, .notFound, message⟩
def conflict (message : String) : Failure := .platform ⟨409, .conflict, message⟩
def versionConflict (message : String) : Failure := .platform ⟨409, .versionConflict, message⟩
def fileQuarantined (message : String) : Failure := .platform ⟨409, .fileQuarantined, message⟩

/-! ## Events -/

inductive AggregateType
  | inventoryReservation | inventoryTransfer | purchaseReceipt | qualityInspection
  | executionOrder | stocktake | deliveryBatch | logisticsException | productReturn
  | warehouse | approval | invoice | invoiceException | paymentRequest | paymentRecord
  deriving DecidableEq

def AggregateType.name : AggregateType → String
  | .inventoryReservation => "inventory_reservation"
  | .inventoryTransfer => "inventory_transfer"
  | .purchaseReceipt => "purchase_receipt"
  | .qualityInspection => "quality_inspection"
  | .executionOrder => "execution_order"
  | .stocktake => "stocktake"
  | .deliveryBatch => "delivery_batch"
  | .logisticsException => "logistics_exception"
  | .productReturn => "product_return"
  | .warehouse => "warehouse"
  | .approval => "approval"
  | .invoice => "invoice"
  | .invoiceException => "invoice_exception"
  | .paymentRequest => "payment_request"
  | .paymentRecord => "payment_record"

inductive EventType
  | inventoryReserved | inventoryShortageDetected | approvalRequested | transferShipped
  | transferReceived | purchaseOrderItemReceived | inspectionCompleted | dispositionRequired
  | productionOrderCreated | productionReservationReleased | productionOrderStarted
  | productionMaterialsReported | productionVarianceRequested | productionOrderCompleted
  | stocktakeOpened | countSubmitted | stocktakeRecountRequired | stocktakeCompleted
  | varianceApprovalRequested | shipmentPlanned | logisticsExceptionResolved | shipmentConfirmed
  | shipmentDeviationRequested | shipmentDispatched | payableAccrued | logisticsExceptionOpened
  | shipmentReceived | returnReceived | returnInspected | returnDispositionProposed
  | returnDispositionApproved | returnDispositionRejected | warehouseCreated
  | warehouseDeactivated | approvalDecided | invoiceRegistered | invoiceRejected
  | invoiceVerified | invoiceVerificationRecorded | invoiceInvalidated
  | invoiceRemediationProgressed | paymentRecorded | refundRecorded
  | financialCorrectionRequested | invoiceRiskReleased
  deriving DecidableEq

def EventType.name : EventType → String
  | .inventoryReserved => "InventoryReserved"
  | .inventoryShortageDetected => "InventoryShortageDetected"
  | .approvalRequested => "ApprovalRequested"
  | .transferShipped => "TransferShipped"
  | .transferReceived => "TransferReceived"
  | .purchaseOrderItemReceived => "PurchaseOrderItemReceived"
  | .inspectionCompleted => "InspectionCompleted"
  | .dispositionRequired => "DispositionRequired"
  | .productionOrderCreated => "ProductionOrderCreated"
  | .productionReservationReleased => "ProductionReservationReleased"
  | .productionOrderStarted => "ProductionOrderStarted"
  | .productionMaterialsReported => "ProductionMaterialsReported"
  | .productionVarianceRequested => "ProductionVarianceRequested"
  | .productionOrderCompleted => "ProductionOrderCompleted"
  | .stocktakeOpened => "StocktakeOpened"
  | .countSubmitted => "CountSubmitted"
  | .stocktakeRecountRequired => "StocktakeRecountRequired"
  | .stocktakeCompleted => "StocktakeCompleted"
  | .varianceApprovalRequested => "VarianceApprovalRequested"
  | .shipmentPlanned => "ShipmentPlanned"
  | .logisticsExceptionResolved => "LogisticsExceptionResolved"
  | .shipmentConfirmed => "ShipmentConfirmed"
  | .shipmentDeviationRequested => "ShipmentDeviationRequested"
  | .shipmentDispatched => "ShipmentDispatched"
  | .payableAccrued => "PayableAccrued"
  | .logisticsExceptionOpened => "LogisticsExceptionOpened"
  | .shipmentReceived => "ShipmentReceived"
  | .returnReceived => "ReturnReceived"
  | .returnInspected => "ReturnInspected"
  | .returnDispositionProposed => "ReturnDispositionProposed"
  | .returnDispositionApproved => "ReturnDispositionApproved"
  | .returnDispositionRejected => "ReturnDispositionRejected"
  | .warehouseCreated => "WarehouseCreated"
  | .warehouseDeactivated => "WarehouseDeactivated"
  | .approvalDecided => "ApprovalDecided"
  | .invoiceRegistered => "InvoiceRegistered"
  | .invoiceRejected => "InvoiceRejected"
  | .invoiceVerified => "InvoiceVerified"
  | .invoiceVerificationRecorded => "InvoiceVerificationRecorded"
  | .invoiceInvalidated => "InvoiceInvalidated"
  | .invoiceRemediationProgressed => "InvoiceRemediationProgressed"
  | .paymentRecorded => "PaymentRecorded"
  | .refundRecorded => "RefundRecorded"
  | .financialCorrectionRequested => "FinancialCorrectionRequested"
  | .invoiceRiskReleased => "InvoiceRiskReleased"

structure DomainEvent where
  type : EventType
  aggregateType : AggregateType
  aggregateId : Nat
  deduplicationSuffix : Option String
  deriving DecidableEq

def DomainEvent.deduplicationKey (event : DomainEvent) : String :=
  let suffix := match event.deduplicationSuffix with
    | none => ""
    | some text => ":" ++ text
  "r3:" ++ event.type.name ++ ":" ++ event.aggregateType.name ++ ":" ++
    toString event.aggregateId ++ suffix

/-! ## Commands -/

/-- A unit of work of a command. The messages it sends are collected and
inserted into `outbox_messages` when it ends: the code inserts them in the
same transaction, and no statement of a command reads that table. -/
abbrev Tx (writes : List TableName) := Transaction Row DomainEvent Failure writes

structure AccessContext where
  userId : Nat
  sessionId : Option Nat
  roles : List Role
  factoryId : Option Nat
  supplierId : Option Nat

/-- What a command sees besides its body: the caller, the clock of the
database in milliseconds, the clock of the application (in milliseconds and as
ISO text), the current date, the uuids it draws in order and the hash. -/
structure CommandContext where
  access : AccessContext
  now : Nat
  clock : Nat
  clockText : String
  today : String
  randomUUID : Nat → String
  sha256 : String → String

variable {writes : List TableName} {α : Type} {db db' : Database} {a : α} {sent : List DomainEvent}

def domainEvent (type : EventType) (aggregateType : AggregateType) (aggregateId : Nat)
    (deduplicationSuffix : Option String := none) : Tx writes Unit :=
  send ⟨type, aggregateType, aggregateId, deduplicationSuffix⟩

@[simp]
theorem returns_bind_domainEvent {type : EventType} {aggregateType : AggregateType}
    {aggregateId : Nat} {suffix : Option String} {f : Unit → Tx writes α} :
    (domainEvent type aggregateType aggregateId suffix >>= f).Returns db a sent db' ↔
      ∃ rest, (f ()).Returns db a rest db' ∧
        sent = ⟨type, aggregateType, aggregateId, suffix⟩ :: rest :=
  returns_bind_send

def hasRole (access : AccessContext) (roles : List Role) : Bool :=
  access.roles.any fun role => roles.contains role

def requireRole (access : AccessContext) (roles : List Role) : Tx writes Unit :=
  refuseIf (hasRole access roles = false) (forbidden "Forbidden scope")

@[simp]
theorem returns_bind_requireRole {access : AccessContext} {roles : List Role}
    {f : Unit → Tx writes α} :
    (requireRole access roles >>= f).Returns db a sent db' ↔
      hasRole access roles = true ∧ (f ()).Returns db a sent db' := by
  simp [requireRole]

def internal (access : AccessContext) : Bool :=
  hasRole access [.admin, .supplyChain, .finance, .companyQc]

/-- An outside caller is bound to one factory: `factoryId` must be it. -/
def outsideFactory (access : AccessContext) (factoryId : Option Nat) : Prop :=
  internal access = false ∧ (access.factoryId = none ∨ factoryId ≠ access.factoryId)

instance (access : AccessContext) (factoryId : Option Nat) :
    Decidable (outsideFactory access factoryId) :=
  inferInstanceAs (Decidable (_ ∧ _))

/-! ## Input checks -/

def maxSafeInteger : Int := 9007199254740991

def isSafeInteger (value : Int) : Prop := -maxSafeInteger ≤ value ∧ value ≤ maxSafeInteger

instance (value : Int) : Decidable (isSafeInteger value) := inferInstanceAs (Decidable (_ ∧ _))

def integer (value : Int) (name : String) (minimum : Int := 1) : Tx writes Int := do
  refuseIf (¬ isSafeInteger value ∨ value < minimum) (badRequest ("Invalid " ++ name))
  return value

/-- `integer` on a key. -/
def identifier (value : Nat) (name : String) : Tx writes Nat := do
  refuseIf (¬ isSafeInteger value ∨ value < 1) (badRequest ("Invalid " ++ name))
  return value

def optionalInteger (value : Option Nat) (name : String) : Tx writes (Option Nat) := do
  refuseIf (value.any (fun id : Nat => decide (¬ isSafeInteger id ∨ id < 1)) = true)
    (badRequest ("Invalid " ++ name))
  return value

@[simp]
theorem returns_integer {value minimum result : Int} {name : String} :
    (integer value name minimum : Tx writes Int).Returns db result sent db' ↔
      (isSafeInteger value ∧ minimum ≤ value) ∧ result = value ∧ sent = [] ∧ db' = db := by
  simp [integer]

@[simp]
theorem returns_bind_integer {value minimum : Int} {name : String} {f : Int → Tx writes α} :
    (integer value name minimum >>= f).Returns db a sent db' ↔
      (isSafeInteger value ∧ minimum ≤ value) ∧ (f value).Returns db a sent db' := by
  simp [returns_bind]

@[simp]
theorem returns_bind_identifier {value : Nat} {name : String} {f : Nat → Tx writes α} :
    (identifier value name >>= f).Returns db a sent db' ↔
      (isSafeInteger value ∧ 1 ≤ value) ∧ (f value).Returns db a sent db' := by
  simp [returns_bind, identifier, Nat.one_le_iff_ne_zero]

@[simp]
theorem returns_optionalInteger {value result : Option Nat} {name : String} :
    (optionalInteger value name : Tx writes (Option Nat)).Returns db result sent db' ↔
      (∀ id, value = some id → isSafeInteger id ∧ 1 ≤ id) ∧
        result = value ∧ sent = [] ∧ db' = db := by
  cases value with
  | none => simp [optionalInteger]
  | some id =>
      simp only [optionalInteger, returns_bind_refuseIf, returns_pure, Option.any_some,
        decide_eq_true_eq, not_or, not_not, Option.some.injEq, forall_eq']
      have positive : (¬ id < 1) ↔ 1 ≤ id := Nat.not_lt
      rw [positive]

@[simp]
theorem returns_bind_optionalInteger {value : Option Nat} {name : String}
    {f : Option Nat → Tx writes α} :
    (optionalInteger value name >>= f).Returns db a sent db' ↔
      (∀ id, value = some id → isSafeInteger id ∧ 1 ≤ id) ∧
        (f value).Returns db a sent db' := by
  simp [returns_bind]

/-- The white space that `String.prototype.trim` removes. -/
def isWhiteSpace (c : Char) : Bool :=
  (9 ≤ c.val && c.val ≤ 13) || c.val == 32 || c.val == 160 || c.val == 5760 ||
    (8192 ≤ c.val && c.val ≤ 8202) || c.val == 8232 || c.val == 8233 || c.val == 8239 ||
    c.val == 8287 || c.val == 12288 || c.val == 65279

def trim (value : String) : String :=
  let front := value.toList.dropWhile isWhiteSpace
  String.ofList (front.reverse.dropWhile isWhiteSpace).reverse

/-- The length in UTF-16 code units. -/
def textLength (value : String) : Nat :=
  (value.toList.map fun c => if c.val ≤ 65535 then 1 else 2).sum

def string (value : String) (name : String) (maximum : Nat := 1000) : Tx writes String := do
  refuseIf (textLength (trim value) = 0 ∨ maximum < textLength (trim value))
    (badRequest ("Invalid " ++ name))
  return trim value

def optionalString (value : Option String) (maximum : Nat := 2000) : Tx writes String := do
  let text := value.getD ""
  refuseIf (maximum < textLength (trim text)) (badRequest "Invalid text value")
  return trim text

@[simp]
theorem returns_string {value name result : String} {maximum : Nat} :
    (string value name maximum : Tx writes String).Returns db result sent db' ↔
      (textLength (trim value) ≠ 0 ∧ textLength (trim value) ≤ maximum) ∧
        result = trim value ∧ sent = [] ∧ db' = db := by
  simp [string]

@[simp]
theorem returns_bind_string {value name : String} {maximum : Nat} {f : String → Tx writes α} :
    (string value name maximum >>= f).Returns db a sent db' ↔
      (textLength (trim value) ≠ 0 ∧ textLength (trim value) ≤ maximum) ∧
        (f (trim value)).Returns db a sent db' := by
  simp [returns_bind]

@[simp]
theorem returns_bind_optionalString {value : Option String} {maximum : Nat}
    {f : String → Tx writes α} :
    (optionalString value maximum >>= f).Returns db a sent db' ↔
      textLength (trim (value.getD "")) ≤ maximum ∧
        (f (trim (value.getD ""))).Returns db a sent db' := by
  simp [returns_bind, optionalString]

/-- `Math.round` of a quotient with a positive denominator. -/
def roundDiv (numerator denominator : Int) : Int :=
  (2 * numerator + denominator) / (2 * denominator)

/-! ## JSON payloads -/

def JsonValue.member (value : JsonValue) (name : String) : Option JsonValue :=
  match value with
  | .object members => (members.find? fun entry => entry.1 == name).map (·.2)
  | _ => none

/-- `JSON.parse` of a stored payload must give an object. -/
def parsedPayload (payload : JsonValue) : Tx writes JsonValue :=
  match payload with
  | .object members => return .object members
  | _ => fail (conflict "Approval payload is invalid")

def integerMember (payload : JsonValue) (name : String) : Tx writes Int := do
  match payload.member name with
  | some (.number value) => integer value name
  | _ => fail (badRequest ("Invalid " ++ name))

def textMember (payload : JsonValue) (name : String) (maximum : Nat) : Tx writes String := do
  match payload.member name with
  | some (.text value) => string value name maximum
  | _ => fail (badRequest ("Invalid " ++ name))

def hexDigit (value : Nat) : Char :=
  if value < 10 then Char.ofNat (48 + value) else Char.ofNat (87 + value)

def escape (c : Char) : List Char :=
  if c == '"' then ['\\', '"']
  else if c == '\\' then ['\\', '\\']
  else if c.val == 8 then ['\\', 'b']
  else if c.val == 9 then ['\\', 't']
  else if c.val == 10 then ['\\', 'n']
  else if c.val == 12 then ['\\', 'f']
  else if c.val == 13 then ['\\', 'r']
  else if c.val < 32 then
    ['\\', 'u', '0', '0', hexDigit (c.toNat / 16), hexDigit (c.toNat % 16)]
  else [c]

/-- `JSON.stringify` of a string. -/
def quote (value : String) : String :=
  "\"" ++ String.ofList (value.toList.flatMap escape) ++ "\""

/-- The members of an object in the order of `Object.keys(record).sort()`. -/
def sortMembers (members : List (String × String)) : List (String × String) :=
  members.foldr (fun entry sorted =>
    sorted.takeWhile (fun other => other.1 < entry.1) ++
      entry :: sorted.dropWhile (fun other => other.1 < entry.1)) []

mutual

def canonical : JsonValue → String
  | .null => "null"
  | .boolean value => if value then "true" else "false"
  | .number value => toString value
  | .text value => quote value
  | .array items => "[" ++ String.intercalate "," (canonicalItems items) ++ "]"
  | .object members =>
      "\x7b" ++ String.intercalate ","
        ((sortMembers (canonicalMembers members)).map fun entry => quote entry.1 ++ ":" ++ entry.2)
        ++ "\x7d"

def canonicalItems : List JsonValue → List String
  | [] => []
  | item :: rest => canonical item :: canonicalItems rest

def canonicalMembers : List (String × JsonValue) → List (String × String)
  | [] => []
  | (name, value) :: rest => (name, canonical value) :: canonicalMembers rest

end

/-! ## Resource versions -/

def versionOf (versions : Table ResourceVersion) (resourceType : String) (resourceId : Nat) :
    Option Nat :=
  (versions.first? fun _ row => row.resourceType == resourceType && row.resourceId == resourceId).map
    fun r => r.2.version

def lockVersion [Writes resourceVersions writes] (resourceType : String) (resourceId : Nat) :
    Tx writes Nat := do
  let known ← query fun db => versionOf (db resourceVersions) resourceType resourceId
  whenever (known = none) (insertRow resourceVersions { resourceType, resourceId, version := 1 })
  let rows ← query fun db => versionOf (db resourceVersions) resourceType resourceId
  let version ← orThrow rows (versionConflict "Resource version unavailable")
  refuseIf (¬ isSafeInteger version ∨ version < 1)
    (versionConflict "Resource version unavailable")
  return version

def bumpVersion [Writes resourceVersions writes] (resourceType : String) (resourceId : Nat)
    (version : Nat) : Tx writes Nat := do
  let current := fun (_ : Nat) (row : ResourceVersion) =>
    row.resourceType == resourceType && row.resourceId == resourceId && row.version == version
  let matched ← query fun db => (db resourceVersions).any current
  refuseIf (matched = false) (versionConflict "Resource version changed")
  updateWhere resourceVersions current fun row => { row with version := row.version + 1 }
  return version + 1

/-- The versions after `lockVersion`: a resource without a version gets the
first one. -/
def lockedVersions (versions : Table ResourceVersion) (resourceType : String) (resourceId : Nat) :
    Table ResourceVersion :=
  if versionOf versions resourceType resourceId = none then
    versions.insert { resourceType, resourceId, version := 1 }
  else versions

/-- The versions after `bumpVersion`. -/
def bumpedVersions (versions : Table ResourceVersion) (resourceType : String) (resourceId version : Nat) :
    Table ResourceVersion :=
  versions.update
    (fun _ row =>
      row.resourceType == resourceType && row.resourceId == resourceId && row.version == version)
    fun row => { row with version := row.version + 1 }

@[simp]
theorem returns_bind_lockVersion [Writes resourceVersions writes] {resourceType : String}
    {resourceId : Nat} {f : Nat → Tx writes α} :
    (lockVersion resourceType resourceId >>= f).Returns db a sent db' ↔
      ∃ version, versionOf (lockedVersions (db resourceVersions) resourceType resourceId)
          resourceType resourceId = some version ∧ (isSafeInteger version ∧ 1 ≤ version) ∧
        (f version).Returns
          (db.put resourceVersions (lockedVersions (db resourceVersions) resourceType resourceId))
          a sent db' := by
  by_cases known : versionOf (db resourceVersions) resourceType resourceId = none
  · simp [returns_bind, lockVersion, returns_whenever, lockedVersions, known,
      Nat.one_le_iff_ne_zero, and_assoc]
  · simp [returns_bind, lockVersion, returns_whenever, lockedVersions, known,
      Nat.one_le_iff_ne_zero, and_assoc, Store.put_self]

@[simp]
theorem returns_bind_bumpVersion [Writes resourceVersions writes] {resourceType : String}
    {resourceId version : Nat} {f : Nat → Tx writes α} :
    (bumpVersion resourceType resourceId version >>= f).Returns db a sent db' ↔
      (∃ id row, (db resourceVersions).find? id = some row ∧ row.resourceType = resourceType ∧
        row.resourceId = resourceId ∧ row.version = version) ∧
        (f (version + 1)).Returns
          (db.put resourceVersions
            (bumpedVersions (db resourceVersions) resourceType resourceId version))
          a sent db' := by
  simp [returns_bind, bumpVersion, bumpedVersions, Table.any_eq_true, and_assoc]

/-! ## Scopes, files and step-up claims -/

def requireWarehouseScope (access : AccessContext) (warehouseId : Nat) : Tx writes Warehouse := do
  let found ← select warehouses warehouseId
  let warehouse ← orThrow found (notFound "Warehouse not found")
  refuseIf (outsideFactory access warehouse.factoryId) (forbidden "Forbidden warehouse scope")
  return warehouse

def fileInScope (access : AccessContext) (file : FileObject) : Prop :=
  file.ownerUserId = access.userId ∨ internal access = true ∨
    (access.factoryId ≠ none ∧ file.factoryId = access.factoryId) ∨
    (access.supplierId ≠ none ∧ file.supplierId = access.supplierId)

instance (access : AccessContext) (file : FileObject) : Decidable (fileInScope access file) :=
  inferInstanceAs (Decidable (_ ∨ _))

def requireCleanFile (access : AccessContext) (fileId : Nat) (category entityType : String)
    (entityId : Nat) : Tx writes FileObject := do
  let found ← select fileObjects fileId
  let file ← orThrow found (notFound "File not found")
  refuseIf (¬ fileInScope access file) (forbidden "Forbidden file scope")
  refuseIf (file.category ≠ category ∨ file.entityType ≠ entityType ∨
      file.entityId ≠ some entityId)
    (forbidden "File is not bound to this object")
  refuseIf (file.clean = false) (fileQuarantined "File is not ready")
  return file

@[simp]
theorem returns_bind_requireWarehouseScope {access : AccessContext} {warehouseId : Nat}
    {f : Warehouse → Tx writes α} :
    (requireWarehouseScope access warehouseId >>= f).Returns db a sent db' ↔
      ∃ warehouse, (db warehouses).find? warehouseId = some warehouse ∧
        ¬ outsideFactory access warehouse.factoryId ∧ (f warehouse).Returns db a sent db' := by
  simp [returns_bind, requireWarehouseScope, and_assoc]

structure ApprovalClaim where
  action : String
  challengeNo : String
  objectId : Nat
  objectType : String
  objectVersion : Nat
  requestDigest : String
  sessionId : Nat
  userId : Nat

def AuthChallenge.matches (challenge : AuthChallenge) (claim : ApprovalClaim) (clock : Nat) : Bool :=
  challenge.challengeNo == claim.challengeNo && challenge.userId == claim.userId &&
    challenge.sessionId == some claim.sessionId && challenge.highRisk &&
    challenge.action == claim.action && challenge.objectType == claim.objectType &&
    challenge.objectId == claim.objectId && challenge.objectVersion == claim.objectVersion &&
    challenge.requestDigest == claim.requestDigest && challenge.verified &&
    challenge.consumedAt.isNone && decide (clock < challenge.expiresAt)

@[simp]
theorem returns_bind_requireCleanFile {access : AccessContext} {fileId : Nat}
    {category entityType : String} {entityId : Nat} {f : FileObject → Tx writes α} :
    (requireCleanFile access fileId category entityType entityId >>= f).Returns db a sent db' ↔
      ∃ file, (db fileObjects).find? fileId = some file ∧ fileInScope access file ∧
        (file.category = category ∧ file.entityType = entityType ∧
          file.entityId = some entityId) ∧ file.clean = true ∧
        (f file).Returns db a sent db' := by
  simp [returns_bind, requireCleanFile, and_assoc]

def consumeStepUpClaim [Writes authChallenges writes] (command : CommandContext)
    (claim : ApprovalClaim) : Tx writes Unit := do
  let consumed ← query fun db =>
    ((db authChallenges).select fun _ row => row.matches claim command.clock).length
  refuseIf (consumed ≠ 1) (conflict "Step-up claim is invalid or consumed")
  updateWhere authChallenges (fun _ row => row.matches claim command.clock)
    fun row => { row with consumedAt := some command.now }

/-- The challenges after a claim was consumed. -/
def consumedChallenges (challenges : Table AuthChallenge) (command : CommandContext)
    (claim : ApprovalClaim) : Table AuthChallenge :=
  challenges.update (fun _ row => row.matches claim command.clock)
    fun row => { row with consumedAt := some command.now }

@[simp]
theorem returns_consumeStepUpClaim [Writes authChallenges writes] {command : CommandContext}
    {claim : ApprovalClaim} {u : Unit} :
    (consumeStepUpClaim command claim : Tx writes Unit).Returns db u sent db' ↔
      ((db authChallenges).select fun _ row => row.matches claim command.clock).length = 1 ∧
        sent = [] ∧
        db' = db.put authChallenges (consumedChallenges (db authChallenges) command claim) := by
  simp [consumeStepUpClaim, consumedChallenges]

def payloadDigest (command : CommandContext) (payload : JsonValue) : String :=
  command.sha256 (canonical payload)

/-! ## Approval requests -/

/-- The insert of a pending approval request; `request_no` is a unique key. -/
def insertApproval [Writes approvalRequests writes] (command : CommandContext)
    (requestNo : String) (workflowType : Workflow) (entityType : String) (entityId : Nat)
    (payload : JsonValue) (highRisk : Bool := false) : Tx writes Nat :=
  insertUnique approvalRequests (fun row => row.requestNo == requestNo)
    { requestNo, workflowType, entityType, entityId, payload, highRisk, status := .pending,
      requestedBy := command.access.userId, reviewedBy := none, reviewComment := "",
      updatedAt := command.now }
    (.duplicateKey approvalRequests)

/-- The row that `insertApproval` inserts. -/
def pendingApproval (command : CommandContext) (requestNo : String) (workflowType : Workflow)
    (entityType : String) (entityId : Nat) (payload : JsonValue) (highRisk : Bool := false) :
    ApprovalRequest where
  requestNo := requestNo
  workflowType := workflowType
  entityType := entityType
  entityId := entityId
  payload := payload
  highRisk := highRisk
  status := .pending
  requestedBy := command.access.userId
  reviewedBy := none
  reviewComment := ""
  updatedAt := command.now

@[simp]
theorem returns_bind_insertApproval [Writes approvalRequests writes] {command : CommandContext}
    {requestNo : String} {workflowType : Workflow} {entityType : String} {entityId : Nat}
    {payload : JsonValue} {highRisk : Bool} {f : Nat → Tx writes α} :
    (insertApproval command requestNo workflowType entityType entityId payload highRisk >>= f).Returns
        db a sent db' ↔
      ((db approvalRequests).any fun _ row => row.requestNo == requestNo) = false ∧
        (f (db approvalRequests).nextId).Returns
          (db.put approvalRequests ((db approvalRequests).insert
            (pendingApproval command requestNo workflowType entityType entityId payload highRisk)))
          a sent db' :=
  returns_bind_insertUnique

end SupplyChain
