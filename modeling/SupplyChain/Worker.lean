import SupplyChain.Platform

/-!
The background worker: the claim of an outbox message under a lease, the
dispatch of domain events, approval notifications and file scans, and the
completion, pause and failure of a claimed message. Calls of the e-mail, SMS and
scanner providers are answers from outside.
-/

namespace SupplyChain.Worker

open Relational Transaction

/-! ## Rows -/

inductive WorkerTable
  | outboxMessages | notificationMessages | users | userRoles | fileObjects | auditLogs
  | purchasePlanItems | orderItems | purchasePlanOrderLinks | supplierSkus | writerFences
  | reminderSchedules | invoiceExceptions
  deriving DecidableEq

open WorkerTable

inductive OutboxStatus
  | pending | processing | completed | dead
  deriving DecidableEq

structure OutboxMessage where
  topic : String
  aggregateType : String
  aggregateId : String
  deduplicationKey : String
  payloadJson : String
  status : OutboxStatus := .pending
  availableAt : String
  attempts : Nat := 0
  maxAttempts : Nat := 8
  lockedBy : Option String := none
  lockedAt : Option String := none
  lastErrorCode : Option String := none
  completedAt : Option String := none
  deriving DecidableEq

inductive Channel
  | inApp | email
  deriving DecidableEq

inductive NotificationStatus
  | queued | sent
  deriving DecidableEq

structure NotificationMessage where
  recipientUserId : Nat
  recipientRole : String
  channel : Channel
  type : String
  severity : String
  title : String
  message : String
  entityType : String
  entityId : Int
  status : NotificationStatus
  sentAt : Option String := none
  errorMessage : Option String := none
  deriving DecidableEq

structure User where
  email : String
  role : String
  accountActive : Bool
  factoryId : Option Nat

structure UserRole where
  userId : Nat
  roleCode : String
  active : Bool

inductive ScanStatus
  | clean | rejected
  deriving DecidableEq

def ScanStatus.name : ScanStatus → String
  | .clean => "clean"
  | .rejected => "rejected"

structure FileObject where
  scanStatus : String
  deriving DecidableEq

structure AuditLog where
  action : String
  module : String
  entityType : String
  entityId : String
  afterJson : String
  deriving DecidableEq

structure PurchasePlanItem where
  purchasePlanId : Nat
  factoryId : Nat

structure OrderItem where
  purchaseOrderId : Nat

structure PurchasePlanOrderLink where
  purchasePlanItemId : Nat
  orderItemId : Nat

structure SupplierSku where
  factoryId : Nat

structure WriterFence where
  resource : String
  owner : String
  generation : Nat
  enabled : Bool

inductive ReminderStatus
  | active | completed
  deriving DecidableEq

def ReminderStatus.name : ReminderStatus → String
  | .active => "active"
  | .completed => "completed"

structure ReminderSchedule where
  reminderType : String
  entityType : String
  entityId : Nat
  businessNo : Option String
  dueAt : String
  nextRunAt : String
  recurrence : String
  recipientRoleJson : String
  recipientUserIdsJson : String
  severity : String
  status : ReminderStatus
  lastRunAt : Option String
  deriving DecidableEq

structure InvoiceException where
  status : String
  deriving DecidableEq

abbrev Row : WorkerTable → Type
  | .outboxMessages => OutboxMessage
  | .notificationMessages => NotificationMessage
  | .users => User
  | .userRoles => UserRole
  | .fileObjects => FileObject
  | .auditLogs => AuditLog
  | .purchasePlanItems => PurchasePlanItem
  | .orderItems => OrderItem
  | .purchasePlanOrderLinks => PurchasePlanOrderLink
  | .supplierSkus => SupplierSku
  | .writerFences => WriterFence
  | .reminderSchedules => ReminderSchedule
  | .invoiceExceptions => InvoiceException

abbrev Database := Store Row

/-! ## Errors and the runtime -/

/-- What the worker catches: a paused fence, a permanent failure with its code,
or any other error. -/
inductive Fault
  | fencePaused
  | permanent (code : String)
  | other (message : String)
  deriving DecidableEq

abbrev Work (writes : List WorkerTable) := Transaction Row Empty Fault writes

/-- The functions of the runtime: `toISOString`, the text of a database time,
`JSON.parse`, `JSON.stringify`, `Number` where it gives a safe integer, and the
digest of a text. -/
structure Runtime where
  iso : Int → String
  datetime : Int → String
  parse : String → Option JsonValue
  stringify : JsonValue → String
  safeInteger : Option JsonValue → Option Int
  sha256 : String → String

def leaseMs : Int := 5 * 60000
def writerGeneration : Nat := 2
def writerOwner : String := "worker-v1"

/-- The columns of a claimed message that its worker keeps. -/
structure OutboxRow where
  id : Nat
  topic : String
  payloadJson : String
  deduplicationKey : String
  attempts : Nat
  maxAttempts : Nat
  deriving DecidableEq

variable {writes : List WorkerTable}

def requireFence (resource : String) : Work writes Unit := do
  let rows ← query fun db => (db writerFences).first? fun _ row => row.resource == resource
  let row ← orThrow rows .fencePaused
  refuseIf (row.2.owner ≠ writerOwner ∨ row.2.generation ≠ writerGeneration ∨
    row.2.enabled = false) .fencePaused

/-! ## The lease -/

/-- The guard of every update by the worker that claimed the message. -/
def leased (worker : String) (message : OutboxMessage) : Bool :=
  message.status == .processing && message.lockedBy == some worker

def redacted : String := "\x7b\"redacted\":true\x7d"

/-- `CASE WHEN topic = 'sms.deliver' THEN … ELSE payload_json END` -/
def redact (message : OutboxMessage) : String :=
  if message.topic = "sms.deliver" then redacted else message.payloadJson

def completeLease [Writes outboxMessages writes] (runtime : Runtime) (now : Int) (worker : String)
    (row : OutboxRow) : Work writes Unit :=
  updateRow outboxMessages row.id (leased worker)
    (fun message => { message with
      status := .completed, completedAt := some (runtime.iso now), lockedBy := none,
      lockedAt := none, lastErrorCode := none })
    (.other "outbox completion lease lost")

/-- A lease that began before the given time. -/
def staleSince (before : String) (message : OutboxMessage) : Bool :=
  message.status == .processing && message.lockedAt.any fun since => decide (since < before)

/-- `ORDER BY available_at ASC, id ASC LIMIT 1` over rows in the order of their
keys. -/
def earliest : List (Nat × OutboxMessage) → Option (Nat × OutboxMessage)
  | [] => none
  | first :: rest =>
      match earliest rest with
      | none => some first
      | some other => if other.2.availableAt < first.2.availableAt then some other else some first

/-- `skipped` are the messages that other transactions hold locked. -/
def claim (runtime : Runtime) (now : Int) (worker : String) (skipped : List Nat) :
    Work [outboxMessages] (Option OutboxRow) := do
  let staleBefore := runtime.iso (now - leaseMs)
  requireFence "outbox.worker"
  updateWhere outboxMessages
    (fun _ message => staleSince staleBefore message &&
      decide (message.maxAttempts ≤ message.attempts))
    fun message => { message with
      status := .dead, lockedBy := none, lockedAt := none,
      lastErrorCode := some "LEASE_EXHAUSTED", payloadJson := redact message }
  let rows ← query fun db => earliest ((db outboxMessages).select fun id message =>
    decide (message.attempts < message.maxAttempts) &&
      decide (message.availableAt ≤ runtime.iso now) &&
      (message.status == .pending || staleSince staleBefore message) && !skipped.contains id)
  match rows with
  | none => return none
  | some (id, message) => do
      updateRow outboxMessages id (fun _ => true)
        (fun message => { message with
          status := .processing, lockedBy := some worker, lockedAt := some (runtime.iso now),
          attempts := message.attempts + 1 })
        (.other "claim failed")
      return some {
        id, topic := message.topic, payloadJson := message.payloadJson,
        deduplicationKey := message.deduplicationKey, attempts := message.attempts + 1,
        maxAttempts := message.maxAttempts }

/-! ## Payloads -/

def parsePayload (runtime : Runtime) (value : String) : Except Fault JsonValue :=
  match runtime.parse value with
  | some (.object members) => .ok (.object members)
  | _ => .error (.permanent "INVALID_PAYLOAD")

def payloadText (payload : JsonValue) (name : String) : Except Fault String :=
  match payload.member name with
  | some (.text value) =>
      if value = "" ∨ 10000 < textLength value then .error (.permanent "INVALID_PAYLOAD")
      else .ok value
  | _ => .error (.permanent "INVALID_PAYLOAD")

/-- `Number(value)` when it is a safe integer above zero. -/
def positiveInteger (runtime : Runtime) (value : Option JsonValue) : Option Nat :=
  (runtime.safeInteger value).bind fun number => if 0 < number then some number.toNat else none

inductive DomainEventRecipient
  | none
  | role (role : String)
  | user (userId : Nat)
  | entityBinding (entityType : String) (entityId : Nat)
  deriving DecidableEq

structure DomainEventPayload where
  data : JsonValue
  entityId : Nat
  entityType : String
  eventType : String
  recipient : DomainEventRecipient

/-- `/^[a-z][a-z0-9_]{1,63}$/u` -/
def isEntityType (value : String) : Bool :=
  match value.toList with
  | [] => false
  | first :: rest =>
      first.isLower && decide (1 ≤ rest.length) && decide (rest.length ≤ 63) &&
        rest.all fun c => c.isLower || c.isDigit || c == '_'

/-- `/^[A-Z][A-Za-z0-9]{2,127}$/u` -/
def isEventType (value : String) : Bool :=
  match value.toList with
  | [] => false
  | first :: rest =>
      first.isUpper && decide (2 ≤ rest.length) && decide (rest.length ≤ 127) &&
        rest.all Char.isAlphanum

/-- The number that a text of the form `/^[1-9]\d*$/u` writes. -/
def decimalId (value : String) : Option Nat :=
  match value.toList with
  | [] => none
  | first :: rest =>
      if first.isDigit ∧ first ≠ '0' ∧ rest.all Char.isDigit then
        some ((first :: rest).foldl (fun number c => number * 10 + (c.toNat - 48)) 0)
      else none

def requireRecipient (runtime : Runtime) (recipient : JsonValue) :
    Except Fault DomainEventRecipient :=
  let invalid := Except.error (Fault.permanent "INVALID_PAYLOAD")
  match recipient.member "kind" with
  | some (.text "none") => .ok .none
  | some (.text "role") =>
      match recipient.member "role" with
      | some (.text "supply_chain") => .ok (.role "supply_chain")
      | _ => invalid
  | some (.text "user") =>
      -- `Number.isSafeInteger(recipient.userId)` holds of numbers only
      match recipient.member "userId" with
      | some (.number userId) =>
          match positiveInteger runtime (some (.number userId)) with
          | some userId => .ok (.user userId)
          | none => invalid
      | _ => invalid
  | some (.text "entity_binding") =>
      match recipient.member "role", recipient.member "entityType", recipient.member "entityId" with
      | some (.text "factory"), some (.text entityType), some (.text entityId) =>
          match decimalId entityId with
          | some entityId => .ok (.entityBinding entityType entityId)
          | none => invalid
      | _, _, _ => invalid
  | _ => invalid

def requireDomainEvent (runtime : Runtime) (payload : JsonValue) :
    Except Fault DomainEventPayload := do
  match payload.member "schemaVersion" with
  | some (.number 1) => pure ()
  | _ => throw (.permanent "INVALID_PAYLOAD")
  let entityType ← payloadText payload "entityType"
  let entityText ← payloadText payload "entityId"
  let eventType ← payloadText payload "eventType"
  match positiveInteger runtime (some (.text entityText)) with
  | none => throw (.permanent "INVALID_PAYLOAD")
  | some entityId =>
      if !isEntityType entityType || !isEventType eventType then
        throw (.permanent "INVALID_PAYLOAD")
      match payload.member "recipient" with
      | some (.object members) =>
          let recipient ← requireRecipient runtime (.object members)
          let data := match payload.member "data" with
            | some (.object data) => JsonValue.object data
            | _ => .object []
          return { data, entityId, entityType, eventType, recipient }
      | _ => throw (.permanent "INVALID_PAYLOAD")

/-! ## Dispatch -/

/-- The active users with a role, by their own column or by an active grant. -/
def usersWithRole (db : Database) (role : String) : List (Nat × User) :=
  (db users).select fun id user => user.accountActive &&
    (user.role == role || (db userRoles).any fun _ grant =>
      grant.userId == id && grant.active && grant.roleCode == role)

/-- The factories that a domain event of an entity is for; `none` for an entity
type without a query. -/
def factoriesOf (db : Database) (entityType : String) (entityId : Nat) : Option (List Nat) :=
  match entityType with
  | "purchase_plan" =>
      some (((db purchasePlanItems).select fun _ item => item.purchasePlanId == entityId).map
        (·.2.factoryId))
  | "purchase_order" =>
      some (((db purchasePlanItems).select fun planItem _ =>
        (db purchasePlanOrderLinks).any fun _ link => link.purchasePlanItemId == planItem &&
          (db orderItems).any fun item row =>
            item == link.orderItemId && row.purchaseOrderId == entityId).map (·.2.factoryId))
  | "supplier_sku" =>
      some (((db supplierSkus).select fun id _ => id == entityId).map (·.2.factoryId))
  | _ => none

def recipients (recipient : DomainEventRecipient) : Work writes (List (Nat × User)) :=
  match recipient with
  | .none => return []
  | .role role => query fun db => usersWithRole db role
  | .user userId => query fun db =>
      (db users).select fun id user => id == userId && user.accountActive
  | .entityBinding entityType entityId => do
      let found ← query fun db => factoriesOf db entityType entityId
      let factories ← orThrow found (.permanent "INVALID_PAYLOAD")
      let factoryIds := (factories.filter fun factory => decide (0 < factory)).eraseDups
      refuseIf (factoryIds = []) (.permanent "RECIPIENT_NOT_FOUND")
      query fun db => (usersWithRole db "factory").filter fun user =>
        user.2.factoryId.any fun factory => factoryIds.contains factory

def dispatchDomainEvent (runtime : Runtime) (now : Int) (worker : String) (row : OutboxRow)
    (payload : JsonValue) : Work [notificationMessages, outboxMessages] Unit := do
  let event ← ofExcept (requireDomainEvent runtime payload)
  requireFence "outbox.worker"
  let users ← recipients event.recipient
  forEach (fun user : Nat × User =>
    insertRow notificationMessages {
      recipientUserId := user.1, recipientRole := user.2.role, channel := .inApp,
      type := event.eventType, severity := "info", title := event.eventType,
      message := runtime.stringify event.data, entityType := event.entityType,
      entityId := event.entityId, status := .sent, sentAt := some (runtime.iso now) }) users
  completeLease runtime now worker row

def emailDeduplicationKey (runtime : Runtime) (row : OutboxRow) (userId : Nat) : String :=
  "notification:" ++ runtime.sha256 row.deduplicationKey ++ ":user:" ++ toString userId ++ ":email"

/-- The in-app message, the queued e-mail and its outbox message for one user
who has not got them. -/
def notifyUser (runtime : Runtime) (now : Int) (row : OutboxRow) (type : String)
    (aggregateId : Nat) (user : Nat × User) : Work [notificationMessages, outboxMessages] Unit := do
  let key := emailDeduplicationKey runtime row user.1
  let existing ← query fun db => (db outboxMessages).any fun _ other =>
    other.deduplicationKey == key
  let title := "新的审批待办"
  let message := "有一项高风险变更等待审核。"
  whenever (existing = false) do
    insertRow notificationMessages {
      recipientUserId := user.1, recipientRole := user.2.role, channel := .inApp, type,
      severity := "approval", title, message, entityType := "approval_request",
      entityId := aggregateId, status := .sent, sentAt := some (runtime.iso now) }
    let email ← insertInto notificationMessages {
      recipientUserId := user.1, recipientRole := user.2.role, channel := .email, type,
      severity := "approval", title, message, entityType := "approval_request",
      entityId := aggregateId, status := .queued }
    insertRow outboxMessages {
      topic := "email.deliver", aggregateType := "notification", aggregateId := toString email,
      deduplicationKey := key,
      payloadJson := runtime.stringify (.object [("to", .text user.2.email),
        ("subject", .text title), ("text", .text message), ("messageId", .number email)]),
      availableAt := runtime.iso now }

def dispatchNotification (runtime : Runtime) (now : Int) (worker : String) (row : OutboxRow)
    (payload : JsonValue) : Work [notificationMessages, outboxMessages] Unit := do
  let role ← ofExcept (payloadText payload "recipientRole")
  let type ← ofExcept (payloadText payload "type")
  let aggregateId ← orThrow (positiveInteger runtime (payload.member "approvalId"))
    (.permanent "INVALID_PAYLOAD")
  requireFence "outbox.worker"
  let users ← query fun db => usersWithRole db role
  forEach (notifyUser runtime now row type aggregateId) users
  completeLease runtime now worker row

/-- The transaction of `processMessage` after the scanner has answered. -/
def recordScan (runtime : Runtime) (now : Int) (worker : String) (row : OutboxRow)
    (payload : JsonValue) (status : ScanStatus) :
    Work [fileObjects, auditLogs, outboxMessages] Unit := do
  requireFence "files.worker"
  let fileId ← orThrow (positiveInteger runtime (payload.member "fileId"))
    (.permanent "INVALID_PAYLOAD")
  updateRow fileObjects fileId (fun _ => true) (fun _ => { scanStatus := status.name })
    (.permanent "FILE_NOT_FOUND")
  let backfill := match payload.member "backfill" with
    | some (.boolean true) => true
    | _ => false
  insertRow auditLogs {
    action := "scan_file", module := "files", entityType := "file_object",
    entityId := toString fileId,
    afterJson := runtime.stringify (.object [("scanStatus", .text status.name),
      ("backfill", .boolean backfill)]) }
  completeLease runtime now worker row

/-! ## The end of a claim -/

def pause (runtime : Runtime) (now : Int) (worker : String) (row : OutboxRow) :
    Work [outboxMessages] Unit :=
  updateRow outboxMessages row.id (leased worker)
    (fun message => { message with
      status := .pending, availableAt := runtime.datetime (now + 1000),
      attempts := message.attempts - 1, lockedBy := none, lockedAt := none,
      lastErrorCode := some "WRITER_FENCE_PAUSED" })
    (.other "outbox pause lease lost")

def complete (runtime : Runtime) (now : Int) (worker : String) (row : OutboxRow) :
    Work [notificationMessages, outboxMessages] Unit := do
  requireFence "outbox.worker"
  let payload ← ofExcept (parsePayload runtime row.payloadJson)
  updateRow outboxMessages row.id (leased worker)
    (fun message => { message with
      status := .completed, completedAt := some (runtime.iso now), lockedBy := none,
      lockedAt := none, lastErrorCode := none, payloadJson := redact message })
    (.other "outbox completion lease lost")
  let messageId := runtime.safeInteger (payload.member "messageId")
  whenever (row.topic = "email.deliver" ∧ messageId.isSome) do
    updateWhere notificationMessages
      (fun id message => messageId == some (id : Int) && message.channel == .email)
      fun message => { message with
        status := .sent, sentAt := some (runtime.iso now), errorMessage := none }

def failureCode : Fault → String
  | .permanent code => code
  | _ => "DELIVERY_FAILED"

/-- `permanent || row.attempts >= row.maxAttempts` -/
def exhausted (row : OutboxRow) (error : Fault) : Bool :=
  match error with
  | .permanent _ => true
  | _ => decide (row.maxAttempts ≤ row.attempts)

def fail (runtime : Runtime) (now : Int) (worker : String) (row : OutboxRow) (error : Fault) :
    Work [outboxMessages] Unit :=
  let delaySeconds : Nat := min 3600 (2 ^ min row.attempts 10 * 5)
  updateRow outboxMessages row.id (leased worker)
    (fun message => { message with
      status := if exhausted row error then .dead else .pending,
      availableAt := runtime.iso (now + delaySeconds * 1000), lockedBy := none, lockedAt := none,
      payloadJson := if exhausted row error then redact message else message.payloadJson,
      lastErrorCode := some (failureCode error) })
    (.other "outbox failure lease lost")

/-! ## Workers -/

/-- Where the loop of a worker stands. A worker handles one message at a time. -/
inductive Phase
  | unstarted
  | idle
  | claimed (row : OutboxRow)
  | delivered (row : OutboxRow)
  | scanned (row : OutboxRow) (payload : JsonValue) (status : ScanStatus)
  | refused (row : OutboxRow) (error : Fault)
  | stopped

def Phase.row? : Phase → Option OutboxRow
  | .claimed row | .delivered row | .scanned row _ _ | .refused row _ => some row
  | .unstarted | .idle | .stopped => none

/-- What the worker learns of a transaction and what the database keeps of it:
the answer to a commit can be lost, and a connection can break before it. -/
inductive Attempt {α : Type} (m : Work writes α) (db : Database) :
    Except Fault α → Database → Prop
  | committed {value : α} {sent : List Empty} {db' : Database}
      (returns : m.Returns db value sent db') : Attempt m db (.ok value) db'
  | unacknowledged {value : α} {sent : List Empty} {db' : Database} (message : String)
      (returns : m.Returns db value sent db') : Attempt m db (.error (.other message)) db'
  | failed {error : Fault} (fails : m.Fails db error) : Attempt m db (.error error) db
  | disconnected (message : String) : Attempt m db (.error (.other message)) db

/-- A paused fence ends the batch; any other error of `claim` ends the worker. -/
def afterClaim : Except Fault (Option OutboxRow) → Phase
  | .ok (some row) => .claimed row
  | .ok none => .idle
  | .error .fencePaused => .idle
  | .error _ => .stopped

/-- A message that its dispatch has completed needs no more; an error is handed to
`pause` or `fail`. -/
def afterDispatch (row : OutboxRow) : Except Fault Unit → Phase
  | .ok _ => .idle
  | .error error => .refused row error

def afterDelivery (row : OutboxRow) (permitted answer : Except Fault Unit) : Phase :=
  match permitted, answer with
  | .ok _, .ok _ => .delivered row
  | .ok _, .error error => .refused row error
  | .error error, _ => .refused row error

def afterScan (row : OutboxRow) (payload : JsonValue) (permitted : Except Fault Unit)
    (answer : Except Fault ScanStatus) : Phase :=
  match permitted, answer with
  | .ok _, .ok status => .scanned row payload status
  | .ok _, .error error => .refused row error
  | .error error, _ => .refused row error

/-- An error of `pause` or of `fail` ends the worker. -/
def afterRefusal : Except Fault Unit → Phase
  | .ok _ => .idle
  | .error _ => .stopped

/-- One turn of the loop of a worker. `answer` is what a provider says. -/
inductive Turn (runtime : Runtime) (worker : String) :
    Phase → Database → Phase → Database → Prop
  | start {db} : Turn runtime worker .unstarted db .idle db
  | crash {phase db} : Turn runtime worker phase db .stopped db
  | claim {db db' result} (now : Int) (skipped : List Nat)
      (attempt : Attempt (claim runtime now worker skipped) db result db') :
      Turn runtime worker .idle db (afterClaim result) db'
  | unreadable {db row error} (invalid : parsePayload runtime row.payloadJson = .error error) :
      Turn runtime worker (.claimed row) db (.refused row error) db
  | deliver {db db' row payload permitted}
      (parsed : parsePayload runtime row.payloadJson = .ok payload)
      (topic : row.topic = "email.deliver" ∨ row.topic = "sms.deliver")
      (attempt : Attempt (requireFence "outbox.worker" : Work [] Unit) db permitted db')
      (answer : Except Fault Unit) :
      Turn runtime worker (.claimed row) db (afterDelivery row permitted answer) db'
  | scan {db db' row payload permitted}
      (parsed : parsePayload runtime row.payloadJson = .ok payload)
      (topic : row.topic = "file.scan")
      (attempt : Attempt (requireFence "files.worker" : Work [] Unit) db permitted db')
      (answer : Except Fault ScanStatus) :
      Turn runtime worker (.claimed row) db (afterScan row payload permitted answer) db'
  | notify {db db' row payload result} (now : Int)
      (parsed : parsePayload runtime row.payloadJson = .ok payload)
      (topic : row.topic = "notification.dispatch")
      (attempt : Attempt (dispatchNotification runtime now worker row payload) db result db') :
      Turn runtime worker (.claimed row) db (afterDispatch row result) db'
  | announce {db db' row payload result} (now : Int)
      (parsed : parsePayload runtime row.payloadJson = .ok payload)
      (topic : row.topic = "domain.event")
      (attempt : Attempt (dispatchDomainEvent runtime now worker row payload) db result db') :
      Turn runtime worker (.claimed row) db (afterDispatch row result) db'
  | unknown {db row payload} (parsed : parsePayload runtime row.payloadJson = .ok payload)
      (topic : row.topic ∉ ["email.deliver", "sms.deliver", "file.scan", "notification.dispatch",
        "domain.event"]) :
      Turn runtime worker (.claimed row) db (.refused row (.permanent "UNKNOWN_TOPIC")) db
  | record {db db' row payload status result} (now : Int)
      (attempt : Attempt (recordScan runtime now worker row payload status) db result db') :
      Turn runtime worker (.scanned row payload status) db (afterDispatch row result) db'
  | complete {db db' row result} (now : Int)
      (attempt : Attempt (complete runtime now worker row) db result db') :
      Turn runtime worker (.delivered row) db (afterDispatch row result) db'
  | pause {db db' row result} (now : Int)
      (attempt : Attempt (pause runtime now worker row) db result db') :
      Turn runtime worker (.refused row .fencePaused) db (afterRefusal result) db'
  | fail {db db' row error result} (now : Int) (failure : error ≠ .fencePaused)
      (attempt : Attempt (fail runtime now worker row error) db result db') :
      Turn runtime worker (.refused row error) db (afterRefusal result) db'

end SupplyChain.Worker
