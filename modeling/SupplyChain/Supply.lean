import SupplyChain.Platform
import SupplyChain.Calendar

/-!
The platform under the procurement writers: their input checks, the files they
refer to, and the approval requests and reminders they create.
-/

namespace SupplyChain.Supply

open Relational Transaction TableName

/-- A unit of work of the procurement side. Of a message it sends the
deduplication key is kept, under which the outbox stores it once. -/
abbrev SupplyTx (writes : List TableName) := Transaction Row String Failure writes

/-- What a procurement command sees besides its body: the caller, the clocks of
the database and of the application, the idempotency key, the digest of the request, the hash
and the upper case of a text. -/
structure SupplyContext where
  access : AccessContext
  now : Nat
  clock : Nat
  idempotencyKey : String
  requestDigest : String := ""
  sha256 : String → String
  toUpperCase : String → String

variable {writes : List TableName} {α : Type} {db db' : Database} {a : α} {sent : List String}

def isInternal (access : AccessContext) : Bool :=
  hasRole access [.admin, .supplyChain]

/-! ## Input checks -/

def text (value : String) (maximum : Nat := 1000) : SupplyTx writes String := do
  refuseIf (textLength (trim value) = 0 ∨ maximum < textLength (trim value))
    (badRequest "Invalid text field")
  return trim value

def optionalText (value : Option String) (maximum : Nat := 1000) :
    SupplyTx writes (Option String) :=
  match value with
  | none => return none
  | some given =>
      if given = "" then return none
      else do
        let result ← text given maximum
        return some result

def positiveInteger (value : Int) (message : String := "Positive integer required") :
    SupplyTx writes Int := do
  refuseIf (¬ isSafeInteger value ∨ value ≤ 0) (badRequest message)
  return value

/-- `positiveInteger` on a key. -/
def positiveKey (value : Nat) (message : String := "Positive integer required") :
    SupplyTx writes Nat := do
  refuseIf (¬ isSafeInteger value ∨ value = 0) (badRequest message)
  return value

def nonNegativeInteger (value : Int) (message : String := "Non-negative integer required") :
    SupplyTx writes Int := do
  refuseIf (¬ isSafeInteger value ∨ value < 0) (badRequest message)
  return value

def date (value : String) (message : String := "Valid date required") : SupplyTx writes String := do
  let result ← text value 10
  refuseIf ((Calendar.parse result).isNone = true) (badRequest message)
  return result

/-- The day before; before year 0 the ISO text has a signed year of six digits,
of which the first ten characters are kept. -/
def previousDay (value : String) : Option String :=
  (Calendar.parse value).map fun date => date.previous.elim "-000001-12" Calendar.Date.text

theorem previousDay_eq_some {value before : String} (found : previousDay value = some before) :
    ∃ date : Calendar.Date, date.Valid ∧ value = date.text ∧
      before = date.previous.elim "-000001-12" Calendar.Date.text := by
  obtain ⟨date, parsed, same⟩ := Option.map_eq_some_iff.mp found
  obtain ⟨valid, text⟩ := Calendar.parse_eq_some_iff.mp parsed
  exact ⟨date, valid, text, same.symm⟩

theorem previousDay_lt {value before : String} (found : previousDay value = some before) :
    before < value := by
  obtain ⟨date, valid, rfl, rfl⟩ := previousDay_eq_some found
  cases previous : date.previous with
  | some earlier =>
      exact (Calendar.Date.text_lt (valid.previous previous) valid).mpr
        (Calendar.Date.previous_before previous)
  | none =>
      have below : '-' < Calendar.digit (date.year / 100 / 10) := by
        have order : '-' < Calendar.digit (date.year / 100 / 10) ↔
          45 < (Calendar.digit (date.year / 100 / 10)).toNat := Iff.rfl
        rw [order, Calendar.digit_toNat]
        omega
      rw [String.lt_iff, Calendar.Date.text, String.toList_ofList]
      exact List.cons_lt_cons_iff.mpr (Or.inl below)

theorem previousDay_greatest {value before other : String}
    (found : previousDay value = some before) (valid : (Calendar.parse other).isSome = true)
    (earlier : other < value) : other ≤ before := by
  obtain ⟨date, validDate, rfl, rfl⟩ := previousDay_eq_some found
  obtain ⟨day, parsed⟩ := Option.isSome_iff_exists.mp valid
  obtain ⟨validDay, rfl⟩ := Calendar.parse_eq_some_iff.mp parsed
  have sooner := (Calendar.Date.text_lt validDay validDate).mp earlier
  cases previous : date.previous with
  | some last =>
      apply String.not_lt.mp
      rw [Option.elim_some, Calendar.Date.text_lt (validDate.previous previous) validDay]
      exact Calendar.Date.previous_greatest validDay previous sooner
  | none => exact absurd sooner (Calendar.Date.previous_none validDay previous)

theorem previousDay_isSome {value : String} (valid : (Calendar.parse value).isSome = true) :
    ∃ before, previousDay value = some before := by
  obtain ⟨date, parsed⟩ := Option.isSome_iff_exists.mp valid
  exact ⟨_, by rw [previousDay, parsed, Option.map_some]⟩

@[simp]
theorem returns_bind_text {value : String} {maximum : Nat} {f : String → SupplyTx writes α} :
    (text value maximum >>= f).Returns db a sent db' ↔
      (textLength (trim value) ≠ 0 ∧ textLength (trim value) ≤ maximum) ∧
        (f (trim value)).Returns db a sent db' := by
  simp [returns_bind, text]

@[simp]
theorem returns_bind_positiveInteger {value : Int} {message : String}
    {f : Int → SupplyTx writes α} :
    (positiveInteger value message >>= f).Returns db a sent db' ↔
      (isSafeInteger value ∧ 0 < value) ∧ (f value).Returns db a sent db' := by
  simp [returns_bind, positiveInteger]

@[simp]
theorem returns_bind_positiveKey {value : Nat} {message : String} {f : Nat → SupplyTx writes α} :
    (positiveKey value message >>= f).Returns db a sent db' ↔
      (isSafeInteger value ∧ value ≠ 0) ∧ (f value).Returns db a sent db' := by
  simp [returns_bind, positiveKey]

@[simp]
theorem returns_bind_nonNegativeInteger {value : Int} {message : String}
    {f : Int → SupplyTx writes α} :
    (nonNegativeInteger value message >>= f).Returns db a sent db' ↔
      (isSafeInteger value ∧ 0 ≤ value) ∧ (f value).Returns db a sent db' := by
  simp [returns_bind, nonNegativeInteger]

@[simp]
theorem returns_bind_date {value message : String} {f : String → SupplyTx writes α} :
    (date value message >>= f).Returns db a sent db' ↔
      (textLength (trim value) ≠ 0 ∧ textLength (trim value) ≤ 10) ∧
        (Calendar.parse (trim value)).isSome = true ∧ (f (trim value)).Returns db a sent db' := by
  simp [returns_bind, date, text, Option.isSome_iff_ne_none, and_assoc]

def requireFactoryBinding (access : AccessContext) (factoryId : Nat) : SupplyTx writes Unit :=
  refuseIf (hasRole access [.factory] = false ∨ access.factoryId ≠ some factoryId)
    (forbidden "Factory role and binding are required")

/-! ## Versions -/

/-- The insert of a first version that an existing one ignores, and its value. -/
def ensureVersion [Writes procurementVersions writes] (resourceType : String) (resourceId : Nat) :
    SupplyTx writes Nat := do
  let known ← query fun db => versionOf (db procurementVersions) resourceType resourceId
  whenever (known = none) (insertRow procurementVersions { resourceType, resourceId, version := 1 })
  return known.getD 1

/-- The version of a resource that counts on when it is the expected one. -/
def raiseVersion {μ : Type} [Writes procurementVersions writes] (resourceType : String)
    (resourceId version : Nat) (message : String) : Transaction Row μ Failure writes Unit := do
  let current := fun (_ : Nat) (row : ResourceVersion) =>
    row.resourceType == resourceType && row.resourceId == resourceId && row.version == version
  let matched ← query fun db => (db procurementVersions).any current
  refuseIf (matched = false) (conflict message)
  updateWhere procurementVersions current fun row => { row with version := row.version + 1 }

/-! ## Files -/

inductive FileSelector
  | id (id : Nat)
  | objectKey (key : String)

/-- A text of digits selects a file by its key, any other by its object key. -/
def fileSelector (value : String) : FileSelector :=
  match Calendar.digits value.toList with
  | some id => if value = "" then .objectKey value else .id id
  | none => .objectKey value

def selectFile (db : Database) : FileSelector → Option FileObject
  | .id id => (db fileObjects).find? id
  | .objectKey key => ((db fileObjects).first? fun _ row => row.objectKey == key).map (·.2)

/-- The clean file that is selected, of an allowed category, bound to one of the
entities when there are some, and in the scope of the caller. -/
def requireFile (access : AccessContext) (selector : FileSelector) (categories : List String)
    (entity : Option (String × List Nat) := none) : SupplyTx writes FileObject := do
  let found ← query fun db => selectFile db selector
  let file ← orThrow found (notFound "Authorized clean file not found")
  refuseIf (file.clean = false) (notFound "Authorized clean file not found")
  refuseIf (categories.contains file.category = false) (forbidden "File category rejected")
  refuseIf (entity.any (fun bound => file.entityType != bound.1 ||
      file.entityId.all fun id => !bound.2.contains id) = true)
    (forbidden "File entity binding rejected")
  refuseIf (¬ (isInternal access = true ∨ file.ownerUserId = access.userId ∨
      (hasRole access [.factory] = true ∧ access.factoryId ≠ none ∧
        file.factoryId = access.factoryId) ∨
      (hasRole access [.supplierQc] = true ∧ access.supplierId ≠ none ∧
        file.supplierId = access.supplierId)))
    (forbidden "File scope rejected")
  return file

/-- The import file that a plan or an order may refer to. -/
def requireSourceFile (access : AccessContext) (sourceFileKey : Option String) :
    SupplyTx writes Unit :=
  match sourceFileKey with
  | none => return ()
  | some objectKey => do
      let _ ← requireFile access (.objectKey objectKey) ["import", "import_source"]
        (some ("import_upload", [access.userId]))
      return ()

/-! ## Approval requests, reminders and messages -/

def hashed (command : SupplyContext) (value : String) (length : Nat) : String :=
  String.ofList ((command.sha256 value).toList.take length)

def requestNo (command : SupplyContext) (discriminator : String) : String :=
  "AP-R2-" ++ hashed command (command.idempotencyKey ++ ":" ++ discriminator) 24

def requestOf (command : SupplyContext) (workflowType entityType : String) (entityId : Nat)
    (payload : JsonValue) (highRisk : Bool := false) : ApprovalRequest where
  requestNo := requestNo command workflowType
  workflowType := .procurement workflowType
  entityType := entityType
  entityId := entityId
  payload := payload
  highRisk := highRisk
  status := .pending
  requestedBy := command.access.userId
  reviewedBy := none
  reviewComment := ""
  updatedAt := command.now

def createApproval [Writes approvalRequests writes] [Writes procurementVersions writes]
    (command : SupplyContext) (workflowType entityType : String) (entityId : Nat)
    (payload : JsonValue) (highRisk : Bool := false) : SupplyTx writes Nat := do
  let approvalId ← insertUnique approvalRequests
    (fun row => row.requestNo == requestNo command workflowType)
    (requestOf command workflowType entityType entityId payload highRisk)
    (.duplicateKey approvalRequests)
  let _ ← insertUnique procurementVersions
    (fun row => row.resourceType == "approval_request" && row.resourceId == approvalId)
    { resourceType := "approval_request", resourceId := approvalId, version := 1 }
    (.duplicateKey procurementVersions)
  return approvalId

def approvalNotification (command : SupplyContext) (workflowType : String) (approvalId : Nat) :
    SupplyTx writes Unit := do
  refuseIf (¬ isSafeInteger approvalId ∨ approvalId = 0)
    (.platform ⟨503, .internalServerError, "Approval notification target is invalid"⟩)
  send ("r2:approval:" ++ workflowType ++ ":" ++ toString approvalId ++ ":" ++
    hashed command command.idempotencyKey 20)

theorem createApproval_returns [Writes approvalRequests writes] [Writes procurementVersions writes]
    {command : SupplyContext} {workflowType entityType : String} {entityId id : Nat}
    {payload : JsonValue} {highRisk : Bool}
    (returns : (createApproval command workflowType entityType entityId payload highRisk :
      SupplyTx writes Nat).Returns db id sent db') :
    id = (db approvalRequests).nextId ∧ sent = [] ∧
      db' approvalRequests = (db approvalRequests).insert
        (requestOf command workflowType entityType entityId payload highRisk) ∧
      ∀ t, t ≠ approvalRequests → t ≠ procurementVersions → db' t = db t := by
  simp only [createApproval, returns_bind_insertUnique, returns_pure] at returns
  obtain ⟨-, -, rfl, rfl, rfl⟩ := returns
  refine ⟨rfl, rfl, by simp, fun t notRequests notVersions => ?_⟩
  rw [Store.put_other _ _ notVersions, Store.put_other _ _ notRequests]

theorem approvalNotification_returns {command : SupplyContext} {workflowType : String}
    {approvalId : Nat} {u : Unit}
    (returns : (approvalNotification command workflowType approvalId :
      SupplyTx writes Unit).Returns db u sent db') : db' = db := by
  simp only [approvalNotification, returns_bind_refuseIf, returns_send] at returns
  exact returns.2.2

def domainEvent (command : SupplyContext) (eventType entityType : String) (entityId : Nat) :
    SupplyTx writes Unit :=
  send ("r2:" ++ eventType ++ ":" ++ entityType ++ ":" ++ toString entityId ++ ":" ++
    hashed command command.idempotencyKey 20)

def createReminder {μ : Type} [Writes reminderSchedules writes] (reminderType : ReminderType)
    (entityId : Nat) (businessNo : String) (dueAt : Nat) : Transaction Row μ Failure writes Unit :=
  insertRow reminderSchedules { reminderType, entityId, businessNo, dueAt }

/-- A day in milliseconds. -/
def day : Nat := 86400000

/-- `...members` spread over an object. -/
def withMembers (value : JsonValue) (members : List (String × JsonValue)) : JsonValue :=
  match value with
  | .object own =>
      .object ((own.filter fun entry => !(members.map (·.1)).contains entry.1) ++ members)
  | _ => .object members

end SupplyChain.Supply
