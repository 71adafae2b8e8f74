import SupplyChain.Json.Texts
import SupplyChain.Relational.Table

/-!
The executor that every command route goes through: it checks the idempotency
key and the digest of the request, and runs the command in a unit of work that
also holds the row of the key.
-/

namespace SupplyChain.Commands

open Relational Json

/-! ## Errors -/

/-- An error as it is answered. -/
structure CommandError where
  statusCode : Nat
  code : String
  message : String
  refusal : 400 ≤ statusCode ∧ statusCode ≤ 599

def badRequest (message : String) : CommandError where
  statusCode := 400
  code := "BAD_REQUEST"
  message := message
  refusal := by decide

def internalServerError : CommandError where
  statusCode := 500
  code := "INTERNAL_SERVER_ERROR"
  message := "Internal Server Error"
  refusal := by decide

/-! ## Digests -/

mutual

def canonicalJson : Value → Except CommandError (List Char)
  | .undefined => .error internalServerError
  | .null => .ok (stringify .null)
  | .boolean value => .ok (stringify (.boolean value))
  | .text value => .ok (stringify (.text value))
  | .number .notFinite => .error (badRequest "Invalid command payload")
  | .number value => .ok value.text
  | .array items => do
      let texts ← canonicalItems items
      return '[' :: ([','].intercalate texts ++ [']'])
  | .object members => do
      let texts ← canonicalMembers members
      return '\x7b' :: ([','].intercalate
        ((sortMembers texts).map fun entry => quote entry.1 ++ ':' :: entry.2) ++ ['\x7d'])

def canonicalItems : List Value → Except CommandError (List (List Char))
  | [] => .ok []
  | item :: rest => do
      let text ← canonicalJson item
      let texts ← canonicalItems rest
      return text :: texts

/-- A member that is undefined is written as null. -/
def canonicalMembers : List (String × Value) → Except CommandError (List (String × List Char))
  | [] => .ok []
  | (name, value) :: rest => do
      let text ← if value.isUndefined then .ok (stringify .null) else canonicalJson value
      let texts ← canonicalMembers rest
      return (name, text) :: texts

end

/-- `sha256` gives the digest of a text in lower-case hexadecimal. -/
def canonicalRequestDigest (sha256 : String → String) (command : String) (payload : Value) :
    Except CommandError String := do
  let text ← canonicalJson (.object [("command", .text command), ("payload", payload)])
  return sha256 (String.ofList text)

/-- A header of the request: it may be sent more than once. -/
inductive Header
  | absent
  | text (value : String)
  | repeated (values : List String)

def isAlphanumeric (c : Char) : Bool :=
  ('A' ≤ c && c ≤ 'Z') || ('a' ≤ c && c ≤ 'z') || ('0' ≤ c && c ≤ '9')

/-- `IDEMPOTENCY_KEY_PATTERN`. -/
def isIdempotencyKey (value : String) : Bool :=
  match value.toList with
  | [] => false
  | first :: rest =>
      isAlphanumeric first && 15 ≤ rest.length && rest.length ≤ 127 &&
        rest.all fun c => isAlphanumeric c || c == '.' || c == '_' || c == ':' || c == '-'

/-- `SHA256_PATTERN`. -/
def isSha256 (value : String) : Bool :=
  value.toList.length == 64 &&
    value.toList.all fun c => ('a' ≤ c && c ≤ 'f') || ('0' ≤ c && c ≤ '9')

def commandIdempotencyKey (header : Header) (missingIsInvalid : Bool) :
    Except CommandError String :=
  match header with
  | .text value =>
      if isIdempotencyKey value then .ok value
      else .error (badRequest "Invalid idempotency key")
  | _ =>
      .error (badRequest (if missingIsInvalid then "Invalid idempotency key"
        else "Missing idempotency-key header"))

def verifyClientDigest (supplied : Header) (digest : String) (onlyWhenString : Bool) :
    Except CommandError Unit :=
  match supplied with
  | .absent => .ok ()
  | .text value =>
      if isSha256 value.toLower = true ∧ value.toLower = digest then .ok ()
      else .error (badRequest "Request digest mismatch")
  | .repeated _ =>
      if onlyWhenString then .ok () else .error (badRequest "Request digest mismatch")

/-! ## Rows -/

inductive CommandStatus
  | pending | completed | unknown
  deriving DecidableEq

/-- A row of `command_idempotency`; its first three columns are a unique key.
The reply is kept as the JSON value it holds. -/
structure IdempotencyRow where
  commandName : String
  actorScope : String
  idempotencyKey : String
  requestDigest : String
  status : CommandStatus
  responseStatus : Option Nat
  responseJson : Option Value

structure WriterFence where
  resource : String
  owner : String
  enabled : Bool
  generation : Nat

/-- What the executor reads and writes: its own two tables, and the rest of the
database that the commands work on. -/
structure Database (State : Type) where
  commandIdempotency : Table IdempotencyRow
  writerFences : Table WriterFence
  state : State

/-- The unique key of a row. -/
structure Identity where
  command : String
  actorScope : String
  idempotencyKey : String
  deriving DecidableEq

def Identity.matches (identity : Identity) (row : IdempotencyRow) : Bool :=
  row.commandName == identity.command && row.actorScope == identity.actorScope &&
    row.idempotencyKey == identity.idempotencyKey

def writerFenceGeneration : Nat := 2

def writerOwner : String := "fastify-v1"

variable {State : Type}

def requireWriterFence (resource : String) (db : Database State) : Except CommandError Unit :=
  match db.writerFences.first? fun _ row => row.resource == resource with
  | some (_, row) =>
      if row.owner = writerOwner ∧ row.generation = writerFenceGeneration ∧ row.enabled = true then
        .ok ()
      else .error ⟨503, "WRITER_FENCE_REJECTED", "Write owner is not active", by decide⟩
  | none => .error ⟨503, "WRITER_FENCE_REJECTED", "Write owner is not active", by decide⟩

def outcomeUnknown (statusCode : Nat) (refusal : 400 ≤ statusCode ∧ statusCode ≤ 599) :
    CommandError :=
  ⟨statusCode, "COMMAND_OUTCOME_UNKNOWN", "Command outcome requires reconciliation", refusal⟩

/-! ## The executor -/

abbrev JsonObject := List (String × Value)

inductive ResponseStatus
  | standard
  | fixed (status : Nat)
  | computed (status : JsonObject → Nat)

/-- The options of `executeIdempotentCommand`, with the two headers it reads of
the request. -/
structure Options (State : Type) where
  actorScope : String
  command : String
  fenceResource : String
  missingIdempotencyKeyIsInvalid : Bool
  payload : Value
  idempotencyKey : Header
  requestDigest : Header
  responseStatus : ResponseStatus
  run : String → String → State → Except CommandError (JsonObject × State)
  validateResponseStatus : Bool
  verifyOnlyStringDigestHeaders : Bool

def parseReplay (row : IdempotencyRow) : Except CommandError JsonObject :=
  match row.responseJson, row.responseStatus with
  | some (.object members), some _ => .ok members
  | some _, some _ => .error (outcomeUnknown 503 (by decide))
  | _, _ => .error (outcomeUnknown 409 (by decide))

def resolvedResponseStatus (configured : ResponseStatus) (result : JsonObject) (validate : Bool) :
    Except CommandError Nat :=
  let status := match configured with
    | .standard => 200
    | .fixed status => status
    | .computed status => status result
  if validate = true ∧ (status < 200 ∨ 299 < status) then
    .error ⟨503, "INTERNAL_SERVER_ERROR", "Invalid command response status", by decide⟩
  else .ok status

def defaultResponseStatus : ResponseStatus → Nat
  | .fixed status => status
  | _ => 200

structure Outcome where
  replayed : Bool
  result : JsonObject
  statusCode : Nat

/-- The row that the insert adds. -/
def pendingRow (identity : Identity) (requestDigest : String) : IdempotencyRow where
  commandName := identity.command
  actorScope := identity.actorScope
  idempotencyKey := identity.idempotencyKey
  requestDigest := requestDigest
  status := .pending
  responseStatus := none
  responseJson := none

def completedRow (responseStatus : Nat) (result : JsonObject) (row : IdempotencyRow) :
    IdempotencyRow :=
  { row with
    status := .completed, responseStatus := some responseStatus,
    responseJson := some (.object result) }

def Options.identity (options : Options State) (idempotencyKey : String) : Identity :=
  ⟨options.command, options.actorScope, idempotencyKey⟩

/-- The reply for a key whose row was there before. -/
def replay (options : Options State) (row : IdempotencyRow) : Except CommandError Outcome :=
  match row.status with
  | .completed => do
      let result ← parseReplay row
      return ⟨true, result, row.responseStatus.getD (defaultResponseStatus options.responseStatus)⟩
  | .unknown => .error (outcomeUnknown 409 (by decide))
  | .pending => .error ⟨409, "COMMAND_IN_PROGRESS", "Command is already in progress", by decide⟩

/-- The rows that the completing update finds. -/
def completes (identity : Identity) (requestDigest : String) (_ : Nat) (row : IdempotencyRow) :
    Bool :=
  identity.matches row && row.requestDigest == requestDigest && row.status == .pending

/-- The run of a command whose row was just inserted. -/
def runCommand (options : Options State) (identity : Identity) (requestDigest : String)
    (db : Database State) : Except CommandError (Outcome × Database State) := do
  let (result, state) ← options.run identity.idempotencyKey requestDigest db.state
  let responseStatus ←
    resolvedResponseStatus options.responseStatus result options.validateResponseStatus
  if (db.commandIdempotency.select (completes identity requestDigest)).length = 1 then
    return (⟨false, result, responseStatus⟩,
      { db with
        commandIdempotency :=
          db.commandIdempotency.update (completes identity requestDigest)
            (completedRow responseStatus result)
        state })
  else .error (outcomeUnknown 409 (by decide))

/-- The callback of the unit of work. -/
def unitOfWork (options : Options State) (idempotencyKey requestDigest : String)
    (db : Database State) : Except CommandError (Outcome × Database State) := do
  requireWriterFence options.fenceResource db
  let identity := options.identity idempotencyKey
  let inserted := !db.commandIdempotency.any fun _ row => identity.matches row
  let rows :=
    if inserted then db.commandIdempotency.insert (pendingRow identity requestDigest)
    else db.commandIdempotency
  match rows.first? fun _ row => identity.matches row with
  | none => .error (outcomeUnknown 503 (by decide))
  | some (_, row) =>
      if row.requestDigest ≠ requestDigest then
        .error ⟨409, "IDEMPOTENCY_KEY_REUSED", "Idempotency key was used for another request",
          by decide⟩
      else if inserted then
        runCommand options identity requestDigest { db with commandIdempotency := rows }
      else do
        let outcome ← replay options row
        return (outcome, db)

/-- How the database client ends a unit of work: the driver answered to
everything, it failed and all was rolled back, or its answer to the commit is
missing. -/
inductive Ending
  | answered
  | failed
  | unanswered (committed : Bool)

structure Response where
  statusCode : Nat
  command : String
  idempotencyKey : String
  requestDigest : String
  replayed : Bool
  result : JsonObject

/-- The checks before the unit of work. -/
def checked (sha256 : String → String) (options : Options State) :
    Except CommandError (String × String) := do
  let idempotencyKey ←
    commandIdempotencyKey options.idempotencyKey options.missingIdempotencyKeyIsInvalid
  let requestDigest ← canonicalRequestDigest sha256 options.command options.payload
  verifyClientDigest options.requestDigest requestDigest options.verifyOnlyStringDigestHeaders
  return (idempotencyKey, requestDigest)

/-- The answer to a request whose unit of work came to an outcome or an error,
and the database after it. -/
def concluded (options : Options State) (idempotencyKey requestDigest : String)
    (db : Database State) :
    Except CommandError (Outcome × Database State) → Ending →
      Except CommandError Response × Database State
  | _, .failed => (.error internalServerError, db)
  | .error error, _ => (.error error, db)
  | .ok (outcome, db'), .answered =>
      (.ok ⟨outcome.statusCode, options.command, idempotencyKey, requestDigest, outcome.replayed,
        outcome.result⟩, db')
  | .ok (_, db'), .unanswered committed =>
      (.error ⟨503, "COMMAND_OUTCOME_UNKNOWN",
        "Command outcome is unknown; retry only with the same idempotency key", by decide⟩,
        if committed then db' else db)

def executeIdempotentCommand (sha256 : String → String) (options : Options State)
    (ending : Ending) (db : Database State) : Except CommandError Response × Database State :=
  match checked sha256 options with
  | .error error => (.error error, db)
  | .ok (idempotencyKey, requestDigest) =>
      concluded options idempotencyKey requestDigest db
        (unitOfWork options idempotencyKey requestDigest db) ending

end SupplyChain.Commands
