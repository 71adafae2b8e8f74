import SupplyChain.Calendar.Instants
import SupplyChain.Commands
import SupplyChain.Platform

/-!
The accounts of the platform: the password login with its trusted devices, the
one-time codes of logins and of high-risk actions, and the commands of the
administrators on an account. A one-time code is judged in two steps: it is
compared before the unit of work that counts or accepts it.
-/

namespace SupplyChain.Accounts

open Relational Transaction Json Calendar
open Commands (CommandError JsonObject Header Options Response ResponseStatus Ending
  commandIdempotencyKey executeIdempotentCommand internalServerError)

/-! ## Rows -/

inductive AccountTable
  | users | authCredentials | authChallenges | authSessions | trustedDevices | resourceVersions
  | outboxMessages
  deriving DecidableEq

open AccountTable

inductive AccountStatus
  | pending | active | locked | disabled
  deriving DecidableEq

def AccountStatus.text : AccountStatus → String
  | .pending => "pending"
  | .active => "active"
  | .locked => "locked"
  | .disabled => "disabled"

/-- A row of `users`; `email` is a unique key. -/
structure User where
  email : String
  mobile : String
  name : String
  role : String
  accountStatus : AccountStatus

/-- A row of `auth_credentials`; `userId` is a unique key. -/
structure Credential where
  userId : Nat
  passwordHash : String
  passwordSalt : String
  failedAttempts : Nat
  lockedAt : Option String

/-- What a high-risk challenge was requested for. -/
structure Binding where
  sessionId : Nat
  action : String
  objectType : String
  objectId : String
  objectVersion : Nat
  requestDigest : String
  deriving DecidableEq

/-- The columns of the binding are null for a login. -/
inductive Purpose
  | login
  | highRisk (binding : Binding)
  deriving DecidableEq

/-- A row of `auth_challenges`; `challengeNo` is a unique key. -/
structure AuthChallenge where
  challengeNo : String
  userId : Nat
  purpose : Purpose
  codeHash : String
  deviceId : String
  ipAddress : Option String
  region : Option String
  expiresAt : String
  attempts : Nat
  verifiedAt : Option String
  consumedAt : Option String

/-- A row of `auth_sessions`; `tokenHash` is a unique key. -/
structure AuthSession where
  userId : Nat
  tokenHash : String
  deviceId : String
  ipAddress : Option String
  region : Option String
  expiresAt : String
  revokedAt : Option String

/-- A row of `trusted_devices`; the user and the device are a unique key. -/
structure TrustedDevice where
  userId : Nat
  deviceId : String
  deviceName : String
  lastIpAddress : Option String
  lastRegion : Option String
  trustedUntil : String
  revokedAt : Option String

/-- A row of `resource_versions` of the type `user`. -/
structure UserVersion where
  userId : Nat
  version : Nat

/-- A row of `outbox_messages`; the key is unique. -/
structure OutboxMessage where
  deduplicationKey : String

abbrev AccountRow : AccountTable → Type
  | .users => User
  | .authCredentials => Credential
  | .authChallenges => AuthChallenge
  | .authSessions => AuthSession
  | .trustedDevices => TrustedDevice
  | .resourceVersions => UserVersion
  | .outboxMessages => OutboxMessage

abbrev AccountStore := Store AccountRow

/-- The commands send nothing but the rows of the outbox that they insert. -/
abbrev AccountTx (writes : List AccountTable) (α : Type) :=
  Transaction AccountRow Empty CommandError writes α

variable {writes : List AccountTable}

/-! ## The platform under the accounts -/

def SESSION_SECONDS : Nat := 12 * 60 * 60
def TRUSTED_DEVICE_DAYS : Nat := 90
def OTP_SECONDS : Nat := 5 * 60
def MAX_ATTEMPTS : Nat := 5

theorem status_401 : 400 ≤ 401 ∧ 401 ≤ 599 := by decide
theorem status_404 : 400 ≤ 404 ∧ 404 ≤ 599 := by decide
theorem status_409 : 400 ≤ 409 ∧ 409 ≤ 599 := by decide
theorem status_429 : 400 ≤ 429 ∧ 429 ≤ 599 := by decide
theorem status_503 : 400 ≤ 503 ∧ 503 ≤ 599 := by decide

def unavailable : CommandError :=
  ⟨503, "INTERNAL_SERVER_ERROR", "Authentication unavailable", status_503⟩

/-- `UsersUnavailableError`, as it is answered. -/
def usersUnavailable : CommandError :=
  ⟨503, "INTERNAL_SERVER_ERROR", "Internal Server Error", status_503⟩

def unauthorized (message : String) : CommandError := ⟨401, "UNAUTHORIZED", message, status_401⟩
def refusedState (message : String) : CommandError := ⟨409, "CONFLICT", message, status_409⟩
def versionRefused (message : String) : CommandError :=
  ⟨409, "VERSION_CONFLICT", message, status_409⟩
def otpExpired : CommandError :=
  ⟨409, "OTP_EXPIRED", "Verification challenge is invalid or expired", status_409⟩
def otpAttemptsExceeded : CommandError :=
  ⟨429, "OTP_ATTEMPTS_EXCEEDED", "Verification attempts exceeded", status_429⟩
def wrongCode : CommandError := unauthorized "Verification code is invalid"
def invalidLogin : CommandError := unauthorized "Account or password is invalid"
def accountLocked : CommandError :=
  ⟨429, "TOO_MANY_REQUESTS", "Account locked after repeated failures", status_429⟩

/-- The options of the routes and the functions of the runtime; digests and
derived keys are in hexadecimal, as is the salt. -/
structure Environment where
  sessionSigningKey : Option String
  fixedOtpCode : Option String
  otpSealing : Bool
  isPreview : Bool
  sha256 : String → String
  hmac : String → String → List UInt8
  pbkdf2 : String → String → String
  toLowerCase : String → String

def hexText (bytes : List UInt8) : String :=
  String.ofList (bytes.flatMap fun byte => [Json.hexDigit (byte.toNat / 16), Json.hexDigit (byte.toNat % 16)])

def signingKey (env : Environment) : Except CommandError String :=
  match env.sessionSigningKey.map trim with
  | none => .error unavailable
  | some value => if textLength value < 32 then .error unavailable else .ok value

def deriveSessionToken (env : Environment) (key command subjectDigest idempotencyKey : String) :
    String :=
  hexText (env.hmac key ("session:" ++ command ++ ":" ++ subjectDigest ++ ":" ++ idempotencyKey))

def deriveOtpCode (env : Environment) (key command principal idempotencyKey : String) : String :=
  let digest := env.hmac key ("otp:" ++ command ++ ":" ++ principal ++ ":" ++ idempotencyKey)
  String.ofList ((List.range 6).map fun index => digit ((digest.getD index 0).toNat % 10))

def otpCode (env : Environment) (key command principal idempotencyKey : String) : String :=
  env.fixedOtpCode.getD (deriveOtpCode env key command principal idempotencyKey)

def deriveChallengeNumber (env : Environment) (kind key principal idempotencyKey : String) :
    String :=
  let digest := hexText (env.hmac key ("challenge:" ++ kind ++ ":" ++ principal ++ ":" ++ idempotencyKey))
  kind ++ "-" ++ String.ofList (digest.toList.take 32)

def maskMobile (mobile : String) : String :=
  if textLength mobile = 11 then
    String.ofList (mobile.toList.take 3 ++ "****".toList ++ mobile.toList.drop (mobile.length - 4))
  else ""

/-- What a challenge keeps of its code. -/
def codeDigest (env : Environment) (challengeNo code : String) : String :=
  env.sha256 (challengeNo ++ ":" ++ code)

def after (now : Instant) (seconds : Nat) : String := toISOString (now.time + seconds * 1000)

/-- `enqueueOutbox`: the insert has no IGNORE, so a key that is taken fails. -/
def enqueueOutbox [Writes outboxMessages writes] (deduplicationKey : String) :
    AccountTx writes Unit := do
  let _ ← insertUnique outboxMessages (fun row => row.deduplicationKey == deduplicationKey)
    ⟨deduplicationKey⟩ internalServerError
  return ()

/-- The text message with the code, unless the environment is a preview. -/
def sendCode [Writes outboxMessages writes] (env : Environment) (challengeNo : String) :
    AccountTx writes Unit :=
  if env.isPreview = true then return ()
  else do
    refuseIf (env.otpSealing = false) unavailable
    enqueueOutbox ("sms:" ++ challengeNo)

def insertSession [Writes authSessions writes] (env : Environment) (now : Instant) (userId : Nat)
    (token deviceId : String) (ipAddress region : Option String) : AccountTx writes String := do
  let expiresAt := after now SESSION_SECONDS
  let _ ← insertUnique authSessions (fun row => row.tokenHash == env.sha256 token)
    { userId, tokenHash := env.sha256 token, deviceId, ipAddress, region, expiresAt
      revokedAt := none } internalServerError
  return expiresAt

def insertChallenge [Writes authChallenges writes] (row : AuthChallenge) : AccountTx writes Unit := do
  let _ ← insertUnique authChallenges (fun other => other.challengeNo == row.challengeNo) row
    internalServerError
  return ()

/-! ## Login -/

structure LoginBody where
  account : String
  password : String
  deviceId : String
  deviceName : Option String

/-- What is read of the headers of a request. -/
structure Caller where
  ipAddress : Option String
  region : Option String
  idempotencyKey : Header
  requestDigest : Header

structure UserCredential where
  userId : Nat
  user : User
  credentialId : Nat
  credential : Credential

/-- The user of the account joined with its credential. -/
def credentialRow (db : AccountStore) (account : String) : Option UserCredential := do
  let user ← (db users).first? fun _ row => row.email == account
  let credential ← (db authCredentials).first? fun _ row => row.userId == user.1
  return ⟨user.1, user.2, credential.1, credential.2⟩

def readCredential (db : AccountStore) (account : String) : Except CommandError UserCredential :=
  match credentialRow db account with
  | none => .error invalidLogin
  | some current =>
      if current.user.email = "" ∨ current.credential.passwordHash = "" ∨
          current.credential.passwordSalt = "" then
        .error unavailable
      else .ok current

/-- `/^[a-f\d]{32}$/iu`. -/
def isSalt (salt : String) : Bool :=
  salt.toList.length == 32 && salt.toList.all fun c =>
    ('a' ≤ c && c ≤ 'f') || ('A' ≤ c && c ≤ 'F') || ('0' ≤ c && c ≤ '9')

def passwordHash (env : Environment) (password saltHex : String) : Except CommandError String :=
  if isSalt saltHex then .ok (env.pbkdf2 password saltHex) else .error unavailable

/-- A wrong password is counted whatever the status of the account is. -/
def rejectPassword [Writes authCredentials writes] [Writes users writes] (now : Instant)
    (current : UserCredential) : AccountTx writes JsonObject := do
  let nextAttempts := min (current.credential.failedAttempts + 1) MAX_ATTEMPTS
  updateWhere authCredentials (fun id _ => id == current.credentialId) fun row =>
    { row with
      failedAttempts := nextAttempts
      lockedAt := if MAX_ATTEMPTS ≤ nextAttempts then some now.text else row.lockedAt }
  whenever (MAX_ATTEMPTS ≤ nextAttempts)
    (updateWhere users (fun id row => id == current.userId && row.accountStatus == .active)
      fun row => { row with accountStatus := .locked })
  return [("authenticated", .boolean false), ("locked", .boolean (decide (MAX_ATTEMPTS ≤ nextAttempts)))]

/-- The trusted device that a login comes from. -/
def trustedDevice (db : AccountStore) (now : Instant) (userId : Nat) (deviceId : String)
    (region : Option String) : Option (Nat × TrustedDevice) :=
  (db trustedDevices).first? fun _ row =>
    row.userId == userId && row.deviceId == deviceId && row.revokedAt.isNone &&
      decide (now.text < row.trustedUntil) &&
      (row.lastRegion.isNone || (region.isSome && row.lastRegion == region))

/-- The session of a login from a trusted device. -/
def openSession [Writes authSessions writes] [Writes trustedDevices writes] (env : Environment)
    (now : Instant) (userId : Nat) (body : LoginBody) (caller : Caller) (token : String)
    (deviceRow : Nat) : AccountTx writes JsonObject := do
  let expiresAt ← insertSession env now userId token body.deviceId caller.ipAddress caller.region
  updateWhere trustedDevices (fun id _ => id == deviceRow) fun row =>
    { row with lastIpAddress := caller.ipAddress, lastRegion := caller.region }
  return [("authenticated", .boolean true), ("expiresAt", .text expiresAt)]

def loginPrincipal (userId : Nat) : String := "user:" ++ toString userId

/-- The challenge of a login. -/
def loginChallenge (env : Environment) (key : String) (now : Instant) (userId : Nat)
    (deviceId : String) (caller : Caller) (idempotencyKey : String) : AuthChallenge :=
  let challengeNo := deriveChallengeNumber env "OTP" key (loginPrincipal userId) idempotencyKey
  let code := otpCode env key "auth.login" (loginPrincipal userId) idempotencyKey
  { challengeNo, userId, purpose := .login, codeHash := codeDigest env challengeNo code, deviceId
    ipAddress := caller.ipAddress, region := caller.region, expiresAt := after now OTP_SECONDS
    attempts := 0, verifiedAt := none, consumedAt := none }

def previewed (env : Environment) (code : String) : JsonObject :=
  if env.isPreview then [("previewCode", .text code)] else []

/-- The one-time code of a login from a device that is not trusted. -/
def requestCode [Writes authChallenges writes] [Writes outboxMessages writes] (env : Environment)
    (key : String) (now : Instant) (current : UserCredential) (body : LoginBody) (caller : Caller)
    (idempotencyKey : String) : AccountTx writes JsonObject := do
  refuseIf (textLength current.user.mobile ≠ 11) (refusedState "Account has no valid mobile binding")
  let challenge := loginChallenge env key now current.userId body.deviceId caller idempotencyKey
  insertChallenge challenge
  sendCode env challenge.challengeNo
  return [("authenticated", .boolean false), ("challengeNo", .text challenge.challengeNo),
    ("maskedMobile", .text (maskMobile current.user.mobile))] ++
    previewed env (otpCode env key "auth.login" (loginPrincipal current.userId) idempotencyKey)

/-- The tables that a login writes. -/
abbrev loginTables : List AccountTable :=
  [authCredentials, users, authSessions, trustedDevices, authChallenges, outboxMessages]

def admitLogin (env : Environment) (key : String) (now : Instant) (current : UserCredential)
    (body : LoginBody) (caller : Caller) (idempotencyKey token : String) :
    Option (Nat × TrustedDevice) → AccountTx loginTables JsonObject
  | some device => openSession env now current.userId body caller token device.1
  | none => requestCode env key now current body caller idempotencyKey

/-- A right password: the count goes back to zero, below the limit. -/
def acceptPassword (env : Environment) (key : String) (now : Instant) (current : UserCredential)
    (body : LoginBody) (caller : Caller) (idempotencyKey token : String) :
    AccountTx loginTables JsonObject := do
  refuseIf (current.user.accountStatus ≠ .active) (refusedState "Account state changed")
  updateWhere authCredentials
    (fun id row => id == current.credentialId && decide (row.failedAttempts < MAX_ATTEMPTS))
    fun row => { row with failedAttempts := 0, lockedAt := none }
  let device ← query fun db =>
    trustedDevice db now current.userId body.deviceId caller.region
  admitLogin env key now current body caller idempotencyKey token device

def loginCommand (env : Environment) (key account : String) (now : Instant) (body : LoginBody)
    (caller : Caller) (token idempotencyKey : String) : AccountTx loginTables JsonObject := do
  let read ← query fun db => readCredential db account
  let current ← ofExcept read
  let hash ← ofExcept (passwordHash env body.password current.credential.passwordSalt)
  if hash ≠ current.credential.passwordHash then rejectPassword now current
  else acceptPassword env key now current body caller idempotencyKey token

/-! ## One-time codes of logins -/

structure VerifyBody where
  challengeNo : String
  code : String
  deviceName : Option String

/-- The challenge of a number. -/
def challengeRow (db : AccountStore) (challengeNo : String) : Option (Nat × AuthChallenge) :=
  (db authChallenges).first? fun _ row => row.challengeNo == challengeNo

/-- Only a challenge of a login is found. -/
def readLoginChallenge (db : AccountStore) (challengeNo : String) :
    Except CommandError (Nat × AuthChallenge) :=
  match (db authChallenges).first? fun _ row =>
      row.challengeNo == challengeNo && row.purpose == .login with
  | none => .error otpExpired
  | some challenge =>
      if challenge.2.deviceId = "" ∨ challenge.2.codeHash = "" ∨ challenge.2.expiresAt = "" then
        .error unavailable
      else .ok challenge

/-- A wrong code is counted up to the limit. -/
def countWrongCode [Writes authChallenges writes] (id : Nat) : AccountTx writes Unit :=
  updateWhere authChallenges
    (fun key row => key == id && row.verifiedAt.isNone && decide (row.attempts < MAX_ATTEMPTS))
    fun row => { row with attempts := row.attempts + 1 }

/-- What the update that accepts a code insists on. -/
def acceptable (now : Instant) (row : AuthChallenge) : Bool :=
  row.verifiedAt.isNone && decide (row.attempts < MAX_ATTEMPTS) && decide (now.text < row.expiresAt)

def trustDevice [Writes trustedDevices writes] (row : TrustedDevice) : AccountTx writes Unit := do
  let known ← query fun db => (db trustedDevices).any fun _ other =>
    other.userId == row.userId && other.deviceId == row.deviceId
  if known = true then
    updateWhere trustedDevices (fun _ other => other.userId == row.userId && other.deviceId == row.deviceId)
      fun _ => row
  else insertRow trustedDevices row

abbrev verifyTables : List AccountTable := [authChallenges, trustedDevices, authSessions]

/-- The right code: the challenge is spent, the device trusted and the session
opened, whatever became of the account since the challenge was requested. -/
def acceptCode (env : Environment) (now : Instant) (body : VerifyBody) (id : Nat)
    (challenge : AuthChallenge) (token : String) : AccountTx verifyTables JsonObject := do
  updateRow authChallenges id (acceptable now)
    (fun row => { row with verifiedAt := some now.text, consumedAt := some now.text }) otpExpired
  let trustedUntil := after now (TRUSTED_DEVICE_DAYS * 86400)
  trustDevice
    { userId := challenge.userId, deviceId := challenge.deviceId
      deviceName := body.deviceName.getD "", lastIpAddress := challenge.ipAddress
      lastRegion := challenge.region, trustedUntil, revokedAt := none }
  let expiresAt ← insertSession env now challenge.userId token challenge.deviceId
    challenge.ipAddress challenge.region
  return [("authenticated", .boolean true), ("trustedUntil", .text trustedUntil),
    ("expiresAt", .text expiresAt)]

def verifyCommand (env : Environment) (now : Instant) (body : VerifyBody) (valid : Bool)
    (token : String) : AccountTx verifyTables JsonObject := do
  let read ← query fun db => readLoginChallenge db body.challengeNo
  let challenge ← ofExcept read
  refuseIf (challenge.2.verifiedAt ≠ none ∨ challenge.2.expiresAt ≤ now.text) otpExpired
  refuseIf (MAX_ATTEMPTS ≤ challenge.2.attempts) otpAttemptsExceeded
  if valid = false then do
    countWrongCode challenge.1
    return [("authenticated", .boolean false)]
  else acceptCode env now body challenge.1 challenge.2 token

/-! ## One-time codes of high-risk actions -/

/-- The session of an authenticated request. -/
structure Access where
  userId : Nat
  sessionId : Nat

structure StepUpRequestBody where
  action : String
  objectType : String
  objectId : String
  objectVersion : Nat
  requestDigest : String

def StepUpRequestBody.bound (body : StepUpRequestBody) (access : Access) : Binding where
  sessionId := access.sessionId
  action := body.action
  objectType := body.objectType
  objectId := body.objectId
  objectVersion := body.objectVersion
  requestDigest := body.requestDigest.toLower

def stepUpPrincipal (access : Access) : String :=
  "user:" ++ toString access.userId ++ ":session:" ++ toString access.sessionId

def stepUpChallenge (env : Environment) (key : String) (now : Instant) (access : Access)
    (body : StepUpRequestBody) (idempotencyKey : String) : AuthChallenge :=
  let challengeNo := deriveChallengeNumber env "HR" key (stepUpPrincipal access) idempotencyKey
  let code := otpCode env key "step-up.request" (stepUpPrincipal access) idempotencyKey
  { challengeNo, userId := access.userId, purpose := .highRisk (body.bound access)
    codeHash := codeDigest env challengeNo code, deviceId := body.objectType ++ ":" ++ body.objectId
    ipAddress := none, region := none, expiresAt := after now OTP_SECONDS, attempts := 0
    verifiedAt := none, consumedAt := none }

def stepUpRequestCommand (env : Environment) (key : String) (now : Instant) (access : Access)
    (body : StepUpRequestBody) (idempotencyKey : String) :
    AccountTx [authChallenges, outboxMessages] JsonObject := do
  let user ← query fun db =>
    ((db users).find? access.userId).filter fun row => row.accountStatus == .active
  let mobile ← orThrow (user.map (·.mobile)) unavailable
  refuseIf (textLength mobile ≠ 11) (refusedState "Account has no valid mobile binding")
  let challenge := stepUpChallenge env key now access body idempotencyKey
  insertChallenge challenge
  sendCode env challenge.challengeNo
  return [("challengeNo", .text challenge.challengeNo),
    ("expiresInSeconds", .number (Number.ofNat OTP_SECONDS)),
    ("mobile", .text (maskMobile mobile)),
    ("requestDigest", .text body.requestDigest.toLower)] ++
    previewed env (otpCode env key "step-up.request" (stepUpPrincipal access) idempotencyKey)

structure StepUpVerifyBody where
  challengeNo : String
  code : String

/-- The challenge belongs to the user and the session. -/
def AuthChallenge.of (challenge : AuthChallenge) (access : Access) : Bool :=
  challenge.userId == access.userId &&
    match challenge.purpose with
    | .login => false
    | .highRisk binding => binding.sessionId == access.sessionId

/-- Only a challenge of a high-risk action of the session is found. -/
def readStepUpChallenge (db : AccountStore) (access : Access) (challengeNo : String) :
    Except CommandError (Nat × AuthChallenge) :=
  match (db authChallenges).first? fun _ row =>
      row.challengeNo == challengeNo && row.purpose != .login with
  | none => .error otpExpired
  | some challenge =>
      if challenge.2.of access = true then .ok challenge else .error otpExpired

def stepUpVerifyCommand (now : Instant) (access : Access) (body : StepUpVerifyBody)
    (valid : Bool) : AccountTx [authChallenges] JsonObject := do
  let read ← query fun db => readStepUpChallenge db access body.challengeNo
  let challenge ← ofExcept read
  refuseIf (challenge.2.verifiedAt ≠ none ∨ challenge.2.expiresAt ≤ now.text) otpExpired
  refuseIf (MAX_ATTEMPTS < challenge.2.attempts + 1) otpAttemptsExceeded
  if valid = false then do
    countWrongCode challenge.1
    return [("verified", .boolean false)]
  else do
    updateRow authChallenges challenge.1 (acceptable now)
      (fun row => { row with verifiedAt := some now.text }) otpExpired
    return [("verified", .boolean true), ("challengeNo", .text body.challengeNo)]

structure ApprovalClaim where
  challengeNo : String
  userId : Nat
  binding : Binding

def AuthChallenge.matches (challenge : AuthChallenge) (claim : ApprovalClaim) (now : Instant) :
    Bool :=
  challenge.challengeNo == claim.challengeNo && challenge.userId == claim.userId &&
    challenge.purpose == .highRisk claim.binding && challenge.verifiedAt.isSome &&
    challenge.consumedAt.isNone && decide (now.text < challenge.expiresAt)

/-- `stamp` is the text of the time of the database. -/
def consumeStepUpClaim [Writes authChallenges writes] (now : Instant) (stamp : String)
    (claim : ApprovalClaim) : AccountTx writes Unit := do
  let consumed ← query fun db =>
    ((db authChallenges).select fun _ row => row.matches claim now).length
  refuseIf (consumed ≠ 1) (refusedState "Step-up claim is invalid or consumed")
  updateWhere authChallenges (fun _ row => row.matches claim now)
    fun row => { row with consumedAt := some stamp }

/-! ## Sessions and accounts -/

def revokeSessions [Writes authSessions writes] (now : Instant) (userId : Nat) :
    AccountTx writes Unit :=
  updateWhere authSessions (fun _ row => row.userId == userId && row.revokedAt.isNone)
    fun row => { row with revokedAt := some now.text }

def logoutCommand (now : Instant) (access : Access) : AccountTx [authSessions] JsonObject := do
  updateWhere authSessions
    (fun id row => id == access.sessionId && row.userId == access.userId && row.revokedAt.isNone)
    fun row => { row with revokedAt := some now.text }
  return [("success", .boolean true)]

/-- The version of a user without one becomes `first`. -/
def incrementUserVersion [Writes resourceVersions writes] (userId : Nat) (first : Nat := 1) :
    AccountTx writes Unit := do
  let known ← query fun db => (db resourceVersions).any fun _ row => row.userId == userId
  if known = true then
    updateWhere resourceVersions (fun _ row => row.userId == userId)
      fun row => { row with version := row.version + 1 }
  else insertRow resourceVersions { userId, version := first }

def lockedUser (db : AccountStore) (userId : Nat) : Except CommandError User :=
  match (db users).find? userId with
  | none => .error ⟨404, "NOT_FOUND", "User not found", status_404⟩
  | some user =>
      if user.name = "" ∨ user.email = "" ∨ user.role = "" then .error usersUnavailable
      else .ok user

def accountResult (userId : Nat) (status : AccountStatus) : JsonObject :=
  [("success", .boolean true), ("userId", .number (Number.ofNat userId)),
    ("accountStatus", .text status.text)]

def sessionsRevoked : JsonObject := [("activeSessionsRevoked", .boolean true)]

/-- The credential of the user gets a new count of failures, at zero. -/
def resetCredential [Writes authCredentials writes] (userId : Nat)
    (change : Credential → Credential) : AccountTx writes Unit := do
  let changed ← query fun db => (db authCredentials).any fun _ row => row.userId == userId
  refuseIf (changed = false) usersUnavailable
  updateWhere authCredentials (fun _ row => row.userId == userId)
    fun row => { change row with failedAttempts := 0, lockedAt := none }

/-- The status moves, unless it is not what was read. -/
def moveStatus [Writes users writes] (userId : Nat) (held : AccountStatus → Bool)
    (status : AccountStatus) (refusal : String) : AccountTx writes Unit := do
  updateRow users userId (fun row => held row.accountStatus)
    (fun row => { row with accountStatus := status }) (versionRefused refusal)

/-- `salt` is the random salt of the password. -/
def createUserCommand (env : Environment) (user : User) (password salt : String) :
    AccountTx [users, authCredentials, resourceVersions] JsonObject := do
  let existing ← query fun db => (db users).any fun _ row => row.email == user.email
  refuseIf (existing = true) (refusedState "An account with this email already exists")
  let userId ← insertInto users user
  let _ ← insertUnique authCredentials (fun row => row.userId == userId)
    { userId, passwordHash := env.pbkdf2 password salt, passwordSalt := salt, failedAttempts := 0
      lockedAt := none } internalServerError
  incrementUserVersion userId
  return accountResult userId .active ++ [("roleCode", .text user.role)]

def resetPasswordCommand (env : Environment) (now : Instant) (userId : Nat) (newPassword salt : String) :
    AccountTx [authCredentials, authSessions, resourceVersions] JsonObject := do
  let read ← query fun db => lockedUser db userId
  let target ← ofExcept read
  resetCredential userId fun row =>
    { row with passwordHash := env.pbkdf2 newPassword salt, passwordSalt := salt }
  revokeSessions now userId
  incrementUserVersion userId
  return accountResult userId target.accountStatus ++ sessionsRevoked

def disableCommand (now : Instant) (userId : Nat) :
    AccountTx [users, authSessions, resourceVersions] JsonObject := do
  let read ← query fun db => lockedUser db userId
  let target ← ofExcept read
  refuseIf (target.accountStatus = .disabled) (versionRefused "User is already disabled")
  moveStatus userId (fun status => status != .disabled) .disabled "User state changed"
  revokeSessions now userId
  incrementUserVersion userId
  return accountResult userId .disabled ++ sessionsRevoked

/-- The count of failures stays as it is. -/
def restoreCommand (userId : Nat) : AccountTx [users, resourceVersions] JsonObject := do
  let read ← query fun db => lockedUser db userId
  let target ← ofExcept read
  refuseIf (target.accountStatus ≠ .disabled) (versionRefused "Only disabled users can be restored")
  moveStatus userId (fun status => status == .disabled) .active "User state changed"
  incrementUserVersion userId
  return accountResult userId .active

def unlockCommand (now : Instant) (userId : Nat) :
    AccountTx [users, authCredentials, authSessions, resourceVersions] JsonObject := do
  let read ← query fun db => lockedUser db userId
  let target ← ofExcept read
  refuseIf (target.accountStatus ≠ .locked) (versionRefused "User is no longer locked")
  moveStatus userId (fun status => status == .locked) .active "User state changed"
  resetCredential userId fun row => row
  revokeSessions now userId
  incrementUserVersion userId 2
  return accountResult userId .active

end SupplyChain.Accounts
