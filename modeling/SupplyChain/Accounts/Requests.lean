import SupplyChain.Accounts
import SupplyChain.Commands.Outcomes
import SupplyChain.Relational.Runs

/-!
The routes of the accounts over the executor, and the accounts as a system: a
request is one unit of work, a one-time code is compared in a step of its own,
and in between anything else may happen to the rows of the executor.
-/

namespace SupplyChain.Accounts

open Relational Transaction Json Calendar
open Commands (CommandError JsonObject Header Options Response ResponseStatus Ending
  commandIdempotencyKey executeIdempotentCommand internalServerError commitOf Handled)

abbrev AccountDatabase := Commands.Database AccountStore

/-! ## Routes -/

inductive PlatformCommandName
  | authLogin | authLogout | authVerify | stepUpRequest | stepUpVerify
  | usersCreate | usersResetPassword | usersDisable | usersRestore | usersUnlock
  deriving DecidableEq

def PlatformCommandName.text : PlatformCommandName → String
  | .authLogin => "auth.login"
  | .authLogout => "auth.logout"
  | .authVerify => "auth.verify"
  | .stepUpRequest => "step-up.request"
  | .stepUpVerify => "step-up.verify"
  | .usersCreate => "users.create"
  | .usersResetPassword => "users.reset-password"
  | .usersDisable => "users.disable"
  | .usersRestore => "users.restore"
  | .usersUnlock => "users.unlock"

/-- `COMMAND_WRITER_RESOURCES`. -/
def PlatformCommandName.resource : PlatformCommandName → String
  | .authLogin | .authLogout | .authVerify | .stepUpRequest | .stepUpVerify => "auth.commands"
  | .usersCreate | .usersResetPassword | .usersDisable | .usersRestore | .usersUnlock =>
      "users.commands"

/-- The options of `executeCommand`; `run` is given the idempotency key. -/
def executeCommand {writes : List AccountTable} (command : PlatformCommandName)
    (actorScope : String) (caller : Caller) (payload : Value) (responseStatus : ResponseStatus)
    (run : String → AccountTx writes JsonObject) : Options AccountStore where
  actorScope := actorScope
  command := command.text
  fenceResource := command.resource
  missingIdempotencyKeyIsInvalid := false
  payload := payload
  idempotencyKey := caller.idempotencyKey
  requestDigest := caller.requestDigest
  responseStatus := responseStatus
  run := fun idempotencyKey _ db =>
    ((run idempotencyKey).run db).map fun committed => (committed.value, committed.store)
  validateResponseStatus := false
  verifyOnlyStringDigestHeaders := false

/-- What a route hands to the executor, and what it answers then. -/
structure Route where
  options : Options AccountStore
  answer : JsonObject → Except CommandError Unit

def member (result : JsonObject) (name : String) : Option Value :=
  (result.find? fun entry => entry.1 == name).map (·.2)

def isTrue : Option Value → Bool
  | some (.boolean value) => value
  | _ => false

def optionalText (name : String) : Option String → List (String × Value)
  | none => []
  | some value => [(name, .text value)]

structure LoginRequest where
  body : LoginBody
  caller : Caller

def loginAccount (env : Environment) (body : LoginBody) : String :=
  env.toLowerCase (trim body.account)

def loginPayload (env : Environment) (body : LoginBody) : Value :=
  .object ([("account", .text (loginAccount env body)), ("password", .text body.password),
    ("deviceId", .text body.deviceId)] ++ optionalText "deviceName" body.deviceName)

/-- A counted failure is committed first and refused then, also when it is
replayed. -/
def loginAnswer (result : JsonObject) : Except CommandError Unit :=
  match member result "locked" with
  | none => .ok ()
  | some locked => .error (if isTrue (some locked) then accountLocked else invalidLogin)

def loginRoute (env : Environment) (now : Instant) (request : LoginRequest) :
    Except CommandError Route := do
  let key ← signingKey env
  let account := loginAccount env request.body
  let idempotencyKey ← commandIdempotencyKey request.caller.idempotencyKey false
  let token := deriveSessionToken env key "auth.login" (env.sha256 account) idempotencyKey
  return {
    options := executeCommand .authLogin ("account:" ++ env.sha256 account) request.caller
      (loginPayload env request.body) (.fixed 200)
      (loginCommand env key account now request.body request.caller token)
    answer := loginAnswer }

structure VerifyRequest where
  body : VerifyBody
  caller : Caller

/-- The comparison of the code, before the unit of work. -/
def compareCode (env : Environment) (db : AccountStore) (request : VerifyRequest) :
    Except CommandError Bool := do
  let initial ← readLoginChallenge db request.body.challengeNo
  return decide (codeDigest env request.body.challengeNo request.body.code = initial.2.codeHash)

def verifyPayload (body : VerifyBody) : Value :=
  .object ([("challengeNo", .text body.challengeNo), ("code", .text body.code)] ++
    optionalText "deviceName" body.deviceName)

def verifyRoute (env : Environment) (now : Instant) (request : VerifyRequest) (valid : Bool) :
    Except CommandError Route := do
  let key ← signingKey env
  let idempotencyKey ← commandIdempotencyKey request.caller.idempotencyKey false
  let token := deriveSessionToken env key "auth.verify" (env.sha256 request.body.challengeNo)
    idempotencyKey
  return {
    options := executeCommand .authVerify ("challenge:" ++ env.sha256 request.body.challengeNo)
      request.caller (verifyPayload request.body) (.fixed 200)
      fun _ => verifyCommand env now request.body valid token
    answer := fun result =>
      if isTrue (member result "authenticated") then .ok () else .error wrongCode }

def userScope (access : Access) : String := "user:" ++ toString access.userId

def logoutRoute (now : Instant) (access : Access) (caller : Caller) : Route where
  options := executeCommand .authLogout (userScope access) caller (.object []) .standard
    fun _ => logoutCommand now access
  answer := fun _ => .ok ()

structure StepUpRequest where
  body : StepUpRequestBody
  caller : Caller

def stepUpPayload (body : StepUpRequestBody) : Value :=
  .object [("action", .text body.action), ("objectType", .text body.objectType),
    ("objectId", .text body.objectId), ("objectVersion", .number (Number.ofNat body.objectVersion)),
    ("requestDigest", .text body.requestDigest)]

def stepUpRequestRoute (env : Environment) (now : Instant) (access : Access)
    (request : StepUpRequest) : Except CommandError Route := do
  let key ← signingKey env
  return {
    options := executeCommand .stepUpRequest (userScope access) request.caller
      (stepUpPayload request.body) (.fixed 201)
      fun idempotencyKey => stepUpRequestCommand env key now access request.body idempotencyKey
    answer := fun _ => .ok () }

structure StepUpVerifyRequest where
  body : StepUpVerifyBody
  caller : Caller

def compareStepUpCode (env : Environment) (db : AccountStore) (access : Access)
    (request : StepUpVerifyRequest) : Except CommandError Bool := do
  let initial ← readStepUpChallenge db access request.body.challengeNo
  if initial.2.codeHash = "" then throw unavailable
  return decide (codeDigest env request.body.challengeNo request.body.code = initial.2.codeHash)

def stepUpVerifyRoute (now : Instant) (access : Access) (request : StepUpVerifyRequest)
    (valid : Bool) : Route where
  options := executeCommand .stepUpVerify (userScope access) request.caller
    (.object [("challengeNo", .text request.body.challengeNo), ("code", .text request.body.code)])
    (.fixed 200) fun _ => stepUpVerifyCommand now access request.body valid
  answer := fun result => if isTrue (member result "verified") then .ok () else .error wrongCode

/-! ### Administration -/

/-- A user is named by the address: one `@` between texts without white space,
and a dot inside the second. -/
def isEmail (email : String) : Bool :=
  match email.toList.splitOn '@' with
  | [name, domain] =>
      !name.isEmpty && !name.any isWhiteSpace && !domain.any isWhiteSpace &&
        (domain.drop 1).dropLast.contains '.'
  | _ => false

def isMobile (mobile : String) : Bool :=
  mobile.toList.length == 11 && mobile.toList.head? == some '1' && mobile.toList.all Char.isDigit

def internalRoleCodes : List String := ["supply_chain", "finance", "company_qc", "receiver"]

/-- `requireManagedPassword`. -/
def isManagedPassword (password : String) : Bool :=
  let chars := password.toList
  decide (12 ≤ textLength password ∧ textLength password ≤ 128) &&
    chars.any (fun c => 'A' ≤ c && c ≤ 'Z') && chars.any (fun c => 'a' ≤ c && c ≤ 'z') &&
    chars.any Char.isDigit && chars.any (fun c => !Commands.isAlphanumeric c)

structure CreateUserBody where
  email : String
  initialPassword : String
  mobile : String
  name : String
  organizationName : String
  roleCode : String

def refuseInput (bad : Prop) [Decidable bad] (message : String) : Except CommandError Unit :=
  if bad then .error (Commands.badRequest message) else .ok ()

def managedUser (env : Environment) (body : CreateUserBody) : Except CommandError User := do
  let email := env.toLowerCase (trim body.email)
  refuseInput (isEmail email = false) "Email is invalid"
  refuseInput (isMobile (trim body.mobile) = false) "Mobile is invalid"
  refuseInput (trim body.name = "") "Name is required"
  refuseInput (trim body.organizationName = "") "Organization is required"
  refuseInput (internalRoleCodes.contains (trim body.roleCode) = false)
    "Role is not available for internal account creation"
  return { email, mobile := trim body.mobile, name := trim body.name, role := trim body.roleCode
           accountStatus := .active }

def passwordIdempotencyProof (env : Environment) (password : String) (command : PlatformCommandName)
    (idempotencyKey : String) : String :=
  env.pbkdf2 password
    (env.sha256 ("topology:" ++ command.text ++ ":password-idempotency:" ++ idempotencyKey))

def createUserRoute (env : Environment) (access : Access) (body : CreateUserBody) (salt : String)
    (caller : Caller) : Except CommandError Route := do
  let user ← managedUser env body
  refuseInput (isManagedPassword body.initialPassword = false)
    "Password does not meet the password policy"
  let idempotencyKey ← commandIdempotencyKey caller.idempotencyKey false
  return {
    options := executeCommand .usersCreate (userScope access) caller
      (.object [("email", .text user.email), ("mobile", .text user.mobile), ("name", .text user.name),
        ("organizationName", .text (trim body.organizationName)),
        ("passwordProof", .text
          (passwordIdempotencyProof env body.initialPassword .usersCreate idempotencyKey)),
        ("roleCode", .text user.role)])
      (.fixed 201) fun _ => createUserCommand env user body.initialPassword salt
    answer := fun _ => .ok () }

def resetPasswordRoute (env : Environment) (now : Instant) (access : Access) (userId : Nat)
    (newPassword salt : String) (caller : Caller) : Except CommandError Route := do
  refuseInput (isManagedPassword newPassword = false) "Password does not meet the password policy"
  let idempotencyKey ← commandIdempotencyKey caller.idempotencyKey false
  return {
    options := executeCommand .usersResetPassword (userScope access) caller
      (.object [("passwordProof", .text
          (passwordIdempotencyProof env newPassword .usersResetPassword idempotencyKey)),
        ("userId", .number (Number.ofNat userId))])
      .standard fun _ => resetPasswordCommand env now userId newPassword salt
    answer := fun _ => .ok () }

/-- The commands whose whole payload is the body of the request. -/
def accountRoute {writes : List AccountTable} (command : PlatformCommandName) (access : Access)
    (caller : Caller) (payload : List (String × Value)) (run : AccountTx writes JsonObject) :
    Route where
  options := executeCommand command (userScope access) caller (.object payload) .standard
    fun _ => run
  answer := fun _ => .ok ()

def disableRoute (now : Instant) (access : Access) (userId : Nat) (caller : Caller) : Route :=
  accountRoute .usersDisable access caller [("userId", .number (Number.ofNat userId))]
    (disableCommand now userId)

def restoreRoute (access : Access) (userId : Nat) (caller : Caller) : Route :=
  accountRoute .usersRestore access caller [("userId", .number (Number.ofNat userId))]
    (restoreCommand userId)

def unlockRoute (now : Instant) (access : Access) (userId : Nat) (caller : Caller) : Route :=
  accountRoute .usersUnlock access caller
    [("userId", .number (Number.ofNat userId)), ("action", .text "unlock")]
    (unlockCommand now userId)

/-! ## Requests -/

/-- A request that goes through the executor; the two verifications carry what
was read before. -/
inductive AccountCommand
  | login (request : LoginRequest)
  | verify (request : VerifyRequest) (valid : Bool)
  | logout (access : Access) (caller : Caller)
  | requestStepUp (access : Access) (request : StepUpRequest)
  | verifyStepUp (access : Access) (request : StepUpVerifyRequest) (valid : Bool)
  | createUser (access : Access) (body : CreateUserBody) (salt : String) (caller : Caller)
  | resetPassword (access : Access) (userId : Nat) (newPassword salt : String) (caller : Caller)
  | disable (access : Access) (userId : Nat) (caller : Caller)
  | restore (access : Access) (userId : Nat) (caller : Caller)
  | unlock (access : Access) (userId : Nat) (caller : Caller)

def route (env : Environment) (now : Instant) : AccountCommand → Except CommandError Route
  | .login request => loginRoute env now request
  | .verify request valid => verifyRoute env now request valid
  | .logout access caller => .ok (logoutRoute now access caller)
  | .requestStepUp access request => stepUpRequestRoute env now access request
  | .verifyStepUp access request valid => .ok (stepUpVerifyRoute now access request valid)
  | .createUser access body salt caller => createUserRoute env access body salt caller
  | .resetPassword access userId newPassword salt caller =>
      resetPasswordRoute env now access userId newPassword salt caller
  | .disable access userId caller => .ok (disableRoute now access userId caller)
  | .restore access userId caller => .ok (restoreRoute access userId caller)
  | .unlock access userId caller => .ok (unlockRoute now access userId caller)

/-- The answer to a request, and the database after it. -/
def serve (env : Environment) (now : Instant) (command : AccountCommand) (ending : Ending)
    (db : AccountDatabase) : Except CommandError Response × AccountDatabase :=
  match route env now command with
  | .error error => (.error error, db)
  | .ok route =>
      let handled := executeIdempotentCommand env.sha256 route.options ending db
      (do
        let response ← handled.1
        route.answer response.result
        return response, handled.2)

/-- The result that a request commits, if its command is run. -/
def commits (env : Environment) (now : Instant) (command : AccountCommand) (ending : Ending)
    (db : AccountDatabase) : Option JsonObject :=
  match route env now command with
  | .error _ => none
  | .ok route => (commitOf env.sha256 route.options ending db).map fun commit => commit.2.result

/-! ## The system -/

/-- A verification between its comparison and its unit of work. -/
inductive Reading
  | login (request : VerifyRequest) (valid : Bool)
  | stepUp (access : Access) (request : StepUpVerifyRequest) (valid : Bool)

structure System where
  db : AccountDatabase
  readings : List Reading

/-- The comparison that the unit of work of a verification follows. -/
def AccountCommand.follows : AccountCommand → Option Reading
  | .verify request valid => some (.login request valid)
  | .verifyStepUp access request valid => some (.stepUp access request valid)
  | _ => none

/-- A reading is taken by one unit of work. -/
inductive Takes : Option Reading → List Reading → List Reading → Prop
  | nothing {readings : List Reading} : Takes none readings readings
  | one {reading : Reading} {before after : List Reading} :
      Takes (some reading) (before ++ reading :: after) (before ++ after)

/-- What happens: a request was served and committed a result or nothing, a
code was compared, another command consumed a step-up claim, or something else
wrote rows of the executor, of the outbox or of the versions. -/
inductive Event
  | served (now : Instant) (command : AccountCommand) (result : Option JsonObject)
  | compared (reading : Reading)
  | consumed (now : Instant) (claim : ApprovalClaim)
  | elsewhere

inductive Step (env : Environment) : System → Event → System → Prop
  | served {s : System} {readings : List Reading} (now : Instant) (command : AccountCommand)
      (ending : Ending) (taken : Takes command.follows s.readings readings) :
      Step env s (.served now command (commits env now command ending s.db))
        ⟨(serve env now command ending s.db).2, readings⟩
  | comparedLogin {s : System} {request : VerifyRequest} {valid : Bool}
      (read : compareCode env s.db.state request = .ok valid) :
      Step env s (.compared (.login request valid)) ⟨s.db, .login request valid :: s.readings⟩
  | comparedStepUp {s : System} {access : Access} {request : StepUpVerifyRequest} {valid : Bool}
      (read : compareStepUpCode env s.db.state access request = .ok valid) :
      Step env s (.compared (.stepUp access request valid))
        ⟨s.db, .stepUp access request valid :: s.readings⟩
  | consumed {s : System} {db : AccountDatabase} {now : Instant} {stamp : String}
      {claim : ApprovalClaim}
      (returns : (consumeStepUpClaim now stamp claim :
        AccountTx [.authChallenges] Unit).Returns s.db.state () [] db.state) :
      Step env s (.consumed now claim) ⟨db, s.readings⟩
  | elsewhere {s : System} {db : AccountDatabase}
      (own : ∀ t, t ≠ AccountTable.outboxMessages → t ≠ AccountTable.resourceVersions → db.state t = s.db.state t) :
      Step env s .elsewhere ⟨db, s.readings⟩

/-! ## Notes of a run -/

/-- The system, and what is noted of its run. -/
structure Noted (Note : Type) where
  system : System
  note : Note

/-- A step, and what is noted of its event. -/
def NotedStep {Note : Type} (env : Environment) (write : System → Event → Note → Note) (a : Noted Note)
    (event : Event) (b : Noted Note) : Prop :=
  Step env a.system event b.system ∧ b.note = write a.system event a.note

/-! ## Replays -/

/-- A request, the comparison of the code of a login, or the unit of work of
the verification that was compared last. -/
inductive Act
  | serve (now : Instant) (command : AccountCommand) (ending : Ending)
  | compare (request : VerifyRequest)
  | verify (now : Instant) (ending : Ending)

def act (env : Environment) (s : System) : Act → Option (Event × System)
  | .serve now command ending =>
      match command.follows with
      | some _ => none
      | none => some (.served now command (commits env now command ending s.db),
          ⟨(serve env now command ending s.db).2, s.readings⟩)
  | .compare request =>
      match compareCode env s.db.state request with
      | .error _ => none
      | .ok valid => some (.compared (.login request valid),
          ⟨s.db, .login request valid :: s.readings⟩)
  | .verify now ending =>
      match s.readings with
      | .login request valid :: rest =>
          some (.served now (.verify request valid)
              (commits env now (.verify request valid) ending s.db),
            ⟨(serve env now (.verify request valid) ending s.db).2, rest⟩)
      | _ => none

/-- A replay stops where a step is not allowed. -/
def replay {Note : Type} (env : Environment) (write : System → Event → Note → Note)
    (allows : Noted Note → Event → Bool) : List Act → Noted Note → Option (List Event × Noted Note)
  | [], a => some ([], a)
  | first :: rest, a =>
      match act env a.system first with
      | none => none
      | some (event, mid) =>
          if allows a event then
            (replay env write allows rest ⟨mid, write a.system event a.note⟩).map
              fun later => (event :: later.1, later.2)
          else none

theorem act_step {env : Environment} {s s' : System} {event : Event} {here : Act}
    (acts : act env s here = some (event, s')) : Step env s event s' := by
  cases here with
  | serve now command ending =>
      unfold act at acts
      cases follows : command.follows with
      | some reading => simp [follows] at acts
      | none =>
          simp only [follows, Option.some.injEq, Prod.mk.injEq] at acts
          obtain ⟨rfl, rfl⟩ := acts
          apply Step.served
          rw [follows]
          exact Takes.nothing
  | compare request =>
      unfold act at acts
      cases read : compareCode env s.db.state request with
      | error error => simp [read] at acts
      | ok valid =>
          simp only [read, Option.some.injEq, Prod.mk.injEq] at acts
          obtain ⟨rfl, rfl⟩ := acts
          exact Step.comparedLogin read
  | verify now ending =>
      obtain ⟨db, readings⟩ := s
      cases readings with
      | nil => cases acts
      | cons reading rest =>
          cases reading with
          | login request valid =>
              cases acts
              exact Step.served (s := ⟨db, .login request valid :: rest⟩) now (.verify request valid)
                ending (@Takes.one _ [] _)
          | stepUp access request valid => cases acts

section Replays

variable {Note : Type} {env : Environment} {write : System → Event → Note → Note}
  {allows : Noted Note → Event → Bool} {acts : List Act} {a b : Noted Note} {events : List Event}

theorem replay_run (replayed : replay env write allows acts a = some (events, b)) :
    Run (fun a event b => NotedStep env write a event b ∧ allows a event = true) a events b := by
  induction acts generalizing a events with
  | nil =>
      cases replayed
      exact Run.done
  | cons first rest ih =>
      unfold replay at replayed
      cases here : act env a.system first with
      | none => simp [here] at replayed
      | some outcome =>
          obtain ⟨event, mid⟩ := outcome
          simp only [here] at replayed
          by_cases allowed : allows a event = true
          · simp only [allowed, if_true, Option.map_eq_some_iff, Prod.mk.injEq] at replayed
            obtain ⟨later, after, rfl, rfl⟩ := replayed
            exact Run.next ⟨⟨act_step here, rfl⟩, allowed⟩ (ih after)
          · simp [allowed] at replayed

theorem replay_reaches (env : Environment) (write : System → Event → Note → Note)
    (allows : Noted Note → Event → Bool) (acts : List Act) (a : Noted Note)
    (seen : List Event → Noted Note → Bool)
    (passes : (replay env write allows acts a).any (fun r => seen r.1 r.2) = true) :
    ∃ events b, Run (fun a event b => NotedStep env write a event b ∧ allows a event = true)
      a events b ∧ seen events b = true := by
  obtain ⟨⟨events, b⟩, replayed, holds⟩ := (Option.any_eq_true _ _).mp passes
  exact ⟨events, b, replay_run replayed, holds⟩

/-- The same with nothing noted and every step allowed. -/
theorem replay_ends (env : Environment) (acts : List Act) (s : System)
    (seen : List Event → System → Bool)
    (passes : (replay env (fun _ _ _ => ()) (fun _ _ => true) acts ⟨s, ()⟩).any
      (fun r => seen r.1 r.2.system) = true) :
    ∃ events s', Run (Step env) s events s' ∧ seen events s' = true := by
  obtain ⟨events, b, run, holds⟩ := replay_reaches env (fun _ _ _ => ()) (fun _ _ => true) acts
    ⟨s, ()⟩ (fun events b => seen events b.system) passes
  exact ⟨events, b.system, Run.read Noted.system (run.imp fun step => step.1.1), holds⟩

end Replays

/-! ### One account -/

/-- Digests that keep the text; codes are fixed and shown. -/
def shown : Environment where
  sessionSigningKey := some "0123456789abcdef0123456789abcdef"
  fixedOtpCode := some "123456"
  otpSealing := true
  isPreview := true
  sha256 := fun text => text
  hmac := fun _ text => text.toList.reverse.map fun c => UInt8.ofNat c.toNat
  pbkdf2 := fun password salt => password ++ salt
  toLowerCase := String.toLower

def zeroSalt : String := "00000000000000000000000000000000"

/-- One user with the status, and the count of failures. -/
def accountStore (status : AccountStatus) (failedAttempts : Nat) : AccountStore :=
  (Store.put (fun _ => Table.empty) AccountTable.users (Table.empty.insert
    { email := "a@b.c", mobile := "13800000000", name := "A", role := "finance"
      accountStatus := status })).put AccountTable.authCredentials (Table.empty.insert
    { userId := 1, passwordHash := "right" ++ zeroSalt, passwordSalt := zeroSalt, failedAttempts
      lockedAt := none })

/-- Both fences of the accounts are open. -/
def openFences : Table Commands.WriterFence :=
  (Table.empty.insert ⟨"auth.commands", Commands.writerOwner, true, 2⟩).insert
    ⟨"users.commands", Commands.writerOwner, true, 2⟩

def accountSystem (status : AccountStatus) (failedAttempts : Nat) : System where
  db := { commandIdempotency := Table.empty, writerFences := openFences
          state := accountStore status failedAttempts }
  readings := []

theorem thousand_ne_zero : 1000 ≠ 0 := by decide

instance thousand : NeZero 1000 := ⟨thousand_ne_zero⟩

theorem minute_fourDigits (count : Fin 1000) :
    (epoch + (1790000000000 + count * 60000)) / dayLength < lastDay := by
  have bound := count.isLt
  have last : lastDay = 3652425 := by decide
  unfold dayLength epoch dayLength
  omega

/-- A time of the year 2026, in minutes. -/
def minute (count : Fin 1000) : Instant where
  time := 1790000000000 + count * 60000
  fourDigits := minute_fourDigits count

def callerWith (idempotencyKey : String) : Caller where
  ipAddress := none
  region := none
  idempotencyKey := .text idempotencyKey
  requestDigest := .absent

/-- A login from the one device, with a key of its own. -/
def loginWith (password idempotencyKey : String) : LoginRequest where
  body := { account := "a@b.c", password, deviceId := "device-1", deviceName := none }
  caller := callerWith idempotencyKey

/-- The code of a challenge, with a key of its own. -/
def verifyWith (challengeNo code idempotencyKey : String) : VerifyRequest where
  body := { challengeNo, code, deviceName := none }
  caller := callerWith idempotencyKey

/-- The number of the challenge that a key leads to. -/
def challengeOf (idempotencyKey : String) : String :=
  deriveChallengeNumber shown "OTP" "0123456789abcdef0123456789abcdef" (loginPrincipal 1)
    idempotencyKey

end SupplyChain.Accounts
