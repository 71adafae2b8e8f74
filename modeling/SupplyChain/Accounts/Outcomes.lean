import SupplyChain.Accounts.Requests

/-!
What each command on the accounts did when it committed, table by table.
-/

namespace SupplyChain.Accounts

open Relational Transaction Json Calendar AccountTable
open Commands (CommandError JsonObject Header Options Response ResponseStatus Ending
  commandIdempotencyKey executeIdempotentCommand internalServerError commitOf Handled)

variable {env : Environment} {now : Instant} {db db' : AccountStore} {result : JsonObject}
  {sent : List Empty} {writes : List AccountTable} {α : Type} {a : α}

/-! ## The statements of the commands -/

@[simp]
theorem returns_bind_insertSession [Writes authSessions writes] {userId : Nat}
    {token deviceId : String} {ipAddress region : Option String} {f : String → AccountTx writes α} :
    (insertSession env now userId token deviceId ipAddress region >>= f).Returns db a sent db' ↔
      ((db authSessions).any fun _ row => row.tokenHash == env.sha256 token) = false ∧
        (f (after now SESSION_SECONDS)).Returns
          (db.put authSessions ((db authSessions).insert
            { userId, tokenHash := env.sha256 token, deviceId, ipAddress, region
              expiresAt := after now SESSION_SECONDS, revokedAt := none })) a sent db' := by
  simp [returns_bind, insertSession, and_assoc]

@[simp]
theorem returns_bind_insertChallenge [Writes authChallenges writes] {row : AuthChallenge}
    {f : Unit → AccountTx writes α} :
    (insertChallenge row >>= f).Returns db a sent db' ↔
      ((db authChallenges).any fun _ other => other.challengeNo == row.challengeNo) = false ∧
        (f ()).Returns (db.put authChallenges ((db authChallenges).insert row)) a sent db' := by
  simp [returns_bind, insertChallenge, @Unique.exists_iff Unit]

theorem returns_bind_sendCode [Writes outboxMessages writes] {challengeNo : String}
    {f : Unit → AccountTx writes α}
    (returns : (sendCode env challengeNo >>= f).Returns db a sent db') :
    ∃ mid, (∀ t, t ≠ outboxMessages → mid t = db t) ∧ (f ()).Returns mid a sent db' := by
  obtain ⟨_, first, mid, rest, told, later, rfl⟩ := returns_bind.mp returns
  have silent : first = [] := by cases first with
    | nil => rfl
    | cons message => exact message.elim
  refine ⟨mid, ?_, by rw [silent, List.nil_append]; exact later⟩
  intro t other
  unfold sendCode at told
  rcases returns_ite.mp told with ⟨-, quiet⟩ | ⟨-, texted⟩
  · rw [(returns_pure.mp quiet).2.2]
  · obtain ⟨-, queued⟩ := returns_bind_refuseIf.mp texted
    unfold enqueueOutbox at queued
    rw [returns_bind_insertUnique, returns_pure] at queued
    rw [queued.2.2.2, Store.put_other _ _ other]

@[simp]
theorem returns_bind_resetCredential [Writes authCredentials writes] {userId : Nat}
    {change : Credential → Credential} {f : Unit → AccountTx writes α} :
    (resetCredential userId change >>= f).Returns db a sent db' ↔
      (∃ id row, (db authCredentials).find? id = some row ∧ row.userId = userId) ∧
        (f ()).Returns
          (db.put authCredentials ((db authCredentials).update (fun _ row => row.userId == userId)
            fun row => { change row with failedAttempts := 0, lockedAt := none })) a sent db' := by
  simp [returns_bind, resetCredential, Table.any_eq_true, @Unique.exists_iff Unit]

@[simp]
theorem returns_bind_moveStatus [Writes users writes] {userId : Nat} {held : AccountStatus → Bool}
    {status : AccountStatus} {refusal : String} {f : Unit → AccountTx writes α} :
    (moveStatus userId held status refusal >>= f).Returns db a sent db' ↔
      (∃ row, (db users).find? userId = some row ∧ held row.accountStatus = true) ∧
        (f ()).Returns
          (db.put users ((db users).modify userId fun row => { row with accountStatus := status }))
          a sent db' :=
  returns_bind_updateRow

/-- The sessions of a user after all of them are revoked. -/
def revokedSessions (sessions : Table AuthSession) (now : Instant) (userId : Nat) :
    Table AuthSession :=
  sessions.update (fun _ row => row.userId == userId && row.revokedAt.isNone)
    fun row => { row with revokedAt := some now.text }

@[simp]
theorem returns_bind_revokeSessions [Writes authSessions writes] {userId : Nat}
    {f : Unit → AccountTx writes α} :
    (revokeSessions now userId >>= f).Returns db a sent db' ↔
      (f ()).Returns (db.put authSessions (revokedSessions (db authSessions) now userId)) a sent db' :=
  returns_bind_updateWhere

/-- The versions after `incrementUserVersion`. -/
def incrementedVersions (versions : Table UserVersion) (userId first : Nat) : Table UserVersion :=
  if versions.any fun _ row => row.userId == userId then
    versions.update (fun _ row => row.userId == userId) fun row => { row with version := row.version + 1 }
  else versions.insert { userId, version := first }

@[simp]
theorem returns_bind_incrementUserVersion [Writes resourceVersions writes] {userId first : Nat}
    {f : Unit → AccountTx writes α} :
    (incrementUserVersion userId first >>= f).Returns db a sent db' ↔
      (f ()).Returns
        (db.put resourceVersions (incrementedVersions (db resourceVersions) userId first))
        a sent db' := by
  by_cases known : ((db resourceVersions).any fun _ row => row.userId == userId) = true
  · simp [returns_bind, incrementUserVersion, incrementedVersions, known, @Unique.exists_iff Unit]
  · simp only [Bool.not_eq_true] at known
    simp [returns_bind, incrementUserVersion, incrementedVersions, known, @Unique.exists_iff Unit]

/-- The devices after one is trusted. -/
def trustedDevicesWith (devices : Table TrustedDevice) (row : TrustedDevice) : Table TrustedDevice :=
  if devices.any fun _ other => other.userId == row.userId && other.deviceId == row.deviceId then
    devices.update (fun _ other => other.userId == row.userId && other.deviceId == row.deviceId)
      fun _ => row
  else devices.insert row

@[simp]
theorem returns_bind_trustDevice [Writes trustedDevices writes] {row : TrustedDevice}
    {f : Unit → AccountTx writes α} :
    (trustDevice row >>= f).Returns db a sent db' ↔
      (f ()).Returns
        (db.put trustedDevices (trustedDevicesWith (db trustedDevices) row)) a sent db' := by
  by_cases known : ((db trustedDevices).any fun _ other =>
      other.userId == row.userId && other.deviceId == row.deviceId) = true
  · simp [returns_bind, trustDevice, trustedDevicesWith, known, @Unique.exists_iff Unit]
  · simp only [Bool.not_eq_true] at known
    simp [returns_bind, trustDevice, trustedDevicesWith, known, @Unique.exists_iff Unit]

/-! ## Login -/

/-- The number of failures after another one. -/
def nextAttempts (current : UserCredential) : Nat :=
  min (current.credential.failedAttempts + 1) MAX_ATTEMPTS

/-- The credential after another failure. -/
def failedCredential (now : Instant) (current : UserCredential) (row : Credential) : Credential :=
  { row with
    failedAttempts := nextAttempts current
    lockedAt := if MAX_ATTEMPTS ≤ nextAttempts current then some now.text else row.lockedAt }

/-- What a committed login did: it counted a failure, it opened a session from
a trusted device, or it requested a one-time code. -/
inductive LoggedIn (env : Environment) (key account : String) (now : Instant) (body : LoginBody)
    (caller : Caller) (token idempotencyKey : String) (db : AccountStore) :
    JsonObject → AccountStore → Prop
  | rejected {current : UserCredential} {hash : String} {db' : AccountStore}
      (read : readCredential db account = .ok current)
      (hashed : passwordHash env body.password current.credential.passwordSalt = .ok hash)
      (wrong : hash ≠ current.credential.passwordHash)
      (counted : db' authCredentials = (db authCredentials).modify current.credentialId
        (failedCredential now current))
      (locked : db' users = if MAX_ATTEMPTS ≤ nextAttempts current then
        (db users).update (fun id row => id == current.userId && row.accountStatus == .active)
          fun row => { row with accountStatus := .locked } else db users)
      (others : ∀ t, t ≠ authCredentials → t ≠ users → db' t = db t) :
      LoggedIn env key account now body caller token idempotencyKey db
        [("authenticated", .boolean false),
          ("locked", .boolean (decide (MAX_ATTEMPTS ≤ nextAttempts current)))] db'
  | entered {current : UserCredential} {device : Nat × TrustedDevice} {db' : AccountStore}
      (read : readCredential db account = .ok current)
      (right : passwordHash env body.password current.credential.passwordSalt =
        .ok current.credential.passwordHash)
      (active : current.user.accountStatus = .active)
      (trusted : trustedDevice db now current.userId body.deviceId caller.region = some device)
      (reset : db' authCredentials = (db authCredentials).update
        (fun id row => id == current.credentialId && decide (row.failedAttempts < MAX_ATTEMPTS))
        fun row => { row with failedAttempts := 0, lockedAt := none })
      (opened : db' authSessions = (db authSessions).insert
        { userId := current.userId, tokenHash := env.sha256 token, deviceId := body.deviceId
          ipAddress := caller.ipAddress, region := caller.region
          expiresAt := after now SESSION_SECONDS, revokedAt := none })
      (used : db' trustedDevices = (db trustedDevices).modify device.1 fun row =>
        { row with lastIpAddress := caller.ipAddress, lastRegion := caller.region })
      (others : ∀ t, t ≠ authCredentials → t ≠ authSessions → t ≠ trustedDevices → db' t = db t) :
      LoggedIn env key account now body caller token idempotencyKey db
        [("authenticated", .boolean true), ("expiresAt", .text (after now SESSION_SECONDS))] db'
  | requested {current : UserCredential} {db' : AccountStore}
      (read : readCredential db account = .ok current)
      (right : passwordHash env body.password current.credential.passwordSalt =
        .ok current.credential.passwordHash)
      (active : current.user.accountStatus = .active)
      (reset : db' authCredentials = (db authCredentials).update
        (fun id row => id == current.credentialId && decide (row.failedAttempts < MAX_ATTEMPTS))
        fun row => { row with failedAttempts := 0, lockedAt := none })
      (fresh : ((db authChallenges).any fun _ other => other.challengeNo ==
        (loginChallenge env key now current.userId body.deviceId caller idempotencyKey).challengeNo) =
          false)
      (issued : db' authChallenges = (db authChallenges).insert
        (loginChallenge env key now current.userId body.deviceId caller idempotencyKey))
      (others : ∀ t, t ≠ authCredentials → t ≠ authChallenges → t ≠ outboxMessages → db' t = db t) :
      LoggedIn env key account now body caller token idempotencyKey db
        ([("authenticated", .boolean false),
          ("challengeNo", .text (deriveChallengeNumber env "OTP" key (loginPrincipal current.userId)
            idempotencyKey)),
          ("maskedMobile", .text (maskMobile current.user.mobile))] ++
          previewed env (otpCode env key "auth.login" (loginPrincipal current.userId) idempotencyKey))
        db'

theorem rejectPassword_returns {current : UserCredential} [Writes authCredentials writes]
    [Writes users writes]
    (returns : (rejectPassword now current : AccountTx writes JsonObject).Returns db result sent db') :
    result = [("authenticated", .boolean false),
        ("locked", .boolean (decide (MAX_ATTEMPTS ≤ nextAttempts current)))] ∧
      db' authCredentials = (db authCredentials).modify current.credentialId (failedCredential now current) ∧
      (db' users = if MAX_ATTEMPTS ≤ nextAttempts current then
        (db users).update (fun id row => id == current.userId && row.accountStatus == .active)
          fun row => { row with accountStatus := .locked } else db users) ∧
      ∀ t, t ≠ authCredentials → t ≠ users → db' t = db t := by
  unfold rejectPassword at returns
  rw [returns_bind_updateWhere] at returns
  obtain ⟨_, _, mid, _, locks, finish, -⟩ := returns_bind.mp returns
  obtain ⟨rfl, -, rfl⟩ := returns_pure.mp finish
  refine ⟨rfl, ?_⟩
  rcases returns_whenever.mp locks with ⟨limit, locked⟩ | ⟨limit, -, rfl⟩
  · obtain ⟨-, rfl⟩ := returns_updateWhere.mp locked
    refine ⟨?_, ?_, ?_⟩
    · rw [Store.put_other _ _ (by decide), Store.put_same, Table.update_key]
      rfl
    · rw [Store.put_same, Store.put_other _ _ (by decide), nextAttempts, if_pos limit]
    · intro t credentials accounts
      rw [Store.put_other _ _ accounts, Store.put_other _ _ credentials]
  · refine ⟨?_, ?_, ?_⟩
    · rw [Store.put_same, Table.update_key]
      rfl
    · rw [Store.put_other _ _ (by decide), nextAttempts, if_neg limit]
    · intro t credentials accounts
      rw [Store.put_other _ _ credentials]

theorem loginCommand_returns {key account token idempotencyKey : String} {body : LoginBody}
    {caller : Caller}
    (returns : (loginCommand env key account now body caller token idempotencyKey).Returns
      db result sent db') :
    LoggedIn env key account now body caller token idempotencyKey db result db' := by
  unfold loginCommand at returns
  rw [returns_bind_query, returns_bind_ofExcept] at returns
  obtain ⟨current, read, returns⟩ := returns
  rw [returns_bind_ofExcept] at returns
  obtain ⟨hash, hashed, returns⟩ := returns
  rcases returns_ite.mp returns with ⟨wrong, rejects⟩ | ⟨same, accepts⟩
  · obtain ⟨rfl, counted, locked, others⟩ := rejectPassword_returns rejects
    exact LoggedIn.rejected read hashed wrong counted locked others
  · rw [not_not] at same
    subst same
    unfold acceptPassword at accepts
    rw [returns_bind_refuseIf, not_not, returns_bind_updateWhere, returns_bind_query] at accepts
    obtain ⟨active, admits⟩ := accepts
    -- the update of the credential leaves the devices
    have devices : ∀ table, trustedDevice (db.put authCredentials table) now current.userId
        body.deviceId caller.region =
          trustedDevice db now current.userId body.deviceId caller.region := fun table => by
      simp [trustedDevice]
    rw [devices] at admits
    cases trusted : trustedDevice db now current.userId body.deviceId caller.region with
    | some device =>
        rw [trusted] at admits
        simp only [admitLogin, openSession, returns_bind_insertSession, returns_bind_updateWhere,
          returns_pure] at admits
        obtain ⟨-, rfl, -, rfl⟩ := admits
        refine LoggedIn.entered read hashed active trusted (by simp) (by simp) (by simp) ?_
        intro t credentials sessions devices
        rw [Store.put_other _ _ devices, Store.put_other _ _ sessions,
          Store.put_other _ _ credentials]
    | none =>
        rw [trusted] at admits
        simp only [admitLogin, requestCode, returns_bind_refuseIf, returns_bind_insertChallenge] at admits
        obtain ⟨-, fresh, admits⟩ := admits
        obtain ⟨mid, kept, admits⟩ := returns_bind_sendCode admits
        obtain ⟨rfl, -, rfl⟩ := returns_pure.mp admits
        refine LoggedIn.requested read hashed active ?_ (by simpa using fresh) ?_ ?_
        · rw [kept _ (by decide)]
          simp
        · rw [kept _ (by decide)]
          simp
        · intro t credentials challenges outbox
          rw [kept t outbox, Store.put_other _ _ challenges, Store.put_other _ _ credentials]

/-! ## One-time codes -/

theorem readLoginChallenge_ok {challengeNo : String} {challenge : Nat × AuthChallenge}
    (read : readLoginChallenge db challengeNo = .ok challenge) :
    (db authChallenges).find? challenge.1 = some challenge.2 ∧
      challenge.2.challengeNo = challengeNo ∧ challenge.2.purpose = .login := by
  unfold readLoginChallenge at read
  split at read
  · cases read
  · rename_i found first
    split at read
    · cases read
    · cases read
      obtain ⟨here, own⟩ := Table.first?_some first
      simp only [Bool.and_eq_true, beq_iff_eq] at own
      exact ⟨here, own⟩

/-- What a committed verification of a login did: it counted a wrong code, or
it accepted a right one. -/
inductive CodeVerified (env : Environment) (now : Instant) (body : VerifyBody) (valid : Bool)
    (token : String) (db : AccountStore) : JsonObject → AccountStore → Prop
  | wrong {challenge : Nat × AuthChallenge} {db' : AccountStore}
      (read : readLoginChallenge db body.challengeNo = .ok challenge) (invalid : valid = false)
      (live : challenge.2.verifiedAt = none ∧ now.text < challenge.2.expiresAt)
      (below : challenge.2.attempts < MAX_ATTEMPTS)
      (counted : db' authChallenges = (db authChallenges).modify challenge.1 fun row =>
        { row with attempts := row.attempts + 1 })
      (others : ∀ t, t ≠ authChallenges → db' t = db t) :
      CodeVerified env now body valid token db [("authenticated", .boolean false)] db'
  | right {challenge : Nat × AuthChallenge} {db' : AccountStore} {more : JsonObject}
      (read : readLoginChallenge db body.challengeNo = .ok challenge) (matched : valid = true)
      (live : challenge.2.verifiedAt = none ∧ now.text < challenge.2.expiresAt)
      (below : challenge.2.attempts < MAX_ATTEMPTS)
      (spent : db' authChallenges = (db authChallenges).modify challenge.1 fun row =>
        { row with verifiedAt := some now.text, consumedAt := some now.text })
      (trusted : db' trustedDevices = trustedDevicesWith (db trustedDevices)
        { userId := challenge.2.userId, deviceId := challenge.2.deviceId
          deviceName := body.deviceName.getD "", lastIpAddress := challenge.2.ipAddress
          lastRegion := challenge.2.region, trustedUntil := after now (TRUSTED_DEVICE_DAYS * 86400)
          revokedAt := none })
      (opened : db' authSessions = (db authSessions).insert
        { userId := challenge.2.userId, tokenHash := env.sha256 token
          deviceId := challenge.2.deviceId, ipAddress := challenge.2.ipAddress
          region := challenge.2.region, expiresAt := after now SESSION_SECONDS, revokedAt := none })
      (others : ∀ t, t ≠ authChallenges → t ≠ trustedDevices → t ≠ authSessions → db' t = db t) :
      CodeVerified env now body valid token db (("authenticated", .boolean true) :: more) db'

theorem countWrongCode_eq {challenges : Table AuthChallenge} {challenge : Nat × AuthChallenge}
    (found : challenges.find? challenge.1 = some challenge.2)
    (live : challenge.2.verifiedAt = none) (below : challenge.2.attempts < MAX_ATTEMPTS) :
    challenges.update
        (fun key row => key == challenge.1 && row.verifiedAt.isNone && decide (row.attempts < MAX_ATTEMPTS))
        (fun row => { row with attempts := row.attempts + 1 }) =
      challenges.modify challenge.1 fun row => { row with attempts := row.attempts + 1 } := by
  have guarded := Table.update_guarded found
    (fun row => row.verifiedAt.isNone && decide (row.attempts < MAX_ATTEMPTS))
    (by simp [live, below]) fun row => { row with attempts := row.attempts + 1 }
  simpa only [Bool.and_assoc] using guarded

theorem verifyCommand_returns {body : VerifyBody} {valid : Bool} {token : String}
    (returns : (verifyCommand env now body valid token).Returns db result sent db') :
    CodeVerified env now body valid token db result db' := by
  unfold verifyCommand at returns
  rw [returns_bind_query, returns_bind_ofExcept] at returns
  obtain ⟨challenge, read, returns⟩ := returns
  rw [returns_bind_refuseIf, returns_bind_refuseIf, not_or, not_not, String.not_le, not_le] at returns
  obtain ⟨live, below, returns⟩ := returns
  rcases returns_ite.mp returns with ⟨invalid, counts⟩ | ⟨right, accepts⟩
  · unfold countWrongCode at counts
    rw [returns_bind_updateWhere, returns_pure] at counts
    obtain ⟨rfl, -, rfl⟩ := counts
    refine CodeVerified.wrong read invalid live below ?_ ?_
    · rw [Store.put_same, countWrongCode_eq (readLoginChallenge_ok read).1 live.1 below]
    · intro t other
      rw [Store.put_other _ _ other]
  · rw [Bool.not_eq_false] at right
    simp only [acceptCode, returns_bind_updateRow, returns_bind_trustDevice,
      returns_bind_insertSession, returns_pure] at accepts
    obtain ⟨-, -, rfl, -, rfl⟩ := accepts
    refine CodeVerified.right read right live below (by simp) (by simp) (by simp) ?_
    intro t challenges devices sessions
    rw [Store.put_other _ _ sessions, Store.put_other _ _ devices, Store.put_other _ _ challenges]

theorem readStepUpChallenge_ok {access : Access} {challengeNo : String}
    {challenge : Nat × AuthChallenge}
    (read : readStepUpChallenge db access challengeNo = .ok challenge) :
    (db authChallenges).find? challenge.1 = some challenge.2 ∧
      challenge.2.challengeNo = challengeNo ∧ challenge.2.userId = access.userId ∧
      ∃ binding, challenge.2.purpose = .highRisk binding ∧ binding.sessionId = access.sessionId := by
  unfold readStepUpChallenge at read
  split at read
  · cases read
  · rename_i found first
    split at read
    · rename_i own
      cases read
      obtain ⟨here, named⟩ := Table.first?_some first
      simp only [Bool.and_eq_true, beq_iff_eq] at named
      cases purpose : challenge.2.purpose with
      | login => simp [AuthChallenge.of, purpose] at own
      | highRisk binding =>
          simp only [AuthChallenge.of, purpose, Bool.and_eq_true, beq_iff_eq] at own
          exact ⟨here, named.1, own.1, binding, rfl, own.2⟩
    · cases read

/-- What a committed verification of a high-risk action did. -/
inductive StepUpVerified (now : Instant) (access : Access) (body : StepUpVerifyBody) (valid : Bool)
    (db : AccountStore) : JsonObject → AccountStore → Prop
  | wrong {challenge : Nat × AuthChallenge} {db' : AccountStore}
      (read : readStepUpChallenge db access body.challengeNo = .ok challenge)
      (invalid : valid = false)
      (live : challenge.2.verifiedAt = none ∧ now.text < challenge.2.expiresAt)
      (below : challenge.2.attempts < MAX_ATTEMPTS)
      (counted : db' authChallenges = (db authChallenges).modify challenge.1 fun row =>
        { row with attempts := row.attempts + 1 })
      (others : ∀ t, t ≠ authChallenges → db' t = db t) :
      StepUpVerified now access body valid db [("verified", .boolean false)] db'
  | right {challenge : Nat × AuthChallenge} {db' : AccountStore}
      (read : readStepUpChallenge db access body.challengeNo = .ok challenge)
      (matched : valid = true)
      (live : challenge.2.verifiedAt = none ∧ now.text < challenge.2.expiresAt)
      (below : challenge.2.attempts < MAX_ATTEMPTS)
      (spent : db' authChallenges = (db authChallenges).modify challenge.1 fun row =>
        { row with verifiedAt := some now.text })
      (others : ∀ t, t ≠ authChallenges → db' t = db t) :
      StepUpVerified now access body valid db
        [("verified", .boolean true), ("challengeNo", .text body.challengeNo)] db'

theorem stepUpVerifyCommand_returns {access : Access} {body : StepUpVerifyBody} {valid : Bool}
    (returns : (stepUpVerifyCommand now access body valid).Returns db result sent db') :
    StepUpVerified now access body valid db result db' := by
  unfold stepUpVerifyCommand at returns
  rw [returns_bind_query, returns_bind_ofExcept] at returns
  obtain ⟨challenge, read, returns⟩ := returns
  rw [returns_bind_refuseIf, returns_bind_refuseIf, not_or, not_not, String.not_le, not_lt] at returns
  obtain ⟨live, limit, returns⟩ := returns
  have below : challenge.2.attempts < MAX_ATTEMPTS := limit
  rcases returns_ite.mp returns with ⟨invalid, counts⟩ | ⟨right, accepts⟩
  · unfold countWrongCode at counts
    rw [returns_bind_updateWhere, returns_pure] at counts
    obtain ⟨rfl, -, rfl⟩ := counts
    refine StepUpVerified.wrong read invalid live below ?_ ?_
    · rw [Store.put_same, countWrongCode_eq (readStepUpChallenge_ok read).1 live.1 below]
    · intro t other
      rw [Store.put_other _ _ other]
  · rw [Bool.not_eq_false] at right
    rw [returns_bind_updateRow, returns_pure] at accepts
    obtain ⟨-, rfl, -, rfl⟩ := accepts
    refine StepUpVerified.right read right live below (by simp) ?_
    intro t other
    rw [Store.put_other _ _ other]

/-- What a committed request of a code for a high-risk action did. -/
structure StepUpRequested (env : Environment) (key : String) (now : Instant) (access : Access)
    (body : StepUpRequestBody) (idempotencyKey : String) (db db' : AccountStore) : Prop where
  fresh : ((db authChallenges).any fun _ other => other.challengeNo ==
    (stepUpChallenge env key now access body idempotencyKey).challengeNo) = false
  issued : db' authChallenges =
    (db authChallenges).insert (stepUpChallenge env key now access body idempotencyKey)
  others : ∀ t, t ≠ authChallenges → t ≠ outboxMessages → db' t = db t

theorem stepUpRequestCommand_returns {key : String} {access : Access} {body : StepUpRequestBody}
    {idempotencyKey : String}
    (returns : (stepUpRequestCommand env key now access body idempotencyKey).Returns
      db result sent db') :
    StepUpRequested env key now access body idempotencyKey db db' ∧
      member result "challengeNo" =
        some (.text (stepUpChallenge env key now access body idempotencyKey).challengeNo) := by
  unfold stepUpRequestCommand at returns
  rw [returns_bind_query, returns_bind_orThrow] at returns
  obtain ⟨mobile, -, returns⟩ := returns
  simp only [returns_bind_refuseIf, returns_bind_insertChallenge] at returns
  obtain ⟨-, fresh, returns⟩ := returns
  obtain ⟨mid, kept, returns⟩ := returns_bind_sendCode returns
  obtain ⟨rfl, -, rfl⟩ := returns_pure.mp returns
  refine ⟨⟨fresh, by rw [kept _ (by decide), Store.put_same], ?_⟩, rfl⟩
  intro t challenges outbox
  rw [kept t outbox, Store.put_other _ _ challenges]

theorem consumeStepUpClaim_returns {stamp : String} {claim : ApprovalClaim}
    [Writes authChallenges writes]
    (returns : (consumeStepUpClaim now stamp claim : AccountTx writes Unit).Returns db () sent db') :
    ((db authChallenges).select fun _ row => row.matches claim now).length = 1 ∧
      db' = db.put authChallenges ((db authChallenges).update
        (fun _ row => row.matches claim now) fun row => { row with consumedAt := some stamp }) := by
  unfold consumeStepUpClaim at returns
  rw [returns_bind_query, returns_bind_refuseIf, not_not, returns_updateWhere] at returns
  exact ⟨returns.1, returns.2.2⟩

/-! ## Sessions and accounts -/

theorem logoutCommand_returns {access : Access}
    (returns : (logoutCommand now access).Returns db result sent db') :
    db' authSessions = (db authSessions).update
        (fun id row => id == access.sessionId && row.userId == access.userId && row.revokedAt.isNone)
        (fun row => { row with revokedAt := some now.text }) ∧
      ∀ t, t ≠ authSessions → db' t = db t := by
  unfold logoutCommand at returns
  rw [returns_bind_updateWhere, returns_pure] at returns
  obtain ⟨-, -, rfl⟩ := returns
  refine ⟨Store.put_same _ _ _, ?_⟩
  intro t other
  rw [Store.put_other _ _ other]

theorem createUserCommand_returns {user : User} {password salt : String}
    (returns : (createUserCommand env user password salt).Returns db result sent db') :
    ((db users).any fun _ row => row.email == user.email) = false ∧
      db' users = (db users).insert user ∧
      db' authCredentials = (db authCredentials).insert
        { userId := (db users).nextId, passwordHash := env.pbkdf2 password salt
          passwordSalt := salt, failedAttempts := 0, lockedAt := none } ∧
      ∀ t, t ≠ users → t ≠ authCredentials → t ≠ resourceVersions → db' t = db t := by
  simp only [createUserCommand, returns_bind_query, returns_bind_refuseIf,
    returns_bind_insertInto, returns_bind_insertUnique, returns_bind_incrementUserVersion,
    returns_pure, Bool.not_eq_true] at returns
  obtain ⟨fresh, -, -, -, rfl⟩ := returns
  refine ⟨fresh, by simp, by simp, ?_⟩
  intro t accounts credentials versions
  rw [Store.put_other _ _ versions, Store.put_other _ _ credentials, Store.put_other _ _ accounts]

/-- The credentials of a user with the count of failures at zero. -/
def clearedCredentials (credentials : Table Credential) (userId : Nat)
    (change : Credential → Credential) : Table Credential :=
  credentials.update (fun _ row => row.userId == userId)
    fun row => { change row with failedAttempts := 0, lockedAt := none }

theorem resetPasswordCommand_returns {userId : Nat} {newPassword salt : String}
    (returns : (resetPasswordCommand env now userId newPassword salt).Returns db result sent db') :
    (db' authCredentials = clearedCredentials (db authCredentials) userId fun row =>
        { row with passwordHash := env.pbkdf2 newPassword salt, passwordSalt := salt }) ∧
      db' authSessions = revokedSessions (db authSessions) now userId ∧
      ∀ t, t ≠ authCredentials → t ≠ authSessions → t ≠ resourceVersions → db' t = db t := by
  simp only [resetPasswordCommand, returns_bind_query, returns_bind_ofExcept,
    returns_bind_resetCredential, returns_bind_revokeSessions, returns_bind_incrementUserVersion,
    returns_pure] at returns
  obtain ⟨_, -, -, -, -, rfl⟩ := returns
  refine ⟨by simp [clearedCredentials], by simp, ?_⟩
  intro t credentials sessions versions
  rw [Store.put_other _ _ versions, Store.put_other _ _ sessions, Store.put_other _ _ credentials]

theorem disableCommand_returns {userId : Nat}
    (returns : (disableCommand now userId).Returns db result sent db') :
    db' users = (db users).modify userId (fun row => { row with accountStatus := .disabled }) ∧
      db' authSessions = revokedSessions (db authSessions) now userId ∧
      ∀ t, t ≠ users → t ≠ authSessions → t ≠ resourceVersions → db' t = db t := by
  simp only [disableCommand, returns_bind_query, returns_bind_ofExcept, returns_bind_refuseIf,
    returns_bind_moveStatus, returns_bind_revokeSessions, returns_bind_incrementUserVersion,
    returns_pure] at returns
  obtain ⟨_, -, -, -, -, -, rfl⟩ := returns
  refine ⟨by simp, by simp, ?_⟩
  intro t accounts sessions versions
  rw [Store.put_other _ _ versions, Store.put_other _ _ sessions, Store.put_other _ _ accounts]

theorem restoreCommand_returns {userId : Nat}
    (returns : (restoreCommand userId).Returns db result sent db') :
    (∃ row, (db users).find? userId = some row ∧ row.accountStatus = .disabled) ∧
      db' users = (db users).modify userId (fun row => { row with accountStatus := .active }) ∧
      ∀ t, t ≠ users → t ≠ resourceVersions → db' t = db t := by
  simp only [restoreCommand, returns_bind_query, returns_bind_ofExcept, returns_bind_refuseIf,
    returns_bind_moveStatus, returns_bind_incrementUserVersion, returns_pure, beq_iff_eq] at returns
  obtain ⟨_, -, -, held, -, -, rfl⟩ := returns
  refine ⟨held, by simp, ?_⟩
  intro t accounts versions
  rw [Store.put_other _ _ versions, Store.put_other _ _ accounts]

theorem unlockCommand_returns {userId : Nat}
    (returns : (unlockCommand now userId).Returns db result sent db') :
    (∃ row, (db users).find? userId = some row ∧ row.accountStatus = .locked) ∧
      db' users = (db users).modify userId (fun row => { row with accountStatus := .active }) ∧
      db' authCredentials = clearedCredentials (db authCredentials) userId (fun row => row) ∧
      db' authSessions = revokedSessions (db authSessions) now userId ∧
      ∀ t, t ≠ users → t ≠ authCredentials → t ≠ authSessions → t ≠ resourceVersions →
        db' t = db t := by
  simp only [unlockCommand, returns_bind_query, returns_bind_ofExcept, returns_bind_refuseIf,
    returns_bind_moveStatus, returns_bind_resetCredential, returns_bind_revokeSessions,
    returns_bind_incrementUserVersion, returns_pure, beq_iff_eq] at returns
  obtain ⟨_, -, -, held, -, -, -, rfl⟩ := returns
  refine ⟨held, by simp, by simp [clearedCredentials], by simp, ?_⟩
  intro t accounts credentials sessions versions
  rw [Store.put_other _ _ versions, Store.put_other _ _ sessions, Store.put_other _ _ credentials,
    Store.put_other _ _ accounts]

/-! ## Requests -/

/-- The account store before and after a request whose command was run. -/
inductive Ran (env : Environment) (now : Instant) (db : AccountStore) :
    AccountCommand → JsonObject → AccountStore → Prop
  | login {request : LoginRequest} {key idempotencyKey : String} {result : JsonObject}
      {db' : AccountStore} (keyed : signingKey env = .ok key)
      (named : commandIdempotencyKey request.caller.idempotencyKey false = .ok idempotencyKey)
      (did : LoggedIn env key (loginAccount env request.body) now request.body request.caller
        (deriveSessionToken env key "auth.login" (env.sha256 (loginAccount env request.body))
          idempotencyKey) idempotencyKey db result db') :
      Ran env now db (.login request) result db'
  | verify {request : VerifyRequest} {valid : Bool} {token : String} {result : JsonObject}
      {db' : AccountStore} (did : CodeVerified env now request.body valid token db result db') :
      Ran env now db (.verify request valid) result db'
  | logout {access : Access} {caller : Caller} {result : JsonObject} {db' : AccountStore}
      (sessions : db' authSessions = (db authSessions).update
        (fun id row => id == access.sessionId && row.userId == access.userId && row.revokedAt.isNone)
        fun row => { row with revokedAt := some now.text })
      (others : ∀ t, t ≠ authSessions → db' t = db t) :
      Ran env now db (.logout access caller) result db'
  | requestStepUp {access : Access} {request : StepUpRequest} {key idempotencyKey : String}
      {result : JsonObject} {db' : AccountStore} (keyed : signingKey env = .ok key)
      (did : StepUpRequested env key now access request.body idempotencyKey db db')
      (told : member result "challengeNo" = some (.text
        (stepUpChallenge env key now access request.body idempotencyKey).challengeNo)) :
      Ran env now db (.requestStepUp access request) result db'
  | verifyStepUp {access : Access} {request : StepUpVerifyRequest} {valid : Bool}
      {result : JsonObject} {db' : AccountStore}
      (did : StepUpVerified now access request.body valid db result db') :
      Ran env now db (.verifyStepUp access request valid) result db'
  | createUser {access : Access} {body : CreateUserBody} {salt : String} {caller : Caller}
      {user : User} {result : JsonObject} {db' : AccountStore}
      (managed : managedUser env body = .ok user)
      (fresh : ((db users).any fun _ row => row.email == user.email) = false)
      (account : db' users = (db users).insert user)
      (credential : db' authCredentials = (db authCredentials).insert
        { userId := (db users).nextId, passwordHash := env.pbkdf2 body.initialPassword salt
          passwordSalt := salt, failedAttempts := 0, lockedAt := none })
      (others : ∀ t, t ≠ users → t ≠ authCredentials → t ≠ resourceVersions → db' t = db t) :
      Ran env now db (.createUser access body salt caller) result db'
  | resetPassword {access : Access} {userId : Nat} {newPassword salt : String} {caller : Caller}
      {result : JsonObject} {db' : AccountStore}
      (cleared : db' authCredentials = clearedCredentials (db authCredentials) userId fun row =>
        { row with passwordHash := env.pbkdf2 newPassword salt, passwordSalt := salt })
      (revoked : db' authSessions = revokedSessions (db authSessions) now userId)
      (others : ∀ t, t ≠ authCredentials → t ≠ authSessions → t ≠ resourceVersions → db' t = db t) :
      Ran env now db (.resetPassword access userId newPassword salt caller) result db'
  | disable {access : Access} {userId : Nat} {caller : Caller} {result : JsonObject}
      {db' : AccountStore}
      (moved : db' users = (db users).modify userId fun row => { row with accountStatus := .disabled })
      (revoked : db' authSessions = revokedSessions (db authSessions) now userId)
      (others : ∀ t, t ≠ users → t ≠ authSessions → t ≠ resourceVersions → db' t = db t) :
      Ran env now db (.disable access userId caller) result db'
  | restore {access : Access} {userId : Nat} {caller : Caller} {result : JsonObject}
      {db' : AccountStore}
      (held : ∃ row, (db users).find? userId = some row ∧ row.accountStatus = .disabled)
      (moved : db' users = (db users).modify userId fun row => { row with accountStatus := .active })
      (others : ∀ t, t ≠ users → t ≠ resourceVersions → db' t = db t) :
      Ran env now db (.restore access userId caller) result db'
  | unlock {access : Access} {userId : Nat} {caller : Caller} {result : JsonObject}
      {db' : AccountStore}
      (held : ∃ row, (db users).find? userId = some row ∧ row.accountStatus = .locked)
      (moved : db' users = (db users).modify userId fun row => { row with accountStatus := .active })
      (cleared : db' authCredentials = clearedCredentials (db authCredentials) userId fun row => row)
      (revoked : db' authSessions = revokedSessions (db authSessions) now userId)
      (others : ∀ t, t ≠ users → t ≠ authCredentials → t ≠ authSessions → t ≠ resourceVersions →
        db' t = db t) :
      Ran env now db (.unlock access userId caller) result db'

theorem executeCommand_run {command : PlatformCommandName} {actorScope : String} {caller : Caller}
    {payload : Value} {responseStatus : ResponseStatus} {run : String → AccountTx writes JsonObject}
    {idempotencyKey requestDigest : String}
    (returned : (executeCommand command actorScope caller payload responseStatus run).run
      idempotencyKey requestDigest db = .ok (result, db')) :
    ∃ sent, (run idempotencyKey).Returns db result sent db' := by
  change ((run idempotencyKey).run db).map _ = .ok (result, db') at returned
  cases ran : (run idempotencyKey).run db with
  | error error => simp [ran, Except.map] at returned
  | ok committed =>
      simp only [ran, Except.map, Except.ok.injEq, Prod.mk.injEq] at returned
      obtain ⟨rfl, rfl⟩ := returned
      exact ⟨committed.sent, ran⟩

theorem checked_key {sha256 : String → String} {options : Options AccountStore}
    {idempotencyKey requestDigest : String}
    (passes : Commands.checked sha256 options = .ok (idempotencyKey, requestDigest)) :
    commandIdempotencyKey options.idempotencyKey options.missingIdempotencyKeyIsInvalid =
      .ok idempotencyKey := by
  unfold Commands.checked at passes
  cases named : commandIdempotencyKey options.idempotencyKey
      options.missingIdempotencyKeyIsInvalid with
  | error error => simp [named, bind, Except.bind] at passes
  | ok key =>
      cases digest : Commands.canonicalRequestDigest sha256 options.command options.payload with
      | error error => simp [named, digest, bind, Except.bind] at passes
      | ok text =>
          cases supplied : Commands.verifyClientDigest options.requestDigest text
              options.verifyOnlyStringDigestHeaders with
          | error error => simp [named, digest, supplied, bind, Except.bind] at passes
          | ok _ =>
              simp only [named, digest, supplied, bind, Except.bind, pure, Except.pure,
                Except.ok.injEq, Prod.mk.injEq] at passes
              rw [passes.1]

theorem bind_eq_ok {ε α β : Type} {x : Except ε α} {f : α → Except ε β} {b : β} :
    (x >>= f) = .ok b ↔ ∃ a, x = .ok a ∧ f a = .ok b := by
  cases x with
  | error error => simp [bind, Except.bind]
  | ok a => simp [bind, Except.bind]

theorem route_ran {command : AccountCommand} {r : Route} {idempotencyKey requestDigest : String}
    (routed : route env now command = .ok r)
    (passes : Commands.checked env.sha256 r.options = .ok (idempotencyKey, requestDigest))
    (returned : r.options.run idempotencyKey requestDigest db = .ok (result, db')) :
    Ran env now db command result db' := by
  have named := checked_key passes
  cases command with
  | login request =>
      obtain ⟨key, keyed, routed⟩ := bind_eq_ok.mp routed
      obtain ⟨idempotencyKey', named', routed⟩ := bind_eq_ok.mp routed
      cases routed
      obtain rfl : idempotencyKey' = idempotencyKey := Except.ok.inj (named'.symm.trans named)
      obtain ⟨_, returns⟩ := executeCommand_run returned
      exact Ran.login keyed named (loginCommand_returns returns)
  | verify request valid =>
      obtain ⟨key, keyed, routed⟩ := bind_eq_ok.mp routed
      obtain ⟨_, -, routed⟩ := bind_eq_ok.mp routed
      cases routed
      obtain ⟨_, returns⟩ := executeCommand_run returned
      exact Ran.verify (verifyCommand_returns returns)
  | logout access caller =>
      cases routed
      obtain ⟨_, returns⟩ := executeCommand_run returned
      obtain ⟨sessions, others⟩ := logoutCommand_returns returns
      exact Ran.logout sessions others
  | requestStepUp access request =>
      obtain ⟨key, keyed, routed⟩ := bind_eq_ok.mp routed
      cases routed
      obtain ⟨_, returns⟩ := executeCommand_run returned
      obtain ⟨did, told⟩ := stepUpRequestCommand_returns returns
      exact Ran.requestStepUp keyed did told
  | verifyStepUp access request valid =>
      cases routed
      obtain ⟨_, returns⟩ := executeCommand_run returned
      exact Ran.verifyStepUp (stepUpVerifyCommand_returns returns)
  | createUser access body salt caller =>
      obtain ⟨user, managed, routed⟩ := bind_eq_ok.mp routed
      obtain ⟨_, -, routed⟩ := bind_eq_ok.mp routed
      obtain ⟨_, -, routed⟩ := bind_eq_ok.mp routed
      cases routed
      obtain ⟨_, returns⟩ := executeCommand_run returned
      obtain ⟨fresh, account, credential, others⟩ := createUserCommand_returns returns
      exact Ran.createUser managed fresh account credential others
  | resetPassword access userId newPassword salt caller =>
      obtain ⟨_, -, routed⟩ := bind_eq_ok.mp routed
      obtain ⟨_, -, routed⟩ := bind_eq_ok.mp routed
      cases routed
      obtain ⟨_, returns⟩ := executeCommand_run returned
      obtain ⟨cleared, revoked, others⟩ := resetPasswordCommand_returns returns
      exact Ran.resetPassword cleared revoked others
  | disable access userId caller =>
      cases routed
      obtain ⟨_, returns⟩ := executeCommand_run returned
      obtain ⟨moved, revoked, others⟩ := disableCommand_returns returns
      exact Ran.disable moved revoked others
  | restore access userId caller =>
      cases routed
      obtain ⟨_, returns⟩ := executeCommand_run returned
      obtain ⟨held, moved, others⟩ := restoreCommand_returns returns
      exact Ran.restore held moved others
  | unlock access userId caller =>
      cases routed
      obtain ⟨_, returns⟩ := executeCommand_run returned
      obtain ⟨held, moved, cleared, revoked, others⟩ := unlockCommand_returns returns
      exact Ran.unlock held moved cleared revoked others

/-- A request commits nothing, or its command was run. -/
inductive Served (env : Environment) (now : Instant) (command : AccountCommand)
    (db : AccountDatabase) : Option JsonObject → AccountDatabase → Prop
  | idle : Served env now command db none db
  | ran {result : JsonObject} {db' : AccountDatabase}
      (did : Ran env now db.state command result db'.state) :
      Served env now command db (some result) db'

theorem serve_served (env : Environment) (now : Instant) (command : AccountCommand)
    (ending : Ending) (db : AccountDatabase) :
    Served env now command db (commits env now command ending db)
      (serve env now command ending db).2 := by
  unfold commits serve
  cases routed : route env now command with
  | error error => exact Served.idle
  | ok r =>
      have handled := Commands.executeIdempotentCommand_handled env.sha256 r.options ending db
      dsimp only
      generalize executeIdempotentCommand env.sha256 r.options ending db = answer at handled
      generalize commitOf env.sha256 r.options ending db = commit at handled
      obtain ⟨response, db'⟩ := answer
      cases handled with
      | refused => exact Served.idle
      | replayed => exact Served.idle
      | ran passes absent returned resolved => exact Served.ran (route_ran routed passes returned)
      | unreported passes absent returned resolved =>
          exact Served.ran (route_ran routed passes returned)

end SupplyChain.Accounts
