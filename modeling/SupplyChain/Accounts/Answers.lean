import SupplyChain.Accounts.Outcomes
import SupplyChain.Relational.Refusals

/-!
What the answer to a login says about the password. An account that is not
active refuses the right password in another way than it counts a wrong one, so
two logins that differ in the password are told apart unless something else
answers before the password is compared.
-/

namespace SupplyChain.Accounts

open Relational Transaction Json Calendar AccountTable
open Commands (CommandError JsonObject Header Options Response Outcome Ending Identity
  commandIdempotencyKey canonicalRequestDigest verifyClientDigest requireWriterFence unitOfWork
  runCommand internalServerError)

variable {env : Environment} {now : Instant} {request : LoginRequest} {ending : Ending}
  {db : AccountDatabase} {key idempotencyKey requestDigest : String}

/-! ## What the caller sees -/

structure Seen where
  statusCode : Nat
  error : Option (String × String)
  deriving DecidableEq

def Seen.ofError (error : CommandError) : Seen :=
  ⟨error.statusCode, some (error.code, error.message)⟩

def seen : Except CommandError Response → Seen
  | .ok response => ⟨response.statusCode, none⟩
  | .error error => Seen.ofError error

/-- What is seen of an outcome that was committed, or replayed. -/
def Seen.ofOutcome (outcome : Outcome) : Seen :=
  match loginAnswer outcome.result with
  | .ok _ => ⟨outcome.statusCode, none⟩
  | .error error => Seen.ofError error

def Seen.ofWork (work : Except CommandError Outcome) : Ending → Seen
  | .failed => Seen.ofError internalServerError
  | .answered =>
      match work with
      | .ok outcome => Seen.ofOutcome outcome
      | .error error => Seen.ofError error
  | .unanswered _ =>
      match work with
      | .ok _ => ⟨503, some ("COMMAND_OUTCOME_UNKNOWN",
          "Command outcome is unknown; retry only with the same idempotency key")⟩
      | .error error => Seen.ofError error

theorem Seen.ofWork_failed (work : Except CommandError Outcome) :
    Seen.ofWork work .failed = Seen.ofError internalServerError := rfl

/-! ## A login up to its unit of work -/

/-- What is checked before the digest. -/
def loginKey (env : Environment) (request : LoginRequest) : Except CommandError String := do
  let _ ← signingKey env
  commandIdempotencyKey request.caller.idempotencyKey false

def loginIdentity (env : Environment) (request : LoginRequest) (idempotencyKey : String) : Identity :=
  ⟨"auth.login", "account:" ++ env.sha256 (loginAccount env request.body), idempotencyKey⟩

def loginDigest (env : Environment) (body : LoginBody) : Except CommandError String :=
  canonicalRequestDigest env.sha256 "auth.login" (loginPayload env body)

/-- The digest of a request, if it is sent, is that of its body. -/
def DigestsItself (env : Environment) (request : LoginRequest) : Prop :=
  ∀ digest, loginDigest env request.body = .ok digest →
    verifyClientDigest request.caller.requestDigest digest false = .ok ()

def loginOptions (env : Environment) (key : String) (now : Instant) (request : LoginRequest)
    (idempotencyKey : String) : Options AccountStore :=
  executeCommand .authLogin ("account:" ++ env.sha256 (loginAccount env request.body))
    request.caller (loginPayload env request.body) (.fixed 200)
    (loginCommand env key (loginAccount env request.body) now request.body request.caller
      (deriveSessionToken env key "auth.login" (env.sha256 (loginAccount env request.body))
        idempotencyKey))

/-- What the unit of work of a login comes to. -/
def loginWork (env : Environment) (key : String) (now : Instant) (request : LoginRequest)
    (idempotencyKey digest : String) (db : AccountDatabase) : Except CommandError Outcome :=
  (unitOfWork (loginOptions env key now request idempotencyKey) idempotencyKey digest db).map (·.1)

theorem loginDigest_ok (env : Environment) (body : LoginBody) :
    ∃ digest, loginDigest env body = .ok digest := by
  cases name : body.deviceName with
  | none =>
      simp [loginDigest, canonicalRequestDigest, loginPayload, optionalText, name,
        Commands.canonicalJson, Commands.canonicalMembers, Value.isUndefined, bind, Except.bind,
        pure, Except.pure]
  | some deviceName =>
      simp [loginDigest, canonicalRequestDigest, loginPayload, optionalText, name,
        Commands.canonicalJson, Commands.canonicalMembers, Value.isUndefined, bind, Except.bind,
        pure, Except.pure]

theorem seen_refused {error : CommandError} (refused : loginKey env request = .error error) :
    seen (serve env now (.login request) ending db).1 = Seen.ofError error := by
  have routed : loginRoute env now request = .error error := by
    unfold loginKey at refused
    unfold loginRoute
    cases keyed : signingKey env with
    | error unkeyed =>
        rw [keyed] at refused
        cases refused
        rfl
    | ok key =>
        simp only [keyed, bind, Except.bind] at refused
        simp only [bind, Except.bind, refused]
  unfold serve
  simp only [route, routed]
  rfl

theorem seen_work {digest : String} (keyed : signingKey env = .ok key)
    (named : commandIdempotencyKey request.caller.idempotencyKey false = .ok idempotencyKey)
    (digested : loginDigest env request.body = .ok digest) (itself : DigestsItself env request) :
    seen (serve env now (.login request) ending db).1 =
      Seen.ofWork (loginWork env key now request idempotencyKey digest db) ending := by
  have routed : loginRoute env now request =
      .ok ⟨loginOptions env key now request idempotencyKey, loginAnswer⟩ := by
    simp only [loginRoute, keyed, named, bind, Except.bind, pure, Except.pure, loginOptions]
  have passes : Commands.checked env.sha256 (loginOptions env key now request idempotencyKey) =
      .ok (idempotencyKey, digest) := by
    have supplied := itself digest digested
    unfold loginDigest at digested
    simp only [Commands.checked, loginOptions, executeCommand, PlatformCommandName.text, named,
      digested, supplied, bind, Except.bind, pure, Except.pure]
  unfold serve loginWork
  simp only [route, routed, Commands.executeIdempotentCommand, passes]
  generalize unitOfWork (loginOptions env key now request idempotencyKey) idempotencyKey digest db =
    work
  cases work with
  | error error => cases ending <;> rfl
  | ok returned =>
      obtain ⟨outcome, db'⟩ := returned
      cases ending with
      | answered =>
          simp only [Commands.concluded, Except.map, bind, Except.bind, pure, Except.pure,
            Seen.ofWork, Seen.ofOutcome]
          cases loginAnswer outcome.result <;> rfl
      | failed => rfl
      | unanswered committed => rfl

/-! ## The unit of work for an account that is not active -/

/-- The stored credential is one that a password can be compared with. -/
def UserCredential.Usable (current : UserCredential) : Prop :=
  current.user.email ≠ "" ∧ current.credential.passwordHash ≠ "" ∧
    isSalt current.credential.passwordSalt = true

def UserCredential.IsPassword (env : Environment) (current : UserCredential) (password : String) :
    Prop :=
  env.pbkdf2 password current.credential.passwordSalt = current.credential.passwordHash

/-- What is committed for a wrong password. -/
def countedFailure (current : UserCredential) : JsonObject :=
  [("authenticated", .boolean false),
    ("locked", .boolean (decide (MAX_ATTEMPTS ≤ nextAttempts current)))]

def stateChanged : CommandError := refusedState "Account state changed"

theorem readCredential_usable {store : AccountStore} {account : String} {current : UserCredential}
    (row : credentialRow store account = some current) (usable : current.Usable) :
    readCredential store account = .ok current := by
  obtain ⟨email, hash, salt⟩ := usable
  have salted : current.credential.passwordSalt ≠ "" := by
    intro empty
    rw [empty] at salt
    cases salt
  simp [readCredential, row, email, hash, salted]

variable {store : AccountStore} {account token : String} {body : LoginBody} {caller : Caller}
  {current : UserCredential}

theorem login_unusable (row : credentialRow store account = some current)
    (unusable : ¬ current.Usable) :
    (loginCommand env key account now body caller token idempotencyKey).Fails store unavailable := by
  unfold loginCommand
  rw [fails_bind_query, fails_bind_ofExcept]
  by_cases incomplete : current.user.email = "" ∨ current.credential.passwordHash = "" ∨
      current.credential.passwordSalt = ""
  · left
    unfold readCredential
    simp only [row, incomplete, if_true]
  · right
    refine ⟨current, ?_, ?_⟩
    · unfold readCredential
      simp only [row, incomplete, if_false]
    · rw [fails_bind_ofExcept]
      left
      have unsalted : isSalt current.credential.passwordSalt = false := by
        rw [← Bool.not_eq_true]
        intro salted
        rw [not_or, not_or] at incomplete
        exact unusable ⟨incomplete.1, incomplete.2.1, salted⟩
      simp [passwordHash, unsalted]

theorem login_blocked (row : credentialRow store account = some current) (usable : current.Usable)
    (right : current.IsPassword env body.password) (blocked : current.user.accountStatus ≠ .active) :
    (loginCommand env key account now body caller token idempotencyKey).Fails store stateChanged := by
  unfold loginCommand
  rw [fails_bind_query, fails_bind_ofExcept]
  right
  refine ⟨current, readCredential_usable row usable, ?_⟩
  rw [fails_bind_ofExcept]
  right
  refine ⟨current.credential.passwordHash, ?_, ?_⟩
  · rw [passwordHash, if_pos usable.2.2, right]
  · rw [if_neg (not_not.mpr rfl)]
    unfold acceptPassword
    rw [fails_bind_refuseIf]
    exact Or.inl ⟨blocked, rfl⟩

theorem login_wrong (row : credentialRow store account = some current) (usable : current.Usable)
    (wrong : ¬ current.IsPassword env body.password) :
    ∃ store', (loginCommand env key account now body caller token idempotencyKey).Returns store
      (countedFailure current) [] store' := by
  have read := readCredential_usable row usable
  have hashed : passwordHash env body.password current.credential.passwordSalt =
      .ok (env.pbkdf2 body.password current.credential.passwordSalt) := if_pos usable.2.2
  unfold loginCommand
  simp only [returns_bind_query, returns_bind_ofExcept, read, hashed, Except.ok.injEq,
    exists_eq_left']
  unfold UserCredential.IsPassword at wrong
  simp only [ne_eq, wrong, not_false_eq_true, if_true]
  unfold rejectPassword
  simp only [returns_bind_updateWhere]
  by_cases limit : MAX_ATTEMPTS ≤ nextAttempts current
  · exact ⟨_, returns_bind.mpr ⟨(), [], _, [],
      returns_whenever.mpr (Or.inl ⟨limit, returns_updateWhere.mpr ⟨rfl, rfl⟩⟩),
      returns_pure.mpr ⟨rfl, rfl, rfl⟩, rfl⟩⟩
  · exact ⟨_, returns_bind.mpr ⟨(), [], _, [], returns_whenever.mpr (Or.inr ⟨limit, rfl, rfl⟩),
      returns_pure.mpr ⟨rfl, rfl, rfl⟩, rfl⟩⟩

/-! ## Two logins -/

/-- The unit of work does not get to the password: the request is refused, the
database fails, or another writer owns the accounts. -/
def Unasked (env : Environment) (request : LoginRequest) (ending : Ending) (db : AccountDatabase) :
    Prop :=
  (∃ error, loginKey env request = .error error) ∨ ending = .failed ∨
    ∃ error, requireWriterFence "auth.commands" db = .error error

/-- The two passwords are alike to the row of the key, or else to the stored
credential. -/
def PasswordsAlike (env : Environment) (db : AccountDatabase) (current : UserCredential)
    (first second : LoginRequest) : Prop :=
  ∀ idempotencyKey, loginKey env first = .ok idempotencyKey →
    match db.row (loginIdentity env first idempotencyKey) with
    | some row => loginDigest env first.body = .ok row.requestDigest ↔
        loginDigest env second.body = .ok row.requestDigest
    | none => current.Usable →
        (current.IsPassword env first.body.password ↔ current.IsPassword env second.body.password)

/-- Two logins that differ in nothing but the password, and the digest that
follows from it. -/
structure DifferInPassword (first second : LoginRequest) : Prop where
  body : second.body = { first.body with password := second.body.password }
  caller : second.caller = { first.caller with requestDigest := second.caller.requestDigest }

theorem loginKey_ok {request : LoginRequest} (named : loginKey env request = .ok idempotencyKey) :
    ∃ key, signingKey env = .ok key ∧
      commandIdempotencyKey request.caller.idempotencyKey false = .ok idempotencyKey := by
  obtain ⟨key, keyed, named⟩ := bind_eq_ok.mp named
  exact ⟨key, keyed, named⟩

theorem DifferInPassword.accounts {first second : LoginRequest}
    (differ : DifferInPassword first second) :
    loginAccount env second.body = loginAccount env first.body := by
  rw [differ.body]
  rfl

theorem DifferInPassword.named {first second : LoginRequest}
    (differ : DifferInPassword first second) :
    second.caller.idempotencyKey = first.caller.idempotencyKey := by
  rw [differ.caller]

/-! ### A key that was used before -/

def keyReused : Seen :=
  ⟨409, some ("IDEMPOTENCY_KEY_REUSED", "Idempotency key was used for another request")⟩

theorem replay_seen {options : Options AccountStore} {row : Commands.IdempotencyRow}
    (ends : ending ≠ .failed) : Seen.ofWork (Commands.replay options row) ending ≠ keyReused := by
  have told : ∀ outcome : Outcome, Seen.ofOutcome outcome ≠ keyReused := by
    intro outcome
    unfold Seen.ofOutcome loginAnswer
    cases member outcome.result "locked" with
    | none => simp [keyReused]
    | some locked =>
        by_cases locks : isTrue (some locked) = true
        · simp [locks, Seen.ofError, accountLocked, keyReused]
        · simp [locks, Seen.ofError, invalidLogin, unauthorized, keyReused]
  have thrown : ∀ error, Commands.replay options row = .error error →
      Seen.ofError error ≠ keyReused := by
    intro error answer
    unfold Commands.replay at answer
    cases status : row.status with
    | pending =>
        simp only [status, Except.error.injEq] at answer
        subst answer
        simp [Seen.ofError, keyReused]
    | unknown =>
        simp only [status, Except.error.injEq] at answer
        subst answer
        simp [Seen.ofError, Commands.outcomeUnknown, keyReused]
    | completed =>
        simp only [status] at answer
        unfold Commands.parseReplay at answer
        split at answer
        · cases answer
        · cases answer
          simp [Seen.ofError, Commands.outcomeUnknown, keyReused]
        · cases answer
          simp [Seen.ofError, Commands.outcomeUnknown, keyReused]
  cases answer : Commands.replay options row with
  | ok outcome =>
      cases ending with
      | answered => exact told outcome
      | failed => exact absurd rfl ends
      | unanswered committed => simp [Seen.ofWork, keyReused]
  | error error =>
      cases ending with
      | answered => exact thrown error answer
      | failed => exact absurd rfl ends
      | unanswered committed => exact thrown error answer

variable {first second : LoginRequest} {digest digest' : String}

theorem loginWork_used {row : Commands.IdempotencyRow}
    (opened : requireWriterFence "auth.commands" db = .ok ())
    (found : db.row (loginIdentity env request idempotencyKey) = some row) :
    loginWork env key now request idempotencyKey digest db =
      if row.requestDigest ≠ digest then
        .error ⟨409, "IDEMPOTENCY_KEY_REUSED", "Idempotency key was used for another request",
          by decide⟩
      else Commands.replay (loginOptions env key now request idempotencyKey) row := by
  unfold loginWork
  rw [Commands.unitOfWork_used opened found]
  by_cases same : row.requestDigest ≠ digest
  · rw [if_pos same, if_pos same]
    rfl
  · rw [if_neg same, if_neg same]
    cases Commands.replay (loginOptions env key now request idempotencyKey) row <;> rfl

theorem used_alike {row : Commands.IdempotencyRow}
    (opened : requireWriterFence "auth.commands" db = .ok ())
    (ends : ending ≠ .failed)
    (found : db.row (loginIdentity env first idempotencyKey) = some row)
    (foundSecond : db.row (loginIdentity env second idempotencyKey) = some row) :
    Seen.ofWork (loginWork env key now first idempotencyKey digest db) ending =
        Seen.ofWork (loginWork env key now second idempotencyKey digest' db) ending ↔
      (digest = row.requestDigest ↔ digest' = row.requestDigest) := by
  have reuse : ∀ bounds, Seen.ofWork (.error ⟨409, "IDEMPOTENCY_KEY_REUSED",
      "Idempotency key was used for another request", bounds⟩) ending = keyReused := by
    intro bounds
    cases ending with
    | failed => exact absurd rfl ends
    | _ => rfl
  rw [loginWork_used opened found, loginWork_used opened foundSecond]
  by_cases same : row.requestDigest = digest
  · by_cases same' : row.requestDigest = digest'
    · have replays := @Commands.replay_congr _ (loginOptions env key now first idempotencyKey)
        (loginOptions env key now second idempotencyKey) rfl row
      rw [if_neg (not_not.mpr same), if_neg (not_not.mpr same'), replays]
      exact iff_of_true rfl (iff_of_true same.symm same'.symm)
    · rw [if_neg (not_not.mpr same), if_pos same', reuse]
      exact iff_of_false (replay_seen ends) fun both => same' (both.mp same.symm).symm
  · by_cases same' : row.requestDigest = digest'
    · rw [if_pos same, if_neg (not_not.mpr same'), reuse]
      exact iff_of_false (replay_seen ends).symm fun both => same (both.mpr same'.symm).symm
    · rw [if_pos same, if_pos same']
      exact iff_of_true rfl (iff_of_false (Ne.symm same) (Ne.symm same'))

/-! ### A key that is new -/

theorem loginWork_thrown {error : CommandError}
    (opened : requireWriterFence "auth.commands" db = .ok ())
    (absent : db.row (loginIdentity env request idempotencyKey) = none)
    (fails : (loginCommand env key (loginAccount env request.body) now request.body request.caller
      (deriveSessionToken env key "auth.login" (env.sha256 (loginAccount env request.body))
        idempotencyKey) idempotencyKey).Fails db.state error) :
    loginWork env key now request idempotencyKey digest db = .error error := by
  have throws : (loginOptions env key now request idempotencyKey).run idempotencyKey digest
      db.state = .error error := by
    change Except.map _ ((loginCommand env key (loginAccount env request.body) now request.body
      request.caller (deriveSessionToken env key "auth.login"
        (env.sha256 (loginAccount env request.body)) idempotencyKey) idempotencyKey).run db.state) = _
    rw [fails]
    rfl
  unfold loginWork
  rw [Commands.unitOfWork_thrown opened absent throws]
  rfl

theorem loginWork_wrong (opened : requireWriterFence "auth.commands" db = .ok ())
    (absent : db.row (loginIdentity env request idempotencyKey) = none)
    (row : credentialRow db.state (loginAccount env request.body) = some current)
    (usable : current.Usable) (wrong : ¬ current.IsPassword env request.body.password) :
    loginWork env key now request idempotencyKey digest db =
      .ok ⟨false, countedFailure current, 200⟩ := by
  obtain ⟨store', returns⟩ := @login_wrong env now key idempotencyKey db.state
    (loginAccount env request.body) (deriveSessionToken env key "auth.login"
      (env.sha256 (loginAccount env request.body)) idempotencyKey) request.body request.caller
    current row usable wrong
  have returned : (loginOptions env key now request idempotencyKey).run idempotencyKey digest
      db.state = .ok (countedFailure current, store') := by
    change Except.map _ ((loginCommand env key (loginAccount env request.body) now request.body
      request.caller (deriveSessionToken env key "auth.login"
        (env.sha256 (loginAccount env request.body)) idempotencyKey) idempotencyKey).run db.state) = _
    rw [returns]
    rfl
  unfold loginWork
  rw [Commands.unitOfWork_returned opened absent returned rfl]
  rfl

theorem stateChanged_seen (ends : ending ≠ .failed) :
    Seen.ofWork (.error stateChanged) ending ≠
      Seen.ofWork (.ok ⟨false, countedFailure current, 200⟩) ending := by
  have answer : loginAnswer (countedFailure current) = .error
      (if MAX_ATTEMPTS ≤ nextAttempts current then accountLocked else invalidLogin) := by
    by_cases limit : MAX_ATTEMPTS ≤ nextAttempts current <;>
      simp [loginAnswer, countedFailure, member, isTrue, limit]
  cases ending with
  | answered =>
      simp only [Seen.ofWork, Seen.ofOutcome, answer]
      by_cases limit : MAX_ATTEMPTS ≤ nextAttempts current
      · simp [limit, Seen.ofError, stateChanged, refusedState, accountLocked]
      · simp [limit, Seen.ofError, stateChanged, refusedState, invalidLogin, unauthorized]
  | failed => exact absurd rfl ends
  | unanswered committed => simp [Seen.ofWork, Seen.ofError, stateChanged, refusedState]

theorem fresh_alike (opened : requireWriterFence "auth.commands" db = .ok ())
    (ends : ending ≠ .failed)
    (absent : db.row (loginIdentity env first idempotencyKey) = none)
    (absentSecond : db.row (loginIdentity env second idempotencyKey) = none)
    (row : credentialRow db.state (loginAccount env first.body) = some current)
    (rowSecond : credentialRow db.state (loginAccount env second.body) = some current)
    (blocked : current.user.accountStatus ≠ .active) :
    Seen.ofWork (loginWork env key now first idempotencyKey digest db) ending =
        Seen.ofWork (loginWork env key now second idempotencyKey digest' db) ending ↔
      (current.Usable →
        (current.IsPassword env first.body.password ↔
          current.IsPassword env second.body.password)) := by
  by_cases usable : current.Usable
  · simp only [usable, true_imp_iff]
    by_cases right : current.IsPassword env first.body.password
    · rw [loginWork_thrown opened absent (login_blocked row usable right blocked)]
      by_cases right' : current.IsPassword env second.body.password
      · rw [loginWork_thrown opened absentSecond (login_blocked rowSecond usable right' blocked)]
        exact iff_of_true rfl (iff_of_true right right')
      · rw [loginWork_wrong opened absentSecond rowSecond usable right']
        exact iff_of_false (stateChanged_seen ends) fun both => right' (both.mp right)
    · rw [loginWork_wrong opened absent row usable right]
      by_cases right' : current.IsPassword env second.body.password
      · rw [loginWork_thrown opened absentSecond (login_blocked rowSecond usable right' blocked)]
        exact iff_of_false (stateChanged_seen ends).symm fun both => right (both.mpr right')
      · rw [loginWork_wrong opened absentSecond rowSecond usable right']
        exact iff_of_true rfl (iff_of_false right right')
  · rw [loginWork_thrown opened absent (login_unusable row usable),
      loginWork_thrown opened absentSecond (login_unusable rowSecond usable)]
    exact iff_of_true rfl fun holds => absurd holds usable

/-- Two logins of an account that is not active are answered alike exactly when
the password is not asked for, or the two are alike. -/
theorem blocked_answers_iff (differ : DifferInPassword first second)
    (itself : DigestsItself env first) (itselfSecond : DigestsItself env second)
    (row : credentialRow db.state (loginAccount env first.body) = some current)
    (blocked : current.user.accountStatus ≠ .active) :
    seen (serve env now (.login first) ending db).1 =
        seen (serve env now (.login second) ending db).1 ↔
      Unasked env first ending db ∨ PasswordsAlike env db current first second := by
  have named := @DifferInPassword.named first second differ
  have account := @DifferInPassword.accounts env first second differ
  have keys : loginKey env second = loginKey env first := by
    unfold loginKey
    rw [named]
  cases first' : loginKey env first with
  | error error =>
      rw [seen_refused first', seen_refused (keys.trans first')]
      exact iff_of_true rfl (Or.inl (Or.inl ⟨error, first'⟩))
  | ok idempotencyKey =>
      obtain ⟨key, keyed, names⟩ := loginKey_ok first'
      obtain ⟨digest, digested⟩ := loginDigest_ok env first.body
      obtain ⟨digest', digested'⟩ := loginDigest_ok env second.body
      rw [seen_work keyed names digested itself,
        seen_work keyed (by rw [named, names]) digested' itselfSecond]
      by_cases ends : ending = .failed
      · subst ends
        rw [Seen.ofWork_failed, Seen.ofWork_failed]
        exact iff_of_true rfl (Or.inl (Or.inr (Or.inl rfl)))
      · cases opened : requireWriterFence "auth.commands" db with
        | error error =>
            have closed : ∀ request digest, loginWork env key now request idempotencyKey digest db =
                .error error := by
              intro request digest
              unfold loginWork unitOfWork
              change Except.map _ (requireWriterFence "auth.commands" db >>= _) = _
              rw [opened]
              rfl
            rw [closed, closed]
            exact iff_of_true rfl (Or.inl (Or.inr (Or.inr ⟨error, opened⟩)))
        | ok _ =>
            have asked : ¬ Unasked env first ending db := by
              rintro (⟨error, refused⟩ | fails | ⟨error, closed⟩)
              · rw [first'] at refused
                cases refused
              · exact ends fails
              · rw [opened] at closed
                cases closed
            have identity : loginIdentity env second idempotencyKey =
                loginIdentity env first idempotencyKey := by
              unfold loginIdentity
              rw [account]
            rw [or_iff_right asked]
            unfold PasswordsAlike
            simp only [first', Except.ok.injEq, forall_eq', digested, digested']
            cases found : db.row (loginIdentity env first idempotencyKey) with
            | some row => exact used_alike opened ends found (by rw [identity, found])
            | none =>
                exact fresh_alike opened ends found (by rw [identity, found]) row
                  (by rw [account, row]) blocked

/-! ### Guesses -/

def guess (password : String) : LoginRequest := loginWith password "login-key-number-0001"

theorem guesses_differ (password other : String) :
    DifferInPassword (guess password) (guess other) := ⟨rfl, rfl⟩

theorem guess_digestsItself (password : String) : DigestsItself shown (guess password) :=
  fun _ _ => rfl

/-- The account of the guesses. -/
def guessed (status : AccountStatus) : UserCredential where
  userId := 1
  user := { email := "a@b.c", mobile := "13800000000", name := "A", role := "finance"
            accountStatus := status }
  credentialId := 1
  credential := { userId := 1, passwordHash := "right" ++ zeroSalt, passwordSalt := zeroSalt
                  failedAttempts := 0, lockedAt := none }

theorem guessed_row (status : AccountStatus) (password : String) :
    credentialRow (accountSystem status 0).db.state (loginAccount shown (guess password).body) =
      some (guessed status) := by
  have account : loginAccount shown (guess password).body = "a@b.c" := by
    change String.toLower (trim "a@b.c") = "a@b.c"
    decide +kernel
  rw [account]
  rfl

theorem blocked_answers_wrong :
    seen (serve shown (minute 0) (.login (guess "wrong")) .answered
        (accountSystem .disabled 0).db).1 =
      seen (serve shown (minute 0) (.login (guess "other")) .answered
        (accountSystem .disabled 0).db).1 := by
  apply (blocked_answers_iff (guesses_differ _ _) (guess_digestsItself _) (guess_digestsItself _)
    (guessed_row .disabled "wrong") (by decide)).mpr
  right
  intro idempotencyKey _
  have absent : (accountSystem .disabled 0).db.row
      (loginIdentity shown (guess "wrong") idempotencyKey) = none := rfl
  rw [absent]
  intro _
  unfold UserCredential.IsPassword
  exact iff_of_false (by decide +kernel) (by decide +kernel)

/-- The right password of a disabled account is answered as a conflict. -/
theorem blocked_answers_right :
    DifferInPassword (guess "right") (guess "wrong") ∧
      credentialRow (accountSystem .disabled 0).db.state
        (loginAccount shown (guess "right").body) = some (guessed .disabled) ∧
      seen (serve shown (minute 0) (.login (guess "right")) .answered
        (accountSystem .disabled 0).db).1 = ⟨409, some ("CONFLICT", "Account state changed")⟩ ∧
      seen (serve shown (minute 0) (.login (guess "wrong")) .answered
        (accountSystem .disabled 0).db).1 =
          ⟨401, some ("UNAUTHORIZED", "Account or password is invalid")⟩ :=
  ⟨guesses_differ _ _, guessed_row _ _, by decide +kernel, by decide +kernel⟩

end SupplyChain.Accounts
