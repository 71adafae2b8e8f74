import SupplyChain.Accounts.Outcomes

/-!
Lockout. Of an account only its status and its count of failures matter; each
command moves them in one way. The count agrees with the wrong passwords since
the account was last cleared as long as it is active, except that a restore
keeps the count that was there before, and failures are counted in every status.
-/

namespace SupplyChain.Accounts

open Relational Transaction Json Calendar AccountTable
open Commands (CommandError JsonObject Header commandIdempotencyKey)

variable {env : Environment} {a b : System} {event : Event} {userId : Nat}

/-! ## What the lock looks at -/

structure Lock where
  status : AccountStatus
  failures : Nat
  deriving DecidableEq

/-- What an event is for one account. -/
inductive Kind
  | wrong | right | reset | disable | restore | unlock | other
  deriving DecidableEq

/-- The lock after an event of a kind. -/
def Lock.after (lock : Lock) : Kind → Lock
  | .wrong =>
      { status := if MAX_ATTEMPTS ≤ lock.failures + 1 ∧ lock.status = .active then .locked
          else lock.status
        failures := min (lock.failures + 1) MAX_ATTEMPTS }
  | .right => { lock with failures := if lock.failures < MAX_ATTEMPTS then 0 else lock.failures }
  | .reset => { lock with failures := 0 }
  | .disable => { lock with status := .disabled }
  | .restore => { lock with status := .active }
  | .unlock => { status := .active, failures := 0 }
  | .other => lock

/-- The status that an event of a kind insists on. -/
def Kind.admits (kind : Kind) (status : AccountStatus) : Prop :=
  match kind with
  | .right => status = .active
  | .restore => status = .disabled
  | .unlock => status = .locked
  | _ => True

/-- The wrong passwords counted while the account was active, since it was
last cleared: after a login, a reset, a restore or an unlock. -/
def tally (kind : Kind) (status : AccountStatus) (count : Nat) : Nat :=
  match kind with
  | .wrong => if status = .active then count + 1 else count
  | .right | .reset | .restore | .unlock => 0
  | .disable | .other => count

/-- An active account is locked at the fifth failure; a restored account and
one that was logged into have none. -/
structure Exact (kind : Kind) (before : Lock) (count : Nat) (next : Lock) : Prop where
  locked : before.status = .active →
    (next.status = .locked ↔ kind = .wrong ∧ count + 1 = MAX_ATTEMPTS)
  restored : kind = .restore → next.failures = 0
  succeeded : kind = .right → next.failures = 0

/-- An active account has failed as often as was counted. -/
def Counted (lock : Lock) (count : Nat) : Prop :=
  lock.status = .active → lock.failures = count ∧ count < MAX_ATTEMPTS

/-- An event that neither counts nor clears leaves an active account unlocked. -/
theorem Exact.plain {kind : Kind} {before next : Lock} {count : Nat}
    (unlocked : before.status = .active → next.status ≠ .locked) (wrong : kind ≠ .wrong)
    (restore : kind ≠ .restore) (right : kind ≠ .right) : Exact kind before count next where
  locked active := ⟨fun locks => absurd locks (unlocked active), fun both => absurd both.1 wrong⟩
  restored restores := absurd restores restore
  succeeded succeeds := absurd succeeds right

theorem exact_iff {lock : Lock} {count : Nat} {kind : Kind} (counted : Counted lock count)
    (admits : kind.admits lock.status) :
    Exact kind lock count (lock.after kind) ↔ (kind = .restore → lock.failures = 0) := by
  constructor
  · intro exact_ restores
    have zero := exact_.restored restores
    subst restores
    exact zero
  · intro fresh
    cases kind with
    | wrong =>
        constructor
        · intro active
          obtain ⟨same, below⟩ := counted active
          unfold MAX_ATTEMPTS at below
          simp only [Lock.after, active, and_true, true_and, same, MAX_ATTEMPTS]
          by_cases fifth : 5 ≤ count + 1
          · simp only [fifth, if_true, true_iff]
            omega
          · simp only [fifth, if_false, reduceCtorEq, false_iff]
            omega
        · intro restores
          cases restores
        · intro succeeds
          cases succeeds
    | right =>
        constructor
        · intro active
          simp [Lock.after, active]
        · intro restores
          cases restores
        · intro _
          obtain ⟨same, below⟩ := counted admits
          simp [Lock.after, same, below]
    | restore =>
        constructor
        · intro active
          simp [Lock.after]
        · intro _
          exact fresh rfl
        · intro succeeds
          cases succeeds
    | reset =>
        apply Exact.plain _ (by decide) (by decide) (by decide)
        intro active
        simp [Lock.after, active]
    | disable =>
        apply Exact.plain _ (by decide) (by decide) (by decide)
        simp [Lock.after]
    | unlock =>
        apply Exact.plain _ (by decide) (by decide) (by decide)
        simp [Lock.after]
    | other =>
        apply Exact.plain _ (by decide) (by decide) (by decide)
        intro active
        simp [Lock.after, active]

theorem counted_after {lock : Lock} {count : Nat} {kind : Kind} (counted : Counted lock count)
    (fresh : kind = .restore → lock.failures = 0) :
    Counted (lock.after kind) (tally kind lock.status count) := by
  have positive : 0 < MAX_ATTEMPTS := by decide
  intro active
  cases kind with
  | wrong =>
      by_cases was : lock.status = .active
      · obtain ⟨same, below⟩ := counted was
        by_cases fifth : MAX_ATTEMPTS ≤ lock.failures + 1
        · simp [Lock.after, was, fifth] at active
        · rw [not_le, same] at fifth
          simp only [Lock.after, tally, was, if_true, same]
          exact ⟨Nat.min_eq_left (Nat.le_of_lt fifth), fifth⟩
      · simp [Lock.after, was] at active
  | right =>
      by_cases was : lock.status = .active
      · obtain ⟨same, below⟩ := counted was
        simp [Lock.after, tally, same, below, positive]
      · exact absurd active was
  | reset => exact ⟨rfl, positive⟩
  | disable => cases active
  | restore => exact ⟨fresh rfl, positive⟩
  | unlock => exact ⟨rfl, positive⟩
  | other => exact counted active

/-! ## The lock of an account -/

def credentialOf (credentials : Table Credential) (userId : Nat) : Option (Nat × Credential) :=
  credentials.first? fun _ row => row.userId == userId

def lockOf (db : AccountStore) (userId : Nat) : Option Lock := do
  let user ← (db users).find? userId
  let credential ← credentialOf (db authCredentials) userId
  return ⟨user.accountStatus, credential.2.failedAttempts⟩

/-- What an event is for the account of a user. -/
def kindOf (env : Environment) (db : AccountStore) (userId : Nat) : Event → Kind
  | .served _ (.login request) (some result) =>
      if (credentialRow db (loginAccount env request.body)).any (·.userId == userId) then
        if (member result "locked").isSome then .wrong else .right
      else .other
  | .served _ (.resetPassword _ target _ _ _) (some _) => if target = userId then .reset else .other
  | .served _ (.disable _ target _) (some _) => if target = userId then .disable else .other
  | .served _ (.restore _ target _) (some _) => if target = userId then .restore else .other
  | .served _ (.unlock _ target _) (some _) => if target = userId then .unlock else .other
  | _ => .other

theorem lockOf_eq_some {db : AccountStore} {lock : Lock} :
    lockOf db userId = some lock ↔ ∃ user credential, (db users).find? userId = some user ∧
      credentialOf (db authCredentials) userId = some credential ∧
      lock = ⟨user.accountStatus, credential.2.failedAttempts⟩ := by
  unfold lockOf
  simp only [Option.bind_eq_bind, Option.bind_eq_some_iff, Option.pure_def, Option.some.injEq]
  constructor
  · rintro ⟨user, found, credential, own, rfl⟩
    exact ⟨user, credential, found, own, rfl⟩
  · rintro ⟨user, credential, found, own, rfl⟩
    exact ⟨user, found, credential, own, rfl⟩

theorem readCredential_ok {db : AccountStore} {account : String} {current : UserCredential}
    (read : readCredential db account = .ok current) :
    credentialRow db account = some current ∧
      (db users).find? current.userId = some current.user ∧
      credentialOf (db authCredentials) current.userId =
        some (current.credentialId, current.credential) := by
  unfold readCredential at read
  cases row : credentialRow db account with
  | none => simp [row] at read
  | some found =>
      simp only [row] at read
      have same : found = current := by
        split at read
        · cases read
        · exact Except.ok.inj read
      subst same
      unfold credentialRow at row
      simp only [Option.bind_eq_bind, Option.bind_eq_some_iff, Option.pure_def,
        Option.some.injEq] at row
      obtain ⟨user, first, credential, own, rfl⟩ := row
      exact ⟨rfl, (Table.first?_some first).1, own⟩

theorem credentialOf_update {credentials : Table Credential} {guard : Nat → Credential → Bool}
    {change : Credential → Credential} (keeps : ∀ row, (change row).userId = row.userId) :
    credentialOf (credentials.update guard change) userId =
      (credentialOf credentials userId).map
        fun r => (r.1, if guard r.1 r.2 then change r.2 else r.2) := by
  apply Table.first?_update
  intro id row _
  rw [keeps]

theorem credentialOf_other {credentials : Table Credential} {guard : Nat → Credential → Bool}
    {change : Credential → Credential} (keeps : ∀ row, (change row).userId = row.userId)
    (apart : ∀ id row, credentials.find? id = some row → row.userId = userId →
      guard id row = false) :
    credentialOf (credentials.update guard change) userId = credentialOf credentials userId := by
  rw [credentialOf_update keeps]
  cases own : credentialOf credentials userId with
  | none => rfl
  | some r =>
      obtain ⟨found, named⟩ := Table.first?_some own
      rw [Option.map_some, apart r.1 r.2 found (by simpa using named)]
      rfl

theorem credentialOf_cleared {credentials : Table Credential} {target : Nat}
    {change : Credential → Credential} (keeps : ∀ row, (change row).userId = row.userId)
    {credential : Nat × Credential} (own : credentialOf credentials userId = some credential) :
    ∃ next, credentialOf (clearedCredentials credentials target change) userId = some next ∧
      next.2.failedAttempts = if target = userId then 0 else credential.2.failedAttempts := by
  have named : credential.2.userId = userId := by simpa using (Table.first?_some own).2
  have updated := @credentialOf_update userId credentials (fun _ row => row.userId == target)
    (fun row => { change row with failedAttempts := 0, lockedAt := none }) fun row => keeps row
  rw [own] at updated
  refine ⟨_, updated, ?_⟩
  dsimp only
  rw [named]
  by_cases here : target = userId
  · simp [here]
  · have apart : (userId == target) = false := by
      rw [beq_eq_false_iff_ne]
      exact Ne.symm here
    simp [here, apart]

theorem find?_moved {accounts : Table User} {target : Nat} {status : AccountStatus} {user : User}
    (found : accounts.find? userId = some user) :
    ∃ next, (accounts.modify target fun row => { row with accountStatus := status }).find? userId =
        some next ∧ next.accountStatus = if target = userId then status else user.accountStatus := by
  by_cases here : target = userId
  · subst here
    exact ⟨_, Table.find?_modify_self _ found, by simp⟩
  · exact ⟨user, (Table.find?_modify_ne _ _ (Ne.symm here)).trans found, by simp [here]⟩

/-! ## Every command moves the lock in its way -/

/-- The lock before and after a step, for the kind of its event. -/
def Moves (kind : Kind) (db db' : AccountStore) (userId : Nat) : Prop :=
  ∀ lock, lockOf db userId = some lock →
    kind.admits lock.status ∧ lockOf db' userId = some (lock.after kind)

theorem moves_kept {db db' : AccountStore} (accounts : db' users = db users)
    (credentials : db' authCredentials = db authCredentials) : Moves .other db db' userId := by
  intro lock held
  refine ⟨trivial, ?_⟩
  rw [lockOf, accounts, credentials]
  exact held

theorem kindOf_login {db : AccountStore} {now : Instant} {request : LoginRequest}
    {result : JsonObject} {current : UserCredential}
    (read : readCredential db (loginAccount env request.body) = .ok current) :
    kindOf env db userId (.served now (.login request) (some result)) =
      if current.userId = userId then if (member result "locked").isSome then .wrong else .right
      else .other := by
  simp [kindOf, (readCredential_ok read).1]

theorem readCredential_apart {db : AccountStore} {account : String} {current : UserCredential}
    (read : readCredential db account = .ok current) (other : current.userId ≠ userId) :
    ∀ id row, (db authCredentials).find? id = some row → row.userId = userId →
      (id == current.credentialId) = false := by
  intro id row found named
  obtain ⟨here, own⟩ := Table.first?_some (readCredential_ok read).2.2
  rw [beq_eq_false_iff_ne]
  rintro rfl
  rw [here] at found
  cases found
  simp only [beq_iff_eq] at own
  exact other (own.symm.trans named)

theorem failedCredential_userId {now : Instant} {current : UserCredential} (row : Credential) :
    (failedCredential now current row).userId = row.userId := rfl

theorem resetCredential_userId (row : Credential) :
    ({ row with failedAttempts := 0, lockedAt := none } : Credential).userId = row.userId := rfl

theorem rejected_moves {db db' : AccountStore} {now : Instant} {account : String}
    {current : UserCredential} (read : readCredential db account = .ok current)
    (counted : db' authCredentials =
      (db authCredentials).modify current.credentialId (failedCredential now current))
    (locked : db' users = if MAX_ATTEMPTS ≤ nextAttempts current then
      (db users).update (fun id row => id == current.userId && row.accountStatus == .active)
        fun row => { row with accountStatus := .locked } else db users) :
    Moves (if current.userId = userId then .wrong else .other) db db' userId := by
  intro lock held
  obtain ⟨user, credential, found, own, rfl⟩ := lockOf_eq_some.mp held
  obtain ⟨-, foundCurrent, ownCurrent⟩ := readCredential_ok read
  by_cases here : current.userId = userId
  · rw [if_pos here]
    refine ⟨trivial, lockOf_eq_some.mpr ?_⟩
    rw [here] at foundCurrent ownCurrent
    obtain rfl : current.user = user := Option.some.inj (foundCurrent.symm.trans found)
    obtain rfl : (current.credentialId, current.credential) = credential :=
      Option.some.inj (ownCurrent.symm.trans own)
    -- the count of the one credential
    have credentials : credentialOf (db' authCredentials) userId =
        some (current.credentialId, failedCredential now current current.credential) := by
      rw [counted, Table.modify, credentialOf_update failedCredential_userId, own]
      simp
    have limit : MAX_ATTEMPTS ≤ nextAttempts current ↔
        MAX_ATTEMPTS ≤ current.credential.failedAttempts + 1 := by
      unfold nextAttempts MAX_ATTEMPTS
      omega
    by_cases fifth : MAX_ATTEMPTS ≤ nextAttempts current
    · rw [if_pos fifth] at locked
      refine ⟨_, _, by rw [locked, Table.find?_update, found, Option.map_some], credentials, ?_⟩
      by_cases active : current.user.accountStatus = .active
      · simp [Lock.after, limit.mp fifth, active, here, failedCredential, nextAttempts]
      · simp [Lock.after, active, failedCredential, nextAttempts]
    · rw [if_neg fifth] at locked
      refine ⟨_, _, by rw [locked]; exact found, credentials, ?_⟩
      have below : ¬ MAX_ATTEMPTS ≤ current.credential.failedAttempts + 1 :=
        fun reached => fifth (limit.mpr reached)
      simp [Lock.after, below, failedCredential, nextAttempts]
  · rw [if_neg here]
    refine ⟨trivial, lockOf_eq_some.mpr ⟨user, credential, ?_, ?_, rfl⟩⟩
    · rw [locked]
      split
      · have apart : (userId == current.userId) = false := by
          rw [beq_eq_false_iff_ne]
          exact Ne.symm here
        rw [Table.find?_update, found, Option.map_some, apart]
        rfl
      · exact found
    · rw [counted, Table.modify,
        credentialOf_other failedCredential_userId (readCredential_apart read here), own]

theorem admitted_moves {db db' : AccountStore} {account : String} {current : UserCredential}
    (read : readCredential db account = .ok current)
    (active : current.user.accountStatus = .active)
    (reset : db' authCredentials = (db authCredentials).update
      (fun id row => id == current.credentialId && decide (row.failedAttempts < MAX_ATTEMPTS))
      fun row => { row with failedAttempts := 0, lockedAt := none })
    (accounts : db' users = db users) :
    Moves (if current.userId = userId then .right else .other) db db' userId := by
  intro lock held
  obtain ⟨user, credential, found, own, rfl⟩ := lockOf_eq_some.mp held
  obtain ⟨-, foundCurrent, ownCurrent⟩ := readCredential_ok read
  by_cases here : current.userId = userId
  · rw [if_pos here]
    rw [here] at foundCurrent ownCurrent
    obtain rfl : current.user = user := Option.some.inj (foundCurrent.symm.trans found)
    obtain rfl : (current.credentialId, current.credential) = credential :=
      Option.some.inj (ownCurrent.symm.trans own)
    refine ⟨active, lockOf_eq_some.mpr ⟨_, _, by rw [accounts]; exact found,
      by rw [reset, credentialOf_update resetCredential_userId, own, Option.map_some], ?_⟩⟩
    by_cases below : current.credential.failedAttempts < MAX_ATTEMPTS
    · simp [Lock.after, below]
    · simp [Lock.after, below]
  · rw [if_neg here]
    refine ⟨trivial, lockOf_eq_some.mpr ⟨user, credential, by rw [accounts]; exact found, ?_, rfl⟩⟩
    rw [reset, credentialOf_other resetCredential_userId, own]
    intro id row foundRow named
    rw [readCredential_apart read here id row foundRow named, Bool.false_and]

theorem moved_moves {db db' : AccountStore} {target : Nat} {status : AccountStatus} {kind : Kind}
    (moved : db' users = (db users).modify target fun row => { row with accountStatus := status })
    (credentials : db' authCredentials = db authCredentials)
    (does : ∀ lock : Lock, lock.after kind = { lock with status })
    (admits : ∀ user, (db users).find? target = some user → kind.admits user.accountStatus) :
    Moves (if target = userId then kind else .other) db db' userId := by
  intro lock held
  obtain ⟨user, credential, found, own, rfl⟩ := lockOf_eq_some.mp held
  obtain ⟨next, foundNext, same⟩ := @find?_moved userId _ target status _ found
  have after : lockOf db' userId = some ⟨next.accountStatus, credential.2.failedAttempts⟩ :=
    lockOf_eq_some.mpr ⟨next, credential, by rw [moved]; exact foundNext,
      by rw [credentials]; exact own, rfl⟩
  rw [same] at after
  by_cases here : target = userId
  · subst here
    rw [if_pos rfl] at after ⊢
    exact ⟨admits user found, by rw [after, does]⟩
  · rw [if_neg here] at after ⊢
    exact ⟨trivial, after⟩

theorem ran_moves {now : Instant} {command : AccountCommand} {result : JsonObject}
    {db db' : AccountStore} (ran : Ran env now db command result db') :
    Moves (kindOf env db userId (.served now command (some result))) db db' userId := by
  cases ran with
  | login keyed named did =>
      cases did with
      | rejected read hashed wrong counted locked others =>
          rw [kindOf_login read]
          exact rejected_moves read counted locked
      | entered read right active trusted reset opened used others =>
          rw [kindOf_login read]
          exact admitted_moves read active reset (others _ (by decide) (by decide) (by decide))
      | @requested current db' read right active reset fresh issued others =>
          have quiet : ∀ challengeNo maskedMobile code, member
              ([("authenticated", .boolean false), ("challengeNo", challengeNo),
                ("maskedMobile", maskedMobile)] ++ previewed env code) "locked" = none := by
            intro challengeNo maskedMobile code
            unfold previewed
            split <;> rfl
          rw [kindOf_login read, quiet]
          exact admitted_moves read active reset (others _ (by decide) (by decide) (by decide))
  | verify did =>
      cases did with
      | wrong read invalid live below counted others =>
          exact moves_kept (others _ (by decide)) (others _ (by decide))
      | right read matched live below spent trusted opened others =>
          exact moves_kept (others _ (by decide) (by decide) (by decide))
            (others _ (by decide) (by decide) (by decide))
  | logout sessions others => exact moves_kept (others _ (by decide)) (others _ (by decide))
  | requestStepUp keyed did told =>
      exact moves_kept (did.others _ (by decide) (by decide)) (did.others _ (by decide) (by decide))
  | verifyStepUp did =>
      cases did with
      | wrong read invalid live below counted others =>
          exact moves_kept (others _ (by decide)) (others _ (by decide))
      | right read matched live below spent others =>
          exact moves_kept (others _ (by decide)) (others _ (by decide))
  | createUser managed fresh account credential others =>
      intro lock held
      obtain ⟨user, own, found, first, rfl⟩ := lockOf_eq_some.mp held
      refine ⟨trivial, lockOf_eq_some.mpr ⟨user, own, ?_, ?_, rfl⟩⟩
      · rw [account]
        exact Table.find?_insert_of_some found
      · rw [credential, credentialOf, Table.first?_insert]
        rw [credentialOf] at first
        rw [first]
        rfl
  | @resetPassword access target newPassword salt caller result db' cleared revoked others =>
      intro lock held
      obtain ⟨user, credential, found, own, rfl⟩ := lockOf_eq_some.mp held
      let change := fun row : Credential =>
        { row with passwordHash := env.pbkdf2 newPassword salt, passwordSalt := salt }
      obtain ⟨next, ownNext, count⟩ :=
        @credentialOf_cleared userId _ target change (fun _ => rfl) _ own
      have after : lockOf db' userId = some ⟨user.accountStatus, next.2.failedAttempts⟩ :=
        lockOf_eq_some.mpr ⟨user, next,
          by rw [others _ (by decide) (by decide) (by decide)]; exact found,
          by rw [cleared]; exact ownNext, rfl⟩
      rw [count] at after
      rw [kindOf]
      by_cases here : target = userId
      · rw [if_pos here] at after ⊢
        exact ⟨trivial, after⟩
      · rw [if_neg here] at after ⊢
        exact ⟨trivial, after⟩
  | disable moved revoked others =>
      exact moved_moves moved (others _ (by decide) (by decide) (by decide)) (fun _ => rfl)
        fun _ _ => trivial
  | restore held moved others =>
      obtain ⟨row, found, disabled⟩ := held
      refine moved_moves moved (others _ (by decide) (by decide)) (fun _ => rfl) ?_
      intro user same
      rw [found] at same
      cases same
      exact disabled
  | @unlock access target caller result db' held moved cleared revoked others =>
      intro lock known
      obtain ⟨user, credential, found, own, rfl⟩ := lockOf_eq_some.mp known
      obtain ⟨nextUser, foundNext, status⟩ := @find?_moved userId _ target .active _ found
      obtain ⟨next, ownNext, count⟩ := @credentialOf_cleared userId _ target id (fun _ => rfl) _ own
      have after : lockOf db' userId = some ⟨nextUser.accountStatus, next.2.failedAttempts⟩ :=
        lockOf_eq_some.mpr ⟨nextUser, next, by rw [moved]; exact foundNext,
          by rw [cleared]; exact ownNext, rfl⟩
      rw [status, count] at after
      rw [kindOf]
      by_cases here : target = userId
      · obtain ⟨row, same, locked⟩ := held
        rw [here, found] at same
        cases same
        rw [if_pos here] at after ⊢
        rw [if_pos here] at after
        exact ⟨locked, after⟩
      · rw [if_neg here] at after ⊢
        rw [if_neg here] at after
        exact ⟨trivial, after⟩

theorem step_moves (step : Step env a event b) :
    Moves (kindOf env a.db.state userId event) a.db.state b.db.state userId := by
  cases step with
  | served now command ending taken =>
      have served := serve_served env now command ending a.db
      generalize commits env now command ending a.db = result at served ⊢
      generalize (serve env now command ending a.db).2 = db at served ⊢
      cases served with
      | idle =>
          have other : kindOf env a.db.state userId (.served now command none) = .other := by
            cases command <;> rfl
          rw [other]
          exact moves_kept rfl rfl
      | ran did => exact ran_moves did
  | comparedLogin => exact moves_kept rfl rfl
  | comparedStepUp => exact moves_kept rfl rfl
  | consumed returns =>
      exact moves_kept (returns.unwritten _ (by decide)) (returns.unwritten _ (by decide))
  | elsewhere own => exact moves_kept (own _ (by decide) (by decide)) (own _ (by decide) (by decide))

/-! ## Runs with the count beside them -/

/-- The count after an event, read off the account before it. -/
def counts (env : Environment) (userId : Nat) (s : System) (event : Event) (count : Nat) : Nat :=
  match lockOf s.db.state userId with
  | none => count
  | some lock => tally (kindOf env s.db.state userId event) lock.status count

/-- The lockout is exact in a step. -/
def LocksExactly (env : Environment) (userId : Nat) (a : Noted Nat) (event : Event)
    (b : Noted Nat) : Prop :=
  ∀ before after, lockOf a.system.db.state userId = some before →
    lockOf b.system.db.state userId = some after →
    Exact (kindOf env a.system.db.state userId event) before a.note after

/-- A restore finds no failures. -/
def RestoresFresh (env : Environment) (userId : Nat) (a : Noted Nat) (event : Event) : Prop :=
  ∀ before ∈ lockOf a.system.db.state userId,
    kindOf env a.system.db.state userId event = .restore → before.failures = 0

instance (env : Environment) (userId : Nat) (a : Noted Nat) (event : Event) :
    Decidable (RestoresFresh env userId a event) :=
  inferInstanceAs (Decidable (∀ before ∈ lockOf a.system.db.state userId, _))

/-- The account is there, and what was counted is what it has failed. -/
def Agrees (userId : Nat) (a : Noted Nat) : Prop :=
  ∃ lock, lockOf a.system.db.state userId = some lock ∧ Counted lock a.note

theorem locksExactly_iff {a b : Noted Nat} (step : NotedStep env (counts env userId) a event b)
    (agrees : Agrees userId a) :
    LocksExactly env userId a event b ↔ RestoresFresh env userId a event := by
  obtain ⟨lock, held, counted⟩ := agrees
  obtain ⟨admits, moved⟩ := step_moves step.1 lock held
  have exact_ := exact_iff counted admits
  constructor
  · intro locks before same restores
    rw [held] at same
    cases same
    exact exact_.mp (locks lock _ held moved) restores
  · intro fresh before after same later
    rw [held] at same
    cases same
    rw [moved] at later
    cases later
    exact exact_.mpr (fresh lock held)

theorem agrees_next {a b : Noted Nat} (step : NotedStep env (counts env userId) a event b)
    (fresh : RestoresFresh env userId a event) (agrees : Agrees userId a) : Agrees userId b := by
  obtain ⟨lock, held, counted⟩ := agrees
  obtain ⟨-, moved⟩ := step_moves step.1 lock held
  refine ⟨_, moved, ?_⟩
  have count := step.2
  simp only [counts, held] at count
  rw [count]
  exact counted_after counted (fresh lock held)

/-- The lockout is exact along a run exactly when every restore in it finds no
failures. -/
theorem lockout_exact_iff {a b : Noted Nat} {events : List Event} (opens : Agrees userId a) :
    Run (fun a event b =>
        NotedStep env (counts env userId) a event b ∧ LocksExactly env userId a event b) a events b ↔
      Run (fun a event b =>
        NotedStep env (counts env userId) a event b ∧ RestoresFresh env userId a event)
        a events b := by
  apply Run.iff_under (Agrees userId)
  · intro a event b step locks agrees
    exact agrees_next step ((locksExactly_iff step agrees).mp locks) agrees
  · intro a event b step agrees
    exact locksExactly_iff step agrees
  · exact opens

/-! ### Wrong passwords -/

def triesWrong (key : String) : Act :=
  .serve (minute 0) (.login (loginWith "wrong" key)) .answered

def wrongKeys : List String :=
  ["login-key-number-0001", "login-key-number-0002", "login-key-number-0003",
    "login-key-number-0004", "login-key-number-0005"]

/-- The administrator, in a session of his own. -/
def administrator : Access := ⟨2, 1⟩

def disables : Act :=
  .serve (minute 0) (.disable administrator 1 (callerWith "disable-key-number-0001")) .answered

def restores : Act :=
  .serve (minute 0) (.restore administrator 1 (callerWith "restore-key-number-0001")) .answered

/-- An account with no failures, of which none were counted. -/
def unfailed (status : AccountStatus) : Noted Nat := ⟨accountSystem status 0, 0⟩

theorem unfailed_agrees (status : AccountStatus) : Agrees 1 (unfailed status) :=
  ⟨⟨status, 0⟩, rfl, fun _ => ⟨rfl, (by decide : 0 < MAX_ATTEMPTS)⟩⟩

/-- Restored with no failures, and locked at the fifth. -/
theorem lockout_exact_fifth :
    ∃ events b, lockOf b.system.db.state 1 = some ⟨.locked, 5⟩ ∧
      Run (fun a event b =>
        NotedStep shown (counts shown 1) a event b ∧ LocksExactly shown 1 a event b)
        (unfailed .active) events b := by
  obtain ⟨events, b, run, locked⟩ := replay_reaches shown (counts shown 1)
    (fun a event => decide (RestoresFresh shown 1 a event))
    (disables :: restores :: wrongKeys.map triesWrong) (unfailed .active)
    (fun _ b => decide (lockOf b.system.db.state 1 = some ⟨.locked, 5⟩)) (by decide +kernel)
  simp only [decide_eq_true_eq] at run locked
  exact ⟨events, b, locked, (lockout_exact_iff (unfailed_agrees .active)).mpr run⟩

/-- Four wrong passwords while the account is disabled, and the first one after
it was restored locks it. -/
theorem locked_at_the_first :
    ∃ events a event b,
      Run (NotedStep shown (counts shown 1)) (unfailed .active) events a ∧
      NotedStep shown (counts shown 1) a event b ∧ a.note = 0 ∧
      lockOf a.system.db.state 1 = some ⟨.active, 4⟩ ∧
      lockOf b.system.db.state 1 = some ⟨.locked, 5⟩ ∧ ¬ LocksExactly shown 1 a event b := by
  let wrong : AccountCommand := .login (loginWith "wrong" "login-key-number-0005")
  obtain ⟨events, a, run, seen⟩ := replay_reaches shown (counts shown 1) (fun _ _ => true)
    (disables :: (wrongKeys.take 4).map triesWrong ++ [restores]) (unfailed .active) (fun _ a => decide (a.note = 0) &&
      decide (lockOf a.system.db.state 1 = some ⟨.active, 4⟩) &&
      decide (lockOf (serve shown (minute 1) wrong .answered a.system.db).2.state 1 =
        some ⟨.locked, 5⟩)) (by decide +kernel)
  simp only [Bool.and_eq_true, decide_eq_true_eq] at seen
  obtain ⟨⟨none, restored⟩, locked⟩ := seen
  refine ⟨events, a, _, ⟨⟨_, a.system.readings⟩, _⟩, run.imp fun step => step.1,
    ⟨Step.served (minute 1) wrong .answered Takes.nothing, rfl⟩, none, restored, locked, ?_⟩
  intro locks
  have fifth := ((locks _ _ restored locked).locked rfl).mp rfl
  rw [none] at fifth
  exact absurd fifth.2 (by decide : ¬ 0 + 1 = MAX_ATTEMPTS)

end SupplyChain.Accounts
