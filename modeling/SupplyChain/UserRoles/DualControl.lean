import SupplyChain.UserRoles.Requests

/-!
Who brings an additional role about, and when a request about one can be decided. A role is
active only where it was at the beginning or where one administrator requested it and another
approved it. A single administrator therefore cannot change the roles of anybody.
-/

namespace SupplyChain.UserRoles

open Relational Transaction TableName
open ApprovalEffects (revokes)

variable {effects : Approvals.ProcurementEffects} {s s' : State} {event : Event}
  {events past : List Event}

/-! ## Two administrators -/

/-- The row was there at the beginning, active and of the same role. -/
def Kept (begin : State) (id : Nat) (row : UserRole) : Prop :=
  ∃ old, (begin.db userRoles).find? id = some old ∧ old.status = .active ∧
    old.userId = row.userId ∧ old.roleCode = row.roleCode

/-- One administrator requested the assignment and after that another one approved it. -/
def Granted (events : List Event) (id : Nat) (row : UserRole) : Prop :=
  ∃ requester reviewer request,
    [Event.assign requester row.userId row.roleCode id request,
      .decide reviewer request .approved].Sublist events ∧
    requester.userId ≠ reviewer.userId ∧
      .admin ∈ requester.roles ∧ .admin ∈ reviewer.roles

theorem Granted.append {id : Nat} {row : UserRole} (granted : Granted past id row) :
    Granted (past ++ events) id row := by
  obtain ⟨requester, reviewer, request, both, rest⟩ := granted
  exact ⟨requester, reviewer, request, both.trans (List.sublist_append_left ..), rest⟩

/-- What the events so far tell about the pending requests and the active rows. -/
structure Traced (begin : State) (past : List Event) (s : State) : Prop where
  consistent : Consistent s
  requested : ∀ key request, RoleRequest s.db key request → revokes request.payload = false →
    ∃ requester row, (s.db userRoles).find? request.entityId = some row ∧
      .assign requester row.userId row.roleCode request.entityId key ∈ past ∧
      requester.userId = request.requestedBy ∧ .admin ∈ requester.roles
  granted : ∀ id row, (s.db userRoles).find? id = some row → row.status = .active →
    Kept begin id row ∨ Granted past id row

theorem Traced.of_same {begin : State} (traced : Traced begin past s) (consistent : Consistent s')
    (roles : s'.db userRoles = s.db userRoles)
    (requests : ∀ key request, RoleRequest s'.db key request → revokes request.payload = false →
      RoleRequest s.db key request) : Traced begin (past ++ [event]) s' := by
  refine ⟨consistent, ?_, ?_⟩
  · intro key request present assigns
    obtain ⟨requester, row, found, member, rest⟩ :=
      traced.requested key request (requests key request present assigns) assigns
    exact ⟨requester, row, roles ▸ found, List.mem_append_left _ member, rest⟩
  · intro id row found active
    rw [roles] at found
    exact (traced.granted id row found active).imp_right Granted.append

theorem Traced.assign {begin : State} {command : CommandContext} {body : AssignUserRole}
    {role : Role} {db' : Database} (traced : Traced begin past s)
    (assigned : Assigned command body role s.db db') :
    Traced begin (past ++ [.assign command.access body.userId role (s.db userRoles).nextId
      (s.db approvalRequests).nextId]) { s with db := db' } := by
  obtain ⟨requestNo, inserted⟩ := assigned.requests
  have requests := roleRequest_insert inserted rfl rfl
  refine ⟨assigned.consistent traced.consistent, ?_, ?_⟩
  · intro key request present assigns
    dsimp only
    rw [assigned.roles]
    rcases (requests key request).mp present with old | ⟨rfl, rfl⟩
    · obtain ⟨requester, row, found, member, rest⟩ := traced.requested key request old assigns
      exact ⟨requester, row, Table.find?_insert_of_some found, List.mem_append_left _ member, rest⟩
    · refine ⟨command.access, body.row role, ?_, ?_, rfl, assigned.admin⟩
      · exact (Table.find?_insert ..).trans (if_pos rfl)
      · exact List.mem_append_right _ (List.mem_singleton.mpr rfl)
  · intro id row found active
    dsimp only at found
    rw [assigned.roles] at found
    rcases Table.find?_insert_cases found with ⟨-, rfl⟩ | old
    · cases active
    · exact (traced.granted id row old active).imp_right Granted.append

theorem Traced.decide {begin : State} {command : CommandContext}
    {body : Approvals.DecideApproval} {request : ApprovalRequest} {db' : Database}
    (traced : Traced begin past s) (decides : Decides command body request s.db db')
    (workflow : request.workflowType = .userRoleChange) :
    Traced begin (past ++ [.decide command.access body.id body.decision])
      { s with db := db' } := by
  have decided : RoleRequest s.db body.id request :=
    ⟨decides.found, workflow, decides.pending⟩
  refine ⟨decides.consistent traced.consistent workflow, ?_, ?_⟩
  · intro key other present assigns
    obtain ⟨differ, before⟩ := decides.roleRequest.mp present
    obtain ⟨requester, row, found, member, rest⟩ := traced.requested key other before assigns
    have apart : other.entityId ≠ request.entityId := fun same =>
      differ (traced.consistent.once key body.id other request before decided same)
    exact ⟨requester, row, decides.keeps workflow apart found, List.mem_append_left _ member,
      rest⟩
  · intro id row found active
    rcases decides.row workflow found with ⟨-, same⟩ |
      ⟨rfl, status, old, held, expected, owner, code⟩
    · exact (traced.granted id row same active).imp_right Granted.append
    · by_cases revoke : revokes request.payload = true
      · -- a revocation was rejected, and the role is what it was
        rw [expects, if_pos revoke] at expected
        rcases traced.granted request.entityId old held expected with kept | granted
        · obtain ⟨first, start, activeFirst, firstOwner, firstCode⟩ := kept
          exact Or.inl ⟨first, start, activeFirst, firstOwner.trans owner,
            firstCode.trans code⟩
        · unfold Granted at granted ⊢
          rw [← owner, ← code]
          exact Or.inr (Granted.append granted)
      · -- an assignment was approved
        rw [Bool.not_eq_true] at revoke
        obtain ⟨requester, first, start, member, own, admin⟩ :=
          traced.requested body.id request decided revoke
        obtain rfl : first = old := Option.some.inj (start.symm.trans held)
        have approved : body.decision = .approved := by
          cases taken : body.decision with
          | approved => rfl
          | rejected =>
              rw [active, decidedStatus, revoke, taken] at status
              cases status
        refine Or.inr ⟨requester, command.access, body.id, ?_, ?_, admin,
          (decides.role workflow).1⟩
        · rw [← owner, ← code, ← approved]
          exact (List.singleton_sublist.mpr member).append (List.Sublist.refl _)
        · rw [own]
          exact decides.separate

theorem step_traced {begin : State} (step : Step effects s event s')
    (traced : Traced begin past s) : Traced begin (past ++ [event]) s' := by
  have consistent := step_consistent step traced.consistent
  cases step_does step with
  | assigned loaded did => exact traced.assign did
  | revoking loaded did =>
      obtain ⟨requestNo, role, inserted⟩ := did.requests
      refine traced.of_same consistent (did.kept _ (by decide)) ?_
      intro key request present assigns
      rcases (roleRequest_insert inserted rfl rfl key request).mp present with old | ⟨-, rfl⟩
      · exact old
      · cases assigns
  | decided loaded workflow did => exact traced.decide did workflow
  | @expired today =>
      refine ⟨consistent, ?_, ?_⟩
      · intro key request present assigns
        obtain ⟨requester, row, found, member, rest⟩ :=
          traced.requested key request ((expireRoles_requests _ _).mp present) assigns
        refine ⟨requester, _, expireRoles_find today found, ?_, rest⟩
        apply List.mem_append_left
        split <;> exact member
      · intro id row found active
        rcases expireRoles_row found with ⟨held, -⟩ | ⟨revoked, -⟩
        · exact (traced.granted id row held active).imp_right Granted.append
        · rw [revoked] at active
          cases active
  | nothing roles requests expired main =>
      refine traced.of_same consistent roles ?_
      intro key request present _
      exact (requests key request).mp present

/-- Whatever is requested, decided and listed in whatever order, a row is active only where it
was at the beginning or where two administrators brought it about in the run; and a session
has, besides the main role of its user, only roles of such rows. -/
theorem granted_by_two (consistent : Consistent s)
    (idle : ∀ key request, ¬ RoleRequest s.db key request)
    (run : Run (Step effects) s events s') :
    (∀ id row, (s'.db userRoles).find? id = some row → row.status = .active →
      Kept s id row ∨ Granted events id row) ∧
    ∀ access, Loads s'.db access → ∀ role ∈ access.roles,
      (∃ user, (s'.db users).find? access.userId = some user ∧ user.role = role) ∨
        ∃ id row, (s'.db userRoles).find? id = some row ∧ row.userId = access.userId ∧
          row.roleCode = role ∧ (Kept s id row ∨ Granted events id row) := by
  have opens : Traced s [] s := by
    refine ⟨consistent, ?_, ?_⟩
    · intro key request present
      exact absurd present (idle key request)
    · intro id row found active
      exact Or.inl ⟨row, found, active, rfl, rfl⟩
  have traced : Traced s ([] ++ events) s' := run.traced (Traced s) step_traced opens
  refine ⟨traced.granted, ?_⟩
  rintro access ⟨sessions, sha256, token, now, nowIso, loaded⟩ role member
  obtain ⟨user, found, -, roles⟩ := Auth.loadSessionContext_loads loaded
  rw [roles, List.mem_eraseDups, List.mem_cons] at member
  rcases member with rfl | delegated
  · exact Or.inl ⟨user, found, rfl⟩
  · obtain ⟨id, row, held, own, code, current⟩ := Auth.mem_delegatedRoles.mp delegated
    have active : row.status = .active := by
      rw [Auth.inForce, Bool.and_eq_true, Bool.and_eq_true, beq_iff_eq] at current
      exact current.1.1
    exact Or.inr ⟨id, row, held, own, code, traced.granted id row held active⟩

/-! ### An auditor for two months -/

def administrator (name : String) : User :=
  { role := .admin, active := true, email := name, name, organizationName := "O" }

def worker : User :=
  { role := .supplyChain, active := true, email := "w", name := "W", organizationName := "O" }

def adminContext (userId : Nat) : AccessContext :=
  { userId, sessionId := some 1, roles := [.admin], factoryId := none, supplierId := none }

def commandOf (userId : Nat) : CommandContext where
  access := adminContext userId
  now := 5
  clock := 5
  clockText := "2026-01-01T00:00:00.005Z"
  today := "2026-01-01"
  randomUUID := fun draw => toString draw
  sha256 := fun text => text

def approvalChallenge : AuthChallenge where
  challengeNo := "C"
  userId := 2
  sessionId := some 1
  highRisk := true
  action := "review"
  objectType := "approval"
  objectId := 1
  objectVersion := 5
  requestDigest := canonical (.object [("id", .number 1), ("decision", .text "approved"),
    ("comment", .text "")])
  verified := true
  consumedAt := none
  expiresAt := 9

def twoAdministrators : State where
  db := (emptyDatabase.put users (((Table.empty.insert (administrator "A")).insert
    (administrator "B")).insert worker)).put authChallenges (Table.empty.insert approvalChallenge)
  expired _ := false

def sessionOf (userId : Nat) : Table AuthSession :=
  Table.empty.insert { tokenHash := "T", userId, revokedAt := none, expiresAt := 9 }

def auditing : AssignUserRole where
  userId := 3
  roleCode := "finance"
  effectiveFrom := "2026-01-01"
  effectiveTo := some "2026-02-28"
  reason := "audit"

def approval : Approvals.DecideApproval :=
  { id := 1, decision := .approved, challengeNo := some "C" }

/-- What a transaction that commits leaves. -/
def afterwards {writes : List TableName} {α : Type} (m : Tx writes α) (db : Database) : Database :=
  match m.run db with
  | .ok committed => committed.store
  | .error _ => db

theorem returns_afterwards {writes : List TableName} {α : Type} {m : Tx writes α} {db : Database}
    (commits : (m.run db).isOk = true) :
    ∃ reply sent, m.Returns db reply sent (afterwards m db) := by
  cases ran : m.run db with
  | error failure =>
      rw [ran] at commits
      cases commits
  | ok committed =>
      refine ⟨committed.value, committed.sent, ?_⟩
      rw [Returns, afterwards, ran]

def assigning (userId : Nat) : Tx [userRoles, approvalRequests] JsonValue :=
  assignUserRole (fun _ => false) (commandOf userId) "0123456789abcdef" auditing

def auditorRequested : State :=
  { twoAdministrators with db := afterwards (assigning 1) twoAdministrators.db }

def auditorApproved : State :=
  { auditorRequested with
    db := afterwards (Approvals.decideApproval noProcurement (commandOf 2) approval)
      auditorRequested.db }

/-- The session of the administrator is accepted. -/
def accepted (db : Database) (userId : Nat) : Bool :=
  match Auth.loadSessionContext db (sessionOf userId) id "T" 5 "2026-01-01T00:00:00.005Z" with
  | .ok access => access.userId == userId && access.sessionId == some 1 &&
      access.roles == [.admin] && access.factoryId == none && access.supplierId == none
  | .error _ => false

theorem loads_of_accepted {db : Database} {userId : Nat} (accepts : accepted db userId = true) :
    Loads db (adminContext userId) := by
  unfold accepted at accepts
  split at accepts
  · rename_i access loaded
    simp only [Bool.and_eq_true, beq_iff_eq] at accepts
    obtain ⟨⟨⟨⟨own, session⟩, roles⟩, factory⟩, supplier⟩ := accepts
    have same : access = adminContext userId := by
      obtain ⟨a, b, c, d, e⟩ := access
      subst own session roles factory supplier
      rfl
    exact ⟨_, _, _, _, _, same ▸ loaded⟩
  · cases accepts

theorem unrequested_consistent {db : Database} (roles : db userRoles = Table.empty)
    (requests : db approvalRequests = Table.empty) : Consistent ⟨db, fun _ => false⟩ := by
  have nothing : ∀ key request, ¬ RoleRequest db key request := by
    rintro key request ⟨found, -, -⟩
    rw [requests] at found
    cases found
  refine ⟨?_, ?_, ?_, ?_, ?_, ?_⟩
  · intro id id' row row' found
    dsimp only at found
    rw [roles] at found
    cases found
  · intro id row found
    dsimp only at found
    rw [roles] at found
    cases found
  · intro key key' request request' present
    exact absurd present (nothing key request)
  · intro key request present
    exact absurd present (nothing key request)
  · intro key request present
    exact absurd present (nothing key request)
  · intro id expired
    cases expired

theorem auditor_run : Run (Step noProcurement) twoAdministrators
    [.assign (adminContext 1) 3 .finance 1 1, .decide (adminContext 2) 1 .approved]
    auditorApproved := by
  obtain ⟨_, _, assigned⟩ := @returns_afterwards _ _ (assigning 1) twoAdministrators.db
    (by decide +kernel)
  obtain ⟨_, _, approved⟩ := @returns_afterwards _ _
    (Approvals.decideApproval noProcurement (commandOf 2) approval) auditorRequested.db
    (by decide +kernel)
  have requests : Step noProcurement twoAdministrators
      (.assign (adminContext 1) 3 .finance 1 1) auditorRequested :=
    Step.assign (loads_of_accepted (by decide +kernel)) rfl assigned
  have decides : Step noProcurement auditorRequested (.decide (adminContext 2) 1 .approved)
      auditorApproved :=
    Step.decide (loads_of_accepted (by decide +kernel)) approved
  exact Run.next requests (Run.single decides)

theorem granted_by_two_auditor : ∃ row, (auditorApproved.db userRoles).find? 1 = some row ∧
    row.status = .active ∧
      Granted [.assign (adminContext 1) 3 .finance 1 1, .decide (adminContext 2) 1 .approved]
        1 row := by
  have idle : ∀ key request, ¬ RoleRequest twoAdministrators.db key request := by
    rintro key request ⟨found, -, -⟩
    cases found
  have approved : ((auditorApproved.db userRoles).find? 1).any
      (fun row => row.status == .active) = true := by decide +kernel
  obtain ⟨row, found, active⟩ := (Option.any_eq_true _ _).mp approved
  rw [beq_iff_eq] at active
  refine ⟨row, found, active, ?_⟩
  rcases (granted_by_two (unrequested_consistent rfl rfl) idle auditor_run).1 1 row found active
    with ⟨old, none, -⟩ | brought
  · cases none
  · exact brought

/-! ## A single administrator -/

/-- The user administers by the main role or by an active row. -/
def Administrator (db : Database) (userId : Nat) : Prop :=
  (∃ user, (db users).find? userId = some user ∧ user.role = .admin) ∨
    ∃ id row, (db userRoles).find? id = some row ∧ row.userId = userId ∧
      row.roleCode = .admin ∧ row.status = .active

theorem Loads.administrator {db : Database} {access : AccessContext} (loaded : Loads db access)
    (admin : .admin ∈ access.roles) : Administrator db access.userId := by
  obtain ⟨sessions, sha256, token, now, nowIso, loaded⟩ := loaded
  obtain ⟨user, found, -, roles⟩ := Auth.loadSessionContext_loads loaded
  rw [roles, List.mem_eraseDups, List.mem_cons] at admin
  rcases admin with main | delegated
  · exact Or.inl ⟨user, found, main.symm⟩
  · obtain ⟨id, row, held, own, code, current⟩ := Auth.mem_delegatedRoles.mp delegated
    rw [Auth.inForce, Bool.and_eq_true, Bool.and_eq_true, beq_iff_eq] at current
    exact Or.inr ⟨id, row, held, own, code, current.1.1⟩

/-- Nobody has become an administrator, no role has become active, the requests are those of
administrators, and none of them has been decided. -/
structure Unchanged (begin s : State) : Prop where
  main : ∀ id user, (s.db users).find? id = some user → user.role = .admin →
    ∃ before, (begin.db users).find? id = some before ∧ before.role = .admin
  active : ∀ id row, (s.db userRoles).find? id = some row → row.status = .active →
    Kept begin id row
  own : ∀ key request, RoleRequest s.db key request →
    Administrator begin.db request.requestedBy
  waiting : ∀ key request, RoleRequest begin.db key request → RoleRequest s.db key request

theorem Unchanged.administrator {begin : State} (unchanged : Unchanged begin s) {userId : Nat}
    (admin : Administrator s.db userId) : Administrator begin.db userId := by
  rcases admin with ⟨user, found, main⟩ | ⟨id, row, found, rfl, code, active⟩
  · exact Or.inl (unchanged.main userId user found main)
  · obtain ⟨old, held, before, owner, coded⟩ := unchanged.active id row found active
    exact Or.inr ⟨id, old, held, owner, coded.trans code, before⟩

theorem Unchanged.asks {begin : State} (unchanged : Unchanged begin s)
    {command : CommandContext} {asked : ApprovalRequest} (loaded : Loads s.db command.access)
    (admin : .admin ∈ command.access.roles) (accounts : s'.db users = s.db users)
    (active : ∀ id row, (s'.db userRoles).find? id = some row → row.status = .active →
      (s.db userRoles).find? id = some row)
    (inserted : s'.db approvalRequests = (s.db approvalRequests).insert asked)
    (workflow : asked.workflowType = .userRoleChange) (pending : asked.status = .pending)
    (own : asked.requestedBy = command.access.userId) : Unchanged begin s' := by
  have requests := roleRequest_insert inserted workflow pending
  refine ⟨?_, ?_, ?_, ?_⟩
  · rw [accounts]
    exact unchanged.main
  · intro id row found live
    exact unchanged.active id row (active id row found live) live
  · intro key request present
    rcases (requests key request).mp present with old | ⟨-, rfl⟩
    · exact unchanged.own key request old
    · rw [own]
      exact unchanged.administrator (loaded.administrator admin)
  · intro key request present
    exact (requests key request).mpr (Or.inl (unchanged.waiting key request present))

theorem step_unchanged {begin : State}
    (lone : ∀ a b, Administrator begin.db a → Administrator begin.db b → a = b)
    (step : Step effects s event s') (unchanged : Unchanged begin s) : Unchanged begin s' := by
  cases step_does step with
  | assigned loaded did =>
      obtain ⟨requestNo, inserted⟩ := did.requests
      refine unchanged.asks loaded did.admin (did.kept users (by decide) (by decide)) ?_ inserted
        rfl rfl rfl
      intro id row found active
      dsimp only at found
      rw [did.roles] at found
      rcases Table.find?_insert_cases found with ⟨-, rfl⟩ | old
      · cases active
      · exact old
  | revoking loaded did =>
      obtain ⟨requestNo, role, inserted⟩ := did.requests
      refine unchanged.asks loaded did.admin (did.kept users (by decide)) ?_ inserted rfl rfl rfl
      intro id row found active
      exact did.kept userRoles (by decide) ▸ found
  | decided loaded workflow did =>
      -- the reviewer is an administrator, and so was the requester: they are one
      have requester := unchanged.own _ _ ⟨did.found, workflow, did.pending⟩
      have reviewer := unchanged.administrator (loaded.administrator (did.role workflow).1)
      exact absurd (lone _ _ requester reviewer) did.separate
  | @expired today =>
      refine ⟨?_, ?_, ?_, ?_⟩
      · have accounts : (s.expireRoles today).db users = s.db users := by
          simp [State.expireRoles]
        rw [accounts]
        exact unchanged.main
      · intro id row found active
        rcases expireRoles_row found with ⟨held, -⟩ | ⟨revoked, -⟩
        · exact unchanged.active id row held active
        · rw [revoked] at active
          cases active
      · simpa only [expireRoles_requests] using unchanged.own
      · simpa only [expireRoles_requests] using unchanged.waiting
  | nothing roles requests expired main =>
      refine ⟨?_, ?_, ?_, ?_⟩
      · intro id user found admin
        obtain ⟨before, held, same⟩ := main id user found admin
        exact unchanged.main id before held same
      · rw [roles]
        exact unchanged.active
      · simpa only [requests] using unchanged.own
      · simpa only [requests] using unchanged.waiting

/-- While one user at most is an administrator, nobody becomes one, no role becomes active and
no request about a role is decided: what the additional roles can do is expire. -/
theorem lone_administrator
    (lone : ∀ a b, Administrator s.db a → Administrator s.db b → a = b)
    (own : ∀ key request, RoleRequest s.db key request → Administrator s.db request.requestedBy)
    (run : Run (Step effects) s events s') :
    (∀ userId, Administrator s'.db userId → Administrator s.db userId) ∧
      (∀ id row, (s'.db userRoles).find? id = some row → row.status = .active → Kept s id row) ∧
      ∀ key request, RoleRequest s.db key request → RoleRequest s'.db key request := by
  have opens : Unchanged s s := by
    refine ⟨?_, ?_, own, ?_⟩
    · intro id user found admin
      exact ⟨user, found, admin⟩
    · intro id row found active
      exact ⟨row, found, active, rfl, rfl⟩
    · intro key request present
      exact present
  have unchanged := run.preserves (Unchanged s) (step_unchanged lone) opens
  exact ⟨fun _ => unchanged.administrator, unchanged.active, unchanged.waiting⟩

def oneAdministrator : State where
  db := emptyDatabase.put users
    (((Table.empty.insert (administrator "A")).insert worker).insert worker)
  expired _ := false

/-- The administrator requests the role, and nobody can approve it. -/
def loneRequest : State :=
  { oneAdministrator with db := afterwards (assigning 1) oneAdministrator.db }

theorem oneAdministrator_only {userId : Nat}
    (admin : Administrator oneAdministrator.db userId) : userId = 1 := by
  rcases admin with ⟨user, found, admin⟩ | ⟨id, row, found, -⟩
  · dsimp only [oneAdministrator] at found
    rw [Store.put_same] at found
    rcases Table.find?_insert_cases found with ⟨-, rfl⟩ | earlier
    · cases admin
    · rcases Table.find?_insert_cases earlier with ⟨-, rfl⟩ | first
      · cases admin
      · rcases Table.find?_insert_cases first with ⟨same, -⟩ | none
        · exact same
        · cases none
  · cases found

theorem lone_administrator_waits :
    Run (Step noProcurement) oneAdministrator [.assign (adminContext 1) 3 .finance 1 1]
      loneRequest ∧
      ∀ userId, Administrator loneRequest.db userId → Administrator oneAdministrator.db userId := by
  obtain ⟨_, _, assigned⟩ := @returns_afterwards _ _ (assigning 1) oneAdministrator.db
    (by decide +kernel)
  have requests : Step noProcurement oneAdministrator (.assign (adminContext 1) 3 .finance 1 1)
      loneRequest :=
    Step.assign (loads_of_accepted (by decide +kernel)) rfl assigned
  have run := Run.single requests
  refine ⟨run, (lone_administrator ?_ ?_ run).1⟩
  · intro a b first second
    rw [oneAdministrator_only first, oneAdministrator_only second]
  · rintro key request ⟨found, -, -⟩
    cases found

/-! ## Requests that nobody can decide -/

theorem status_pending {id : Nat} : s.status id = some .pending ↔
    ∃ row, (s.db userRoles).find? id = some row ∧ row.status = .pending := by
  rw [State.status, Option.map_eq_some_iff]
  refine exists_congr fun row => and_congr_right fun _ => ?_
  cases row.status with
  | pending | active => simp
  | revoked => cases expired : s.expired id <;> simp

theorem status_expired {id : Nat} : s.status id = some .expired ↔
    ∃ row, (s.db userRoles).find? id = some row ∧ row.status = .revoked ∧
      s.expired id = true := by
  rw [State.status, Option.map_eq_some_iff]
  refine exists_congr fun row => and_congr_right fun _ => ?_
  cases row.status with
  | pending | active => simp
  | revoked => cases expired : s.expired id <;> simp

/-- The request is pending and its assignment is over. -/
structure Stranded (key : Nat) (request : ApprovalRequest) (s : State) : Prop where
  waiting : RoleRequest s.db key request
  ended : ∃ row, (s.db userRoles).find? request.entityId = some row ∧ row.status = .revoked

theorem step_stranded {key : Nat} {request : ApprovalRequest} (step : Step effects s event s')
    (stranded : Stranded key request s) : Stranded key request s' := by
  obtain ⟨waiting, row, found, revoked⟩ := stranded
  cases step_does step with
  | assigned loaded did =>
      obtain ⟨requestNo, inserted⟩ := did.requests
      refine ⟨(roleRequest_insert inserted rfl rfl key request).mpr (Or.inl waiting), row, ?_,
        revoked⟩
      dsimp only
      rw [did.roles]
      exact Table.find?_insert_of_some found
  | revoking loaded did =>
      obtain ⟨requestNo, role, inserted⟩ := did.requests
      refine ⟨(roleRequest_insert inserted rfl rfl key request).mpr (Or.inl waiting), row, ?_,
        revoked⟩
      dsimp only
      rw [did.kept userRoles (by decide)]
      exact found
  | @decided command body other db' loaded workflow did =>
      -- a decision insists on an assignment that is not over
      have apart : request.entityId ≠ other.entityId := by
        intro same
        obtain ⟨-, ⟨held, present, expected⟩, -⟩ := did.role workflow
        rw [← same] at present
        obtain rfl : held = row := Option.some.inj (present.symm.trans found)
        exact expects_ne_revoked other (expected.symm.trans revoked)
      refine ⟨did.roleRequest.mpr ⟨?_, waiting⟩, row, did.keeps workflow apart found, revoked⟩
      rintro rfl
      obtain rfl : request = other := Option.some.inj (waiting.found.symm.trans did.found)
      exact apart rfl
  | @expired today =>
      have later := expireRoles_find today found
      rw [if_neg fun late => by simp [lapsed_active late] at revoked] at later
      exact ⟨(expireRoles_requests _ _).mpr waiting, row, later, revoked⟩
  | nothing roles requests expired main =>
      exact ⟨(requests key request).mpr waiting, row, roles ▸ found, revoked⟩

/-- In every state of a run a user has at most one live assignment of a role, the assignments
that are pending are those that one pending request assigns, and no two pending requests are
about one assignment. A pending request can be decided either way as long as its assignment
has not expired; once it has, the request stays pending for ever. -/
theorem role_requests_exact (consistent : Consistent s)
    (run : Run (Step effects) s events s') :
    (∀ id id' row row', (s'.db userRoles).find? id = some row →
      (s'.db userRoles).find? id' = some row' → row.status ≠ .revoked → row'.status ≠ .revoked →
        row.userId = row'.userId → row.roleCode = row'.roleCode → id = id') ∧
    (∀ id, s'.status id = some .pending ↔ ∃ key request, RoleRequest s'.db key request ∧
      request.entityId = id ∧ revokes request.payload = false) ∧
    ∀ key request, RoleRequest s'.db key request →
      (∀ other request', RoleRequest s'.db other request' →
        request'.entityId = request.entityId → other = key) ∧
      (∀ command decision, (∃ reply sent db',
        (ApprovalEffects.userRoleChange command request decision).Returns s'.db reply sent db') ↔
          s'.status request.entityId ≠ some .expired) ∧
      (s'.status request.entityId = some .expired →
        ∀ rest last, Run (Step effects) s' rest last → RoleRequest last.db key request) := by
  have later := run_consistent run consistent
  refine ⟨later.single, ?_, ?_⟩
  · intro id
    rw [status_pending]
    constructor
    · rintro ⟨row, found, pending⟩
      obtain ⟨key, request, present, rfl⟩ := later.asked id row found pending
      refine ⟨key, request, present, rfl, ?_⟩
      obtain ⟨held, same, status⟩ := later.subject key request present
      obtain rfl : held = row := Option.some.inj (same.symm.trans found)
      rcases status with expected | ⟨-, revoked, -⟩
      · rw [pending, expects] at expected
        split at expected
        · cases expected
        · rwa [Bool.not_eq_true] at *
      · rw [pending] at revoked
        cases revoked
    · rintro ⟨key, request, present, rfl, assigns⟩
      obtain ⟨row, found, expected | ⟨revoke, -⟩⟩ := later.subject key request present
      · exact ⟨row, found, by rw [expected, expects, assigns]; rfl⟩
      · rw [assigns] at revoke
        cases revoke
  · intro key request present
    obtain ⟨row, found, status⟩ := later.subject key request present
    refine ⟨?_, ?_, ?_⟩
    · intro other request' present' same
      exact later.once other key request' request present' present same
    · intro command decision
      rw [userRoleChange_returns_iff, Ne, status_expired]
      constructor
      · rintro ⟨-, held, same, expected⟩ ⟨late, gone, revoked, -⟩
        obtain rfl : held = late := Option.some.inj (same.symm.trans gone)
        exact expects_ne_revoked request (expected.symm.trans revoked)
      · intro lasting
        rcases status with expected | ⟨-, revoked, expired⟩
        · exact ⟨later.object key request present, row, found, expected⟩
        · exact absurd ⟨row, found, revoked, expired⟩ lasting
    · intro expired rest last onwards
      obtain ⟨late, gone, revoked, -⟩ := status_expired.mp expired
      have stranded := onwards.preserves (Stranded key request) step_stranded
        ⟨present, late, gone, revoked⟩
      exact stranded.waiting

/-! ### A revocation that comes too late -/

def revoking : Tx [approvalRequests] JsonValue :=
  revokeUserRole (commandOf 1) "0123456789abcdef" { roleAssignmentId := 1, reason := "done" }

/-- The auditor is to be revoked in the two months, and the request waits until they are over. -/
def auditorExpired : State :=
  { auditorApproved with db := afterwards revoking auditorApproved.db }.expireRoles "2026-03-01"

theorem expired_run :
    ∃ events, Run (Step noProcurement) twoAdministrators events auditorExpired := by
  obtain ⟨_, _, revoked⟩ := @returns_afterwards _ _ revoking auditorApproved.db (by decide +kernel)
  have requests : Step noProcurement auditorApproved (.revoke (adminContext 1) 1 2)
      { auditorApproved with db := afterwards revoking auditorApproved.db } :=
    Step.revoke (loads_of_accepted (by decide +kernel)) revoked
  exact ⟨_, auditor_run.append (Run.next requests (Run.single Step.expire))⟩

theorem role_requests_exact_late : auditorExpired.status 1 = some .expired ∧
    ∃ request, RoleRequest auditorExpired.db 2 request ∧
      ∀ events last, Run (Step noProcurement) auditorExpired events last →
        RoleRequest last.db 2 request := by
  obtain ⟨events, run⟩ := expired_run
  have exact := (role_requests_exact (unrequested_consistent rfl rfl) run).2.2
  have expired : auditorExpired.status 1 = some .expired := by decide +kernel
  have waits : ((auditorExpired.db approvalRequests).find? 2).any (fun request =>
      request.workflowType == .userRoleChange && request.status == .pending &&
        request.entityId == 1) = true := by decide +kernel
  obtain ⟨request, found, kind⟩ := (Option.any_eq_true _ _).mp waits
  simp only [Bool.and_eq_true, beq_iff_eq] at kind
  have present : RoleRequest auditorExpired.db 2 request := ⟨found, kind.1.1, kind.1.2⟩
  refine ⟨expired, request, present, (exact 2 request present).2.2 ?_⟩
  rw [kind.2]
  exact expired

end SupplyChain.UserRoles
