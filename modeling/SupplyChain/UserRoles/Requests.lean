import SupplyChain.UserRoles

/-!
What each step does to the assignments and to the pending requests about them, and what
follows for every run: a user has at most one live assignment of a role, every assignment that
is pending is the subject of one pending request, and a request about an assignment that has
expired stays pending for ever.
-/

namespace SupplyChain.UserRoles

open Relational Transaction TableName
open ApprovalEffects (revokes)

variable {effects : Approvals.ProcurementEffects} {command : CommandContext} {db db' : Database}
  {disabled : Nat → Bool} {idempotencyKey : String} {role : Role} {reply : JsonValue}
  {sent : List DomainEvent} {s s' : State} {event : Event} {events : List Event}

/-! ## What was requested -/

/-- What an assignment that was requested did. -/
structure Assigned (command : CommandContext) (body : AssignUserRole) (role : Role)
    (db db' : Database) : Prop where
  admin : .admin ∈ command.access.roles
  free : ∀ id row, (db userRoles).find? id = some row → row.userId = body.userId →
    row.roleCode = role → row.status = .revoked
  roles : db' userRoles = (db userRoles).insert (body.row role)
  requests : ∃ requestNo, db' approvalRequests = (db approvalRequests).insert
    (pendingApproval command requestNo .userRoleChange "user_role" (db userRoles).nextId
      body.payload true)
  kept : ∀ t, t ≠ userRoles → t ≠ approvalRequests → db' t = db t

theorem assignUserRole_returns {body : AssignUserRole}
    (code : assignableRoles.lookup (trim body.roleCode) = some role)
    (returns : (assignUserRole disabled command idempotencyKey body).Returns db reply sent db') :
    Assigned command body role db db' := by
  simp only [assignUserRole, code, returns_bind_requireWriteAccess, returns_bind_lockedUser,
    returns_bind_refuseIf, returns_bind_orThrow, returns_bind_query, returns_bind_insertInto,
    returns_bind_insertApproval, returns_pure, Option.some.injEq] at returns
  obtain ⟨⟨admin, -⟩, _, rfl, -, target, -, -, vacant, -, -, -, -, -, rfl⟩ := returns
  rw [not_or, Bool.not_eq_true, Table.any_eq_false] at vacant
  refine ⟨admin, ?_, ?_, ⟨assignmentNo command.access.userId idempotencyKey, ?_⟩, ?_⟩
  · intro id row found owned same
    have none := vacant.2 id row found
    cases status : row.status with
    | revoked => rfl
    | pending | active => simp [owned, same, status] at none
  · rw [Store.put_other _ _ (by decide), Store.put_same]
  · rw [Store.put_same, Store.put_other _ _ (by decide)]
  · intro t roles requests
    rw [Store.put_other _ _ requests, Store.put_other _ _ roles]

/-- What a revocation that was requested did. -/
structure Revoking (command : CommandContext) (body : RevokeUserRole) (db db' : Database) :
    Prop where
  admin : .admin ∈ command.access.roles
  active : ∃ row, (db userRoles).find? body.roleAssignmentId = some row ∧ row.status = .active
  free : ∀ key request, RoleRequest db key request → request.entityId ≠ body.roleAssignmentId
  requests : ∃ requestNo role, db' approvalRequests = (db approvalRequests).insert
    (pendingApproval command requestNo .userRoleChange "user_role" body.roleAssignmentId
      (body.payload role) true)
  kept : ∀ t, t ≠ approvalRequests → db' t = db t

theorem revokeUserRole_returns {body : RevokeUserRole}
    (returns : (revokeUserRole command idempotencyKey body).Returns db reply sent db') :
    Revoking command body db db' := by
  simp only [revokeUserRole, returns_bind_requireWriteAccess, returns_bind_lockedUser,
    returns_bind_refuseIf, returns_bind_orThrow, returns_bind_select, returns_bind_query,
    returns_bind_insertApproval, returns_pure] at returns
  obtain ⟨⟨admin, -⟩, row, found, active, -, target, -, vacant, -, -, -, -, rfl⟩ := returns
  rw [Bool.not_eq_true, Table.any_eq_false] at vacant
  refine ⟨admin, ⟨row, found, not_not.mp active⟩, ?_,
    ⟨revocationNo command.access.userId idempotencyKey, row, ?_⟩, ?_⟩
  · rintro key request ⟨present, workflow, pending⟩ same
    have none := vacant key request present
    simp [workflow, pending, same] at none
  · rw [Store.put_same]
  · intro t requests
    rw [Store.put_other _ _ requests]

/-! ## What was decided -/

/-- The status that an assignment must have for the request to be decided. -/
def expects (request : ApprovalRequest) : UserRoleStatus :=
  if revokes request.payload then .active else .pending

def decidedStatus (request : ApprovalRequest) (decision : Decision) : UserRoleStatus :=
  if revokes request.payload = decide (decision = .approved) then .revoked else .active

theorem parsedPayload_returns {payload value : JsonValue}
    (returns : (parsedPayload payload : Tx writes JsonValue).Returns db value sent db') :
    value = payload ∧ sent = [] ∧ db' = db := by
  cases payload with
  | object members => exact returns_pure.mp returns
  | null | boolean | number | text | array => cases returns

theorem userRoleChange_returns_iff {request : ApprovalRequest} {decision : Decision} :
    (∃ reply sent db',
      (ApprovalEffects.userRoleChange command request decision).Returns db reply sent db') ↔
      (∃ members, request.payload = .object members) ∧
        ∃ row, (db userRoles).find? request.entityId = some row ∧ row.status = expects request := by
  constructor
  · rintro ⟨reply, sent, db', returns⟩
    rw [ApprovalEffects.userRoleChange,
      returns_bind_of_reads ApprovalEffects.parsedPayload_reads] at returns
    obtain ⟨payload, parsed, returns⟩ := returns
    obtain rfl := (parsedPayload_returns parsed).1
    rw [returns_bind_updateRow] at returns
    obtain ⟨⟨row, found, expected⟩, -⟩ := returns
    refine ⟨?_, row, found, beq_iff_eq.mp expected⟩
    cases read : request.payload with
    | object members => exact ⟨members, rfl⟩
    | null | boolean | number | text | array => simp [read, parsedPayload] at parsed
  · rintro ⟨⟨members, object⟩, row, found, expected⟩
    have parsed : (parsedPayload request.payload : Tx [userRoles] JsonValue).Returns db
        request.payload [] db := by
      rw [object]
      exact returns_pure.mpr ⟨rfl, rfl, rfl⟩
    simp only [ApprovalEffects.userRoleChange,
      returns_bind_of_reads ApprovalEffects.parsedPayload_reads, returns_bind_updateRow,
      returns_pure]
    exact ⟨_, _, _, request.payload, parsed, ⟨row, found, beq_iff_eq.mpr expected⟩, rfl, rfl, rfl⟩

theorem userRoleChange_changes {request : ApprovalRequest} {decision : Decision}
    (returns : (ApprovalEffects.userRoleChange command request decision).Returns
      db reply sent db') :
    (∃ row, (db userRoles).find? request.entityId = some row ∧ row.status = expects request) ∧
      db' userRoles = (db userRoles).modify request.entityId fun row =>
        { row with
          status := decidedStatus request decision
          reviewedBy := some command.access.userId } := by
  rw [ApprovalEffects.userRoleChange,
    returns_bind_of_reads ApprovalEffects.parsedPayload_reads] at returns
  obtain ⟨payload, parsed, returns⟩ := returns
  obtain rfl := (parsedPayload_returns parsed).1
  simp only [returns_bind_updateRow, returns_pure, beq_iff_eq] at returns
  obtain ⟨found, -, -, rfl⟩ := returns
  exact ⟨found, Store.put_same ..⟩

/-- The effect of a request of another workflow leaves the assignments as they are. -/
theorem approvalEffect_roles {key : Nat} {request : ApprovalRequest} {decision : Decision}
    (other : request.workflowType ≠ .userRoleChange)
    (returns : (Approvals.approvalEffect effects command key request decision).Returns
      db reply sent db') : db' userRoles = db userRoles := by
  unfold Approvals.approvalEffect at returns
  cases workflow : request.workflowType with
  | userRoleChange => exact absurd workflow other
  | warehouseTransfer | warehouseMerge | stocktakeVariance | productionVariance
  | shipmentDeviation | financialRecordCorrection | procurement =>
      simp only [workflow, returns_widen] at returns
      exact returns.unwritten _ (by decide)

/-- What the decision of a request did. -/
structure Decides (command : CommandContext) (body : Approvals.DecideApproval)
    (request : ApprovalRequest) (db db' : Database) : Prop where
  found : (db approvalRequests).find? body.id = some request
  pending : request.status = .pending
  separate : request.requestedBy ≠ command.access.userId
  requests : ∃ change : ApprovalRequest → ApprovalRequest,
    db' approvalRequests = (db approvalRequests).modify body.id change ∧
      ∀ row, (change row).status ≠ .pending
  role : request.workflowType = .userRoleChange → .admin ∈ command.access.roles ∧
    (∃ row, (db userRoles).find? request.entityId = some row ∧ row.status = expects request) ∧
      db' userRoles = (db userRoles).modify request.entityId fun row =>
        { row with
          status := decidedStatus request body.decision
          reviewedBy := some command.access.userId }
  other : request.workflowType ≠ .userRoleChange → db' userRoles = db userRoles
  users : db' users = db users

theorem hasRole_admin {access : AccessContext} :
    hasRole access [.admin] = true ↔ .admin ∈ access.roles := by
  simp [hasRole]

theorem decideApproval_decides {body : Approvals.DecideApproval}
    (returns : (Approvals.decideApproval effects command body).Returns db reply sent db') :
    ∃ request, Decides command body request db db' := by
  obtain ⟨-, request, mid, decided⟩ := Approvals.decideApproval_returns returns
  obtain ⟨claimant, -, found, admitted, -⟩ := Approvals.decideApproval_claims returns
  obtain rfl : claimant = request := Option.some.inj (found.symm.trans decided.found)
  obtain ⟨change, changed, after⟩ := decided.decided
  obtain ⟨outcome, effect⟩ := decided.effect
  have before := decided.kept userRoles (by decide) (by decide)
  refine ⟨claimant, found, decided.pending, decided.separate, ⟨change, ?_, ?_⟩, ?_, ?_, ?_⟩
  · rw [effect.unwritten _ (by decide), changed]
  · intro row
    rw [(after row).1]
    cases body.decision <;> decide
  · intro workflow
    rw [workflow] at admitted
    simp only [Approvals.approvalEffect, workflow, returns_widen] at effect
    have changes := userRoleChange_changes effect
    rw [before] at changes
    exact ⟨hasRole_admin.mp admitted, changes⟩
  · intro other
    rw [approvalEffect_roles other effect, before]
  · rw [effect.unwritten _ (by decide), decided.kept users (by decide) (by decide)]

/-! ## Pending requests -/

theorem roleRequest_congr (same : db' approvalRequests = db approvalRequests) {key : Nat}
    {request : ApprovalRequest} : RoleRequest db' key request ↔ RoleRequest db key request := by
  constructor
  · rintro ⟨found, workflow, pending⟩
    exact ⟨same ▸ found, workflow, pending⟩
  · rintro ⟨found, workflow, pending⟩
    exact ⟨same ▸ found, workflow, pending⟩

theorem roleRequest_insert {row : ApprovalRequest}
    (inserted : db' approvalRequests = (db approvalRequests).insert row)
    (workflow : row.workflowType = .userRoleChange) (pending : row.status = .pending)
    (key : Nat) (request : ApprovalRequest) :
    RoleRequest db' key request ↔
      RoleRequest db key request ∨ (key = (db approvalRequests).nextId ∧ request = row) := by
  constructor
  · rintro ⟨found, kind, open'⟩
    rw [inserted] at found
    rcases Table.find?_insert_cases found with fresh | old
    · exact Or.inr fresh
    · exact Or.inl ⟨old, kind, open'⟩
  · rintro (⟨found, kind, open'⟩ | ⟨rfl, rfl⟩)
    · exact ⟨by rw [inserted]; exact Table.find?_insert_of_some found, kind, open'⟩
    · exact ⟨by rw [inserted, Table.find?_insert, if_pos rfl], workflow, pending⟩

theorem Decides.roleRequest {body : Approvals.DecideApproval} {request other : ApprovalRequest}
    {key : Nat} (decides : Decides command body request db db') :
    RoleRequest db' key other ↔ key ≠ body.id ∧ RoleRequest db key other := by
  obtain ⟨change, changed, after⟩ := decides.requests
  constructor
  · rintro ⟨found, workflow, pending⟩
    rw [changed] at found
    rcases Table.find?_modify_cases found with ⟨-, old, -, rfl⟩ | ⟨differ, before⟩
    · exact absurd pending (after old)
    · exact ⟨differ, before, workflow, pending⟩
  · rintro ⟨differ, found, workflow, pending⟩
    exact ⟨by rw [changed, Table.find?_modify_ne _ _ differ]; exact found, workflow, pending⟩

/-! ## What a step does -/

/-- What a step does to the assignments and to the pending requests about them. -/
inductive Does (s : State) : Event → State → Prop
  | assigned {command : CommandContext} {body : AssignUserRole} {role : Role} {db' : Database}
      (loaded : Loads s.db command.access) (did : Assigned command body role s.db db') :
      Does s (.assign command.access body.userId role (s.db userRoles).nextId
        (s.db approvalRequests).nextId) { s with db := db' }
  | revoking {command : CommandContext} {body : RevokeUserRole} {event : Event} {db' : Database}
      (loaded : Loads s.db command.access) (did : Revoking command body s.db db') :
      Does s event { s with db := db' }
  | decided {command : CommandContext} {body : Approvals.DecideApproval}
      {request : ApprovalRequest} {db' : Database} (loaded : Loads s.db command.access)
      (workflow : request.workflowType = .userRoleChange)
      (did : Decides command body request s.db db') :
      Does s (.decide command.access body.id body.decision) { s with db := db' }
  | expired {today : String} : Does s (.expire today) (s.expireRoles today)
  | nothing {event : Event} {s' : State} (roles : s'.db userRoles = s.db userRoles)
      (requests : ∀ key request, RoleRequest s'.db key request ↔ RoleRequest s.db key request)
      (expired : s'.expired = s.expired)
      (main : ∀ id user, (s'.db users).find? id = some user → user.role = .admin →
        ∃ before, (s.db users).find? id = some before ∧ before.role = .admin) :
      Does s event s'

theorem step_does (step : Step effects s event s') : Does s event s' := by
  cases step with
  | assign loaded code returns => exact .assigned loaded (assignUserRole_returns code returns)
  | revoke loaded returns => exact .revoking loaded (revokeUserRole_returns returns)
  | decide loaded returns =>
      obtain ⟨request, decides⟩ := decideApproval_decides returns
      by_cases workflow : request.workflowType = .userRoleChange
      · exact .decided loaded workflow decides
      · -- the request that is decided is of another workflow
        refine .nothing (decides.other workflow) ?_ rfl ?_
        · intro key other
          rw [decides.roleRequest]
          refine ⟨fun present => present.2, fun present => ⟨?_, present⟩⟩
          rintro rfl
          obtain rfl : other = request := Option.some.inj (present.found.symm.trans decides.found)
          exact workflow present.workflow
        · intro id user found admin
          exact ⟨user, decides.users ▸ found, admin⟩
  | expire => exact .expired
  | account kept main =>
      refine .nothing (kept userRoles (by decide))
        (fun key request => roleRequest_congr (kept approvalRequests (by decide))) rfl ?_
      intro id user found admin
      rcases main id user found with ⟨before, held, same⟩ | ⟨-, created⟩
      · exact ⟨before, held, same.trans admin⟩
      · -- no account is created with the role of an administrator
        rw [admin] at created
        exact absurd created (by decide)
  | elsewhere accounts roles requests =>
      exact .nothing roles requests rfl fun id user found admin => ⟨user, accounts ▸ found, admin⟩

/-! ## Consistency -/

structure Consistent (s : State) : Prop where
  single : ∀ id id' row row', (s.db userRoles).find? id = some row →
    (s.db userRoles).find? id' = some row' → row.status ≠ .revoked → row'.status ≠ .revoked →
      row.userId = row'.userId → row.roleCode = row'.roleCode → id = id'
  asked : ∀ id row, (s.db userRoles).find? id = some row → row.status = .pending →
    ∃ key request, RoleRequest s.db key request ∧ request.entityId = id
  once : ∀ key key' request request', RoleRequest s.db key request →
    RoleRequest s.db key' request' → request.entityId = request'.entityId → key = key'
  object : ∀ key request, RoleRequest s.db key request →
    ∃ members, request.payload = .object members
  subject : ∀ key request, RoleRequest s.db key request →
    ∃ row, (s.db userRoles).find? request.entityId = some row ∧
      (row.status = expects request ∨
        revokes request.payload = true ∧ row.status = .revoked ∧
          s.expired request.entityId = true)
  lapsed : ∀ id, s.expired id = true →
    ∃ row, (s.db userRoles).find? id = some row ∧ row.status = .revoked

/-- A state with the same assignments and the same pending requests is as consistent. -/
theorem Consistent.of_same (consistent : Consistent s)
    (roles : s'.db userRoles = s.db userRoles)
    (requests : ∀ key request, RoleRequest s'.db key request ↔ RoleRequest s.db key request)
    (expired : s'.expired = s.expired) : Consistent s' := by
  obtain ⟨single, asked, once, object, subject, lapsed⟩ := consistent
  refine ⟨?_, ?_, ?_, ?_, ?_, ?_⟩
  · rwa [roles]
  · simpa only [roles, requests] using asked
  · simpa only [requests] using once
  · simpa only [requests] using object
  · simpa only [roles, requests, expired] using subject
  · rwa [roles, expired]

theorem Assigned.consistent {body : AssignUserRole} (consistent : Consistent s)
    (assigned : Assigned command body role s.db db') : Consistent { s with db := db' } := by
  obtain ⟨requestNo, inserted⟩ := assigned.requests
  have requests := roleRequest_insert inserted rfl rfl
  have fresh := (s.db userRoles).find?_nextId
  refine ⟨?_, ?_, ?_, ?_, ?_, ?_⟩
  · intro id id' row row' found found' live live' user code
    dsimp only at found found'
    rw [assigned.roles] at found found'
    rcases Table.find?_insert_cases found with ⟨rfl, rfl⟩ | old
    · rcases Table.find?_insert_cases found' with ⟨rfl, -⟩ | old'
      · rfl
      · exact absurd (assigned.free id' row' old' user.symm code.symm) live'
    · rcases Table.find?_insert_cases found' with ⟨rfl, rfl⟩ | old'
      · exact absurd (assigned.free id row old user code) live
      · exact consistent.single id id' row row' old old' live live' user code
  · intro id row found pending
    dsimp only at found ⊢
    rw [assigned.roles] at found
    rcases Table.find?_insert_cases found with ⟨rfl, rfl⟩ | old
    · exact ⟨_, _, (requests _ _).mpr (Or.inr ⟨rfl, rfl⟩), rfl⟩
    · obtain ⟨key, request, present, same⟩ := consistent.asked id row old pending
      exact ⟨key, request, (requests _ _).mpr (Or.inl present), same⟩
  · intro key key' request request' present present' same
    rcases (requests key request).mp present with old | ⟨rfl, rfl⟩
    · rcases (requests key' request').mp present' with old' | ⟨rfl, rfl⟩
      · exact consistent.once key key' request request' old old' same
      · obtain ⟨row, found, -⟩ := consistent.subject key request old
        rw [same] at found
        exact absurd (fresh.symm.trans found) (by simp)
    · rcases (requests key' request').mp present' with old' | ⟨rfl, rfl⟩
      · obtain ⟨row, found, -⟩ := consistent.subject key' request' old'
        rw [← same] at found
        exact absurd (fresh.symm.trans found) (by simp)
      · rfl
  · intro key request present
    rcases (requests key request).mp present with old | ⟨rfl, rfl⟩
    · exact consistent.object key request old
    · exact ⟨_, rfl⟩
  · intro key request present
    dsimp only
    rw [assigned.roles]
    rcases (requests key request).mp present with old | ⟨rfl, rfl⟩
    · obtain ⟨row, found, status⟩ := consistent.subject key request old
      exact ⟨row, Table.find?_insert_of_some found, status⟩
    · refine ⟨body.row role, ?_, Or.inl rfl⟩
      exact (Table.find?_insert ..).trans (if_pos rfl)
  · intro id expired
    obtain ⟨row, found, status⟩ := consistent.lapsed id expired
    refine ⟨row, ?_, status⟩
    dsimp only
    rw [assigned.roles]
    exact Table.find?_insert_of_some found

theorem Revoking.consistent {body : RevokeUserRole} (consistent : Consistent s)
    (revoking : Revoking command body s.db db') : Consistent { s with db := db' } := by
  obtain ⟨requestNo, role, inserted⟩ := revoking.requests
  have requests := roleRequest_insert inserted rfl rfl
  have roles : db' userRoles = s.db userRoles := revoking.kept _ (by decide)
  obtain ⟨row, found, active⟩ := revoking.active
  refine ⟨?_, ?_, ?_, ?_, ?_, ?_⟩
  · dsimp only
    rw [roles]
    exact consistent.single
  · intro id row found pending
    dsimp only at found ⊢
    rw [roles] at found
    obtain ⟨key, request, present, same⟩ := consistent.asked id row found pending
    exact ⟨key, request, (requests _ _).mpr (Or.inl present), same⟩
  · intro key key' request request' present present' same
    rcases (requests key request).mp present with old | ⟨rfl, rfl⟩
    · rcases (requests key' request').mp present' with old' | ⟨rfl, rfl⟩
      · exact consistent.once key key' request request' old old' same
      · exact absurd same (revoking.free key request old)
    · rcases (requests key' request').mp present' with old' | ⟨rfl, rfl⟩
      · exact absurd same.symm (revoking.free key' request' old')
      · rfl
  · intro key request present
    rcases (requests key request).mp present with old | ⟨rfl, rfl⟩
    · exact consistent.object key request old
    · exact ⟨_, rfl⟩
  · intro key request present
    dsimp only
    rw [roles]
    rcases (requests key request).mp present with old | ⟨rfl, rfl⟩
    · exact consistent.subject key request old
    · exact ⟨row, found, Or.inl active⟩
  · dsimp only
    rw [roles]
    exact consistent.lapsed

theorem expects_ne_revoked (request : ApprovalRequest) : expects request ≠ .revoked := by
  unfold expects
  split <;> decide

theorem decidedStatus_ne_pending (request : ApprovalRequest) (decision : Decision) :
    decidedStatus request decision ≠ .pending := by
  unfold decidedStatus
  split <;> decide

/-- A row after the decision is as before, or it is the subject of the request. -/
theorem Decides.row {body : Approvals.DecideApproval} {request : ApprovalRequest} {id : Nat}
    {row : UserRole} (decides : Decides command body request db db')
    (workflow : request.workflowType = .userRoleChange)
    (found : (db' userRoles).find? id = some row) :
    (id ≠ request.entityId ∧ (db userRoles).find? id = some row) ∨
      (id = request.entityId ∧ row.status = decidedStatus request body.decision ∧
        ∃ old, (db userRoles).find? id = some old ∧ old.status = expects request ∧
          old.userId = row.userId ∧ old.roleCode = row.roleCode) := by
  obtain ⟨-, ⟨old, present, expected⟩, changed⟩ := decides.role workflow
  rw [changed] at found
  rcases Table.find?_modify_cases found with ⟨rfl, before, held, rfl⟩ | ⟨differ, same⟩
  · obtain rfl : before = old := Option.some.inj (held.symm.trans present)
    exact Or.inr ⟨rfl, rfl, before, held, expected, rfl, rfl⟩
  · exact Or.inl ⟨differ, same⟩

/-- A row before the decision that is not the subject of the request stays. -/
theorem Decides.keeps {body : Approvals.DecideApproval} {request : ApprovalRequest} {id : Nat}
    {row : UserRole} (decides : Decides command body request db db')
    (workflow : request.workflowType = .userRoleChange) (differ : id ≠ request.entityId)
    (found : (db userRoles).find? id = some row) : (db' userRoles).find? id = some row := by
  rw [(decides.role workflow).2.2, Table.find?_modify_ne _ _ differ]
  exact found

theorem Decides.consistent {body : Approvals.DecideApproval} {request : ApprovalRequest}
    (consistent : Consistent s) (decides : Decides command body request s.db db')
    (workflow : request.workflowType = .userRoleChange) : Consistent { s with db := db' } := by
  have requests := fun key other => @Decides.roleRequest _ _ _ body request other key decides
  have decided : RoleRequest s.db body.id request :=
    ⟨decides.found, workflow, decides.pending⟩
  -- the request is the only pending one about its assignment
  have apart : ∀ key other, RoleRequest db' key other → other.entityId ≠ request.entityId := by
    intro key other present same
    obtain ⟨differ, before⟩ := (requests key other).mp present
    exact differ (consistent.once key body.id other request before decided same)
  refine ⟨?_, ?_, ?_, ?_, ?_, ?_⟩
  · intro id id' row row' found found' live live' user code
    have lived : ∀ {key now}, (db' userRoles).find? key = some now → now.status ≠ .revoked →
        ∃ old, (s.db userRoles).find? key = some old ∧ old.status ≠ .revoked ∧
          old.userId = now.userId ∧ old.roleCode = now.roleCode := by
      intro key now present alive
      rcases decides.row workflow present with ⟨-, same⟩ | ⟨-, -, old, held, expected, same⟩
      · exact ⟨now, same, alive, rfl, rfl⟩
      · exact ⟨old, held, expected ▸ expects_ne_revoked request, same⟩
    obtain ⟨old, held, alive, owner, coded⟩ := lived found live
    obtain ⟨old', held', alive', owner', coded'⟩ := lived found' live'
    exact consistent.single id id' old old' held held' alive alive'
      (owner.trans (user.trans owner'.symm)) (coded.trans (code.trans coded'.symm))
  · intro id row found pending
    rcases decides.row workflow found with ⟨differ, same⟩ | ⟨-, status, -⟩
    · obtain ⟨key, other, present, about⟩ := consistent.asked id row same pending
      refine ⟨key, other, (requests key other).mpr ⟨?_, present⟩, about⟩
      rintro rfl
      obtain rfl : other = request := Option.some.inj (present.found.symm.trans decides.found)
      exact differ about.symm
    · exact absurd (status.symm.trans pending) (decidedStatus_ne_pending request body.decision)
  · intro key key' one other present present'
    exact consistent.once key key' one other ((requests _ _).mp present).2
      ((requests _ _).mp present').2
  · intro key other present
    exact consistent.object key other ((requests _ _).mp present).2
  · intro key other present
    obtain ⟨row, found, status⟩ := consistent.subject key other ((requests _ _).mp present).2
    exact ⟨row, decides.keeps workflow (apart key other present) found, status⟩
  · intro id expired
    obtain ⟨row, found, status⟩ := consistent.lapsed id expired
    refine ⟨row, decides.keeps workflow ?_ found, status⟩
    rintro rfl
    obtain ⟨-, ⟨old, present, expected⟩, -⟩ := decides.role workflow
    obtain rfl : old = row := Option.some.inj (present.symm.trans found)
    exact expects_ne_revoked request (expected.symm.trans status)

/-! ### Expiry -/

/-- A row after the expiry is as before and has not lapsed, or it is revoked and had. -/
theorem expireRoles_row {today : String} {id : Nat} {row : UserRole}
    (found : ((s.expireRoles today).db userRoles).find? id = some row) :
    ((s.db userRoles).find? id = some row ∧ lapsed today row = false) ∨
      (row.status = .revoked ∧ (s.expireRoles today).expired id = true ∧
        ∃ old, (s.db userRoles).find? id = some old ∧ lapsed today old = true ∧
          old.userId = row.userId ∧ old.roleCode = row.roleCode) := by
  simp only [State.expireRoles, Store.put_same, Table.find?_update] at found
  obtain ⟨old, held, changed⟩ := Option.map_eq_some_iff.mp found
  by_cases late : lapsed today old = true
  · rw [if_pos late] at changed
    subst changed
    exact Or.inr ⟨rfl, by simp [State.expireRoles, held, late], old, held, late, rfl, rfl⟩
  · rw [if_neg late] at changed
    subst changed
    exact Or.inl ⟨held, Bool.not_eq_true _ ▸ late⟩

theorem expireRoles_find (today : String) {id : Nat} {row : UserRole}
    (found : (s.db userRoles).find? id = some row) :
    ((s.expireRoles today).db userRoles).find? id =
      some (if lapsed today row then { row with status := .revoked } else row) := by
  simp only [State.expireRoles, Store.put_same, Table.find?_update, found, Option.map_some]

theorem lapsed_active {today : String} {row : UserRole} (late : lapsed today row = true) :
    row.status = .active := by
  rw [lapsed, Bool.and_eq_true, beq_iff_eq] at late
  exact late.1

theorem expireRoles_requests {today : String} (key : Nat) (request : ApprovalRequest) :
    RoleRequest (s.expireRoles today).db key request ↔ RoleRequest s.db key request := by
  apply roleRequest_congr
  simp [State.expireRoles]

theorem expireRoles_consistent (consistent : Consistent s) (today : String) :
    Consistent (s.expireRoles today) := by
  refine ⟨?_, ?_, ?_, ?_, ?_, ?_⟩
  · intro id id' row row' found found' live live' user code
    rcases expireRoles_row found with ⟨held, -⟩ | ⟨revoked, -⟩
    · rcases expireRoles_row found' with ⟨held', -⟩ | ⟨revoked, -⟩
      · exact consistent.single id id' row row' held held' live live' user code
      · exact absurd revoked live'
    · exact absurd revoked live
  · intro id row found pending
    rcases expireRoles_row found with ⟨held, -⟩ | ⟨revoked, -⟩
    · obtain ⟨key, request, present, same⟩ := consistent.asked id row held pending
      exact ⟨key, request, (expireRoles_requests _ _).mpr present, same⟩
    · rw [revoked] at pending
      cases pending
  · simpa only [expireRoles_requests] using consistent.once
  · simpa only [expireRoles_requests] using consistent.object
  · intro key request present
    obtain ⟨row, found, status⟩ :=
      consistent.subject key request ((expireRoles_requests _ _).mp present)
    have later := expireRoles_find today found
    by_cases late : lapsed today row = true
    · rw [if_pos late] at later
      refine ⟨_, later, Or.inr ⟨?_, rfl, by simp [State.expireRoles, found, late]⟩⟩
      have active := lapsed_active late
      rcases status with expected | ⟨-, revoked, -⟩
      · rw [active, expects] at expected
        split at expected
        · assumption
        · cases expected
      · rw [active] at revoked
        cases revoked
    · rw [if_neg late] at later
      refine ⟨row, later, ?_⟩
      rcases status with expected | ⟨revoke, revoked, expired⟩
      · exact Or.inl expected
      · exact Or.inr ⟨revoke, revoked, by simp [State.expireRoles, expired]⟩
  · intro id expired
    simp only [State.expireRoles, Bool.or_eq_true, Option.any_eq_true] at expired
    rcases expired with before | ⟨row, found, late⟩
    · obtain ⟨row, found, revoked⟩ := consistent.lapsed id before
      have later := expireRoles_find today found
      by_cases late : lapsed today row = true
      · rw [lapsed_active late] at revoked
        cases revoked
      · rw [if_neg late] at later
        exact ⟨row, later, revoked⟩
    · have later := expireRoles_find today found
      rw [if_pos late] at later
      exact ⟨_, later, rfl⟩

/-! ## Every step and every run -/

theorem step_consistent (step : Step effects s event s') (consistent : Consistent s) :
    Consistent s' := by
  cases step_does step with
  | assigned loaded did => exact did.consistent consistent
  | revoking loaded did => exact did.consistent consistent
  | decided loaded workflow did => exact did.consistent consistent workflow
  | @expired today => exact expireRoles_consistent consistent today
  | nothing roles requests expired main => exact consistent.of_same roles requests expired

theorem run_consistent (run : Run (Step effects) s events s') (consistent : Consistent s) :
    Consistent s' :=
  run.preserves Consistent step_consistent consistent

end SupplyChain.UserRoles
