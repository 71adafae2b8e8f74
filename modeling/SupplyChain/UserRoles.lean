import SupplyChain.Auth
import SupplyChain.Approvals.Outcomes
import SupplyChain.Calendar.Instants

/-!
The additional roles of users. An administrator requests that a role is assigned or revoked,
another one decides the request, and an assignment whose last day has passed expires when the
users are listed. The assignments, the requests about them and the main roles of the users
change only in these steps.
-/

namespace SupplyChain.UserRoles

open Relational Transaction TableName

/-! ## Requests -/

/-- `ASSIGNABLE_ROLES`, with what the codes stand for. -/
def assignableRoles : List (String × Role) :=
  [("admin", .admin), ("supply_chain", .supplyChain), ("finance", .finance),
    ("factory", .factory), ("supplier_qc", .supplierQc), ("company_qc", .companyQc),
    ("receiver", .receiver)]

/-- `INTERNAL_ROLE_CODES`, the main roles that an account can be created with. -/
def internalRoles : List Role := [.supplyChain, .finance, .companyQc, .receiver]

def usersForbidden : Failure := forbidden "Users access forbidden"

def usersUnavailable : Failure := .platform ⟨503, .internalServerError, "Users unavailable"⟩

variable {writes : List TableName}

def requireWriteAccess (access : AccessContext) : Tx writes Unit := do
  refuseIf (Role.admin ∉ access.roles) usersForbidden
  refuseIf (access.sessionId = none) usersForbidden

/-- The number of the day that the text names. `Date.UTC` takes the years before 100 for
years of the last century, so that their texts name no day. -/
def dateValue (value : String) : Option Nat :=
  ((Calendar.parse value).filter fun date => decide (100 ≤ date.year)).map Calendar.Date.number

def validDateRange (effectiveFrom : String) (effectiveTo : Option String) : Bool :=
  match dateValue effectiveFrom, effectiveTo with
  | none, _ => false
  | some _, none => true
  | some start, some last =>
      match dateValue last with
      | none => false
      | some stop => decide (start ≤ stop ∧ stop ≤ start + 90)

def lockedUser (userId : Nat) : Tx writes User := do
  let found ← select users userId
  let user ← orThrow found (notFound "User not found")
  refuseIf (¬ isSafeInteger userId ∨ userId = 0 ∨ user.name = "" ∨ user.email = "")
    usersUnavailable
  return user

section

variable {α : Type} {a : α} {db db' : Database} {sent : List DomainEvent}

theorem returns_requireWriteAccess {access : AccessContext} {u : Unit} :
    (requireWriteAccess access : Tx writes Unit).Returns db u sent db' ↔
      (Role.admin ∈ access.roles ∧ access.sessionId ≠ none) ∧ sent = [] ∧ db' = db := by
  simp only [requireWriteAccess, returns_bind_refuseIf, returns_refuseIf, not_not, and_assoc, Ne]

@[simp]
theorem returns_bind_requireWriteAccess {access : AccessContext} {f : Unit → Tx writes α} :
    (requireWriteAccess access >>= f).Returns db a sent db' ↔
      (Role.admin ∈ access.roles ∧ access.sessionId ≠ none) ∧ (f ()).Returns db a sent db' := by
  rw [returns_bind_of_reads fun returns => (returns_requireWriteAccess.mp returns).2]
  simp only [returns_requireWriteAccess, and_true]
  constructor
  · rintro ⟨_, passes, later⟩
    exact ⟨passes, later⟩
  · rintro ⟨passes, later⟩
    exact ⟨(), passes, later⟩

theorem returns_lockedUser {userId : Nat} {user : User} :
    (lockedUser userId : Tx writes User).Returns db user sent db' ↔
      ((db users).find? userId = some user ∧
        ¬ (¬ isSafeInteger userId ∨ userId = 0 ∨ user.name = "" ∨ user.email = "")) ∧
          sent = [] ∧ db' = db := by
  simp only [lockedUser, returns_bind_select, returns_bind_orThrow, returns_bind_refuseIf,
    returns_pure]
  constructor
  · rintro ⟨found, present, sound, rfl, rfl, rfl⟩
    exact ⟨⟨present, sound⟩, rfl, rfl⟩
  · rintro ⟨⟨present, sound⟩, rfl, rfl⟩
    exact ⟨user, present, sound, rfl, rfl, rfl⟩

@[simp]
theorem returns_bind_lockedUser {userId : Nat} {f : User → Tx writes α} :
    (lockedUser userId >>= f).Returns db a sent db' ↔
      ∃ user, ((db users).find? userId = some user ∧
        ¬ (¬ isSafeInteger userId ∨ userId = 0 ∨ user.name = "" ∨ user.email = "")) ∧
          (f user).Returns db a sent db' := by
  rw [returns_bind_of_reads fun returns => (returns_lockedUser.mp returns).2]
  simp only [returns_lockedUser, and_true]

end

def assignmentNo (userId : Nat) (idempotencyKey : String) : String :=
  "AP-ROLE-" ++ toString userId ++ "-" ++ String.ofList (idempotencyKey.toList.take 24)

def revocationNo (userId : Nat) (idempotencyKey : String) : String :=
  "AP-ROLE-REVOKE-" ++ toString userId ++ "-" ++ String.ofList (idempotencyKey.toList.take 16)

structure AssignUserRole where
  userId : Nat
  roleCode : String
  effectiveFrom : String
  effectiveTo : Option String
  reason : String

def AssignUserRole.payload (body : AssignUserRole) : JsonValue :=
  .object [("userId", .number body.userId), ("roleCode", .text (trim body.roleCode)),
    ("effectiveFrom", .text body.effectiveFrom),
    ("effectiveTo", body.effectiveTo.elim .null .text), ("reason", .text (trim body.reason))]

/-- The row that is inserted for the assignment. -/
def AssignUserRole.row (body : AssignUserRole) (role : Role) : UserRole where
  userId := body.userId
  roleCode := role
  status := .pending
  reviewedBy := none
  effectiveFrom := body.effectiveFrom
  effectiveTo := body.effectiveTo

/-- The accounts that are disabled are a parameter: the row of a user tells only whether the
account is active. -/
def assignUserRole (disabled : Nat → Bool) (command : CommandContext) (idempotencyKey : String)
    (body : AssignUserRole) : Tx [userRoles, approvalRequests] JsonValue := do
  requireWriteAccess command.access
  let role ← orThrow (assignableRoles.lookup (trim body.roleCode))
    (badRequest "Role is not assignable")
  refuseIf (validDateRange body.effectiveFrom body.effectiveTo = false)
    (badRequest "Invalid role effective period")
  let target ← lockedUser body.userId
  refuseIf (disabled body.userId = true) (conflict "Disabled user cannot receive roles")
  let existing ← query fun db => (db userRoles).any fun _ row =>
    row.userId == body.userId && row.roleCode == role &&
      (row.status == .pending || row.status == .active)
  refuseIf (target.role = role ∨ existing = true) (conflict "Role already assigned or pending")
  let roleRequestId ← insertInto userRoles (body.row role)
  refuseIf (roleRequestId = 0) usersUnavailable
  let approvalId ← insertApproval command (assignmentNo command.access.userId idempotencyKey)
    .userRoleChange "user_role" roleRequestId body.payload true
  refuseIf (approvalId = 0) usersUnavailable
  return .object [("success", .boolean true), ("roleRequestId", .number roleRequestId),
    ("approvalId", .number approvalId), ("status", .text "pending")]

structure RevokeUserRole where
  roleAssignmentId : Nat
  reason : String

def roleCode : Role → String
  | .admin => "admin"
  | .supplyChain => "supply_chain"
  | .factory => "factory"
  | .finance => "finance"
  | .companyQc => "company_qc"
  | .supplierQc => "supplier_qc"
  | .receiver => "receiver"
  | .supplyChainLead => "supply_chain_lead"

def RevokeUserRole.payload (body : RevokeUserRole) (role : UserRole) : JsonValue :=
  .object [("operation", .text "revoke"), ("userId", .number role.userId),
    ("roleCode", .text (roleCode role.roleCode)), ("reason", .text (trim body.reason))]

def revokeUserRole (command : CommandContext) (idempotencyKey : String) (body : RevokeUserRole) :
    Tx [approvalRequests] JsonValue := do
  requireWriteAccess command.access
  let found ← select userRoles body.roleAssignmentId
  let role ← orThrow found (notFound "Role assignment not found")
  refuseIf (role.status ≠ .active) (conflict "Only active roles can be revoked")
  refuseIf (¬ isSafeInteger role.userId ∨ role.userId = 0) usersUnavailable
  let _ ← lockedUser role.userId
  let pending ← query fun db => (db approvalRequests).any fun _ row =>
    row.workflowType == .userRoleChange && row.entityId == body.roleAssignmentId &&
      row.status == .pending
  refuseIf (pending = true) (conflict "Role change already pending")
  let approvalId ← insertApproval command (revocationNo command.access.userId idempotencyKey)
    .userRoleChange "user_role" body.roleAssignmentId (body.payload role) true
  refuseIf (approvalId = 0) usersUnavailable
  return .object [("success", .boolean true),
    ("roleAssignmentId", .number body.roleAssignmentId), ("approvalId", .number approvalId),
    ("status", .text "pending")]

/-! ## The assignments over time -/

/-- The rows know no status of their own for an assignment that has expired, and nothing that
reads them tells it from a revoked one. Here the keys of these rows are remembered. -/
structure State where
  db : Database
  expired : Nat → Bool

inductive AssignmentStatus
  | pending | active | expired | revoked
  deriving DecidableEq

/-- The column `status` of an assignment. -/
def State.status (s : State) (id : Nat) : Option AssignmentStatus :=
  ((s.db userRoles).find? id).map fun row =>
    if row.status = .pending then .pending
    else if row.status = .active then .active
    else if s.expired id then .expired else .revoked

/-- Active, with a last day before today. -/
def lapsed (today : String) (row : UserRole) : Bool :=
  row.status == .active && row.effectiveTo.any fun last => decide (last < today)

/-- The first statement of `queryUsers`. -/
def State.expireRoles (s : State) (today : String) : State where
  db := s.db.put userRoles ((s.db userRoles).update (fun _ row => lapsed today row)
    fun row => { row with status := .revoked })
  expired id := s.expired id || ((s.db userRoles).find? id).any (lapsed today)

/-- The context was loaded for a live session of the caller. -/
def Loads (db : Database) (access : AccessContext) : Prop :=
  ∃ sessions sha256 token now nowIso,
    Auth.loadSessionContext db sessions sha256 token now nowIso = .ok access

inductive Event
  | assign (requester : AccessContext) (userId : Nat) (role : Role) (assignment request : Nat)
  | revoke (requester : AccessContext) (assignment request : Nat)
  | decide (reviewer : AccessContext) (request : Nat) (decision : Decision)
  | expire (today : String)
  | account
  | elsewhere

/-- A pending request to assign or to revoke a role. -/
structure RoleRequest (db : Database) (key : Nat) (request : ApprovalRequest) : Prop where
  found : (db approvalRequests).find? key = some request
  workflow : request.workflowType = .userRoleChange
  pending : request.status = .pending

/-- The state is exchanged under `account` when an account is created with an internal role or
changes otherwise, and under `elsewhere` by all that has nothing to do with roles. -/
inductive Step (effects : Approvals.ProcurementEffects) : State → Event → State → Prop
  | assign {s : State} {disabled : Nat → Bool} {command : CommandContext}
      {idempotencyKey : String} {body : AssignUserRole} {role : Role} {reply : JsonValue}
      {sent : List DomainEvent} {db' : Database} (loaded : Loads s.db command.access)
      (code : assignableRoles.lookup (trim body.roleCode) = some role)
      (returns : (assignUserRole disabled command idempotencyKey body).Returns
        s.db reply sent db') :
      Step effects s
        (.assign command.access body.userId role (s.db userRoles).nextId
          (s.db approvalRequests).nextId)
        { s with db := db' }
  | revoke {s : State} {command : CommandContext} {idempotencyKey : String}
      {body : RevokeUserRole} {reply : JsonValue} {sent : List DomainEvent} {db' : Database}
      (loaded : Loads s.db command.access)
      (returns : (revokeUserRole command idempotencyKey body).Returns s.db reply sent db') :
      Step effects s
        (.revoke command.access body.roleAssignmentId (s.db approvalRequests).nextId)
        { s with db := db' }
  | decide {s : State} {command : CommandContext} {body : Approvals.DecideApproval}
      {reply : JsonValue} {sent : List DomainEvent} {db' : Database}
      (loaded : Loads s.db command.access)
      (returns : (Approvals.decideApproval effects command body).Returns s.db reply sent db') :
      Step effects s (.decide command.access body.id body.decision) { s with db := db' }
  | expire {s : State} {today : String} : Step effects s (.expire today) (s.expireRoles today)
  | account {s : State} {db' : Database} (kept : ∀ t, t ≠ users → db' t = s.db t)
      (main : ∀ id user, (db' users).find? id = some user →
        (∃ before, (s.db users).find? id = some before ∧ before.role = user.role) ∨
          ((s.db users).find? id = none ∧ user.role ∈ internalRoles)) :
      Step effects s .account { s with db := db' }
  | elsewhere {s : State} {db' : Database} (accounts : db' users = s.db users)
      (roles : db' userRoles = s.db userRoles)
      (requests : ∀ key request, RoleRequest db' key request ↔ RoleRequest s.db key request) :
      Step effects s .elsewhere { s with db := db' }

end SupplyChain.UserRoles
