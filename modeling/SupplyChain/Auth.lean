import SupplyChain.SupplyApprovalEffects
import SupplyChain.Operations
import SupplyChain.Platform.Refusals

/-!
The access context of a session, and the reviewers that the route of the
approvals and the effects of the procurement workflows accept. The route reads
the roles of the context, dated by the clock of the application; the effects
read the tables again, dated by the clock of the database.
-/

namespace SupplyChain.Auth

open Relational TableName SupplyApprovalEffects
open Approvals (requiredRoles)

/-- The refusals 401, 403 and 503. -/
inductive AuthenticationError
  | unauthenticated | forbidden | unavailable
  deriving DecidableEq

structure SessionUserRow where
  sessionId : Nat
  userId : Nat
  user : User

/-- The live session of the token joined with its user. -/
def sessionRow (db : Database) (sessions : Table AuthSession) (tokenHash : String) (now : Nat) :
    Option SessionUserRow :=
  sessions.rows.findSome? fun ⟨sessionId, session⟩ =>
    if session.tokenHash = tokenHash ∧ session.revokedAt = none ∧ now < session.expiresAt then
      ((db users).find? session.userId).map fun user =>
        { sessionId, userId := session.userId, user }
    else none

def isKey (value : Nat) : Bool := decide (0 < value ∧ isSafeInteger value)

/-- `value.trim().length === 0`. -/
def blank (value : String) : Bool := value.toList.all fun c => c.isWhitespace

def requireSessionRow : Option SessionUserRow → Except AuthenticationError SessionUserRow
  | none => .error .unauthenticated
  | some row =>
      if isKey row.sessionId && isKey row.userId && row.user.email != "" && row.user.name != "" &&
          !blank row.user.organizationName && row.user.factoryId.all isKey &&
          row.user.supplierId.all isKey then
        .ok row
      else .error .unavailable

def requireOrganizationBinding (user : User) : Except AuthenticationError Unit :=
  if user.factoryId ≠ none ∧ user.supplierId ≠ none then .error .forbidden
  else if user.role = .factory ∧ (user.factoryId = none ∨ user.supplierId ≠ none) then
    .error .forbidden
  else if user.role = .supplierQc ∧ (user.supplierId = none ∨ user.factoryId ≠ none) then
    .error .forbidden
  else .ok ()

/-- The role row is active and the day lies between its dates, both included. -/
def inForce (row : UserRole) (day : String) : Bool :=
  row.status == .active && decide (row.effectiveFrom ≤ day) &&
    row.effectiveTo.all fun last => decide (day ≤ last)

def delegatedRoles (db : Database) (userId : Nat) (today : String) : List Role :=
  ((db userRoles).rows.filter fun r => r.2.userId == userId && inForce r.2 today).map
    (·.2.roleCode)

/-- `nowIso.slice(0, 10)`. -/
def dayOf (nowIso : String) : String := String.ofList (nowIso.toList.take 10)

/-- The heartbeat of the session is left out: on the rows just read it changes
nothing that the context holds and refuses nobody. -/
def loadSessionContext (db : Database) (sessions : Table AuthSession) (sha256 : String → String)
    (token : String) (now : Nat) (nowIso : String) : Except AuthenticationError AccessContext := do
  let session ← requireSessionRow (sessionRow db sessions (sha256 token) now)
  if session.user.active = false then throw .forbidden
  requireOrganizationBinding session.user
  return { userId := session.userId, sessionId := some session.sessionId
           roles := (session.user.role :: delegatedRoles db session.userId (dayOf nowIso)).eraseDups
           factoryId := session.user.factoryId, supplierId := session.user.supplierId }

/-! ## Who is admitted, who is accepted -/

variable {db : Database} {sessions : Table AuthSession} {sha256 : String → String}
  {token : String} {now : Nat} {nowIso : String} {access : AccessContext}

/-- The user holds, on the day, a role row of the administrator or the supply chain. -/
def holdsReviewRole (db : Database) (userId : Nat) (day : String) : Bool :=
  (db userRoles).any fun _ row => row.userId == userId &&
    (row.roleCode == .admin || row.roleCode == .supplyChain) && inForce row day

theorem authorizedReviewer_eq {userId : Nat} {day : String} {user : User}
    (found : (db users).find? userId = some user) (active : user.active = true) :
    authorizedReviewer db userId day =
      (user.role == .supplyChain || holdsReviewRole db userId day) := by
  simp [authorizedReviewer, found, active, holdsReviewRole, inForce, Bool.and_assoc]

theorem sessionRow_found {tokenHash : String} {session : SessionUserRow}
    (row : sessionRow db sessions tokenHash now = some session) :
    (db users).find? session.userId = some session.user := by
  obtain ⟨⟨sessionId, stored⟩, -, joined⟩ := List.exists_of_findSome?_eq_some row
  dsimp only at joined
  split at joined
  · obtain ⟨user, found, rfl⟩ := Option.map_eq_some_iff.mp joined
    exact found
  · cases joined

theorem mem_delegatedRoles {userId : Nat} {today : String} {role : Role} :
    role ∈ delegatedRoles db userId today ↔
      ∃ id row, (db userRoles).find? id = some row ∧ row.userId = userId ∧
        row.roleCode = role ∧ inForce row today = true := by
  simp only [delegatedRoles, List.mem_map, List.mem_filter, Bool.and_eq_true, beq_iff_eq,
    Table.find?_eq_some_iff]
  constructor
  · rintro ⟨r, ⟨member, own, current⟩, rfl⟩
    exact ⟨r.1, r.2, member, own, rfl, current⟩
  · rintro ⟨id, row, member, own, rfl, current⟩
    exact ⟨(id, row), ⟨member, own, current⟩, rfl⟩

theorem requireSessionRow_ok {found : Option SessionUserRow} {session : SessionUserRow}
    (row : requireSessionRow found = .ok session) : found = some session := by
  cases found with
  | none => cases row
  | some _ =>
      simp only [requireSessionRow] at row
      split at row
      · rw [Except.ok.inj row]
      · cases row

/-- A context is loaded for an active user only, with the main role of the user
and the roles of the rows in force. -/
theorem loadSessionContext_loads
    (loaded : loadSessionContext db sessions sha256 token now nowIso = .ok access) :
    ∃ user, (db users).find? access.userId = some user ∧ user.active = true ∧
      access.roles = (user.role :: delegatedRoles db access.userId (dayOf nowIso)).eraseDups := by
  rw [loadSessionContext] at loaded
  cases row : requireSessionRow (sessionRow db sessions (sha256 token) now) with
  | error refusal => simp [row, bind, Except.bind] at loaded
  | ok session =>
      have found := sessionRow_found (requireSessionRow_ok row)
      cases active : session.user.active with
      | false => simp [row, active, bind, Except.bind] at loaded
      | true =>
          cases bound : requireOrganizationBinding session.user with
          | error refusal => simp [row, active, bound, bind, Except.bind] at loaded
          | ok _ =>
              simp only [row, active, bound, bind, Except.bind, pure, Except.pure,
                Bool.true_eq_false, if_false, Except.ok.injEq] at loaded
              subst loaded
              exact ⟨session.user, found, active, rfl⟩

/-- The route admits by the main role and by the rows in force on its day. -/
theorem hasRole_loaded {user : User}
    (roles : access.roles =
      (user.role :: delegatedRoles db access.userId (dayOf nowIso)).eraseDups) :
    hasRole access [.admin, .supplyChain] =
      (user.role == .admin || user.role == .supplyChain ||
        holdsReviewRole db access.userId (dayOf nowIso)) := by
  rw [Bool.eq_iff_iff]
  simp only [hasRole, roles, List.any_eq_true, List.mem_eraseDups, List.mem_cons,
    mem_delegatedRoles, holdsReviewRole, Table.any_eq_true, Bool.or_eq_true, Bool.and_eq_true,
    beq_iff_eq, List.contains_cons, List.contains_nil, Bool.or_false]
  constructor
  · rintro ⟨role, rfl | ⟨id, row, held, own, rfl, current⟩, review⟩
    · exact .inl review
    · exact .inr ⟨id, row, held, ⟨own, review⟩, current⟩
  · rintro (main | ⟨id, row, held, ⟨own, review⟩, current⟩)
    · exact ⟨user.role, .inl rfl, main⟩
    · exact ⟨row.roleCode, .inr ⟨id, row, held, own, rfl, current⟩, review⟩

/-- The main role is the supply chain; or it is the administrator and a row of
the administrator or the supply chain is in force on the day of the database; or
it is another and such a row is in force on the one day exactly when on the other. -/
def Agreeing (db : Database) (user : User) (userId : Nat) (routeDay effectDay : String) : Prop :=
  user.role = .supplyChain ∨
  user.role = .admin ∧ holdsReviewRole db userId effectDay = true ∨
  user.role ≠ .admin ∧ user.role ≠ .supplyChain ∧
    holdsReviewRole db userId routeDay = holdsReviewRole db userId effectDay

theorem reviewer_agreement {name effectDay : String} {user : User}
    (loaded : loadSessionContext db sessions sha256 token now nowIso = .ok access)
    (found : (db users).find? access.userId = some user) :
    (hasRole access (requiredRoles (.procurement name)) = true ↔
        authorizedReviewer db access.userId effectDay = true) ↔
      Agreeing db user access.userId (dayOf nowIso) effectDay := by
  obtain ⟨stored, alike, active, roles⟩ := loadSessionContext_loads loaded
  obtain rfl : stored = user := Option.some.inj (alike.symm.trans found)
  have admitted := hasRole_loaded roles
  have accepted : authorizedReviewer db access.userId effectDay = _ :=
    authorizedReviewer_eq found active
  change (hasRole access [.admin, .supplyChain] = true ↔ _) ↔ _
  rw [admitted, accepted, Agreeing]
  generalize holdsReviewRole db access.userId (dayOf nowIso) = routed
  generalize holdsReviewRole db access.userId effectDay = effected
  cases stored.role <;> cases routed <;> cases effected <;> simp

/-- A reviewer whom the tables do not accept cannot bring the effect about. -/
theorem executeEffect_refuses {command : CommandContext} {effectType : String} {id : Nat}
    {decision : Decision}
    (refused : authorizedReviewer db command.access.userId command.today = false) :
    (executeEffect command effectType id decision).Fails db
      (conflict "Approval reviewer role is not authorized") := by
  simp only [executeEffect, Transaction.fails_bind_query, Transaction.fails_bind_refuseIf]
  exact .inl ⟨refused, trivial⟩

/-! ## An administrator by the main role alone -/

/-- The main role of the user is the administrator; the row of the supply chain
ended the day before. -/
def administered : Database :=
  (emptyDatabase.put users (Table.empty.insert
    { role := .admin, active := true, email := "a@b", name := "A", organizationName := "O" })).put
    userRoles (Table.empty.insert
      { userId := 1, roleCode := .supplyChain, status := .active, reviewedBy := none
        effectiveFrom := "2026-01-01", effectiveTo := some "2026-02-28" })

def liveSessions : Table AuthSession :=
  Table.empty.insert { tokenHash := "T", userId := 1, revokedAt := none, expiresAt := 9 }

theorem administered_loads :
    loadSessionContext administered liveSessions id "T" 5 "2026-03-01T00:00:00.005Z" =
      .ok { userId := 1, sessionId := some 1, roles := [.admin], factoryId := none
            supplierId := none } :=
  rfl

theorem reviewer_agreement_admin :
    (hasRole { userId := 1, sessionId := some 1, roles := [.admin], factoryId := none
               supplierId := none } (requiredRoles (.procurement "bom_version")) = true ↔
        authorizedReviewer administered 1 "2026-03-01" = true) ↔
      Agreeing administered
        { role := .admin, active := true, email := "a@b", name := "A", organizationName := "O" } 1
        (dayOf "2026-03-01T00:00:00.005Z") "2026-03-01" :=
  reviewer_agreement administered_loads rfl

theorem admin_admitted_then_refused :
    ∃ access, loadSessionContext administered liveSessions id "T" 5 "2026-03-01T00:00:00.005Z" =
        .ok access ∧
      hasRole access (requiredRoles (.procurement "bom_version")) = true ∧
      authorizedReviewer administered access.userId "2026-03-01" = false ∧
      ∀ command requestId decision, command.access = access → command.today = "2026-03-01" →
        (executeEffect command "bom_version" requestId decision).Fails administered
          (conflict "Approval reviewer role is not authorized") := by
  refine ⟨_, administered_loads, by decide, by decide +kernel, ?_⟩
  intro command requestId decision same sameDay
  apply executeEffect_refuses
  rw [same, sameDay]
  decide +kernel

end SupplyChain.Auth
