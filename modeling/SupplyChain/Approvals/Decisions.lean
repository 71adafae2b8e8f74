import SupplyChain.Approvals.Requests

/-!
The decisions of approval requests over interleaved calls, committed or
refused. A request is decided at most once, by somebody else than its
requester, and its effect runs in the transaction that decides it.
-/

namespace SupplyChain.Approvals

open Relational Transaction TableName

variable {effects : ProcurementEffects} {command : CommandContext} {request : Request}
  {body : DecideApproval} {approval : ApprovalRequest} {binding : ApprovalBinding}
  {opening db db' : Database} {event : Event} {reply : JsonValue} {sent : List DomainEvent}
  {id : Nat}

/-! ## What a decision commits -/

/-- The database with the step-up claim of a high-risk decision consumed. -/
def claimedState (command : CommandContext) (body : DecideApproval) (approval : ApprovalRequest)
    (binding : ApprovalBinding) (db : Database) : Database :=
  if approval.highRisk = true then
    db.put authChallenges (consumedChallenges (db authChallenges) command
      (decisionClaim command body binding (command.access.sessionId.getD 0)))
  else db

/-- The database that the effect of a decision runs on. -/
def decisionState (command : CommandContext) (body : DecideApproval) (approval : ApprovalRequest)
    (binding : ApprovalBinding) (db : Database) : Database :=
  (claimedState command body approval binding db).put approvalRequests
    ((db approvalRequests).modify body.id fun row => { row with
      status := body.decision.status, reviewedBy := some command.access.userId
      reviewComment := trim (body.comment.getD "")
      updatedAt := Finance.laterThan row.updatedAt command.now })

/-- What a decision is bound to, read from the database without a change. -/
def Bound (effects : ProcurementEffects) (body : DecideApproval) (approval : ApprovalRequest)
    (binding : ApprovalBinding) (db : Database) : Prop :=
  (approvalBinding effects body.id approval body.decision :
    Tx (approvalRequests :: authChallenges :: effectTables) ApprovalBinding).Returns db binding [] db

/-- The one challenge that a high-risk decision consumes: it is verified, not
yet consumed and bound to the user, the session, the action, the version of the
request and the digest of the decision. -/
structure Consumed (command : CommandContext) (body : DecideApproval) (binding : ApprovalBinding)
    (db db' : Database) (sessionId challengeId : Nat) (challenge : AuthChallenge) : Prop where
  session : command.access.sessionId = some sessionId
  found : (db authChallenges).find? challengeId = some challenge
  verified : challenge.verified = true
  unconsumed : challenge.consumedAt = none
  bound : challenge.matches (decisionClaim command body binding sessionId) command.clock = true
  consumed : (db' authChallenges).find? challengeId =
    some { challenge with consumedAt := some command.now }
  others : ∀ key, key ≠ challengeId →
    (db' authChallenges).find? key = (db authChallenges).find? key

/-- A committed decision: `db'` is what one run of the effect leaves of the
database in which the request is decided. -/
structure Commits (effects : ProcurementEffects) (command : CommandContext)
    (body : DecideApproval) (approval : ApprovalRequest) (binding : ApprovalBinding)
    (db db' : Database) : Prop where
  found : (db approvalRequests).find? body.id = some approval
  pending : approval.status = .pending
  separate : approval.requestedBy ≠ command.access.userId
  role : hasRole command.access (requiredRoles approval.workflowType) = true
  bound : Bound effects body approval binding db
  decided : ∃ row, (db' approvalRequests).find? body.id = some row ∧
    row.status = body.decision.status ∧ row.reviewedBy = some command.access.userId
  effect : ∃ outcome, (approvalEffect effects command body.id approval body.decision).Returns
    (decisionState command body approval binding db) outcome [] db'
  highRisk : approval.highRisk = true →
    ∃ sessionId challengeId challenge,
      Consumed command body binding db db' sessionId challengeId challenge
  lowRisk : approval.highRisk = false → db' authChallenges = db authChallenges

theorem consumed_of_claimed {sessionId : Nat}
    (session : command.access.sessionId = some sessionId)
    (single : ((db authChallenges).select fun _ row =>
      row.matches (decisionClaim command body binding sessionId) command.clock).length = 1)
    (written : db' authChallenges = consumedChallenges (db authChallenges) command
      (decisionClaim command body binding sessionId)) :
    ∃ challengeId challenge,
      Consumed command body binding db db' sessionId challengeId challenge := by
  obtain ⟨challengeId, challenge, found, bound, only⟩ := Table.select_single single
  have parts := bound
  simp only [AuthChallenge.matches, Bool.and_eq_true, Option.isNone_iff_eq_none] at parts
  obtain ⟨⟨⟨-, verified⟩, unconsumed⟩, -⟩ := parts
  refine ⟨challengeId, challenge,
    { session := session
      found := found
      verified := verified
      unconsumed := unconsumed
      bound := bound
      consumed := by rw [written, consumedChallenges, Table.find?_update, found]; simp [bound]
      others := ?_ }⟩
  intro key other
  rw [written, consumedChallenges, Table.find?_update]
  cases foundKey : (db authChallenges).find? key with
  | none => rfl
  | some row =>
      have unmatched : row.matches (decisionClaim command body binding sessionId)
          command.clock = false := by
        apply Bool.eq_false_iff.mpr
        intro matched
        exact other (only key row foundKey matched)
      simp [unmatched]

theorem decideApproval_commits
    (returns : (decideApproval effects command body).Returns db reply sent db') :
    ∃ approval binding, Commits effects command body approval binding db db' := by
  simp only [decideApproval, returns_bind_identifier, returns_bind_optionalString,
    returns_bind_select, returns_bind_orThrow] at returns
  obtain ⟨-, -, approval, found, returns⟩ := returns
  rw [returns_bind_of_reads approvalBinding_reads] at returns
  obtain ⟨binding, bound, returns⟩ := returns
  simp only [returns_bind_requireRole, returns_bind_refuseIf] at returns
  obtain ⟨role, separate, pending, returns⟩ := returns
  obtain ⟨_, claims, stepped, _, stepUp, rest, rfl⟩ := returns_bind.mp returns
  simp only [returns_bind_updateRow, returns_bind_widen, returns_bind_domainEvent,
    returns_pure] at rest
  obtain ⟨-, outcome, _, _, _, effect, ⟨_, ⟨-, rfl, rfl⟩, rfl⟩, rfl⟩ := rest
  obtain rfl := approvalEffect_sends_nothing effect
  have state : stepped = claimedState command body approval binding db := by
    rcases returns_whenever.mp stepUp with ⟨highRisk, claimed⟩ | ⟨lowRisk, -, rfl⟩
    · simp only [stepUpDecision, returns_bind_orThrow, returns_bind_string,
        returns_consumeStepUpClaim] at claimed
      obtain ⟨sessionId, session, -, -, -, rfl⟩ := claimed
      rw [claimedState, if_pos highRisk, session]
      rfl
    · rw [claimedState, if_neg lowRisk]
  have requests : stepped approvalRequests = db approvalRequests := by
    rw [state, claimedState]
    split
    · exact Store.put_other _ _ (by decide)
    · rfl
  have challenges : db' authChallenges = stepped authChallenges := by
    rw [effect.unwritten authChallenges (by decide)]
    simp
  refine ⟨approval, binding,
    { found := found
      pending := not_not.mp pending
      separate := separate
      role := role
      bound := bound
      decided := ?_
      effect := ?_
      highRisk := ?_
      lowRisk := ?_ }⟩
  · rw [effect.unwritten approvalRequests (by decide), Store.put_same, requests]
    exact ⟨_, Table.find?_modify_self _ found, rfl, rfl⟩
  · refine ⟨outcome, ?_⟩
    rw [decisionState, ← state, ← requests]
    exact effect
  · intro highRisk
    rcases returns_whenever.mp stepUp with ⟨-, claimed⟩ | ⟨lowRisk, -, -⟩
    · simp only [stepUpDecision, returns_bind_orThrow, returns_bind_string,
        returns_consumeStepUpClaim] at claimed
      obtain ⟨sessionId, session, -, single, -, rfl⟩ := claimed
      rw [Store.put_same] at challenges
      exact ⟨sessionId, consumed_of_claimed session single challenges⟩
    · exact absurd highRisk lowRisk
  · intro lowRisk
    rw [challenges, state, claimedState, if_neg (by simp [lowRisk])]

/-! ## Calls -/

/-- A call of the interleaving, with whether it committed: a step, or a request
that failed and left the database as it was. -/
inductive Call (effects : ProcurementEffects) : Database → Event × Bool → Database → Prop
  | committed {db db' : Database} {event : Event} (step : Step effects db event db') :
      Call effects db (event, true) db'
  | refused {db : Database} {request : Request} {failure : Failure}
      (failed : execute effects request db = .error failure) :
      Call effects db (.command request, false) db

def decidesOn (id : Nat) : Event → Bool
  | .command ⟨_, .decideApproval body⟩ => body.id == id
  | _ => false

/-- A call that committed a decision of the request. -/
def decides (id : Nat) (call : Event × Bool) : Bool :=
  call.2 && decidesOn id call.1

/-- The request exists and was decided. -/
def Settled (id : Nat) (requests : Table ApprovalRequest) : Prop :=
  ∃ row, requests.find? id = some row ∧ row.status ≠ .pending

theorem Settled.adds {requests requests' : Table ApprovalRequest} (settled : Settled id requests)
    (adds : addsRequests.allows requests requests') : Settled id requests' := by
  obtain ⟨row, found, decided⟩ := settled
  obtain ⟨after, foundAfter, rfl⟩ := adds.kept id row found
  exact ⟨row, foundAfter, decided⟩

theorem Settled.undecided (settled : Settled id (db approvalRequests))
    (commits : Commits effects command body approval binding db db') : body.id ≠ id := by
  rintro rfl
  obtain ⟨row, found, decided⟩ := settled
  rw [commits.found] at found
  exact decided (by rw [← Option.some.inj found]; exact commits.pending)

theorem Settled.commits (settled : Settled id (db approvalRequests))
    (commits : Commits effects command body approval binding db db') :
    Settled id (db' approvalRequests) := by
  have other := settled.undecided commits
  obtain ⟨row, found, decided⟩ := settled
  obtain ⟨outcome, effect⟩ := commits.effect
  refine ⟨row, ?_, decided⟩
  rw [effect.unwritten approvalRequests (by decide), decisionState, Store.put_same,
    Table.find?_modify_ne _ _ other.symm]
  exact found

theorem Settled.work (settled : Settled id (db approvalRequests))
    (work : Work effects db event db') : Settled id (db' approvalRequests) := by
  cases work with
  | @command _ request reply sent returns =>
      obtain ⟨command, operation⟩ := request
      cases operation with
      | decideApproval body =>
          simp only [runCommand, returns_widen] at returns
          obtain ⟨approval, binding, commits⟩ := decideApproval_commits returns
          exact settled.commits commits
      | _ => exact settled.adds (runCommand_adds (fun _ same => by cases same) returns)
  | warnInvoiceRisk warned =>
      rw [warned.unwritten approvalRequests (by decide)]
      exact settled
  | procurement own =>
      rw [own approvalRequests (by decide)]
      exact settled
  | approvalRequest foreign pending =>
      rw [Store.put_same]
      exact settled.adds (Law.adds_insert _ _)
  | outboxMessage => exact settled

theorem Settled.step (settled : Settled id (db approvalRequests))
    (step : Step effects db event db') : Settled id (db' approvalRequests) :=
  step.preserves (fun db => Settled id (db approvalRequests))
    (fun apart settled => by rw [apart approvalRequests (by decide)]; exact settled) settled.work

theorem step_commits {command : CommandContext}
    (step : Step effects db (.command ⟨command, .decideApproval body⟩) db') :
    ∃ approval binding mid, Commits effects command body approval binding db mid ∧
      ApartFromOutbox mid db' := by
  obtain ⟨mid, work, apart⟩ := step.works
  cases work with
  | @command _ request reply sent returns =>
      simp only [runCommand, returns_widen] at returns
      obtain ⟨approval, binding, commits⟩ := decideApproval_commits returns
      exact ⟨approval, binding, mid, commits, apart⟩

theorem Call.settled {call : Event × Bool} (made : Call effects db call db')
    (settled : Settled id (db approvalRequests)) :
    decides id call = false ∧ Settled id (db' approvalRequests) := by
  cases made with
  | @committed _ event step =>
      refine ⟨?_, settled.step step⟩
      apply Bool.eq_false_iff.mpr
      intro decided
      cases event with
      | command request =>
          obtain ⟨command, operation⟩ := request
          cases operation with
          | decideApproval body =>
              obtain ⟨approval, binding, mid, commits, -⟩ := step_commits step
              exact settled.undecided commits (by simpa [decides, decidesOn] using decided)
          | _ => cases decided
      | _ => cases decided
  | refused => exact ⟨rfl, settled⟩

/-- A call that commits a decision leaves its request decided. -/
theorem Call.settles {call : Event × Bool} (made : Call effects db call db')
    (decided : decides id call = true) : Settled id (db' approvalRequests) := by
  cases made with
  | @committed _ event step =>
      cases event with
      | command request =>
          obtain ⟨command, operation⟩ := request
          cases operation with
          | decideApproval body =>
              obtain rfl : body.id = id := by simpa [decides, decidesOn] using decided
              obtain ⟨approval, binding, mid, commits, apart⟩ := step_commits step
              obtain ⟨row, found, status, -⟩ := commits.decided
              refine ⟨row, ?_, ?_⟩
              · rw [apart approvalRequests (by decide)]
                exact found
              · rw [status]
                cases body.decision with
                | approved => exact fun same => by cases same
                | rejected => exact fun same => by cases same
          | _ => cases decided
      | _ => cases decided
  | refused => cases decided

/-! ## Runs -/

variable {calls : List (Event × Bool)}

theorem settled_undecided (run : Run (Call effects) db calls db')
    (settled : Settled id (db approvalRequests)) : calls.countP (decides id) = 0 := by
  induction run with
  | done => rfl
  | next first _ ih =>
      obtain ⟨undecided, after⟩ := first.settled settled
      rw [List.countP_cons, ih after, undecided]
      rfl

theorem decided_once (run : Run (Call effects) db calls db') : calls.countP (decides id) ≤ 1 := by
  induction run with
  | done => exact Nat.zero_le 1
  | @next _ _ _ label _ first later ih =>
      rw [List.countP_cons]
      cases decided : decides id label with
      | false => simpa using ih
      | true =>
          rw [settled_undecided later (first.settles decided)]
          exact Nat.le_refl 1

theorem refused_of_effect {failure : Failure}
    (found : (db approvalRequests).find? body.id = some approval)
    (bound : Bound effects body approval binding db)
    (fails : (approvalEffect effects command body.id approval body.decision).Fails
      (decisionState command body approval binding db) failure)
    {committed : Bool}
    (made : Call effects db (.command ⟨command, .decideApproval body⟩, committed) db') :
    committed = false ∧ db' = db := by
  cases made with
  | refused => exact ⟨rfl, rfl⟩
  | committed step =>
      obtain ⟨approval', binding', mid, commits, -⟩ := step_commits step
      have sameApproval : approval' = approval :=
        Option.some.inj (commits.found.symm.trans found)
      subst sameApproval
      have sameBinding : binding' = binding := by
        have read := commits.bound.symm.trans bound
        injection read with committed
        injection committed
      subst sameBinding
      obtain ⟨outcome, effect⟩ := commits.effect
      have runs := effect.symm.trans fails
      cases runs

/-- However the calls interleave, a request is decided at most once. A committed
decision is by a reviewer with a required role who did not ask for it, and runs
the effect once in its own transaction; a decision whose effect fails is
refused, and the database stays as it is. -/
theorem decisions_atomic (run : Run (Call effects) opening calls db) :
    (∀ id, calls.countP (decides id) ≤ 1) ∧
      (∀ command body db',
        Call effects db (.command ⟨command, .decideApproval body⟩, true) db' →
          ∃ approval binding mid, Commits effects command body approval binding db mid ∧
            ApartFromOutbox mid db') ∧
      ∀ command body approval binding failure committed db',
        (db approvalRequests).find? body.id = some approval →
        Bound effects body approval binding db →
        (approvalEffect effects command body.id approval body.decision).Fails
          (decisionState command body approval binding db) failure →
        Call effects db (.command ⟨command, .decideApproval body⟩, committed) db' →
          committed = false ∧ db' = db := by
  refine ⟨fun id => decided_once run, ?_, ?_⟩
  · intro command body db' made
    cases made with
    | committed step => exact step_commits step
  · intro command body approval binding failure committed db' found bound fails made
    exact refused_of_effect found bound fails made

def rejects (time userId : Nat) : Request :=
  requestAt time userId [.finance]
    (.decideApproval { id := 1, decision := .rejected, challengeNo := some "C" })

/-- A high-risk correction that user 1 asked for, and the challenge of its
rejection by user 2. -/
def askedDatabase : Database :=
  (emptyDatabase.put approvalRequests (Table.empty.insert
    { requestNo := "R", workflowType := .financialRecordCorrection
      entityType := "payment_record", entityId := 1, payload := .null, highRisk := true
      status := .pending, requestedBy := 1, reviewedBy := none, reviewComment := ""
      updatedAt := 1 })).put
    authChallenges (Table.empty.insert
      { challengeNo := "C", userId := 2, sessionId := some 2, highRisk := true
        action := "review", objectType := "approval", objectId := 1, objectVersion := 1
        requestDigest := canonical (.object [("id", .number 1), ("decision", .text "rejected"),
          ("comment", .text "")])
        verified := true, consumedAt := none, expiresAt := 9 })

/-- The challenge is consumed, and user 3 can no longer reject the request. -/
def rejectedOnce (db : Database) : Bool :=
  ((db authChallenges).find? 1).any (fun challenge => challenge.consumedAt == some 2) &&
    match execute noProcurement (rejects 3 3) db with
    | .error failure => failure == versionConflict "Approval was already decided"
    | .ok _ => false

theorem rejected_once : ∃ db,
    Run (Call noProcurement) askedDatabase
      [(.command (rejects 2 2), true), (.command (rejects 3 3), false)] db ∧
      ∀ id, [((.command (rejects 2 2) : Event), true),
        (.command (rejects 3 3), false)].countP (decides id) ≤ 1 := by
  obtain ⟨db, run, rejected⟩ := replay_reaches noProcurement [rejects 2 2] askedDatabase
    rejectedOnce (by decide +kernel)
  cases run with
  | next first later =>
      cases later
      simp only [rejectedOnce, Bool.and_eq_true] at rejected
      obtain ⟨-, refused⟩ := rejected
      split at refused
      · rename_i failure failed
        have calls : Run (Call noProcurement) askedDatabase
            [(.command (rejects 2 2), true), (.command (rejects 3 3), false)] db :=
          Run.next (Call.committed first) (Run.single (Call.refused failed))
        exact ⟨db, calls, (decisions_atomic calls).1⟩
      · cases refused

end SupplyChain.Approvals
