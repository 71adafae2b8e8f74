import SupplyChain.Approvals
import SupplyChain.ApprovalEffects.Outcomes

/-!
What the decision of an approval did when it committed: the request was
pending, it is decided, and the effect of its workflow ran.
-/

namespace SupplyChain.Approvals

open Relational Transaction TableName

variable {effects : ProcurementEffects} {command : CommandContext} {approval : ApprovalRequest}
  {decision : Decision} {db db' : Database} {reply : JsonValue} {sent : List DomainEvent}
  {writes : List TableName}

theorem financialRecordCorrection_returns
    (returns : (ApprovalEffects.financialRecordCorrection command approval decision).Returns
      db reply sent db') :
    sent = [] ∧ ((decision = .rejected ∧ db' = db) ∨
      ∃ original proposal,
        ApprovalEffects.Corrected command approval original proposal db db') := by
  unfold ApprovalEffects.financialRecordCorrection at returns
  split at returns
  · rename_i rejected
    obtain ⟨-, rfl, rfl⟩ := returns_pure.mp returns
    exact ⟨rfl, Or.inl ⟨rejected, rfl⟩⟩
  · obtain ⟨sends, corrected⟩ := ApprovalEffects.applyCorrection_returns returns
    exact ⟨sends, Or.inr corrected⟩

theorem approvalEffect_sends_nothing {id : Nat}
    (returns : (approvalEffect effects command id approval decision).Returns db reply sent db') :
    sent = [] := by
  unfold approvalEffect at returns
  cases workflow : approval.workflowType with
  | userRoleChange =>
      simp only [workflow, returns_widen] at returns
      exact ApprovalEffects.userRoleChange_returns returns
  | warehouseTransfer =>
      simp only [workflow, returns_widen] at returns
      exact (ApprovalEffects.warehouseTransfer_returns returns).2.1
  | warehouseMerge =>
      simp only [workflow, returns_widen] at returns
      exact ApprovalEffects.warehouseMerge_returns returns
  | stocktakeVariance =>
      simp only [workflow, returns_widen] at returns
      obtain ⟨_, _, _, _, sends, _⟩ := ApprovalEffects.stocktakeVariance_returns returns
      exact sends
  | productionVariance =>
      simp only [workflow, returns_widen] at returns
      obtain ⟨_, _, _, sends, _⟩ := ApprovalEffects.productionVariance_returns returns
      exact sends
  | shipmentDeviation =>
      simp only [workflow, returns_widen] at returns
      exact (ApprovalEffects.shipmentDeviation_returns returns).2.1
  | financialRecordCorrection =>
      simp only [workflow, returns_widen] at returns
      exact (financialRecordCorrection_returns returns).1
  | procurement name =>
      simp only [workflow, returns_widen] at returns
      exact effects.silent returns

theorem approvalBinding_reads {id : Nat} {binding : ApprovalBinding}
    (returns : (approvalBinding effects id approval decision : Tx writes ApprovalBinding).Returns
      db binding sent db') : sent = [] ∧ db' = db := by
  unfold approvalBinding at returns
  split at returns
  · simp only [returns_bind_refuseIf, returns_bind_query, returns_bind_orThrow,
      returns_bind_identifier, returns_pure] at returns
    obtain ⟨-, _, -, -, -, sends, same⟩ := returns
    exact ⟨sends, same⟩
  · simp only [returns_bind_identifier, returns_pure] at returns
    exact returns.2.2

/-- What the decision of a request is bound to: the workflows of the procurement
side version their requests themselves, the others by the time of the last change. -/
theorem approvalBinding_returns {id : Nat} {binding : ApprovalBinding}
    (returns : (approvalBinding effects id approval decision : Tx writes ApprovalBinding).Returns
      db binding sent db') :
    (∃ name, approval.workflowType = .procurement name ∧ effects.registered name = true ∧
      versionOf (db procurementVersions) "approval_request" id = some binding.objectVersion ∧
      binding.objectType = "r2:approval_request" ∧
      binding.stepUpAction = if decision = .approved then "approve" else "reject") ∨
    ((∀ name, approval.workflowType ≠ .procurement name) ∧
      binding = ⟨"approval", approval.updatedAt, "review"⟩) := by
  unfold approvalBinding at returns
  split at returns
  · rename_i name workflow
    simp only [returns_bind_refuseIf, returns_bind_query, returns_bind_orThrow,
      returns_bind_identifier, returns_pure] at returns
    obtain ⟨registered, stored, found, -, rfl, -, -⟩ := returns
    exact Or.inl ⟨name, workflow, by simpa using registered, found, rfl, rfl⟩
  · rename_i other
    simp only [returns_bind_identifier, returns_pure] at returns
    exact Or.inr ⟨other, returns.2.1⟩

theorem stepUpDecision_returns [Writes authChallenges writes] {body : DecideApproval} {id : Nat}
    {comment : String} {binding : ApprovalBinding} {u : Unit}
    (returns : (stepUpDecision command body id comment binding : Tx writes Unit).Returns
      db u sent db') :
    sent = [] ∧ ∀ t, t ≠ authChallenges → db' t = db t := by
  simp only [stepUpDecision, returns_bind_orThrow, returns_bind_string,
    returns_consumeStepUpClaim] at returns
  obtain ⟨_, -, -, -, sends, rfl⟩ := returns
  exact ⟨sends, fun t other => Store.put_other _ _ other⟩

/-- The effect runs on the database in which the request is decided. -/
structure Decided (effects : ProcurementEffects) (command : CommandContext)
    (body : DecideApproval) (approval : ApprovalRequest) (db mid db' : Database) : Prop where
  found : (db approvalRequests).find? body.id = some approval
  pending : approval.status = .pending
  separate : approval.requestedBy ≠ command.access.userId
  decided : ∃ change : ApprovalRequest → ApprovalRequest,
    mid approvalRequests = (db approvalRequests).modify body.id change ∧
      ∀ row, (change row).status = body.decision.status ∧
        (change row).workflowType = row.workflowType ∧ (change row).entityId = row.entityId
  claimed : ∃ row, (mid approvalRequests).find? body.id = some row ∧
    row.workflowType = approval.workflowType ∧ row.entityType = approval.entityType ∧
    row.entityId = approval.entityId ∧ row.payload = approval.payload
  kept : ∀ t, t ≠ approvalRequests → t ≠ authChallenges → mid t = db t
  effect : ∃ outcome, (approvalEffect effects command body.id approval body.decision).Returns
    mid outcome [] db'

theorem decideApproval_returns {body : DecideApproval}
    (returns : (decideApproval effects command body).Returns db reply sent db') :
    sent = [⟨.approvalDecided, .approval, body.id, none⟩] ∧
      ∃ approval mid, Decided effects command body approval db mid db' := by
  simp only [decideApproval, returns_bind_identifier, returns_bind_optionalString,
    returns_bind_select, returns_bind_orThrow] at returns
  obtain ⟨-, -, approval, found, returns⟩ := returns
  rw [returns_bind_of_reads approvalBinding_reads] at returns
  obtain ⟨binding, -, returns⟩ := returns
  simp only [returns_bind_requireRole, returns_bind_refuseIf] at returns
  obtain ⟨-, separate, pending, returns⟩ := returns
  obtain ⟨_, claims, stepped, _, stepUp, rest, rfl⟩ := returns_bind.mp returns
  simp only [returns_bind_updateRow, returns_bind_widen, returns_bind_domainEvent,
    returns_pure] at rest
  obtain ⟨-, outcome, _, _, _, effect, ⟨_, ⟨-, rfl, rfl⟩, rfl⟩, rfl⟩ := rest
  obtain rfl := approvalEffect_sends_nothing effect
  have stepKept : ∀ t, t ≠ authChallenges → stepped t = db t := by
    rcases returns_whenever.mp stepUp with ⟨-, claimed⟩ | ⟨-, rfl, rfl⟩
    · exact (stepUpDecision_returns claimed).2
    · exact fun _ _ => rfl
  have silent : claims = [] := by
    rcases returns_whenever.mp stepUp with ⟨-, claimed⟩ | ⟨-, sends, -⟩
    · exact (stepUpDecision_returns claimed).1
    · exact sends
  refine ⟨by rw [silent]; rfl, approval, _,
    { found := found
      pending := not_not.mp pending
      separate := separate
      decided := by
        rw [Store.put_same, stepKept _ (by decide)]
        exact ⟨_, rfl, fun row => ⟨rfl, rfl, rfl⟩⟩
      claimed := by
        rw [Store.put_same, stepKept _ (by decide)]
        exact ⟨_, Table.find?_modify_self _ found, rfl, rfl, rfl, rfl⟩
      kept := by
        intro t other notChallenge
        rw [Store.put_other _ _ other, stepKept t notChallenge]
      effect := ⟨outcome, effect⟩ }⟩

/-- The claim that a high-risk decision consumes. -/
def decisionClaim (command : CommandContext) (body : DecideApproval) (binding : ApprovalBinding)
    (sessionId : Nat) : ApprovalClaim where
  challengeNo := trim (body.challengeNo.getD "")
  userId := command.access.userId
  sessionId := sessionId
  action := binding.stepUpAction
  objectType := binding.objectType
  objectId := body.id
  objectVersion := binding.objectVersion
  requestDigest := payloadDigest command (.object [("id", .number body.id),
    ("decision", .text body.decision.name), ("comment", .text (trim (body.comment.getD "")))])

/-- What a decision did to the challenges: a high-risk one consumed exactly one
that its claim matches, and any other none. -/
def Claimed (command : CommandContext) (body : DecideApproval) (approval : ApprovalRequest)
    (binding : ApprovalBinding) (db db' : Database) : Prop :=
  (approval.highRisk = false ∧ db' authChallenges = db authChallenges) ∨
    (approval.highRisk = true ∧ ∃ sessionId, command.access.sessionId = some sessionId ∧
      ((db authChallenges).select fun _ row =>
        row.matches (decisionClaim command body binding sessionId) command.clock).length = 1 ∧
      db' authChallenges = consumedChallenges (db authChallenges) command
        (decisionClaim command body binding sessionId))

theorem decideApproval_claims {body : DecideApproval}
    (returns : (decideApproval effects command body).Returns db reply sent db') :
    ∃ approval binding, (db approvalRequests).find? body.id = some approval ∧
      hasRole command.access (requiredRoles approval.workflowType) = true ∧
      (approvalBinding effects body.id approval body.decision :
        Tx (approvalRequests :: authChallenges :: effectTables) ApprovalBinding).Returns
          db binding [] db ∧
      Claimed command body approval binding db db' := by
  simp only [decideApproval, returns_bind_identifier, returns_bind_optionalString,
    returns_bind_select, returns_bind_orThrow] at returns
  obtain ⟨-, -, approval, found, returns⟩ := returns
  rw [returns_bind_of_reads approvalBinding_reads] at returns
  obtain ⟨binding, bound, returns⟩ := returns
  simp only [returns_bind_requireRole, returns_bind_refuseIf] at returns
  obtain ⟨role, -, -, returns⟩ := returns
  obtain ⟨_, claims, stepped, _, stepUp, rest, rfl⟩ := returns_bind.mp returns
  simp only [returns_bind_updateRow, returns_bind_widen, returns_bind_domainEvent,
    returns_pure] at rest
  obtain ⟨-, outcome, _, _, _, effect, ⟨_, ⟨-, rfl, rfl⟩, rfl⟩, rfl⟩ := rest
  refine ⟨approval, binding, found, role, bound, ?_⟩
  have kept : db' authChallenges = stepped authChallenges := by
    rw [effect.unwritten authChallenges (by decide)]
    simp
  rcases returns_whenever.mp stepUp with ⟨highRisk, claimed⟩ | ⟨lowRisk, -, rfl⟩
  · simp only [stepUpDecision, returns_bind_orThrow, returns_bind_string,
      returns_consumeStepUpClaim] at claimed
    obtain ⟨sessionId, session, -, single, -, rfl⟩ := claimed
    refine Or.inr ⟨highRisk, sessionId, session, single, ?_⟩
    rw [kept, Store.put_same]
    rfl
  · exact Or.inl ⟨by simpa using lowRisk, kept⟩

end SupplyChain.Approvals
