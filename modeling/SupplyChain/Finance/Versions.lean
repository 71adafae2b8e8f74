import SupplyChain.Finance.Guarantees

/-!
The versions that step-up claims of the finance side are bound to. A version
is the `updated_at` of the row, to which some writers give a later value and
others the reading of the clock.
-/

namespace SupplyChain.Finance

open Relational Transaction TableName

/-! ## Rows that are stamped with the clock -/

section Stamps

variable {Row : Type} {version : Row → Nat} {now : Nat} {ids : List Nat} {t u v : Table Row}

/-- The row is untouched, or one of `ids` that shows the reading of the clock. -/
def Stamped (version : Row → Nat) (now : Nat) (ids : List Nat) (id : Nat) (old row : Row) : Prop :=
  row = old ∨ (id ∈ ids ∧ version row = now)

/-- The row is untouched or shows a later version. -/
def Advanced (version : Row → Nat) (_ : Nat) (old row : Row) : Prop :=
  row = old ∨ version old < version row

theorem stamped_refl : Table.Revises (Stamped version now ids) t t :=
  Table.Revises.refl fun _ _ => Or.inl rfl

theorem stamped_trans (first : Table.Revises (Stamped version now ids) t u)
    (second : Table.Revises (Stamped version now ids) u v) :
    Table.Revises (Stamped version now ids) t v := by
  refine first.trans second ?_
  rintro id old mid row before (rfl | stamped)
  · exact before
  · exact Or.inr stamped

theorem stamped_modify {id : Nat} {change : Row → Row} (listed : id ∈ ids)
    (stamps : ∀ row, version (change row) = now) :
    Table.Revises (Stamped version now ids) t (t.modify id change) := by
  apply Table.revises_modify
  · intro old _
    exact Or.inr ⟨listed, stamps old⟩
  · intro key old _
    exact Or.inl rfl

theorem stamped_more {ids' : List Nat} (more : ∀ id ∈ ids, id ∈ ids')
    (stamped : Table.Revises (Stamped version now ids) t u) :
    Table.Revises (Stamped version now ids') t u := by
  refine stamped.imp ?_
  rintro id old row _ (same | ⟨listed, stamp⟩)
  · exact Or.inl same
  · exact Or.inr ⟨more id listed, stamp⟩

theorem Stamped.advanced (stamped : Table.Revises (Stamped version now ids) t u)
    (ahead : ∀ id ∈ ids, ∀ row, t.find? id = some row → version row < now) :
    Table.Evolves (Advanced version) t u := by
  refine (stamped.imp ?_).evolves
  rintro id old row found (same | ⟨listed, stamp⟩)
  · exact Or.inl same
  · have behind := ahead id listed old found
    exact Or.inr (by omega)

theorem advanced_refl (id : Nat) (row : Row) : Advanced version id row row :=
  Or.inl rfl

theorem advanced_trans (id : Nat) (a b c : Row) (first : Advanced version id a b)
    (second : Advanced version id b c) : Advanced version id a c := by
  rcases first with rfl | below
  · exact second
  · rcases second with rfl | above
    · exact Or.inr below
    · exact Or.inr (Nat.lt_trans below above)

theorem laterThan_above (updatedAt now : Nat) : updatedAt < laterThan updatedAt now := by
  unfold laterThan
  omega

end Stamps

/-! ## Which rows an event stamps -/

variable {effects : Approvals.ProcurementEffects} {command : CommandContext}
  {mid db db' : Database} {reply : JsonValue} {sent : List DomainEvent} {event : Event}
  {events : List Event}

/-- The approved correction of a financial record that the decision `body`
runs, with the record it corrects. -/
def Corrects (db : Database) (body : Approvals.DecideApproval) (approval : ApprovalRequest)
    (original : PaymentRecord) : Prop :=
  (db approvalRequests).find? body.id = some approval ∧
    approval.workflowType = .financialRecordCorrection ∧ body.decision = .approved ∧
    (db paymentRecords).find? approval.entityId = some original

/-- The payment requests whose row an event stamps with the clock. -/
inductive StampsRequest (db : Database) : Event → Nat → Nat → Prop
  | allocate {command : CommandContext} {body : VerifyInvoice} {id : Nat}
      (covers : id ∈ reachedBy db body) :
      StampsRequest db (.command ⟨command, .financeCommand (.verifyInvoice body)⟩) command.now id
  | freeze {command : CommandContext} {body : InvalidateInvoice}
      {allocation : Nat × InvoicePaymentAllocation}
      (active : allocation ∈ activeAllocations db body.invoiceId) :
      StampsRequest db (.command ⟨command, .financeCommand (.invalidateInvoice body)⟩) command.now
        allocation.2.paymentRequestId
  | correctOriginal {command : CommandContext} {body : Approvals.DecideApproval}
      {approval : ApprovalRequest} {original : PaymentRecord}
      (corrects : Corrects db body approval original) :
      StampsRequest db (.command ⟨command, .decideApproval body⟩) command.now
        original.paymentRequestId
  | correctProposed {command : CommandContext} {body : Approvals.DecideApproval}
      {approval : ApprovalRequest} {original : PaymentRecord} {proposed : Int}
      (corrects : Corrects db body approval original)
      (stated : approval.payload.member "proposedPaymentRequestId" = some (.number proposed)) :
      StampsRequest db (.command ⟨command, .decideApproval body⟩) command.now proposed.toNat

/-- The invoice exceptions whose row an event stamps with the clock. -/
inductive StampsException (db : Database) : Event → Nat → Nat → Prop
  | link {command : CommandContext} {body : LinkReplacementInvoice} :
      StampsException db (.command ⟨command, .financeCommand (.linkReplacementInvoice body)⟩)
        command.now body.invoiceExceptionId
  | warn {now exceptionId : Nat} {exception : InvoiceException}
      (found : (db invoiceExceptions).find? exceptionId = some exception)
      (waiting : exception.status = .awaitingRemediation) :
      StampsException db (.warnInvoiceRisk now exceptionId) now exceptionId
  | correct {command : CommandContext} {body : Approvals.DecideApproval}
      {approval : ApprovalRequest} {original : PaymentRecord} {exceptionId : Nat}
      (corrects : Corrects db body approval original) (refund : original.recordType = .refund)
      (linked : original.invoiceExceptionId = some exceptionId) :
      StampsException db (.command ⟨command, .decideApproval body⟩) command.now exceptionId

/-- The clock of an event is ahead of every row that it stamps. -/
structure ClockAhead (db : Database) (event : Event) : Prop where
  requests : ∀ now id, StampsRequest db event now id → ∀ row,
    (db factoryPaymentRequests).find? id = some row → row.updatedAt < now
  exceptions : ∀ now id, StampsException db event now id → ∀ row,
    (db invoiceExceptions).find? id = some row → row.updatedAt < now

/-- Every row that a step-up claim is bound to is untouched or shows a later
version. -/
structure VersionsAdvance (db db' : Database) : Prop where
  requests : Table.Evolves (Advanced (·.updatedAt)) (db factoryPaymentRequests)
    (db' factoryPaymentRequests)
  exceptions : Table.Evolves (Advanced (·.updatedAt)) (db invoiceExceptions) (db' invoiceExceptions)
  records : Table.Evolves (Advanced (·.updatedAt)) (db paymentRecords) (db' paymentRecords)

theorem VersionsAdvance.refl (db : Database) : VersionsAdvance db db where
  requests := Table.Evolves.refl advanced_refl
  exceptions := Table.Evolves.refl advanced_refl
  records := Table.Evolves.refl advanced_refl

theorem VersionsAdvance.trans (first : VersionsAdvance db mid) (second : VersionsAdvance mid db') :
    VersionsAdvance db db' where
  requests := first.requests.trans advanced_trans second.requests
  exceptions := first.exceptions.trans advanced_trans second.exceptions
  records := first.records.trans advanced_trans second.records

theorem VersionsAdvance.of_same (requests : db' factoryPaymentRequests = db factoryPaymentRequests)
    (exceptions : db' invoiceExceptions = db invoiceExceptions)
    (records : db' paymentRecords = db paymentRecords) : VersionsAdvance db db' := by
  constructor
  · rw [requests]
    exact Table.Evolves.refl advanced_refl
  · rw [exceptions]
    exact Table.Evolves.refl advanced_refl
  · rw [records]
    exact Table.Evolves.refl advanced_refl

/-! ## The writers -/

theorem allocateFrom_stamps {invoiceId : Nat} {requests : List (Nat × FactoryPaymentRequest)}
    {remaining allocated : Int}
    (returns : (allocateFrom command invoiceId requests remaining).Returns db allocated sent db') :
    Table.Revises (Stamped (·.updatedAt) command.now (reached requests remaining))
      (db factoryPaymentRequests) (db' factoryPaymentRequests) := by
  induction requests generalizing remaining allocated db sent with
  | nil =>
      obtain ⟨-, -, rfl⟩ := returns_pure.mp returns
      exact stamped_refl
  | cons head rest ih =>
      obtain ⟨requestId, request⟩ := head
      unfold allocateFrom at returns
      unfold reached
      by_cases spent : remaining = 0
      · rw [if_pos spent] at returns ⊢
        obtain ⟨-, -, rfl⟩ := returns_pure.mp returns
        exact stamped_refl
      rw [if_neg spent] at returns ⊢
      by_cases covered : min remaining (outstanding request) = 0
      · rw [if_pos covered] at returns ⊢
        exact ih returns
      rw [if_neg covered] at returns ⊢
      simp only [returns_bind, returns_pure] at returns
      obtain ⟨_, _, mid, _, round, ⟨_, _, _, _, later, ⟨-, -, rfl⟩, -⟩, -⟩ := returns
      have first : Table.Revises (Stamped (·.updatedAt) command.now
          (requestId :: reached rest (remaining - min remaining (outstanding request))))
          (db factoryPaymentRequests) (mid factoryPaymentRequests) := by
        obtain ⟨-, rfl⟩ := allocateRequest_returns round
        rw [Store.put_same]
        exact stamped_modify List.mem_cons_self fun _ => rfl
      exact stamped_trans first (stamped_more (fun _ => List.mem_cons_of_mem _) (ih later))

theorem verifyInvoice_stamps {body : VerifyInvoice}
    (returns : (verifyInvoice command body).Returns db reply sent db') :
    Table.Revises (Stamped (·.updatedAt) command.now (reachedBy db body))
      (db factoryPaymentRequests) (db' factoryPaymentRequests) := by
  obtain ⟨invoice, verification, _, _, found, -, -, -, -, -, -, settled⟩ :=
    verifyInvoice_returns returns
  obtain ⟨-, ⟨-, rfl⟩ | ⟨accepted, full, allocation⟩ | ⟨-, -, rfl⟩⟩ := settleInvoice_returns settled
  · simpa using stamped_refl
  · have stamps := allocateFrom_stamps allocation
    simpa [reachedBy, found, accepted, full, requestsOf] using stamps
  · simpa using stamped_refl

theorem freezeAllocations_stamps {allocations : List (Nat × InvoicePaymentAllocation)} {u : Unit}
    (returns : (forEach (freezeAllocation command) allocations).Returns db u sent db') :
    Table.Revises (Stamped (·.updatedAt) command.now
      (allocations.map fun allocation => allocation.2.paymentRequestId))
      (db factoryPaymentRequests) (db' factoryPaymentRequests) := by
  refine forEach_preserves (fun db db' => Table.Revises (Stamped (·.updatedAt)
    command.now (allocations.map fun allocation => allocation.2.paymentRequestId))
      (db factoryPaymentRequests) (db' factoryPaymentRequests))
    (fun _ => stamped_refl) stamped_trans ?_ returns
  intro allocation member s first mid round
  obtain ⟨-, rfl⟩ := freezeAllocation_returns round
  rw [Store.put_same]
  exact stamped_modify (List.mem_map.mpr ⟨allocation, member, rfl⟩) fun _ => rfl

theorem projectRequests_stamps {original : PaymentRecord}
    {proposal : ApprovalEffects.CorrectionProposal}
    {requests : List (Nat × FactoryPaymentRequest)} {u : Unit}
    (returns : (forEach (ApprovalEffects.projectRequest command original proposal) requests).Returns
      db u sent db') :
    Table.Revises (Stamped (·.updatedAt) command.now (requests.map (·.1)))
      (db factoryPaymentRequests) (db' factoryPaymentRequests) := by
  refine forEach_preserves (fun db db' => Table.Revises (Stamped (·.updatedAt)
    command.now (requests.map (·.1))) (db factoryPaymentRequests) (db' factoryPaymentRequests))
    (fun _ => stamped_refl) stamped_trans ?_ returns
  intro target member s first mid round
  simp only [ApprovalEffects.projectRequest, returns_bind_query, returns_bind_ofExcept,
    returns_bind_refuseIf, returns_updateRow] at round
  obtain ⟨net, -, -, -, -, rfl⟩ := round
  rw [Store.put_same]
  exact stamped_modify (List.mem_map.mpr ⟨target, member, rfl⟩) fun _ => rfl

theorem readProposal_request {writes : List TableName} {stored : JsonValue}
    {proposal : ApprovalEffects.CorrectionProposal}
    (returns : (ApprovalEffects.readProposal stored :
      Tx writes ApprovalEffects.CorrectionProposal).Returns db proposal sent db') :
    ∃ proposed : Int, stored.member "proposedPaymentRequestId" = some (.number proposed) ∧
      proposal.paymentRequestId = proposed.toNat := by
  rw [ApprovalEffects.readProposal,
    returns_bind_of_reads ApprovalEffects.parsedPayload_reads] at returns
  obtain ⟨payload, parsed, returns⟩ := returns
  obtain rfl := ApprovalEffects.isOverproduction_parsed parsed
  rw [returns_bind_of_reads fun member =>
    (ApprovalEffects.integerMember_returns member).2] at returns
  obtain ⟨proposed, read, returns⟩ := returns
  rw [returns_bind_of_reads fun member =>
    (ApprovalEffects.integerMember_returns member).2] at returns
  obtain ⟨amount, -, returns⟩ := returns
  rw [returns_bind_of_reads ApprovalEffects.textMember_reads] at returns
  obtain ⟨paidAt, -, returns⟩ := returns
  rw [returns_bind_of_reads ApprovalEffects.textMember_reads] at returns
  obtain ⟨reference, -, returns⟩ := returns
  obtain ⟨rfl, -, -⟩ := returns_pure.mp returns
  refine ⟨proposed, ?_, rfl⟩
  unfold integerMember at read
  split at read
  · rename_i value stated
    obtain ⟨-, rfl, -, -⟩ := returns_integer.mp read
    exact stated
  · simp at read

theorem applyCorrection_stamps {approval : ApprovalRequest}
    (returns : (ApprovalEffects.applyCorrection command approval).Returns db reply sent db') :
    ∃ original, (db paymentRecords).find? approval.entityId = some original ∧
      ∃ proposed : Int,
        approval.payload.member "proposedPaymentRequestId" = some (.number proposed) ∧
        Table.Revises (Stamped (·.updatedAt) command.now
          [original.paymentRequestId, proposed.toNat])
          (db factoryPaymentRequests) (db' factoryPaymentRequests) := by
  rw [ApprovalEffects.applyCorrection,
    returns_bind_of_reads fun read => (ApprovalEffects.readProposal_returns read).2] at returns
  obtain ⟨proposal, read, returns⟩ := returns
  obtain ⟨proposed, stated, named⟩ := readProposal_request read
  simp only [returns_bind_select, returns_bind_orThrow, returns_bind_refuseIf,
    returns_bind_query] at returns
  obtain ⟨original, found, -, -, -, returns⟩ := returns
  rw [returns_bind_of_reads fun locked =>
    ⟨(ApprovalEffects.correctionRequests_returns locked).1,
      (ApprovalEffects.correctionRequests_returns locked).2.1⟩] at returns
  obtain ⟨requests, locked, returns⟩ := returns
  obtain ⟨-, -, keys, -⟩ := ApprovalEffects.correctionRequests_returns locked
  simp only [returns_bind_orThrow, returns_bind_refuseIf] at returns
  obtain ⟨-, -, -, returns⟩ := returns
  rw [returns_bind_of_reads fun context =>
    ⟨(ApprovalEffects.refundContext_returns context).1,
      (ApprovalEffects.refundContext_returns context).2.1⟩] at returns
  obtain ⟨refund, -, returns⟩ := returns
  simp only [returns_bind_widen, returns_pure] at returns
  obtain ⟨_, _, written, _, write, ⟨_, _, mid, _, project, ⟨_, _, _, _, exception,
    ⟨-, rfl, rfl⟩, -⟩, -⟩, -⟩ := returns
  refine ⟨original, found, proposed, stated, ?_⟩
  have before : written factoryPaymentRequests = db factoryPaymentRequests :=
    write.unwritten _ (by decide)
  have after : db' factoryPaymentRequests = mid factoryPaymentRequests :=
    exception.unwritten _ (by decide)
  rw [after, ← before]
  refine stamped_more ?_ (projectRequests_stamps project)
  intro id member
  rw [keys, ApprovalEffects.mem_correctionIds, named] at member
  simpa using member

/-- What an approved correction stamps: the two requests it projects and, for a
refund, the exception. -/
theorem correction_advances {body : Approvals.DecideApproval} {approval : ApprovalRequest}
    (found : (db approvalRequests).find? body.id = some approval)
    (workflow : approval.workflowType = .financialRecordCorrection)
    (ahead : ClockAhead db (.command ⟨command, .decideApproval body⟩))
    (same : mid factoryPaymentRequests = db factoryPaymentRequests ∧
      mid invoiceExceptions = db invoiceExceptions ∧ mid paymentRecords = db paymentRecords)
    (returns : (ApprovalEffects.financialRecordCorrection command approval body.decision).Returns
      mid reply sent db') :
    VersionsAdvance db db' := by
  obtain ⟨-, ⟨-, rfl⟩ | ⟨original, proposal, corrected⟩⟩ :=
    Approvals.financialRecordCorrection_returns returns
  · exact VersionsAdvance.of_same same.1 same.2.1 same.2.2
  unfold ApprovalEffects.financialRecordCorrection at returns
  split at returns
  · obtain ⟨-, -, rfl⟩ := returns_pure.mp returns
    exact VersionsAdvance.of_same same.1 same.2.1 same.2.2
  rename_i accepted
  obtain ⟨other, foundOther, proposed, stated, requests⟩ := applyCorrection_stamps returns
  obtain rfl : original = other := Option.some.inj (corrected.found.symm.trans foundOther)
  have approved : body.decision = .approved := by
    cases decision : body.decision
    · rfl
    · exact absurd decision accepted
  have corrects : Corrects db body approval original :=
    ⟨found, workflow, approved, by rw [← same.2.2]; exact foundOther⟩
  constructor
  · rw [same.1] at requests
    refine Stamped.advanced requests ?_
    intro id listed row foundRow
    rcases List.mem_cons.mp listed with rfl | last
    · exact ahead.requests _ _ (.correctOriginal corrects) row foundRow
    · obtain rfl := List.mem_singleton.mp last
      exact ahead.requests _ _ (.correctProposed corrects stated) row foundRow
  · rcases corrected.correctable with payment | refund
    · rw [corrected.payment payment, same.2.1]
      exact Table.Evolves.refl advanced_refl
    · obtain ⟨exceptionId, exception, linked, -, -, -, -, -, exceptions⟩ := corrected.refund refund
      rw [exceptions, same.2.1]
      refine Stamped.advanced
        (stamped_modify (List.mem_singleton.mpr rfl) fun _ => rfl) ?_
      intro id listed row foundRow
      obtain rfl := List.mem_singleton.mp listed
      exact ahead.exceptions _ _ (.correct corrects refund linked) row foundRow
  · rw [corrected.records, same.2.2]
    exact (Table.evolves_insert advanced_refl _).trans advanced_trans
      (Table.evolves_insert advanced_refl _)

theorem decideApproval_advances {body : Approvals.DecideApproval}
    (ahead : ClockAhead db (.command ⟨command, .decideApproval body⟩))
    (returns : (Approvals.decideApproval effects command body).Returns db reply sent db') :
    VersionsAdvance db db' := by
  obtain ⟨-, approval, mid, decided⟩ := Approvals.decideApproval_returns returns
  have same : mid factoryPaymentRequests = db factoryPaymentRequests ∧
      mid invoiceExceptions = db invoiceExceptions ∧ mid paymentRecords = db paymentRecords := by
    simp [decided.kept]
  obtain ⟨outcome, effect⟩ := decided.effect
  unfold Approvals.approvalEffect at effect
  cases workflow : approval.workflowType with
  | financialRecordCorrection =>
      simp only [workflow, returns_widen] at effect
      exact correction_advances decided.found workflow ahead same effect
  | _ =>
      simp only [workflow, returns_widen] at effect
      have unwritten := effect.unwritten
      exact VersionsAdvance.of_same (by simp [unwritten, same.1]) (by simp [unwritten, same.2.1])
        (by simp [unwritten, same.2.2])

theorem financeCommand_advances {body : FinanceCommand}
    (ahead : ClockAhead db (.command ⟨command, .financeCommand body⟩))
    (returns : (financeCommand command body).Returns db reply sent db') :
    VersionsAdvance db db' := by
  have kept : ∀ {Row : Type} {version : Row → Nat} {t : Table Row},
      Table.Evolves (Advanced version) t t := Table.Evolves.refl advanced_refl
  unfold financeCommand at returns
  cases body with
  | createInvoice body =>
      have unwritten := (returns_widen.mp returns).unwritten
      exact VersionsAdvance.of_same (by simp [unwritten]) (by simp [unwritten])
        (by simp [unwritten])
  | verifyInvoice body =>
      have unwritten := (returns_widen.mp returns).unwritten
      refine ⟨Stamped.advanced (verifyInvoice_stamps returns) ?_, ?_, ?_⟩
      · intro id covers row found
        exact ahead.requests _ _ (.allocate covers) row found
      · rw [unwritten invoiceExceptions (by decide)]
        exact kept
      · rw [unwritten paymentRecords (by decide)]
        exact kept
  | recordPayment body =>
      have unwritten := (returns_widen.mp returns).unwritten
      obtain ⟨request, -, -, -, -, -, -, -, records, requests⟩ := recordPayment_returns returns
      refine ⟨?_, ?_, ?_⟩
      · rw [requests]
        exact Table.evolves_modify advanced_refl fun old _ => Or.inr (laterThan_above _ _)
      · rw [unwritten invoiceExceptions (by decide)]
        exact kept
      · rw [records]
        exact Table.evolves_insert advanced_refl _
  | invalidateInvoice body =>
      have unwritten := (returns_widen.mp returns).unwritten
      obtain ⟨invoice, mid, -, -, frozen, -, rfl⟩ := invalidateInvoice_returns returns
      refine ⟨?_, ?_, ?_⟩
      · simp only [Store.put_other, ne_eq, reduceCtorEq, not_false_eq_true]
        refine Stamped.advanced (freezeAllocations_stamps frozen) ?_
        intro id listed row found
        obtain ⟨allocation, active, rfl⟩ := List.mem_map.mp listed
        exact ahead.requests _ _ (.freeze active) row found
      · rw [Store.put_same]
        exact Table.evolves_insert advanced_refl _
      · rw [unwritten paymentRecords (by decide)]
        exact kept
  | linkReplacementInvoice body =>
      obtain ⟨row, -, -, -, -, -, -, -, -, rfl⟩ := linkReplacementInvoice_returns returns
      refine ⟨by simpa using kept, ?_, by simpa using kept⟩
      rw [Store.put_same]
      refine Stamped.advanced (stamped_modify (List.mem_singleton.mpr rfl) fun _ => rfl) ?_
      intro id listed old found
      obtain rfl := List.mem_singleton.mp listed
      exact ahead.exceptions _ _ .link old found
  | recordRefund body =>
      have unwritten := (returns_widen.mp returns).unwritten
      obtain ⟨_, _, _, -, -, -, -, -, -, -, -, -, -, records, exceptions⟩ :=
        recordRefund_returns returns
      refine ⟨?_, ?_, ?_⟩
      · rw [unwritten factoryPaymentRequests (by decide)]
        exact kept
      · rw [exceptions]
        exact Table.evolves_modify advanced_refl fun old _ => Or.inr (laterThan_above _ _)
      · rw [records]
        exact Table.evolves_insert advanced_refl _
  | requestRecordCorrection body =>
      have unwritten := (returns_widen.mp returns).unwritten
      exact VersionsAdvance.of_same (by simp [unwritten]) (by simp [unwritten])
        (by simp [unwritten])
  | releaseInvoiceRisk body =>
      have unwritten := (returns_widen.mp returns).unwritten
      obtain ⟨-, -, exceptions⟩ := releaseInvoiceRisk_returns returns
      refine ⟨?_, ?_, ?_⟩
      · rw [unwritten factoryPaymentRequests (by decide)]
        exact kept
      · rw [exceptions]
        exact Table.evolves_modify advanced_refl fun old _ => Or.inr (laterThan_above _ _)
      · rw [unwritten paymentRecords (by decide)]
        exact kept

theorem warnInvoiceRisk_advances {now exceptionId : Nat} {u : Unit}
    (ahead : ClockAhead db (.warnInvoiceRisk now exceptionId))
    (returns : (warnInvoiceRisk now exceptionId).Returns db u sent db') : VersionsAdvance db db' := by
  have unwritten := returns.unwritten
  obtain ⟨-, exceptions⟩ := warnInvoiceRisk_returns returns
  refine ⟨?_, ?_, ?_⟩
  · rw [unwritten factoryPaymentRequests (by decide)]
    exact Table.Evolves.refl advanced_refl
  · rw [exceptions]
    refine (Table.revises_update ?_).evolves
    intro id old found
    by_cases warned : id = exceptionId ∧ old.status = .awaitingRemediation
    · obtain ⟨rfl, waiting⟩ := warned
      have behind := ahead.exceptions _ _ (.warn found waiting) old found
      exact Or.inr (by simpa [waiting] using behind)
    · have untouched : (id == exceptionId && old.status == .awaitingRemediation) = false := by
        simpa using warned
      exact Or.inl (by simp [untouched])
  · rw [unwritten paymentRecords (by decide)]
    exact Table.Evolves.refl advanced_refl

/-- An event whose clock is ahead of what it stamps moves every version on. -/
theorem step_advances (step : Step effects db event db') (ahead : ClockAhead db event) :
    VersionsAdvance db db' := by
  cases step with
  | @command _ request reply committed =>
      obtain ⟨sent, mid, returns, enqueued⟩ := execute_ok committed
      have queued : VersionsAdvance mid db' :=
        VersionsAdvance.of_same (enqueueOutbox_kept enqueued (by decide))
          (enqueueOutbox_kept enqueued (by decide)) (enqueueOutbox_kept enqueued (by decide))
      refine VersionsAdvance.trans ?_ queued
      obtain ⟨command, body⟩ := request
      unfold runCommand at returns
      cases body with
      | financeCommand body => exact financeCommand_advances ahead (returns_widen.mp returns)
      | decideApproval body => exact decideApproval_advances ahead (returns_widen.mp returns)
      | _ =>
          have unwritten := (returns_widen.mp returns).unwritten
          exact VersionsAdvance.of_same (by simp [unwritten]) (by simp [unwritten])
            (by simp [unwritten])
  | warnInvoiceRisk warned => exact warnInvoiceRisk_advances ahead warned
  | procurement own =>
      exact VersionsAdvance.of_same (own _ (by decide)) (own _ (by decide)) (own _ (by decide))
  | approvalRequest => exact VersionsAdvance.of_same (by simp) (by simp) (by simp)
  | outboxMessage => exact VersionsAdvance.of_same (by simp) (by simp) (by simp)

/-! ## Claims on versions -/

/-- A row whose version the step-up claims of the finance commands are bound to. -/
inductive VersionedObject
  | request (row : FactoryPaymentRequest)
  | exception (row : InvoiceException)
  | record (row : PaymentRecord)

def VersionedObject.version : VersionedObject → Nat
  | .request row => row.updatedAt
  | .exception row => row.updatedAt
  | .record row => row.updatedAt

/-- The object that a challenge of some object type and id is about. -/
def objectOf (db : Database) (objectType : String) (objectId : Nat) : Option VersionedObject :=
  if objectType = "finance:record_payment" then
    ((db factoryPaymentRequests).find? objectId).map .request
  else if objectType = "finance:record_refund" ∨ objectType = "finance:release_invoice_risk" then
    ((db invoiceExceptions).find? objectId).map .exception
  else if objectType = "finance:request_record_correction" then
    ((db paymentRecords).find? objectId).map .record
  else none

theorem VersionsAdvance.object (advance : VersionsAdvance db db') {objectType : String}
    {objectId : Nat} {old : VersionedObject} (found : objectOf db objectType objectId = some old) :
    ∃ object, objectOf db' objectType objectId = some object ∧
      (object = old ∨ old.version < object.version) := by
  unfold objectOf at found ⊢
  split at found
  · rename_i payment
    obtain ⟨row, present, rfl⟩ := Option.map_eq_some_iff.mp found
    obtain ⟨row', present', law⟩ := advance.requests.kept objectId row present
    rw [if_pos payment, present']
    exact ⟨.request row', rfl, law.imp (congrArg _) id⟩
  rename_i notPayment
  rw [if_neg notPayment]
  split at found
  · rename_i exceptional
    obtain ⟨row, present, rfl⟩ := Option.map_eq_some_iff.mp found
    obtain ⟨row', present', law⟩ := advance.exceptions.kept objectId row present
    rw [if_pos exceptional, present']
    exact ⟨.exception row', rfl, law.imp (congrArg _) id⟩
  rename_i notException
  rw [if_neg notException]
  split at found
  · rename_i correction
    obtain ⟨row, present, rfl⟩ := Option.map_eq_some_iff.mp found
    obtain ⟨row', present', law⟩ := advance.records.kept objectId row present
    rw [if_pos correction, present']
    exact ⟨.record row', rfl, law.imp (congrArg _) id⟩
  · cases found

/-- The challenges are as they were, or a claim on the current version of its
object was consumed. -/
def ConsumesCurrent (db db' : Database) : Prop :=
  db' authChallenges = db authChallenges ∨
    ∃ (command : CommandContext) (claim : ApprovalClaim),
      db' authChallenges = consumedChallenges (db authChallenges) command claim ∧
        ∀ object, objectOf db claim.objectType claim.objectId = some object →
          claim.objectVersion = object.version

theorem stepUpClaim_object {challengeNo action objectType : String} {objectId version : Nat}
    {payload : JsonValue} {claim : ApprovalClaim}
    (stated : stepUpClaim command challengeNo action objectType objectId version payload =
      some claim) :
    claim.objectType = objectType ∧ claim.objectId = objectId ∧ claim.objectVersion = version := by
  obtain ⟨sessionId, -, rfl⟩ := Option.map_eq_some_iff.mp stated
  exact ⟨rfl, rfl, rfl⟩

theorem recordPayment_consumes {body : RecordPayment}
    (returns : (recordPayment command body).Returns db reply sent db') :
    ConsumesCurrent db db' := by
  simp only [recordPayment, returns_bind_requireRole, returns_bind_identifier,
    returns_bind_integer, returns_bind_string, returns_bind_select, returns_bind_orThrow,
    returns_bind_refuseIf, returns_bind_objectVersion, returns_bind_stepUp,
    returns_bind_claimBusinessKey, returns_bind_query, returns_bind_ofExcept,
    returns_bind_insertInto, returns_bind_updateWhere, returns_bind_bindBusinessKey,
    returns_bind_domainEvent, returns_pure] at returns
  obtain ⟨-, -, -, -, -, request, found, -, -, -, claim, stated, -, -, net, -, -, _,
    ⟨-, rfl, rfl⟩, rfl⟩ := returns
  obtain ⟨type, id, version⟩ := stepUpClaim_object stated
  refine Or.inr ⟨command, claim, by simp, ?_⟩
  intro object current
  rw [type, id, objectOf, if_pos rfl, found] at current
  cases current
  exact version

theorem recordRefund_consumes {body : RecordRefund}
    (returns : (recordRefund command body).Returns db reply sent db') :
    ConsumesCurrent db db' := by
  simp only [recordRefund, returns_bind_requireRole, returns_bind_identifier,
    returns_bind_integer, returns_bind_string, returns_bind_select, returns_bind_orThrow,
    returns_bind_query, returns_bind_refuseIf, returns_bind_ofExcept,
    returns_bind_objectVersion, returns_bind_stepUp, returns_bind_claimBusinessKey,
    returns_bind_insertInto, returns_bind_updateRow, returns_bind_bindBusinessKey,
    returns_bind_domainEvent, returns_pure] at returns
  obtain ⟨-, -, -, -, -, -, request, -, exception, found, -, -,
    -, _, -, -, -, -, -, claim, stated, -, -, -, _, -, -, _, ⟨-, rfl, rfl⟩, rfl⟩ := returns
  obtain ⟨exception', found', foundInvoice⟩ := Option.bind_eq_some_iff.mp found
  obtain ⟨invoice, -, rfl⟩ := Option.map_eq_some_iff.mp foundInvoice
  obtain ⟨type, id, version⟩ := stepUpClaim_object stated
  refine Or.inr ⟨command, claim, by simp, ?_⟩
  intro object current
  rw [type, id, objectOf, if_neg (by decide), if_pos (Or.inl rfl), found'] at current
  cases current
  exact version

theorem releaseInvoiceRisk_consumes {body : ReleaseInvoiceRisk}
    (returns : (releaseInvoiceRisk command body).Returns db reply sent db') :
    ConsumesCurrent db db' := by
  simp only [releaseInvoiceRisk, returns_bind_requireRole, returns_bind_identifier,
    returns_bind_string, returns_bind_requireCleanFile, returns_bind_select, returns_bind_orThrow,
    returns_bind_refuseIf, returns_bind_objectVersion, returns_bind_stepUp,
    returns_bind_updateRow, returns_bind_domainEvent, returns_pure] at returns
  obtain ⟨-, -, -, -, file, -, -, -, -, exception, found, -, -, -, claim, stated, -, -, _,
    ⟨-, rfl, rfl⟩, rfl⟩ := returns
  obtain ⟨type, id, version⟩ := stepUpClaim_object stated
  refine Or.inr ⟨command, claim, by simp, ?_⟩
  intro object current
  rw [type, id, objectOf, if_neg (by decide), if_pos (Or.inr rfl), found] at current
  cases current
  exact version

theorem requestRecordCorrection_consumes {body : RequestRecordCorrection}
    (returns : (requestRecordCorrection command body).Returns db reply sent db') :
    ConsumesCurrent db db' := by
  simp only [requestRecordCorrection, returns_bind_requireRole, returns_bind_identifier,
    returns_bind_integer, returns_bind_string, returns_bind_select, returns_bind_orThrow,
    returns_bind_refuseIf, returns_bind_objectVersion, returns_bind_stepUp,
    returns_bind_insertApproval, returns_bind_domainEvent, returns_pure] at returns
  obtain ⟨-, -, -, -, -, -, -, original, found, -, -, -, claim, stated, -, -, _,
    ⟨-, rfl, rfl⟩, rfl⟩ := returns
  obtain ⟨type, id, version⟩ := stepUpClaim_object stated
  refine Or.inr ⟨command, claim, by simp, ?_⟩
  intro object current
  rw [type, id, objectOf, if_neg (by decide), if_neg (by decide), if_pos rfl, found] at current
  cases current
  exact version

theorem financeCommand_consumes {body : FinanceCommand}
    (returns : (financeCommand command body).Returns db reply sent db') :
    ConsumesCurrent db db' := by
  unfold financeCommand at returns
  cases body with
  | recordPayment body => exact recordPayment_consumes returns
  | recordRefund body => exact recordRefund_consumes returns
  | releaseInvoiceRisk body => exact releaseInvoiceRisk_consumes returns
  | requestRecordCorrection body => exact requestRecordCorrection_consumes returns
  | _ =>
      have unwritten := (returns_widen.mp returns).unwritten
      exact Or.inl (unwritten _ (by decide))

/-- The claims of approval decisions are about no object of the finance side. -/
theorem decideApproval_consumes {body : Approvals.DecideApproval}
    (returns : (Approvals.decideApproval effects command body).Returns db reply sent db') :
    ConsumesCurrent db db' := by
  obtain ⟨approval, binding, -, -, bound, ⟨-, same⟩ | ⟨-, sessionId, -, -, consumed⟩⟩ :=
    Approvals.decideApproval_claims returns
  · exact Or.inl same
  refine Or.inr ⟨command, _, consumed, ?_⟩
  intro object current
  have type : binding.objectType = "r2:approval_request" ∨ binding.objectType = "approval" := by
    rcases Approvals.approvalBinding_returns bound with ⟨_, -, -, -, type, -⟩ | ⟨-, rfl⟩
    · exact Or.inl type
    · exact Or.inr rfl
  have none : objectOf db binding.objectType body.id = none := by
    rcases type with type | type <;> rw [type] <;> rfl
  change objectOf db binding.objectType body.id = some object at current
  rw [none] at current
  cases current

/-- No step but one of the procurement side touches a challenge that is not
for the current version of its object. -/
theorem step_consumes (step : Step effects db event db') (own : event ≠ .procurement) :
    ConsumesCurrent db db' := by
  cases step with
  | @command _ request reply committed =>
      obtain ⟨sent, mid, returns, enqueued⟩ := execute_ok committed
      have queued := enqueueOutbox_kept enqueued (show authChallenges ≠ outboxMessages by decide)
      unfold ConsumesCurrent
      rw [queued]
      obtain ⟨command, body⟩ := request
      unfold runCommand at returns
      cases body with
      | financeCommand body => exact financeCommand_consumes (returns_widen.mp returns)
      | decideApproval body => exact decideApproval_consumes (returns_widen.mp returns)
      | _ => exact Or.inl ((returns_widen.mp returns).unwritten _ (by decide))
  | warnInvoiceRisk warned => exact Or.inl (warned.unwritten _ (by decide))
  | procurement => exact absurd rfl own
  | approvalRequest => exact Or.inl (by simp)
  | outboxMessage => exact Or.inl (by simp)

theorem ConsumesCurrent.kept (consumes : ConsumesCurrent db db') {key : Nat}
    {challenge : AuthChallenge} {object : VersionedObject}
    (found : (db authChallenges).find? key = some challenge)
    (current : objectOf db challenge.objectType challenge.objectId = some object)
    (other : challenge.objectVersion ≠ object.version) :
    (db' authChallenges).find? key = some challenge := by
  rcases consumes with same | ⟨command, claim, consumed, claimed⟩
  · rw [same]
    exact found
  rw [consumed, consumedChallenges, Table.find?_update, found]
  have spared : challenge.matches claim command.clock = false := by
    by_contra matched
    simp only [AuthChallenge.matches, Bool.not_eq_false, Bool.and_eq_true, beq_iff_eq] at matched
    obtain ⟨⟨⟨⟨⟨⟨⟨-, type⟩, id⟩, version⟩, -⟩, -⟩, -⟩, -⟩ := matched
    rw [type, id] at current
    exact other (version.trans (claimed object current))
  simp [spared]

theorem object_versions_increase
    (run : Run (fun db event db' => Step effects db event db' ∧ ClockAhead db event) mid events db) :
    (∀ objectType objectId old, objectOf mid objectType objectId = some old →
      ∃ object, objectOf db objectType objectId = some object ∧
        (object = old ∨ old.version < object.version)) ∧
    ∀ key challenge, (db authChallenges).find? key = some challenge →
      ∀ old, objectOf mid challenge.objectType challenge.objectId = some old →
        challenge.objectVersion = old.version →
        objectOf db challenge.objectType challenge.objectId ≠ some old →
          ∀ event db', Step effects db event db' → event ≠ .procurement →
            (db' authChallenges).find? key = some challenge := by
  have advance : VersionsAdvance mid db :=
    run.relates VersionsAdvance.refl VersionsAdvance.trans fun step => step_advances step.1 step.2
  refine ⟨fun objectType objectId old => advance.object, ?_⟩
  intro key challenge found old before version changed event db' step own
  obtain ⟨object, current, rfl | later⟩ := advance.object before
  · exact absurd current changed
  · exact (step_consumes step own).kept found current (by omega)

/-- The registration of an invoice for a part of the order. -/
def registersPart (time : Nat) (invoiceNo : String) (amount : Int) : Request :=
  requestAt time 1 [.admin] (.financeCommand (.createInvoice
    { factoryId := 1, purchaseOrderId := 1, invoiceNo, invoiceType := .vatGeneral
      coverageMode := .deliveryBatch, amountTaxIncludedMinor := amount, taxAmountMinor := 0
      expectedAmountMinor := some amount, issuedAt := "1", fileId := 1 }))

/-- Two invoices cover the order, and the first is allocated. -/
def coveredInPart : List Request :=
  [registersPart 1 "A" 60, registersPart 1 "B" 40, approves 2 1 1 .supplyChain,
    approves 2 1 2 .supplyChain, approves 3 2 1 .finance]

/-- Two allocations in one millisecond give a payment request one version, and
a challenge that was issued between them is consumed after the second. A payment
in that millisecond is a version ahead of the clock, and an invalidation takes
the version back. -/
theorem object_version_repeats :
    (∃ mid db db' old row challenge,
      Run (Step noProcurement) orderedDatabase (coveredInPart.map .command) mid ∧
      Step noProcurement mid (.command (approves 3 2 2 .finance)) db ∧
      Step noProcurement db (.command (pays 4)) db' ∧
      (mid factoryPaymentRequests).find? 1 = some old ∧
      (db factoryPaymentRequests).find? 1 = some row ∧
      old.invoiceCoveredAmountMinor = 60 ∧ row.invoiceCoveredAmountMinor = 100 ∧
      row.updatedAt = old.updatedAt ∧
      (db authChallenges).find? 1 = some challenge ∧
      challenge.objectVersion = old.updatedAt ∧ challenge.consumedAt = none ∧
      ((db' authChallenges).find? 1).map (·.consumedAt) = some (some 4)) ∧
    ∃ mid db old row,
      Run (Step noProcurement) orderedDatabase ([registers 1 "A", approves 2 1 1 .supplyChain,
        approves 3 2 1 .finance, pays 3].map .command) mid ∧
      Step noProcurement mid (.command (invalidates 3 1)) db ∧
      (mid factoryPaymentRequests).find? 1 = some old ∧
      (db factoryPaymentRequests).find? 1 = some row ∧ row.updatedAt < old.updatedAt := by
  have single : ∀ {request s s'}, replay noProcurement [request] s = some s' →
      Step noProcurement s (.command request) s' := by
    intro request s s' replayed
    cases replay_run replayed with
    | next first done =>
        cases done
        exact first
  constructor
  · have seen : (replay noProcurement coveredInPart orderedDatabase).any (fun mid =>
        (replay noProcurement [approves 3 2 2 .finance] mid).any fun db =>
          (replay noProcurement [pays 4] db).any fun db' =>
            ((mid factoryPaymentRequests).find? 1).any fun old =>
              ((db factoryPaymentRequests).find? 1).any fun row =>
                ((db authChallenges).find? 1).any fun challenge =>
                  old.invoiceCoveredAmountMinor == 60 && row.invoiceCoveredAmountMinor == 100 &&
                    row.updatedAt == old.updatedAt && challenge.objectVersion == old.updatedAt &&
                    challenge.consumedAt == none &&
                    ((db' authChallenges).find? 1).map (·.consumedAt) == some (some 4)) = true := by
      decide +kernel
    simp only [Option.any_eq_true, Bool.and_eq_true, beq_iff_eq] at seen
    obtain ⟨mid, before, db, allocated, db', paid, old, foundOld, row, foundRow, challenge,
      foundChallenge, ⟨⟨⟨⟨part, whole⟩, repeated⟩, issued⟩, unconsumed⟩, consumed⟩ := seen
    exact ⟨mid, db, db', old, row, challenge, replay_run before, single allocated, single paid,
      foundOld, foundRow, part, whole, repeated, foundChallenge, issued, unconsumed, consumed⟩
  · have seen : (replay noProcurement [registers 1 "A", approves 2 1 1 .supplyChain,
        approves 3 2 1 .finance, pays 3] orderedDatabase).any (fun mid =>
          (replay noProcurement [invalidates 3 1] mid).any fun db =>
            ((mid factoryPaymentRequests).find? 1).any fun old =>
              ((db factoryPaymentRequests).find? 1).any fun row =>
                decide (row.updatedAt < old.updatedAt)) = true := by
      decide +kernel
    simp only [Option.any_eq_true, decide_eq_true_eq] at seen
    obtain ⟨mid, before, db, invalidated, old, foundOld, row, foundRow, back⟩ := seen
    exact ⟨mid, db, old, row, replay_run before, single invalidated, foundOld, foundRow, back⟩

/-- A verification after the last change of the request it covers moves the
version on. -/
theorem object_versions_increase_verified :
    ∃ db old object, Run (fun db event db' => Step noProcurement db event db' ∧
        ClockAhead db event) invoicedDatabase [.command (approves 3 2 1 .finance)] db ∧
      objectOf invoicedDatabase "finance:record_payment" 1 = some old ∧
      objectOf db "finance:record_payment" 1 = some object ∧
      (object = old ∨ old.version < object.version) ∧ old.version = 1 ∧ object.version = 3 := by
  obtain ⟨db, run, later⟩ := replay_reaches noProcurement [approves 3 2 1 .finance]
    invoicedDatabase
    (fun db => (objectOf db "finance:record_payment" 1).map (·.version) == some 3)
    (by decide +kernel)
  have ahead : ClockAhead invoicedDatabase (.command (approves 3 2 1 .finance)) := by
    constructor
    · intro now id stamps row found
      cases stamps
      obtain rfl := Table.find?_single found
      decide
    · intro now id stamps
      cases stamps
  have ruled : Run (fun db event db' => Step noProcurement db event db' ∧ ClockAhead db event)
      invoicedDatabase [.command (approves 3 2 1 .finance)] db := by
    cases run with
    | next first done =>
        cases done
        exact Run.single ⟨first, ahead⟩
  obtain ⟨object, found, advanced⟩ :=
    (object_versions_increase ruled).1 "finance:record_payment" 1 _ rfl
  rw [found] at later
  exact ⟨db, _, object, ruled, rfl, found, advanced, rfl, by simpa using later⟩

end SupplyChain.Finance
