import SupplyChain.Finance.Postings

/-!
The bank references of the ledger. Each of the three writers of a record claims
the reference under a key type of its own, so a correction and a payment can
meet on one reference; two payments, two refunds or two corrections cannot.
-/

namespace SupplyChain.Finance

open Relational Transaction TableName

variable {effects : Approvals.ProcurementEffects} {command : CommandContext}
  {opening db db' : Database} {event : Event} {events : List Event} {reply : JsonValue}
  {sent : List DomainEvent} {records : Table PaymentRecord} {keys keys' : Table BusinessKey}

/-! ## What a reference counts -/

/-- Money goes out or it comes back. -/
inductive Direction
  | outgoing | refund
  deriving DecidableEq

/-- A correction moves money as the record that it corrects. -/
def direction (row : PaymentRecord) : Option Direction :=
  match row.recordType with
  | .payment => some .outgoing
  | .refund => some .refund
  | .correction => if row.invoiceExceptionId = none then some .outgoing else some .refund
  | .reversal => none

/-- No row reverses the record. -/
def live (records : Table PaymentRecord) (id : Nat) : Bool :=
  !records.any fun _ row => row.reversesPaymentRecordId == some id

/-- A record that is not reversed and moves money under the reference. -/
def carries (records : Table PaymentRecord) (way : Direction) (reference : String) (id : Nat)
    (row : PaymentRecord) : Bool :=
  live records id && direction row == some way && row.bankReference == reference

/-- A reference counts one transfer out and one back at most. -/
def CountedOnce (records : Table PaymentRecord) : Prop :=
  ∀ way reference id row other row', records.find? id = some row →
    records.find? other = some row' → carries records way reference id row = true →
    carries records way reference other row' = true → id = other

/-- The reference that a stored proposal names. -/
def proposedReference (approval : ApprovalRequest) : Option String :=
  match approval.payload.member "proposedBankReference" with
  | some (.text reference) => some (trim reference)
  | _ => none

theorem proposedReference_text {approval : ApprovalRequest} {value : String}
    (stated : approval.payload.member "proposedBankReference" = some (.text value)) :
    proposedReference approval = some (trim value) := by
  rw [proposedReference, stated]

/-- A correction carries the reference. -/
def carriedByCorrection (records : Table PaymentRecord) (way : Direction) (reference : String) :
    Bool :=
  records.any fun id row =>
    carries records way reference id row && row.recordType == .correction

/-- A payment or refund other than the one to correct carries the reference. -/
def carriedByOriginal (records : Table PaymentRecord) (way : Direction) (reference : String)
    (originalId : Nat) : Bool :=
  records.any fun id row =>
    carries records way reference id row && row.recordType != .correction && id != originalId

/-- A payment or a refund names no reference of a correction, and the approved
correction of a record none of another payment or refund. -/
def NamesFree (db : Database) : Event → Prop
  | .command ⟨_, .financeCommand (.recordPayment body)⟩ =>
      carriedByCorrection (db paymentRecords) .outgoing (trim body.bankReference) = false
  | .command ⟨_, .financeCommand (.recordRefund body)⟩ =>
      carriedByCorrection (db paymentRecords) .refund (trim body.bankReference) = false
  | .command ⟨_, .decideApproval body⟩ =>
      body.decision = .approved → ∀ approval ∈ (db approvalRequests).find? body.id,
        approval.workflowType = .financialRecordCorrection →
        ∀ original ∈ (db paymentRecords).find? approval.entityId,
        ∀ way ∈ direction original, ∀ reference ∈ proposedReference approval,
          carriedByOriginal (db paymentRecords) way reference approval.entityId = false
  | _ => True

instance (db : Database) (event : Event) : Decidable (NamesFree db event) := by
  unfold NamesFree
  split <;> infer_instance

/-! ## Keys -/

/-- The key type under which a record claims its reference. -/
def keyTypeOf : RecordType → Option BusinessKeyType
  | .payment => some .payment
  | .refund => some .refund
  | .correction => some .correction
  | .reversal => none

def taken (keys : Table BusinessKey) (keyType : BusinessKeyType) (keyValue : String) : Bool :=
  keys.any fun _ row => row.keyType == keyType && row.keyValue == keyValue

theorem taken_iff {keyType : BusinessKeyType} {keyValue : String} :
    taken keys keyType keyValue = true ↔
      ∃ id row, keys.find? id = some row ∧ row.keyType = keyType ∧ row.keyValue = keyValue := by
  simp only [taken, Table.any_eq_true, Bool.and_eq_true, beq_iff_eq]

/-- A claim was free, is taken now, and no other is lost. -/
structure Claims (keys keys' : Table BusinessKey) (keyType : BusinessKeyType)
    (keyValue : String) : Prop where
  free : taken keys keyType keyValue = false
  claimed : taken keys' keyType keyValue = true
  kept : ∀ keyType keyValue, taken keys keyType keyValue = true →
    taken keys' keyType keyValue = true

theorem taken_insert {key : BusinessKey} {keyType : BusinessKeyType} {keyValue : String}
    (held : taken keys keyType keyValue = true) :
    taken (keys.insert key) keyType keyValue = true := by
  obtain ⟨id, row, found, type, value⟩ := taken_iff.mp held
  exact taken_iff.mpr ⟨id, row, Table.find?_insert_of_some found, type, value⟩

theorem taken_update {guard : Nat → BusinessKey → Bool} {aggregateId : Nat}
    {keyType : BusinessKeyType} {keyValue : String} (held : taken keys keyType keyValue = true) :
    taken (keys.update guard fun row => { row with aggregateId := some aggregateId }) keyType
      keyValue = true := by
  obtain ⟨id, row, found, type, value⟩ := taken_iff.mp held
  refine taken_iff.mpr ⟨id, _, by rw [Table.find?_update, found]; rfl, ?_, ?_⟩
  · dsimp only
    split <;> exact type
  · dsimp only
    split <;> exact value

theorem claims_bound {keyType : BusinessKeyType} {keyValue : String} {aggregateId : Nat}
    {guard : Nat → BusinessKey → Bool} (free : taken keys keyType keyValue = false) :
    Claims keys ((keys.insert { keyType, keyValue, aggregateId := none }).update guard
      fun row => { row with aggregateId := some aggregateId }) keyType keyValue where
  free := free
  claimed := taken_update (taken_iff.mpr ⟨_, _, Table.find?_insert_nextId _ _, rfl, rfl⟩)
  kept _ _ held := taken_update (taken_insert held)

theorem claims_insert (key : BusinessKey)
    (free : taken keys key.keyType key.keyValue = false) :
    Claims keys (keys.insert key) key.keyType key.keyValue where
  free := free
  claimed := taken_iff.mpr ⟨_, _, Table.find?_insert_nextId _ _, rfl, rfl⟩
  kept _ _ held := taken_insert held

/-! ## Steps -/

/-- What a step does to the records and to the keys. -/
inductive Recorded (db db' : Database) : Event → Prop
  | paid {command : CommandContext} {body : RecordPayment}
      (claims : Claims (db businessKeys) (db' businessKeys) .payment (trim body.bankReference))
      (records : db' paymentRecords =
        (db paymentRecords).insert (paymentRecord command body)) :
      Recorded db db' (.command ⟨command, .financeCommand (.recordPayment body)⟩)
  | refunded {command : CommandContext} {body : RecordRefund}
      (claims : Claims (db businessKeys) (db' businessKeys) .refund (trim body.bankReference))
      (records : db' paymentRecords =
        (db paymentRecords).insert (refundRecord command body)) :
      Recorded db db' (.command ⟨command, .financeCommand (.recordRefund body)⟩)
  | corrected {command : CommandContext} {body : Approvals.DecideApproval}
      {approval : ApprovalRequest} {original : PaymentRecord}
      {proposal : ApprovalEffects.CorrectionProposal} (approved : body.decision = .approved)
      (foundApproval : (db approvalRequests).find? body.id = some approval)
      (workflow : approval.workflowType = .financialRecordCorrection)
      (found : (db paymentRecords).find? approval.entityId = some original)
      (correctable : original.recordType = .payment ∨ original.recordType = .refund)
      (named : proposedReference approval = some proposal.bankReference)
      (claims : Claims (db businessKeys) (db' businessKeys) .correction proposal.bankReference)
      (records : db' paymentRecords = ((db paymentRecords).insert
        (ApprovalEffects.reversalOf command approval.requestedBy approval.entityId
          original)).insert
        (ApprovalEffects.correctionOf command approval.requestedBy approval.entityId original
          proposal)) :
      Recorded db db' (.command ⟨command, .decideApproval body⟩)
  | elsewhere {event : Event} (free : NamesFree db event)
      (keys : db' businessKeys = db businessKeys)
      (records : db' paymentRecords = db paymentRecords) : Recorded db db' event

theorem recordPayment_claims {body : RecordPayment}
    (returns : (recordPayment command body).Returns db reply sent db') :
    Claims (db businessKeys) (db' businessKeys) .payment (trim body.bankReference) := by
  simp only [recordPayment, returns_bind_requireRole, returns_bind_identifier,
    returns_bind_integer, returns_bind_string, returns_bind_select, returns_bind_orThrow,
    returns_bind_refuseIf, returns_bind_objectVersion, returns_bind_stepUp,
    returns_bind_claimBusinessKey, returns_bind_query, returns_bind_ofExcept,
    returns_bind_insertInto, returns_bind_updateWhere, returns_bind_bindBusinessKey,
    returns_bind_domainEvent, returns_pure] at returns
  obtain ⟨-, -, -, -, -, request, -, -, -, -, claim, -, -, free, net, -, -, _, ⟨-, -, rfl⟩, -⟩ :=
    returns
  have unclaimed : taken (db businessKeys) .payment (trim body.bankReference) = false := by
    simpa [taken] using free
  simpa using claims_bound unclaimed

theorem recordRefund_claims {body : RecordRefund}
    (returns : (recordRefund command body).Returns db reply sent db') :
    Claims (db businessKeys) (db' businessKeys) .refund (trim body.bankReference) := by
  simp only [recordRefund, returns_bind_requireRole, returns_bind_identifier,
    returns_bind_integer, returns_bind_string, returns_bind_select, returns_bind_orThrow,
    returns_bind_query, returns_bind_refuseIf, returns_bind_ofExcept,
    returns_bind_objectVersion, returns_bind_stepUp, returns_bind_claimBusinessKey,
    returns_bind_insertInto, returns_bind_updateRow, returns_bind_bindBusinessKey,
    returns_bind_domainEvent, returns_pure] at returns
  obtain ⟨-, -, -, -, -, -, request, -, exception, -, -, -, -, net, -, -, -, -, -, claim, -, -, -,
    free, _, -, -, _, ⟨-, -, rfl⟩, -⟩ := returns
  have unclaimed : taken (db businessKeys) .refund (trim body.bankReference) = false := by
    simpa [taken] using free
  simpa using claims_bound unclaimed

theorem readProposal_reference {writes : List TableName} {approval : ApprovalRequest}
    {proposal : ApprovalEffects.CorrectionProposal}
    (returns : (ApprovalEffects.readProposal approval.payload :
      Tx writes ApprovalEffects.CorrectionProposal).Returns db proposal sent db') :
    proposedReference approval = some proposal.bankReference := by
  rw [ApprovalEffects.readProposal,
    returns_bind_of_reads ApprovalEffects.parsedPayload_reads] at returns
  obtain ⟨payload, parsed, returns⟩ := returns
  obtain rfl := ApprovalEffects.isOverproduction_parsed parsed
  rw [returns_bind_of_reads fun member =>
    (ApprovalEffects.integerMember_returns member).2] at returns
  obtain ⟨requestId, -, returns⟩ := returns
  rw [returns_bind_of_reads fun member =>
    (ApprovalEffects.integerMember_returns member).2] at returns
  obtain ⟨amount, -, returns⟩ := returns
  rw [returns_bind_of_reads ApprovalEffects.textMember_reads] at returns
  obtain ⟨paidAt, -, returns⟩ := returns
  rw [returns_bind_of_reads ApprovalEffects.textMember_reads] at returns
  obtain ⟨reference, read, returns⟩ := returns
  obtain ⟨rfl, -, -⟩ := returns_pure.mp returns
  unfold textMember at read
  split at read
  · rename_i value stated
    obtain ⟨-, rfl, -, -⟩ := returns_string.mp read
    exact proposedReference_text stated
  · simp at read

theorem applyCorrection_claims {approval : ApprovalRequest}
    (returns : (ApprovalEffects.applyCorrection command approval).Returns db reply sent db') :
    ∃ (original : PaymentRecord) (proposal : ApprovalEffects.CorrectionProposal),
      (db paymentRecords).find? approval.entityId = some original ∧
      (original.recordType = .payment ∨ original.recordType = .refund) ∧
      proposedReference approval = some proposal.bankReference ∧
      Claims (db businessKeys) (db' businessKeys) .correction proposal.bankReference ∧
      db' paymentRecords = ((db paymentRecords).insert
        (ApprovalEffects.reversalOf command approval.requestedBy approval.entityId
          original)).insert
        (ApprovalEffects.correctionOf command approval.requestedBy approval.entityId original
          proposal) := by
  rw [ApprovalEffects.applyCorrection,
    returns_bind_of_reads fun read => (ApprovalEffects.readProposal_returns read).2] at returns
  obtain ⟨proposal, read, returns⟩ := returns
  simp only [returns_bind_select, returns_bind_orThrow, returns_bind_refuseIf,
    returns_bind_query] at returns
  obtain ⟨original, found, correctable, -, -, returns⟩ := returns
  rw [returns_bind_of_reads fun locked =>
    ⟨(ApprovalEffects.correctionRequests_returns locked).1,
      (ApprovalEffects.correctionRequests_returns locked).2.1⟩] at returns
  obtain ⟨requests, -, returns⟩ := returns
  simp only [returns_bind_orThrow, returns_bind_refuseIf] at returns
  obtain ⟨-, -, -, returns⟩ := returns
  rw [returns_bind_of_reads fun context =>
    ⟨(ApprovalEffects.refundContext_returns context).1,
      (ApprovalEffects.refundContext_returns context).2.1⟩] at returns
  obtain ⟨refund, -, returns⟩ := returns
  simp only [returns_bind_widen, returns_pure] at returns
  obtain ⟨_, _, written, _, write, ⟨_, _, mid, _, project, ⟨_, _, _, _, exception,
    ⟨-, rfl, rfl⟩, -⟩, -⟩, -⟩ := returns
  have later : ∀ t, t ≠ invoiceExceptions → t ≠ factoryPaymentRequests → db' t = written t := by
    intro t first second
    rw [exception.unwritten t (by simpa using first), project.unwritten t (by simpa using second)]
  refine ⟨original, proposal, found, ?_, readProposal_reference read, ?_, ?_⟩
  · cases kind : original.recordType <;> simp_all [Finance.RecordType.correctable]
  · rw [later _ (by decide) (by decide)]
    simp only [ApprovalEffects.writeCorrection, returns_bind_insertUnique, returns_pure] at write
    obtain ⟨free, -, -, -, -, rfl⟩ := write
    have unclaimed : taken (db businessKeys) .correction proposal.bankReference = false := by
      simpa [taken] using free
    simpa using claims_insert ⟨.correction, proposal.bankReference, some approval.entityId⟩ unclaimed
  · rw [later _ (by decide) (by decide), (ApprovalEffects.writeCorrection_returns write).2]

theorem decideApproval_recorded {body : Approvals.DecideApproval}
    (returns : (Approvals.decideApproval effects command body).Returns db reply sent db') :
    Recorded db db' (.command ⟨command, .decideApproval body⟩) := by
  obtain ⟨-, approval, mid, decided⟩ := Approvals.decideApproval_returns returns
  have records := decided.kept paymentRecords (by decide) (by decide)
  have keys := decided.kept businessKeys (by decide) (by decide)
  obtain ⟨outcome, effect⟩ := decided.effect
  unfold Approvals.approvalEffect at effect
  cases workflow : approval.workflowType with
  | financialRecordCorrection =>
      simp only [workflow, returns_widen] at effect
      unfold ApprovalEffects.financialRecordCorrection at effect
      by_cases rejected : body.decision = .rejected
      · rw [if_pos rejected] at effect
        obtain ⟨-, -, rfl⟩ := returns_pure.mp effect
        refine Recorded.elsewhere ?_ keys records
        intro approved
        rw [rejected] at approved
        cases approved
      · rw [if_neg rejected] at effect
        have approved : body.decision = .approved := by
          cases decision : body.decision
          · rfl
          · exact absurd decision rejected
        obtain ⟨original, proposal, found, correctable, named, claims, written⟩ :=
          applyCorrection_claims effect
        rw [records] at found written
        rw [keys] at claims
        exact Recorded.corrected approved decided.found workflow found correctable named claims
          written
  | _ =>
      simp only [workflow, returns_widen] at effect
      have unwritten := effect.unwritten
      refine Recorded.elsewhere ?_ (by simp [unwritten, keys]) (by simp [unwritten, records])
      intro _ other member correction
      rw [decided.found] at member
      cases member
      rw [workflow] at correction
      cases correction

theorem work_recorded (work : Work effects db event db') : Recorded db db' event := by
  cases work with
  | @command _ request reply sent returns =>
      obtain ⟨command, body⟩ := request
      unfold runCommand at returns
      cases body with
      | decideApproval body => exact decideApproval_recorded (returns_widen.mp returns)
      | financeCommand body =>
          replace returns := returns_widen.mp returns
          unfold financeCommand at returns
          cases body with
          | recordPayment body =>
              have ran := returns_widen.mp returns
              obtain ⟨_, -, -, -, -, -, -, -, records, -⟩ := recordPayment_returns ran
              exact Recorded.paid (recordPayment_claims ran) records
          | recordRefund body =>
              have ran := returns_widen.mp returns
              obtain ⟨_, _, _, -, -, -, -, -, -, -, -, -, -, records, -⟩ := recordRefund_returns ran
              exact Recorded.refunded (recordRefund_claims ran) records
          | _ =>
              have unwritten := (returns_widen.mp returns).unwritten
              exact Recorded.elsewhere trivial (by simp [unwritten]) (by simp [unwritten])
      | _ =>
          have unwritten := (returns_widen.mp returns).unwritten
          exact Recorded.elsewhere trivial (by simp [unwritten]) (by simp [unwritten])
  | warnInvoiceRisk warned =>
      have unwritten := warned.unwritten
      exact Recorded.elsewhere trivial (by simp [unwritten]) (by simp [unwritten])
  | procurement own =>
      exact Recorded.elsewhere trivial (by simp [own, foreignTables]) (by simp [own, foreignTables])
  | approvalRequest => exact Recorded.elsewhere trivial (by simp) (by simp)
  | outboxMessage => exact Recorded.elsewhere trivial rfl rfl

/-! ## What an insert counts -/

theorem live_iff {id : Nat} :
    live records id = true ↔
      ∀ key row, records.find? key = some row → row.reversesPaymentRecordId ≠ some id := by
  simp only [live, Bool.not_eq_true', Table.any_eq_false, beq_eq_false_iff_ne]

theorem live_insert (row : PaymentRecord) (id : Nat) :
    live (records.insert row) id =
      (live records id && row.reversesPaymentRecordId != some id) := by
  simp [live, Table.any, Table.insert, bne]

theorem carries_insert {row : PaymentRecord} (plain : row.reversesPaymentRecordId = none)
    (way : Direction) (reference : String) (id : Nat) (other : PaymentRecord) :
    carries (records.insert row) way reference id other = carries records way reference id other := by
  have free : (row.reversesPaymentRecordId != some id) = true := by simp [plain]
  rw [carries, live_insert, free, Bool.and_true, carries]

theorem carries_insert_reversal {row : PaymentRecord} {target : Nat}
    (reverses : row.reversesPaymentRecordId = some target) (way : Direction) (reference : String)
    (id : Nat) (other : PaymentRecord) :
    carries (records.insert row) way reference id other =
      (carries records way reference id other && id != target) := by
  have other_than : (row.reversesPaymentRecordId != some id) = (id != target) := by
    rw [reverses, Bool.eq_iff_iff, bne_iff_ne, bne_iff_ne, Ne, Option.some.injEq]
    exact ne_comm
  rw [carries, live_insert, other_than, carries, Bool.eq_iff_iff]
  simp only [Bool.and_eq_true]
  tauto

theorem countedOnce_insert {row : PaymentRecord} {way : Direction}
    (moves : direction row = some way) (plain : row.reversesPaymentRecordId = none)
    (fresh : live records records.nextId = true) :
    CountedOnce (records.insert row) ↔ CountedOnce records ∧
      ∀ id other, records.find? id = some other →
        carries records way row.bankReference id other = false := by
  have own : carries (records.insert row) way row.bankReference records.nextId row = true := by
    rw [carries_insert plain]
    simp [carries, fresh, moves]
  constructor
  · intro once
    constructor
    · intro some reference id row' other row'' found found' here there
      exact once some reference id row' other row'' (Table.find?_insert_of_some found)
        (Table.find?_insert_of_some found') (by rwa [carries_insert plain])
        (by rwa [carries_insert plain])
    · intro id other found
      by_contra carried
      have same := once way row.bankReference id other records.nextId row
        (Table.find?_insert_of_some found) (Table.find?_insert_nextId _ _)
        (by rw [carries_insert plain]; simpa using carried) own
      exact absurd (Table.find?_lt_nextId found) (by omega)
  · rintro ⟨once, alone⟩ some reference id row' other row'' found found' here there
    rw [carries_insert plain] at here there
    have apart : ∀ {id : Nat} {other : PaymentRecord}, records.find? id = Option.some other →
        carries records some reference id other = true →
        ¬ carries records some reference records.nextId row = true := by
      intro id other foundOther carried also
      simp only [carries, Bool.and_eq_true, beq_iff_eq] at also
      obtain ⟨⟨-, sameWay⟩, sameReference⟩ := also
      rw [moves] at sameWay
      cases sameWay
      rw [← sameReference, alone id other foundOther] at carried
      cases carried
    rcases Table.find?_insert_cases found with ⟨rfl, rfl⟩ | old
    · rcases Table.find?_insert_cases found' with ⟨rfl, -⟩ | old'
      · rfl
      · exact absurd here (apart old' there)
    · rcases Table.find?_insert_cases found' with ⟨rfl, rfl⟩ | old'
      · exact absurd there (apart old here)
      · exact once some reference id row' other row'' old old' here there

theorem CountedOnce.reversed (once : CountedOnce records) {row : PaymentRecord} {target : Nat}
    (reverses : row.reversesPaymentRecordId = some target) (still : direction row = none) :
    CountedOnce (records.insert row) := by
  intro way reference id row' other row'' found found' here there
  rw [carries_insert_reversal reverses, Bool.and_eq_true] at here there
  have moves : ∀ {row' : PaymentRecord} {id : Nat}, carries records way reference id row' = true →
      row' ≠ row := by
    rintro row' id carried rfl
    simp [carries, still] at carried
  rcases Table.find?_insert_cases found with ⟨-, same⟩ | old
  · exact absurd same (moves here.1)
  · rcases Table.find?_insert_cases found' with ⟨-, same⟩ | old'
    · exact absurd same (moves there.1)
    · exact once way reference id row' other row'' old old' here.1 there.1

/-! ## Runs -/

/-- The records hold their keys, and what a reversal reverses exists. -/
structure Referenced (keys : Table BusinessKey) (records : Table PaymentRecord) : Prop where
  keyed : ∀ id row keyType, records.find? id = some row → keyTypeOf row.recordType = some keyType →
    taken keys keyType row.bankReference = true
  unlinked : ∀ id row, records.find? id = some row → row.recordType = .payment →
    row.invoiceExceptionId = none
  linked : ∀ id row, records.find? id = some row → row.recordType = .refund →
    row.invoiceExceptionId ≠ none
  target : ∀ id row target, records.find? id = some row →
    row.reversesPaymentRecordId = some target → ∃ original, records.find? target = some original

theorem Referenced.insert {row : PaymentRecord} (referenced : Referenced keys records)
    (kept : ∀ keyType keyValue, taken keys keyType keyValue = true →
      taken keys' keyType keyValue = true)
    (keyed : ∀ keyType, keyTypeOf row.recordType = some keyType →
      taken keys' keyType row.bankReference = true)
    (unlinked : row.recordType = .payment → row.invoiceExceptionId = none)
    (linked : row.recordType = .refund → row.invoiceExceptionId ≠ none)
    (target : ∀ target, row.reversesPaymentRecordId = some target →
      ∃ original, records.find? target = some original) :
    Referenced keys' (records.insert row) := by
  constructor
  · intro id other keyType found type
    rcases Table.find?_insert_cases found with ⟨-, rfl⟩ | old
    · exact keyed keyType type
    · exact kept _ _ (referenced.keyed id other keyType old type)
  · intro id other found
    rcases Table.find?_insert_cases found with ⟨-, rfl⟩ | old
    · exact unlinked
    · exact referenced.unlinked id other old
  · intro id other found
    rcases Table.find?_insert_cases found with ⟨-, rfl⟩ | old
    · exact linked
    · exact referenced.linked id other old
  · intro id other reversed found reverses
    have earlier : ∃ original, records.find? reversed = some original := by
      rcases Table.find?_insert_cases found with ⟨-, rfl⟩ | old
      · exact target reversed reverses
      · exact referenced.target id other reversed old reverses
    obtain ⟨original, foundOriginal⟩ := earlier
    exact ⟨original, Table.find?_insert_of_some foundOriginal⟩

theorem Referenced.reversed (referenced : Referenced keys records) {id requestedBy : Nat}
    {original : PaymentRecord} (found : records.find? id = some original) :
    Referenced keys (records.insert
      (ApprovalEffects.reversalOf command requestedBy id original)) := by
  apply referenced.insert fun _ _ held => held
  · intro keyType type
    cases type
  · intro type
    cases type
  · intro type
    cases type
  · intro target reverses
    cases reverses
    exact ⟨original, found⟩

theorem Referenced.fresh (referenced : Referenced keys records) :
    live records records.nextId = true := by
  apply live_iff.mpr
  intro key row found reverses
  obtain ⟨original, foundOriginal⟩ := referenced.target key row _ found reverses
  exact absurd (Table.find?_lt_nextId foundOriginal) (by omega)

theorem Referenced.unkeyed (referenced : Referenced keys records) {keyType : BusinessKeyType}
    {reference : String} (free : taken keys keyType reference = false) {id : Nat}
    {row : PaymentRecord} {way : Direction} (found : records.find? id = some row)
    (carried : carries records way reference id row = true) :
    keyTypeOf row.recordType ≠ some keyType := by
  intro type
  have held := referenced.keyed id row keyType found type
  simp only [carries, Bool.and_eq_true, beq_iff_eq] at carried
  rw [carried.2, free] at held
  cases held

theorem direction_payment {row : PaymentRecord} {way : Direction} (moves : direction row = some way) :
    (row.recordType = .payment ∧ way = .outgoing) ∨ (row.recordType = .refund ∧ way = .refund) ∨
      row.recordType = .correction := by
  unfold direction at moves
  cases type : row.recordType <;> simp_all

/-- A payment or a refund under a free key is counted alone exactly when no
correction carries its reference. -/
theorem original_alone (referenced : Referenced keys records) {keyType : BusinessKeyType} {way : Direction}
    {reference : String} (own : (keyType = .payment ∧ way = .outgoing) ∨
      (keyType = .refund ∧ way = .refund))
    (free : taken keys keyType reference = false) :
    carriedByCorrection records way reference = false ↔
      ∀ id row, records.find? id = some row →
        carries records way reference id row = false := by
  rw [carriedByCorrection, Table.any_eq_false]
  constructor
  · intro none id row found
    by_contra carried
    rw [Bool.not_eq_false] at carried
    have other := referenced.unkeyed free found carried
    have without := none id row found
    rw [carried, Bool.true_and, beq_eq_false_iff_ne] at without
    simp only [carries, Bool.and_eq_true, beq_iff_eq] at carried
    rcases direction_payment carried.1.2 with ⟨type, rfl⟩ | ⟨type, rfl⟩ | type
    · rcases own with ⟨rfl, -⟩ | ⟨-, impossible⟩
      · exact other (by rw [type]; rfl)
      · cases impossible
    · rcases own with ⟨-, impossible⟩ | ⟨rfl, -⟩
      · cases impossible
      · exact other (by rw [type]; rfl)
    · exact without type
  · intro none id row found
    rw [none id row found, Bool.false_and]

/-- A correction under a free key is counted alone exactly when no payment or
refund but the reversed one carries its reference. -/
theorem correction_alone (referenced : Referenced keys records) {way : Direction} {reference : String}
    {originalId : Nat} (free : taken keys .correction reference = false) :
    carriedByOriginal records way reference originalId = false ↔
      ∀ id row, records.find? id = some row →
        (carries records way reference id row && id != originalId) = false := by
  rw [carriedByOriginal, Table.any_eq_false]
  constructor
  · intro none id row found
    by_contra carried
    rw [Bool.not_eq_false, Bool.and_eq_true] at carried
    have other := referenced.unkeyed free found carried.1
    have without := none id row found
    rw [carried.1, carried.2, Bool.true_and, Bool.and_true] at without
    apply other
    have type : row.recordType = .correction := by simpa using without
    rw [type]
    rfl
  · intro none id row found
    rw [Bool.and_right_comm, none id row found, Bool.false_and]

theorem Recorded.referenced (recorded : Recorded db db' event)
    (referenced : Referenced (db businessKeys) (db paymentRecords)) :
    Referenced (db' businessKeys) (db' paymentRecords) := by
  cases recorded with
  | @paid command body claims records =>
      rw [records]
      apply referenced.insert claims.kept
      · intro keyType type
        cases type
        exact claims.claimed
      · exact fun _ => rfl
      · intro type
        cases type
      · intro target reverses
        cases reverses
  | @refunded command body claims records =>
      rw [records]
      apply referenced.insert claims.kept
      · intro keyType type
        cases type
        exact claims.claimed
      · intro type
        cases type
      · intro _ unlinked
        cases unlinked
      · intro target reverses
        cases reverses
  | @corrected command body approval original proposal _ _ _ found _ _ claims records =>
      rw [records]
      apply (referenced.reversed found).insert claims.kept
      · intro keyType type
        cases type
        exact claims.claimed
      · intro type
        cases type
      · intro type
        cases type
      · intro target reverses
        cases reverses
  | elsewhere _ keys records =>
      rw [keys, records]
      exact referenced

theorem direction_correctionOf (referenced : Referenced keys records) {id requestedBy : Nat}
    {original : PaymentRecord} {proposal : ApprovalEffects.CorrectionProposal} {way : Direction}
    (found : records.find? id = some original) (moves : direction original = some way)
    (correctable : original.recordType = .payment ∨ original.recordType = .refund) :
    direction (ApprovalEffects.correctionOf command requestedBy id original proposal) =
      some way := by
  rcases correctable with payment | refund
  · have unlinked := referenced.unlinked id original found payment
    rw [direction, payment] at moves
    rw [← moves]
    simp [direction, ApprovalEffects.correctionOf, unlinked]
  · have linked := referenced.linked id original found refund
    rw [direction, refund] at moves
    rw [← moves]
    simp [direction, ApprovalEffects.correctionOf, linked]

/-- A correction leaves every reference counted once exactly when no payment or
refund but the one it reverses carries the reference that it names. -/
theorem correction_countedOnce (referenced : Referenced keys records) (once : CountedOnce records)
    {id requestedBy : Nat} {original : PaymentRecord}
    {proposal : ApprovalEffects.CorrectionProposal} {way : Direction}
    (found : records.find? id = some original) (moves : direction original = some way)
    (correctable : original.recordType = .payment ∨ original.recordType = .refund)
    (free : taken keys .correction proposal.bankReference = false) :
    carriedByOriginal records way proposal.bankReference id = false ↔
      CountedOnce ((records.insert
        (ApprovalEffects.reversalOf command requestedBy id original)).insert
          (ApprovalEffects.correctionOf command requestedBy id original proposal)) := by
  have reverses : (ApprovalEffects.reversalOf command requestedBy id
      original).reversesPaymentRecordId = some id := rfl
  have still : direction (ApprovalEffects.reversalOf command requestedBy id original) = none := rfl
  rw [countedOnce_insert (direction_correctionOf referenced found moves correctable) rfl
    (referenced.reversed found).fresh, correction_alone referenced free]
  constructor
  · intro alone
    refine ⟨once.reversed reverses still, ?_⟩
    intro key row foundRow
    rw [carries_insert_reversal reverses]
    rcases Table.find?_insert_cases foundRow with ⟨-, rfl⟩ | old
    · simp [carries, still]
    · exact alone key row old
  · rintro ⟨-, alone⟩ key row foundRow
    have counted := alone key row (Table.find?_insert_of_some foundRow)
    rwa [carries_insert_reversal reverses] at counted

theorem Recorded.countedOnce (recorded : Recorded db db' event)
    (referenced : Referenced (db businessKeys) (db paymentRecords))
    (once : CountedOnce (db paymentRecords)) :
    NamesFree db event ↔ CountedOnce (db' paymentRecords) := by
  cases recorded with
  | @paid command body claims records =>
      rw [records, countedOnce_insert (show direction (paymentRecord command body) =
        some .outgoing from rfl) rfl referenced.fresh]
      change carriedByCorrection (db paymentRecords) .outgoing (trim body.bankReference) = false ↔ _
      rw [original_alone referenced (Or.inl ⟨rfl, rfl⟩) claims.free]
      exact ⟨fun alone => ⟨once, alone⟩, fun both => both.2⟩
  | @refunded command body claims records =>
      rw [records, countedOnce_insert (show direction (refundRecord command body) =
        some .refund from rfl) rfl referenced.fresh]
      change carriedByCorrection (db paymentRecords) .refund (trim body.bankReference) = false ↔ _
      rw [original_alone referenced (Or.inr ⟨rfl, rfl⟩) claims.free]
      exact ⟨fun alone => ⟨once, alone⟩, fun both => both.2⟩
  | @corrected command body approval original proposal approved foundApproval workflow found
      correctable named claims records =>
      have moves : ∃ way, direction original = some way := by
        rcases correctable with payment | refund
        · exact ⟨.outgoing, by rw [direction, payment]⟩
        · exact ⟨.refund, by rw [direction, refund]⟩
      obtain ⟨way, moves⟩ := moves
      rw [records, ← correction_countedOnce referenced once found moves correctable claims.free]
      constructor
      · intro free
        exact free approved approval foundApproval workflow original found way moves _ named
      · intro free _ other member _ stored foundStored someWay moved reference proposed
        rw [foundApproval] at member
        cases member
        rw [found] at foundStored
        cases foundStored
        rw [moves] at moved
        cases moved
        rw [named] at proposed
        cases proposed
        exact free
  | elsewhere free keys records =>
      rw [records]
      exact ⟨fun _ => once, fun _ => free⟩

/-- The records are referenced and every reference is counted once. -/
structure Reconciled (db : Database) : Prop where
  referenced : Referenced (db businessKeys) (db paymentRecords)
  once : CountedOnce (db paymentRecords)

theorem step_recorded (step : Step effects db event db') : Recorded db db' event := by
  obtain ⟨mid, work, apart⟩ := step.works
  have recorded := work_recorded work
  have keys := apart businessKeys (by decide)
  have records := apart paymentRecords (by decide)
  cases recorded with
  | paid claims written => exact Recorded.paid (by rwa [keys]) (by rwa [records])
  | refunded claims written => exact Recorded.refunded (by rwa [keys]) (by rwa [records])
  | corrected approved foundApproval workflow found correctable named claims written =>
      exact Recorded.corrected approved foundApproval workflow found correctable named
        (by rwa [keys]) (by rwa [records])
  | elsewhere free sameKeys same =>
      exact Recorded.elsewhere free (keys.trans sameKeys) (records.trans same)

/-- Along a run every bank reference is counted once in each direction exactly
when no payment, refund or correction names one of the others' references. -/
theorem references_counted_once (opens : ∀ id, (opening paymentRecords).find? id = none) :
    Run (fun a event b => Step effects a event b ∧ NamesFree a event) opening events db ↔
      Run (fun a event b => Step effects a event b ∧ CountedOnce (b paymentRecords))
        opening events db := by
  apply Run.iff_under Reconciled
  · intro a event b step names reconciled
    have recorded := step_recorded step
    exact ⟨recorded.referenced reconciled.referenced,
      (recorded.countedOnce reconciled.referenced reconciled.once).mp names⟩
  · intro a event b step reconciled
    exact (step_recorded step).countedOnce reconciled.referenced reconciled.once
  · refine ⟨⟨?_, ?_, ?_, ?_⟩, ?_⟩
    · intro id row keyType found
      rw [opens] at found
      cases found
    · intro id row found
      rw [opens] at found
      cases found
    · intro id row found
      rw [opens] at found
      cases found
    · intro id row target found
      rw [opens] at found
      cases found
    · intro way reference id row other row' found
      rw [opens] at found
      cases found

/-! ## A reference to replay -/

/-- A challenge of user 2, verified for a payload. -/
def challengeFor (challengeNo action objectType : String) (objectId objectVersion : Nat)
    (payload : JsonValue) : AuthChallenge where
  challengeNo := challengeNo
  userId := 2
  sessionId := some 2
  highRisk := true
  action := action
  objectType := objectType
  objectId := objectId
  objectVersion := objectVersion
  requestDigest := canonical payload
  verified := true
  consumedAt := none
  expiresAt := 9

def paymentOf (requestId : Nat) (reference : String) : JsonValue :=
  .object [("action", .text "record_payment"), ("paymentRequestId", .number requestId),
    ("amountMinor", .number 100), ("paidAt", .text "1"), ("bankReference", .text reference)]

/-- Two covered payment requests, and the challenges to pay the first under
`B`, to correct that to `X`, and to pay the second under `X` or under `Y`. -/
def payableDatabase : Database :=
  (emptyDatabase.put factoryPaymentRequests ((Table.empty.insert
      { requestNo := "P", plannedPaymentDate := "1", totalAmountMinor := 100
        status := .generated, invoiceCoveredAmountMinor := 100, paidAt := none
        paymentReference := none, updatedAt := 1 }).insert
      { requestNo := "Q", plannedPaymentDate := "1", totalAmountMinor := 100
        status := .generated, invoiceCoveredAmountMinor := 100, paidAt := none
        paymentReference := none, updatedAt := 1 })).put
    authChallenges ((((Table.empty.insert
      (challengeFor "C1" "record_payment" "finance:record_payment" 1 1 (paymentOf 1 "B"))).insert
      (challengeFor "C2" "request_record_correction" "finance:request_record_correction" 1 1
        (.object [("action", .text "request_record_correction"), ("paymentRecordId", .number 1),
          ("reason", .text "R"), ("proposedPaymentRequestId", .number 1),
          ("proposedAmountMinor", .number 100), ("proposedPaidAt", .text "1"),
          ("proposedBankReference", .text "X")]))).insert
      (challengeFor "C3" "record_payment" "finance:record_payment" 2 1 (paymentOf 2 "X"))).insert
      (challengeFor "C4" "record_payment" "finance:record_payment" 2 1 (paymentOf 2 "Y")) |>.insert
      { challengeFor "C5" "review" "approval" 1 2 (.object [("id", .number 1),
          ("decision", .text "approved"), ("comment", .text "")]) with
        userId := 3, sessionId := some 3 })

def paysUnder (time requestId : Nat) (reference challengeNo : String) : Request :=
  requestAt time 2 [.finance] (.financeCommand (.recordPayment
    { paymentRequestId := requestId, amountMinor := 100, paidAt := "1", bankReference := reference
      challengeNo }))

/-- The first request is paid under `B`, and that is corrected to `X`. -/
def corrected : List Request :=
  [paysUnder 1 1 "B" "C1",
    requestAt 2 2 [.finance] (.financeCommand (.requestRecordCorrection
      { paymentRecordId := 1, reason := "R", proposedPaymentRequestId := 1
        proposedAmountMinor := 100, proposedPaidAt := "1", proposedBankReference := "X"
        challengeNo := "C2" })),
    requestAt 3 3 [.finance] (.decideApproval
      { id := 1, decision := .approved, challengeNo := some "C5" })]

theorem references_counted_once_other :
    ∃ db, ((db paymentRecords).find? 4).isSome = true ∧
      Run (fun a event b => Step noProcurement a event b ∧ CountedOnce (b paymentRecords))
        payableDatabase ((corrected ++ [paysUnder 4 2 "Y" "C4"]).map .command) db := by
  obtain ⟨db, run, seen⟩ := replayUnder_reaches noProcurement NamesFree
    (corrected ++ [paysUnder 4 2 "Y" "C4"]) payableDatabase
    (fun db => ((db paymentRecords).find? 4).isSome) (by decide +kernel)
  exact ⟨db, seen, (references_counted_once fun _ => rfl).mp run⟩

/-- Record 3 corrects the first payment to `X`, and record 4 pays the second
request under `X`. -/
theorem reference_counted_twice :
    (∀ id, (payableDatabase paymentRecords).find? id = none) ∧
      ∃ db row row', Run (Step noProcurement) payableDatabase
        ((corrected ++ [paysUnder 4 2 "X" "C3"]).map .command) db ∧
        (db paymentRecords).find? 3 = some row ∧ (db paymentRecords).find? 4 = some row' ∧
        carries (db paymentRecords) .outgoing "X" 3 row = true ∧
        carries (db paymentRecords) .outgoing "X" 4 row' = true := by
  refine ⟨fun _ => rfl, ?_⟩
  obtain ⟨db, run, seen⟩ := replay_reaches noProcurement (corrected ++ [paysUnder 4 2 "X" "C3"])
    payableDatabase
    (fun db => ((db paymentRecords).find? 3).any (carries (db paymentRecords) .outgoing "X" 3) &&
      ((db paymentRecords).find? 4).any (carries (db paymentRecords) .outgoing "X" 4))
    (by decide +kernel)
  rw [Bool.and_eq_true] at seen
  obtain ⟨row, found, here⟩ := Option.any_eq_true _ _ |>.mp seen.1
  obtain ⟨row', found', there⟩ := Option.any_eq_true _ _ |>.mp seen.2
  exact ⟨db, row, row', run, found, found', here, there⟩

end SupplyChain.Finance
