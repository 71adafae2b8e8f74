import SupplyChain.Finance

/-!
What each finance command did when it committed: the facts it checked, the
tables it left behind and the messages it sent. Later modules reason from
these statements and never unfold a command.
-/

namespace SupplyChain.Finance

open Relational Transaction TableName

variable {command : CommandContext} {db db' : Database} {reply : JsonValue}
  {sent : List DomainEvent}

/-! ## Invoices -/

theorem returns_bind_statedAmount {writes : List TableName} {α : Type} {a : α}
    {body : CreateInvoice} {f : Int → Tx writes α} :
    (statedAmount body >>= f).Returns db a sent db' ↔
      ∃ stated, (statedAmount body : Tx writes Int).Returns db stated [] db ∧
        (f stated).Returns db a sent db' := by
  refine returns_bind_of_reads ?_
  intro s x first mid returns
  unfold statedAmount at returns
  split at returns <;> simp_all

theorem returns_bind_coveredBatch {writes : List TableName} {α : Type} {a : α}
    {body : CreateInvoice} {f : Option Nat → Tx writes α} :
    (coveredBatch body >>= f).Returns db a sent db' ↔
      ∃ batch, (coveredBatch body : Tx writes (Option Nat)).Returns db batch [] db ∧
        (f batch).Returns db a sent db' := by
  refine returns_bind_of_reads ?_
  intro s x first mid returns
  unfold coveredBatch at returns
  split at returns <;> simp_all

theorem createInvoice_returns {body : CreateInvoice}
    (returns : (createInvoice command body).Returns db reply sent db') :
    ∃ invoice : FactoryInvoice, invoice.status = .received ∧
      1 ≤ invoice.amountTaxIncludedMinor ∧
      sent = [⟨.invoiceRegistered, .invoice, (db factoryInvoices).nextId, none⟩] ∧
      db' = db.put factoryInvoices ((db factoryInvoices).insert invoice) := by
  simp only [createInvoice, returns_bind_requireRole, returns_bind_identifier, returns_bind_string,
    returns_bind_integer, returns_bind_statedAmount, returns_bind_requireCleanFile,
    returns_bind_select, returns_bind_orThrow, returns_bind_coveredBatch,
    returns_bind_insertUnique, returns_bind_domainEvent, returns_pure] at returns
  obtain ⟨-, -, -, -, amount, -, stated, -, -, -, file, -, -, -, -, order, -, batch, -, -, rest,
    ⟨-, rfl, same⟩, sends⟩ := returns
  exact ⟨_, rfl, amount.2, sends, same⟩

theorem returns_bind_rejectionText {writes : List TableName} {α : Type} {a : α}
    {body : VerifyInvoice} {f : Option String → Tx writes α} :
    (rejectionText body >>= f).Returns db a sent db' ↔
      ∃ reason, (rejectionText body : Tx writes (Option String)).Returns db reason [] db ∧
        (f reason).Returns db a sent db' := by
  refine returns_bind_of_reads ?_
  intro s x first mid returns
  unfold rejectionText at returns
  split at returns <;> simp_all

theorem returns_setInvoiceStatus {writes : List TableName} [Writes factoryInvoices writes]
    {invoiceId : Nat} {status : InvoiceStatus} {u : Unit} :
    (setInvoiceStatus invoiceId status : Tx writes Unit).Returns db u sent db' ↔
      (∃ row, (db factoryInvoices).find? invoiceId = some row ∧ row.status = .received) ∧
        sent = [] ∧ db' = db.put factoryInvoices
          ((db factoryInvoices).modify invoiceId fun row => { row with status }) := by
  simp [setInvoiceStatus]

/-- One round of the allocation loop: the allocation is new and its request
takes the amount. -/
theorem allocateRequest_returns {invoiceId requestId : Nat} {request : FactoryPaymentRequest}
    {allocated : Int} {u : Unit}
    (returns : (allocateRequest command invoiceId requestId request allocated).Returns db u sent db') :
    sent = [] ∧
      db' = (db.put invoicePaymentAllocations ((db invoicePaymentAllocations).insert
          { invoiceId, paymentRequestId := requestId, allocatedAmountMinor := allocated
            status := .active })).put factoryPaymentRequests
        ((db factoryPaymentRequests).modify requestId fun row => { row with
          invoiceCoveredAmountMinor := request.invoiceCoveredAmountMinor + allocated
          status := if request.totalAmountMinor ≤ request.invoiceCoveredAmountMinor + allocated
            then .generated else .waitingInvoice
          updatedAt := command.now }) := by
  simp only [allocateRequest, returns_bind_insertUnique, returns_updateWhere] at returns
  obtain ⟨-, sends, same⟩ := returns
  exact ⟨sends, by simpa using same⟩

theorem allocateFrom_sends_nothing {invoiceId : Nat}
    {requests : List (Nat × FactoryPaymentRequest)} {remaining allocated : Int}
    (returns : (allocateFrom command invoiceId requests remaining).Returns db allocated sent db') :
    sent = [] := by
  induction requests generalizing remaining allocated db db' sent with
  | nil => exact (returns_pure.mp returns).2.1
  | cons head rest ih =>
      unfold allocateFrom at returns
      split at returns
      · exact (returns_pure.mp returns).2.1
      · split at returns
        · exact ih returns
        · simp only [returns_bind, returns_pure] at returns
          obtain ⟨_, _, _, _, round, ⟨_, _, _, _, later, ⟨-, rfl, -⟩, rfl⟩, rfl⟩ := returns
          rw [(allocateRequest_returns round).1, ih later]
          rfl

theorem settleInvoice_returns {invoiceId : Nat} {invoice : FactoryInvoice} {decision : Decision}
    {fullyVerified : Bool} {allocated : Int}
    (returns : (settleInvoice command invoiceId invoice decision fullyVerified).Returns
      db allocated sent db') :
    sent = [] ∧
      ((decision = .rejected ∧ db' = db.put factoryInvoices
          ((db factoryInvoices).modify invoiceId fun row => { row with status := .rejected })) ∨
        (decision ≠ .rejected ∧ fullyVerified = true ∧
          (allocateFrom command invoiceId (requestsOf db invoice.purchaseOrderId)
            invoice.amountTaxIncludedMinor).Returns
            (db.put factoryInvoices
              ((db factoryInvoices).modify invoiceId fun row => { row with status := .verified }))
            allocated [] db') ∨
        (decision ≠ .rejected ∧ fullyVerified = false ∧ db' = db)) := by
  have unread : ∀ invoices : Table FactoryInvoice,
      requestsOf (db.put factoryInvoices invoices) invoice.purchaseOrderId =
        requestsOf db invoice.purchaseOrderId := by
    intro invoices
    simp [requestsOf]
  unfold settleInvoice at returns
  split at returns
  · rename_i rejected
    simp only [returns_bind, returns_setInvoiceStatus, returns_pure] at returns
    obtain ⟨_, _, _, _, ⟨-, rfl, rfl⟩, ⟨-, rfl, rfl⟩, rfl⟩ := returns
    exact ⟨rfl, Or.inl ⟨rejected, rfl⟩⟩
  · rename_i accepted
    split at returns
    · rename_i full
      rw [returns_bind] at returns
      obtain ⟨_, _, _, _, set, allocation, rfl⟩ := returns
      obtain ⟨-, rfl, rfl⟩ := returns_setInvoiceStatus.mp set
      simp only [returns_widen, allocateInvoice, returns_bind_query, unread] at allocation
      obtain rfl := allocateFrom_sends_nothing allocation
      exact ⟨rfl, Or.inr (Or.inl ⟨accepted, full, allocation⟩)⟩
    · rename_i partly
      obtain ⟨-, rfl, rfl⟩ := returns_pure.mp returns
      exact ⟨rfl, Or.inr (Or.inr ⟨accepted, by simpa using partly, rfl⟩)⟩

/-- The roles that approved the invoice once `body` is decided. -/
def approvedBy (db : Database) (body : VerifyInvoice) (role : VerifierRole) : Bool :=
  ((db invoiceVerifications).select fun _ row => row.invoiceId == body.invoiceId).any
      (fun r => r.2.decision == .approved && r.2.verifierRole == role) ||
    (body.decision == .approved && body.verifierRole == role)

def fullyVerified (db : Database) (body : VerifyInvoice) : Bool :=
  approvedBy db body .supplyChain && approvedBy db body .finance

theorem verifyInvoice_returns {body : VerifyInvoice}
    (returns : (verifyInvoice command body).Returns db reply sent db') :
    ∃ (invoice : FactoryInvoice) (verification : InvoiceVerification) (type : EventType)
        (allocated : Int),
      (db factoryInvoices).find? body.invoiceId = some invoice ∧ invoice.status = .received ∧
      verification.invoiceId = body.invoiceId ∧ verification.verifierRole = body.verifierRole ∧
      ((db invoiceVerifications).any fun _ row =>
        row.invoiceId == body.invoiceId && row.verifierRole == body.verifierRole) = false ∧
      (type = .invoiceRejected ∨ type = .invoiceVerified ∨ type = .invoiceVerificationRecorded) ∧
      sent = [⟨type, .invoice, body.invoiceId, some body.verifierRole.name⟩] ∧
      (settleInvoice command body.invoiceId invoice body.decision (fullyVerified db body)).Returns
        (db.put invoiceVerifications ((db invoiceVerifications).insert verification))
        allocated [] db' := by
  simp only [verifyInvoice, returns_bind_requireRole, returns_bind_identifier,
    returns_bind_refuseIf, returns_bind_select, returns_bind_orThrow, returns_bind_query,
    returns_bind_rejectionText, returns_bind_insertUnique, returns_bind_widen,
    returns_bind_domainEvent, returns_pure] at returns
  obtain ⟨-, -, -, invoice, found, received, -, -, -, reason, -, free, allocated, _, mid, _, settled,
    ⟨rest, ⟨-, rfl, rfl⟩, rfl⟩, rfl⟩ := returns
  obtain rfl := (settleInvoice_returns settled).1
  refine ⟨invoice, _, _, allocated, found, not_not.mp received, rfl, rfl, free, ?_, rfl, settled⟩
  split
  · exact Or.inl rfl
  · split
    · exact Or.inr (Or.inl rfl)
    · exact Or.inr (Or.inr rfl)

theorem freezeAllocation_returns {allocation : Nat × InvoicePaymentAllocation} {u : Unit}
    (returns : (freezeAllocation command allocation).Returns db u sent db') :
    sent = [] ∧
      db' = (db.put invoicePaymentAllocations ((db invoicePaymentAllocations).modify allocation.1
          fun row => { row with status := .frozen })).put factoryPaymentRequests
        ((db factoryPaymentRequests).modify allocation.2.paymentRequestId fun row => { row with
          invoiceCoveredAmountMinor :=
            max 0 (row.invoiceCoveredAmountMinor - allocation.2.allocatedAmountMinor)
          status := .invoiceExceptionFrozen
          updatedAt := command.now }) := by
  simp only [freezeAllocation, returns_bind_updateWhere, returns_updateWhere] at returns
  obtain ⟨sends, same⟩ := returns
  exact ⟨sends, by simpa using same⟩

/-- The exception that an invalidation opens. -/
def openedException (command : CommandContext) (body : InvalidateInvoice)
    (invoice : FactoryInvoice) : InvoiceException where
  invoiceId := body.invoiceId
  exceptionType := body.exceptionType
  affectedAmountMinor := invoice.amountTaxIncludedMinor
  replacementDeadline := trim body.replacementDeadline
  replacementCoveredAmountMinor := 0
  refundedAmountMinor := 0
  status := .awaitingRemediation
  riskReleasedBy := none
  riskReleasedAt := none
  resolvedAt := none
  updatedAt := command.now

/-- The active allocations of an invoice. -/
def activeAllocations (db : Database) (invoiceId : Nat) : List (Nat × InvoicePaymentAllocation) :=
  (db invoicePaymentAllocations).select fun _ row =>
    row.invoiceId == invoiceId && row.status == .active

theorem invalidateInvoice_returns {body : InvalidateInvoice}
    (returns : (invalidateInvoice command body).Returns db reply sent db') :
    ∃ (invoice : FactoryInvoice) (mid : Database),
      (db factoryInvoices).find? body.invoiceId = some invoice ∧
      ((db invoiceExceptions).any fun _ row =>
        row.invoiceId == body.invoiceId && row.status != .resolved) = false ∧
      (forEach (freezeAllocation command) (activeAllocations db body.invoiceId)).Returns
        db () [] mid ∧
      sent = [⟨.invoiceInvalidated, .invoiceException, (db invoiceExceptions).nextId, none⟩] ∧
      db' = (mid.put factoryInvoices ((db factoryInvoices).modify body.invoiceId
          fun row => { row with status := .invalidated })).put invoiceExceptions
        ((db invoiceExceptions).insert (openedException command body invoice)) := by
  simp only [invalidateInvoice, returns_bind_requireRole, returns_bind_identifier,
    returns_bind_string, returns_bind_select, returns_bind_orThrow, returns_bind_query,
    returns_bind_refuseIf, returns_bind_widen, returns_bind_updateWhere, returns_bind_insertInto,
    returns_bind_domainEvent, returns_pure] at returns
  obtain ⟨-, -, -, -, invoice, found, none, _, _, mid, _, frozen, ⟨_, ⟨-, rfl, rfl⟩, rfl⟩, rfl⟩ :=
    returns
  obtain rfl := forEach_sends_nothing
    (fun _ _ {_ _ _} round => (freezeAllocation_returns round).1) frozen
  have invoices : mid factoryInvoices = db factoryInvoices := frozen.unwritten _ (by decide)
  have exceptions : mid invoiceExceptions = db invoiceExceptions := frozen.unwritten _ (by decide)
  refine ⟨invoice, mid, found, by simpa using none, frozen, ?_, ?_⟩
  · simp [exceptions]
  · rw [invoices]
    simp [exceptions, openedException]

theorem linkReplacementInvoice_returns {body : LinkReplacementInvoice}
    (returns : (linkReplacementInvoice command body).Returns db reply sent db') :
    ∃ row : ReplacementRow,
      replacementRow db body.invoiceExceptionId body.replacementInvoiceId = some row ∧
      row.exception.status ≠ .resolved ∧ row.replacement.status = .verified ∧
      1 ≤ body.coveredAmountMinor ∧
      body.coveredAmountMinor ≤ row.replacement.amountTaxIncludedMinor ∧
      row.exception.replacementCoveredAmountMinor + row.exception.refundedAmountMinor +
        body.coveredAmountMinor ≤ row.exception.affectedAmountMinor ∧
      ((db replacementInvoiceLinks).any fun _ link =>
        link.invoiceExceptionId == body.invoiceExceptionId &&
          link.replacementInvoiceId == body.replacementInvoiceId) = false ∧
      sent = [⟨.invoiceRemediationProgressed, .invoiceException, body.invoiceExceptionId,
        some (toString body.replacementInvoiceId)⟩] ∧
      db' = (db.put replacementInvoiceLinks ((db replacementInvoiceLinks).insert
          ⟨body.invoiceExceptionId, body.replacementInvoiceId, body.coveredAmountMinor⟩)).put
        invoiceExceptions ((db invoiceExceptions).modify body.invoiceExceptionId
          fun other => { other with
            replacementCoveredAmountMinor :=
              row.exception.replacementCoveredAmountMinor + body.coveredAmountMinor
            status :=
              if row.exception.replacementCoveredAmountMinor + body.coveredAmountMinor +
                row.exception.refundedAmountMinor = row.exception.affectedAmountMinor
              then .resolved else row.exception.status
            resolvedAt :=
              if row.exception.replacementCoveredAmountMinor + body.coveredAmountMinor +
                row.exception.refundedAmountMinor = row.exception.affectedAmountMinor
              then some command.clock else none
            updatedAt := command.now }) := by
  simp only [linkReplacementInvoice, returns_bind_requireRole, returns_bind_identifier,
    returns_bind_integer, returns_bind_query, returns_bind_orThrow, returns_bind_refuseIf,
    returns_bind_insertUnique, returns_bind_updateWhere, returns_bind_domainEvent,
    returns_pure] at returns
  obtain ⟨-, -, -, covered, row, found, eligible, bounded, free, _, ⟨-, rfl, rfl⟩, rfl⟩ := returns
  push Not at eligible bounded
  refine ⟨row, found, eligible.1, eligible.2.1, covered.2, bounded.1, bounded.2, free, rfl, ?_⟩
  simp

/-! ## Payments, refunds and corrections -/

/-- The net of a payment request: the sum of its rows without an exception. -/
def payable (records : Table PaymentRecord) (paymentRequestId : Nat) : Int :=
  records.weigh fun _ row =>
    if row.paymentRequestId = paymentRequestId ∧ row.invoiceExceptionId = none
    then row.amountMinor else 0

/-- What the rows of an exception add up to. -/
def refunded (records : Table PaymentRecord) (exceptionId : Nat) : Int :=
  records.weigh fun _ row => if row.invoiceExceptionId = some exceptionId then row.amountMinor else 0

theorem ledgerOf_sum (db : Database) (paymentRequestId : Nat) (weight : PaymentRecord → Int) :
    ((ledgerOf db paymentRequestId).map weight).sum =
      (db paymentRecords).weigh fun _ row =>
        if row.paymentRequestId = paymentRequestId then weight row else 0 := by
  have sum := (db paymentRecords).sum_select
    (fun _ row => row.paymentRequestId == paymentRequestId) fun _ row => weight row
  simp only [beq_iff_eq] at sum
  rw [← sum, ledgerOf, List.map_map]
  rfl

theorem ledgerOf_payable (db : Database) (paymentRequestId : Nat) :
    ((ledgerOf db paymentRequestId).map fun row =>
      if row.invoiceExceptionId = none then row.amountMinor else 0).sum =
      payable (db paymentRecords) paymentRequestId := by
  rw [ledgerOf_sum]
  refine Table.weigh_congr ?_
  intro id row found
  by_cases own : row.paymentRequestId = paymentRequestId <;> simp [own]

/-- A sound ledger holds no refund without an exception, so its sum is the sum
of its rows without an exception. -/
theorem payableSum_eq {rows : List PaymentRecord} {net result : Int}
    (sound : payableSum rows net = .ok result) :
    result = net + (rows.map fun row =>
      if row.invoiceExceptionId = none then row.amountMinor else 0).sum := by
  induction rows generalizing net with
  | nil =>
      cases sound
      simp
  | cons row rest ih =>
      unfold payableSum at sound
      split at sound
      · cases sound
      · rename_i valid
        split at sound
        · cases sound
        · have amount : payableAmount row =
              if row.invoiceExceptionId = none then row.amountMinor else 0 := by
            by_cases refund : row.recordType = .refund
            · by_cases linked : row.invoiceExceptionId = none
              · simp [validRecord, refund, linked] at valid
              · simp [payableAmount, refund, linked]
            · simp [payableAmount, refund]
          rw [ih sound, List.map_cons, List.sum_cons, amount]
          omega

theorem payableNet_eq {paymentRequestId : Nat} {total net : Int}
    (sound : payableNet (ledgerOf db paymentRequestId) total = .ok net) :
    net = payable (db paymentRecords) paymentRequestId ∧ 0 ≤ net ∧ net ≤ total := by
  unfold payableNet at sound
  cases summed : payableSum (ledgerOf db paymentRequestId) 0 with
  | error e => simp [summed, bind, Except.bind] at sound
  | ok result =>
      simp only [summed, bind, Except.bind] at sound
      split at sound
      · cases sound
      · rename_i inside
        cases sound
        rw [← ledgerOf_payable]
        refine ⟨by simpa using payableSum_eq summed, ?_, ?_⟩ <;> omega

/-- The record of a payment. -/
def paymentRecord (command : CommandContext) (body : RecordPayment) : PaymentRecord where
  paymentRequestId := body.paymentRequestId
  amountMinor := body.amountMinor
  paidAt := trim body.paidAt
  bankReference := trim body.bankReference
  recordType := .payment
  reversesPaymentRecordId := none
  correctsPaymentRecordId := none
  invoiceExceptionId := none
  recordedBy := command.access.userId
  reviewedBy := none
  reviewStatus := .notRequired
  updatedAt := command.now

theorem recordPayment_returns {body : RecordPayment}
    (returns : (recordPayment command body).Returns db reply sent db') :
    ∃ request : FactoryPaymentRequest,
      (db factoryPaymentRequests).find? body.paymentRequestId = some request ∧
      PaymentRequestStatus.payable request.status = true ∧
      request.totalAmountMinor ≤ request.invoiceCoveredAmountMinor ∧
      1 ≤ body.amountMinor ∧
      0 ≤ payable (db paymentRecords) body.paymentRequestId ∧
      payable (db paymentRecords) body.paymentRequestId + body.amountMinor ≤
        request.totalAmountMinor ∧
      sent = [⟨.paymentRecorded, .paymentRequest, body.paymentRequestId,
        some (toString (db paymentRecords).nextId)⟩] ∧
      db' paymentRecords = (db paymentRecords).insert (paymentRecord command body) ∧
      db' factoryPaymentRequests =
        (db factoryPaymentRequests).modify body.paymentRequestId fun row => { row with
          status := if payable (db paymentRecords) body.paymentRequestId + body.amountMinor =
              request.totalAmountMinor then .paid else .partiallyPaid
          paidAt := if payable (db paymentRecords) body.paymentRequestId + body.amountMinor =
              request.totalAmountMinor then some (trim body.paidAt) else none
          paymentReference := some (trim body.bankReference)
          updatedAt := laterThan row.updatedAt command.now } := by
  simp only [recordPayment, returns_bind_requireRole, returns_bind_identifier,
    returns_bind_integer, returns_bind_string, returns_bind_select, returns_bind_orThrow,
    returns_bind_refuseIf, returns_bind_objectVersion, returns_bind_stepUp,
    returns_bind_claimBusinessKey, returns_bind_query, returns_bind_ofExcept,
    returns_bind_insertInto, returns_bind_updateWhere, returns_bind_bindBusinessKey,
    returns_bind_domainEvent, returns_pure] at returns
  obtain ⟨-, -, amount, -, -, request, found, eligible, -, -, claim, -, -, -, net, sound, bounded, _,
    ⟨-, rfl, rfl⟩, rfl⟩ := returns
  push Not at eligible bounded
  have unchanged : ledgerOf ((db.put authChallenges
      (consumedChallenges (db authChallenges) command claim)).put businessKeys
        ((db businessKeys).insert
          { keyType := .payment, keyValue := trim body.bankReference, aggregateId := none }))
      body.paymentRequestId = ledgerOf db body.paymentRequestId := by
    simp [ledgerOf]
  simp only [Store.put_other, ne_eq, reduceCtorEq, not_false_eq_true] at sound
  rw [unchanged] at sound
  obtain ⟨rfl, nonneg, -⟩ := payableNet_eq sound
  refine ⟨request, found, by simpa using eligible.1, eligible.2, amount.2, nonneg, bounded,
    by simp, by simp [paymentRecord], ?_⟩
  simp

def refundRecord (command : CommandContext) (body : RecordRefund) : PaymentRecord where
  paymentRequestId := body.paymentRequestId
  amountMinor := body.amountMinor
  paidAt := trim body.paidAt
  bankReference := trim body.bankReference
  recordType := .refund
  reversesPaymentRecordId := none
  correctsPaymentRecordId := none
  invoiceExceptionId := some body.invoiceExceptionId
  recordedBy := command.access.userId
  reviewedBy := none
  reviewStatus := .notRequired
  updatedAt := command.now

theorem recordRefund_returns {body : RecordRefund}
    (returns : (recordRefund command body).Returns db reply sent db') :
    ∃ (request : FactoryPaymentRequest) (exception : InvoiceException)
        (allocation : Nat × InvoicePaymentAllocation),
      (db factoryPaymentRequests).find? body.paymentRequestId = some request ∧
      (db invoiceExceptions).find? body.invoiceExceptionId = some exception ∧
      exception.status ≠ .resolved ∧
      (db invoicePaymentAllocations).find? allocation.1 = some allocation.2 ∧
      allocation.2.invoiceId = exception.invoiceId ∧
      allocation.2.paymentRequestId = body.paymentRequestId ∧
      (request.status = .paid ∨ request.status = .partiallyPaid) ∧
      1 ≤ body.amountMinor ∧
      exception.replacementCoveredAmountMinor + exception.refundedAmountMinor +
        body.amountMinor ≤ exception.affectedAmountMinor ∧
      sent = [⟨.refundRecorded, .invoiceException, body.invoiceExceptionId,
        some (toString (db paymentRecords).nextId)⟩] ∧
      db' paymentRecords = (db paymentRecords).insert (refundRecord command body) ∧
      db' invoiceExceptions =
        (db invoiceExceptions).modify body.invoiceExceptionId fun row => { row with
          refundedAmountMinor := exception.refundedAmountMinor + body.amountMinor
          status := if exception.refundedAmountMinor + body.amountMinor +
              exception.replacementCoveredAmountMinor = exception.affectedAmountMinor
            then .resolved else exception.status
          resolvedAt := if exception.refundedAmountMinor + body.amountMinor +
              exception.replacementCoveredAmountMinor = exception.affectedAmountMinor
            then some command.clock else none
          updatedAt := laterThan row.updatedAt command.now } := by
  simp only [recordRefund, returns_bind_requireRole, returns_bind_identifier,
    returns_bind_integer, returns_bind_string, returns_bind_select, returns_bind_orThrow,
    returns_bind_query, returns_bind_refuseIf, returns_bind_ofExcept,
    returns_bind_objectVersion, returns_bind_stepUp, returns_bind_claimBusinessKey,
    returns_bind_insertInto, returns_bind_updateRow, returns_bind_bindBusinessKey,
    returns_bind_domainEvent, returns_pure] at returns
  obtain ⟨-, -, -, amount, -, -, request, foundRequest, exception, foundException, open', allocated,
    refundable, _, -, -, -, -, -, claim, -, -, bounded, -, _, -, -, _, ⟨-, rfl, rfl⟩, rfl⟩ := returns
  obtain ⟨exception', found', foundInvoice⟩ := Option.bind_eq_some_iff.mp foundException
  obtain ⟨invoice, -, rfl⟩ := Option.map_eq_some_iff.mp foundInvoice
  push Not at allocated bounded
  obtain ⟨allocation, single⟩ := List.length_eq_one_iff.mp allocated.1
  have member : allocation ∈ (db invoicePaymentAllocations).select fun _ row =>
      row.invoiceId == exception'.invoiceId && row.paymentRequestId == body.paymentRequestId := by
    rw [single]
    exact List.mem_singleton.mpr rfl
  obtain ⟨foundAllocation, bound⟩ := Table.mem_select.mp member
  rw [Bool.and_eq_true, beq_iff_eq, beq_iff_eq] at bound
  refine ⟨request, exception', allocation, foundRequest, found', open', foundAllocation, bound.1,
    bound.2, by tauto, amount.2, by omega, by simp, by simp [refundRecord], ?_⟩
  simp

theorem requestRecordCorrection_returns {body : RequestRecordCorrection}
    (returns : (requestRecordCorrection command body).Returns db reply sent db') :
    ∃ approval : ApprovalRequest,
      db' approvalRequests = (db approvalRequests).insert approval ∧ approval.status = .pending ∧
      approval.workflowType = .financialRecordCorrection ∧
      sent = [⟨.financialCorrectionRequested, .paymentRecord, body.paymentRecordId,
        some (toString (db approvalRequests).nextId)⟩] := by
  simp only [requestRecordCorrection, returns_bind_requireRole, returns_bind_identifier,
    returns_bind_integer, returns_bind_string, returns_bind_select, returns_bind_orThrow,
    returns_bind_refuseIf, returns_bind_objectVersion, returns_bind_stepUp,
    returns_bind_insertApproval, returns_bind_domainEvent, returns_pure] at returns
  obtain ⟨-, -, -, -, -, -, -, original, -, -, -, -, claim, -, -, -, _, ⟨-, rfl, rfl⟩, rfl⟩ := returns
  exact ⟨_, rfl, rfl, rfl, by simp⟩

theorem releaseInvoiceRisk_returns {body : ReleaseInvoiceRisk}
    (returns : (releaseInvoiceRisk command body).Returns db reply sent db') :
    (∃ exception, (db invoiceExceptions).find? body.invoiceExceptionId = some exception ∧
        exception.status = .riskWarning) ∧
      sent = [⟨.invoiceRiskReleased, .invoiceException, body.invoiceExceptionId, none⟩] ∧
      db' invoiceExceptions =
        (db invoiceExceptions).modify body.invoiceExceptionId fun row => { row with
          status := .awaitingRemediation, riskReleasedBy := some command.access.userId
          riskReleasedAt := some command.now
          updatedAt := laterThan row.updatedAt command.now } := by
  simp only [releaseInvoiceRisk, returns_bind_requireRole, returns_bind_identifier,
    returns_bind_string, returns_bind_requireCleanFile, returns_bind_select, returns_bind_orThrow,
    returns_bind_refuseIf, returns_bind_objectVersion, returns_bind_stepUp,
    returns_bind_updateRow, returns_bind_domainEvent, returns_pure] at returns
  obtain ⟨-, -, -, -, file, -, -, -, -, exception, found, warned, -, -, claim, -, -, -, _,
    ⟨-, rfl, rfl⟩, rfl⟩ := returns
  refine ⟨⟨exception, found, not_not.mp warned⟩, rfl, ?_⟩
  simp

theorem warnInvoiceRisk_returns {now exceptionId : Nat} {u : Unit}
    (returns : (warnInvoiceRisk now exceptionId).Returns db u sent db') :
    sent = [] ∧
      db' invoiceExceptions = (db invoiceExceptions).update
        (fun key row => key == exceptionId && row.status == .awaitingRemediation)
        fun row => { row with status := .riskWarning, updatedAt := now } := by
  simp only [warnInvoiceRisk, returns_updateWhere] at returns
  obtain ⟨sends, rfl⟩ := returns
  exact ⟨sends, by simp⟩

end SupplyChain.Finance
