import SupplyChain.Finance.Postings

/-!
What holds of the finance side in every state that the operations system
reaches from an empty ledger, in any order of commands.
-/

namespace SupplyChain.Finance

open Relational Transaction TableName

variable {effects : Approvals.ProcurementEffects} {opening mid db db' : Database}
  {event : Event} {events later : List Event}

/-- An empty ledger: nothing is allocated, paid, invalidated or replaced yet,
the requests ask for no negative amount and the invoices are positive. -/
structure OpeningLedger (db : Database) : Prop where
  requests : ∀ id request, (db factoryPaymentRequests).find? id = some request →
    0 ≤ request.totalAmountMinor ∧ request.invoiceCoveredAmountMinor = 0
  invoices : ∀ id invoice, (db factoryInvoices).find? id = some invoice →
    1 ≤ invoice.amountTaxIncludedMinor
  allocations : ∀ id, (db invoicePaymentAllocations).find? id = none
  exceptions : ∀ id, (db invoiceExceptions).find? id = none
  links : ∀ id, (db replacementInvoiceLinks).find? id = none
  records : ∀ id, (db paymentRecords).find? id = none

theorem OpeningLedger.sound (opens : OpeningLedger opening) : Sound (booksOf opening) where
  invoice := opens.invoices
  allocation id row found := by simp [booksOf, opens.allocations] at found
  exception id row found := by simp [booksOf, opens.exceptions] at found
  linkException id row found := by simp [booksOf, opens.links] at found
  linkInvoice id row found := by simp [booksOf, opens.links] at found
  recordException id row _ found := by simp [booksOf, opens.records] at found
  payment id row found := by simp [booksOf, opens.records] at found

theorem weigh_of_none {Row : Type} {table : Table Row} (none : ∀ id, table.find? id = none)
    (weight : Nat → Row → Int) : table.weigh weight = 0 :=
  Table.weigh_zero fun id row found => by simp [none id] at found

/-! ## From entries to runs -/

/-- An invariant that every entry preserves under a rule is preserved by every
step whose entries obey the rule where the step begins. -/
theorem step_preserves (invariant : Books → Prop) (rule : Books → Entry → Prop)
    (stable : ∀ {start mid : Books} {entry}, Since start mid entry → rule start entry →
      rule mid entry)
    (preserved : ∀ {b b' : Books} {entry}, Posted b entry b' → rule b entry → Sound b →
      invariant b → invariant b')
    (step : Step effects db event db')
    (obeyed : ∀ entry, Concerns db event entry → rule (booksOf db) entry)
    (holds : Sound (booksOf db) ∧ invariant (booksOf db)) :
    Sound (booksOf db') ∧ invariant (booksOf db') := by
  obtain ⟨entries, posts, concerns⟩ := step_posts holds.1 step
  have run := posts.obeys rule (fun _ => stable) fun entry member => obeyed entry (concerns entry member)
  exact run.preserves (fun b => Sound b ∧ invariant b)
    (fun posted both => ⟨posted.1.sound both.1, preserved posted.1 posted.2 both.1 both.2⟩) holds

theorem reached_preserves (invariant : Books → Prop)
    (preserved : ∀ {b b' : Books} {entry}, Posted b entry b' → Sound b → invariant b →
      invariant b')
    (opens : OpeningLedger opening) (holds : invariant (booksOf opening))
    (run : Run (Step effects) opening events db) : Sound (booksOf db) ∧ invariant (booksOf db) := by
  refine run.preserves (fun db => Sound (booksOf db) ∧ invariant (booksOf db)) ?_
    ⟨opens.sound, holds⟩
  intro a label b step both
  exact step_preserves invariant (fun _ _ => True) (fun _ _ => trivial)
    (fun posted _ => preserved posted) step (fun _ _ => trivial) both

/-! ## A purchase order to replay -/

/-- A purchase order of 100 with its invoice file, a payment request for it
and the step-up challenge of its payment. -/
def orderedDatabase : Database :=
  ((((emptyDatabase.put purchaseOrders (Table.empty.insert
      { orderNo := "PO", orderDate := "1", status := .confirmed
        totalTaxIncludedMinor := 100 })).put
    fileObjects (Table.empty.insert
      { objectKey := "K", category := "invoice", entityType := "purchase_order"
        entityId := some 1, ownerUserId := 1, factoryId := none, supplierId := none
        clean := true })).put
    factoryPaymentRequests (Table.empty.insert
      { requestNo := "PAY", plannedPaymentDate := "1", totalAmountMinor := 100
        status := .waitingInvoice, invoiceCoveredAmountMinor := 0, paidAt := none
        paymentReference := none, updatedAt := 1 })).put
    factoryPaymentRequestItems (Table.empty.insert ⟨1, 1⟩)).put
    authChallenges (Table.empty.insert
      { challengeNo := "C", userId := 2, sessionId := some 2, highRisk := true
        action := "record_payment", objectType := "finance:record_payment", objectId := 1
        objectVersion := 3
        requestDigest := canonical (.object [("action", .text "record_payment"),
          ("paymentRequestId", .number 1), ("amountMinor", .number 100), ("paidAt", .text "4"),
          ("bankReference", .text "B")])
        verified := true, consumedAt := none, expiresAt := 9 })

/-- The same order with an invoice that the supply chain approved. -/
def invoicedDatabase : Database :=
  (orderedDatabase.put factoryInvoices (Table.empty.insert
    { factoryId := 1, purchaseOrderId := 1, coverageMode := .fullOrder, deliveryBatchId := none
      invoiceNo := "A", invoiceType := .vatGeneral, amountTaxIncludedMinor := 100
      taxAmountMinor := 0, fileKey := "K", status := .received, expectedAmountMinor := 100
      amountMatchesExpected := true, mismatchAmountMinor := 0 })).put
    invoiceVerifications (Table.empty.insert
      { invoiceId := 1, verifierRole := .supplyChain, decision := .approved
        rejectionReason := none, verifiedBy := 1 })

def registers (time : Nat) (invoiceNo : String) : Request :=
  requestAt time 1 [.admin] (.financeCommand (.createInvoice
    { factoryId := 1, purchaseOrderId := 1, invoiceNo, invoiceType := .vatGeneral
      coverageMode := .fullOrder, amountTaxIncludedMinor := 100, taxAmountMinor := 0
      issuedAt := "1", fileId := 1 }))

def approves (time userId invoiceId : Nat) (verifierRole : VerifierRole) : Request :=
  requestAt time userId [.admin] (.financeCommand (.verifyInvoice
    { invoiceId, verifierRole, decision := .approved }))

def pays (time : Nat) : Request :=
  requestAt time 2 [.admin] (.financeCommand (.recordPayment
    { paymentRequestId := 1, amountMinor := 100, paidAt := "4", bankReference := "B"
      challengeNo := "C" }))

def invalidates (time invoiceId : Nat) : Request :=
  requestAt time 2 [.admin] (.financeCommand (.invalidateInvoice
    { invoiceId, exceptionType := .voided, reason := "void", replacementDeadline := "9" }))

def replaces (time invoiceExceptionId replacementInvoiceId : Nat) : Request :=
  requestAt time 2 [.admin] (.financeCommand (.linkReplacementInvoice
    { invoiceExceptionId, replacementInvoiceId, coveredAmountMinor := 100 }))

/-- An invoice is registered, verified by both roles, paid and invalidated. -/
def paidThenInvalidated : List Request :=
  [registers 1 "A", approves 2 1 1 .supplyChain, approves 3 2 1 .finance, pays 4,
    invalidates 5 1]

/-- An invoice is invalidated and replaced in full. -/
def replacedInFull : List Request :=
  [registers 1 "A", registers 2 "R", approves 3 1 2 .supplyChain, approves 4 2 2 .finance,
    invalidates 5 1, replaces 6 1 2]

theorem orderedDatabase_opens : OpeningLedger orderedDatabase where
  requests id request found := by
    obtain rfl := Table.find?_single found
    decide
  invoices id invoice found := by cases found
  allocations id := rfl
  exceptions id := rfl
  links id := rfl
  records id := rfl

theorem invoicedDatabase_opens : OpeningLedger invoicedDatabase where
  requests := orderedDatabase_opens.requests
  invoices id invoice found := by
    obtain rfl := Table.find?_single found
    decide
  allocations id := rfl
  exceptions id := rfl
  links id := rfl
  records id := rfl

/-! ## The payable ledger -/

theorem OpeningLedger.payableBound (opens : OpeningLedger opening) :
    PayableBound (booksOf opening) := by
  intro id request found
  have none : payable (booksOf opening).records id = 0 := weigh_of_none opens.records _
  rw [none]
  exact ⟨Int.le_refl 0, (opens.requests id request found).1⟩

theorem payable_ledger_bound (opens : OpeningLedger opening)
    (run : Run (Step effects) opening events db) :
    (∀ id request, (db factoryPaymentRequests).find? id = some request →
      0 ≤ payable (db paymentRecords) id ∧
        payable (db paymentRecords) id ≤ request.totalAmountMinor) ∧
      ReversalsMatched (db paymentRecords) := by
  constructor
  · exact (reached_preserves PayableBound (fun posted _ => posted.payableBound) opens opens.payableBound run).2
  · refine (reached_preserves (fun b => ReversalsMatched b.records)
      (fun posted _ => posted.reversalsMatched) opens ?_ run).2
    intro id row found
    simp [booksOf, opens.records] at found

theorem payable_ledger_bound_paid :
    ∃ db, Run (Step noProcurement) orderedDatabase (paidThenInvalidated.map .command) db ∧
      payable (db paymentRecords) 1 = 100 ∧
      (∀ id request, (db factoryPaymentRequests).find? id = some request →
        0 ≤ payable (db paymentRecords) id ∧
          payable (db paymentRecords) id ≤ request.totalAmountMinor) ∧
      ReversalsMatched (db paymentRecords) := by
  obtain ⟨db, run, paid⟩ := replay_reaches noProcurement paidThenInvalidated
    orderedDatabase (fun db => payable (db paymentRecords) 1 == 100)
    (by decide +kernel)
  exact ⟨db, run, by simpa using paid, payable_ledger_bound orderedDatabase_opens run⟩

/-! ## The coverage of payment requests -/

theorem OpeningLedger.covered (opens : OpeningLedger opening) : Covered (booksOf opening) := by
  constructor
  · intro id row found
    obtain ⟨total, uncovered⟩ := opens.requests id row found
    have none : coverage (booksOf opening).allocations id = 0 := weigh_of_none opens.allocations _
    rw [none]
    exact ⟨uncovered, by omega⟩
  · intro id invoice found
    have none : allocatedFrom (booksOf opening).allocations id = 0 :=
      weigh_of_none opens.allocations _
    have positive := opens.invoices id invoice found
    omega

/-- `freezeAllocation` without the clamp of the coverage at zero. -/
def freezeAllocationUnclamped (command : CommandContext)
    (allocation : Nat × InvoicePaymentAllocation) :
    Tx [invoicePaymentAllocations, factoryPaymentRequests] Unit := do
  updateWhere invoicePaymentAllocations (fun key _ => key == allocation.1)
    fun row => { row with status := .frozen }
  updateWhere factoryPaymentRequests (fun key _ => key == allocation.2.paymentRequestId)
    fun row => { row with
      invoiceCoveredAmountMinor :=
        row.invoiceCoveredAmountMinor - allocation.2.allocatedAmountMinor
      status := .invoiceExceptionFrozen
      updatedAt := command.now }

theorem freezeAllocation_unclamped {command : CommandContext}
    {allocation : Nat × InvoicePaymentAllocation}
    (within : ∀ row, (db factoryPaymentRequests).find? allocation.2.paymentRequestId = some row →
      allocation.2.allocatedAmountMinor ≤ row.invoiceCoveredAmountMinor) :
    (freezeAllocation command allocation).run db =
      (freezeAllocationUnclamped command allocation).run db := by
  have same : (db factoryPaymentRequests).modify allocation.2.paymentRequestId
      (fun row => { row with
        invoiceCoveredAmountMinor :=
          max 0 (row.invoiceCoveredAmountMinor - allocation.2.allocatedAmountMinor)
        status := .invoiceExceptionFrozen
        updatedAt := command.now }) =
      (db factoryPaymentRequests).modify allocation.2.paymentRequestId fun row => { row with
        invoiceCoveredAmountMinor :=
          row.invoiceCoveredAmountMinor - allocation.2.allocatedAmountMinor
        status := .invoiceExceptionFrozen
        updatedAt := command.now } := by
    refine Table.modify_congr ?_
    intro row found
    have covered := within row found
    rw [max_eq_right (by omega)]
  refine run_bind_congr rfl ?_
  intro _ _ mid first
  obtain ⟨-, rfl⟩ := returns_updateWhere.mp first
  simp only [updateWhere, write, Store.put_other, ne_eq, reduceCtorEq, not_false_eq_true,
    Table.update_key, same]

theorem freezeAllocations_unclamped {command : CommandContext}
    {allocations : List (Nat × InvoicePaymentAllocation)}
    (sound : Sound (booksOf db)) (covered : Covered (booksOf db))
    (distinct : (allocations.map (·.1)).Nodup)
    (current : ∀ a ∈ allocations, (booksOf db).allocations.find? a.1 = some a.2 ∧
      a.2.status = .active) :
    (forEach (freezeAllocation command) allocations).run db =
      (forEach (freezeAllocationUnclamped command) allocations).run db := by
  induction allocations generalizing db with
  | nil => rfl
  | cons head rest ih =>
      obtain ⟨found, active⟩ := current head List.mem_cons_self
      refine run_bind_congr (freezeAllocation_unclamped ?_) ?_
      · intro row foundRow
        rw [(covered.counter _ row foundRow).1]
        exact allocation_le_coverage sound found active
      · intro _ _ mid round
        have posted := freezeAllocation_posts round found active
        refine ih (posted.sound sound) (posted.covered sound covered)
          (List.nodup_cons.mp distinct).2 ?_
        exact activeAllocations_after round distinct current

theorem invoice_coverage_ledger (opens : OpeningLedger opening)
    (run : Run (Step effects) opening events db) :
    (∀ id request, (db factoryPaymentRequests).find? id = some request →
      request.invoiceCoveredAmountMinor = coverage (db invoicePaymentAllocations) id ∧
        request.invoiceCoveredAmountMinor ≤ request.totalAmountMinor) ∧
      (∀ id invoice, (db factoryInvoices).find? id = some invoice →
        allocatedFrom (db invoicePaymentAllocations) id ≤ invoice.amountTaxIncludedMinor) ∧
      ∀ command invoiceId,
        (forEach (freezeAllocation command) (activeAllocations db invoiceId)).run db =
          (forEach (freezeAllocationUnclamped command) (activeAllocations db invoiceId)).run db := by
  obtain ⟨sound, covered⟩ := reached_preserves Covered (fun posted sound => posted.covered sound) opens
    opens.covered run
  refine ⟨covered.counter, covered.invoice, ?_⟩
  intro command invoiceId
  obtain ⟨distinct, current⟩ := activeAllocations_current db invoiceId
  exact freezeAllocations_unclamped sound covered distinct current

theorem invoice_coverage_ledger_paid :
    ∃ db, Run (Step noProcurement) orderedDatabase ((paidThenInvalidated.take 4).map .command) db ∧
      coverage (db invoicePaymentAllocations) 1 = 100 ∧
      (∀ id request, (db factoryPaymentRequests).find? id = some request →
        request.invoiceCoveredAmountMinor = coverage (db invoicePaymentAllocations) id ∧
          request.invoiceCoveredAmountMinor ≤ request.totalAmountMinor) ∧
      (∀ id invoice, (db factoryInvoices).find? id = some invoice →
        allocatedFrom (db invoicePaymentAllocations) id ≤ invoice.amountTaxIncludedMinor) ∧
      ∀ command invoiceId,
        (forEach (freezeAllocation command) (activeAllocations db invoiceId)).run db =
          (forEach (freezeAllocationUnclamped command)
            (activeAllocations db invoiceId)).run db := by
  obtain ⟨db, run, covered⟩ := replay_reaches noProcurement (paidThenInvalidated.take 4)
    orderedDatabase (fun db => coverage (db invoicePaymentAllocations) 1 == 100) (by decide +kernel)
  exact ⟨db, run, by simpa using covered, invoice_coverage_ledger orderedDatabase_opens run⟩

/-! ## Invoice exceptions -/

theorem OpeningLedger.remedied (opens : OpeningLedger opening) : Remedied (booksOf opening) := by
  intro id row found
  simp [booksOf, opens.exceptions] at found

theorem invoice_exception_ledger (opens : OpeningLedger opening)
    (run : Run (Step effects) opening events db) :
    (∀ id exception, (db invoiceExceptions).find? id = some exception →
      exception.refundedAmountMinor = refunded (db paymentRecords) id ∧
      exception.replacementCoveredAmountMinor = replaced (db replacementInvoiceLinks) id ∧
      exception.replacementCoveredAmountMinor + exception.refundedAmountMinor ≤
        exception.affectedAmountMinor ∧
      (exception.status = .resolved ↔
        exception.replacementCoveredAmountMinor + exception.refundedAmountMinor =
          exception.affectedAmountMinor)) ∧
      ∀ id record exceptionId, (db paymentRecords).find? id = some record →
        record.invoiceExceptionId = some exceptionId → record.recordType ≠ .payment := by
  obtain ⟨sound, remedied⟩ := reached_preserves Remedied (fun posted sound => posted.remedied sound) opens
    opens.remedied run
  refine ⟨remedied, ?_⟩
  intro id record exceptionId found linked payment
  rw [sound.payment id record found payment] at linked
  cases linked

theorem invoice_exception_ledger_replaced :
    ∃ db, Run (Step noProcurement) orderedDatabase (replacedInFull.map .command) db ∧
      replaced (db replacementInvoiceLinks) 1 = 100 ∧
      (∀ id exception, (db invoiceExceptions).find? id = some exception →
        exception.refundedAmountMinor = refunded (db paymentRecords) id ∧
        exception.replacementCoveredAmountMinor = replaced (db replacementInvoiceLinks) id ∧
        exception.replacementCoveredAmountMinor + exception.refundedAmountMinor ≤
          exception.affectedAmountMinor ∧
        (exception.status = .resolved ↔
          exception.replacementCoveredAmountMinor + exception.refundedAmountMinor =
            exception.affectedAmountMinor)) ∧
      ∀ id record exceptionId, (db paymentRecords).find? id = some record →
        record.invoiceExceptionId = some exceptionId → record.recordType ≠ .payment := by
  obtain ⟨db, run, linked⟩ := replay_reaches noProcurement replacedInFull orderedDatabase
    (fun db => replaced (db replacementInvoiceLinks) 1 == 100) (by decide +kernel)
  exact ⟨db, run, by simpa using linked, invoice_exception_ledger orderedDatabase_opens run⟩

/-! ## The amounts of invoices -/

/-- The step links no more to an invoice than what is left of its amount and
invalidates no invoice that has an exception already. -/
def LeavesRoomFor (db : Database) (event : Event) : Prop :=
  (∀ command body,
    event = .command ⟨command, .financeCommand (.linkReplacementInvoice body)⟩ →
      ∀ invoice, (db factoryInvoices).find? body.replacementInvoiceId = some invoice →
        replacedBy (db replacementInvoiceLinks) body.replacementInvoiceId +
          body.coveredAmountMinor ≤ invoice.amountTaxIncludedMinor) ∧
  ∀ command body, event = .command ⟨command, .financeCommand (.invalidateInvoice body)⟩ →
    ∀ id exception, (db invoiceExceptions).find? id = some exception →
      exception.invoiceId ≠ body.invoiceId

theorem leavesRoom_since {start mid : Books} {entry : Entry} (since : Since start mid entry)
    (room : LeavesRoom start entry) : LeavesRoom mid entry := by
  cases entry with
  | link replacementInvoiceId amount =>
      obtain ⟨links, invoices⟩ := since
      rw [LeavesRoom, links, invoices]
      exact room
  | invalidate invoiceId =>
      rw [LeavesRoom, since]
      exact room
  | _ => trivial

theorem leavesRoom_concerns (room : LeavesRoomFor db event) {entry : Entry}
    (concerns : Concerns db event entry) : LeavesRoom (booksOf db) entry := by
  cases entry with
  | link replacementInvoiceId amount =>
      obtain ⟨command, body, isLink, rfl, rfl⟩ := concerns
      exact room.1 command body isLink
  | invalidate invoiceId =>
      obtain ⟨command, body, invalidates, rfl⟩ := concerns
      exact room.2 command body invalidates
  | _ => trivial

theorem OpeningLedger.withinAmounts (opens : OpeningLedger opening) :
    WithinAmounts (booksOf opening) := by
  constructor
  · intro id invoice found
    have none : replacedBy (booksOf opening).links id = 0 := weigh_of_none opens.links _
    have positive := opens.invoices id invoice found
    omega
  · intro id invoice found
    have none : affected (booksOf opening).exceptions id = 0 := weigh_of_none opens.exceptions _
    have positive := opens.invoices id invoice found
    omega

theorem no_over_remediation (opens : OpeningLedger opening)
    (run : Run (fun db event db' => Step effects db event db' ∧ LeavesRoomFor db event)
      opening events db)
    {id : Nat} {invoice : FactoryInvoice} (found : (db factoryInvoices).find? id = some invoice) :
    replacedBy (db replacementInvoiceLinks) id ≤ invoice.amountTaxIncludedMinor ∧
      affected (db invoiceExceptions) id ≤ invoice.amountTaxIncludedMinor ∧
      remediedOf (db invoiceExceptions) id ≤ invoice.amountTaxIncludedMinor := by
  have within : Sound (booksOf db) ∧ WithinAmounts (booksOf db) := by
    refine run.preserves (fun db => Sound (booksOf db) ∧ WithinAmounts (booksOf db)) ?_
      ⟨opens.sound, opens.withinAmounts⟩
    intro a label b step both
    exact step_preserves WithinAmounts LeavesRoom leavesRoom_since (fun posted => posted.withinAmounts) step.1
      (fun _ => leavesRoom_concerns step.2) both
  have remedied := (reached_preserves Remedied (fun posted sound => posted.remedied sound) opens
    opens.remedied (run.imp fun step => step.1)).2
  exact ⟨within.2.replacement id invoice found, within.2.exceptions id invoice found,
    within.2.remedied remedied found⟩

/-- A resolved exception does not stop a second invalidation, and its second
exception takes the same replacement again: 200 are recorded against 100. -/
theorem over_remediation :
    OpeningLedger orderedDatabase ∧
      ∃ db, Run (Step noProcurement) orderedDatabase
        ((replacedInFull ++ [invalidates 7 1, replaces 8 2 2]).map .command) db ∧
        (∀ id invoice, (db factoryInvoices).find? id = some invoice →
          invoice.amountTaxIncludedMinor ≤ 100) ∧
        replacedBy (db replacementInvoiceLinks) 2 = 200 ∧
        affected (db invoiceExceptions) 1 = 200 ∧ remediedOf (db invoiceExceptions) 1 = 200 := by
  refine ⟨orderedDatabase_opens, ?_⟩
  obtain ⟨db, run, recorded⟩ := replay_reaches noProcurement
    (replacedInFull ++ [invalidates 7 1, replaces 8 2 2]) orderedDatabase
    (fun db => !(db factoryInvoices).any (fun _ invoice =>
        decide (100 < invoice.amountTaxIncludedMinor)) &&
      replacedBy (db replacementInvoiceLinks) 2 == 200 && affected (db invoiceExceptions) 1 == 200 &&
      remediedOf (db invoiceExceptions) 1 == 200) (by decide +kernel)
  simp only [Bool.and_eq_true, Bool.not_eq_true', beq_iff_eq, Table.any_eq_false,
    decide_eq_false_iff_not, Int.not_lt] at recorded
  exact ⟨db, run, recorded.1.1.1, recorded.1.1.2, recorded.1.2, recorded.2⟩

theorem no_over_remediation_invalidated :
    ∃ db invoice, Run (fun db event db' => Step noProcurement db event db' ∧ LeavesRoomFor db event)
        invoicedDatabase [.command (invalidates 1 1)] db ∧
      (db factoryInvoices).find? 1 = some invoice ∧ affected (db invoiceExceptions) 1 = 100 ∧
      replacedBy (db replacementInvoiceLinks) 1 ≤ invoice.amountTaxIncludedMinor ∧
      affected (db invoiceExceptions) 1 ≤ invoice.amountTaxIncludedMinor ∧
      remediedOf (db invoiceExceptions) 1 ≤ invoice.amountTaxIncludedMinor := by
  obtain ⟨db, run, recorded⟩ := replay_reaches noProcurement [invalidates 1 1] invoicedDatabase
    (fun db => ((db factoryInvoices).find? 1).isSome &&
      affected (db invoiceExceptions) 1 == 100) (by decide +kernel)
  simp only [Bool.and_eq_true, Option.isSome_iff_exists, beq_iff_eq] at recorded
  obtain ⟨⟨invoice, found⟩, once⟩ := recorded
  have room : LeavesRoomFor invoicedDatabase (.command (invalidates 1 1)) := by
    constructor
    · intro command body other
      cases other
    · intro command body _ id exception known
      cases known
  have ruled : Run (fun db event db' => Step noProcurement db event db' ∧ LeavesRoomFor db event)
      invoicedDatabase [.command (invalidates 1 1)] db := by
    cases run with
    | next first done =>
        cases done
        exact Run.single ⟨first, room⟩
  exact ⟨db, invoice, ruled, found, once,
    no_over_remediation invoicedDatabase_opens ruled found⟩

/-! ## The status of payment requests -/

/-- A verification allocates only to requests on which nothing was paid and
whose status says nothing beyond their coverage. -/
def AllocatesOnlyUnpaid (db : Database) (event : Event) : Prop :=
  ∀ command body, event = .command ⟨command, .financeCommand (.verifyInvoice body)⟩ →
    ∀ requestId ∈ reachedBy db body, Unpaid (booksOf db) requestId

theorem allocatesUnpaid_since {start mid : Books} {entry : Entry} (since : Since start mid entry)
    (unpaid : AllocatesUnpaid start entry) : AllocatesUnpaid mid entry := by
  cases entry with
  | allocate requestId =>
      obtain ⟨records, request⟩ := since
      rw [AllocatesUnpaid, Unpaid, records, request]
      exact unpaid
  | _ => trivial

theorem allocatesUnpaid_concerns (unpaid : AllocatesOnlyUnpaid db event) {entry : Entry}
    (concerns : Concerns db event entry) : AllocatesUnpaid (booksOf db) entry := by
  cases entry with
  | allocate requestId =>
      obtain ⟨command, body, verifies, member⟩ := concerns
      exact unpaid command body verifies requestId member
  | _ => trivial

theorem OpeningLedger.truthful (opens : OpeningLedger opening)
    (positive : ∀ id request, (opening factoryPaymentRequests).find? id = some request →
      0 < request.totalAmountMinor) : Truthful (booksOf opening) where
  positive := positive
  agrees := by
    intro id row found
    have total := positive id row found
    have none : payable (booksOf opening).records id = 0 := weigh_of_none opens.records _
    rw [none]
    exact ⟨fun equal => absurd equal (by omega), fun both => absurd both.1 (by omega)⟩
  untouched := by
    intro id row _ _
    refine ⟨fun key record found => ?_, fun key allocation found => ?_⟩
    · simp [booksOf, opens.records] at found
    · simp [booksOf, opens.allocations] at found

/-- A verification that allocates to unpaid requests only erases no status. -/
theorem verification_erases_nothing {command : CommandContext} {body : VerifyInvoice}
    (sound : Sound (booksOf db))
    (step : Step effects db (.command ⟨command, .financeCommand (.verifyInvoice body)⟩) db')
    (unpaid : AllocatesOnlyUnpaid db
      (.command ⟨command, .financeCommand (.verifyInvoice body)⟩)) :
    NothingErased (booksOf db) (booksOf db') := by
  cases step with
  | command committed =>
      obtain ⟨sent, mid, returns, enqueued⟩ := execute_ok committed
      have books : booksOf db' = booksOf mid := by simp [booksOf, enqueueOutbox_kept enqueued]
      obtain ⟨entries, posts, listed⟩ := verifyInvoice_posts sound returns
      have run := posts.obeys (fun b entry => AllocatesUnpaid b entry ∧ ofVerification entry)
        (fun _ since obeyed => ⟨allocatesUnpaid_since since obeyed.1, obeyed.2⟩) (by
          intro entry member
          rcases listed entry member with rfl | ⟨id, inside, rfl⟩
          · exact ⟨trivial, trivial⟩
          · exact ⟨unpaid command body rfl id inside, trivial⟩)
      rw [books]
      exact run.relates NothingErased.refl (fun first second => first.trans second)
        fun posted => posted.1.nothingErased posted.2.1 posted.2.2

/-- The steps after `start` keep the statuses truthful and given-up requests
given up. -/
theorem truthful_along {start : Books}
    (run : Run (fun db event db' => Step effects db event db' ∧ AllocatesOnlyUnpaid db event)
      opening events db)
    (holds : Sound (booksOf opening) ∧ Truthful (booksOf opening) ∧
      GivenUpKept start (booksOf opening)) :
    Sound (booksOf db) ∧ Truthful (booksOf db) ∧ GivenUpKept start (booksOf db) := by
  refine run.preserves (fun db => Sound (booksOf db) ∧ Truthful (booksOf db) ∧
    GivenUpKept start (booksOf db)) ?_ holds
  intro a label b step both
  refine step_preserves (fun b => Truthful b ∧ GivenUpKept start b) AllocatesUnpaid
    allocatesUnpaid_since ?_ step.1 (fun _ => allocatesUnpaid_concerns step.2) both
  intro b b' entry posted unpaid _ ⟨truthful, kept⟩
  exact ⟨posted.truthful unpaid truthful, kept.trans (posted.givenUpKept unpaid truthful)⟩

theorem status_agrees_with_ledger (opens : OpeningLedger opening)
    (positive : ∀ id request, (opening factoryPaymentRequests).find? id = some request →
      0 < request.totalAmountMinor)
    (before : Run (fun db event db' => Step effects db event db' ∧ AllocatesOnlyUnpaid db event)
      opening events mid)
    (after : Run (fun db event db' => Step effects db event db' ∧ AllocatesOnlyUnpaid db event)
      mid later db) :
    (∀ id request, (mid factoryPaymentRequests).find? id = some request →
      (payable (mid paymentRecords) id = request.totalAmountMinor →
        asksForPayment request.status = false) ∧
      (0 < payable (mid paymentRecords) id ∧
          payable (mid paymentRecords) id < request.totalAmountMinor →
        request.status ≠ .generated ∧ request.status ≠ .waitingInvoice)) ∧
    (∀ id request, (mid factoryPaymentRequests).find? id = some request →
      givenUp request.status = true →
        ∃ row, (db factoryPaymentRequests).find? id = some row ∧ row.status = request.status) ∧
    ∀ command body db',
      Step effects mid (.command ⟨command, .financeCommand (.verifyInvoice body)⟩) db' →
      AllocatesOnlyUnpaid mid (.command ⟨command, .financeCommand (.verifyInvoice body)⟩) →
        ∀ id request, (mid factoryPaymentRequests).find? id = some request →
          beyondCoverage request.status = true →
            ∃ row, (db' factoryPaymentRequests).find? id = some row ∧
              row.status = request.status := by
  obtain ⟨sound, truthful, -⟩ := truthful_along before
    ⟨opens.sound, opens.truthful positive, GivenUpKept.refl _⟩
  obtain ⟨-, -, kept⟩ := truthful_along after ⟨sound, truthful, GivenUpKept.refl _⟩
  refine ⟨truthful.agrees, kept, ?_⟩
  intro command body db' step unpaid
  exact verification_erases_nothing sound step unpaid

/-- A request that was paid in full asks for payment again once a new invoice
is verified after the invalidation of its first one. -/
theorem status_erased :
    OpeningLedger orderedDatabase ∧
      (∀ id request, (orderedDatabase factoryPaymentRequests).find? id = some request →
        0 < request.totalAmountMinor) ∧
      ∃ db request, Run (Step noProcurement) orderedDatabase ((paidThenInvalidated ++
          [registers 6 "R", approves 7 1 2 .supplyChain, approves 8 2 2 .finance]).map .command) db ∧
        (db factoryPaymentRequests).find? 1 = some request ∧
        payable (db paymentRecords) 1 = request.totalAmountMinor ∧
        request.status = .generated := by
  refine ⟨orderedDatabase_opens, fun id request found => ?_, ?_⟩
  · obtain rfl := Table.find?_single found
    decide
  obtain ⟨db, run, erased⟩ := replay_reaches noProcurement (paidThenInvalidated ++
      [registers 6 "R", approves 7 1 2 .supplyChain, approves 8 2 2 .finance]) orderedDatabase
    (fun db => ((db factoryPaymentRequests).find? 1).any fun request =>
      payable (db paymentRecords) 1 == request.totalAmountMinor && request.status == .generated)
    (by decide +kernel)
  obtain ⟨request, found, shown⟩ := (Option.any_eq_true _ _).mp erased
  simp only [Bool.and_eq_true, beq_iff_eq] at shown
  exact ⟨db, request, run, found, shown⟩

theorem status_agrees_with_ledger_verified :
    ∃ db, Run (fun db event db' => Step noProcurement db event db' ∧ AllocatesOnlyUnpaid db event)
        invoicedDatabase [.command (approves 1 2 1 .finance)] db ∧
      coverage (db invoicePaymentAllocations) 1 = 100 ∧
      ∀ id request, (db factoryPaymentRequests).find? id = some request →
        (payable (db paymentRecords) id = request.totalAmountMinor →
          asksForPayment request.status = false) ∧
        (0 < payable (db paymentRecords) id ∧
            payable (db paymentRecords) id < request.totalAmountMinor →
          request.status ≠ .generated ∧ request.status ≠ .waitingInvoice) := by
  obtain ⟨db, run, covered⟩ := replay_reaches noProcurement [approves 1 2 1 .finance]
    invoicedDatabase (fun db => coverage (db invoicePaymentAllocations) 1 == 100) (by decide +kernel)
  have unpaid : AllocatesOnlyUnpaid invoicedDatabase (.command (approves 1 2 1 .finance)) := by
    intro command body verifies requestId _ row found
    obtain rfl := Table.find?_single found
    exact ⟨rfl, by decide, by decide, rfl⟩
  have ruled : Run (fun db event db' => Step noProcurement db event db' ∧
      AllocatesOnlyUnpaid db event) invoicedDatabase [.command (approves 1 2 1 .finance)] db := by
    cases run with
    | next first done =>
        cases done
        exact Run.single ⟨first, unpaid⟩
  refine ⟨db, ruled, by simpa using covered, ?_⟩
  refine (status_agrees_with_ledger invoicedDatabase_opens ?_ ruled Run.done).1
  intro id request found
  obtain rfl := Table.find?_single found
  decide

end SupplyChain.Finance
