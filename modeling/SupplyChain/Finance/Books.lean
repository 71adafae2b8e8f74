import SupplyChain.Finance.Outcomes
import SupplyChain.ApprovalEffects.Outcomes
import SupplyChain.Relational.Runs

/-!
The books of the finance side and the entries that may be posted to them. An
entry says what a writer may do to the six tables of the books and on which
facts it rests; every finance command posts a list of entries, and every
invariant of the books is shown entry by entry.
-/

namespace SupplyChain.Finance

open Relational

structure Books where
  invoices : Table FactoryInvoice
  allocations : Table InvoicePaymentAllocation
  requests : Table FactoryPaymentRequest
  exceptions : Table InvoiceException
  links : Table ReplacementInvoiceLink
  records : Table PaymentRecord

def booksOf (db : Database) : Books where
  invoices := db .factoryInvoices
  allocations := db .invoicePaymentAllocations
  requests := db .factoryPaymentRequests
  exceptions := db .invoiceExceptions
  links := db .replacementInvoiceLinks
  records := db .paymentRecords

/-! ## Sums of the books -/

/-- The active allocations of a payment request. -/
def coverage (allocations : Table InvoicePaymentAllocation) (requestId : Nat) : Int :=
  allocations.weigh fun _ row =>
    if row.paymentRequestId = requestId ∧ row.status = .active then row.allocatedAmountMinor else 0

/-- The allocations of an invoice, of any status. -/
def allocatedFrom (allocations : Table InvoicePaymentAllocation) (invoiceId : Nat) : Int :=
  allocations.weigh fun _ row => if row.invoiceId = invoiceId then row.allocatedAmountMinor else 0

/-- The replacement links of an exception. -/
def replaced (links : Table ReplacementInvoiceLink) (exceptionId : Nat) : Int :=
  links.weigh fun _ row => if row.invoiceExceptionId = exceptionId then row.coveredAmountMinor else 0

/-- The replacement links to an invoice, over all exceptions. -/
def replacedBy (links : Table ReplacementInvoiceLink) (invoiceId : Nat) : Int :=
  links.weigh fun _ row => if row.replacementInvoiceId = invoiceId then row.coveredAmountMinor else 0

/-- The exceptions of an invoice. -/
def affected (exceptions : Table InvoiceException) (invoiceId : Nat) : Int :=
  exceptions.weigh fun _ row => if row.invoiceId = invoiceId then row.affectedAmountMinor else 0

/-! ## Entries -/

/-- The kinds of entries, with the keys that later statements speak about. -/
inductive Entry
  | register
  | decide
  | allocate (requestId : Nat)
  | freeze
  | invalidate (invoiceId : Nat)
  | link (replacementInvoiceId : Nat) (amount : Int)
  | pay
  | refund
  | watch
  | correct

/-- An entry on one payment request leaves the total of every request and the
other requests as they are. -/
def OnRequest (requestId : Nat) (here : FactoryPaymentRequest → FactoryPaymentRequest → Prop)
    (id : Nat) (old row : FactoryPaymentRequest) : Prop :=
  row.totalAmountMinor = old.totalAmountMinor ∧ (id = requestId → here old row) ∧
    (id ≠ requestId → row = old)

/-- An entry on one exception leaves what every exception is about and the
other exceptions as they are. -/
def OnException (exceptionId : Nat) (here : InvoiceException → InvoiceException → Prop)
    (id : Nat) (old row : InvoiceException) : Prop :=
  row.invoiceId = old.invoiceId ∧ row.affectedAmountMinor = old.affectedAmountMinor ∧
    (id = exceptionId → here old row) ∧ (id ≠ exceptionId → row = old)

/-- The status that the remedied sum asks for: resolved when it is the whole
affected amount. -/
def settled (row : InvoiceException) : Prop :=
  row.status = .resolved ↔
    row.replacementCoveredAmountMinor + row.refundedAmountMinor = row.affectedAmountMinor

inductive Posted : Books → Entry → Books → Prop
  | register {b : Books} {invoice : FactoryInvoice}
      (positive : 1 ≤ invoice.amountTaxIncludedMinor) (received : invoice.status = .received) :
      Posted b .register { b with invoices := b.invoices.insert invoice }
  | decide {b : Books} {invoiceId : Nat} {invoice : FactoryInvoice} {status : InvoiceStatus}
      (found : b.invoices.find? invoiceId = some invoice) (received : invoice.status = .received)
      (decided : status ≠ .received) :
      Posted b .decide
        { b with invoices := b.invoices.modify invoiceId fun row => { row with status } }
  | allocate {b : Books} {invoiceId requestId : Nat} {invoice : FactoryInvoice}
      {request : FactoryPaymentRequest} {amount : Int} {requests : Table FactoryPaymentRequest}
      (foundInvoice : b.invoices.find? invoiceId = some invoice)
      (decided : invoice.status ≠ .received)
      (foundRequest : b.requests.find? requestId = some request)
      (positive : 0 < amount)
      (outstanding : request.invoiceCoveredAmountMinor + amount ≤ request.totalAmountMinor)
      (within : allocatedFrom b.allocations invoiceId + amount ≤ invoice.amountTaxIncludedMinor)
      (revised : Table.Revises (OnRequest requestId fun old row =>
        row.invoiceCoveredAmountMinor = old.invoiceCoveredAmountMinor + amount ∧
        row.status = if old.totalAmountMinor ≤ old.invoiceCoveredAmountMinor + amount
          then .generated else .waitingInvoice) b.requests requests) :
      Posted b (.allocate requestId)
        { b with
          allocations := b.allocations.insert ⟨invoiceId, requestId, amount, .active⟩, requests }
  | freeze {b : Books} {allocationId : Nat} {allocation : InvoicePaymentAllocation}
      {requests : Table FactoryPaymentRequest}
      (found : b.allocations.find? allocationId = some allocation)
      (active : allocation.status = .active)
      (revised : Table.Revises (OnRequest allocation.paymentRequestId fun old row =>
        row.invoiceCoveredAmountMinor =
          max 0 (old.invoiceCoveredAmountMinor - allocation.allocatedAmountMinor) ∧
        row.status = .invoiceExceptionFrozen) b.requests requests) :
      Posted b .freeze
        { b with
          allocations := b.allocations.modify allocationId fun row => { row with status := .frozen }
          requests }
  | invalidate {b : Books} {invoice : FactoryInvoice} {exception : InvoiceException}
      (found : b.invoices.find? exception.invoiceId = some invoice)
      (whole : exception.affectedAmountMinor = invoice.amountTaxIncludedMinor)
      (unreplaced : exception.replacementCoveredAmountMinor = 0)
      (unrefunded : exception.refundedAmountMinor = 0)
      (unresolved : exception.status = .awaitingRemediation) :
      Posted b (.invalidate exception.invoiceId)
        { b with
          invoices := b.invoices.modify exception.invoiceId fun row =>
            { row with status := .invalidated }
          exceptions := b.exceptions.insert exception }
  | link {b : Books} {link : ReplacementInvoiceLink} {exception : InvoiceException}
      {replacement : FactoryInvoice} {exceptions : Table InvoiceException}
      (foundException : b.exceptions.find? link.invoiceExceptionId = some exception)
      (foundInvoice : b.invoices.find? link.replacementInvoiceId = some replacement)
      (positive : 1 ≤ link.coveredAmountMinor)
      (bounded : exception.replacementCoveredAmountMinor + exception.refundedAmountMinor +
        link.coveredAmountMinor ≤ exception.affectedAmountMinor)
      (revised : Table.Revises (OnException link.invoiceExceptionId fun old row =>
        row.replacementCoveredAmountMinor =
          old.replacementCoveredAmountMinor + link.coveredAmountMinor ∧
        row.refundedAmountMinor = old.refundedAmountMinor ∧ settled row)
        b.exceptions exceptions) :
      Posted b (.link link.replacementInvoiceId link.coveredAmountMinor)
        { b with links := b.links.insert link, exceptions }
  | pay {b : Books} {record : PaymentRecord} {request : FactoryPaymentRequest}
      {requests : Table FactoryPaymentRequest}
      (found : b.requests.find? record.paymentRequestId = some request)
      (payableStatus : PaymentRequestStatus.payable request.status = true)
      (kind : record.recordType = .payment) (unlinked : record.invoiceExceptionId = none)
      (original : record.reversesPaymentRecordId = none ∧ record.correctsPaymentRecordId = none)
      (positive : 1 ≤ record.amountMinor)
      (nonneg : 0 ≤ payable b.records record.paymentRequestId)
      (bounded : payable b.records record.paymentRequestId + record.amountMinor ≤
        request.totalAmountMinor)
      (revised : Table.Revises (OnRequest record.paymentRequestId fun old row =>
        row.invoiceCoveredAmountMinor = old.invoiceCoveredAmountMinor ∧
        row.status =
          if payable b.records record.paymentRequestId + record.amountMinor = old.totalAmountMinor
          then .paid else .partiallyPaid) b.requests requests) :
      Posted b .pay { b with records := b.records.insert record, requests }
  | refund {b : Books} {record : PaymentRecord} {exceptionId : Nat} {exception : InvoiceException}
      {exceptions : Table InvoiceException}
      (found : b.exceptions.find? exceptionId = some exception)
      (kind : record.recordType = .refund) (linked : record.invoiceExceptionId = some exceptionId)
      (original : record.reversesPaymentRecordId = none ∧ record.correctsPaymentRecordId = none)
      (positive : 1 ≤ record.amountMinor)
      (paid : ∃ request, b.requests.find? record.paymentRequestId = some request ∧
        (request.status = .paid ∨ request.status = .partiallyPaid))
      (bounded : exception.replacementCoveredAmountMinor + exception.refundedAmountMinor +
        record.amountMinor ≤ exception.affectedAmountMinor)
      (revised : Table.Revises (OnException exceptionId fun old row =>
        row.replacementCoveredAmountMinor = old.replacementCoveredAmountMinor ∧
        row.refundedAmountMinor = old.refundedAmountMinor + record.amountMinor ∧ settled row)
        b.exceptions exceptions) :
      Posted b .refund { b with records := b.records.insert record, exceptions }
  | watch {b : Books} {exceptionId : Nat} {exceptions : Table InvoiceException}
      (revised : Table.Revises (OnException exceptionId fun old row =>
        row.replacementCoveredAmountMinor = old.replacementCoveredAmountMinor ∧
        row.refundedAmountMinor = old.refundedAmountMinor ∧
        (row.status = .resolved ↔ old.status = .resolved)) b.exceptions exceptions) :
      Posted b .watch { b with exceptions }
  | correct {b : Books} {originalId : Nat} {original reversal correction : PaymentRecord}
      {requests : Table FactoryPaymentRequest} {exceptions : Table InvoiceException}
      (found : b.records.find? originalId = some original)
      (correctable : original.recordType = .payment ∨ original.recordType = .refund)
      (uncorrected : ∀ id row, b.records.find? id = some row →
        row.reversesPaymentRecordId ≠ some originalId ∧
          row.correctsPaymentRecordId ≠ some originalId)
      (reverses : reversal.recordType = .reversal ∧
        reversal.reversesPaymentRecordId = some originalId ∧
        reversal.correctsPaymentRecordId = none ∧ reversal.amountMinor = -original.amountMinor ∧
        reversal.paymentRequestId = original.paymentRequestId ∧
        reversal.invoiceExceptionId = original.invoiceExceptionId)
      (corrects : correction.recordType = .correction ∧
        correction.reversesPaymentRecordId = none ∧
        correction.correctsPaymentRecordId = some originalId ∧ 1 ≤ correction.amountMinor ∧
        correction.invoiceExceptionId = original.invoiceExceptionId)
      (known : ∀ id, id = original.paymentRequestId ∨ id = correction.paymentRequestId →
        ∃ request, b.requests.find? id = some request)
      (accepted : original.recordType = .payment → ∀ request,
        b.requests.find? correction.paymentRequestId = some request →
          ApprovalEffects.requestPayable request = true)
      (allocated : original.recordType = .refund →
        ∃ id allocation, b.allocations.find? id = some allocation ∧
          allocation.paymentRequestId = correction.paymentRequestId)
      (projected : Table.Revises (ApprovalEffects.ProjectsAll
        ((b.records.insert reversal).insert correction)
        [original.paymentRequestId, correction.paymentRequestId]) b.requests requests)
      (remedied : (original.recordType = .payment ∧ exceptions = b.exceptions) ∨
        ∃ exceptionId, original.invoiceExceptionId = some exceptionId ∧
          Table.Revises (OnException exceptionId fun old row =>
            row.replacementCoveredAmountMinor = old.replacementCoveredAmountMinor ∧
            row.refundedAmountMinor =
              refunded ((b.records.insert reversal).insert correction) exceptionId ∧
            0 ≤ row.refundedAmountMinor ∧
            row.replacementCoveredAmountMinor + row.refundedAmountMinor ≤
              row.affectedAmountMinor ∧ settled row) b.exceptions exceptions) :
      Posted b .correct
        { b with records := (b.records.insert reversal).insert correction, requests, exceptions }

/-! ## What every entry keeps -/

/-- An invoice keeps its amount, and once decided it stays decided. -/
def InvoiceKept (_ : Nat) (old row : FactoryInvoice) : Prop :=
  row.amountTaxIncludedMinor = old.amountTaxIncludedMinor ∧
    (old.status ≠ .received → row.status ≠ .received)

def AllocationKept (_ : Nat) (old row : InvoicePaymentAllocation) : Prop :=
  row.invoiceId = old.invoiceId ∧ row.paymentRequestId = old.paymentRequestId ∧
    row.allocatedAmountMinor = old.allocatedAmountMinor

def ExceptionKept (_ : Nat) (old row : InvoiceException) : Prop :=
  row.invoiceId = old.invoiceId ∧ row.affectedAmountMinor = old.affectedAmountMinor

/-- No entry deletes a row or changes what the row is about. -/
structure Kept (b b' : Books) : Prop where
  invoices : Table.Evolves InvoiceKept b.invoices b'.invoices
  allocations : Table.Evolves AllocationKept b.allocations b'.allocations
  exceptions : Table.Evolves ExceptionKept b.exceptions b'.exceptions

theorem OnException.kept {exceptionId : Nat} {here : InvoiceException → InvoiceException → Prop}
    {exceptions exceptions' : Table InvoiceException}
    (revised : Table.Revises (OnException exceptionId here) exceptions exceptions') :
    Table.Evolves ExceptionKept exceptions exceptions' :=
  (revised.imp fun _ _ _ _ law => ⟨law.1, law.2.1⟩).evolves

theorem invoiceKept_refl (id : Nat) (row : FactoryInvoice) : InvoiceKept id row row :=
  ⟨rfl, fun decided => decided⟩

theorem allocationKept_refl (id : Nat) (row : InvoicePaymentAllocation) :
    AllocationKept id row row :=
  ⟨rfl, rfl, rfl⟩

theorem exceptionKept_refl (id : Nat) (row : InvoiceException) : ExceptionKept id row row :=
  ⟨rfl, rfl⟩

theorem Posted.kept {b b' : Books} {entry : Entry} (posted : Posted b entry b') : Kept b b' := by
  have invoices : Table.Evolves InvoiceKept b.invoices b.invoices :=
    Table.Evolves.refl invoiceKept_refl
  have allocations : Table.Evolves AllocationKept b.allocations b.allocations :=
    Table.Evolves.refl allocationKept_refl
  have exceptions : Table.Evolves ExceptionKept b.exceptions b.exceptions :=
    Table.Evolves.refl exceptionKept_refl
  cases posted with
  | register => exact ⟨Table.evolves_insert invoiceKept_refl _, allocations, exceptions⟩
  | decide found received decided =>
      refine ⟨?_, allocations, exceptions⟩
      dsimp only
      refine Table.evolves_modify invoiceKept_refl ?_
      exact fun old _ => ⟨rfl, fun _ => decided⟩
  | allocate => exact ⟨invoices, Table.evolves_insert allocationKept_refl _, exceptions⟩
  | freeze =>
      refine ⟨invoices, ?_, exceptions⟩
      dsimp only
      refine Table.evolves_modify allocationKept_refl ?_
      exact fun old _ => ⟨rfl, rfl, rfl⟩
  | invalidate =>
      refine ⟨?_, allocations, Table.evolves_insert exceptionKept_refl _⟩
      dsimp only
      refine Table.evolves_modify invoiceKept_refl ?_
      exact fun old _ => ⟨rfl, fun _ => by simp⟩
  | link _ _ _ _ revised => exact ⟨invoices, allocations, OnException.kept revised⟩
  | pay => exact ⟨invoices, allocations, exceptions⟩
  | refund _ _ _ _ _ _ _ revised => exact ⟨invoices, allocations, OnException.kept revised⟩
  | watch revised => exact ⟨invoices, allocations, OnException.kept revised⟩
  | correct _ _ _ _ _ _ _ _ _ remedied =>
      rcases remedied with ⟨-, rfl⟩ | ⟨exceptionId, -, revised⟩
      · exact ⟨invoices, allocations, exceptions⟩
      · exact ⟨invoices, allocations, OnException.kept revised⟩

/-! ## Sound books -/

/-- The references of the books lead somewhere, amounts are positive, and an
invoice that is not decided has no allocation. -/
structure Sound (b : Books) : Prop where
  invoice : ∀ id row, b.invoices.find? id = some row → 1 ≤ row.amountTaxIncludedMinor
  allocation : ∀ id row, b.allocations.find? id = some row → 0 < row.allocatedAmountMinor ∧
    ∃ invoice, b.invoices.find? row.invoiceId = some invoice ∧ invoice.status ≠ .received
  exception : ∀ id row, b.exceptions.find? id = some row →
    ∃ invoice, b.invoices.find? row.invoiceId = some invoice
  linkException : ∀ id row, b.links.find? id = some row →
    ∃ exception, b.exceptions.find? row.invoiceExceptionId = some exception
  linkInvoice : ∀ id row, b.links.find? id = some row →
    ∃ invoice, b.invoices.find? row.replacementInvoiceId = some invoice
  recordException : ∀ id row exceptionId, b.records.find? id = some row →
    row.invoiceExceptionId = some exceptionId →
    ∃ exception, b.exceptions.find? exceptionId = some exception
  payment : ∀ id row, b.records.find? id = some row → row.recordType = .payment →
    row.invoiceExceptionId = none

theorem Kept.invoice {b b' : Books} (kept : Kept b b') {id : Nat}
    (known : ∃ row, b.invoices.find? id = some row) : ∃ row, b'.invoices.find? id = some row := by
  obtain ⟨old, found⟩ := known
  obtain ⟨row, found', -⟩ := kept.invoices.kept id old found
  exact ⟨row, found'⟩

theorem Kept.decided {b b' : Books} (kept : Kept b b') {id : Nat}
    (known : ∃ row, b.invoices.find? id = some row ∧ row.status ≠ .received) :
    ∃ row, b'.invoices.find? id = some row ∧ row.status ≠ .received := by
  obtain ⟨old, found, decided⟩ := known
  obtain ⟨row, found', law⟩ := kept.invoices.kept id old found
  exact ⟨row, found', law.2 decided⟩

theorem Kept.exception {b b' : Books} (kept : Kept b b') {id : Nat}
    (known : ∃ row, b.exceptions.find? id = some row) :
    ∃ row, b'.exceptions.find? id = some row := by
  obtain ⟨old, found⟩ := known
  obtain ⟨row, found', -⟩ := kept.exceptions.kept id old found
  exact ⟨row, found'⟩

/-- The invoices of an exception stay known when the exceptions are revised. -/
theorem OnException.known {exceptionId : Nat} {here : InvoiceException → InvoiceException → Prop}
    {exceptions exceptions' : Table InvoiceException} {invoices : Table FactoryInvoice}
    (revised : Table.Revises (OnException exceptionId here) exceptions exceptions')
    (known : ∀ id row, exceptions.find? id = some row →
      ∃ invoice, invoices.find? row.invoiceId = some invoice) :
    ∀ id row, exceptions'.find? id = some row →
      ∃ invoice, invoices.find? row.invoiceId = some invoice := by
  intro id row found
  obtain ⟨old, before, law⟩ := revised.backward found
  rw [law.1]
  exact known id old before

theorem Posted.sound {b b' : Books} {entry : Entry} (posted : Posted b entry b') (sound : Sound b) :
    Sound b' := by
  have kept := posted.kept
  cases posted with
  | @register invoice positive received =>
      exact { sound with
        invoice := by
          intro id row found
          rcases Table.find?_insert_cases found with ⟨-, rfl⟩ | old
          · exact positive
          · exact sound.invoice id row old
        allocation := fun id row found =>
          ⟨(sound.allocation id row found).1, kept.decided (sound.allocation id row found).2⟩
        exception := fun id row found => kept.invoice (sound.exception id row found)
        linkInvoice := fun id row found => kept.invoice (sound.linkInvoice id row found) }
  | decide found received decided =>
      exact { sound with
        invoice := by
          intro id row found
          rcases Table.find?_modify_cases found with ⟨-, old, before, rfl⟩ | ⟨-, before⟩
          · exact sound.invoice _ old before
          · exact sound.invoice id row before
        allocation := fun id row found =>
          ⟨(sound.allocation id row found).1, kept.decided (sound.allocation id row found).2⟩
        exception := fun id row found => kept.invoice (sound.exception id row found)
        linkInvoice := fun id row found => kept.invoice (sound.linkInvoice id row found) }
  | allocate foundInvoice decided foundRequest positive outstanding within revised =>
      exact { sound with
        allocation := by
          intro id row found
          rcases Table.find?_insert_cases found with ⟨-, rfl⟩ | old
          · exact ⟨positive, _, foundInvoice, decided⟩
          · exact sound.allocation id row old }
  | freeze found active revised =>
      exact { sound with
        allocation := by
          intro id row found
          rcases Table.find?_modify_cases found with ⟨-, old, before, rfl⟩ | ⟨-, before⟩
          · exact sound.allocation _ old before
          · exact sound.allocation id row before }
  | @invalidate invoice exception found =>
      exact
        { sound with
          invoice := by
            intro id row found
            rcases Table.find?_modify_cases found with ⟨-, old, before, rfl⟩ | ⟨-, before⟩
            · exact sound.invoice _ old before
            · exact sound.invoice id row before
          allocation := fun id row found =>
            ⟨(sound.allocation id row found).1, kept.decided (sound.allocation id row found).2⟩
          exception := by
            intro id row foundException
            rcases Table.find?_insert_cases foundException with ⟨-, rfl⟩ | old
            · exact kept.invoice ⟨_, found⟩
            · exact kept.invoice (sound.exception id row old)
          linkException := fun id row found => kept.exception (sound.linkException id row found)
          linkInvoice := fun id row found => kept.invoice (sound.linkInvoice id row found)
          recordException := fun id row exceptionId found linked =>
            kept.exception (sound.recordException id row exceptionId found linked) }
  | link foundException foundInvoice positive bounded revised =>
      exact { sound with
        exception := OnException.known revised sound.exception
        linkException := by
          intro id row found
          rcases Table.find?_insert_cases found with ⟨-, rfl⟩ | old
          · exact kept.exception ⟨_, foundException⟩
          · exact kept.exception (sound.linkException id row old)
        linkInvoice := by
          intro id row found
          rcases Table.find?_insert_cases found with ⟨-, rfl⟩ | old
          · exact ⟨_, foundInvoice⟩
          · exact sound.linkInvoice id row old
        recordException := fun id row exceptionId found linked =>
          kept.exception (sound.recordException id row exceptionId found linked) }
  | pay found payableStatus kind unlinked =>
      exact { sound with
        recordException := by
          intro id row exceptionId foundRecord linked
          rcases Table.find?_insert_cases foundRecord with ⟨-, rfl⟩ | old
          · rw [unlinked] at linked
            cases linked
          · exact sound.recordException id row exceptionId old linked
        payment := by
          intro id row foundRecord isPayment
          rcases Table.find?_insert_cases foundRecord with ⟨-, rfl⟩ | old
          · exact unlinked
          · exact sound.payment id row old isPayment }
  | refund found kind linked original positive paid bounded revised =>
      exact { sound with
        exception := OnException.known revised sound.exception
        linkException := fun id row found => kept.exception (sound.linkException id row found)
        recordException := by
          intro id row exceptionId foundRecord link
          rcases Table.find?_insert_cases foundRecord with ⟨-, rfl⟩ | old
          · rw [linked] at link
            cases link
            exact kept.exception ⟨_, found⟩
          · exact kept.exception (sound.recordException id row exceptionId old link)
        payment := by
          intro id row foundRecord isPayment
          rcases Table.find?_insert_cases foundRecord with ⟨-, rfl⟩ | old
          · rw [kind] at isPayment
            cases isPayment
          · exact sound.payment id row old isPayment }
  | watch revised =>
      exact { sound with
        exception := OnException.known revised sound.exception
        linkException := fun id row found => kept.exception (sound.linkException id row found)
        recordException := fun id row exceptionId found linked =>
          kept.exception (sound.recordException id row exceptionId found linked) }
  | correct found correctable uncorrected reverses corrects known accepted allocated projected
      remedied =>
      exact { sound with
        exception := by
          rcases remedied with ⟨-, rfl⟩ | ⟨exceptionId, -, revised⟩
          · exact sound.exception
          · exact OnException.known revised sound.exception
        linkException := fun id row found => kept.exception (sound.linkException id row found)
        recordException := by
          intro id row exceptionId foundRecord linked
          refine kept.exception ?_
          rcases Table.find?_insert_cases foundRecord with ⟨-, rfl⟩ | old
          · rw [corrects.2.2.2.2] at linked
            exact sound.recordException _ _ exceptionId found linked
          · rcases Table.find?_insert_cases old with ⟨-, rfl⟩ | older
            · rw [reverses.2.2.2.2.2] at linked
              exact sound.recordException _ _ exceptionId found linked
            · exact sound.recordException id row exceptionId older linked
        payment := by
          intro id row foundRecord isPayment
          rcases Table.find?_insert_cases foundRecord with ⟨-, rfl⟩ | old
          · rw [corrects.1] at isPayment
            cases isPayment
          · rcases Table.find?_insert_cases old with ⟨-, rfl⟩ | older
            · rw [reverses.1] at isPayment
              cases isPayment
            · exact sound.payment id row older isPayment }

end SupplyChain.Finance
