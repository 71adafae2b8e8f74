import SupplyChain.Finance.Books

/-!
The invoice side of the books: the coverage counter of a payment request is the
sum of its active allocations, the counters of an exception are the sums of its
refunds and replacement links, and what is recorded for an invoice stays within
its amount as long as links and invalidations leave room for it.
-/

namespace SupplyChain.Finance

open Relational

/-! ## Coverage -/

structure Covered (b : Books) : Prop where
  counter : ∀ id row, b.requests.find? id = some row →
    row.invoiceCoveredAmountMinor = coverage b.allocations id ∧
      row.invoiceCoveredAmountMinor ≤ row.totalAmountMinor
  invoice : ∀ id invoice, b.invoices.find? id = some invoice →
    allocatedFrom b.allocations id ≤ invoice.amountTaxIncludedMinor

theorem coverage_insert (allocations : Table InvoicePaymentAllocation)
    (row : InvoicePaymentAllocation) (requestId : Nat) :
    coverage (allocations.insert row) requestId = coverage allocations requestId +
      if row.paymentRequestId = requestId ∧ row.status = .active
      then row.allocatedAmountMinor else 0 :=
  Table.weigh_insert allocations row _

theorem allocatedFrom_insert (allocations : Table InvoicePaymentAllocation)
    (row : InvoicePaymentAllocation) (invoiceId : Nat) :
    allocatedFrom (allocations.insert row) invoiceId = allocatedFrom allocations invoiceId +
      if row.invoiceId = invoiceId then row.allocatedAmountMinor else 0 :=
  Table.weigh_insert allocations row _

theorem coverage_freeze {allocations : Table InvoicePaymentAllocation} {key : Nat}
    {allocation : InvoicePaymentAllocation} (found : allocations.find? key = some allocation)
    (active : allocation.status = .active) (requestId : Nat) :
    coverage (allocations.modify key fun row => { row with status := .frozen }) requestId =
      coverage allocations requestId -
        if allocation.paymentRequestId = requestId then allocation.allocatedAmountMinor else 0 := by
  unfold coverage
  rw [Table.weigh_modify found]
  simp [active]
  omega

theorem allocatedFrom_freeze {allocations : Table InvoicePaymentAllocation} {key : Nat}
    {allocation : InvoicePaymentAllocation} (found : allocations.find? key = some allocation)
    (invoiceId : Nat) :
    allocatedFrom (allocations.modify key fun row => { row with status := .frozen }) invoiceId =
      allocatedFrom allocations invoiceId := by
  unfold allocatedFrom
  rw [Table.weigh_modify found]
  simp

/-- An active allocation is part of the coverage of its request. -/
theorem allocation_le_coverage {b : Books} (sound : Sound b) {key : Nat}
    {allocation : InvoicePaymentAllocation} (found : b.allocations.find? key = some allocation)
    (active : allocation.status = .active) :
    allocation.allocatedAmountMinor ≤ coverage b.allocations allocation.paymentRequestId := by
  have nonneg : ∀ id row, b.allocations.find? id = some row →
      0 ≤ if row.paymentRequestId = allocation.paymentRequestId ∧ row.status = .active
        then row.allocatedAmountMinor else 0 := by
    intro id row present
    have positive := (sound.allocation id row present).1
    split <;> omega
  simpa [active, coverage] using Table.weight_le_weigh _ found nonneg

/-- The allocations of an invoice that is not registered yet. -/
theorem allocatedFrom_fresh {b : Books} (sound : Sound b) :
    allocatedFrom b.allocations b.invoices.nextId = 0 := by
  refine Table.weigh_zero ?_
  intro id row found
  obtain ⟨-, invoice, known, -⟩ := sound.allocation id row found
  rw [if_neg (Nat.ne_of_lt (Table.find?_lt_nextId known))]

theorem Posted.covered {b b' : Books} {entry : Entry} (posted : Posted b entry b')
    (sound : Sound b) (covered : Covered b) : Covered b' := by
  have kept := posted.kept
  cases posted with
  | @register invoice positive received =>
      refine ⟨covered.counter, ?_⟩
      intro id row found
      rcases Table.find?_insert_cases found with ⟨rfl, rfl⟩ | old
      · dsimp only
        rw [allocatedFrom_fresh sound]
        omega
      · exact covered.invoice id row old
  | decide =>
      refine ⟨covered.counter, ?_⟩
      intro id row found
      rcases Table.find?_modify_cases found with ⟨rfl, old, before, rfl⟩ | ⟨-, before⟩
      · exact covered.invoice _ old before
      · exact covered.invoice id row before
  | @allocate invoiceId requestId invoice request amount _ foundInvoice _ foundRequest positive
      outstanding within revised =>
      refine ⟨?_, ?_⟩
      · intro id row found
        obtain ⟨old, before, total, here, other⟩ := revised.backward found
        have counted := covered.counter id old before
        dsimp only
        rw [coverage_insert, total]
        by_cases own : id = requestId
        · subst own
          rw [foundRequest] at before
          cases before
          rw [(here rfl).1, if_pos ⟨rfl, rfl⟩]
          exact ⟨by rw [counted.1], outstanding⟩
        · rw [other own, if_neg fun both => own both.1.symm, Int.add_zero]
          exact counted
      · intro id row found
        dsimp only
        rw [allocatedFrom_insert]
        by_cases own : invoiceId = id
        · subst own
          rw [foundInvoice] at found
          cases found
          simpa using within
        · simpa [own] using covered.invoice id row found
  | @freeze key allocation _ foundAllocation active revised =>
      refine ⟨?_, ?_⟩
      · intro id row found
        obtain ⟨old, before, total, here, other⟩ := revised.backward found
        have counted := covered.counter id old before
        dsimp only
        rw [coverage_freeze foundAllocation active, total]
        by_cases own : id = allocation.paymentRequestId
        · subst own
          have part := allocation_le_coverage sound foundAllocation active
          have amount := (sound.allocation key allocation foundAllocation).1
          rw [(here rfl).1, if_pos rfl]
          omega
        · rw [other own, if_neg fun equal => own equal.symm, Int.sub_zero]
          exact counted
      · intro id row found
        dsimp only
        rw [allocatedFrom_freeze foundAllocation]
        exact covered.invoice id row found
  | invalidate =>
      refine ⟨covered.counter, ?_⟩
      intro id row found
      rcases Table.find?_modify_cases found with ⟨rfl, old, before, rfl⟩ | ⟨-, before⟩
      · exact covered.invoice _ old before
      · exact covered.invoice id row before
  | link => exact ⟨covered.counter, covered.invoice⟩
  | refund => exact ⟨covered.counter, covered.invoice⟩
  | watch => exact ⟨covered.counter, covered.invoice⟩
  | @pay record _ _ _ _ _ _ _ _ _ _ revised =>
      refine ⟨?_, covered.invoice⟩
      intro id row found
      obtain ⟨old, before, total, here, other⟩ := revised.backward found
      have counted := covered.counter id old before
      by_cases own : id = record.paymentRequestId
      · rw [total, (here own).1]
        exact counted
      · rw [other own]
        exact counted
  | correct _ _ _ _ _ _ _ _ projected =>
      refine ⟨?_, covered.invoice⟩
      intro id row found
      obtain ⟨old, before, law⟩ := projected.backward found
      rw [law.total.1, law.total.2]
      exact covered.counter id old before

/-! ## Exceptions -/

/-- The counters of every exception are the sums of its refunds and its links,
within the affected amount, and it is resolved when they make up all of it. -/
def Remedied (b : Books) : Prop :=
  ∀ id row, b.exceptions.find? id = some row →
    row.refundedAmountMinor = refunded b.records id ∧
    row.replacementCoveredAmountMinor = replaced b.links id ∧
    row.replacementCoveredAmountMinor + row.refundedAmountMinor ≤ row.affectedAmountMinor ∧
    settled row

theorem refunded_insert (records : Table PaymentRecord) (row : PaymentRecord) (exceptionId : Nat) :
    refunded (records.insert row) exceptionId = refunded records exceptionId +
      if row.invoiceExceptionId = some exceptionId then row.amountMinor else 0 :=
  Table.weigh_insert records row _

theorem replaced_insert (links : Table ReplacementInvoiceLink) (link : ReplacementInvoiceLink)
    (exceptionId : Nat) :
    replaced (links.insert link) exceptionId = replaced links exceptionId +
      if link.invoiceExceptionId = exceptionId then link.coveredAmountMinor else 0 :=
  Table.weigh_insert links link _

theorem refunded_fresh {b : Books} (sound : Sound b) :
    refunded b.records b.exceptions.nextId = 0 := by
  refine Table.weigh_zero ?_
  intro id row found
  refine if_neg fun linked => ?_
  obtain ⟨exception, known⟩ := sound.recordException id row _ found linked
  exact absurd (Table.find?_lt_nextId known) (Nat.lt_irrefl _)

theorem replaced_fresh {b : Books} (sound : Sound b) :
    replaced b.links b.exceptions.nextId = 0 := by
  refine Table.weigh_zero ?_
  intro id row found
  obtain ⟨exception, known⟩ := sound.linkException id row found
  rw [if_neg (Nat.ne_of_lt (Table.find?_lt_nextId known))]

/-- The rows of a correction carry the exception of the original. -/
theorem refunded_corrected {records : Table PaymentRecord} {original reversal correction : PaymentRecord}
    (reverses : reversal.invoiceExceptionId = original.invoiceExceptionId)
    (corrects : correction.invoiceExceptionId = original.invoiceExceptionId) {exceptionId : Nat}
    (other : original.invoiceExceptionId ≠ some exceptionId) :
    refunded ((records.insert reversal).insert correction) exceptionId =
      refunded records exceptionId := by
  simp [refunded_insert, reverses, corrects, other]

theorem Posted.remedied {b b' : Books} {entry : Entry} (posted : Posted b entry b')
    (sound : Sound b) (remedied : Remedied b) : Remedied b' := by
  cases posted with
  | register => exact remedied
  | decide => exact remedied
  | allocate => exact remedied
  | freeze => exact remedied
  | @invalidate invoice exception found whole unreplaced unrefunded unresolved =>
      intro id row foundRow
      dsimp only
      rcases Table.find?_insert_cases foundRow with ⟨rfl, rfl⟩ | old
      · have positive := sound.invoice _ invoice found
        rw [refunded_fresh sound, replaced_fresh sound, unreplaced, unrefunded, whole]
        refine ⟨rfl, rfl, by omega, ?_⟩
        rw [settled, unresolved, unreplaced, unrefunded, whole]
        constructor
        · intro resolved
          cases resolved
        · intro equal
          omega
      · exact remedied id row old
  | @link link exception _ _ foundException _ _ bounded revised =>
      intro id row found
      obtain ⟨old, before, -, affects, here, other⟩ := revised.backward found
      have sums := remedied id old before
      dsimp only
      rw [replaced_insert]
      by_cases own : id = link.invoiceExceptionId
      · obtain ⟨covered, kept, settles⟩ := here own
        subst own
        rw [foundException] at before
        cases before
        rw [covered, kept, affects, if_pos rfl]
        exact ⟨sums.1, by omega, by omega, settles⟩
      · rw [other own, if_neg fun equal => own equal.symm, Int.add_zero]
        exact sums
  | pay _ _ _ unlinked =>
      intro id row found
      dsimp only
      rw [refunded_insert, if_neg (by rw [unlinked]; simp), Int.add_zero]
      exact remedied id row found
  | @refund record exceptionId exception _ foundException _ linked _ _ _ bounded revised =>
      intro id row found
      obtain ⟨old, before, -, affects, here, other⟩ := revised.backward found
      have sums := remedied id old before
      dsimp only
      rw [refunded_insert, linked]
      by_cases own : id = exceptionId
      · obtain ⟨kept, counted, settles⟩ := here own
        subst own
        rw [foundException] at before
        cases before
        rw [counted, kept, affects, if_pos rfl]
        exact ⟨by omega, sums.2.1, by omega, settles⟩
      · rw [other own, if_neg fun equal => own (Option.some.inj equal).symm, Int.add_zero]
        exact sums
  | @watch exceptionId _ revised =>
      intro id row found
      obtain ⟨old, before, -, affects, here, other⟩ := revised.backward found
      have sums := remedied id old before
      by_cases own : id = exceptionId
      · obtain ⟨covered, counted, status⟩ := here own
        rw [settled, covered, counted, affects, status]
        exact sums
      · rw [other own]
        exact sums
  | @correct _ original _ _ _ _ foundOriginal _ _ reverses corrects _ _ _ _ remedied' =>
      intro id row found
      dsimp only at found ⊢
      rcases remedied' with ⟨payment, rfl⟩ | ⟨exceptionId, linked, revised⟩
      · have unlinked := sound.payment _ original foundOriginal payment
        rw [refunded_corrected reverses.2.2.2.2.2 corrects.2.2.2.2 (by simp [unlinked])]
        exact remedied id row found
      · obtain ⟨old, before, -, affects, here, other⟩ := revised.backward found
        have sums := remedied id old before
        by_cases own : id = exceptionId
        · obtain ⟨covered, counted, -, bounded, settles⟩ := here own
          subst own
          exact ⟨counted, covered.trans sums.2.1, bounded, settles⟩
        · rw [refunded_corrected reverses.2.2.2.2.2 corrects.2.2.2.2 (by
            rw [linked]
            simpa using fun equal => own equal.symm), other own]
          exact sums

/-! ## The amount of an invoice -/

/-- What is recorded against an invoice stays within its amount: the links to
it, and the affected amounts of its exceptions. -/
structure WithinAmounts (b : Books) : Prop where
  replacement : ∀ id invoice, b.invoices.find? id = some invoice →
    replacedBy b.links id ≤ invoice.amountTaxIncludedMinor
  exceptions : ∀ id invoice, b.invoices.find? id = some invoice →
    affected b.exceptions id ≤ invoice.amountTaxIncludedMinor

/-- The rule of links and invalidations that leave room: a link fits what is
left of its replacement, and an invoice is invalidated once. -/
def LeavesRoom (b : Books) : Entry → Prop
  | .link replacementInvoiceId amount => ∀ invoice,
      b.invoices.find? replacementInvoiceId = some invoice →
        replacedBy b.links replacementInvoiceId + amount ≤ invoice.amountTaxIncludedMinor
  | .invalidate invoiceId => ∀ id row, b.exceptions.find? id = some row → row.invoiceId ≠ invoiceId
  | _ => True

theorem affected_revised {exceptions exceptions' : Table InvoiceException} {exceptionId : Nat}
    {here : InvoiceException → InvoiceException → Prop}
    (revised : Table.Revises (OnException exceptionId here) exceptions exceptions')
    (invoiceId : Nat) : affected exceptions' invoiceId = affected exceptions invoiceId := by
  refine revised.weigh_eq ?_
  intro id old row _ law
  rw [law.1, law.2.1]

theorem replacedBy_fresh {b : Books} (sound : Sound b) :
    replacedBy b.links b.invoices.nextId = 0 := by
  refine Table.weigh_zero ?_
  intro id row found
  obtain ⟨invoice, known⟩ := sound.linkInvoice id row found
  rw [if_neg (Nat.ne_of_lt (Table.find?_lt_nextId known))]

theorem replacedBy_insert (links : Table ReplacementInvoiceLink) (link : ReplacementInvoiceLink)
    (invoiceId : Nat) :
    replacedBy (links.insert link) invoiceId = replacedBy links invoiceId +
      if link.replacementInvoiceId = invoiceId then link.coveredAmountMinor else 0 :=
  Table.weigh_insert links link _

theorem affected_fresh {b : Books} (sound : Sound b) :
    affected b.exceptions b.invoices.nextId = 0 := by
  refine Table.weigh_zero ?_
  intro id row found
  obtain ⟨invoice, known⟩ := sound.exception id row found
  rw [if_neg (Nat.ne_of_lt (Table.find?_lt_nextId known))]

theorem Posted.withinAmounts {b b' : Books} {entry : Entry} (posted : Posted b entry b')
    (room : LeavesRoom b entry) (sound : Sound b) (within : WithinAmounts b) :
    WithinAmounts b' := by
  cases posted with
  | register positive =>
      refine ⟨?_, ?_⟩
      · intro id row found
        rcases Table.find?_insert_cases found with ⟨rfl, rfl⟩ | old
        · dsimp only
          rw [replacedBy_fresh sound]
          omega
        · exact within.replacement id row old
      · intro id row found
        rcases Table.find?_insert_cases found with ⟨rfl, rfl⟩ | old
        · dsimp only
          rw [affected_fresh sound]
          omega
        · exact within.exceptions id row old
  | decide =>
      refine ⟨?_, ?_⟩
      · intro id row found
        rcases Table.find?_modify_cases found with ⟨rfl, old, before, rfl⟩ | ⟨-, before⟩
        · exact within.replacement _ old before
        · exact within.replacement id row before
      · intro id row found
        rcases Table.find?_modify_cases found with ⟨rfl, old, before, rfl⟩ | ⟨-, before⟩
        · exact within.exceptions _ old before
        · exact within.exceptions id row before
  | allocate => exact ⟨within.replacement, within.exceptions⟩
  | freeze => exact ⟨within.replacement, within.exceptions⟩
  | @invalidate invoice exception foundInvoice whole =>
      refine ⟨?_, ?_⟩
      · intro id row found
        rcases Table.find?_modify_cases found with ⟨rfl, old, before, rfl⟩ | ⟨-, before⟩
        · exact within.replacement _ old before
        · exact within.replacement id row before
      · intro id row found
        dsimp only at found ⊢
        have bound : ∃ old, b.invoices.find? id = some old ∧
            row.amountTaxIncludedMinor = old.amountTaxIncludedMinor := by
          rcases Table.find?_modify_cases found with ⟨rfl, old, before, rfl⟩ | ⟨-, before⟩
          · exact ⟨old, before, rfl⟩
          · exact ⟨row, before, rfl⟩
        obtain ⟨old, before, amount⟩ := bound
        have others := within.exceptions id old before
        unfold affected at others ⊢
        rw [Table.weigh_insert, amount]
        by_cases own : exception.invoiceId = id
        · subst own
          rw [foundInvoice] at before
          cases before
          have none : b.exceptions.weigh (fun _ row =>
              if row.invoiceId = exception.invoiceId then row.affectedAmountMinor else 0) = 0 := by
            refine Table.weigh_zero ?_
            intro key other present
            rw [if_neg (room key other present)]
          rw [none, if_pos rfl, whole]
          omega
        · rw [if_neg own, Int.add_zero]
          exact others
  | @link link _ _ _ _ _ _ _ revised =>
      refine ⟨?_, ?_⟩
      · intro id row found
        dsimp only
        rw [replacedBy_insert]
        by_cases own : link.replacementInvoiceId = id
        · subst own
          simpa using room row found
        · simpa [own] using within.replacement id row found
      · intro id row found
        dsimp only
        rw [affected_revised revised]
        exact within.exceptions id row found
  | pay => exact ⟨within.replacement, within.exceptions⟩
  | refund _ _ _ _ _ _ _ revised =>
      refine ⟨within.replacement, ?_⟩
      intro id row found
      dsimp only
      rw [affected_revised revised]
      exact within.exceptions id row found
  | watch revised =>
      refine ⟨within.replacement, ?_⟩
      intro id row found
      dsimp only
      rw [affected_revised revised]
      exact within.exceptions id row found
  | correct _ _ _ _ _ _ _ _ _ remedied =>
      refine ⟨within.replacement, ?_⟩
      intro id row found
      rcases remedied with ⟨-, rfl⟩ | ⟨exceptionId, -, revised⟩
      · exact within.exceptions id row found
      · dsimp only
        rw [affected_revised revised]
        exact within.exceptions id row found

/-- What was refunded and replaced for the exceptions of an invoice. -/
def remediedOf (exceptions : Table InvoiceException) (invoiceId : Nat) : Int :=
  exceptions.weigh fun _ row =>
    if row.invoiceId = invoiceId then row.replacementCoveredAmountMinor + row.refundedAmountMinor
    else 0

theorem WithinAmounts.remedied {b : Books} (within : WithinAmounts b) (remedied : Remedied b)
    {id : Nat} {invoice : FactoryInvoice} (found : b.invoices.find? id = some invoice) :
    remediedOf b.exceptions id ≤ invoice.amountTaxIncludedMinor := by
  refine Int.le_trans (Table.weigh_mono ?_) (within.exceptions id invoice found)
  intro key row present
  have bounded := (remedied key row present).2.2.1
  split <;> omega

end SupplyChain.Finance
