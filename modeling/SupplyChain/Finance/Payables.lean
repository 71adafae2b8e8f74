import SupplyChain.Finance.Books

/-!
The payable ledger of the books: the net of every payment request stays within
its total, reversals are matched with the rows they reverse, and the status of
a request agrees with its net as long as no invoice is allocated to a request
whose status says more than its coverage.
-/

namespace SupplyChain.Finance

open Relational

/-! ## The bound of the net -/

theorem payable_insert (records : Table PaymentRecord) (row : PaymentRecord) (requestId : Nat) :
    payable (records.insert row) requestId = payable records requestId +
      if row.paymentRequestId = requestId ∧ row.invoiceExceptionId = none
      then row.amountMinor else 0 :=
  Table.weigh_insert records row _

/-- The net of every payment request lies between zero and its total. -/
def PayableBound (b : Books) : Prop :=
  ∀ id request, b.requests.find? id = some request →
    0 ≤ payable b.records id ∧ payable b.records id ≤ request.totalAmountMinor

/-- A correction leaves the net of the requests it does not touch. -/
theorem payable_corrected {records : Table PaymentRecord} {original reversal correction : PaymentRecord}
    (request : reversal.paymentRequestId = original.paymentRequestId) {id : Nat}
    (untouched : id ∉ [original.paymentRequestId, correction.paymentRequestId]) :
    payable ((records.insert reversal).insert correction) id = payable records id := by
  have differs : original.paymentRequestId ≠ id ∧ correction.paymentRequestId ≠ id := by
    constructor <;> rintro rfl <;> simp at untouched
  rw [payable_insert, payable_insert, request]
  simp [differs.1, differs.2]

theorem PayableBound.revised {b : Books} {requests : Table FactoryPaymentRequest} {requestId : Nat}
    {here : FactoryPaymentRequest → FactoryPaymentRequest → Prop} (bound : PayableBound b)
    (revised : Table.Revises (OnRequest requestId here) b.requests requests) :
    ∀ id request, requests.find? id = some request →
      0 ≤ payable b.records id ∧ payable b.records id ≤ request.totalAmountMinor := by
  intro id request found
  obtain ⟨old, before, law⟩ := revised.backward found
  rw [law.1]
  exact bound id old before

theorem Posted.payableBound {b b' : Books} {entry : Entry} (posted : Posted b entry b')
    (bound : PayableBound b) : PayableBound b' := by
  cases posted with
  | register => exact bound
  | decide => exact bound
  | allocate _ _ _ _ _ _ revised => exact bound.revised revised
  | freeze _ _ revised => exact bound.revised revised
  | invalidate => exact bound
  | link => exact bound
  | watch => exact bound
  | @pay record request requests found _ _ unlinked _ positive nonneg bounded revised =>
      intro id row foundRow
      obtain ⟨old, before, law⟩ := revised.backward foundRow
      have inside := bound id old before
      dsimp only
      rw [payable_insert, law.1]
      by_cases own : record.paymentRequestId = id
      · subst own
        rw [found] at before
        cases before
        rw [if_pos ⟨rfl, unlinked⟩]
        exact ⟨by omega, bounded⟩
      · rw [if_neg fun both => own both.1, Int.add_zero]
        exact inside
  | refund _ _ linked =>
      intro id row foundRow
      dsimp only
      rw [payable_insert, if_neg (by rw [linked]; simp), Int.add_zero]
      exact bound id row foundRow
  | @correct _ original _ correction _ _ _ _ _ reverses _ _ _ _ projected =>
      intro id row foundRow
      obtain ⟨old, before, law⟩ := projected.backward foundRow
      by_cases touched : id ∈ [original.paymentRequestId, correction.paymentRequestId]
      · rw [(law.1 touched).total]
        exact ⟨(law.1 touched).nonneg, (law.1 touched).bounded⟩
      · dsimp only
        rw [payable_corrected reverses.2.2.2.2.1 touched, law.2 touched]
        exact bound id old before

/-! ## Reversals and their originals -/

/-- The reversal at `id` and its original, which no other row reverses, and the
one correction that replaces the original. -/
structure ReversalOf (records : Table PaymentRecord) (id : Nat) (row : PaymentRecord)
    (originalId : Nat) (original : PaymentRecord) (correctionId : Nat)
    (correction : PaymentRecord) : Prop where
  reverses : row.reversesPaymentRecordId = some originalId
  found : records.find? originalId = some original
  kind : original.recordType = .payment ∨ original.recordType = .refund
  opposite : row.amountMinor = -original.amountMinor
  request : row.paymentRequestId = original.paymentRequestId
  only : ∀ otherId other, records.find? otherId = some other →
    other.reversesPaymentRecordId = some originalId → otherId = id
  foundCorrection : records.find? correctionId = some correction
  correctionKind : correction.recordType = .correction
  corrects : correction.correctsPaymentRecordId = some originalId
  onlyCorrection : ∀ otherId other, records.find? otherId = some other →
    other.correctsPaymentRecordId = some originalId → otherId = correctionId

def ReversalsMatched (records : Table PaymentRecord) : Prop :=
  ∀ id row, records.find? id = some row → row.recordType = .reversal →
    ∃ originalId original correctionId correction,
      ReversalOf records id row originalId original correctionId correction

/-- A row that neither reverses nor corrects the original leaves the match. -/
theorem ReversalOf.insert {records : Table PaymentRecord} {id originalId correctionId : Nat}
    {row original correction added : PaymentRecord}
    (matched : ReversalOf records id row originalId original correctionId correction)
    (reverses : added.reversesPaymentRecordId ≠ some originalId)
    (corrects : added.correctsPaymentRecordId ≠ some originalId) :
    ReversalOf (records.insert added) id row originalId original correctionId correction :=
  { matched with
    found := Table.find?_insert_of_some matched.found
    only := by
      intro otherId other found same
      rcases Table.find?_insert_cases found with ⟨-, rfl⟩ | old
      · exact absurd same reverses
      · exact matched.only otherId other old same
    foundCorrection := Table.find?_insert_of_some matched.foundCorrection
    onlyCorrection := by
      intro otherId other found same
      rcases Table.find?_insert_cases found with ⟨-, rfl⟩ | old
      · exact absurd same corrects
      · exact matched.onlyCorrection otherId other old same }

/-- A row of another kind without references leaves all matches. -/
theorem ReversalsMatched.insert {records : Table PaymentRecord} {added : PaymentRecord}
    (matched : ReversalsMatched records) (kind : added.recordType ≠ .reversal)
    (original : added.reversesPaymentRecordId = none ∧ added.correctsPaymentRecordId = none) :
    ReversalsMatched (records.insert added) := by
  intro id row found isReversal
  rcases Table.find?_insert_cases found with ⟨-, rfl⟩ | old
  · exact absurd isReversal kind
  · obtain ⟨originalId, original', correctionId, correction, match_⟩ := matched id row old isReversal
    exact ⟨originalId, original', correctionId, correction,
      match_.insert (by simp [original.1]) (by simp [original.2])⟩

theorem Posted.reversalsMatched {b b' : Books} {entry : Entry} (posted : Posted b entry b')
    (matched : ReversalsMatched b.records) : ReversalsMatched b'.records := by
  cases posted with
  | register => exact matched
  | decide => exact matched
  | allocate => exact matched
  | freeze => exact matched
  | invalidate => exact matched
  | link => exact matched
  | watch => exact matched
  | pay _ _ kind _ original => exact matched.insert (by rw [kind]; decide) original
  | refund _ kind _ original => exact matched.insert (by rw [kind]; decide) original
  | @correct originalId original reversal correction _ _ found correctable uncorrected reverses
      corrects =>
      intro id row foundRow isReversal
      dsimp only at foundRow ⊢
      rcases Table.find?_insert_cases foundRow with ⟨-, rfl⟩ | old
      · rw [corrects.1] at isReversal
        cases isReversal
      rcases Table.find?_insert_cases old with ⟨rfl, rfl⟩ | older
      · refine ⟨originalId, original, _, correction,
          { reverses := reverses.2.1
            found := Table.find?_insert_of_some (Table.find?_insert_of_some found)
            kind := correctable
            opposite := reverses.2.2.2.1
            request := reverses.2.2.2.2.1
            only := ?_
            foundCorrection := Table.find?_insert_nextId _ _
            correctionKind := corrects.1
            corrects := corrects.2.2.1
            onlyCorrection := ?_ }⟩
        · intro otherId other foundOther same
          rcases Table.find?_insert_cases foundOther with ⟨-, rfl⟩ | before
          · rw [corrects.2.1] at same
            cases same
          · rcases Table.find?_insert_cases before with ⟨equal, -⟩ | earlier
            · exact equal
            · exact absurd same (uncorrected otherId other earlier).1
        · intro otherId other foundOther same
          rcases Table.find?_insert_cases foundOther with ⟨equal, -⟩ | before
          · exact equal
          · rcases Table.find?_insert_cases before with ⟨-, rfl⟩ | earlier
            · rw [reverses.2.2.1] at same
              cases same
            · exact absurd same (uncorrected otherId other earlier).2
      · obtain ⟨originalId', original', correctionId, correction', match_⟩ :=
          matched id row older isReversal
        have other : originalId ≠ originalId' := by
          rintro rfl
          exact (uncorrected id row older).1 match_.reverses
        refine ⟨originalId', original', correctionId, correction',
          (match_.insert ?_ ?_).insert ?_ ?_⟩
        · rw [reverses.2.1]
          simpa using other
        · simp [reverses.2.2.1]
        · simp [corrects.2.1]
        · rw [corrects.2.2.1]
          simpa using other

/-! ## The status of a request -/

/-- The statuses in which a request still asks to be paid. -/
def asksForPayment : PaymentRequestStatus → Bool
  | .generated | .submittedToFinance | .partiallyPaid | .waitingInvoice => true
  | _ => false

/-- The statuses of a request that was given up. -/
def givenUp : PaymentRequestStatus → Bool
  | .failed | .cancelled => true
  | _ => false

/-- The status of every request agrees with its net: a paid request does not
ask for payment and a partly paid one does not look unpaid. -/
def StatusAgrees (b : Books) : Prop :=
  ∀ id row, b.requests.find? id = some row →
    (payable b.records id = row.totalAmountMinor → asksForPayment row.status = false) ∧
    (0 < payable b.records id ∧ payable b.records id < row.totalAmountMinor →
      row.status ≠ .generated ∧ row.status ≠ .waitingInvoice)

/-- A request that was given up has no record and no allocation. -/
def GivenUpUntouched (b : Books) : Prop :=
  ∀ id row, b.requests.find? id = some row → givenUp row.status = true →
    (∀ key record, b.records.find? key = some record → record.paymentRequestId ≠ id) ∧
      ∀ key allocation, b.allocations.find? key = some allocation →
        allocation.paymentRequestId ≠ id

def PositiveTotals (b : Books) : Prop :=
  ∀ id row, b.requests.find? id = some row → 0 < row.totalAmountMinor

structure Truthful (b : Books) : Prop where
  positive : PositiveTotals b
  agrees : StatusAgrees b
  untouched : GivenUpUntouched b

/-- Nothing was paid on the request and its status says nothing beyond its
coverage, so that an allocation may set it from the coverage alone. -/
def Unpaid (b : Books) (requestId : Nat) : Prop :=
  ∀ row, b.requests.find? requestId = some row → payable b.records requestId = 0 ∧
    row.status ≠ .paid ∧ row.status ≠ .partiallyPaid ∧ givenUp row.status = false

/-- The rule of an allocation that erases no status. -/
def AllocatesUnpaid (b : Books) : Entry → Prop
  | .allocate requestId => Unpaid b requestId
  | _ => True

theorem asksForPayment_projected {net total : Int} (equal : net = total) :
    asksForPayment (ApprovalEffects.projectedStatus net total) = false := by
  simp [ApprovalEffects.projectedStatus, equal, asksForPayment]

theorem givenUp_projected (net total : Int) :
    givenUp (ApprovalEffects.projectedStatus net total) = false := by
  unfold ApprovalEffects.projectedStatus
  split
  · rfl
  · split <;> rfl

/-- A request that was given up keeps its status. -/
def GivenUpKept (b b' : Books) : Prop :=
  ∀ id old, b.requests.find? id = some old → givenUp old.status = true →
    ∃ row, b'.requests.find? id = some row ∧ row.status = old.status

theorem positiveTotals_revised {law : Nat → FactoryPaymentRequest → FactoryPaymentRequest → Prop}
    {requests requests' : Table FactoryPaymentRequest}
    (positive : ∀ id row, requests.find? id = some row → 0 < row.totalAmountMinor)
    (revised : Table.Revises law requests requests')
    (total : ∀ id old row, law id old row → row.totalAmountMinor = old.totalAmountMinor) :
    ∀ id row, requests'.find? id = some row → 0 < row.totalAmountMinor := by
  intro id row found
  obtain ⟨old, before, law⟩ := revised.backward found
  rw [total id old row law]
  exact positive id old before

/-- An entry on one request that ends in a status which agrees with the net. -/
theorem Truthful.onRequest {b b' : Books} {requestId : Nat}
    {here : FactoryPaymentRequest → FactoryPaymentRequest → Prop} (truthful : Truthful b)
    (revised : Table.Revises (OnRequest requestId here) b.requests b'.requests)
    (nets : ∀ id, id ≠ requestId → payable b'.records id = payable b.records id)
    (agrees : ∀ old row, b.requests.find? requestId = some old → here old row →
      row.totalAmountMinor = old.totalAmountMinor →
      givenUp row.status = false ∧
      (payable b'.records requestId = row.totalAmountMinor → asksForPayment row.status = false) ∧
      (0 < payable b'.records requestId ∧ payable b'.records requestId < row.totalAmountMinor →
        row.status ≠ .generated ∧ row.status ≠ .waitingInvoice))
    (records : ∀ key record, b'.records.find? key = some record →
      b.records.find? key = some record ∨ record.paymentRequestId = requestId)
    (allocations : ∀ key allocation, b'.allocations.find? key = some allocation →
      (∃ key' allocation', b.allocations.find? key' = some allocation' ∧
        allocation'.paymentRequestId = allocation.paymentRequestId) ∨
      allocation.paymentRequestId = requestId) :
    Truthful b' where
  positive := positiveTotals_revised truthful.positive revised fun _ _ _ law => law.1
  agrees := by
    intro id row found
    obtain ⟨old, before, total, same, other⟩ := revised.backward found
    by_cases own : id = requestId
    · subst own
      exact (agrees old row before (same rfl) total).2
    · rw [nets id own, other own]
      exact truthful.agrees id old before
  untouched := by
    intro id row found dead
    obtain ⟨old, before, total, same, other⟩ := revised.backward found
    by_cases own : id = requestId
    · subst own
      rw [(agrees old row before (same rfl) total).1] at dead
      cases dead
    · rw [other own] at dead
      obtain ⟨noRecord, noAllocation⟩ := truthful.untouched id old before dead
      refine ⟨?_, ?_⟩
      · intro key record foundRecord
        rcases records key record foundRecord with earlier | new
        · exact noRecord key record earlier
        · rw [new]
          exact fun equal => own equal.symm
      · intro key allocation foundAllocation
        rcases allocations key allocation foundAllocation with ⟨key', old, earlier, same⟩ | new
        · rw [← same]
          exact noAllocation key' old earlier
        · rw [new]
          exact fun equal => own equal.symm

theorem correction_inUse {b : Books} {original correction : PaymentRecord} {originalId : Nat}
    (untouched : GivenUpUntouched b)
    (found : b.records.find? originalId = some original)
    (correctable : original.recordType = .payment ∨ original.recordType = .refund)
    (accepted : original.recordType = .payment → ∀ request,
      b.requests.find? correction.paymentRequestId = some request →
        ApprovalEffects.requestPayable request = true)
    (allocated : original.recordType = .refund →
      ∃ id allocation, b.allocations.find? id = some allocation ∧
        allocation.paymentRequestId = correction.paymentRequestId)
    {id : Nat} (touched : id ∈ [original.paymentRequestId, correction.paymentRequestId])
    {row : FactoryPaymentRequest} (foundRow : b.requests.find? id = some row) :
    givenUp row.status = false := by
  by_contra dead
  rw [Bool.not_eq_false] at dead
  obtain ⟨noRecord, noAllocation⟩ := untouched id row foundRow dead
  rcases List.mem_pair.mp touched with rfl | rfl
  · exact noRecord originalId original found rfl
  · rcases correctable with payment | refund
    · have accepts := accepted payment row foundRow
      cases status : row.status <;> simp_all [givenUp, ApprovalEffects.requestPayable]
    · obtain ⟨key, allocation, foundAllocation, same⟩ := allocated refund
      exact noAllocation key allocation foundAllocation same

theorem Posted.truthful {b b' : Books} {entry : Entry} (posted : Posted b entry b')
    (unpaid : AllocatesUnpaid b entry) (truthful : Truthful b) : Truthful b' := by
  cases posted with
  | register => exact ⟨truthful.positive, truthful.agrees, truthful.untouched⟩
  | decide => exact ⟨truthful.positive, truthful.agrees, truthful.untouched⟩
  | invalidate => exact ⟨truthful.positive, truthful.agrees, truthful.untouched⟩
  | link => exact ⟨truthful.positive, truthful.agrees, truthful.untouched⟩
  | watch => exact ⟨truthful.positive, truthful.agrees, truthful.untouched⟩
  | @allocate invoiceId requestId _ request _ _ _ _ foundRequest _ _ _ revised =>
      refine truthful.onRequest revised (fun _ _ => rfl) ?_ (fun _ _ found => Or.inl found) ?_
      · intro old row before here total
        have clean := unpaid old before
        have positive := truthful.positive requestId old before
        dsimp only
        rw [clean.1, total, here.2]
        refine ⟨?_, fun equal => absurd equal (by omega), fun both => absurd both.1 (by omega)⟩
        split <;> rfl
      · intro key allocation found
        rcases Table.find?_insert_cases found with ⟨-, rfl⟩ | old
        · exact Or.inr rfl
        · exact Or.inl ⟨key, allocation, old, rfl⟩
  | @freeze allocationId allocation _ foundAllocation _ revised =>
      refine truthful.onRequest revised (fun _ _ => rfl) ?_ (fun _ _ found => Or.inl found) ?_
      · intro old row _ here _
        rw [here.2]
        exact ⟨rfl, fun _ => rfl, fun _ => ⟨by decide, by decide⟩⟩
      · intro key row found
        rcases Table.find?_modify_cases found with ⟨rfl, old, before, rfl⟩ | ⟨-, before⟩
        · exact Or.inl ⟨key, old, before, rfl⟩
        · exact Or.inl ⟨key, row, before, rfl⟩
  | @pay record request _ found _ _ unlinked _ positive nonneg bounded revised =>
      refine truthful.onRequest revised ?_ ?_ ?_
        fun key allocation found => Or.inl ⟨key, allocation, found, rfl⟩
      · intro id other
        dsimp only
        rw [payable_insert, if_neg fun both => other both.1.symm, Int.add_zero]
      · intro old row before here total
        rw [found] at before
        cases before
        dsimp only
        rw [payable_insert, if_pos ⟨rfl, unlinked⟩, total, here.2]
        by_cases whole : payable b.records record.paymentRequestId + record.amountMinor =
            request.totalAmountMinor
        · simp [whole, givenUp, asksForPayment]
        · simp [whole, givenUp]
      · intro key row foundRow
        rcases Table.find?_insert_cases foundRow with ⟨-, rfl⟩ | old
        · exact Or.inr rfl
        · exact Or.inl old
  | @refund record _ _ _ _ _ linked _ _ paid =>
      obtain ⟨request, foundRequest, status⟩ := paid
      have net : ∀ id, payable (b.records.insert record) id = payable b.records id := by
        intro id
        rw [payable_insert, if_neg (by rw [linked]; simp), Int.add_zero]
      refine ⟨truthful.positive, ?_, ?_⟩
      · intro id row found
        dsimp only
        rw [net]
        exact truthful.agrees id row found
      · intro id row found dead
        obtain ⟨noRecord, noAllocation⟩ := truthful.untouched id row found dead
        refine ⟨?_, noAllocation⟩
        intro key row' foundRow
        rcases Table.find?_insert_cases foundRow with ⟨-, rfl⟩ | old
        · rintro rfl
          rw [foundRequest] at found
          cases found
          rcases status with paid | partly
          · rw [paid] at dead
            cases dead
          · rw [partly] at dead
            cases dead
        · exact noRecord key row' old
  | @correct originalId original reversal correction requests _ found correctable _ reverses _ _
      accepted allocated projected =>
      have net : ∀ id, id ∉ [original.paymentRequestId, correction.paymentRequestId] →
          payable ((b.records.insert reversal).insert correction) id = payable b.records id :=
        fun id untouched => payable_corrected reverses.2.2.2.2.1 untouched
      refine ⟨?_, ?_, ?_⟩
      · exact positiveTotals_revised truthful.positive projected fun _ _ _ law => law.total.1
      · intro id row foundRow
        obtain ⟨old, before, law⟩ := projected.backward foundRow
        by_cases touched : id ∈ [original.paymentRequestId, correction.paymentRequestId]
        · have projection := law.1 touched
          have positive := truthful.positive id old before
          dsimp only
          rw [projection.status, projection.total]
          refine ⟨asksForPayment_projected, ?_⟩
          rintro ⟨above, below⟩
          simp [ApprovalEffects.projectedStatus, above, Int.ne_of_lt below]
        · dsimp only
          rw [net id touched, law.2 touched]
          exact truthful.agrees id old before
      · intro id row foundRow dead
        obtain ⟨old, before, law⟩ := projected.backward foundRow
        by_cases touched : id ∈ [original.paymentRequestId, correction.paymentRequestId]
        · rw [(law.1 touched).status, givenUp_projected] at dead
          cases dead
        · rw [law.2 touched] at dead
          obtain ⟨noRecord, noAllocation⟩ := truthful.untouched id old before dead
          refine ⟨?_, noAllocation⟩
          have others : original.paymentRequestId ≠ id ∧ correction.paymentRequestId ≠ id := by
            constructor <;> rintro rfl <;> simp at touched
          intro key record foundRecord
          rcases Table.find?_insert_cases foundRecord with ⟨-, rfl⟩ | earlier
          · exact others.2
          · rcases Table.find?_insert_cases earlier with ⟨-, rfl⟩ | first
            · rw [reverses.2.2.2.2.1]
              exact others.1
            · exact noRecord key record first

theorem GivenUpKept.refl (b : Books) : GivenUpKept b b :=
  fun _ old found _ => ⟨old, found, rfl⟩

theorem GivenUpKept.trans {b b' b'' : Books} (first : GivenUpKept b b')
    (second : GivenUpKept b' b'') : GivenUpKept b b'' := by
  intro id old found dead
  obtain ⟨mid, foundMid, same⟩ := first id old found dead
  obtain ⟨row, foundRow, same'⟩ := second id mid foundMid (by rw [same]; exact dead)
  exact ⟨row, foundRow, same'.trans same⟩

theorem OnRequest.givenUpKept {requests requests' : Table FactoryPaymentRequest} {requestId : Nat}
    {here : FactoryPaymentRequest → FactoryPaymentRequest → Prop}
    (revised : Table.Revises (OnRequest requestId here) requests requests')
    (inUse : ∀ row, requests.find? requestId = some row → givenUp row.status = false)
    {id : Nat} {old : FactoryPaymentRequest} (before : requests.find? id = some old)
    (dead : givenUp old.status = true) :
    ∃ row, requests'.find? id = some row ∧ row.status = old.status := by
  obtain ⟨row, after, -, -, other⟩ := revised.forward before
  refine ⟨row, after, ?_⟩
  rw [other]
  rintro rfl
  rw [inUse old before] at dead
  cases dead

theorem Posted.givenUpKept {b b' : Books} {entry : Entry} (posted : Posted b entry b')
    (unpaid : AllocatesUnpaid b entry) (truthful : Truthful b) : GivenUpKept b b' := by
  cases posted with
  | register => exact GivenUpKept.refl b
  | decide => exact GivenUpKept.refl b
  | invalidate => exact GivenUpKept.refl b
  | link => exact GivenUpKept.refl b
  | watch => exact GivenUpKept.refl b
  | refund => exact GivenUpKept.refl b
  | allocate _ _ _ _ _ _ revised =>
      intro id old before dead
      exact OnRequest.givenUpKept revised (fun row found => (unpaid row found).2.2.2) before dead
  | @freeze key allocation _ found _ revised =>
      intro id old before dead
      refine OnRequest.givenUpKept revised ?_ before dead
      intro request foundRequest
      by_contra alive
      exact (truthful.untouched _ request foundRequest (by simpa using alive)).2 key allocation
        found rfl
  | @pay _ request _ found payableStatus _ _ _ _ _ _ revised =>
      intro id old before dead
      refine OnRequest.givenUpKept revised ?_ before dead
      intro row' foundRequest
      rw [found] at foundRequest
      cases foundRequest
      cases status : request.status <;> simp_all [givenUp, PaymentRequestStatus.payable]
  | @correct _ original _ correction _ _ found correctable _ _ _ _ accepted allocated projected =>
      intro id old before dead
      obtain ⟨row, after, law⟩ := projected.forward before
      refine ⟨row, after, ?_⟩
      rw [law.2]
      intro touched
      rw [correction_inUse truthful.untouched found correctable accepted allocated touched before]
        at dead
      cases dead

/-- The statuses that say more than a coverage does. -/
def beyondCoverage : PaymentRequestStatus → Bool
  | .paid | .partiallyPaid | .failed | .cancelled => true
  | _ => false

/-- No status that says more than a coverage is erased. -/
def NothingErased (b b' : Books) : Prop :=
  ∀ id old, b.requests.find? id = some old → beyondCoverage old.status = true →
    ∃ row, b'.requests.find? id = some row ∧ row.status = old.status

theorem NothingErased.refl (b : Books) : NothingErased b b :=
  fun _ old found _ => ⟨old, found, rfl⟩

theorem NothingErased.trans {b b' b'' : Books} (first : NothingErased b b')
    (second : NothingErased b' b'') : NothingErased b b'' := by
  intro id old found settled
  obtain ⟨mid, foundMid, same⟩ := first id old found settled
  obtain ⟨row, foundRow, same'⟩ := second id mid foundMid (by rw [same]; exact settled)
  exact ⟨row, foundRow, same'.trans same⟩

/-- The entries of a verification. -/
def ofVerification : Entry → Prop
  | .decide | .allocate _ => True
  | _ => False

/-- The verification of an invoice erases no status when it allocates to
unpaid requests only. -/
theorem Posted.nothingErased {b b' : Books} {entry : Entry} (posted : Posted b entry b')
    (unpaid : AllocatesUnpaid b entry) (kind : ofVerification entry) : NothingErased b b' := by
  cases posted with
  | decide => exact NothingErased.refl b
  | allocate _ _ _ _ _ _ revised =>
      intro id old before settled
      obtain ⟨row, after, -, -, other⟩ := revised.forward before
      refine ⟨row, after, ?_⟩
      rw [other]
      rintro rfl
      obtain ⟨-, notPaid, notPartly, alive⟩ := unpaid old before
      cases status : old.status <;> simp_all [beyondCoverage, givenUp]
  | _ => exact absurd kind id

end SupplyChain.Finance
