import SupplyChain.ApprovalEffects.Outcomes

/-!
The payment guard of the pages, and how it agrees with the ledger as the API
reads it: the net of a payable ledger, and the amount, the bounds and the
resolution that the correction of a refund leads to.
-/

namespace SupplyChain.PaymentGuard

open Relational Transaction TableName

/-! ## The guard of the pages -/

/-- A number of the pages: an integer, or some other number. -/
abbrev Number := Option Int

structure PaymentLedgerRecord where
  amountMinor : Number
  recordType : String
  invoiceExceptionId : Option Number

/-- A safe integer that passes a test. -/
def safeAnd (value : Number) (test : Int → Bool) : Bool :=
  value.any fun amount => decide (isSafeInteger amount) && test amount

/-- A reversal is negative, and every other record positive. -/
def signed (recordType : String) (amount : Int) : Bool :=
  if recordType = "reversal" then decide (amount < 0) else decide (0 < amount)

def isPayableLedgerRecord (record : PaymentLedgerRecord) : Except String Bool :=
  if safeAnd record.amountMinor (signed record.recordType) = false then
    .error "付款账本金额不合法。"
  else if record.invoiceExceptionId.any (fun id => !safeAnd id fun id => decide (0 < id)) then
    .error "付款账本关联异常单不合法。"
  else if record.recordType = "payment" then
    if record.invoiceExceptionId ≠ none then .error "原始付款不能关联退款异常单。" else .ok true
  else if record.recordType = "refund" then
    if record.invoiceExceptionId = none then .error "原始退款缺少关联异常单。" else .ok false
  else if record.recordType = "correction" ∨ record.recordType = "reversal" then
    .ok record.invoiceExceptionId.isNone
  else .error "付款账本记录类型不合法。"

/-- The loop over the records. -/
def netPaid : List PaymentLedgerRecord → Int → Except String Int
  | [], netPaidAmountMinor => .ok netPaidAmountMinor
  | record :: rest, netPaidAmountMinor => do
      let payable ← isPayableLedgerRecord record
      if payable = false then netPaid rest netPaidAmountMinor
      else if ¬ isSafeInteger (netPaidAmountMinor + record.amountMinor.getD 0) then
        throw "付款账本金额超出安全计算范围。"
      else netPaid rest (netPaidAmountMinor + record.amountMinor.getD 0)

structure PayableLedger where
  netPaidAmountMinor : Int
  remainingAmountMinor : Int
  withinBounds : Bool

def evaluatePayableLedger (totalAmountMinor : Number) (ledgerRecords : List PaymentLedgerRecord) :
    Except String PayableLedger :=
  match totalAmountMinor with
  | none => .error "请款金额不合法。"
  | some totalAmountMinor =>
      if ¬ isSafeInteger totalAmountMinor ∨ totalAmountMinor < 0 then .error "请款金额不合法。"
      else do
        let netPaidAmountMinor ← netPaid ledgerRecords 0
        return {
          netPaidAmountMinor
          remainingAmountMinor := max 0 (totalAmountMinor - netPaidAmountMinor)
          withinBounds := decide (0 ≤ netPaidAmountMinor ∧ netPaidAmountMinor ≤ totalAmountMinor) }

def assertMoney (value : Number) (message : String) : Except String Int :=
  match value with
  | some amount => if isSafeInteger amount ∧ 0 ≤ amount then .ok amount else .error message
  | none => .error message

structure ExceptionRemediation where
  remediatedAmountMinor : Int
  remainingAmountMinor : Int
  withinBounds : Bool
  resolved : Bool

def evaluateExceptionRemediation (affectedAmountMinor replacementCoveredAmountMinor
    refundedAmountMinor : Number) : Except String ExceptionRemediation := do
  let affected ← assertMoney affectedAmountMinor "异常影响金额不合法。"
  let covered ← assertMoney replacementCoveredAmountMinor "已补票金额不合法。"
  let refunded ← assertMoney refundedAmountMinor "已退款金额不合法。"
  return {
    remediatedAmountMinor := covered + refunded
    remainingAmountMinor :=
      if isSafeInteger (covered + refunded) ∧ covered + refunded ≤ affected then
        affected - (covered + refunded)
      else 0
    withinBounds := decide (isSafeInteger (covered + refunded) ∧ covered + refunded ≤ affected)
    resolved := decide ((isSafeInteger (covered + refunded) ∧ covered + refunded ≤ affected) ∧
      covered + refunded = affected) }

structure RefundCorrectionInput where
  affectedAmountMinor : Number
  replacementCoveredAmountMinor : Number
  refundedAmountMinor : Number
  originalRefundAmountMinor : Number
  proposedRefundAmountMinor : Number

/-- `remediatedAmountMinor` is missing where the pages have no number. -/
structure RefundCorrection where
  correctedRefundAmountMinor : Int
  remediatedAmountMinor : Number
  withinBounds : Bool
  resolved : Bool

def evaluateRefundCorrection (input : RefundCorrectionInput) : Except String RefundCorrection := do
  let _ ← assertMoney input.affectedAmountMinor "异常影响金额不合法。"
  let _ ← assertMoney input.replacementCoveredAmountMinor "已补票金额不合法。"
  let refunded ← assertMoney input.refundedAmountMinor "已退款金额不合法。"
  let original ← assertMoney input.originalRefundAmountMinor "原退款金额不合法。"
  let proposed ← assertMoney input.proposedRefundAmountMinor "更正后退款金额不合法。"
  if 0 ≤ refunded - original + proposed ∧ isSafeInteger (refunded - original + proposed) then do
    let remediation ← evaluateExceptionRemediation input.affectedAmountMinor
      input.replacementCoveredAmountMinor (some (refunded - original + proposed))
    return {
      correctedRefundAmountMinor := refunded - original + proposed
      remediatedAmountMinor := some remediation.remediatedAmountMinor
      withinBounds := remediation.withinBounds
      resolved := remediation.resolved }
  else
    return {
      correctedRefundAmountMinor := refunded - original + proposed
      remediatedAmountMinor := none
      withinBounds := false
      resolved := false }

/-! ## The ledger of the API -/

/-- `payableNet` of the API, over rows as a query gives them. -/
def acceptedRow (row : PaymentLedgerRecord) : Bool :=
  safeAnd row.amountMinor (signed row.recordType) &&
    ["payment", "refund", "correction", "reversal"].contains row.recordType &&
    !(row.recordType == "payment" && row.invoiceExceptionId.isSome) &&
    !(row.recordType == "refund" && row.invoiceExceptionId.isNone)

def countedAmount (row : PaymentLedgerRecord) : Int :=
  if row.recordType ≠ "refund" ∧ row.invoiceExceptionId.isNone = true then row.amountMinor.getD 0
  else 0

def payableSum : List PaymentLedgerRecord → Int → Except Failure Int
  | [], net => .ok net
  | row :: rest, net =>
      if acceptedRow row = false then .error (conflict "Payment ledger is invalid")
      else if ¬ isSafeInteger (net + countedAmount row) then
        .error (conflict "Payment ledger exceeds safe bounds")
      else payableSum rest (net + countedAmount row)

def payableNet (rows : List PaymentLedgerRecord) (totalAmountMinor : Int) : Except Failure Int := do
  let net ← payableSum rows 0
  if net < 0 ∨ totalAmountMinor < net then
    .error (conflict "Payment ledger is outside payable bounds")
  else .ok net

/-- The sum of the correction effect, over such rows. -/
def correctionNet (rows : List PaymentLedgerRecord) : Except Failure Int :=
  if rows.any (fun row => !safeAnd row.amountMinor fun _ => true) then
    .error (conflict "Correction ledger is invalid")
  else
    .ok (rows.map fun row =>
      if row.invoiceExceptionId.isNone = true then row.amountMinor.getD 0 else 0).sum

def recordTypeText : RecordType → String
  | .payment => "payment"
  | .refund => "refund"
  | .reversal => "reversal"
  | .correction => "correction"

/-- A stored record, as a query gives it. -/
def rowOf (record : PaymentRecord) : PaymentLedgerRecord where
  amountMinor := some record.amountMinor
  recordType := recordTypeText record.recordType
  invoiceExceptionId := record.invoiceExceptionId.map fun id : Nat => some (id : Int)

theorem acceptedRow_rowOf (record : PaymentRecord) :
    acceptedRow (rowOf record) = Finance.validRecord record := by
  obtain ⟨_, amount, _, _, kind, _, _, exceptionId, _, _, _, _⟩ := record
  cases kind <;> cases exceptionId <;>
    simp [acceptedRow, rowOf, recordTypeText, Finance.validRecord, safeAnd, signed]

theorem countedAmount_rowOf (record : PaymentRecord) :
    countedAmount (rowOf record) = Finance.payableAmount record := by
  obtain ⟨_, amount, _, _, kind, _, _, exceptionId, _, _, _, _⟩ := record
  cases kind <;> cases exceptionId <;>
    simp [countedAmount, rowOf, recordTypeText, Finance.payableAmount]

/-- Over stored records, this is the net that the finance commands take. -/
theorem payableNet_rowOf (records : List PaymentRecord) (totalAmountMinor : Int) :
    payableNet (records.map rowOf) totalAmountMinor =
      Finance.payableNet records totalAmountMinor := by
  have sums : ∀ net, payableSum (records.map rowOf) net = Finance.payableSum records net := by
    induction records with
    | nil => exact fun net => rfl
    | cons record rest ih =>
        intro net
        rw [List.map_cons, payableSum, Finance.payableSum, acceptedRow_rowOf, countedAmount_rowOf, ih]
  rw [payableNet, Finance.payableNet, sums]

theorem correctionNet_rowOf (records : List PaymentRecord) :
    correctionNet (records.map rowOf) = ApprovalEffects.correctionNet records := by
  unfold correctionNet ApprovalEffects.correctionNet
  rw [List.any_map, List.map_map]
  have amounts : (fun row : PaymentLedgerRecord =>
        if row.invoiceExceptionId.isNone = true then row.amountMinor.getD 0 else 0) ∘ rowOf =
      fun record => if record.invoiceExceptionId = none then record.amountMinor else 0 := by
    funext record
    simp [rowOf]
  have checks : (fun row : PaymentLedgerRecord => !safeAnd row.amountMinor fun _ => true) ∘ rowOf =
      fun record => decide (¬ isSafeInteger record.amountMinor) := by
    funext record
    simp [rowOf, safeAnd]
  rw [amounts, checks]

/-! ## Payable ledgers -/

/-- No exception, or the key of one. -/
def WellFormed (row : PaymentLedgerRecord) : Prop :=
  ∀ id ∈ row.invoiceExceptionId, safeAnd id (fun id => decide (0 < id)) = true

/-- A row counts, is passed over or is refused alike on both sides. -/
theorem isPayableLedgerRecord_ok {row : PaymentLedgerRecord} (formed : WellFormed row) :
    (acceptedRow row = true ∧ ∃ payable, isPayableLedgerRecord row = .ok payable ∧
        countedAmount row = if payable then row.amountMinor.getD 0 else 0) ∨
      acceptedRow row = false ∧ ∃ message, isPayableLedgerRecord row = .error message := by
  obtain ⟨amountMinor, recordType, exceptionId⟩ := row
  have identified : (exceptionId.any fun id => !safeAnd id fun id => decide (0 < id)) = false := by
    cases exceptionId with
    | none => rfl
    | some id => simpa using formed id rfl
  cases sound : safeAnd amountMinor (signed recordType) with
  | false => exact .inr ⟨by simp [acceptedRow, sound], _, if_pos sound⟩
  | true =>
      simp only [isPayableLedgerRecord, acceptedRow, countedAmount, sound, identified,
        Bool.true_eq_false, Bool.false_eq_true, if_false]
      by_cases payment : recordType = "payment"
      · subst payment
        cases exceptionId <;> simp
      · by_cases refund : recordType = "refund"
        · subst refund
          cases exceptionId <;> simp
        · by_cases other : recordType = "correction" ∨ recordType = "reversal"
          · rcases other with rfl | rfl <;> cases exceptionId <;> simp
          · have missing : ¬ (recordType = "correction" ∨ recordType = "reversal") := other
            rw [not_or] at other
            simp [payment, refund, other]

theorem netPaid_iff {rows : List PaymentLedgerRecord} (formed : ∀ row ∈ rows, WellFormed row)
    {net : Int} (safe : isSafeInteger net) (result : Int) :
    payableSum rows net = .ok result ↔ netPaid rows net = .ok result := by
  induction rows generalizing net with
  | nil => simp [payableSum, netPaid]
  | cons row rest ih =>
      have others := fun {net} => @ih (fun other member => formed other (List.mem_cons_of_mem _ member)) net
      rw [payableSum, netPaid]
      rcases isPayableLedgerRecord_ok (formed row List.mem_cons_self) with
        ⟨accepted, payable, read, counted⟩ | ⟨refused, message, read⟩
      · simp only [accepted, read, counted, Bool.true_eq_false, if_false, bind, Except.bind]
        cases payable with
        | false => simp only [Bool.false_eq_true, if_false, if_true, Int.add_zero, safe,
            not_true_eq_false, others safe]
        | true =>
            simp only [if_true, Bool.true_eq_false, if_false]
            by_cases within : isSafeInteger (net + row.amountMinor.getD 0)
            · rw [if_neg (not_not_intro within), if_neg (not_not_intro within)]
              exact others within
            · rw [if_pos within, if_pos within]
              constructor
              · intro returned
                cases returned
              · intro returned
                cases returned
      · simp only [refused, read, if_true, bind, Except.bind]
        constructor
        · intro returned
          cases returned
        · intro returned
          cases returned

theorem zero_safe : isSafeInteger 0 := by decide

section

variable {rows : List PaymentLedgerRecord} {total n : Int}

theorem payableNet_ok : payableNet rows total = .ok n ↔
    payableSum rows 0 = .ok n ∧ 0 ≤ n ∧ n ≤ total := by
  unfold payableNet
  cases payableSum rows 0 with
  | error failure => simp [bind, Except.bind]
  | ok net =>
      simp only [bind, Except.bind, Except.ok.injEq]
      by_cases outside : net < 0 ∨ total < net
      · rw [if_pos outside]
        constructor
        · intro returned
          cases returned
        · rintro ⟨rfl, low, high⟩
          omega
      · rw [if_neg outside, Except.ok.injEq]
        constructor
        · rintro rfl
          omega
        · exact fun both => both.1

/-- With a total that is money, the pages return what the loop returns. -/
theorem evaluatePayableLedger_eq (safe : isSafeInteger total) (nonneg : 0 ≤ total) :
    evaluatePayableLedger (some total) rows = (netPaid rows 0).map fun net =>
      { netPaidAmountMinor := net
        remainingAmountMinor := max 0 (total - net)
        withinBounds := decide (0 ≤ net ∧ net ≤ total) } := by
  have money : ¬ (¬ isSafeInteger total ∨ total < 0) := by
    rintro (beyond | negative)
    · exact beyond safe
    · omega
  unfold evaluatePayableLedger
  dsimp only
  rw [if_neg money]
  cases netPaid rows 0 <;> rfl

theorem payableNet_iff (formed : ∀ row ∈ rows, WellFormed row) (safe : isSafeInteger total)
    (nonneg : 0 ≤ total) : payableNet rows total = .ok n ↔
      ∃ ledger, evaluatePayableLedger (some total) rows = .ok ledger ∧
        ledger.netPaidAmountMinor = n ∧ ledger.withinBounds = true := by
  rw [payableNet_ok, netPaid_iff formed zero_safe, evaluatePayableLedger_eq safe nonneg]
  cases netPaid rows 0 with
  | error message => simp [Except.map]
  | ok net =>
      simp only [Except.ok.injEq, Except.map, exists_eq_left', decide_eq_true_eq]
      constructor
      · rintro ⟨rfl, within⟩
        exact ⟨rfl, within⟩
      · rintro ⟨rfl, within⟩
        exact ⟨rfl, within⟩

theorem payableNet_error (formed : ∀ row ∈ rows, WellFormed row) (safe : isSafeInteger total)
    (nonneg : 0 ≤ total) : (∃ failure, payableNet rows total = .error failure) ↔
      (∃ message, evaluatePayableLedger (some total) rows = .error message) ∨
        ∃ ledger, evaluatePayableLedger (some total) rows = .ok ledger ∧
          ledger.withinBounds = false := by
  have agrees := fun n => @payableNet_iff rows total n formed safe nonneg
  constructor
  · rintro ⟨failure, refused⟩
    cases evaluated : evaluatePayableLedger (some total) rows with
    | error message => exact .inl ⟨message, rfl⟩
    | ok ledger =>
        refine .inr ⟨ledger, rfl, ?_⟩
        by_contra within
        have returned := (agrees _).mpr ⟨ledger, evaluated, rfl, by simpa using within⟩
        rw [returned] at refused
        cases refused
  · intro missed
    cases returned : payableNet rows total with
    | error failure => exact ⟨failure, rfl⟩
    | ok n =>
        obtain ⟨ledger, evaluated, -, within⟩ := (agrees n).mp returned
        rcases missed with ⟨message, refused⟩ | ⟨other, evaluated', outside⟩
        · rw [evaluated] at refused
          cases refused
        · rw [evaluated] at evaluated'
          cases evaluated'
          rw [within] at outside
          cases outside

theorem countedAmount_accepted {row : PaymentLedgerRecord} (accepted : acceptedRow row = true) :
    countedAmount row =
      if row.invoiceExceptionId.isNone = true then row.amountMinor.getD 0 else 0 := by
  obtain ⟨amountMinor, recordType, exceptionId⟩ := row
  simp only [acceptedRow, Bool.and_eq_true] at accepted
  obtain ⟨-, linked⟩ := accepted
  unfold countedAmount
  by_cases refund : recordType = "refund"
  · subst refund
    cases exceptionId with
    | none => simp at linked
    | some id => rfl
  · simp [refund]

/-- The sum of the correction effect is the net, where there is one. -/
theorem correctionNet_payable (returned : payableNet rows total = .ok n) :
    correctionNet rows = .ok n := by
  have sums : ∀ {net : Int} {rows : List PaymentLedgerRecord}, payableSum rows net = .ok n →
      (rows.any fun row => !safeAnd row.amountMinor fun _ => true) = false ∧
        net + (rows.map fun row =>
          if row.invoiceExceptionId.isNone = true then row.amountMinor.getD 0 else 0).sum = n := by
    intro net rows summed
    induction rows generalizing net with
    | nil =>
        cases summed
        simp
    | cons row rest ih =>
        rw [payableSum] at summed
        split at summed
        · cases summed
        · rename_i accepted
          rw [Bool.not_eq_false] at accepted
          split at summed
          · cases summed
          · obtain ⟨sound, total⟩ := ih summed
            rw [countedAmount_accepted accepted] at total
            have amount : safeAnd row.amountMinor (fun _ => true) = true := by
              simp only [acceptedRow, Bool.and_eq_true] at accepted
              obtain ⟨⟨⟨checked, -⟩, -⟩, -⟩ := accepted
              unfold safeAnd at checked ⊢
              cases stated : row.amountMinor with
              | none => simp [stated] at checked
              | some value =>
                  simp only [stated, Option.any_some, Bool.and_eq_true] at checked ⊢
                  exact ⟨checked.1, trivial⟩
            rw [List.any_cons, amount, sound, List.map_cons, List.sum_cons]
            exact ⟨rfl, by omega⟩
  obtain ⟨sound, total⟩ := sums (payableNet_ok.mp returned).1
  unfold correctionNet
  rw [sound, if_neg Bool.false_ne_true, ← total, Int.zero_add]

end

/-! ## The correction of a refund -/

open ApprovalEffects (RefundContext CorrectionProposal correctedSum refundRowValid reversalOf
  correctionOf refundContext writeCorrection projectRequest projectException)

/-- What the pages are asked about the correction of a refund. -/
def correctionInput (refund : RefundContext) (original : PaymentRecord)
    (proposal : CorrectionProposal) : RefundCorrectionInput where
  affectedAmountMinor := some refund.exception.affectedAmountMinor
  replacementCoveredAmountMinor := some refund.exception.replacementCoveredAmountMinor
  refundedAmountMinor := some refund.exception.refundedAmountMinor
  originalRefundAmountMinor := some original.amountMinor
  proposedRefundAmountMinor := some proposal.amountMinor

/-- The refund ledger of an exception in key order. -/
def refundLedger (records : Table PaymentRecord) (exceptionId : Nat) : List PaymentRecord :=
  (records.select fun _ row => row.invoiceExceptionId == some exceptionId).map (·.2)

/-- A sum that lies between nothing and the amount affected. -/
def Within (refund : RefundContext) (corrected : Int) : Prop :=
  0 ≤ corrected ∧ corrected + refund.exception.replacementCoveredAmountMinor ≤
    refund.exception.affectedAmountMinor

theorem assertMoney_ok {value amount : Int} {message : String} :
    assertMoney (some value) message = .ok amount ↔
      value = amount ∧ isSafeInteger amount ∧ 0 ≤ amount := by
  unfold assertMoney
  dsimp only
  split
  · rename_i money
    rw [Except.ok.injEq]
    constructor
    · rintro rfl
      exact ⟨rfl, money⟩
    · exact fun both => both.1
  · rename_i other
    constructor
    · intro returned
      cases returned
    · rintro ⟨rfl, money⟩
      exact absurd money other

theorem except_bind_ok {ε α β : Type} {x : Except ε α} {f : α → Except ε β} {b : β} :
    (x >>= f) = .ok b ↔ ∃ a, x = .ok a ∧ f a = .ok b := by
  cases x <;> simp [bind, Except.bind]

theorem evaluateRefundCorrection_ok {refund : RefundContext} {original : PaymentRecord}
    {proposal : CorrectionProposal} {result : RefundCorrection}
    (evaluated : evaluateRefundCorrection (correctionInput refund original proposal) = .ok result) :
    (isSafeInteger refund.exception.refundedAmountMinor ∧ 0 ≤ refund.exception.refundedAmountMinor) ∧
      (isSafeInteger original.amountMinor ∧ 0 ≤ original.amountMinor) ∧
      isSafeInteger proposal.amountMinor ∧
      result.correctedRefundAmountMinor =
        refund.exception.refundedAmountMinor - original.amountMinor + proposal.amountMinor ∧
      (result.withinBounds = true ↔ isSafeInteger result.correctedRefundAmountMinor ∧
        Within refund result.correctedRefundAmountMinor) ∧
      (result.resolved = true ↔ result.withinBounds = true ∧
        result.correctedRefundAmountMinor + refund.exception.replacementCoveredAmountMinor =
          refund.exception.affectedAmountMinor) := by
  unfold evaluateRefundCorrection at evaluated
  simp only [except_bind_ok, correctionInput, assertMoney_ok] at evaluated
  obtain ⟨affected, ⟨rfl, safeAffected, -⟩, covered, ⟨rfl, safeCovered, nonneg⟩, refunded,
    ⟨rfl, safeRefunded⟩, amount, ⟨rfl, safeAmount⟩, proposed, ⟨rfl, safeProposed, -⟩, evaluated⟩ := evaluated
  refine ⟨safeRefunded, safeAmount, safeProposed, ?_⟩
  split at evaluated
  · rename_i money
    unfold evaluateExceptionRemediation at evaluated
    simp only [except_bind_ok, assertMoney_ok] at evaluated
    obtain ⟨remediation, ⟨_, ⟨rfl, -⟩, _, ⟨rfl, -⟩, _, ⟨rfl, -⟩, remediated⟩, evaluated⟩ := evaluated
    cases remediated
    cases evaluated
    dsimp only
    unfold isSafeInteger at *
    simp only [Within, decide_eq_true_eq]
    refine ⟨trivial, ?_, ?_⟩
    · omega
    · omega
  · rename_i outside
    cases evaluated
    dsimp only
    simp only [Within, Bool.false_eq_true, false_iff, false_and, true_and]
    constructor
    · rintro ⟨safe, low, -⟩
      exact outside ⟨low, safe⟩
    · trivial

theorem correctedSum_append (refund : RefundContext) (first second : List PaymentRecord)
    (start : Int) : correctedSum refund (first ++ second) start =
      (correctedSum refund first start) >>= correctedSum refund second := by
  induction first generalizing start with
  | nil => rfl
  | cons row rest ih =>
      rw [List.cons_append, correctedSum, correctedSum]
      split
      · rfl
      · split
        · rfl
        · exact ih _

theorem correctedSum_safe {refund : RefundContext} {rows : List PaymentRecord} {start corrected : Int}
    (safe : isSafeInteger start) (summed : correctedSum refund rows start = .ok corrected) :
    isSafeInteger corrected := by
  induction rows generalizing start with
  | nil =>
      cases summed
      exact safe
  | cons row rest ih =>
      rw [correctedSum] at summed
      split at summed
      · cases summed
      · split at summed
        · cases summed
        · rename_i within
          exact ih (not_not.mp within) summed

theorem correctedSum_valid {refund : RefundContext} {rows : List PaymentRecord} {start corrected : Int}
    (summed : correctedSum refund rows start = .ok corrected) :
    ∀ row ∈ rows, refundRowValid refund row = true := by
  induction rows generalizing start with
  | nil => exact fun row member => absurd member List.not_mem_nil
  | cons row rest ih =>
      rw [correctedSum] at summed
      split at summed
      · cases summed
      · rename_i valid
        split at summed
        · cases summed
        · intro other member
          rcases List.mem_cons.mp member with rfl | member
          · simpa using valid
          · exact ih summed other member

theorem refundContext_some {writes : List TableName} {original : PaymentRecord}
    {proposal : CorrectionProposal} {refund : RefundContext} {db : Database}
    (context : (refundContext original proposal : Tx writes (Option RefundContext)).Returns
      db (some refund) [] db) :
    original.recordType = .refund ∧ original.invoiceExceptionId = some refund.exceptionId ∧
      refund.requestIds.contains original.paymentRequestId = true ∧
      refund.requestIds.contains proposal.paymentRequestId = true := by
  unfold refundContext at context
  split at context
  · obtain ⟨missing, -, -⟩ := returns_pure.mp context
    cases missing
  · rename_i isRefund
    simp only [returns_bind_orThrow, returns_bind_select, returns_bind_query,
      returns_bind_refuseIf, returns_pure] at context
    obtain ⟨exceptionId, linked, exception, -, allocated, same, -, -⟩ := context
    cases same
    rw [not_or, Bool.not_eq_false, Bool.not_eq_false] at allocated
    exact ⟨not_not.mp isRefund, linked, allocated.1, allocated.2⟩

/-- The effect read the context of the refund, reversed and replaced it, and
projected the requests; the exception is to be projected next. -/
structure Replaced (command : CommandContext) (requestedBy originalId : Nat)
    (original : PaymentRecord) (proposal : CorrectionProposal) (refund : RefundContext)
    (db late : Database) : Prop where
  found : (db paymentRecords).find? originalId = some original
  positive : 1 ≤ proposal.amountMinor
  context : (refundContext original proposal : Tx [] (Option RefundContext)).Returns
    db (some refund) [] db
  written : ∃ mid requests sent, (writeCorrection command requestedBy originalId original
      proposal).Returns db () [] mid ∧
    (forEach (projectRequest command original proposal) requests).Returns mid () sent late

section

variable {command : CommandContext} {requestedBy originalId : Nat} {original : PaymentRecord}
  {proposal : CorrectionProposal} {refund : RefundContext} {db late : Database}
  {result : RefundCorrection}

theorem Replaced.records
    (replaced : Replaced command requestedBy originalId original proposal refund db late) :
    refundLedger (late paymentRecords) refund.exceptionId =
      refundLedger (db paymentRecords) refund.exceptionId ++
        [reversalOf command requestedBy originalId original,
          correctionOf command requestedBy originalId original proposal] := by
  obtain ⟨mid, requests, sent, write, project⟩ := replaced.written
  obtain ⟨-, -, ⟨-, missing⟩ | ⟨-, context, same, linked, -⟩⟩ :=
    ApprovalEffects.refundContext_returns replaced.context
  · cases missing
  · cases same
    rw [project.unwritten paymentRecords (by decide), (ApprovalEffects.writeCorrection_returns write).2]
    simp only [refundLedger, Table.select_insert, reversalOf, correctionOf, linked, beq_self_eq_true,
      if_true, List.map_append, List.map_cons, List.map_nil, List.append_assoc, List.cons_append,
      List.nil_append]

theorem Replaced.exceptions
    (replaced : Replaced command requestedBy originalId original proposal refund db late) :
    (late invoiceExceptions).find? refund.exceptionId = some refund.exception := by
  obtain ⟨mid, requests, sent, write, project⟩ := replaced.written
  obtain ⟨-, -, ⟨-, missing⟩ | ⟨-, context, same, -, stored, -⟩⟩ :=
    ApprovalEffects.refundContext_returns replaced.context
  · cases missing
  · cases same
    rw [project.unwritten invoiceExceptions (by decide), write.unwritten invoiceExceptions (by decide)]
    exact stored

/-- The sum that the effect computes is what the pages call the corrected amount. -/
theorem Replaced.corrected
    (replaced : Replaced command requestedBy originalId original proposal refund db late)
    (ledger : ((refundLedger (db paymentRecords) refund.exceptionId).map (·.amountMinor)).sum =
      refund.exception.refundedAmountMinor)
    (evaluated : evaluateRefundCorrection (correctionInput refund original proposal) = .ok result)
    {corrected : Int}
    (summed : correctedSum refund (refundLedger (late paymentRecords) refund.exceptionId) 0 =
      .ok corrected) :
    corrected = result.correctedRefundAmountMinor ∧ isSafeInteger corrected := by
  refine ⟨?_, correctedSum_safe zero_safe summed⟩
  obtain ⟨-, -, -, same, -⟩ := evaluateRefundCorrection_ok evaluated
  rw [ApprovalEffects.correctedSum_eq summed, replaced.records, List.map_append, List.sum_append,
    ledger, same]
  simp only [reversalOf, correctionOf, List.map_cons, List.map_nil, List.sum_cons, List.sum_nil]
  omega

/-- Where the ledger was sound, the sum stays sound unless it leaves the safe
integers. -/
theorem Replaced.sums
    (replaced : Replaced command requestedBy originalId original proposal refund db late)
    (sound : correctedSum refund (refundLedger (db paymentRecords) refund.exceptionId) 0 =
      .ok refund.exception.refundedAmountMinor)
    (evaluated : evaluateRefundCorrection (correctionInput refund original proposal) = .ok result)
    (safe : isSafeInteger result.correctedRefundAmountMinor) :
    correctedSum refund (refundLedger (late paymentRecords) refund.exceptionId) 0 =
      .ok result.correctedRefundAmountMinor := by
  obtain ⟨safeRefunded, safeOriginal, safeProposed, same, -⟩ := evaluateRefundCorrection_ok evaluated
  obtain ⟨isRefund, linked, here, there⟩ := refundContext_some replaced.context
  have listed : original ∈ refundLedger (db paymentRecords) refund.exceptionId := by
    refine List.mem_map.mpr ⟨(originalId, original), Table.mem_select.mpr ⟨replaced.found, ?_⟩, rfl⟩
    simpa using linked
  have valid := correctedSum_valid sound original listed
  have positive := replaced.positive
  simp only [refundRowValid, isRefund, Bool.and_eq_true, decide_eq_true_eq] at valid
  have reversal : refundRowValid refund (reversalOf command requestedBy originalId original) = true := by
    simp only [refundRowValid, reversalOf, here, Bool.and_eq_true]
    unfold isSafeInteger at *
    exact ⟨⟨trivial, decide_eq_true (by omega)⟩, decide_eq_true (by omega)⟩
  have correction : refundRowValid refund
      (correctionOf command requestedBy originalId original proposal) = true := by
    simp only [refundRowValid, correctionOf, there, Bool.and_eq_true]
    unfold isSafeInteger at *
    exact ⟨⟨trivial, decide_eq_true (by omega)⟩, decide_eq_true (by omega)⟩
  have between : isSafeInteger (refund.exception.refundedAmountMinor +
      (reversalOf command requestedBy originalId original).amountMinor) := by
    simp only [reversalOf]
    unfold isSafeInteger at *
    omega
  have reached : refund.exception.refundedAmountMinor +
      (reversalOf command requestedBy originalId original).amountMinor +
        (correctionOf command requestedBy originalId original proposal).amountMinor =
          result.correctedRefundAmountMinor := by
    rw [same]
    simp only [reversalOf, correctionOf]
    omega
  rw [replaced.records, correctedSum_append, sound]
  simp only [bind, Except.bind, correctedSum, reversal, correction, Bool.true_eq_false, if_false]
  rw [if_neg (not_not_intro between), reached, if_neg (not_not_intro safe)]

theorem Replaced.bounds
    (replaced : Replaced command requestedBy originalId original proposal refund db late)
    (sound : correctedSum refund (refundLedger (db paymentRecords) refund.exceptionId) 0 =
      .ok refund.exception.refundedAmountMinor)
    (evaluated : evaluateRefundCorrection (correctionInput refund original proposal) = .ok result) :
    result.withinBounds = true ↔
      ∃ db', (projectException command refund).Returns late () [] db' := by
  obtain ⟨-, -, -, -, bounds, -⟩ := evaluateRefundCorrection_ok evaluated
  have ledger := ApprovalEffects.correctedSum_eq sound
  rw [Int.zero_add] at ledger
  simp only [projectException, returns_bind_query, returns_bind_ofExcept, returns_bind_refuseIf,
    returns_updateRow]
  rw [bounds]
  constructor
  · rintro ⟨safe, low, high⟩
    refine ⟨_, result.correctedRefundAmountMinor, replaced.sums sound evaluated safe, ?_,
      ⟨refund.exception, replaced.exceptions, by simp⟩, trivial, rfl⟩
    omega
  · rintro ⟨db', corrected, summed, inside, -⟩
    obtain ⟨rfl, safe⟩ := replaced.corrected ledger.symm evaluated summed
    refine ⟨safe, ?_, ?_⟩ <;> omega

theorem Replaced.stored
    (replaced : Replaced command requestedBy originalId original proposal refund db late)
    (ledger : ((refundLedger (db paymentRecords) refund.exceptionId).map (·.amountMinor)).sum =
      refund.exception.refundedAmountMinor)
    (evaluated : evaluateRefundCorrection (correctionInput refund original proposal) = .ok result)
    {db' : Database} (returns : (projectException command refund).Returns late () [] db') :
    result.withinBounds = true ∧ ∃ row, (db' invoiceExceptions).find? refund.exceptionId = some row ∧
      row.refundedAmountMinor = result.correctedRefundAmountMinor ∧
      row.status = if result.resolved then .resolved else .awaitingRemediation := by
  obtain ⟨-, -, -, -, bounds, resolves⟩ := evaluateRefundCorrection_ok evaluated
  simp only [projectException, returns_bind_query, returns_bind_ofExcept, returns_bind_refuseIf,
    returns_updateRow] at returns
  obtain ⟨corrected, summed, inside, -, -, rfl⟩ := returns
  obtain ⟨rfl, safe⟩ := replaced.corrected ledger evaluated summed
  have within : result.withinBounds = true := bounds.mpr ⟨safe, by omega, by omega⟩
  refine ⟨within, ?_⟩
  rw [Store.put_same, Table.find?_modify_self _ replaced.exceptions]
  refine ⟨_, rfl, rfl, ?_⟩
  rw [within] at resolves
  simp only [true_and] at resolves
  simp only [decide_eq_true_eq, resolves]

end

/-! ## The evaluators agree -/

/-- The pages and the API take the same net of a payable ledger, which is the one
that the correction effect projects; and what the pages say of the correction of
a refund is what the effect makes of it, if the refunded amount is that of its
ledger. -/
theorem evaluators_agree :
    (∀ {rows : List PaymentLedgerRecord} {total : Int}, (∀ row ∈ rows, WellFormed row) →
      isSafeInteger total → 0 ≤ total →
        (∀ n, payableNet rows total = .ok n ↔
          ∃ ledger, evaluatePayableLedger (some total) rows = .ok ledger ∧
            ledger.netPaidAmountMinor = n ∧ ledger.withinBounds = true) ∧
        ((∃ failure, payableNet rows total = .error failure) ↔
          (∃ message, evaluatePayableLedger (some total) rows = .error message) ∨
            ∃ ledger, evaluatePayableLedger (some total) rows = .ok ledger ∧
              ledger.withinBounds = false) ∧
        ∀ n, payableNet rows total = .ok n → correctionNet rows = .ok n) ∧
    (∀ (records : List PaymentRecord) (total : Int),
      payableNet (records.map rowOf) total = Finance.payableNet records total ∧
        correctionNet (records.map rowOf) = ApprovalEffects.correctionNet records) ∧
    ∀ {command : CommandContext} {requestedBy originalId : Nat} {original : PaymentRecord}
      {proposal : CorrectionProposal} {refund : RefundContext} {db late : Database}
      {result : RefundCorrection},
      Replaced command requestedBy originalId original proposal refund db late →
      ((refundLedger (db paymentRecords) refund.exceptionId).map (·.amountMinor)).sum =
        refund.exception.refundedAmountMinor →
      evaluateRefundCorrection (correctionInput refund original proposal) = .ok result →
        (∀ corrected, correctedSum refund
            (refundLedger (late paymentRecords) refund.exceptionId) 0 = .ok corrected →
          corrected = result.correctedRefundAmountMinor) ∧
        (∀ db', (projectException command refund).Returns late () [] db' →
          result.withinBounds = true ∧
            ∃ row, (db' invoiceExceptions).find? refund.exceptionId = some row ∧
              row.refundedAmountMinor = result.correctedRefundAmountMinor ∧
              row.status = if result.resolved then .resolved else .awaitingRemediation) ∧
        ((∃ sum, correctedSum refund (refundLedger (db paymentRecords) refund.exceptionId) 0 =
            .ok sum) →
          (result.withinBounds = true ↔
            ∃ db', (projectException command refund).Returns late () [] db')) := by
  refine ⟨?_, ?_, ?_⟩
  · intro rows total formed safe nonneg
    exact ⟨fun n => payableNet_iff formed safe nonneg, payableNet_error formed safe nonneg,
      fun n returned => correctionNet_payable returned⟩
  · intro records total
    exact ⟨payableNet_rowOf records total, correctionNet_rowOf records⟩
  · intro command requestedBy originalId original proposal refund db late result replaced ledger
      evaluated
    refine ⟨?_, ?_, ?_⟩
    · intro corrected summed
      exact (replaced.corrected ledger evaluated summed).1
    · intro db' returns
      exact replaced.stored ledger evaluated returns
    · rintro ⟨sum, summed⟩
      have total := ApprovalEffects.correctedSum_eq summed
      rw [ledger, Int.zero_add] at total
      exact replaced.bounds (total ▸ summed) evaluated

/-! ## A refund of five, corrected to three -/

def approver : CommandContext where
  access := { userId := 2, sessionId := some 2, roles := [.finance], factoryId := none
              supplierId := none }
  now := 1
  clock := 1
  clockText := "1"
  today := "1"
  randomUUID := toString
  sha256 := id

def refundOfFive : PaymentRecord where
  paymentRequestId := 1
  amountMinor := 5
  paidAt := "1"
  bankReference := "R"
  recordType := .refund
  reversesPaymentRecordId := none
  correctsPaymentRecordId := none
  invoiceExceptionId := some 1
  recordedBy := 1
  reviewedBy := none
  reviewStatus := .notRequired
  updatedAt := 1

def refundedException : InvoiceException where
  invoiceId := 1
  exceptionType := .voided
  affectedAmountMinor := 5
  replacementDeadline := "1"
  replacementCoveredAmountMinor := 2
  refundedAmountMinor := 5
  status := .awaitingRemediation
  riskReleasedBy := none
  riskReleasedAt := none
  resolvedAt := none
  updatedAt := 1

def refundedDatabase : Database :=
  ((Store.put (fun _ => Table.empty) paymentRecords (Table.empty.insert refundOfFive)).put
    invoiceExceptions (Table.empty.insert refundedException)).put
      invoicePaymentAllocations (Table.empty.insert ⟨1, 1, 5, .frozen⟩)

def correctedToThree : CorrectionProposal := ⟨1, 3, "2", "S"⟩

def refundOfException : RefundContext := ⟨1, refundedException, [1]⟩

theorem refundOfFive_replaced :
    ∃ late, Replaced approver 1 1 refundOfFive correctedToThree refundOfException
      refundedDatabase late := by
  have returned : ((writeCorrection approver 1 1 refundOfFive correctedToThree).run
      refundedDatabase).toOption.isSome = true := by decide +kernel
  cases run : (writeCorrection approver 1 1 refundOfFive correctedToThree).run refundedDatabase with
  | error failure =>
      rw [run] at returned
      cases returned
  | ok committed =>
      obtain ⟨⟨⟩, sent, store⟩ := committed
      obtain ⟨rfl, -⟩ := ApprovalEffects.writeCorrection_returns run
      refine ⟨store, rfl, by decide, rfl, store, [], [], run, ?_⟩
      exact returns_forEach_nil.mpr ⟨rfl, rfl⟩

theorem evaluators_agree_lowered : ∃ late result,
    evaluateRefundCorrection (correctionInput refundOfException refundOfFive correctedToThree) =
        .ok result ∧
      result.correctedRefundAmountMinor = 3 ∧ result.resolved = true ∧
      ∃ db', (projectException approver refundOfException).Returns late () [] db' := by
  obtain ⟨late, replaced⟩ := refundOfFive_replaced
  refine ⟨late, ⟨3, some 5, true, true⟩, rfl, rfl, rfl, ?_⟩
  exact ((evaluators_agree.2.2 replaced rfl rfl).2.2 ⟨5, rfl⟩).mp rfl

end SupplyChain.PaymentGuard
