import SupplyChain.Platform

/-!
The finance commands. Invoices are verified by two roles and then allocated to
the payment requests of their purchase order; an invalidated invoice opens an
exception that refunds and replacement invoices remedy; payments and refunds
are rows of one ledger, and corrections of it are requested for approval.
-/

namespace SupplyChain.Finance

open Relational Transaction TableName

variable {writes : List TableName} {α : Type} {db db' : Database} {a : α} {sent : List DomainEvent}

/-! ## Versions, the ledger and business keys -/

def objectVersion (updatedAt : Nat) : Tx writes Nat := do
  refuseIf (¬ isSafeInteger updatedAt ∨ updatedAt < 1) (versionConflict "Finance version unavailable")
  return updatedAt

@[simp]
theorem returns_bind_objectVersion {updatedAt : Nat} {f : Nat → Tx writes α} :
    (objectVersion updatedAt >>= f).Returns db a sent db' ↔
      (isSafeInteger updatedAt ∧ 1 ≤ updatedAt) ∧ (f updatedAt).Returns db a sent db' := by
  simp [returns_bind, objectVersion, Nat.one_le_iff_ne_zero]

/-- A row that `payableNet` accepts: a reversal is negative and every other row
positive, a payment has no exception and a refund has one. -/
def validRecord (row : PaymentRecord) : Bool :=
  decide (isSafeInteger row.amountMinor) &&
    (if row.recordType = .reversal then decide (row.amountMinor < 0)
      else decide (0 < row.amountMinor)) &&
    !(row.recordType == .payment && row.invoiceExceptionId.isSome) &&
    !(row.recordType == .refund && row.invoiceExceptionId.isNone)

/-- What a row adds to the payable net. Refunds and rows linked to an exception
do not reopen a paid request. -/
def payableAmount (row : PaymentRecord) : Int :=
  if row.recordType ≠ .refund ∧ row.invoiceExceptionId = none then row.amountMinor else 0

def payableSum : List PaymentRecord → Int → Except Failure Int
  | [], net => .ok net
  | row :: rest, net =>
      if validRecord row = false then .error (conflict "Payment ledger is invalid")
      else if ¬ isSafeInteger (net + payableAmount row) then
        .error (conflict "Payment ledger exceeds safe bounds")
      else payableSum rest (net + payableAmount row)

def payableNet (rows : List PaymentRecord) (totalAmountMinor : Int) : Except Failure Int := do
  let net ← payableSum rows 0
  if net < 0 ∨ totalAmountMinor < net then
    .error (conflict "Payment ledger is outside payable bounds")
  else .ok net

/-- The ledger rows of a payment request in key order. -/
def ledgerOf (db : Database) (paymentRequestId : Nat) : List PaymentRecord :=
  ((db paymentRecords).select fun _ row => row.paymentRequestId == paymentRequestId).map (·.2)

/-- The claim of a caller with a session. -/
def stepUpClaim (command : CommandContext) (challengeNo action objectType : String)
    (objectId version : Nat) (payload : JsonValue) : Option ApprovalClaim :=
  command.access.sessionId.map fun sessionId =>
    { challengeNo, userId := command.access.userId, sessionId, action, objectType, objectId
      objectVersion := version, requestDigest := payloadDigest command payload }

def stepUp [Writes authChallenges writes] (command : CommandContext) (challengeNo action : String)
    (objectType : String) (objectId version : Nat) (payload : JsonValue) : Tx writes Unit := do
  let claim ← orThrow
    (stepUpClaim command challengeNo action objectType objectId version payload)
    (forbidden "Step-up requires an authenticated session")
  consumeStepUpClaim command claim

@[simp]
theorem returns_stepUp [Writes authChallenges writes] {command : CommandContext}
    {challengeNo action objectType : String} {objectId version : Nat} {payload : JsonValue}
    {u : Unit} :
    (stepUp command challengeNo action objectType objectId version payload : Tx writes Unit).Returns
        db u sent db' ↔
      ∃ claim : ApprovalClaim, stepUpClaim command challengeNo action objectType objectId version
          payload = some claim ∧
        ((db authChallenges).select fun _ row => row.matches claim command.clock).length = 1 ∧
        sent = [] ∧
        db' = db.put authChallenges (consumedChallenges (db authChallenges) command claim) := by
  simp [stepUp]

@[simp]
theorem returns_bind_stepUp [Writes authChallenges writes] {command : CommandContext}
    {challengeNo action objectType : String} {objectId version : Nat} {payload : JsonValue}
    {f : Unit → Tx writes α} :
    (stepUp command challengeNo action objectType objectId version payload >>= f).Returns
        db a sent db' ↔
      ∃ claim : ApprovalClaim, stepUpClaim command challengeNo action objectType objectId version
          payload = some claim ∧
        ((db authChallenges).select fun _ row => row.matches claim command.clock).length = 1 ∧
        (f ()).Returns
          (db.put authChallenges (consumedChallenges (db authChallenges) command claim))
          a sent db' := by
  simp [returns_bind, Unique.exists_iff, and_assoc]

def claimBusinessKey [Writes businessKeys writes] (keyType : BusinessKeyType) (keyValue : String) :
    Tx writes Unit := do
  let _ ← insertUnique businessKeys (fun row => row.keyType == keyType && row.keyValue == keyValue)
    { keyType, keyValue, aggregateId := none } (conflict "Financial business key already exists")
  return ()

@[simp]
theorem returns_bind_claimBusinessKey [Writes businessKeys writes] {keyType : BusinessKeyType}
    {keyValue : String} {f : Unit → Tx writes α} :
    (claimBusinessKey keyType keyValue >>= f).Returns db a sent db' ↔
      ((db businessKeys).any fun _ row => row.keyType == keyType && row.keyValue == keyValue) =
          false ∧
        (f ()).Returns (db.put businessKeys
          ((db businessKeys).insert { keyType, keyValue, aggregateId := none })) a sent db' := by
  have claimed : ∀ {u : Unit} {db' : Database} {sent : List DomainEvent},
      (claimBusinessKey keyType keyValue : Tx writes Unit).Returns db u sent db' ↔
        ((db businessKeys).any fun _ row => row.keyType == keyType && row.keyValue == keyValue) =
            false ∧ sent = [] ∧ db' = db.put businessKeys
          ((db businessKeys).insert { keyType, keyValue, aggregateId := none }) := by
    simp [claimBusinessKey]
  simp [returns_bind, claimed, Unique.exists_iff]

def bindBusinessKey [Writes businessKeys writes] (keyType : BusinessKeyType) (keyValue : String)
    (aggregateId : Nat) : Tx writes Unit :=
  updateWhere businessKeys (fun _ row => row.keyType == keyType && row.keyValue == keyValue)
    fun row => { row with aggregateId := some aggregateId }

@[simp]
theorem returns_bind_bindBusinessKey [Writes businessKeys writes] {keyType : BusinessKeyType}
    {keyValue : String} {aggregateId : Nat} {f : Unit → Tx writes α} :
    (bindBusinessKey keyType keyValue aggregateId >>= f).Returns db a sent db' ↔
      (f ()).Returns (db.put businessKeys ((db businessKeys).update
        (fun _ row => row.keyType == keyType && row.keyValue == keyValue)
        fun row => { row with aggregateId := some aggregateId })) a sent db' :=
  returns_bind_updateWhere

/-- `GREATEST(DATE_ADD(updated_at, INTERVAL 1000 MICROSECOND), CURRENT_TIMESTAMP(3))`. -/
def laterThan (updatedAt now : Nat) : Nat := max (updatedAt + 1) now

/-! ## Invoices -/

inductive CoverageInput
  | fullOrder | deliveryBatch | order | shipment
  deriving DecidableEq

def CoverageInput.normalized : CoverageInput → CoverageMode
  | .fullOrder | .order => .fullOrder
  | .deliveryBatch | .shipment => .deliveryBatch

structure CreateInvoice where
  factoryId : Nat
  purchaseOrderId : Nat
  invoiceNo : String
  invoiceType : InvoiceType
  coverageMode : CoverageInput
  deliveryBatchId : Option Nat := none
  amountTaxIncludedMinor : Int
  taxAmountMinor : Int
  expectedAmountMinor : Option Int := none
  issuedAt : String
  fileId : Nat

/-- The expected amount of an invoice for a delivery batch is stated. -/
def statedAmount (body : CreateInvoice) : Tx writes Int :=
  if body.coverageMode.normalized = .fullOrder then return 1
  else integer (body.expectedAmountMinor.getD 0) "expectedAmountMinor"

def coveredBatch (body : CreateInvoice) : Tx writes (Option Nat) :=
  if body.coverageMode.normalized = .deliveryBatch then
    optionalInteger body.deliveryBatchId "deliveryBatchId"
  else return none

def createInvoice (command : CommandContext) (body : CreateInvoice) :
    Tx [factoryInvoices] JsonValue := do
  requireRole command.access [.admin, .supplyChain]
  let factoryId ← identifier body.factoryId "factoryId"
  let purchaseOrderId ← identifier body.purchaseOrderId "purchaseOrderId"
  let invoiceNo ← string body.invoiceNo "invoiceNo" 191
  let coverageMode := body.coverageMode.normalized
  let amount ← integer body.amountTaxIncludedMinor "amountTaxIncludedMinor"
  let taxAmountMinor ← integer body.taxAmountMinor "taxAmountMinor" 0
  let stated ← statedAmount body
  let _ ← string body.issuedAt "issuedAt" 100
  let fileId ← identifier body.fileId "fileId"
  let file ← requireCleanFile command.access fileId "invoice" "purchase_order" purchaseOrderId
  let found ← select purchaseOrders purchaseOrderId
  let order ← orThrow found (notFound "Purchase order not found")
  let expected := if coverageMode = .fullOrder then order.totalTaxIncludedMinor else stated
  let deliveryBatchId ← coveredBatch body
  let id ← insertUnique factoryInvoices (fun row => row.invoiceNo == invoiceNo)
    { factoryId, purchaseOrderId, coverageMode, deliveryBatchId, invoiceNo
      invoiceType := body.invoiceType, amountTaxIncludedMinor := amount, taxAmountMinor
      fileKey := file.objectKey, status := .received, expectedAmountMinor := expected
      amountMatchesExpected := decide (amount = expected), mismatchAmountMinor := amount - expected }
    (.duplicateKey factoryInvoices)
  domainEvent .invoiceRegistered .invoice id
  return .object [("invoice", .object [("id", .number id), ("factoryId", .number factoryId),
    ("purchaseOrderId", .number purchaseOrderId), ("invoiceNo", .text invoiceNo),
    ("invoiceType", .text body.invoiceType.name), ("coverageMode", .text coverageMode.name),
    ("amountTaxIncludedMinor", .number amount), ("expectedAmountMinor", .number expected),
    ("amountMatchesExpected", .boolean (decide (amount = expected))),
    ("status", .text "received")]), ("verificationBlocked", .boolean (decide (amount ≠ expected)))]

/-- `ORDER BY pr.planned_payment_date ASC, pr.id ASC`. -/
def paidFirst (a b : Nat × FactoryPaymentRequest) : Prop :=
  ((compare a.2.plannedPaymentDate b.2.plannedPaymentDate).then (compare a.1 b.1)).isLE = true

instance : DecidableRel paidFirst := fun _ _ => inferInstanceAs (Decidable (_ = true))

/-- The payment requests with an item of the purchase order. -/
def requestsOf (db : Database) (purchaseOrderId : Nat) : List (Nat × FactoryPaymentRequest) :=
  ((db factoryPaymentRequests).select fun id _ =>
    (db factoryPaymentRequestItems).any fun _ item =>
      item.purchaseOrderId == purchaseOrderId && item.paymentRequestId == id).insertionSort
    paidFirst

/-- One round of the allocation loop: a positive amount of the invoice covers
the request. -/
def allocateRequest (command : CommandContext) (invoiceId requestId : Nat)
    (request : FactoryPaymentRequest) (allocated : Int) :
    Tx [invoicePaymentAllocations, factoryPaymentRequests] Unit := do
  let _ ← insertUnique invoicePaymentAllocations
    (fun row => row.invoiceId == invoiceId && row.paymentRequestId == requestId)
    { invoiceId, paymentRequestId := requestId, allocatedAmountMinor := allocated
      status := .active }
    (.duplicateKey invoicePaymentAllocations)
  let newCoverage := request.invoiceCoveredAmountMinor + allocated
  updateWhere factoryPaymentRequests (fun key _ => key == requestId)
    fun row => { row with
      invoiceCoveredAmountMinor := newCoverage
      status := if request.totalAmountMinor ≤ newCoverage then .generated else .waitingInvoice
      updatedAt := command.now }

/-- What the invoices of a request do not cover yet. -/
def outstanding (request : FactoryPaymentRequest) : Int :=
  max 0 (request.totalAmountMinor - request.invoiceCoveredAmountMinor)

/-- The loop of `allocateInvoice`; it returns what it allocated. -/
def allocateFrom (command : CommandContext) (invoiceId : Nat) :
    List (Nat × FactoryPaymentRequest) → Int →
      Tx [invoicePaymentAllocations, factoryPaymentRequests] Int
  | [], _ => return 0
  | (requestId, request) :: rest, remaining =>
      if remaining = 0 then return 0
      else if min remaining (outstanding request) = 0 then
        allocateFrom command invoiceId rest remaining
      else do
        let allocated := min remaining (outstanding request)
        allocateRequest command invoiceId requestId request allocated
        let later ← allocateFrom command invoiceId rest (remaining - allocated)
        return allocated + later

def allocateInvoice (command : CommandContext) (invoiceId : Nat) (invoice : FactoryInvoice) :
    Tx [invoicePaymentAllocations, factoryPaymentRequests] Int := do
  let requests ← query fun db => requestsOf db invoice.purchaseOrderId
  allocateFrom command invoiceId requests invoice.amountTaxIncludedMinor

structure VerifyInvoice where
  invoiceId : Nat
  verifierRole : VerifierRole
  decision : Decision
  rejectionReason : Option String := none

def setInvoiceStatus [Writes factoryInvoices writes] (invoiceId : Nat) (status : InvoiceStatus) :
    Tx writes Unit :=
  updateRow factoryInvoices invoiceId (fun row => row.status == .received)
    (fun row => { row with status })
    (versionConflict "Invoice changed concurrently")

/-- A rejection needs a reason. -/
def rejectionText (body : VerifyInvoice) : Tx writes (Option String) :=
  if body.decision = .rejected then do
    let reason ← string (body.rejectionReason.getD "") "rejectionReason"
    return some reason
  else return none

/-- The invoice is rejected, or verified and allocated once both roles approved;
the amount allocated is returned. -/
def settleInvoice (command : CommandContext) (invoiceId : Nat) (invoice : FactoryInvoice)
    (decision : Decision) (fullyVerified : Bool) :
    Tx [factoryInvoices, invoicePaymentAllocations, factoryPaymentRequests] Int :=
  if decision = .rejected then do
    setInvoiceStatus invoiceId .rejected
    return 0
  else if fullyVerified then do
    setInvoiceStatus invoiceId .verified
    (allocateInvoice command invoiceId invoice).widen
  else return 0

def verifyInvoice (command : CommandContext) (body : VerifyInvoice) :
    Tx [factoryInvoices, invoiceVerifications, invoicePaymentAllocations, factoryPaymentRequests]
      JsonValue := do
  requireRole command.access [.admin, .supplyChain, .finance]
  let invoiceId ← identifier body.invoiceId "invoiceId"
  refuseIf (hasRole command.access [.admin, body.verifierRole.role] = false)
    (forbidden "Cannot act for another verifier role")
  let found ← select factoryInvoices invoiceId
  let invoice ← orThrow found (notFound "Invoice not found")
  refuseIf (invoice.status ≠ .received) (versionConflict "Invoice is not in a verifiable state")
  refuseIf (body.decision = .approved ∧ invoice.amountMatchesExpected = false)
    (conflict "Invoice amount mismatch blocks approval")
  let existing ← query fun db => (db invoiceVerifications).select fun _ row =>
    row.invoiceId == invoiceId
  refuseIf (existing.any (fun r => r.2.verifierRole == body.verifierRole) = true)
    (conflict "Verifier role already decided")
  refuseIf (existing.any (fun r => r.2.verifiedBy == command.access.userId) = true)
    (conflict "One person cannot perform both verification roles")
  let rejectionReason ← rejectionText body
  let _ ← insertUnique invoiceVerifications
    (fun row => row.invoiceId == invoiceId && row.verifierRole == body.verifierRole)
    { invoiceId, verifierRole := body.verifierRole, decision := body.decision, rejectionReason
      verifiedBy := command.access.userId }
    (.duplicateKey invoiceVerifications)
  let approvedBy := fun (role : VerifierRole) =>
    existing.any (fun r => r.2.decision == .approved && r.2.verifierRole == role) ||
      (body.decision == .approved && body.verifierRole == role)
  let fullyVerified := approvedBy .supplyChain && approvedBy .finance
  let allocatedAmountMinor ←
    (settleInvoice command invoiceId invoice body.decision fullyVerified).widen
  domainEvent
    (if body.decision = .rejected then .invoiceRejected
      else if fullyVerified then .invoiceVerified else .invoiceVerificationRecorded)
    .invoice invoiceId (some body.verifierRole.name)
  return .object [("success", .boolean true), ("fullyVerified", .boolean fullyVerified),
    ("allocatedAmountMinor", .number allocatedAmountMinor)]

structure InvalidateInvoice where
  invoiceId : Nat
  exceptionType : InvoiceExceptionType
  reason : String
  replacementDeadline : String

/-- Freezes one allocation and takes its amount back from the coverage. -/
def freezeAllocation (command : CommandContext) (allocation : Nat × InvoicePaymentAllocation) :
    Tx [invoicePaymentAllocations, factoryPaymentRequests] Unit := do
  updateWhere invoicePaymentAllocations (fun key _ => key == allocation.1)
    fun row => { row with status := .frozen }
  updateWhere factoryPaymentRequests (fun key _ => key == allocation.2.paymentRequestId)
    fun row => { row with
      invoiceCoveredAmountMinor :=
        max 0 (row.invoiceCoveredAmountMinor - allocation.2.allocatedAmountMinor)
      status := .invoiceExceptionFrozen
      updatedAt := command.now }

def invalidateInvoice (command : CommandContext) (body : InvalidateInvoice) :
    Tx [factoryInvoices, invoiceExceptions, invoicePaymentAllocations, factoryPaymentRequests]
      JsonValue := do
  requireRole command.access [.admin, .finance]
  let invoiceId ← identifier body.invoiceId "invoiceId"
  let _ ← string body.reason "reason"
  let replacementDeadline ← string body.replacementDeadline "replacementDeadline" 100
  let found ← select factoryInvoices invoiceId
  let invoice ← orThrow found (notFound "Invoice not found")
  let active ← query fun db => (db invoiceExceptions).any fun _ row =>
    row.invoiceId == invoiceId && row.status != .resolved
  refuseIf (active = true) (conflict "Invoice already has an active exception")
  let allocations ← query fun db => (db invoicePaymentAllocations).select fun _ row =>
    row.invoiceId == invoiceId && row.status == .active
  (forEach (freezeAllocation command) allocations).widen
  updateWhere factoryInvoices (fun key _ => key == invoiceId)
    fun row => { row with status := .invalidated }
  let exceptionId ← insertInto invoiceExceptions
    { invoiceId, exceptionType := body.exceptionType
      affectedAmountMinor := invoice.amountTaxIncludedMinor, replacementDeadline
      replacementCoveredAmountMinor := 0, refundedAmountMinor := 0
      status := .awaitingRemediation, riskReleasedBy := none, riskReleasedAt := none
      resolvedAt := none, updatedAt := command.now }
  domainEvent .invoiceInvalidated .invoiceException exceptionId
  return .object [("exception", .object [("id", .number exceptionId),
    ("invoiceId", .number invoiceId), ("exceptionType", .text body.exceptionType.name),
    ("affectedAmountMinor", .number invoice.amountTaxIncludedMinor),
    ("replacementDeadline", .text replacementDeadline),
    ("status", .text "awaiting_remediation")]),
    ("frozenPaymentRequestCount", .number allocations.length)]

structure LinkReplacementInvoice where
  invoiceExceptionId : Nat
  replacementInvoiceId : Nat
  coveredAmountMinor : Int

/-- An exception joined with its invoice and the proposed replacement. -/
structure ReplacementRow where
  exception : InvoiceException
  original : FactoryInvoice
  replacement : FactoryInvoice

def replacementRow (db : Database) (exceptionId replacementInvoiceId : Nat) :
    Option ReplacementRow :=
  ((db invoiceExceptions).find? exceptionId).bind fun exception =>
    ((db factoryInvoices).find? exception.invoiceId).bind fun original =>
      ((db factoryInvoices).find? replacementInvoiceId).map fun replacement =>
        { exception, original, replacement }

def linkReplacementInvoice (command : CommandContext) (body : LinkReplacementInvoice) :
    Tx [invoiceExceptions, replacementInvoiceLinks] JsonValue := do
  requireRole command.access [.admin, .finance, .supplyChain]
  let exceptionId ← identifier body.invoiceExceptionId "invoiceExceptionId"
  let replacementInvoiceId ← identifier body.replacementInvoiceId "replacementInvoiceId"
  let covered ← integer body.coveredAmountMinor "coveredAmountMinor"
  let found ← query fun db => replacementRow db exceptionId replacementInvoiceId
  let row ← orThrow found (notFound "Invoice exception or replacement invoice not found")
  let exception := row.exception
  refuseIf (exception.status = .resolved ∨ row.replacement.status ≠ .verified ∨
      row.original.purchaseOrderId ≠ row.replacement.purchaseOrderId)
    (conflict "Replacement invoice is not eligible")
  refuseIf (row.replacement.amountTaxIncludedMinor < covered ∨
      exception.affectedAmountMinor < exception.replacementCoveredAmountMinor +
        exception.refundedAmountMinor + covered)
    (conflict "Replacement coverage exceeds the exception amount")
  let linkId ← insertUnique replacementInvoiceLinks
    (fun link => link.invoiceExceptionId == exceptionId &&
      link.replacementInvoiceId == replacementInvoiceId)
    { invoiceExceptionId := exceptionId, replacementInvoiceId, coveredAmountMinor := covered }
    (.duplicateKey replacementInvoiceLinks)
  let replacementTotal := exception.replacementCoveredAmountMinor + covered
  let resolved := decide
    (replacementTotal + exception.refundedAmountMinor = exception.affectedAmountMinor)
  updateWhere invoiceExceptions (fun key _ => key == exceptionId)
    fun other => { other with
      replacementCoveredAmountMinor := replacementTotal
      status := if resolved then .resolved else exception.status
      resolvedAt := if resolved then some command.clock else none
      updatedAt := command.now }
  domainEvent .invoiceRemediationProgressed .invoiceException exceptionId
    (some (toString replacementInvoiceId))
  return .object [("link", .object [("id", .number linkId),
    ("invoiceExceptionId", .number exceptionId),
    ("replacementInvoiceId", .number replacementInvoiceId),
    ("coveredAmountMinor", .number covered)]), ("resolved", .boolean resolved)]

/-! ## Payments, refunds and corrections -/

structure RecordPayment where
  paymentRequestId : Nat
  amountMinor : Int
  paidAt : String
  bankReference : String
  challengeNo : String

def PaymentRequestStatus.payable : PaymentRequestStatus → Bool
  | .generated | .submittedToFinance | .partiallyPaid => true
  | _ => false

def recordPayment (command : CommandContext) (body : RecordPayment) :
    Tx [authChallenges, businessKeys, paymentRecords, factoryPaymentRequests] JsonValue := do
  requireRole command.access [.admin, .finance]
  let paymentRequestId ← identifier body.paymentRequestId "paymentRequestId"
  let amount ← integer body.amountMinor "amountMinor"
  let paidAt ← string body.paidAt "paidAt" 100
  let bankReference ← string body.bankReference "bankReference" 191
  let found ← select factoryPaymentRequests paymentRequestId
  let paymentRequest ← orThrow found (notFound "Payment request not found")
  let total := paymentRequest.totalAmountMinor
  refuseIf (PaymentRequestStatus.payable paymentRequest.status = false ∨
      paymentRequest.invoiceCoveredAmountMinor < total)
    (conflict "Payment request is not payable")
  let payload : JsonValue := .object [("action", .text "record_payment"),
    ("paymentRequestId", .number paymentRequestId), ("amountMinor", .number amount),
    ("paidAt", .text paidAt), ("bankReference", .text bankReference)]
  let challengeNo ← string body.challengeNo "challengeNo" 191
  let version ← objectVersion paymentRequest.updatedAt
  stepUp command challengeNo "record_payment" "finance:record_payment" paymentRequestId version
    payload
  claimBusinessKey .payment bankReference
  let ledger ← query fun db => ledgerOf db paymentRequestId
  let net ← ofExcept (payableNet ledger total)
  refuseIf (total < net + amount) (conflict "Payment would exceed the payable ledger")
  let recordId ← insertInto paymentRecords
    { paymentRequestId, amountMinor := amount, paidAt, bankReference, recordType := .payment
      reversesPaymentRecordId := none, correctsPaymentRecordId := none
      invoiceExceptionId := none, recordedBy := command.access.userId, reviewedBy := none
      reviewStatus := .notRequired, updatedAt := command.now }
  let newNet := net + amount
  let status : PaymentRequestStatus := if newNet = total then .paid else .partiallyPaid
  updateWhere factoryPaymentRequests (fun key _ => key == paymentRequestId)
    fun row => { row with
      status, paidAt := if newNet = total then some paidAt else none
      paymentReference := some bankReference
      updatedAt := laterThan row.updatedAt command.now }
  bindBusinessKey .payment bankReference recordId
  domainEvent .paymentRecorded .paymentRequest paymentRequestId (some (toString recordId))
  return .object [("payment", .object [("id", .number recordId),
    ("paymentRequestId", .number paymentRequestId), ("amountMinor", .number amount),
    ("paidAt", .text paidAt), ("bankReference", .text bankReference),
    ("recordType", .text "payment")]),
    ("paymentStatus", .text status.name),
    ("remainingAmountMinor", .number (total - newNet))]

structure RecordRefund where
  invoiceExceptionId : Nat
  paymentRequestId : Nat
  amountMinor : Int
  paidAt : String
  bankReference : String
  challengeNo : String

/-- The sum of the rows of a ledger that carry an exception. -/
def exceptionSum (ledger : List PaymentRecord) (exceptionId : Nat) : Int :=
  (ledger.map fun row =>
    if row.invoiceExceptionId = some exceptionId then row.amountMinor else 0).sum

def recordRefund (command : CommandContext) (body : RecordRefund) :
    Tx [authChallenges, businessKeys, paymentRecords, invoiceExceptions] JsonValue := do
  requireRole command.access [.admin, .finance]
  let exceptionId ← identifier body.invoiceExceptionId "invoiceExceptionId"
  let paymentRequestId ← identifier body.paymentRequestId "paymentRequestId"
  let amount ← integer body.amountMinor "amountMinor"
  let paidAt ← string body.paidAt "paidAt" 100
  let bankReference ← string body.bankReference "bankReference" 191
  let foundRequest ← select factoryPaymentRequests paymentRequestId
  let paymentRequest ← orThrow foundRequest (notFound "Payment request not found")
  let found ← query fun db => ((db invoiceExceptions).find? exceptionId).bind fun exception =>
    ((db factoryInvoices).find? exception.invoiceId).map fun _ => exception
  let exception ← orThrow found (conflict "Invoice exception is not refundable")
  refuseIf (exception.status = .resolved) (conflict "Invoice exception is not refundable")
  let requestAllocations ← query fun db => (db invoicePaymentAllocations).select fun _ row =>
    row.invoiceId == exception.invoiceId && row.paymentRequestId == paymentRequestId
  refuseIf (requestAllocations.length ≠ 1 ∨
      requestAllocations.any (fun r => decide (r.2.allocatedAmountMinor ≤ 0)) = true)
    (conflict "Refund request is not allocated to the exception invoice")
  refuseIf (paymentRequest.status ≠ .paid ∧ paymentRequest.status ≠ .partiallyPaid)
    (conflict "Refund request has no refundable paid balance")
  let ledgerBefore ← query fun db => ledgerOf db paymentRequestId
  let paidNet ← ofExcept (payableNet ledgerBefore paymentRequest.totalAmountMinor)
  let refundNet := exceptionSum ledgerBefore exceptionId
  refuseIf (¬ isSafeInteger refundNet ∨ refundNet < 0 ∨ refundNet ≠ exception.refundedAmountMinor)
    (conflict "Refund ledger and exception projection disagree")
  refuseIf (paidNet < refundNet + amount) (conflict "Refund exceeds the paid net amount")
  let payload : JsonValue := .object [("action", .text "record_refund"),
    ("invoiceExceptionId", .number exceptionId), ("paymentRequestId", .number paymentRequestId),
    ("amountMinor", .number amount), ("paidAt", .text paidAt),
    ("bankReference", .text bankReference)]
  let challengeNo ← string body.challengeNo "challengeNo" 191
  let version ← objectVersion exception.updatedAt
  stepUp command challengeNo "record_refund" "finance:record_refund" exceptionId version payload
  refuseIf (exception.affectedAmountMinor < exception.replacementCoveredAmountMinor +
      exception.refundedAmountMinor + amount)
    (conflict "Refund exceeds the remaining exception amount")
  claimBusinessKey .refund bankReference
  let recordId ← insertInto paymentRecords
    { paymentRequestId, amountMinor := amount, paidAt, bankReference, recordType := .refund
      reversesPaymentRecordId := none, correctsPaymentRecordId := none
      invoiceExceptionId := some exceptionId, recordedBy := command.access.userId
      reviewedBy := none, reviewStatus := .notRequired, updatedAt := command.now }
  let ledger ← query fun db => ledgerOf db paymentRequestId
  let _ ← ofExcept (payableNet ledger paymentRequest.totalAmountMinor)
  let refundedTotal := exception.refundedAmountMinor + amount
  let resolved := decide
    (refundedTotal + exception.replacementCoveredAmountMinor = exception.affectedAmountMinor)
  updateRow invoiceExceptions exceptionId
    (fun row => row.status == exception.status &&
      row.refundedAmountMinor == exception.refundedAmountMinor)
    (fun row => { row with
      refundedAmountMinor := refundedTotal
      status := if resolved then .resolved else exception.status
      resolvedAt := if resolved then some command.clock else none
      updatedAt := laterThan row.updatedAt command.now })
    (versionConflict "Invoice exception changed concurrently")
  bindBusinessKey .refund bankReference recordId
  domainEvent .refundRecorded .invoiceException exceptionId (some (toString recordId))
  return .object [("refund", .object [("id", .number recordId),
    ("paymentRequestId", .number paymentRequestId), ("amountMinor", .number amount),
    ("paidAt", .text paidAt), ("bankReference", .text bankReference),
    ("recordType", .text "refund")]), ("resolved", .boolean resolved),
    ("remainingAmountMinor", .number (exception.affectedAmountMinor - refundedTotal -
      exception.replacementCoveredAmountMinor))]

structure RequestRecordCorrection where
  paymentRecordId : Nat
  reason : String
  proposedPaymentRequestId : Nat
  proposedAmountMinor : Int
  proposedPaidAt : String
  proposedBankReference : String
  challengeNo : String

def RecordType.correctable : RecordType → Bool
  | .payment | .refund => true
  | _ => false

def requestRecordCorrection (command : CommandContext) (body : RequestRecordCorrection) :
    Tx [authChallenges, approvalRequests] JsonValue := do
  requireRole command.access [.admin, .finance]
  let paymentRecordId ← identifier body.paymentRecordId "paymentRecordId"
  let reason ← string body.reason "reason"
  let proposedPaymentRequestId ← identifier body.proposedPaymentRequestId "proposedPaymentRequestId"
  let proposedAmountMinor ← integer body.proposedAmountMinor "proposedAmountMinor"
  let proposedPaidAt ← string body.proposedPaidAt "proposedPaidAt" 100
  let proposedBankReference ← string body.proposedBankReference "proposedBankReference" 191
  let found ← select paymentRecords paymentRecordId
  let original ← orThrow found (notFound "Correctable financial record not found")
  refuseIf (RecordType.correctable original.recordType = false)
    (notFound "Correctable financial record not found")
  let proposal : List (String × JsonValue) :=
    [("proposedPaymentRequestId", .number proposedPaymentRequestId),
      ("proposedAmountMinor", .number proposedAmountMinor),
      ("proposedPaidAt", .text proposedPaidAt),
      ("proposedBankReference", .text proposedBankReference)]
  let challengeNo ← string body.challengeNo "challengeNo" 191
  let version ← objectVersion original.updatedAt
  stepUp command challengeNo "request_record_correction" "finance:request_record_correction"
    paymentRecordId version
    (.object (("action", .text "request_record_correction") ::
      ("paymentRecordId", .number paymentRecordId) :: ("reason", .text reason) :: proposal))
  let approvalNo := "AP-FINCORR-" ++ command.randomUUID 0
  let approvalId ← insertApproval command approvalNo .financialRecordCorrection "payment_record"
    paymentRecordId
    (.object (proposal ++ [("originalRecordType", .text original.recordType.name),
      ("invoiceExceptionId",
        original.invoiceExceptionId.elim JsonValue.null fun id => JsonValue.number id),
      ("reason", .text reason)]))
    true
  domainEvent .financialCorrectionRequested .paymentRecord paymentRecordId
    (some (toString approvalId))
  return .object [("approval", .object [("id", .number approvalId),
    ("requestNo", .text approvalNo), ("workflowType", .text "financial_record_correction"),
    ("status", .text "pending")])]

structure ReleaseInvoiceRisk where
  invoiceExceptionId : Nat
  reason : String
  evidenceFileId : Nat
  challengeNo : String

def releaseInvoiceRisk (command : CommandContext) (body : ReleaseInvoiceRisk) :
    Tx [authChallenges, invoiceExceptions] JsonValue := do
  requireRole command.access [.admin, .supplyChainLead]
  let exceptionId ← identifier body.invoiceExceptionId "invoiceExceptionId"
  let reason ← string body.reason "reason"
  let evidenceFileId ← identifier body.evidenceFileId "evidenceFileId"
  let _ ← requireCleanFile command.access evidenceFileId "invoice_risk_release"
    "invoice_exception" exceptionId
  let found ← select invoiceExceptions exceptionId
  let exception ← orThrow found (conflict "Invoice exception is not a releasable risk warning")
  refuseIf (exception.status ≠ .riskWarning)
    (conflict "Invoice exception is not a releasable risk warning")
  let challengeNo ← string body.challengeNo "challengeNo" 191
  let version ← objectVersion exception.updatedAt
  stepUp command challengeNo "release_invoice_risk" "finance:release_invoice_risk" exceptionId
    version
    (.object [("action", .text "release_invoice_risk"),
      ("invoiceExceptionId", .number exceptionId), ("reason", .text reason),
      ("evidenceFileId", .number evidenceFileId)])
  updateRow invoiceExceptions exceptionId (fun row => row.status == .riskWarning)
    (fun row => { row with
      status := .awaitingRemediation, riskReleasedBy := some command.access.userId
      riskReleasedAt := some command.now
      updatedAt := laterThan row.updatedAt command.now })
    (versionConflict "Invoice exception changed concurrently")
  domainEvent .invoiceRiskReleased .invoiceException exceptionId
  return .object [("success", .boolean true), ("invoiceExceptionId", .number exceptionId),
    ("status", .text "awaiting_remediation")]

inductive FinanceCommand
  | createInvoice (body : CreateInvoice)
  | verifyInvoice (body : VerifyInvoice)
  | recordPayment (body : RecordPayment)
  | invalidateInvoice (body : InvalidateInvoice)
  | linkReplacementInvoice (body : LinkReplacementInvoice)
  | recordRefund (body : RecordRefund)
  | requestRecordCorrection (body : RequestRecordCorrection)
  | releaseInvoiceRisk (body : ReleaseInvoiceRisk)

def financeCommand (command : CommandContext) (body : FinanceCommand) :
    Tx [factoryInvoices, invoiceVerifications, invoicePaymentAllocations, factoryPaymentRequests,
      invoiceExceptions, replacementInvoiceLinks, authChallenges, businessKeys, paymentRecords,
      approvalRequests] JsonValue :=
  match body with
  | .createInvoice invoice => (createInvoice command invoice).widen
  | .verifyInvoice verification => (verifyInvoice command verification).widen
  | .recordPayment payment => (recordPayment command payment).widen
  | .invalidateInvoice invalidation => (invalidateInvoice command invalidation).widen
  | .linkReplacementInvoice link => (linkReplacementInvoice command link).widen
  | .recordRefund refund => (recordRefund command refund).widen
  | .requestRecordCorrection correction => (requestRecordCorrection command correction).widen
  | .releaseInvoiceRisk release => (releaseInvoiceRisk command release).widen

/-- The update of the reminder sweep of the worker on an exception that is
overdue for thirty days. -/
def warnInvoiceRisk (now exceptionId : Nat) : Tx [invoiceExceptions] Unit :=
  updateWhere invoiceExceptions (fun key row => key == exceptionId && row.status == .awaitingRemediation)
    fun row => { row with status := .riskWarning, updatedAt := now }

end SupplyChain.Finance
