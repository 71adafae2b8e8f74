import SupplyChain.Finance.Remediation
import SupplyChain.Finance.Payables
import SupplyChain.Approvals.Outcomes
import SupplyChain.Operations

/-!
Every step of the operations system posts entries to the books: a finance
command those of its statements in order, a correction that was approved one
entry, the reminder sweep one, and every other step none.
-/

namespace SupplyChain.Finance

open Relational Transaction TableName

variable {command : CommandContext} {db db' : Database} {reply : JsonValue}
  {sent : List DomainEvent} {start : Books}

/-! ## Posting a list of entries -/

/-- What the rule of an entry reads is as it was in the books `start`. -/
def Since (start b : Books) : Entry → Prop
  | .allocate requestId =>
      b.records = start.records ∧ b.requests.find? requestId = start.requests.find? requestId
  | .link _ _ => b.links = start.links ∧ b.invoices = start.invoices
  | .invalidate _ => b.exceptions = start.exceptions
  | _ => True

/-- An entry of a command that began in the books `start`. -/
def PostedSince (start b : Books) (entry : Entry) (b' : Books) : Prop :=
  Posted b entry b' ∧ Since start b entry

/-- A command took the books from `start` to `b` by these entries. -/
def Posts (start : Books) (entries : List Entry) (b : Books) : Prop :=
  Run (PostedSince start) start entries b

theorem Posts.single {b : Books} {entry : Entry} (posted : Posted start entry b) :
    Posts start [entry] b := by
  refine Run.single ⟨posted, ?_⟩
  cases entry <;> simp [Since]

/-- The rules hold along a command when they hold of its entries where it began. -/
theorem Posts.obeys {entries : List Entry} {b : Books} (posts : Posts start entries b)
    (rule : Books → Entry → Prop)
    (stable : ∀ {mid entry}, entry ∈ entries → Since start mid entry → rule start entry →
      rule mid entry)
    (obeyed : ∀ entry ∈ entries, rule start entry) :
    Run (fun mid entry mid' => Posted mid entry mid' ∧ rule mid entry) start entries b := by
  refine Run.imp_under posts (fun _ => True) (fun _ holds => holds) ?_ trivial
  intro mid entry mid' member _ posted
  exact ⟨posted.1, stable member posted.2 (obeyed entry member)⟩

theorem onRequest_modify {requests : Table FactoryPaymentRequest} {requestId : Nat}
    {here : FactoryPaymentRequest → FactoryPaymentRequest → Prop}
    {change : FactoryPaymentRequest → FactoryPaymentRequest}
    (changed : ∀ old, requests.find? requestId = some old →
      (change old).totalAmountMinor = old.totalAmountMinor ∧ here old (change old)) :
    Table.Revises (OnRequest requestId here) requests (requests.modify requestId change) := by
  refine Table.revises_modify ?_ ?_
  · intro old found
    obtain ⟨total, holds⟩ := changed old found
    exact ⟨total, fun _ => holds, fun differ => absurd rfl differ⟩
  · intro key old differ
    exact ⟨rfl, fun same => absurd same differ, fun _ => rfl⟩

theorem onException_modify {exceptions : Table InvoiceException} {exceptionId : Nat}
    {here : InvoiceException → InvoiceException → Prop}
    {change : InvoiceException → InvoiceException}
    (changed : ∀ old, exceptions.find? exceptionId = some old →
      (change old).invoiceId = old.invoiceId ∧
      (change old).affectedAmountMinor = old.affectedAmountMinor ∧ here old (change old)) :
    Table.Revises (OnException exceptionId here) exceptions
      (exceptions.modify exceptionId change) := by
  refine Table.revises_modify ?_ ?_
  · intro old found
    obtain ⟨invoice, affects, holds⟩ := changed old found
    exact ⟨invoice, affects, fun _ => holds, fun differ => absurd rfl differ⟩
  · intro key old differ
    exact ⟨rfl, rfl, fun same => absurd same differ, fun _ => rfl⟩

/-! ## Invoices -/

theorem createInvoice_posts {body : CreateInvoice}
    (returns : (createInvoice command body).Returns db reply sent db') :
    Posts (booksOf db) [.register] (booksOf db') := by
  obtain ⟨invoice, received, positive, -, rfl⟩ := createInvoice_returns returns
  have books : booksOf (db.put factoryInvoices ((db factoryInvoices).insert invoice)) =
      { booksOf db with invoices := (booksOf db).invoices.insert invoice } := by
    simp [booksOf]
  rw [books]
  exact Posts.single (Posted.register positive received)

/-- The requests that the allocation loop covers, in order. -/
def reached : List (Nat × FactoryPaymentRequest) → Int → List Nat
  | [], _ => []
  | (requestId, request) :: rest, remaining =>
      if remaining = 0 then []
      else if min remaining (outstanding request) = 0 then reached rest remaining
      else requestId :: reached rest (remaining - min remaining (outstanding request))

theorem allocateRequest_posts {invoiceId requestId : Nat} {invoice : FactoryInvoice}
    {request : FactoryPaymentRequest} {allocated : Int} {u : Unit}
    (returns : (allocateRequest command invoiceId requestId request allocated).Returns db u sent db')
    (foundInvoice : (booksOf db).invoices.find? invoiceId = some invoice)
    (decided : invoice.status ≠ .received)
    (found : (booksOf db).requests.find? requestId = some request)
    (positive : 0 < allocated)
    (outstanding : request.invoiceCoveredAmountMinor + allocated ≤ request.totalAmountMinor)
    (within : allocatedFrom (booksOf db).allocations invoiceId + allocated ≤
      invoice.amountTaxIncludedMinor) :
    Posted (booksOf db) (.allocate requestId) (booksOf db') := by
  obtain ⟨-, rfl⟩ := allocateRequest_returns returns
  refine Posted.allocate foundInvoice decided found positive outstanding within ?_
  simp only [booksOf, Store.put_same]
  refine onRequest_modify ?_
  intro old foundOld
  obtain rfl : request = old := Option.some.inj (found.symm.trans foundOld)
  exact ⟨rfl, rfl, rfl⟩

/-- The requests of a loop, each once and as it was when the command began. -/
structure Listed (start table : Table FactoryPaymentRequest)
    (requests : List (Nat × FactoryPaymentRequest)) : Prop where
  distinct : (requests.map (·.1)).Nodup
  current : ∀ r ∈ requests, table.find? r.1 = some r.2
  since : ∀ r ∈ requests, start.find? r.1 = some r.2

/-- The allocation loop posts one allocation for every request it reaches. -/
theorem allocateFrom_posts {invoiceId : Nat} {invoice : FactoryInvoice}
    {requests : List (Nat × FactoryPaymentRequest)} {remaining allocated : Int}
    (returns : (allocateFrom command invoiceId requests remaining).Returns db allocated sent db')
    (foundInvoice : (booksOf db).invoices.find? invoiceId = some invoice)
    (decided : invoice.status ≠ .received) (nonneg : 0 ≤ remaining)
    (within : allocatedFrom (booksOf db).allocations invoiceId + remaining ≤
      invoice.amountTaxIncludedMinor)
    (records : (booksOf db).records = start.records)
    (listed : Listed start.requests (booksOf db).requests requests) :
    Run (PostedSince start) (booksOf db) ((reached requests remaining).map .allocate)
      (booksOf db') := by
  induction requests generalizing remaining allocated db sent with
  | nil =>
      obtain ⟨-, -, rfl⟩ := returns_pure.mp returns
      exact Run.done
  | cons head rest ih =>
      obtain ⟨requestId, request⟩ := head
      have inRest : ∀ r ∈ rest, r ∈ (requestId, request) :: rest :=
        fun r member => List.mem_cons_of_mem _ member
      have distinct := List.nodup_cons.mp listed.distinct
      unfold allocateFrom at returns
      unfold reached
      by_cases spent : remaining = 0
      · rw [if_pos spent] at returns ⊢
        obtain ⟨-, -, rfl⟩ := returns_pure.mp returns
        exact Run.done
      rw [if_neg spent] at returns ⊢
      by_cases covered : min remaining (outstanding request) = 0
      · rw [if_pos covered] at returns ⊢
        exact ih returns foundInvoice nonneg within records
          ⟨distinct.2, fun r member => listed.current r (inRest r member),
            fun r member => listed.since r (inRest r member)⟩
      rw [if_neg covered] at returns ⊢
      simp only [returns_bind, returns_pure] at returns
      obtain ⟨_, _, mid, _, round, ⟨_, _, _, _, later, ⟨-, -, rfl⟩, -⟩, -⟩ := returns
      have found := listed.current (requestId, request) List.mem_cons_self
      have bounds : 0 < min remaining (outstanding request) ∧ request.invoiceCoveredAmountMinor +
          min remaining (outstanding request) ≤ request.totalAmountMinor := by
        unfold outstanding at covered ⊢
        omega
      have posted := allocateRequest_posts round foundInvoice decided found bounds.1 bounds.2
        (by omega)
      obtain ⟨-, rfl⟩ := allocateRequest_returns round
      refine Run.next ⟨posted, records, ?_⟩ (ih later foundInvoice (by omega) ?_ records ?_)
      · exact found.trans (listed.since (requestId, request) List.mem_cons_self).symm
      · simp only [booksOf, Store.put_same, Store.put_other, ne_eq, reduceCtorEq,
          not_false_eq_true, allocatedFrom_insert, if_true] at within ⊢
        omega
      · refine ⟨distinct.2, ?_, fun r member => listed.since r (inRest r member)⟩
        intro r member
        have other : r.1 ≠ requestId := by
          rintro rfl
          exact distinct.1 (List.mem_map.mpr ⟨r, member, rfl⟩)
        simp only [booksOf, Store.put_same]
        rw [Table.find?_modify_ne _ _ other]
        exact listed.current r (inRest r member)

/-- The payment requests of a purchase order are rows of the table, each once. -/
theorem requestsOf_listed (db : Database) (purchaseOrderId : Nat) :
    Listed (db factoryPaymentRequests) (db factoryPaymentRequests)
      (requestsOf db purchaseOrderId) := by
  have present : ∀ r ∈ requestsOf db purchaseOrderId,
      (db factoryPaymentRequests).find? r.1 = some r.2 := by
    intro r member
    rw [requestsOf, List.mem_insertionSort] at member
    exact (Table.mem_select.mp member).1
  refine ⟨?_, present, present⟩
  unfold requestsOf
  refine ((List.perm_insertionSort paidFirst _).map _).nodup_iff.mpr ?_
  refine List.Pairwise.map _ ?_ (Table.select_ascending _ _)
  exact fun a b below => Nat.ne_of_lt below

/-- The requests that the verification `body` allocates its invoice to. -/
def reachedBy (db : Database) (body : VerifyInvoice) : List Nat :=
  match (db factoryInvoices).find? body.invoiceId with
  | none => []
  | some invoice =>
      if body.decision ≠ .rejected ∧ fullyVerified db body = true then
        reached (requestsOf db invoice.purchaseOrderId) invoice.amountTaxIncludedMinor
      else []

theorem allocatedFrom_received {b : Books} (sound : Sound b) {invoiceId : Nat}
    {invoice : FactoryInvoice} (found : b.invoices.find? invoiceId = some invoice)
    (received : invoice.status = .received) : allocatedFrom b.allocations invoiceId = 0 := by
  refine Table.weigh_zero ?_
  intro id row present
  refine if_neg ?_
  rintro rfl
  obtain ⟨-, other, foundOther, decided⟩ := sound.allocation id row present
  rw [found] at foundOther
  cases foundOther
  exact decided received

theorem verifyInvoice_posts {body : VerifyInvoice} (sound : Sound (booksOf db))
    (returns : (verifyInvoice command body).Returns db reply sent db') :
    ∃ entries, Posts (booksOf db) entries (booksOf db') ∧
      ∀ entry ∈ entries, entry = .decide ∨ ∃ id ∈ reachedBy db body, entry = .allocate id := by
  obtain ⟨invoice, verification, _, _, found, received, -, -, -, -, -, settled⟩ :=
    verifyInvoice_returns returns
  have unread : requestsOf (db.put invoiceVerifications
      ((db invoiceVerifications).insert verification)) invoice.purchaseOrderId =
        requestsOf db invoice.purchaseOrderId := by
    simp [requestsOf]
  obtain ⟨-, ⟨-, rfl⟩ | ⟨accepted, full, allocation⟩ | ⟨-, -, rfl⟩⟩ := settleInvoice_returns settled
  · refine ⟨[.decide], Posts.single ?_, by simp⟩
    exact @Posted.decide (booksOf db) _ _ _ found received (by decide)
  · have decide : Posted (booksOf db) .decide (booksOf ((db.put invoiceVerifications
        ((db invoiceVerifications).insert verification)).put factoryInvoices
          ((db factoryInvoices).modify body.invoiceId fun row =>
            { row with status := .verified }))) :=
      @Posted.decide (booksOf db) _ _ _ found received (by decide)
    have amount := sound.invoice _ invoice found
    rw [unread] at allocation
    simp only [Store.put_other, ne_eq, reduceCtorEq, not_false_eq_true] at allocation
    have allocates := @allocateFrom_posts _ _ _ _ (booksOf db) _
      { invoice with status := .verified } _ _ _ allocation ?_ (by simp)
      (by omega) ?_ rfl (requestsOf_listed db invoice.purchaseOrderId)
    · refine ⟨_, Run.next ⟨decide, trivial⟩ allocates, ?_⟩
      intro entry member
      rcases List.mem_cons.mp member with rfl | later
      · exact Or.inl rfl
      · obtain ⟨id, inside, rfl⟩ := List.mem_map.mp later
        refine Or.inr ⟨id, ?_, rfl⟩
        simpa [reachedBy, found, accepted, full] using inside
    · simp only [booksOf, Store.put_same]
      exact Table.find?_modify_self _ found
    · have none := allocatedFrom_received sound found received
      change allocatedFrom (booksOf db).allocations body.invoiceId + _ ≤ _
      rw [none]
      simp
  · exact ⟨[], Run.done, by simp⟩

theorem freezeAllocation_posts {allocation : Nat × InvoicePaymentAllocation} {u : Unit}
    (returns : (freezeAllocation command allocation).Returns db u sent db')
    (found : (booksOf db).allocations.find? allocation.1 = some allocation.2)
    (active : allocation.2.status = .active) :
    Posted (booksOf db) .freeze (booksOf db') := by
  obtain ⟨-, rfl⟩ := freezeAllocation_returns returns
  refine Posted.freeze found active ?_
  simp only [booksOf, Store.put_same]
  refine onRequest_modify ?_
  intro old _
  exact ⟨rfl, rfl, rfl⟩

theorem activeAllocations_after {head : Nat × InvoicePaymentAllocation}
    {rest : List (Nat × InvoicePaymentAllocation)} {u : Unit}
    (returns : (freezeAllocation command head).Returns db u sent db')
    (distinct : ((head :: rest).map (·.1)).Nodup)
    (current : ∀ a ∈ head :: rest, (booksOf db).allocations.find? a.1 = some a.2 ∧
      a.2.status = .active) :
    ∀ a ∈ rest, (booksOf db').allocations.find? a.1 = some a.2 ∧ a.2.status = .active := by
  intro a member
  have other : a.1 ≠ head.1 := by
    intro same
    exact (List.nodup_cons.mp distinct).1 (List.mem_map.mpr ⟨a, member, same⟩)
  obtain ⟨-, rfl⟩ := freezeAllocation_returns returns
  refine ⟨?_, (current a (List.mem_cons_of_mem _ member)).2⟩
  simp only [booksOf, Store.put_same, Store.put_other, ne_eq, reduceCtorEq, not_false_eq_true]
  rw [Table.find?_modify_ne _ _ other]
  exact (current a (List.mem_cons_of_mem _ member)).1

/-- The loop of an invalidation freezes allocation after allocation. -/
theorem freezeAllocations_posts {allocations : List (Nat × InvoicePaymentAllocation)} {u : Unit}
    (returns : (forEach (freezeAllocation command) allocations).Returns db u sent db')
    (distinct : (allocations.map (·.1)).Nodup)
    (current : ∀ a ∈ allocations, (booksOf db).allocations.find? a.1 = some a.2 ∧
      a.2.status = .active) :
    Run (PostedSince start) (booksOf db) (allocations.map fun _ => .freeze) (booksOf db') := by
  induction allocations generalizing db sent with
  | nil =>
      obtain ⟨-, rfl⟩ := returns_forEach_nil.mp returns
      exact Run.done
  | cons head rest ih =>
      obtain ⟨_, mid, _, round, later, -⟩ := returns_forEach_cons.mp returns
      obtain ⟨here, active⟩ := current head List.mem_cons_self
      have posted := freezeAllocation_posts round here active
      exact Run.next ⟨posted, trivial⟩ (ih later (List.nodup_cons.mp distinct).2
        (activeAllocations_after round distinct current))

theorem activeAllocations_current (db : Database) (invoiceId : Nat) :
    ((activeAllocations db invoiceId).map (·.1)).Nodup ∧
      ∀ a ∈ activeAllocations db invoiceId,
        (booksOf db).allocations.find? a.1 = some a.2 ∧ a.2.status = .active := by
  refine ⟨?_, ?_⟩
  · refine List.Pairwise.map _ ?_ (Table.select_ascending _ _)
    exact fun a b below => Nat.ne_of_lt below
  · intro a member
    obtain ⟨found, passes⟩ := Table.mem_select.mp member
    rw [Bool.and_eq_true, beq_iff_eq, beq_iff_eq] at passes
    exact ⟨found, passes.2⟩

theorem invalidateInvoice_posts {body : InvalidateInvoice}
    (returns : (invalidateInvoice command body).Returns db reply sent db') :
    Posts (booksOf db)
      ((activeAllocations db body.invoiceId).map (fun _ => Entry.freeze) ++
        [.invalidate body.invoiceId]) (booksOf db') := by
  obtain ⟨invoice, mid, found, -, frozen, -, rfl⟩ := invalidateInvoice_returns returns
  obtain ⟨distinct, current⟩ := activeAllocations_current db body.invoiceId
  have invoices : mid factoryInvoices = db factoryInvoices := frozen.unwritten _ (by decide)
  have exceptions : mid invoiceExceptions = db invoiceExceptions := frozen.unwritten _ (by decide)
  refine (freezeAllocations_posts frozen distinct current).append (Run.single ⟨?_, exceptions⟩)
  rw [← invoices, ← exceptions]
  refine @Posted.invalidate (booksOf mid) _ (openedException command body invoice)
    ?_ rfl rfl rfl rfl
  exact (congrArg (fun table : Table FactoryInvoice => table.find? body.invoiceId) invoices).trans
    found

theorem linkReplacementInvoice_posts {body : LinkReplacementInvoice}
    (returns : (linkReplacementInvoice command body).Returns db reply sent db') :
    Posts (booksOf db) [.link body.replacementInvoiceId body.coveredAmountMinor]
      (booksOf db') := by
  obtain ⟨row, found, unresolved, -, positive, -, bounded, -, -, rfl⟩ :=
    linkReplacementInvoice_returns returns
  obtain ⟨exception, foundException, found⟩ := Option.bind_eq_some_iff.mp found
  obtain ⟨original, -, found⟩ := Option.bind_eq_some_iff.mp found
  obtain ⟨replacement, foundReplacement, rfl⟩ := Option.map_eq_some_iff.mp found
  refine Posts.single ?_
  refine @Posted.link (booksOf db)
    ⟨body.invoiceExceptionId, body.replacementInvoiceId, body.coveredAmountMinor⟩ _ _ _
    foundException foundReplacement positive bounded ?_
  simp only [booksOf, Store.put_same]
  refine onException_modify ?_
  intro old foundOld
  obtain rfl : exception = old := Option.some.inj (foundException.symm.trans foundOld)
  refine ⟨rfl, rfl, rfl, rfl, ?_⟩
  unfold settled
  dsimp only
  split <;> simp_all

/-! ## Payments, refunds and corrections -/

theorem recordPayment_posts {body : RecordPayment}
    (returns : (recordPayment command body).Returns db reply sent db') :
    Posts (booksOf db) [.pay] (booksOf db') := by
  obtain ⟨request, found, payableStatus, -, positive, nonneg, bounded, -, records, requests⟩ :=
    recordPayment_returns returns
  have unwritten := returns.unwritten
  have books : booksOf db' = { booksOf db with
      records := (booksOf db).records.insert (paymentRecord command body)
      requests := db' factoryPaymentRequests } := by
    simp [booksOf, records, unwritten]
  rw [books]
  refine Posts.single (Posted.pay found payableStatus rfl rfl ⟨rfl, rfl⟩ positive nonneg bounded ?_)
  rw [requests]
  refine onRequest_modify ?_
  intro old foundOld
  obtain rfl : request = old := Option.some.inj (found.symm.trans foundOld)
  exact ⟨rfl, rfl, rfl⟩

theorem recordRefund_posts {body : RecordRefund}
    (returns : (recordRefund command body).Returns db reply sent db') :
    Posts (booksOf db) [.refund] (booksOf db') := by
  obtain ⟨request, exception, _, foundRequest, found, unresolved, -, -, -, paid, positive, bounded,
    -, records, exceptions⟩ := recordRefund_returns returns
  have unwritten := returns.unwritten
  have books : booksOf db' = { booksOf db with
      records := (booksOf db).records.insert (refundRecord command body)
      exceptions := db' invoiceExceptions } := by
    simp [booksOf, records, unwritten]
  rw [books]
  refine Posts.single (Posted.refund found rfl rfl ⟨rfl, rfl⟩ positive
    ⟨request, foundRequest, paid⟩ bounded ?_)
  rw [exceptions]
  refine onException_modify ?_
  intro old foundOld
  obtain rfl : exception = old := Option.some.inj (found.symm.trans foundOld)
  refine ⟨rfl, rfl, rfl, rfl, ?_⟩
  have order : exception.refundedAmountMinor + body.amountMinor +
      exception.replacementCoveredAmountMinor = exception.affectedAmountMinor ↔
      exception.replacementCoveredAmountMinor +
        (exception.refundedAmountMinor + body.amountMinor) = exception.affectedAmountMinor := by
    omega
  unfold settled
  dsimp only
  rw [← order]
  split <;> simp_all

theorem releaseInvoiceRisk_posts {body : ReleaseInvoiceRisk}
    (returns : (releaseInvoiceRisk command body).Returns db reply sent db') :
    Posts (booksOf db) [.watch] (booksOf db') := by
  obtain ⟨⟨exception, found, warned⟩, -, exceptions⟩ := releaseInvoiceRisk_returns returns
  have unwritten := returns.unwritten
  have books : booksOf db' = { booksOf db with exceptions := db' invoiceExceptions } := by
    simp [booksOf, unwritten]
  rw [books, exceptions]
  refine Posts.single (@Posted.watch _ body.invoiceExceptionId _ ?_)
  refine onException_modify ?_
  intro old foundOld
  obtain rfl : exception = old := Option.some.inj (found.symm.trans foundOld)
  exact ⟨rfl, rfl, rfl, rfl, by simp [warned]⟩

theorem warnInvoiceRisk_posts {now exceptionId : Nat} {u : Unit}
    (returns : (warnInvoiceRisk now exceptionId).Returns db u sent db') :
    Posts (booksOf db) [.watch] (booksOf db') := by
  obtain ⟨-, exceptions⟩ := warnInvoiceRisk_returns returns
  have unwritten := returns.unwritten
  have books : booksOf db' = { booksOf db with exceptions := db' invoiceExceptions } := by
    simp [booksOf, unwritten]
  rw [books, exceptions]
  refine Posts.single (@Posted.watch _ exceptionId _ (Table.revises_update ?_))
  intro id old _
  by_cases warned : id = exceptionId ∧ old.status = .awaitingRemediation
  · simp [warned.1, warned.2, OnException]
  · have untouched : (id == exceptionId && old.status == .awaitingRemediation) = false := by
      simpa using warned
    rw [if_neg (by simp [untouched])]
    exact ⟨rfl, rfl, fun _ => ⟨rfl, rfl, Iff.rfl⟩, fun _ => rfl⟩

theorem corrected_posts {approval : ApprovalRequest} {original : PaymentRecord}
    {proposal : ApprovalEffects.CorrectionProposal}
    (corrected : ApprovalEffects.Corrected command approval original proposal db db')
    (unwritten : db' factoryInvoices = db factoryInvoices ∧
      db' invoicePaymentAllocations = db invoicePaymentAllocations ∧
      db' replacementInvoiceLinks = db replacementInvoiceLinks) :
    Posts (booksOf db) [.correct] (booksOf db') := by
  have books : booksOf db' = { booksOf db with
      records := ((booksOf db).records.insert
          (ApprovalEffects.reversalOf command approval.requestedBy approval.entityId original)).insert
        (ApprovalEffects.correctionOf command approval.requestedBy approval.entityId original
          proposal)
      requests := db' factoryPaymentRequests
      exceptions := db' invoiceExceptions } := by
    simp [booksOf, corrected.records, unwritten]
  rw [books]
  refine Posts.single (Posted.correct corrected.found corrected.correctable corrected.uncorrected
    ⟨rfl, rfl, rfl, rfl, rfl, rfl⟩ ⟨rfl, rfl, rfl, corrected.positive, rfl⟩
    (fun id touched => corrected.requests id touched) corrected.payable ?_ ?_ ?_)
  · intro refund
    obtain ⟨_, exception, -, -, -, there, -⟩ := corrected.refund refund
    obtain ⟨allocation, member, same⟩ := List.mem_map.mp there
    exact ⟨allocation.1, allocation.2, (Table.mem_select.mp member).1, same⟩
  · have projected := corrected.projected
    rw [corrected.records] at projected
    exact projected
  · rcases corrected.correctable with payment | refund
    · exact Or.inl ⟨payment, corrected.payment payment⟩
    · obtain ⟨exceptionId, exception, linked, found, -, -, nonneg, bounded, exceptions⟩ :=
        corrected.refund refund
      refine Or.inr ⟨exceptionId, linked, ?_⟩
      rw [exceptions]
      rw [corrected.records] at nonneg bounded ⊢
      refine onException_modify ?_
      intro old foundOld
      obtain rfl : exception = old := Option.some.inj (found.symm.trans foundOld)
      refine ⟨rfl, rfl, rfl, rfl, nonneg, by dsimp only [booksOf]; omega, ?_⟩
      unfold settled
      dsimp only
      rw [Int.add_comm exception.replacementCoveredAmountMinor]
      split <;> simp_all

/-! ## Steps -/

/-- What a step says about the entries that a rule speaks about: they come from
its command and its body. -/
def Concerns (db : Database) (event : Event) : Entry → Prop
  | .allocate requestId => ∃ command body,
      event = .command ⟨command, .financeCommand (.verifyInvoice body)⟩ ∧
        requestId ∈ reachedBy db body
  | .link replacementInvoiceId amount => ∃ command body,
      event = .command ⟨command, .financeCommand (.linkReplacementInvoice body)⟩ ∧
        replacementInvoiceId = body.replacementInvoiceId ∧ amount = body.coveredAmountMinor
  | .invalidate invoiceId => ∃ command body,
      event = .command ⟨command, .financeCommand (.invalidateInvoice body)⟩ ∧
        invoiceId = body.invoiceId
  | _ => True

theorem financeCommand_posts {body : FinanceCommand} (sound : Sound (booksOf db))
    (returns : (financeCommand command body).Returns db reply sent db') :
    ∃ entries, Posts (booksOf db) entries (booksOf db') ∧
      ∀ entry ∈ entries, Concerns db (.command ⟨command, .financeCommand body⟩) entry := by
  unfold financeCommand at returns
  cases body with
  | createInvoice body => exact ⟨_, createInvoice_posts returns, by simp [Concerns]⟩
  | verifyInvoice body =>
      obtain ⟨entries, posts, listed⟩ := verifyInvoice_posts sound returns
      refine ⟨entries, posts, ?_⟩
      intro entry member
      rcases listed entry member with rfl | ⟨id, inside, rfl⟩
      · trivial
      · exact ⟨command, body, rfl, inside⟩
  | recordPayment body => exact ⟨_, recordPayment_posts returns, by simp [Concerns]⟩
  | invalidateInvoice body =>
      refine ⟨_, invalidateInvoice_posts returns, ?_⟩
      intro entry member
      rcases List.mem_append.mp member with freezes | last
      · obtain ⟨_, -, rfl⟩ := List.mem_map.mp freezes
        trivial
      · rw [List.mem_singleton.mp last]
        exact ⟨command, body, rfl, rfl⟩
  | linkReplacementInvoice body =>
      refine ⟨_, linkReplacementInvoice_posts returns, ?_⟩
      intro entry member
      rw [List.mem_singleton.mp member]
      exact ⟨command, body, rfl, rfl, rfl⟩
  | recordRefund body => exact ⟨_, recordRefund_posts returns, by simp [Concerns]⟩
  | requestRecordCorrection body =>
      have unwritten := (returns_widen.mp returns).unwritten
      have books : booksOf db' = booksOf db := by simp [booksOf, unwritten]
      rw [books]
      exact ⟨[], Run.done, by simp⟩
  | releaseInvoiceRisk body => exact ⟨_, releaseInvoiceRisk_posts returns, by simp [Concerns]⟩

theorem decideApproval_posts {effects : Approvals.ProcurementEffects}
    {body : Approvals.DecideApproval}
    (returns : (Approvals.decideApproval effects command body).Returns db reply sent db') :
    booksOf db' = booksOf db ∨ Posts (booksOf db) [.correct] (booksOf db') := by
  obtain ⟨-, approval, mid, decided⟩ := Approvals.decideApproval_returns returns
  have books : booksOf mid = booksOf db := by simp [booksOf, decided.kept]
  rw [← books]
  obtain ⟨outcome, effect⟩ := decided.effect
  unfold Approvals.approvalEffect at effect
  cases workflow : approval.workflowType with
  | financialRecordCorrection =>
      simp only [workflow, returns_widen] at effect
      have unwritten := effect.unwritten
      obtain ⟨-, ⟨-, rfl⟩ | ⟨original, proposal, corrected⟩⟩ :=
        Approvals.financialRecordCorrection_returns effect
      · exact Or.inl rfl
      · refine Or.inr (corrected_posts corrected ?_)
        simp [unwritten]
  | _ =>
      simp only [workflow, returns_widen] at effect
      have unwritten := effect.unwritten
      exact Or.inl (by simp [booksOf, unwritten])

theorem step_posts {effects : Approvals.ProcurementEffects} {event : Event}
    (sound : Sound (booksOf db)) (step : Step effects db event db') :
    ∃ entries, Posts (booksOf db) entries (booksOf db') ∧
      ∀ entry ∈ entries, Concerns db event entry := by
  have none : ∀ {mid : Database}, booksOf mid = booksOf db →
      ∃ entries, Posts (booksOf db) entries (booksOf mid) ∧
        ∀ entry ∈ entries, Concerns db event entry := by
    intro mid same
    rw [same]
    exact ⟨[], Run.done, by simp⟩
  cases step with
  | @command _ request reply committed =>
      obtain ⟨sent, mid, returns, enqueued⟩ := execute_ok committed
      have books : booksOf db' = booksOf mid := by
        simp [booksOf, enqueueOutbox_kept enqueued]
      rw [books]
      obtain ⟨command, body⟩ := request
      unfold runCommand at returns
      cases body with
      | financeCommand body => exact financeCommand_posts sound (returns_widen.mp returns)
      | decideApproval body =>
          rcases decideApproval_posts (returns_widen.mp returns) with same | posts
          · exact none same
          · exact ⟨_, posts, by simp [Concerns]⟩
      | _ =>
          have unwritten := (returns_widen.mp returns).unwritten
          exact none (by simp [booksOf, unwritten])
  | warnInvoiceRisk warned => exact ⟨_, warnInvoiceRisk_posts warned, by simp [Concerns]⟩
  | procurement own => exact none (by simp [booksOf, own, foreignTables])
  | approvalRequest => exact none (by simp [booksOf])
  | outboxMessage => exact none (by simp [booksOf])

end SupplyChain.Finance
