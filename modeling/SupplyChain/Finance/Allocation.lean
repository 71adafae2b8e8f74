import SupplyChain.Finance.Postings
import SupplyChain.Greedy.Order
import SupplyChain.Relational.Inserts

/-!
How an invoice is allocated to the payment requests of its purchase order: from
the first request to be paid, each up to its total. What one invoice covers after
another is what an invoice of both amounts covers.
-/

namespace SupplyChain.Finance

open Relational Transaction TableName

variable {command : CommandContext} {db db' : Database} {sent : List DomainEvent}

/-! ## The loop -/

/-- What the requests leave to be covered, in their order. -/
def uncovered (requests : List (Nat × FactoryPaymentRequest)) : List (Nat × Int) :=
  requests.map fun r => (r.1, outstanding r.2)

theorem outstanding_nonneg (request : FactoryPaymentRequest) : 0 ≤ outstanding request :=
  Int.le_max_left _ _

theorem uncovered_nonneg (requests : List (Nat × FactoryPaymentRequest)) :
    ∀ supply ∈ uncovered requests, 0 ≤ supply.2 := by
  intro supply member
  obtain ⟨r, -, rfl⟩ := List.mem_map.mp member
  exact outstanding_nonneg r.2

theorem uncovered_keys (requests : List (Nat × FactoryPaymentRequest)) :
    (uncovered requests).map (·.1) = requests.map (·.1) := by
  rw [uncovered, List.map_map]
  rfl

theorem uncovered_map (requests : List (Nat × FactoryPaymentRequest))
    (f : Nat × FactoryPaymentRequest → Nat × FactoryPaymentRequest) :
    uncovered (requests.map f) = requests.map fun r => ((f r).1, outstanding (f r).2) := by
  rw [uncovered, List.map_map]
  rfl

theorem map_uncovered {α : Type} (requests : List (Nat × FactoryPaymentRequest))
    (f : Nat × Int → α) :
    (uncovered requests).map f = requests.map fun r => f (r.1, outstanding r.2) := by
  rw [uncovered, List.map_map]
  rfl

theorem total_uncovered (requests : List (Nat × FactoryPaymentRequest)) :
    Greedy.total (uncovered requests) = (requests.map fun r => outstanding r.2).sum := by
  rw [Greedy.total, map_uncovered]

/-- The requests that an amount reaches and what each of them is given. -/
def allotted (requests : List (Nat × FactoryPaymentRequest)) (amount : Int) : List (Nat × Int) :=
  (Greedy.plan amount ((uncovered requests).filter fun supply => decide (0 < supply.2))).taken

/-- A request after an amount was allocated to it. -/
def credited (command : CommandContext) (amount : Int) (row : FactoryPaymentRequest) :
    FactoryPaymentRequest :=
  { row with
    invoiceCoveredAmountMinor := row.invoiceCoveredAmountMinor + amount
    status :=
      if row.totalAmountMinor ≤ row.invoiceCoveredAmountMinor + amount then .generated
      else .waitingInvoice
    updatedAt := command.now }

def creditAll (command : CommandContext) (requests : Table FactoryPaymentRequest) :
    List (Nat × Int) → Table FactoryPaymentRequest
  | [] => requests
  | draw :: rest => creditAll command (requests.modify draw.1 (credited command draw.2)) rest

/-- The allocation that a draw inserts. -/
def allocationOf (invoiceId : Nat) (draw : Nat × Int) : InvoicePaymentAllocation where
  invoiceId := invoiceId
  paymentRequestId := draw.1
  allocatedAmountMinor := draw.2
  status := .active

theorem allocateFrom_allots {invoiceId : Nat} {requests : List (Nat × FactoryPaymentRequest)}
    {remaining allocated : Int} (distinct : (requests.map (·.1)).Nodup)
    (current : ∀ r ∈ requests, (db factoryPaymentRequests).find? r.1 = some r.2)
    (nonneg : 0 ≤ remaining)
    (returns : (allocateFrom command invoiceId requests remaining).Returns db allocated sent db') :
    allocated = Greedy.total (allotted requests remaining) ∧
      db' invoicePaymentAllocations = (db invoicePaymentAllocations).insertAll
        ((allotted requests remaining).map (allocationOf invoiceId)) ∧
      db' factoryPaymentRequests =
        creditAll command (db factoryPaymentRequests) (allotted requests remaining) := by
  induction requests generalizing remaining allocated db sent with
  | nil =>
      obtain ⟨rfl, -, rfl⟩ := returns_pure.mp returns
      exact ⟨rfl, rfl, rfl⟩
  | cons head rest ih =>
      obtain ⟨requestId, request⟩ := head
      have distinctRest := List.nodup_cons.mp distinct
      have inRest : ∀ r ∈ rest, r ∈ (requestId, request) :: rest :=
        fun r member => List.mem_cons_of_mem _ member
      have here := outstanding_nonneg request
      unfold allocateFrom at returns
      rcases returns_ite.mp returns with ⟨spent, returns⟩ | ⟨unspent, returns⟩
      · obtain ⟨rfl, -, rfl⟩ := returns_pure.mp returns
        rw [allotted, spent, Greedy.plan_zero]
        exact ⟨rfl, rfl, rfl⟩
      · rcases returns_ite.mp returns with ⟨covered, returns⟩ | ⟨open', returns⟩
        · have same : allotted ((requestId, request) :: rest) remaining = allotted rest remaining := by
            rw [allotted, uncovered, List.map_cons, List.filter_cons_of_neg (by simp; omega)]
            rfl
          rw [same]
          exact ih distinctRest.2 (fun r member => current r (inRest r member)) nonneg returns
        · simp only [returns_bind, returns_pure] at returns
          obtain ⟨_, _, mid, _, round, ⟨others, _, last, _, later, ⟨rfl, -, rfl⟩, -⟩, -⟩ := returns
          obtain ⟨-, rfl⟩ := allocateRequest_returns round
          have found := current (requestId, request) List.mem_cons_self
          have same : allotted ((requestId, request) :: rest) remaining =
              (requestId, min remaining (outstanding request)) ::
                allotted rest (remaining - min remaining (outstanding request)) := by
            rw [allotted, uncovered, List.map_cons, List.filter_cons_of_pos (by simp; omega),
              Greedy.plan_cons unspent]
            rfl
          obtain ⟨total, allocations, requests⟩ := ih distinctRest.2 (by
            intro r member
            have other : r.1 ≠ requestId := by
              rintro rfl
              exact distinctRest.1 (List.mem_map.mpr ⟨r, member, rfl⟩)
            simp only [Store.put_same]
            rw [Table.find?_modify_ne _ _ other]
            exact current r (inRest r member)) (by omega) later
          have credit : ((db factoryPaymentRequests).modify requestId fun row => { row with
              invoiceCoveredAmountMinor :=
                request.invoiceCoveredAmountMinor + min remaining (outstanding request)
              status := if request.totalAmountMinor ≤ request.invoiceCoveredAmountMinor +
                min remaining (outstanding request) then .generated else .waitingInvoice
              updatedAt := command.now }) = (db factoryPaymentRequests).modify requestId
                (credited command (min remaining (outstanding request))) := by
            refine Table.modify_congr ?_
            intro row present
            rw [found] at present
            cases present
            rfl
          rw [same]
          refine ⟨by rw [Greedy.total_cons, total], ?_, ?_⟩
          · rw [allocations]
            simp only [Store.put_same, Store.put_other, ne_eq, reduceCtorEq, not_false_eq_true]
            rfl
          · rw [requests]
            simp only [Store.put_same]
            rw [credit]
            rfl

theorem creditAll_find {requests : Table FactoryPaymentRequest} {draws : List (Nat × Int)}
    (distinct : (draws.map (·.1)).Nodup) (positive : ∀ draw ∈ draws, 0 < draw.2) (id : Nat) :
    (creditAll command requests draws).find? id = (requests.find? id).map fun row =>
      if Greedy.share draws id = 0 then row else credited command (Greedy.share draws id) row := by
  induction draws generalizing requests with
  | nil => simp [creditAll, Greedy.share]
  | cons draw rest ih =>
      rw [List.map_cons, List.nodup_cons] at distinct
      have positiveRest := fun other member => positive other (List.mem_cons_of_mem draw member)
      have here := positive draw List.mem_cons_self
      rw [creditAll, Greedy.share_cons, ih distinct.2 positiveRest, Table.find?_modify]
      by_cases same : draw.1 = id
      · subst same
        have none := Greedy.share_of_not_mem distinct.1
        simp only [if_true, none, Int.add_zero, if_neg here.ne', Option.map_map]
        rfl
      · rw [if_neg fun equal => same equal.symm, if_neg same, Int.zero_add]

/-! ## An allocated invoice -/

section

variable {requests : List (Nat × FactoryPaymentRequest)} {amount : Int}

theorem allotted_eq (nonneg : 0 ≤ amount) :
    allotted requests amount =
      (Greedy.plan amount (uncovered requests)).taken.filter fun draw => decide (0 < draw.2) :=
  Greedy.plan_filter nonneg (uncovered_nonneg requests)

theorem share_allotted (nonneg : 0 ≤ amount) (id : Nat) :
    Greedy.share (allotted requests amount) id =
      Greedy.share (Greedy.plan amount (uncovered requests)).taken id := by
  rw [allotted_eq nonneg]
  exact Greedy.share_filter (Greedy.plan_nonneg nonneg (uncovered_nonneg requests)) id

theorem allotted_positive (nonneg : 0 ≤ amount) : ∀ draw ∈ allotted requests amount, 0 < draw.2 := by
  intro draw member
  rw [allotted_eq nonneg] at member
  simpa using (List.mem_filter.mp member).2

theorem allotted_distinct (distinct : (requests.map (·.1)).Nodup) :
    ((allotted requests amount).map (·.1)).Nodup := by
  refine List.Nodup.sublist (Greedy.plan_keys _ _).sublist ?_
  have sub := (List.filter_sublist (p := fun supply : Nat × Int => decide (0 < supply.2))
    (l := uncovered requests)).map (·.1)
  rw [uncovered_keys] at sub
  exact distinct.sublist sub

theorem total_allotted (nonneg : 0 ≤ amount) :
    Greedy.total (allotted requests amount) = min amount (Greedy.total (uncovered requests)) := by
  have stocked := uncovered_nonneg requests
  have kept : ∀ supply ∈ (uncovered requests).filter fun supply => decide (0 < supply.2),
      0 ≤ supply.2 := fun supply member => stocked supply (List.mem_filter.mp member).1
  have total := Greedy.plan_total amount
    ((uncovered requests).filter fun supply => decide (0 < supply.2))
  rw [Greedy.plan_left nonneg kept, Greedy.total_filter stocked] at total
  rw [allotted]
  omega

end

/-- What an allocated invoice did to the requests of its purchase order: each is
given its share, from the first to be paid, and the others stay as they were. -/
structure Allocated (invoiceId purchaseOrderId : Nat) (amount allocated : Int)
    (draws : List (Nat × Int)) (db db' : Database) : Prop where
  total : allocated = min amount ((requestsOf db purchaseOrderId).map fun r => outstanding r.2).sum
  sum : Greedy.total draws = allocated
  positive : ∀ draw ∈ draws, 0 < draw.2
  allocations : db' invoicePaymentAllocations =
    (db invoicePaymentAllocations).insertAll (draws.map (allocationOf invoiceId))
  requests : ∀ id row, (db factoryPaymentRequests).find? id = some row →
    ∃ row', (db' factoryPaymentRequests).find? id = some row' ∧
      row'.totalAmountMinor = row.totalAmountMinor ∧
      row'.invoiceCoveredAmountMinor = row.invoiceCoveredAmountMinor + Greedy.share draws id ∧
      (Greedy.share draws id = 0 → row' = row)
  order : ∀ before second after, requestsOf db purchaseOrderId = before ++ second :: after →
    Greedy.share draws second.1 ≠ 0 → ∀ first ∈ before,
      ∃ row', (db' factoryPaymentRequests).find? first.1 = some row' ∧
        row'.totalAmountMinor ≤ row'.invoiceCoveredAmountMinor
  within : ∀ id row, (db factoryPaymentRequests).find? id = some row →
    row.invoiceCoveredAmountMinor ≤ row.totalAmountMinor →
      ∃ row', (db' factoryPaymentRequests).find? id = some row' ∧
        row'.invoiceCoveredAmountMinor ≤ row'.totalAmountMinor

section

variable {invoiceId : Nat} {invoice : FactoryInvoice} {allocated : Int}

/-- The allotment of an invoice. -/
def allotmentOf (db : Database) (invoice : FactoryInvoice) : List (Nat × Int) :=
  allotted (requestsOf db invoice.purchaseOrderId) invoice.amountTaxIncludedMinor

theorem allocateInvoice_allots (nonneg : 0 ≤ invoice.amountTaxIncludedMinor)
    (returns : (allocateInvoice command invoiceId invoice).Returns db allocated sent db') :
    allocated = Greedy.total (allotmentOf db invoice) ∧
      db' invoicePaymentAllocations = (db invoicePaymentAllocations).insertAll
        ((allotmentOf db invoice).map (allocationOf invoiceId)) ∧
      db' factoryPaymentRequests =
        creditAll command (db factoryPaymentRequests) (allotmentOf db invoice) := by
  simp only [allocateInvoice, returns_bind_query] at returns
  have listed := requestsOf_listed db invoice.purchaseOrderId
  exact allocateFrom_allots listed.distinct listed.current nonneg returns

theorem share_allotment (nonneg : 0 ≤ invoice.amountTaxIncludedMinor) {r : Nat × FactoryPaymentRequest}
    (member : r ∈ requestsOf db invoice.purchaseOrderId) :
    0 ≤ Greedy.share (allotmentOf db invoice) r.1 ∧
      Greedy.share (allotmentOf db invoice) r.1 ≤ outstanding r.2 := by
  have listed := requestsOf_listed db invoice.purchaseOrderId
  rw [allotmentOf, share_allotted nonneg]
  refine Greedy.share_bounds (by rw [uncovered_keys]; exact listed.distinct) nonneg
    (uncovered_nonneg _) (r.1, outstanding r.2) ?_
  exact List.mem_map.mpr ⟨r, member, rfl⟩

theorem reached_of_share {id : Nat} (nonneg : 0 ≤ invoice.amountTaxIncludedMinor)
    (given : Greedy.share (allotmentOf db invoice) id ≠ 0) :
    ∃ row, (id, row) ∈ requestsOf db invoice.purchaseOrderId := by
  rw [allotmentOf, share_allotted nonneg] at given
  obtain ⟨draw, member, rfl⟩ := Greedy.drawn_of_share given
  obtain ⟨available, supplied⟩ := Greedy.plan_drawn draw member
  obtain ⟨r, inside, same⟩ := List.mem_map.mp supplied
  rw [← (Prod.mk.inj same).1]
  exact ⟨r.2, inside⟩

theorem credited_row {draws : List (Nat × Int)} {id : Nat} (row : FactoryPaymentRequest) :
    (if Greedy.share draws id = 0 then row
      else credited command (Greedy.share draws id) row).invoiceCoveredAmountMinor =
        row.invoiceCoveredAmountMinor + Greedy.share draws id ∧
      (if Greedy.share draws id = 0 then row
        else credited command (Greedy.share draws id) row).totalAmountMinor =
          row.totalAmountMinor := by
  split
  · rename_i none
    rw [none, Int.add_zero]
    exact ⟨rfl, rfl⟩
  · exact ⟨rfl, rfl⟩

theorem allocateInvoice_allocated (nonneg : 0 ≤ invoice.amountTaxIncludedMinor)
    (returns : (allocateInvoice command invoiceId invoice).Returns db allocated sent db') :
    Allocated invoiceId invoice.purchaseOrderId invoice.amountTaxIncludedMinor allocated
      (allotmentOf db invoice) db db' := by
  obtain ⟨total, allocations, requests⟩ := allocateInvoice_allots nonneg returns
  have listed := requestsOf_listed db invoice.purchaseOrderId
  have positive : ∀ draw ∈ allotmentOf db invoice, 0 < draw.2 := allotted_positive nonneg
  have distinct : ((allotmentOf db invoice).map (·.1)).Nodup := allotted_distinct listed.distinct
  have after : ∀ id row, (db factoryPaymentRequests).find? id = some row →
      (db' factoryPaymentRequests).find? id =
        some (if Greedy.share (allotmentOf db invoice) id = 0 then row
          else credited command (Greedy.share (allotmentOf db invoice) id) row) := by
    intro id row found
    rw [requests, creditAll_find distinct positive, found]
    rfl
  exact
    { total := by
        rw [total, allotmentOf, total_allotted nonneg, total_uncovered]
      sum := total.symm
      positive := positive
      allocations := allocations
      requests := by
        intro id row found
        refine ⟨_, after id row found, (credited_row row).2, (credited_row row).1, ?_⟩
        exact fun none => if_pos none
      order := by
        intro before second last split given first inside
        have member : first ∈ requestsOf db invoice.purchaseOrderId := by
          rw [split]
          exact List.mem_append_left _ inside
        refine ⟨_, after first.1 first.2 (listed.current first member), ?_⟩
        rw [(credited_row first.2).1, (credited_row first.2).2]
        have whole : Greedy.share (allotmentOf db invoice) first.1 = outstanding first.2 := by
          rw [allotmentOf, share_allotted nonneg] at given ⊢
          have cut : uncovered (requestsOf db invoice.purchaseOrderId) =
              uncovered before ++ (second.1, outstanding second.2) :: uncovered last := by
            rw [split, uncovered, List.map_append, List.map_cons]
            rfl
          exact Greedy.share_before (by rw [uncovered_keys]; exact listed.distinct) cut given
            (first.1, outstanding first.2) (List.mem_map.mpr ⟨first, inside, rfl⟩)
        rw [whole, outstanding]
        omega
      within := by
        intro id row found covers
        refine ⟨_, after id row found, ?_⟩
        rw [(credited_row row).1, (credited_row row).2]
        by_cases none : Greedy.share (allotmentOf db invoice) id = 0
        · omega
        · obtain ⟨other, member⟩ := reached_of_share nonneg none
          have same := listed.current (id, other) member
          rw [found] at same
          cases same
          have bound := (share_allotment nonneg member).2
          unfold outstanding at bound
          dsimp only at bound covers ⊢
          omega }

/-! ## One invoice after another -/

/-- The requests of the purchase order after the allocation are the same ones in
the same order, each with its share. -/
theorem requestsOf_after {purchaseOrderId : Nat} {draws : List (Nat × Int)}
    (distinct : (draws.map (·.1)).Nodup) (positive : ∀ draw ∈ draws, 0 < draw.2)
    (requests : db' factoryPaymentRequests = creditAll command (db factoryPaymentRequests) draws)
    (items : db' factoryPaymentRequestItems = db factoryPaymentRequestItems) :
    requestsOf db' purchaseOrderId = (requestsOf db purchaseOrderId).map fun r =>
      (r.1, if Greedy.share draws r.1 = 0 then r.2
        else credited command (Greedy.share draws r.1) r.2) := by
  have rows : (db' factoryPaymentRequests).rows =
      ((db factoryPaymentRequests).revise fun id row =>
        if Greedy.share draws id = 0 then row
        else credited command (Greedy.share draws id) row).rows := by
    refine Table.rows_ext ?_
    intro id
    rw [Table.find?_revise, requests, creditAll_find distinct positive]
  unfold requestsOf
  rw [List.map_insertionSort paidFirst paidFirst]
  · congr 1
    simp only [Table.select, rows, items, Table.revise, List.filter_map]
    rfl
  · intro a _ b _
    unfold paidFirst
    split <;> split <;> rfl

/-- What the requests leave to be covered is drained by the amount of the
invoice. -/
theorem uncovered_after (nonneg : 0 ≤ invoice.amountTaxIncludedMinor)
    (returns : (allocateInvoice command invoiceId invoice).Returns db allocated sent db') :
    uncovered (requestsOf db' invoice.purchaseOrderId) =
      Greedy.drain invoice.amountTaxIncludedMinor
        (uncovered (requestsOf db invoice.purchaseOrderId)) := by
  obtain ⟨-, -, requests⟩ := allocateInvoice_allots nonneg returns
  have listed := requestsOf_listed db invoice.purchaseOrderId
  have items := returns.unwritten factoryPaymentRequestItems (by decide)
  rw [Greedy.drain_eq (by rw [uncovered_keys]; exact listed.distinct) nonneg (uncovered_nonneg _),
    requestsOf_after (allotted_distinct listed.distinct) (allotted_positive nonneg) requests items,
    uncovered_map, map_uncovered]
  refine List.map_congr_left ?_
  intro r member
  have bounds := share_allotment nonneg member
  rw [allotmentOf, share_allotted nonneg] at bounds
  simp only [share_allotted nonneg, Prod.mk.injEq, true_and]
  by_cases none : Greedy.share (Greedy.plan invoice.amountTaxIncludedMinor
      (uncovered (requestsOf db invoice.purchaseOrderId))).taken r.1 = 0
  · rw [if_pos none]
    omega
  · rw [if_neg none]
    unfold outstanding at bounds ⊢
    simp only [credited]
    omega

theorem drained {requests : List (Nat × FactoryPaymentRequest)} {amount : Int}
    (distinct : (requests.map (·.1)).Nodup) (nonneg : 0 ≤ amount)
    {r : Nat × FactoryPaymentRequest} (member : r ∈ requests) :
    (r.1, outstanding r.2 - Greedy.share (allotted requests amount) r.1) ∈
      Greedy.drain amount (uncovered requests) := by
  rw [Greedy.drain_eq (by rw [uncovered_keys]; exact distinct) nonneg (uncovered_nonneg _),
    share_allotted nonneg]
  exact List.mem_map.mpr ⟨(r.1, outstanding r.2), List.mem_map.mpr ⟨r, member, rfl⟩, rfl⟩

end

/-- A request is given by two invoices, one after the other, what it is given by
one of both amounts. -/
theorem shares_add {db mid : Database} {first second whole : FactoryInvoice} {invoiceId : Nat}
    {allocated : Int} {middle : Database}
    (nonneg : 0 ≤ first.amountTaxIncludedMinor) (nonneg' : 0 ≤ second.amountTaxIncludedMinor)
    (sameOrder : second.purchaseOrderId = first.purchaseOrderId)
    (sameOrder' : whole.purchaseOrderId = first.purchaseOrderId)
    (sum : whole.amountTaxIncludedMinor =
      first.amountTaxIncludedMinor + second.amountTaxIncludedMinor)
    (returns : (allocateInvoice command invoiceId first).Returns db allocated sent mid)
    (requests : middle factoryPaymentRequests = mid factoryPaymentRequests)
    (items : middle factoryPaymentRequestItems = mid factoryPaymentRequestItems) (id : Nat) :
    Greedy.share (allotmentOf db first) id + Greedy.share (allotmentOf middle second) id =
      Greedy.share (allotmentOf db whole) id := by
  have nonnegWhole : 0 ≤ whole.amountTaxIncludedMinor := by omega
  have listed := requestsOf_listed db first.purchaseOrderId
  have listed' := requestsOf_listed middle first.purchaseOrderId
  have same : requestsOf middle first.purchaseOrderId = requestsOf mid first.purchaseOrderId := by
    simp only [requestsOf, requests, items]
  obtain ⟨-, -, credits⟩ := allocateInvoice_allots nonneg returns
  have after := @requestsOf_after command db mid first.purchaseOrderId _
    (allotted_distinct listed.distinct) (allotted_positive nonneg) credits
    (returns.unwritten factoryPaymentRequestItems (by decide))
  have left := uncovered_after nonneg returns
  rw [← same] at after left
  have distinct : ((Greedy.drain (first.amountTaxIncludedMinor + second.amountTaxIncludedMinor)
      (uncovered (requestsOf db first.purchaseOrderId))).map (·.1)).Nodup := by
    rw [Greedy.drain_keys, uncovered_keys]
    exact listed.distinct
  have distinct' : ((uncovered (requestsOf middle first.purchaseOrderId)).map (·.1)).Nodup := by
    rw [uncovered_keys]
    exact listed'.distinct
  by_cases owned : ∃ row, (id, row) ∈ requestsOf db first.purchaseOrderId
  · obtain ⟨row, member⟩ := owned
    obtain ⟨row', member'⟩ : ∃ row', (id, row') ∈ requestsOf middle first.purchaseOrderId := by
      rw [after]
      exact ⟨_, List.mem_map.mpr ⟨_, member, rfl⟩⟩
    -- what the request leaves is read off the drained lists, where its key stands once
    have afterFirst := drained listed.distinct nonneg member
    rw [← left] at afterFirst
    have rest : outstanding row' = outstanding row - Greedy.share (allotmentOf db first) id :=
      congrArg Prod.snd (List.inj_on_of_nodup_map distinct'
        (List.mem_map.mpr ⟨_, member', rfl⟩) afterFirst rfl)
    have afterSecond := drained listed'.distinct nonneg' member'
    rw [left, Greedy.drain_add nonneg nonneg' (uncovered_nonneg _)] at afterSecond
    have afterWhole := drained listed.distinct nonnegWhole member
    rw [sum] at afterWhole
    have equal : outstanding row' - Greedy.share (allotted (requestsOf middle first.purchaseOrderId)
        second.amountTaxIncludedMinor) id = outstanding row - Greedy.share (allotted
          (requestsOf db first.purchaseOrderId)
          (first.amountTaxIncludedMinor + second.amountTaxIncludedMinor)) id :=
      congrArg Prod.snd (List.inj_on_of_nodup_map distinct afterSecond afterWhole rfl)
    rw [allotmentOf, allotmentOf, allotmentOf, sameOrder, sameOrder', sum]
    rw [allotmentOf] at rest
    omega
  · have none : ∀ row, (id, row) ∉ requestsOf middle first.purchaseOrderId := by
      intro row member
      rw [after] at member
      obtain ⟨r, inside, equal⟩ := List.mem_map.mp member
      obtain ⟨rfl, -⟩ := Prod.mk.inj equal
      exact owned ⟨r.2, inside⟩
    have noFirst : Greedy.share (allotmentOf db first) id = 0 := by
      by_contra given
      exact owned (reached_of_share nonneg given)
    have noSecond : Greedy.share (allotmentOf middle second) id = 0 := by
      by_contra given
      obtain ⟨row, member⟩ := reached_of_share nonneg' given
      rw [sameOrder] at member
      exact none row member
    have noWhole : Greedy.share (allotmentOf db whole) id = 0 := by
      by_contra given
      obtain ⟨row, member⟩ := reached_of_share nonnegWhole given
      rw [sameOrder'] at member
      exact owned ⟨row, member⟩
    omega

theorem covered_after {invoiceId : Nat} {invoice : FactoryInvoice} {allocated : Int} {id : Nat}
    {row : FactoryPaymentRequest} (nonneg : 0 ≤ invoice.amountTaxIncludedMinor)
    (returns : (allocateInvoice command invoiceId invoice).Returns db allocated sent db')
    (found : (db' factoryPaymentRequests).find? id = some row) :
    ∃ old, (db factoryPaymentRequests).find? id = some old ∧ row.invoiceCoveredAmountMinor =
      old.invoiceCoveredAmountMinor + Greedy.share (allotmentOf db invoice) id := by
  obtain ⟨-, -, requests⟩ := allocateInvoice_allots nonneg returns
  have listed := requestsOf_listed db invoice.purchaseOrderId
  have find := @creditAll_find command (db factoryPaymentRequests) (allotmentOf db invoice)
    (allotted_distinct listed.distinct) (allotted_positive nonneg) id
  rw [requests, find] at found
  obtain ⟨old, before, rfl⟩ := Option.map_eq_some_iff.mp found
  exact ⟨old, before, (credited_row old).1⟩

/-- An amount invoiced at once, and the same amount on two invoices. -/
structure Split (first second whole : FactoryInvoice) : Prop where
  nonneg : 0 ≤ second.amountTaxIncludedMinor
  order : second.purchaseOrderId = first.purchaseOrderId
  wholeOrder : whole.purchaseOrderId = first.purchaseOrderId
  amount : whole.amountTaxIncludedMinor =
    first.amountTaxIncludedMinor + second.amountTaxIncludedMinor

/-- Nothing between two allocations touched the payment requests. -/
structure SameRequests (db db' : Database) : Prop where
  requests : db' factoryPaymentRequests = db factoryPaymentRequests
  items : db' factoryPaymentRequestItems = db factoryPaymentRequestItems

/-- An invoice is allocated to the requests of its purchase order from the first
to be paid, each up to its total, and two invoices one after the other cover
what one of both amounts covers. -/
theorem invoice_allocated (command : CommandContext) (invoiceId : Nat) (invoice : FactoryInvoice)
    (nonneg : 0 ≤ invoice.amountTaxIncludedMinor) {db mid : Database} {allocated : Int}
    {sent : List DomainEvent}
    (returns : (allocateInvoice command invoiceId invoice).Returns db allocated sent mid) :
    (∃ draws, Allocated invoiceId invoice.purchaseOrderId invoice.amountTaxIncludedMinor allocated
      draws db mid) ∧
    ∀ middle second whole, SameRequests mid middle → Split invoice second whole →
      ∀ command' id' allocated' sent' after command'' id'' allocated'' sent'' after',
        (allocateInvoice command' id' second).Returns middle allocated' sent' after →
        (allocateInvoice command'' id'' whole).Returns db allocated'' sent'' after' →
        allocated'' = allocated + allocated' ∧
        ∀ id row row', (after factoryPaymentRequests).find? id = some row →
          (after' factoryPaymentRequests).find? id = some row' →
          row.invoiceCoveredAmountMinor = row'.invoiceCoveredAmountMinor := by
  refine ⟨⟨_, allocateInvoice_allocated nonneg returns⟩, ?_⟩
  intro middle second whole same split command' id' allocated' sent' after command'' id'' allocated''
    sent'' after' later both
  have nonnegWhole : 0 ≤ whole.amountTaxIncludedMinor := by
    rw [split.amount]
    exact Int.add_nonneg nonneg split.nonneg
  constructor
  · have one := (allocateInvoice_allocated nonneg returns).total
    have two := (allocateInvoice_allocated split.nonneg later).total
    have three := (allocateInvoice_allocated nonnegWhole both).total
    have left := congrArg Greedy.total (uncovered_after nonneg returns)
    have stocked := uncovered_nonneg (requestsOf db invoice.purchaseOrderId)
    have between : requestsOf middle invoice.purchaseOrderId =
        requestsOf mid invoice.purchaseOrderId := by
      simp only [requestsOf, same.requests, same.items]
    have some := Greedy.total_nonneg stocked
    rw [Greedy.total_drain nonneg stocked, ← between] at left
    rw [← total_uncovered] at one two three
    rw [split.order, left] at two
    rw [split.wholeOrder, split.amount] at three
    have nonneg' := split.nonneg
    omega
  · intro id row row' found found'
    have shares := shares_add nonneg split.nonneg split.order split.wholeOrder split.amount returns
      same.requests same.items id
    obtain ⟨between, foundMiddle, added⟩ := covered_after split.nonneg later found
    rw [same.requests] at foundMiddle
    obtain ⟨old, foundOld, before⟩ := covered_after nonneg returns foundMiddle
    obtain ⟨old', foundOld', whole⟩ := covered_after nonnegWhole both found'
    obtain rfl := Option.some.inj (foundOld.symm.trans foundOld')
    omega

/-- An order with one request, of which invoices cover 2. -/
def coveredTwo (totalAmountMinor : Int) : Database :=
  (emptyDatabase.put factoryPaymentRequests (Table.empty.insert
    { requestNo := "P", plannedPaymentDate := "1", totalAmountMinor, status := .generated
      invoiceCoveredAmountMinor := 2, paidAt := none, paymentReference := none
      updatedAt := 1 })).put
    factoryPaymentRequestItems (Table.empty.insert ⟨1, 1⟩)

def clerk : CommandContext where
  access := { userId := 1, sessionId := some 1, roles := [], factoryId := none, supplierId := none }
  now := 1
  clock := 1
  clockText := "1"
  today := "1"
  randomUUID := fun draw => toString draw
  sha256 := fun text => text

def fiveInvoiced : FactoryInvoice where
  factoryId := 1
  purchaseOrderId := 1
  coverageMode := .fullOrder
  deliveryBatchId := none
  invoiceNo := "A"
  invoiceType := .vatGeneral
  amountTaxIncludedMinor := 5
  taxAmountMinor := 0
  fileKey := "K"
  status := .verified
  expectedAmountMinor := 5
  amountMatchesExpected := true
  mismatchAmountMinor := 0

/-- Five are allocated to a request of 10 that lacks eight. -/
theorem invoice_allocated_five :
    ∃ mid draws, (allocateInvoice clerk 1 fiveInvoiced).Returns (coveredTwo 10) 5 [] mid ∧
      Allocated 1 1 5 5 draws (coveredTwo 10) mid := by
  have listed : requestsOf (coveredTwo 10) fiveInvoiced.purchaseOrderId =
      [(1, { requestNo := "P", plannedPaymentDate := "1", totalAmountMinor := 10
             status := .generated, invoiceCoveredAmountMinor := 2, paidAt := none
             paymentReference := none, updatedAt := 1 })] := rfl
  obtain ⟨mid, returns⟩ : ∃ mid,
      (allocateInvoice clerk 1 fiveInvoiced).Returns (coveredTwo 10) 5 [] mid := by
    simp only [allocateInvoice, returns_bind_query, listed]
    exact ⟨_, rfl⟩
  obtain ⟨draws, allocated⟩ := (invoice_allocated clerk 1 fiveInvoiced (by decide) returns).1
  exact ⟨mid, draws, returns, allocated⟩

/-- A request above its total before the allocation ends above it. -/
theorem over_covered_stays :
    (allocateInvoice clerk 1 fiveInvoiced).Returns (coveredTwo 1) 0 [] (coveredTwo 1) ∧
      ∃ row, (1, row) ∈ requestsOf (coveredTwo 1) fiveInvoiced.purchaseOrderId ∧
        ((coveredTwo 1) factoryPaymentRequests).find? 1 = some row ∧
        ¬ row.invoiceCoveredAmountMinor ≤ row.totalAmountMinor := by
  have listed : requestsOf (coveredTwo 1) fiveInvoiced.purchaseOrderId =
      [(1, { requestNo := "P", plannedPaymentDate := "1", totalAmountMinor := 1
             status := .generated, invoiceCoveredAmountMinor := 2, paidAt := none
             paymentReference := none, updatedAt := 1 })] := rfl
  constructor
  · simp only [allocateInvoice, returns_bind_query, listed]
    rfl
  · exact ⟨_, by rw [listed]; exact List.mem_singleton.mpr rfl, rfl, by decide⟩

end SupplyChain.Finance
