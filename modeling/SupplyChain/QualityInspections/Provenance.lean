import SupplyChain.Platform.Refusals
import SupplyChain.QualityInspections.Outcomes
import SupplyChain.ProductionOrders.Reports
import SupplyChain.Stock.Steps

/-!
Where the stock that waits for an inspection came from: one receipt or one
report, in every run that neither accepts goods through a production variance
nor counts goods without a source as pending inspection.
-/

namespace SupplyChain.QualityInspections

open Relational Transaction TableName Stock
open ApprovalEffects (AdjustmentRow pendingAdjustments acceptedQuantity stores)

variable {effects : Approvals.ProcurementEffects} {command : CommandContext} {db db' : Database}
  {event : Event} {opening : Database} {events : List Event}

/-! ## Moves and the quantity pending inspection -/

/-- A move brings goods under inspection only where `source` allows it. -/
def Sourced (source : Nat → Prop) (next : Nat) : Move → Prop
  | .intake batch => 0 < batch.pendingInspectionQuantity → source next
  | .adjust batchId bucket counted => bucket = .pendingInspection → 0 < counted → source batchId
  | _ => True

def PendingFrom (source : Nat → Prop) (batches : Table InventoryBatch) : Prop :=
  ∀ id batch, batches.find? id = some batch → 0 < batch.pendingInspectionQuantity → source id

theorem PendingFrom.modified {source : Nat → Prop} {batches : Table InventoryBatch} {id : Nat}
    {change : InventoryBatch → InventoryBatch} (holds : PendingFrom source batches)
    (lowers : ∀ row, 0 < (change row).pendingInspectionQuantity →
      0 < row.pendingInspectionQuantity ∨ source id) :
    PendingFrom source (batches.modify id change) := by
  intro key row found positive
  rcases Table.find?_modify_cases found with ⟨rfl, old, foundOld, rfl⟩ | ⟨-, old⟩
  · rcases lowers old positive with before | here
    · exact holds _ old foundOld before
    · exact here
  · exact holds key row old positive

theorem pendingFrom_moved {source : Nat → Prop} {s s' : Stock} {move : Move}
    (moved : Moved s move s') (sourced : Sourced source s.batches.nextId move)
    (holds : PendingFrom source s.batches) : PendingFrom source s'.batches := by
  cases moved with
  | intake =>
      intro id row found positive
      rcases Table.find?_insert_cases found with ⟨rfl, rfl⟩ | old
      · exact sourced positive
      · exact holds id row old positive
  | @adjust batchId bucket counted batch found =>
      refine holds.modified ?_
      intro row positive
      cases bucket with
      | pendingInspection => exact Or.inr (sourced rfl positive)
      | _ => exact Or.inl positive
  | settle found positive waiting =>
      refine holds.modified ?_
      intro row after
      simp only [Move.change] at after
      exact Or.inl (by omega)
  | _ => exact holds.modified fun row positive => Or.inl positive

theorem pendingFrom_moves {source : Nat → Prop} {s s' : Stock} {moves : List Move}
    (run : Moves s moves s') (sourced : ∀ next, ∀ move ∈ moves, Sourced source next move)
    (holds : PendingFrom source s.batches) : PendingFrom source s'.batches := by
  induction run with
  | done => exact holds
  | next head _ ih =>
      refine ih (fun next move member => sourced next move (List.mem_cons_of_mem _ member)) ?_
      exact pendingFrom_moved head (sourced _ _ List.mem_cons_self) holds

/-! ## Sources -/

/-- The source of all goods under inspection is on record, and no record is of
a batch that does not exist yet. -/
structure Provenance (db : Database) : Prop where
  receipts : ∀ id receipt, (db purchaseReceipts).find? id = some receipt →
    receipt.batchId < (db inventoryBatches).nextId
  reports : ∀ id report batchId, (db productionReports).find? id = some report →
    report.batchId = some batchId → batchId < (db inventoryBatches).nextId
  traced : PendingFrom (Traced db) (db inventoryBatches)

/-- A report stays the source of its batch. -/
def SourceKept (_ : Nat) (old row : ProductionReport) : Prop :=
  row.batchId = old.batchId

theorem traced_congr (receipts : db' purchaseReceipts = db purchaseReceipts)
    (reports : Table.Revises SourceKept (db productionReports) (db' productionReports))
    (batchId : Nat) : Traced db' batchId ↔ Traced db batchId := by
  obtain ⟨change, revised, kept⟩ := reports
  have same : (reportsOf db' batchId).length = (reportsOf db batchId).length := by
    rw [reportsOf, revised, reportsOf]
    refine Table.length_select_revise _ _ _ ?_
    intro id row found
    rw [kept id row found]
  rw [Traced, Traced, same, receiptsOf, receiptsOf, receipts]

theorem Provenance.moved {moves : List Move} (provenance : Provenance db)
    (receipts : db' purchaseReceipts = db purchaseReceipts)
    (reports : Table.Revises SourceKept (db productionReports) (db' productionReports))
    (run : Moves (stockOf db) moves (stockOf db'))
    (sourced : ∀ next, ∀ move ∈ moves, Sourced (Traced db) next move) : Provenance db' where
  receipts id receipt found := by
    rw [receipts] at found
    exact Nat.lt_of_lt_of_le (provenance.receipts id receipt found) run.kept.batches.grows
  reports id report batchId found source := by
    obtain ⟨old, foundOld, kept⟩ := reports.backward found
    rw [kept] at source
    exact Nat.lt_of_lt_of_le (provenance.reports id old batchId foundOld source)
      run.kept.batches.grows
  traced id batch found positive :=
    (traced_congr receipts reports id).mpr
      (pendingFrom_moves run sourced provenance.traced id batch found positive)

theorem length_receiptsOf_insert {receipt : PurchaseReceipt}
    (receipts : db' purchaseReceipts = (db purchaseReceipts).insert receipt) (batchId : Nat) :
    (receiptsOf db' batchId).length =
      (receiptsOf db batchId).length + (if receipt.batchId = batchId then 1 else 0) := by
  rw [receiptsOf, receipts, Table.select_insert, receiptsOf, List.length_append]
  congr 1
  by_cases here : receipt.batchId = batchId
  · simp [here]
  · simp [here]

theorem length_reportsOf_insert {report : ProductionReport}
    (reports : db' productionReports = (db productionReports).insert report) (batchId : Nat) :
    (reportsOf db' batchId).length =
      (reportsOf db batchId).length + (if report.batchId = some batchId then 1 else 0) := by
  rw [reportsOf, reports, Table.select_insert, reportsOf, List.length_append]
  congr 1
  by_cases here : report.batchId = some batchId
  · simp [here]
  · simp [here]

theorem Provenance.unsourced (provenance : Provenance db) :
    receiptsOf db (db inventoryBatches).nextId = [] ∧
      reportsOf db (db inventoryBatches).nextId = [] := by
  constructor
  · refine Table.select_eq_nil.mpr ?_
    intro id receipt found
    have below := provenance.receipts id receipt found
    simp only [beq_eq_false_iff_ne]
    omega
  · refine Table.select_eq_nil.mpr ?_
    intro id report found
    rw [beq_eq_false_iff_ne]
    intro source
    exact absurd (provenance.reports id report _ found source) (Nat.lt_irrefl _)

theorem Provenance.purchased {batch : InventoryBatch} {receipt : PurchaseReceipt}
    (provenance : Provenance db) (stored : receipt.batchId = (db inventoryBatches).nextId)
    (batches : db' inventoryBatches = (db inventoryBatches).insert batch)
    (receipts : db' purchaseReceipts = (db purchaseReceipts).insert receipt)
    (reports : db' productionReports = db productionReports) : Provenance db' := by
  obtain ⟨noReceipt, noReport⟩ := provenance.unsourced
  constructor
  · intro id other found
    rw [receipts] at found
    rw [batches, Table.nextId_insert]
    rcases Table.find?_insert_cases found with ⟨-, rfl⟩ | old
    · omega
    · exact Nat.lt_succ_of_lt (provenance.receipts id other old)
  · intro id report batchId found source
    rw [reports] at found
    rw [batches, Table.nextId_insert]
    exact Nat.lt_succ_of_lt (provenance.reports id report batchId found source)
  · intro id row found positive
    rw [batches] at found
    have same : reportsOf db' id = reportsOf db id := by rw [reportsOf, reports, reportsOf]
    rw [Traced, length_receiptsOf_insert receipts, same, stored]
    rcases Table.find?_insert_cases found with ⟨rfl, -⟩ | old
    · simp [noReceipt, noReport]
    · have older : (db inventoryBatches).nextId ≠ id :=
        fun equal => absurd (Table.find?_lt_nextId old) (by omega)
      rw [if_neg older]
      exact provenance.traced id row old positive

theorem Provenance.reported {report : ProductionReport} (provenance : Provenance db)
    (receipts : db' purchaseReceipts = db purchaseReceipts)
    (reports : db' productionReports = (db productionReports).insert report)
    (stored : (report.batchId = none ∧ db' inventoryBatches = db inventoryBatches) ∨
      ∃ batch, report.batchId = some (db inventoryBatches).nextId ∧
        db' inventoryBatches = (db inventoryBatches).insert batch) : Provenance db' := by
  obtain ⟨noReceipt, noReport⟩ := provenance.unsourced
  have grows : (db inventoryBatches).nextId ≤ (db' inventoryBatches).nextId := by
    rcases stored with ⟨-, batches⟩ | ⟨batch, -, batches⟩
    · rw [batches]
    · rw [batches]
      exact Nat.le_succ _
  constructor
  · intro id other found
    rw [receipts] at found
    exact Nat.lt_of_lt_of_le (provenance.receipts id other found) grows
  · intro id other batchId found source
    rw [reports] at found
    rcases Table.find?_insert_cases found with ⟨-, rfl⟩ | old
    · rcases stored with ⟨none, -⟩ | ⟨batch, some, batches⟩
      · rw [none] at source
        cases source
      · rw [some] at source
        cases source
        rw [batches]
        exact Nat.lt_succ_self _
    · exact Nat.lt_of_lt_of_le (provenance.reports id other batchId old source) grows
  · intro id row found positive
    have same : receiptsOf db' id = receiptsOf db id := by rw [receiptsOf, receipts, receiptsOf]
    rw [Traced, length_reportsOf_insert reports, same]
    rcases stored with ⟨none, batches⟩ | ⟨batch, some, batches⟩
    · rw [batches] at found
      rw [none, if_neg (by simp)]
      exact provenance.traced id row found positive
    · rw [batches] at found
      rw [some]
      rcases Table.find?_insert_cases found with ⟨rfl, -⟩ | old
      · simp [noReceipt, noReport]
      · have older : (db inventoryBatches).nextId ≠ id :=
          fun equal => absurd (Table.find?_lt_nextId old) (by omega)
        rw [if_neg (by simpa using older)]
        exact provenance.traced id row old positive

/-! ## Steps -/

instance (db : Database) (batchId : Nat) : Decidable (Traced db batchId) :=
  inferInstanceAs (Decidable (_ ∨ _))

instance (approval : ApprovalRequest) (decision : Decision) :
    Decidable (stores approval decision) :=
  inferInstanceAs (Decidable (_ ∨ _))

/-- A decision about a variance stores nothing as the company's, and an approved
count finds nothing under inspection that has no source. -/
def KeepsProvenance (db : Database) : Event → Prop
  | .command ⟨_, .decideApproval body⟩ =>
      ∀ approval ∈ (db approvalRequests).find? body.id,
        (∀ row ∈ ProductionOrders.varianceRow db body, stores approval body.decision →
          acceptedQuantity row body.decision ≤ 0) ∧
        (approval.workflowType = .stocktakeVariance → body.decision = .approved →
          ∀ row ∈ pendingAdjustments db approval.entityId,
            row.adjustment.bucket = .pendingInspection → 0 < row.adjustment.countedQuantity →
              ∀ batchId ∈ row.count.batchId, Traced db batchId)
  | _ => True

instance (db : Database) (event : Event) : Decidable (KeepsProvenance db event) := by
  obtain ⟨_, body⟩ | _ := event
  · obtain _ | _ := body <;> (dsimp only [KeepsProvenance]; infer_instance)
  all_goals exact isTrue trivial

/-- Outside of receipts and completions no move brings goods under inspection
that have no source. -/
theorem makes_sourced {move : Move} (makes : Makes db event move)
    (keeps : KeepsProvenance db event)
    (unreceived : ∀ command body, event ≠ .command ⟨command, .receivePurchase body⟩)
    (uncompleted : ∀ command body, event ≠ .command ⟨command, .transitionProductionOrder body⟩)
    (next : Nat) : Sourced (Traced db) next move := by
  cases makes with
  | arrived =>
      intro positive
      simp [Inventory.transferBatch] at positive
  | purchased => exact absurd rfl (unreceived _ _)
  | returned =>
      intro positive
      simp [Returns.returnBatch] at positive
  | produced => exact absurd rfl (uncompleted _ _)
  | accepted found workflow report brings positive active =>
      rename_i command body approval row warehouseId
      have about : ProductionOrders.varianceRow db body = some row := by
        simp [ProductionOrders.varianceRow, found, workflow, report]
      have none := (keeps _ found).1 row about brings
      exact absurd positive (Int.not_lt.mpr none)
  | kept =>
      intro positive
      simp [ApprovalEffects.factoryBatch] at positive
  | adjusted found workflow approved pending bound _ =>
      intro bucket positive
      exact (keeps _ found).2 workflow approved _ pending bucket positive _ bound
  | _ => trivial

theorem work_receipts (work : Work effects db event db')
    (unreceived : ∀ command body, event ≠ .command ⟨command, .receivePurchase body⟩) :
    db' purchaseReceipts = db purchaseReceipts := by
  cases work with
  | @command _ request reply sent returns =>
      obtain ⟨command, body⟩ := request
      unfold runCommand at returns
      cases body with
      | receivePurchase body => exact absurd rfl (unreceived command body)
      | decideApproval body =>
          exact (returns_widen.mp returns).unwritten _ (by decide)
      | _ => exact (returns_widen.mp returns).unwritten _ (by decide)
  | warnInvoiceRisk warned => exact warned.unwritten _ (by decide)
  | procurement own => exact own _ (by decide)
  | approvalRequest => exact Store.put_other _ _ (by decide)
  | outboxMessage => rfl

theorem worked_sources (worked : ProductionOrders.Worked db event db')
    (uncompleted : ∀ command body, event ≠ .command ⟨command, .transitionProductionOrder body⟩) :
    Table.Revises SourceKept (db productionReports) (db' productionReports) := by
  have still : db' productionReports = db productionReports →
      Table.Revises SourceKept (db productionReports) (db' productionReports) := by
    intro same
    rw [same]
    exact Table.Revises.refl fun _ _ => rfl
  cases worked with
  | created created kept => exact still (kept _ (by decide))
  | transitioned => exact absurd rfl (uncompleted _ _)
  | judged judged =>
      rw [judged.reports]
      exact Table.revises_modify (fun _ _ => rfl) fun _ _ _ => rfl
  | elsewhere _ _ reports => exact still reports

theorem reportedAll_sourced {orderId : Nat} {lines : List ProductionOrders.MaterialReport}
    {moves : List Move} {start last : Database}
    (reported : ProductionOrders.ReportedAll orderId lines moves start last)
    (source : Nat → Prop) (next : Nat) : ∀ move ∈ moves, Sourced source next move := by
  intro move member
  obtain ⟨rows, row, -, quantity, rfl | rfl⟩ := reported.onPool move member
  · trivial
  · trivial

theorem Provenance.transitioned {id : Nat} {order : ExecutionOrder} {sku : String}
    {action : ProductionOrders.ProductionAction} {sent : List DomainEvent}
    (provenance : Provenance db) (receipts : db' purchaseReceipts = db purchaseReceipts)
    (transitioned : ProductionOrders.Transitioned command id order sku db db' action sent) :
    Provenance db' := by
  have unchanged : ∀ {mid : Database}, mid productionReports = db productionReports →
      Table.Revises SourceKept (db productionReports) (mid productionReports) := by
    intro mid same
    rw [same]
    exact Table.Revises.refl fun _ _ => rfl
  cases transitioned with
  | released _ _ _ run onPool _ kept =>
      refine provenance.moved receipts (unchanged (kept _ (by decide))) run ?_
      intro next move member
      obtain ⟨row, -, quantity, rfl | rfl⟩ := onPool move member
      · trivial
      · trivial
  | started _ _ kept =>
      have still : Moves (stockOf db) [] (stockOf db') := by
        simp only [stockOf, kept inventoryBatches (by decide),
          kept inventoryReservations (by decide)]
        exact Run.done
      exact provenance.moved receipts (unchanged (kept _ (by decide))) still (by simp)
  | reported begins reported ends =>
      have run := reported.run
      rw [begins.stock, ← ends.stock] at run
      refine provenance.moved receipts (unchanged ?_) run fun next => reportedAll_sourced reported _ next
      rw [ends _ (by decide), reported.kept _ (by decide), begins _ (by decide)]
  | @completed lines start mid moves actual deviates pending begins reported completed _ _ =>
      have run := reported.run
      rw [begins.stock] at run
      have midReceipts := (reported.kept purchaseReceipts (by decide)).trans (begins _ (by decide))
      have before : Provenance mid := by
        refine provenance.moved midReceipts (unchanged ?_) run
          fun next => reportedAll_sourced reported _ next
        rw [reported.kept _ (by decide), begins _ (by decide)]
      rw [← midReceipts] at receipts
      cases completed.stored with
      | asked _ reports batches _ _ =>
          exact before.reported receipts reports (Or.inl ⟨rfl, batches⟩)
      | empty _ reports batches _ _ =>
          exact before.reported receipts reports (Or.inl ⟨rfl, batches⟩)
      | stored _ _ _ reports batches _ _ =>
          exact before.reported receipts reports (Or.inr ⟨_, rfl, batches⟩)

theorem work_provenance (work : Work effects db event db') (keeps : KeepsProvenance db event)
    (provenance : Provenance db) : Provenance db' := by
  by_cases received : ∃ command body, event = .command ⟨command, .receivePurchase body⟩
  · obtain ⟨command, body, rfl⟩ := received
    cases work with
    | command returns =>
        simp only [runCommand, returns_widen] at returns
        obtain ⟨-, item, batch, receipt, received⟩ :=
          PurchaseReceipts.receivePurchase_returns returns
        exact provenance.purchased received.stored received.batches received.receipts
          (returns.unwritten _ (by decide))
  · push Not at received
    have receipts := work_receipts work received
    by_cases transitions : ∃ command body,
        event = .command ⟨command, .transitionProductionOrder body⟩
    · obtain ⟨command, body, rfl⟩ := transitions
      cases work with
      | command returns =>
          simp only [runCommand, returns_widen] at returns
          obtain ⟨order, item, -, -, transitioned⟩ :=
            ProductionOrders.transitionProductionOrder_returns returns
          exact provenance.transitioned receipts transitioned
    · push Not at transitions
      obtain ⟨moves, run, made⟩ := work_moves work
      refine provenance.moved receipts
        (worked_sources (ProductionOrders.work_worked work) transitions) run ?_
      exact fun next move member => makes_sourced (made move member) keeps received transitions next

/-! ## Runs -/

/-- Nothing is under inspection, and there is no record of any source yet. -/
structure OpeningInspections (db : Database) : Prop where
  receipts : ∀ id, (db purchaseReceipts).find? id = none
  reports : ∀ id, (db productionReports).find? id = none
  pending : ∀ id batch, (db inventoryBatches).find? id = some batch →
    batch.pendingInspectionQuantity ≤ 0

theorem OpeningInspections.provenance (opens : OpeningInspections opening) :
    Provenance opening where
  receipts id receipt found := by simp [opens.receipts] at found
  reports id report batchId found := by simp [opens.reports] at found
  traced id batch found positive := absurd positive (Int.not_lt.mpr (opens.pending id batch found))

theorem Provenance.unread (provenance : Provenance db) (apart : ApartFromOutbox db db') :
    Provenance db' := by
  have receipts := apart purchaseReceipts (by decide)
  have reports := apart productionReports (by decide)
  have batches := apart inventoryBatches (by decide)
  constructor
  · rw [receipts, batches]
    exact provenance.receipts
  · rw [reports, batches]
    exact provenance.reports
  · intro id batch found
    rw [batches] at found
    rw [Traced, receiptsOf, reportsOf, receipts, reports]
    exact provenance.traced id batch found

/-! ## The refusal of a batch without one source -/

def ambiguousProvenance : String :=
  "Inventory batch has ambiguous or missing inspection provenance"

variable {writes : List TableName}

theorem conflict_ne_ambiguous {other : String} (differ : other ≠ ambiguousProvenance) :
    conflict other ≠ conflict ambiguousProvenance :=
  conflict_ne_conflict differ

theorem batchTarget_sourced [Writes resourceVersions writes] {body : SubmitQualityInspection}
    {batchId : Nat} (traced : PendingFrom (Traced db) (db inventoryBatches)) :
    ¬ (batchTarget command body batchId : Tx writes InspectionTarget).Fails db
      (conflict ambiguousProvenance) := by
  intro failed
  have frozenRefusal : conflict "Inventory is frozen by an active stocktake" ≠
      conflict ambiguousProvenance := conflict_ne_ambiguous (by decide)
  have idleRefusal : conflict "Inventory batch is not pending inspection" ≠
      conflict ambiguousProvenance := conflict_ne_ambiguous (by decide)
  simp only [batchTarget, fails_bind_select, fails_bind_orThrow, notFound_ne_conflict,
    fails_bind_lockWarehouseFreeze, fails_bind_requireWarehouseScope, fails_bind_freezeExists,
    fails_bind_refuseIf, badRequest_ne_conflict, fails_bind_query, frozenRefusal, idleRefusal,
    and_false, false_or] at failed
  obtain ⟨batch, found, -, _, -, -, -, -, pending, -, -, -, failed⟩ := failed
  have source := traced batchId batch found (Int.not_le.mp pending)
  have receiptRefusal : conflict "Receipt batch must be inspected as incoming" ≠
      conflict ambiguousProvenance := conflict_ne_ambiguous (by decide)
  have completionRefusal :
      conflict "Production completion batch must be inspected as finished goods" ≠
        conflict ambiguousProvenance := conflict_ne_ambiguous (by decide)
  simp only [fails_ite, fails_bind_refuseIf, receiptRefusal, completionRefusal, fails_query,
    and_false, false_or, fails_fail] at failed
  obtain ⟨unreceived, unreported, -⟩ := failed
  rcases source with fromReceipt | fromReport
  · apply unreceived
    simpa [receiptsOf, reportsOf] using fromReceipt
  · apply unreported
    simpa [receiptsOf, reportsOf] using fromReport

theorem never_moveInspected {inspectionId : Nat} {batchId : Option Nat}
    {finalResult : InspectionResult} {quantity : Int} {message : String} :
    Never (conflict message) (moveInspected inspectionId batchId finalResult quantity) := by
  cases batchId with
  | none => exact never_pure
  | some id =>
      refine never_ite (fun _ => never_pure) fun _ => ?_
      refine never_bind never_select fun found => ?_
      refine never_bind (never_orThrow versionConflict_ne_conflict) fun batch => ?_
      exact never_bind (never_updateRow versionConflict_ne_conflict) fun _ => never_insertMovement

/-- With its source on record no batch under inspection is refused as one
without a source. -/
theorem submitQualityInspection_sourced {body : SubmitQualityInspection}
    (traced : PendingFrom (Traced db) (db inventoryBatches)) :
    ¬ (submitQualityInspection command body).Fails db (conflict ambiguousProvenance) := by
  intro failed
  simp only [submitQualityInspection, fails_bind_requireRole, fails_bind_optionalInteger,
    fails_bind_refuseIf, fails_bind_integer, fails_bind_optionalString, badRequest_ne_conflict,
    forbidden_ne_conflict, and_false, false_or] at failed
  obtain ⟨-, -, -, -, -, -, -, -, -, -, -, -, -, failed⟩ := failed
  rcases fails_bind.mp failed with failed | ⟨target, _, mid, -, failed⟩
  · cases bound : body.batchId with
    | some id =>
        rw [bound] at failed
        exact batchTarget_sourced traced failed
    | none =>
        have orderRefusal : conflict "Execution order inspection must use finished goods stage" ≠
            conflict ambiguousProvenance := conflict_ne_ambiguous (by decide)
        rw [bound] at failed
        refine (?_ : Never (conflict ambiguousProvenance) _) db failed
        refine never_bind (never_refuseIf orderRefusal) fun _ => ?_
        refine never_bind never_query fun found => ?_
        exact never_bind (never_orThrow notFound_ne_conflict) fun _ => never_pure
  · have ruleRefusal : conflict "No active quality rule is configured" ≠
        conflict ambiguousProvenance := conflict_ne_ambiguous (by decide)
    refine (?_ : Never (conflict ambiguousProvenance) _) mid failed
    refine never_bind (never_refuseIf forbidden_ne_conflict) fun _ => ?_
    refine never_bind never_query fun rows => ?_
    refine never_bind (never_orThrow ruleRefusal) fun rule => ?_
    refine never_bind (never_refuseIf badRequest_ne_conflict) fun _ => ?_
    refine never_bind never_optionalInteger fun _ => ?_
    refine never_bind never_insertInto fun inspectionId => ?_
    refine never_bind never_lockVersion fun _ => ?_
    refine never_bind (never_widen never_moveInspected) fun _ => ?_
    exact never_bind never_domainEvent fun _ => never_pure

/-! ## Every reachable state -/

theorem inspectable_inventory (opens : OpeningInspections opening)
    (run : Run (fun db event db' => Step effects db event db' ∧ KeepsProvenance db event)
      opening events db) :
    (∀ id batch, (db inventoryBatches).find? id = some batch →
      0 < batch.pendingInspectionQuantity → Traced db id) ∧
    ∀ command body, ¬ (submitQualityInspection command body).Fails db
      (conflict ambiguousProvenance) := by
  have provenance : Provenance db := by
    refine run.preserves Provenance ?_ opens.provenance
    rintro a label b ⟨step, keeps⟩ provenance
    exact step.preserves Provenance (fun apart provenance => provenance.unread apart) fun work =>
      work_provenance work keeps provenance
  exact ⟨provenance.traced, fun command body =>
    submitQualityInspection_sourced provenance.traced⟩

/-! ## A production variance to replay -/

open ProductionOrders (plannedDatabase plans works judges)

theorem plannedDatabase_opens : OpeningInspections plannedDatabase where
  receipts _ := rfl
  reports _ := rfl
  pending id batch found := by
    obtain rfl := Table.find?_single found
    decide

/-- The whole-batch inspection of the fifteen units of batch 2. -/
def inspects : SubmitQualityInspection where
  batchId := some 2
  stage := .finishedGoods
  inspectionMethod := .full
  batchQuantity := 15
  inspectedQuantity := 15
  passedQuantity := 15
  failedQuantity := 0
  inspectorType := .companyQc

/-- The batch of an approved overproduction waits for an inspection that is
refused, because its report does not point to it. -/
theorem uninspectable_batch :
    OpeningInspections plannedDatabase ∧
      ∃ db batch, Run (Step noProcurement) plannedDatabase
          ([plans 1 10, works 2 (.complete 15 []), judges 3 1 .approved].map .command) db ∧
        (db inventoryBatches).find? 2 = some batch ∧ batch.pendingInspectionQuantity = 15 ∧
        ¬ Traced db 2 ∧
        (submitQualityInspection (requestAt 4 1 [.admin] (.submitQualityInspection inspects)).command
          inspects).Fails db (conflict ambiguousProvenance) := by
  refine ⟨plannedDatabase_opens, ?_⟩
  obtain ⟨db, run, seen⟩ := replay_reaches noProcurement
    [plans 1 10, works 2 (.complete 15 []), judges 3 1 .approved] plannedDatabase
    (fun db => ((db inventoryBatches).find? 2).any (fun batch =>
        batch.pendingInspectionQuantity == 15) && decide (¬ Traced db 2) &&
      match (submitQualityInspection
          (requestAt 4 1 [.admin] (.submitQualityInspection inspects)).command inspects).run db with
      | .error failure => decide (failure = conflict ambiguousProvenance)
      | .ok _ => false) (by decide +kernel)
  simp only [Bool.and_eq_true, Option.any_eq_true, beq_iff_eq, decide_eq_true_eq] at seen
  obtain ⟨⟨⟨batch, found, waiting⟩, untraced⟩, refused⟩ := seen
  refine ⟨db, batch, run, found, waiting, untraced, ?_⟩
  split at refused
  · rename_i failure failed
    rw [of_decide_eq_true refused] at failed
    exact failed
  · cases refused

theorem inspectable_inventory_completed :
    ∃ db batch, Run (fun db event db' => Step noProcurement db event db' ∧
          KeepsProvenance db event) plannedDatabase
        ([plans 1 10, works 2 (.complete 10 [])].map .command) db ∧
      (db inventoryBatches).find? 2 = some batch ∧ batch.pendingInspectionQuantity = 10 ∧
      Traced db 2 ∧ ∀ command body, ¬ (submitQualityInspection command body).Fails db
        (conflict ambiguousProvenance) := by
  obtain ⟨db, run, seen⟩ := replayUnder_reaches noProcurement KeepsProvenance
    [plans 1 10, works 2 (.complete 10 [])] plannedDatabase
    (fun db => ((db inventoryBatches).find? 2).any fun batch =>
      batch.pendingInspectionQuantity == 10) (by decide +kernel)
  obtain ⟨batch, found, waiting⟩ := Option.any_eq_true _ _ |>.mp seen
  have ten : batch.pendingInspectionQuantity = 10 := by simpa using waiting
  have holds := inspectable_inventory plannedDatabase_opens run
  exact ⟨db, batch, run, found, ten, holds.1 2 batch found (by omega), holds.2⟩

end SupplyChain.QualityInspections
