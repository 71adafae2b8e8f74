import SupplyChain.Stocktakes
import SupplyChain.Platform.Frames

/-!
What the stocktake commands did to the stocktakes, their counts and their
adjustments when they committed.
-/

namespace SupplyChain.Stocktakes

open Relational Transaction TableName

variable {command : CommandContext} {db db' mid : Database} {reply : JsonValue}
  {sent : List DomainEvent} {id round version : Nat} {task : Stocktake}

/-! ## Counts -/

/-- The columns of the unique key of a count. -/
def SameTarget (a b : StocktakeCount) : Prop :=
  a.stocktakeId = b.stocktakeId ∧ a.countRound = b.countRound ∧ a.sku = b.sku ∧ a.batchId = b.batchId

theorem SameTarget.symm {a b : StocktakeCount} (same : SameTarget a b) : SameTarget b a :=
  ⟨same.1.symm, same.2.1.symm, same.2.2.1.symm, same.2.2.2.symm⟩

theorem SameTarget.trans {a b c : StocktakeCount} (first : SameTarget a b)
    (second : SameTarget b c) : SameTarget a c :=
  ⟨first.1.trans second.1, first.2.1.trans second.2.1, first.2.2.1.trans second.2.2.1,
    first.2.2.2.trans second.2.2.2⟩

/-- One count of a round of a stocktake is written: of a target that had none,
or anew for the same target. -/
inductive CountWrite (id round : Nat) (t t' : Table StocktakeCount) : Prop
  | added {row : StocktakeCount} (written : t' = t.insert row) (stocktake : row.stocktakeId = id)
      (inRound : row.countRound = round)
      (free : ∀ key other, t.find? key = some other → ¬ SameTarget other row)
  | revised {key : Nat} {old : StocktakeCount} {change : StocktakeCount → StocktakeCount}
      (written : t' = t.modify key change) (found : t.find? key = some old)
      (stocktake : old.stocktakeId = id) (inRound : old.countRound = round)
      (same : SameTarget (change old) old)

theorem countAt_some {counts : Table StocktakeCount} {sku : String} {batchId : Option Nat}
    {found : Nat × StocktakeCount} (answer : countAt counts id round sku batchId = some found) :
    counts.find? found.1 = some found.2 ∧ found.2.stocktakeId = id ∧ found.2.countRound = round ∧
      found.2.sku = sku ∧ found.2.batchId = batchId := by
  obtain ⟨row, passes⟩ := Table.first?_some answer
  simp only [Bool.and_eq_true, beq_iff_eq] at passes
  obtain ⟨⟨⟨stocktake, inRound⟩, item⟩, batch⟩ := passes
  exact ⟨row, stocktake, inRound, item, batch⟩

theorem countAt_none {counts : Table StocktakeCount} {sku : String} {batchId : Option Nat}
    (answer : countAt counts id round sku batchId = none) {key : Nat} {row : StocktakeCount}
    (found : counts.find? key = some row) :
    ¬ (row.stocktakeId = id ∧ row.countRound = round ∧ row.sku = sku ∧ row.batchId = batchId) := by
  rintro ⟨stocktake, inRound, item, batch⟩
  have passes := Table.any_eq_false.mp (Table.first?_none.mp answer) key row found
  simp [stocktake, inRound, item, batch] at passes

theorem snapshotBatch_returns {countedBy : Nat} {target : Nat × InventoryBatch} {u : Unit}
    (returns : (snapshotBatch countedBy id target).Returns db u sent db') :
    sent = [] ∧ CountWrite id 0 (db stocktakeCounts) (db' stocktakeCounts) := by
  simp only [snapshotBatch, returns_bind_insertUnique, returns_pure] at returns
  obtain ⟨free, -, rfl, rfl⟩ := returns
  refine ⟨rfl, ?_⟩
  rw [Store.put_same]
  refine CountWrite.added rfl rfl rfl ?_
  rintro key other found ⟨stocktake, inRound, item, batch⟩
  have clash := Table.any_eq_false.mp free key other found
  simp [sameTarget, stocktake, inRound, item, batch] at clash

theorem sampleFilter_idle {writes : List TableName} {body : OpenStocktake} :
    Obeys idle (sampleFilter body : Tx writes _) := by
  unfold sampleFilter
  cases body.scope with
  | fullWarehouse => exact obeys_pure
  | skuSample =>
      apply obeys_bind (obeys_collect fun _ _ => obeys_string) fun _ => _
      exact fun _ => obeys_bind obeys_refuseIf fun _ => obeys_pure
  | batch =>
      apply obeys_bind (obeys_collect fun _ _ => obeys_identifier) fun _ => _
      exact fun _ => obeys_bind obeys_refuseIf fun _ => obeys_pure

/-- A new stocktake with its snapshot. -/
structure Opened (db db' : Database) : Prop where
  task : ∃ row : Stocktake, row.status = .firstCount ∧
    db' stocktakes = (db stocktakes).insert row
  snapshot : ∃ targets : List (Nat × InventoryBatch),
    Run (fun t _ t' => CountWrite (db stocktakes).nextId 0 t t') (db stocktakeCounts) targets
      (db' stocktakeCounts)
  adjustments : db' stocktakeAdjustments = db stocktakeAdjustments

theorem openStocktake_returns {body : OpenStocktake}
    (returns : (openStocktake command body).Returns db reply sent db') : Opened db db' := by
  have adjustments := returns.unwritten stocktakeAdjustments (by decide)
  simp only [openStocktake, returns_bind_requireRole, returns_bind_identifier,
    returns_bind_string, returns_bind_optionalInteger, returns_bind_requireWarehouseScope,
    returns_bind_lockWarehouseFreeze, returns_bind_query, returns_bind_refuseIf] at returns
  obtain ⟨-, -, -, -, _, -, -, -, -, returns⟩ := returns
  rw [returns_bind_of_reads sampleFilter_idle.obeyed] at returns
  obtain ⟨filter, -, returns⟩ := returns
  simp only [returns_bind_query, returns_bind_refuseIf, returns_bind_insertUnique,
    returns_bind_widen, returns_bind_lockVersion, returns_bind_domainEvent, returns_pure] at returns
  obtain ⟨-, -, _, _, mid, _, loop, ⟨_, -, -, _, ⟨-, -, rfl⟩, -⟩, -⟩ := returns
  have tasks := loop.unwritten stocktakes (by decide)
  constructor
  · rw [Store.put_other _ _ (by decide), tasks, Store.put_same,
      Store.put_other _ _ (by decide)]
    exact ⟨_, rfl, rfl⟩
  · have rounds : ∀ {a item b},
        (∃ first, (snapshotBatch command.access.userId
          (db stocktakes).nextId item).Returns a () first b) →
        CountWrite (db stocktakes).nextId 0 (a stocktakeCounts) (b stocktakeCounts) := by
      rintro a item b ⟨first, head⟩
      exact (snapshotBatch_returns head).2
    have run := forEach_run loop
    simp only [Store.put_other _ _ (by decide : stocktakes ≠ resourceVersions)] at run
    have counted : Run (fun t _ t' => CountWrite (db stocktakes).nextId 0 t t') _ _ _ :=
      (run.imp rounds).read fun s : Database => s stocktakeCounts
    rw [Store.put_other _ _ (by decide), Store.put_other _ _ (by decide)] at counted
    rw [Store.put_other _ _ (by decide)]
    exact ⟨_, counted⟩
  · exact adjustments

/-! ## Submitting a count -/

theorem recordCount_returns {existing : Option (Nat × StocktakeCount)} {count : StocktakeCount}
    {u : Unit} (returns : (recordCount existing count).Returns db u sent db')
    (current : existing = countAt (db stocktakeCounts) count.stocktakeId count.countRound count.sku
      count.batchId) :
    sent = [] ∧ CountWrite count.stocktakeId count.countRound (db stocktakeCounts)
      (db' stocktakeCounts) := by
  cases existing with
  | none =>
      simp only [recordCount, returns_bind_insertUnique, returns_pure] at returns
      obtain ⟨-, -, rfl, rfl⟩ := returns
      refine ⟨rfl, ?_⟩
      rw [Store.put_same]
      refine CountWrite.added rfl rfl rfl ?_
      intro key other found same
      exact countAt_none current.symm found same
  | some found =>
      simp only [recordCount, returns_bind_query, returns_bind_refuseIf, returns_updateRow] at returns
      obtain ⟨-, -, rfl, rfl⟩ := returns
      obtain ⟨old, stocktake, inRound, item, batch⟩ := countAt_some current.symm
      refine ⟨rfl, ?_⟩
      rw [Store.put_same]
      exact CountWrite.revised rfl old stocktake inRound ⟨rfl, rfl, rfl, rfl⟩

/-- A count that was taken: its stocktake is in a counting round and nothing
else of it is written. -/
structure CountTaken (task : Stocktake) (id : Nat) (db db' : Database) : Prop where
  countable : task.status.countable = true
  written : CountWrite id (roundOf task) (db stocktakeCounts) (db' stocktakeCounts)
  tasks : db' stocktakes = db stocktakes
  adjustments : db' stocktakeAdjustments = db stocktakeAdjustments

theorem submitCount_returns {body : SubmitCount}
    (returns : (submitCount command id task version body).Returns db reply sent db') :
    CountTaken task id db db' := by
  have unwritten := returns.unwritten
  simp only [submitCount, returns_bind_refuseIf, returns_bind_optionalInteger, returns_bind_string,
    returns_bind_integer, returns_bind_query, returns_bind_widen, returns_bind_bumpVersion,
    returns_bind_domainEvent, returns_pure, Bool.not_eq_false] at returns
  obtain ⟨countable, -, -, -, -, -, -, -, _, _, mid, _, records, ⟨-, _, ⟨-, -, rfl⟩, -⟩, -⟩ := returns
  have recorded := recordCount_returns records rfl
  constructor
  · exact countable
  · rw [Store.put_other _ _ (by decide)]
    exact recorded.2
  · exact unwritten _ (by decide)
  · exact unwritten _ (by decide)

/-! ## Finishing a round -/

/-- The adjustment of a count's bucket. -/
def Concerns (id : Nat) (variance : Variance) (adjustment : StocktakeAdjustment) : Prop :=
  adjustment.stocktakeId = id ∧ adjustment.stocktakeCountId = variance.countId ∧
    adjustment.bucket = variance.bucket

/-- The adjustment waits for the decision of just this variance. -/
structure Carries (id : Nat) (variance : Variance) (adjustment : StocktakeAdjustment) : Prop where
  concerns : Concerns id variance adjustment
  snapshot : adjustment.snapshotQuantity = variance.snapshotQuantity
  counted : adjustment.countedQuantity = variance.countedQuantity
  difference : adjustment.varianceQuantity = variance.countedQuantity - variance.snapshotQuantity
  pending : adjustment.decision = .pending

/-- A variance is raised: as a new adjustment, or as the next revision of the one
that was rejected. -/
inductive Raised (id : Nat) (t : Table StocktakeAdjustment) (variance : Variance)
    (t' : Table StocktakeAdjustment) : Prop
  | added {row : StocktakeAdjustment} (written : t' = t.insert row)
      (carries : Carries id variance row)
      (free : ∀ key other, t.find? key = some other → ¬ Concerns id variance other)
  | revised {key : Nat} {old : StocktakeAdjustment}
      {change : StocktakeAdjustment → StocktakeAdjustment} (written : t' = t.modify key change)
      (found : t.find? key = some old) (concerns : Concerns id variance old)
      (rejected : old.decision = .rejected) (carries : Carries id variance (change old))
      (revision : (change old).revision = old.revision + 1)

theorem estimate_reads {writes : List TableName} {batchId : Option Nat} {text date : Option String}
    (returns : (estimate batchId text : Tx writes _).Returns db date sent db') :
    sent = [] ∧ db' = db := by
  cases batchId with
  | some batch => exact (returns_pure.mp returns).2
  | none =>
      simp only [estimate, returns_bind_optionalString, returns_pure] at returns
      exact returns.2.2

theorem raiseAdjustment_returns {estimates : FinishRound} {variance : Variance} {u : Unit}
    (returns : (raiseAdjustment id task estimates variance).Returns db u sent db') :
    sent = [] ∧ Raised id (db stocktakeAdjustments) variance (db' stocktakeAdjustments) := by
  rw [raiseAdjustment, returns_bind_query] at returns
  cases prior : (db stocktakeAdjustments).first? fun _ adjustment =>
      adjustment.stocktakeId == id && adjustment.stocktakeCountId == variance.countId &&
        adjustment.bucket == variance.bucket with
  | some found =>
      simp only [prior, returns_bind_refuseIf, returns_updateRow, not_not] at returns
      obtain ⟨rejected, -, rfl, rfl⟩ := returns
      obtain ⟨row, passes⟩ := Table.first?_some prior
      simp only [Bool.and_eq_true, beq_iff_eq] at passes
      obtain ⟨⟨stocktake, count⟩, bucket⟩ := passes
      refine ⟨rfl, ?_⟩
      rw [Store.put_same]
      refine Raised.revised rfl row ⟨stocktake, count, bucket⟩ rejected ?_ rfl
      constructor
      · exact ⟨stocktake, count, bucket⟩
      · rfl
      · rfl
      · rfl
      · rfl
  | none =>
      simp only [prior] at returns
      rw [returns_bind_of_reads estimate_reads] at returns
      obtain ⟨production, -, returns⟩ := returns
      rw [returns_bind_of_reads estimate_reads] at returns
      obtain ⟨expiry, -, returns⟩ := returns
      obtain ⟨rfl, rfl⟩ := returns_insertRow.mp returns
      refine ⟨rfl, ?_⟩
      rw [Store.put_same]
      refine Raised.added rfl ⟨⟨rfl, rfl, rfl⟩, rfl, rfl, rfl, rfl⟩ ?_
      rintro key other found ⟨stocktake, count, bucket⟩
      have passes := Table.any_eq_false.mp (Table.first?_none.mp prior) key other found
      simp [stocktake, count, bucket] at passes

/-- The targets of a stocktake all have a count of the round. -/
def AllCounted (counts : Table StocktakeCount) (id round : Nat) : Prop :=
  ∀ row ∈ roundCounts counts id round, row.counted.isSome = true

/-- The variances of a round, target by target. -/
def roundVariances (counts : Table StocktakeCount) (id round : Nat) : List Variance :=
  (roundCounts counts id round).flatMap variancesOf

inductive Finished (task : Stocktake) (id : Nat) (db db' : Database) : Prop
  | recounts (first : task.status = .firstCount)
      (varies : roundVariances (db stocktakeCounts) id 1 ≠ [])
      (tasks : db' stocktakes = (db stocktakes).modify id fun row => { row with status := .recount })
      (adjustments : db' stocktakeAdjustments = db stocktakeAdjustments)
  | completes (agrees : roundVariances (db stocktakeCounts) id (roundOf task) = [])
      (tasks : db' stocktakes =
        (db stocktakes).modify id fun row => { row with status := .completed })
      (adjustments : db' stocktakeAdjustments = db stocktakeAdjustments)
  | submits (recounted : task.status = .recount)
      (varies : roundVariances (db stocktakeCounts) id 2 ≠ [])
      (separate : ∀ row ∈ roundCounts (db stocktakeCounts) id 2,
        row.counted.map (·.2.countedBy) ≠ row.round1.map (·.2.countedBy))
      (tasks : db' stocktakes =
        (db stocktakes).modify id fun row => { row with status := .pendingApproval })
      (raised : Run (Raised id) (db stocktakeAdjustments)
        (roundVariances (db stocktakeCounts) id 2) (db' stocktakeAdjustments))

/-- A round that was finished: every target was counted and no count is written. -/
structure RoundFinished (task : Stocktake) (id : Nat) (db db' : Database) : Prop where
  countable : task.status.countable = true
  counted : AllCounted (db stocktakeCounts) id (roundOf task)
  counts : db' stocktakeCounts = db stocktakeCounts
  outcome : Finished task id db db'

theorem closeRound_returns {next : StocktakeStatus} {event : EventType}
    (found : (db stocktakes).find? id = some task)
    (returns : (closeRound id task version next event).Returns db reply sent db') :
    db' stocktakes = (db stocktakes).modify id fun row => { row with status := next } := by
  simp only [closeRound, returns_bind_updateWhere, returns_bind_bumpVersion,
    returns_bind_domainEvent, returns_pure] at returns
  obtain ⟨-, _, ⟨-, -, rfl⟩, -⟩ := returns
  rw [Store.put_other _ _ (by decide), Store.put_same]
  exact Table.update_guarded found (fun row => row.status == task.status) (beq_self_eq_true _) _

theorem submitApproval_returns {estimates : FinishRound} {variances : List Variance}
    (found : (db stocktakes).find? id = some task) (recount : task.status = .recount)
    (returns : (submitApproval command id task version estimates variances).Returns
      db reply sent db') :
    db' stocktakes = (db stocktakes).modify id (fun row => { row with status := .pendingApproval }) ∧
      Run (Raised id) (db stocktakeAdjustments) variances (db' stocktakeAdjustments) := by
  simp only [submitApproval, returns_bind_widen, returns_bind_insertApproval,
    returns_bind_updateWhere, returns_bind_bumpVersion, returns_bind_domainEvent,
    returns_pure] at returns
  obtain ⟨_, _, mid, _, loop, ⟨-, -, _, ⟨-, -, rfl⟩, -⟩, -⟩ := returns
  have tasks : mid stocktakes = db stocktakes := loop.unwritten _ (by decide)
  constructor
  · rw [Store.put_other _ _ (by decide), Store.put_same, Store.put_other _ _ (by decide), tasks]
    apply Table.update_guarded found (fun row => row.status == .recount)
    rw [recount]
    rfl
  · have rounds : ∀ {a item b},
        (∃ first, (raiseAdjustment id task estimates item).Returns a () first b) →
        Raised id (a stocktakeAdjustments) item (b stocktakeAdjustments) := by
      rintro a item b ⟨first, head⟩
      exact (raiseAdjustment_returns head).2
    have raised : Run (Raised id) _ _ _ :=
      ((forEach_run loop).imp rounds).read fun s : Database => s stocktakeAdjustments
    rw [Store.put_other _ _ (by decide), Store.put_other _ _ (by decide),
      Store.put_other _ _ (by decide)]
    exact raised

theorem finishRound_returns {estimates : FinishRound}
    (found : (db stocktakes).find? id = some task)
    (returns : (finishRound command id task version estimates).Returns db reply sent db') :
    RoundFinished task id db db' := by
  have counts := returns.unwritten stocktakeCounts (by decide)
  have unwritten : ∀ {next event r s d}, (closeRound id task version next event).Returns db r s d →
      d stocktakeAdjustments = db stocktakeAdjustments :=
    fun closes => closes.unwritten _ (by decide)
  simp only [finishRound, returns_bind_requireRole, returns_bind_refuseIf, returns_bind_query,
    Bool.not_eq_false, Bool.not_eq_true, List.any_eq_false, not_and, beq_iff_eq] at returns
  obtain ⟨-, countable, all, separate, returns⟩ := returns
  have counted : AllCounted (db stocktakeCounts) id (roundOf task) := by
    intro row member
    exact Option.isNone_eq_false_iff.mp (all row member)
  apply RoundFinished.mk countable counted counts
  rcases returns_ite.mp returns with ⟨⟨first, varies⟩, closes⟩ | ⟨notFirst, returns⟩
  · have status : task.status = .firstCount := by
      cases status : task.status with
      | firstCount => rfl
      | recount => simp [roundOf, status] at first
      | _ => simp [status, StocktakeStatus.countable] at countable
    rw [first] at varies
    exact Finished.recounts status varies (closeRound_returns found (returns_widen.mp closes))
      (unwritten (returns_widen.mp closes))
  · rcases returns_ite.mp returns with ⟨agrees, closes⟩ | ⟨varies, submits⟩
    · exact Finished.completes agrees (closeRound_returns found (returns_widen.mp closes))
        (unwritten (returns_widen.mp closes))
    · have recount : task.status = .recount := by
        by_contra other
        exact notFirst ⟨if_neg other, varies⟩
      have second : roundOf task = 2 := if_pos recount
      rw [second] at varies separate submits
      obtain ⟨tasks, raised⟩ := submitApproval_returns found recount submits
      exact Finished.submits recount varies (separate rfl) tasks raised

/-! ## The command -/

/-- What a transition of a stocktake does by its action. -/
inductive Transitioned (task : Stocktake) (id : Nat) (db db' : Database) : Prop
  | counted (taken : CountTaken task id db db')
  | finished (finished : RoundFinished task id db db')

/-- A transition reads the stocktakes, their counts and their adjustments only. -/
theorem Transitioned.of_same (tasks : mid stocktakes = db stocktakes)
    (counts : mid stocktakeCounts = db stocktakeCounts)
    (adjustments : mid stocktakeAdjustments = db stocktakeAdjustments)
    (transitioned : Transitioned task id mid db') : Transitioned task id db db' := by
  cases transitioned with
  | counted taken =>
      obtain ⟨countable, written, sameTasks, sameAdjustments⟩ := taken
      rw [counts] at written
      exact Transitioned.counted ⟨countable, written, sameTasks.trans tasks,
        sameAdjustments.trans adjustments⟩
  | finished finished =>
      obtain ⟨countable, all, sameCounts, outcome⟩ := finished
      rw [counts] at all
      refine Transitioned.finished ⟨countable, all, sameCounts.trans counts, ?_⟩
      cases outcome with
      | recounts first varies changed same =>
          rw [counts] at varies
          rw [tasks] at changed
          exact Finished.recounts first varies changed (same.trans adjustments)
      | completes agrees changed same =>
          rw [counts] at agrees
          rw [tasks] at changed
          exact Finished.completes agrees changed (same.trans adjustments)
      | submits recounted varies separate changed raised =>
          rw [counts] at varies separate raised
          rw [tasks] at changed
          rw [adjustments] at raised
          exact Finished.submits recounted varies separate changed raised

theorem transitionStocktake_returns {body : TransitionStocktake}
    (returns : (transitionStocktake command body).Returns db reply sent db') :
    ∃ task, (db stocktakes).find? body.id = some task ∧ Transitioned task body.id db db' := by
  simp only [transitionStocktake, returns_bind_requireRole, returns_bind_identifier,
    returns_bind_select, returns_bind_orThrow, returns_bind_lockWarehouseFreeze,
    returns_bind_requireWarehouseScope, returns_bind_refuseIf, returns_bind_lockVersion] at returns
  obtain ⟨-, -, task, found, -, _, -, -, -, version, -, -, returns⟩ := returns
  refine ⟨task, found, ?_⟩
  have unlocked : ∀ {versions versions' : Table ResourceVersion} (t : TableName),
      t ≠ resourceVersions →
      ((db.put resourceVersions versions).put resourceVersions versions') t = db t := by
    intro versions versions' t other
    rw [Store.put_put, Store.put_other _ _ other]
  apply Transitioned.of_same (unlocked _ (by decide)) (unlocked _ (by decide))
    (unlocked _ (by decide))
  cases action : body.action with
  | submitCount count =>
      simp only [action, returns_widen] at returns
      exact Transitioned.counted (submitCount_returns returns)
  | finishRound estimates =>
      simp only [action, returns_widen] at returns
      apply Transitioned.finished (finishRound_returns _ returns)
      rw [unlocked _ (by decide)]
      exact found

end SupplyChain.Stocktakes
