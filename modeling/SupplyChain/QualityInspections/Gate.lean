import SupplyChain.QualityInspections.Provenance

/-!
The gate of the inspection: what leaves pending inspection leaves it by an
inspection, for the available stock or for the quarantine. The ledger of what
left either way is compared with what the inspections state, along runs that
adjust no stock by a stocktake.
-/

namespace SupplyChain.QualityInspections

open Relational Transaction TableName Stock

variable {effects : Approvals.ProcurementEffects} {command : CommandContext}
  {db mid db' opening : Database} {event : Event} {events : List Event} {batchId : Nat}

/-! ## The ledger -/

def pendingIn (batches : Table InventoryBatch) (batchId : Nat) : Int :=
  (batches.find? batchId).elim 0 (·.pendingInspectionQuantity)

def availableIn (batches : Table InventoryBatch) (batchId : Nat) : Int :=
  (batches.find? batchId).elim 0 (·.availableQuantity)

def quarantineIn (batches : Table InventoryBatch) (batchId : Nat) : Int :=
  (batches.find? batchId).elim 0 (·.quarantineQuantity)

/-- What left pending inspection for a bucket between two states. -/
def leftFor (bucket : Table InventoryBatch → Nat → Int) (before after : Table InventoryBatch)
    (batchId : Nat) : Int :=
  min (max 0 (pendingIn before batchId - pendingIn after batchId))
    (max 0 (bucket after batchId - bucket before batchId))

/-- A state with what has left pending inspection for the available stock and
for the quarantine, batch by batch. -/
structure Gate where
  db : Database
  cleared : Nat → Int
  quarantined : Nat → Int

/-- What the inspections of a batch state. -/
def statedOf (quantity : QualityInspection → Int) (db : Database) (batchId : Nat) : Int :=
  (db qualityInspections).weigh fun _ row => if row.batchId = some batchId then quantity row else 0

def passedOf : Database → Nat → Int :=
  statedOf (·.passedQuantity)

def failedOf : Database → Nat → Int :=
  statedOf (·.failedQuantity)

/-- The ledger opens with what the inspections so far state. -/
def Gate.opened (db : Database) : Gate where
  db := db
  cleared := passedOf db
  quarantined := failedOf db

/-- The event adjusts the stock to the counts of a stocktake. -/
def Adjusts (db : Database) : Event → Prop
  | .command ⟨_, .decideApproval body⟩ =>
      body.decision = .approved ∧
        ∃ approval ∈ (db approvalRequests).find? body.id, approval.workflowType = .stocktakeVariance
  | _ => False

/-- The ledger after a step: what left pending inspection in it is entered. -/
def Gate.after (gate : Gate) (db' : Database) : Gate where
  db := db'
  cleared batchId := gate.cleared batchId +
    leftFor availableIn (gate.db inventoryBatches) (db' inventoryBatches) batchId
  quarantined batchId := gate.quarantined batchId +
    leftFor quarantineIn (gate.db inventoryBatches) (db' inventoryBatches) batchId

/-- A step that adjusts no stock, with the ledger kept. -/
structure GateStep (effects : Approvals.ProcurementEffects) (gate : Gate) (event : Event)
    (gate' : Gate) : Prop where
  step : Step effects gate.db event gate'.db
  unadjusted : ¬ Adjusts gate.db event
  ledger : gate' = gate.after gate'.db

/-- No more was cleared than passed, and what failed is what was quarantined. -/
structure Gated (gate : Gate) : Prop where
  cleared : ∀ batchId, gate.cleared batchId ≤ passedOf gate.db batchId
  quarantined : ∀ batchId, gate.quarantined batchId = failedOf gate.db batchId

/-- A batch that passes is judged by a rule that full marks meet, and a batch
that fails by one that no marks miss. -/
def SettlesByRule (db : Database) : Event → Prop
  | .command ⟨_, .submitQualityInspection body⟩ =>
      ∀ batchId ∈ body.batchId, ∀ rule ∈ batchRule db body batchId,
        if 0 < body.failedQuantity then 0 < rule.2.minimumPassRateBps
        else rule.2.minimumPassRateBps ≤ 10000
  | _ => True

/-! ## Steps without an inspection -/

/-- A move that takes nothing out of pending inspection. -/
def Quiet : Move → Prop
  | .intake batch => 0 ≤ batch.pendingInspectionQuantity
  | .settle _ _ _ | .adjust _ _ _ => False
  | _ => True

theorem pendingIn_modify {batches : Table InventoryBatch} {id : Nat}
    {change : InventoryBatch → InventoryBatch}
    (same : ∀ row, (change row).pendingInspectionQuantity = row.pendingInspectionQuantity) :
    pendingIn (batches.modify id change) batchId = pendingIn batches batchId := by
  rw [pendingIn, Table.find?_modify]
  split
  · rename_i here
    subst here
    cases found : batches.find? batchId with
    | none => simp [pendingIn, found]
    | some row => simp [pendingIn, found, same]
  · rfl

theorem moved_pending {s s' : Stock} {move : Move} (moved : Moved s move s') (quiet : Quiet move) :
    pendingIn s.batches batchId ≤ pendingIn s'.batches batchId := by
  cases moved with
  | @intake batch =>
      by_cases fresh : batchId = s.batches.nextId
      · subst fresh
        simp only [pendingIn, Table.find?_nextId, Table.find?_insert_nextId, Option.elim_none,
          Option.elim_some]
        exact quiet
      · rw [pendingIn, pendingIn, Table.find?_insert, if_neg fresh]
  | settle => exact quiet.elim
  | adjust => exact quiet.elim
  | _ =>
      rw [pendingIn_modify]
      intro row
      rfl

theorem moves_pending {s s' : Stock} {moves : List Move} (run : Moves s moves s')
    (quiet : ∀ move ∈ moves, Quiet move) :
    pendingIn s.batches batchId ≤ pendingIn s'.batches batchId := by
  induction run with
  | done => exact Int.le_refl _
  | next head _ ih =>
      apply Int.le_trans (moved_pending head (quiet _ List.mem_cons_self))
      exact ih fun move member => quiet move (List.mem_cons_of_mem _ member)

theorem makes_quiet {move : Move} (makes : Makes db event move) (unadjusted : ¬ Adjusts db event)
    (uninspected : ∀ command body, event ≠ .command ⟨command, .submitQualityInspection body⟩) :
    Quiet move := by
  cases makes with
  | purchased active others positive => exact Int.le_trans (by decide) positive
  | produced positive active => exact Int.le_of_lt positive
  | accepted found workflow report stores positive active => exact Int.le_of_lt positive
  | arrived => exact Int.le_refl _
  | returned => exact Int.le_refl _
  | kept => exact Int.le_refl _
  | inspected => exact absurd rfl (uninspected _ _)
  | adjusted found workflow approved pending bound waiting =>
      exact absurd ⟨approved, _, found, workflow⟩ unadjusted
  | _ => trivial

theorem work_inspections (work : Work effects db event db')
    (uninspected : ∀ command body, event ≠ .command ⟨command, .submitQualityInspection body⟩) :
    db' qualityInspections = db qualityInspections := by
  cases work with
  | @command _ request reply sent returns =>
      obtain ⟨command, body⟩ := request
      unfold runCommand at returns
      cases body with
      | submitQualityInspection body => exact absurd rfl (uninspected command body)
      | _ => exact (returns_widen.mp returns).unwritten _ (by decide)
  | warnInvoiceRisk warned => exact warned.unwritten _ (by decide)
  | procurement own => exact own _ (by decide)
  | approvalRequest => exact Store.put_other _ _ (by decide)
  | outboxMessage => rfl

theorem leftFor_still {bucket : Table InventoryBatch → Nat → Int}
    {before after : Table InventoryBatch}
    (still : pendingIn before batchId ≤ pendingIn after batchId) :
    leftFor bucket before after batchId = 0 := by
  unfold leftFor
  omega

/-! ## Inspections -/

theorem statedOf_insert {quantity : QualityInspection → Int} {row : QualityInspection}
    (inserted : db' qualityInspections = (db qualityInspections).insert row) :
    statedOf quantity db' batchId =
      statedOf quantity db batchId + if row.batchId = some batchId then quantity row else 0 := by
  rw [statedOf, inserted, Table.weigh_insert, statedOf]

theorem leftFor_settled {batches : Table InventoryBatch} {id : Nat} {batch : InventoryBatch}
    (found : batches.find? id = some batch) (positive : 0 < batch.pendingInspectionQuantity)
    (passed : Bool) (batchId : Nat) :
    leftFor availableIn batches (batches.modify id
        (Move.change (.settle id batch.pendingInspectionQuantity passed))) batchId =
      (if id = batchId ∧ passed = true then batch.pendingInspectionQuantity else 0) ∧
    leftFor quarantineIn batches (batches.modify id
        (Move.change (.settle id batch.pendingInspectionQuantity passed))) batchId =
      (if id = batchId ∧ passed = false then batch.pendingInspectionQuantity else 0) := by
  by_cases here : id = batchId
  · subst here
    simp only [leftFor, pendingIn, availableIn, quarantineIn, found,
      Table.find?_modify_self _ found, Option.elim_some, Move.change, true_and]
    cases passed
    · simp
      omega
    · simp
      omega
  · have other := Table.find?_modify_ne batches
      (Move.change (.settle id batch.pendingInspectionQuantity passed)) (Ne.symm here)
    simp only [here, false_and, if_false]
    constructor
    · exact leftFor_still (by simp [pendingIn, other])
    · exact leftFor_still (by simp [pendingIn, other])

theorem roundDiv_whole {quantity : Int} (positive : 0 < quantity) :
    roundDiv (quantity * 10000) quantity = 10000 := by
  rw [roundDiv, show 2 * (quantity * 10000) + quantity = quantity + 2 * quantity * 10000 by omega,
    Int.add_mul_ediv_left _ _ (by omega), Int.ediv_eq_zero_of_lt (by omega) (by omega)]
  rfl

theorem roundDiv_none {quantity : Int} (positive : 0 < quantity) : roundDiv (0 * 10000) quantity = 0 := by
  rw [roundDiv, Int.zero_mul]
  exact Int.ediv_eq_zero_of_lt (by omega) (by omega)

/-- What a step clears is within what is newly stated as passed, and what it
quarantines is what is newly stated as failed. -/
structure Agrees (db db' : Database) (batchId : Nat) : Prop where
  cleared : leftFor availableIn (db inventoryBatches) (db' inventoryBatches) batchId ≤
    passedOf db' batchId - passedOf db batchId
  quarantined : leftFor quarantineIn (db inventoryBatches) (db' inventoryBatches) batchId =
    failedOf db' batchId - failedOf db batchId

/-- An inspection of a whole batch quarantines what it states as failed only if
its rule lets full marks pass and no marks fail, and then it clears what it
states as passed. -/
theorem Inspected.agrees {body : SubmitQualityInspection} {row : QualityInspection}
    (inspected : Inspected body db db')
    (inserted : db' qualityInspections = (db qualityInspections).insert row)
    (states : row.batchId = body.batchId ∧ row.passedQuantity = body.passedQuantity ∧
      row.failedQuantity = body.failedQuantity) :
    (SettlesByRule db (.command ⟨command, .submitQualityInspection body⟩) →
      ∀ batchId, Agrees db db' batchId) ∧
    ((∀ batchId, leftFor quarantineIn (db inventoryBatches) (db' inventoryBatches) batchId =
        failedOf db' batchId - failedOf db batchId) →
      SettlesByRule db (.command ⟨command, .submitQualityInspection body⟩)) := by
  obtain ⟨own, passes, fails⟩ := states
  have stated : ∀ quantity batchId, statedOf quantity db' batchId - statedOf quantity db batchId =
      if body.batchId = some batchId then quantity row else 0 := by
    intro quantity batchId
    rw [statedOf_insert inserted, own]
    omega
  rcases inspected with ⟨none, batches⟩ | ⟨id, batch, rule, bound, inspectable, ruled, batches⟩
  · constructor
    · intro _ batchId
      constructor
      · rw [passedOf, stated, none, batches]
        simp [leftFor]
      · rw [failedOf, stated, none, batches]
        simp [leftFor]
    · intro _ batchId bound
      rw [none] at bound
      cases bound
  · have positive := inspectable.positive
    have left := leftFor_settled inspectable.found positive
      (decide (rule.2.minimumPassRateBps ≤
        roundDiv (body.passedQuantity * 10000) batch.pendingInspectionQuantity))
    rw [← batches] at left
    have rules : SettlesByRule db (.command ⟨command, .submitQualityInspection body⟩) ↔
        if 0 < body.failedQuantity then 0 < rule.2.minimumPassRateBps
        else rule.2.minimumPassRateBps ≤ 10000 := by
      simp only [SettlesByRule, bound, ruled, Option.mem_some_iff, forall_eq']
    rw [rules]
    constructor
    · intro judged batchId
      constructor
      · rw [(left batchId).1, passedOf, stated, bound, passes]
        simp only [Option.some.injEq]
        rcases inspectable.whole with ⟨all, none⟩ | ⟨none, all⟩
        · rw [none, if_neg (Int.lt_irrefl 0)] at judged
          rw [all, roundDiv_whole positive]
          simp [judged]
        · rw [all, if_pos positive] at judged
          rw [none, roundDiv_none positive]
          simp [Int.not_le.mpr judged]
      · rw [(left batchId).2, failedOf, stated, bound, fails]
        simp only [Option.some.injEq]
        rcases inspectable.whole with ⟨all, none⟩ | ⟨none, all⟩
        · rw [none, if_neg (Int.lt_irrefl 0)] at judged
          rw [all, none, roundDiv_whole positive]
          simp [judged]
        · rw [all, if_pos positive] at judged
          rw [all, none, roundDiv_none positive]
          simp [Int.not_le.mpr judged]
    · intro quarantined
      have here := quarantined id
      rw [(left id).2, failedOf, stated, bound, if_pos rfl, fails] at here
      rcases inspectable.whole with ⟨all, none⟩ | ⟨none, all⟩
      · rw [none, if_neg (Int.lt_irrefl 0)]
        rw [all, none, roundDiv_whole positive] at here
        by_contra missed
        simp only [missed, decide_false, and_self, if_true] at here
        omega
      · rw [all, if_pos positive]
        rw [all, none, roundDiv_none positive] at here
        by_contra missed
        simp only [Int.not_lt.mp missed, decide_true, Bool.true_eq_false, and_false, if_false] at here
        omega

/-! ## Every step -/

theorem work_agrees (work : Work effects db event db') (unadjusted : ¬ Adjusts db event) :
    (SettlesByRule db event → ∀ batchId, Agrees db db' batchId) ∧
    ((∀ batchId, leftFor quarantineIn (db inventoryBatches) (db' inventoryBatches) batchId =
        failedOf db' batchId - failedOf db batchId) → SettlesByRule db event) := by
  have others : (∀ command body, event ≠ .command ⟨command, .submitQualityInspection body⟩) →
      ∀ batchId, Agrees db db' batchId := by
    intro uninspected batchId
    obtain ⟨moves, run, made⟩ := work_moves work
    have still : pendingIn (db inventoryBatches) batchId ≤
        pendingIn (db' inventoryBatches) batchId := moves_pending run fun move member =>
      makes_quiet (made move member) unadjusted uninspected
    have rows := work_inspections work uninspected
    constructor
    · rw [leftFor_still still, passedOf, statedOf, rows, statedOf, Int.sub_self]
    · rw [leftFor_still still, failedOf, statedOf, rows, statedOf, Int.sub_self]
  obtain ⟨command, body⟩ | _ := event
  · cases body with
    | submitQualityInspection body =>
        cases work with
        | command returns =>
            simp only [runCommand, returns_widen] at returns
            obtain ⟨inspected, ⟨row, inserted, states⟩, -⟩ :=
              submitQualityInspection_returns returns
            exact inspected.agrees inserted states
    | _ => exact ⟨fun _ => others (by simp), fun _ => trivial⟩
  all_goals exact ⟨fun _ => others (by simp), fun _ => trivial⟩

theorem GateStep.gated_iff {gate gate' : Gate} (step : GateStep effects gate event gate')
    (gated : Gated gate) : Gated gate' ↔ SettlesByRule gate.db event := by
  obtain ⟨mid, work, apart⟩ := step.step.works
  have batches := apart inventoryBatches (by decide)
  have rows : ∀ quantity batchId,
      statedOf quantity gate'.db batchId = statedOf quantity mid batchId := by
    intro quantity batchId
    rw [statedOf, apart _ (by decide), statedOf]
  have cleared : ∀ batchId, gate'.cleared batchId = gate.cleared batchId +
      leftFor availableIn (gate.db inventoryBatches) (mid inventoryBatches) batchId := by
    intro batchId
    rw [step.ledger, Gate.after, batches]
  have quarantined : ∀ batchId, gate'.quarantined batchId = gate.quarantined batchId +
      leftFor quarantineIn (gate.db inventoryBatches) (mid inventoryBatches) batchId := by
    intro batchId
    rw [step.ledger, Gate.after, batches]
  obtain ⟨agrees, settles⟩ := work_agrees work step.unadjusted
  constructor
  · intro after
    refine settles ?_
    intro batchId
    have now := after.quarantined batchId
    rw [quarantined, gated.quarantined, failedOf, rows] at now
    rw [failedOf]
    omega
  · intro judged
    constructor
    · intro batchId
      have before := gated.cleared batchId
      have here := (agrees judged batchId).cleared
      rw [cleared, passedOf, rows]
      rw [passedOf] at before here
      omega
    · intro batchId
      have here := (agrees judged batchId).quarantined
      rw [quarantined, gated.quarantined, failedOf, rows]
      rw [failedOf] at here
      omega

/-- Along the runs that adjust no stock, no more is cleared than passed and what
is quarantined is what failed, in every state, exactly when every batch is
judged by a rule that full marks meet and no marks miss. -/
theorem inspection_gate {gate : Gate} :
    Run (fun gate event gate' => GateStep effects gate event gate' ∧ Gated gate')
        (Gate.opened opening) events gate ↔
      Run (fun gate event gate' => GateStep effects gate event gate' ∧ SettlesByRule gate.db event)
        (Gate.opened opening) events gate := by
  apply Run.iff_under Gated
  · rintro before event after step gated -
    exact gated
  · rintro before event after step gated
    exact step.gated_iff gated
  · exact ⟨fun _ => Int.le_refl _, fun _ => rfl⟩

/-! ## A failed batch under a rule without a minimum -/

/-- The ordered goods, whose incoming inspections need not pass anything. -/
def lenientDatabase : Database :=
  ProductionOrders.plannedDatabase.put qualityRules (Table.empty.insert
    { scope := .sku, sku := "GOOD", itemType := "", stage := .incoming, active := true
      minimumPassRateBps := 0, createdAt := 1 })

def receivesGoods (time : Nat) : Request :=
  requestAt time 1 [.supplyChain] (.receivePurchase
    { purchaseOrderId := 1, orderItemId := 1, warehouseId := 1 })

/-- All ten goods of the received batch fail. -/
def failsAll : SubmitQualityInspection where
  batchId := some 2
  stage := .incoming
  inspectionMethod := .full
  batchQuantity := 10
  inspectedQuantity := 10
  passedQuantity := 0
  failedQuantity := 10
  inspectorType := .companyQc
  defectReason := some "broken"

def failsGoods (time : Nat) : Request :=
  requestAt time 1 [.companyQc] (.submitQualityInspection failsAll)

/-- The ten goods that failed are available. -/
theorem failed_batch_cleared :
    ∃ gate, Run (GateStep noProcurement) (Gate.opened lenientDatabase)
        ([receivesGoods 1, failsGoods 2].map .command) gate ∧ ¬ Gated gate := by
  obtain ⟨db, db', run, second, seen⟩ := replay_steps noProcurement [receivesGoods 1]
    (failsGoods 2) lenientDatabase
    (fun db db' => availableIn (db' inventoryBatches) 2 == 10 &&
      (batchRule db failsAll 2).any fun rule =>
        rule.2.minimumPassRateBps == 0) (by decide +kernel)
  simp only [Bool.and_eq_true, Option.any_eq_true, beq_iff_eq] at seen
  obtain ⟨-, rule, ruled, lenient⟩ := seen
  cases run with
  | next first later =>
      cases later
      have received : GateStep noProcurement (Gate.opened lenientDatabase)
          (.command (receivesGoods 1)) ((Gate.opened lenientDatabase).after db) :=
        ⟨first, id, rfl⟩
      have failed : GateStep noProcurement ((Gate.opened lenientDatabase).after db)
          (.command (failsGoods 2)) (((Gate.opened lenientDatabase).after db).after db') :=
        ⟨second, id, rfl⟩
      refine ⟨_, Run.next received (Run.single failed), ?_⟩
      have before : Gated ((Gate.opened lenientDatabase).after db) := by
        refine (received.gated_iff ?_).mpr trivial
        exact ⟨fun _ => Int.le_refl _, fun _ => rfl⟩
      intro gated
      have judged := (failed.gated_iff before).mp gated 2 rfl rule ruled
      rw [if_pos (by decide), lenient] at judged
      exact absurd judged (Int.lt_irrefl 0)

end SupplyChain.QualityInspections
