import SupplyChain.QualityInspections
import SupplyChain.Stock.Moves

/-!
What the submission of a quality inspection did when it committed.
-/

namespace SupplyChain.QualityInspections

open Relational Transaction TableName Stock

variable {command : CommandContext} {db db' : Database} {reply : JsonValue}
  {sent : List DomainEvent} {writes : List TableName}

/-- The rows that say where a batch came from. -/
def receiptsOf (db : Database) (batchId : Nat) : List (Nat × PurchaseReceipt) :=
  (db purchaseReceipts).select fun _ receipt => receipt.batchId == batchId

def reportsOf (db : Database) (batchId : Nat) : List (Nat × ProductionReport) :=
  (db productionReports).select fun _ report => report.batchId == some batchId

/-- A batch has exactly one record of where it came from. -/
def Traced (db : Database) (batchId : Nat) : Prop :=
  ((receiptsOf db batchId).length = 1 ∧ (reportsOf db batchId).length = 0) ∨
    ((receiptsOf db batchId).length = 0 ∧ (reportsOf db batchId).length = 1)

/-- The order item behind a batch that has exactly one record of where it came
from. -/
def sourceOf (db : Database) (batchId : Nat) : Option OrderItem :=
  if (receiptsOf db batchId).length = 1 ∧ (reportsOf db batchId).length = 0 then
    receiptSource db batchId
  else productionSource db batchId

/-- The rule that an inspection of a whole batch is judged by. -/
def batchRule (db : Database) (body : SubmitQualityInspection) (batchId : Nat) :
    Option (Nat × QualityRule) :=
  ((db inventoryBatches).find? batchId).bind fun batch =>
    qualityRule db body.stage (targetOf db batch.sku (sourceOf db batchId))

/-- The inspection passes all that was pending, or it fails all of it. -/
def Whole (body : SubmitQualityInspection) (pending : Int) : Prop :=
  (body.passedQuantity = pending ∧ body.failedQuantity = 0) ∨
    (body.passedQuantity = 0 ∧ body.failedQuantity = pending)

/-- What is known of a batch that may be inspected. -/
structure Inspectable (body : SubmitQualityInspection) (db : Database) (batchId : Nat)
    (batch : InventoryBatch) : Prop where
  found : (db inventoryBatches).find? batchId = some batch
  thawed : frozen db batch.warehouseId batch.sku = false
  inspected : body.inspectedQuantity = batch.pendingInspectionQuantity
  positive : 0 < batch.pendingInspectionQuantity
  whole : Whole body batch.pendingInspectionQuantity
  traced : Traced db batchId

theorem batchTarget_returns [Writes resourceVersions writes] {body : SubmitQualityInspection}
    {batchId : Nat} {target : InspectionTarget}
    (returns : (batchTarget command body batchId : Tx writes InspectionTarget).Returns
      db target sent db') :
    sent = [] ∧ (∀ t, t ≠ resourceVersions → db' t = db t) ∧
      ∃ batch, Inspectable body db batchId batch ∧
        target = targetOf db batch.sku (sourceOf db batchId) := by
  simp only [batchTarget, returns_bind_select, returns_bind_orThrow,
    returns_bind_lockWarehouseFreeze, returns_bind_requireWarehouseScope,
    returns_bind_freezeExists, returns_bind_refuseIf, returns_bind_query,
    frozen_put_resourceVersions, Bool.not_eq_true] at returns
  obtain ⟨batch, found, -, _, -, -, -, thawed, positive, counted, -, whole, returns⟩ := returns
  push Not at positive counted
  have kept : ∀ versions versions' : Table ResourceVersion, ∀ t, t ≠ resourceVersions →
      ((db.put resourceVersions versions).put resourceVersions versions') t = db t := by
    intro _ _ t other
    rw [Store.put_other _ _ other, Store.put_other _ _ other]
  have inspectable : Traced db batchId → Inspectable body db batchId batch := by
    intro traced
    exact
      { found := found
        thawed := thawed
        inspected := counted.2
        positive := positive
        whole := not_not.mp whole
        traced := traced }
  rcases returns_ite.mp returns with ⟨traced, returns⟩ | ⟨unreceived, returns⟩
  · simp only [returns_bind_refuseIf, returns_query] at returns
    obtain ⟨-, same, rfl, rfl⟩ := returns
    have received : (receiptsOf db batchId).length = 1 ∧ (reportsOf db batchId).length = 0 := by
      simpa [receiptsOf, reportsOf] using traced
    refine ⟨rfl, kept _ _, batch, inspectable (Or.inl received), ?_⟩
    rw [same, sourceOf, if_pos received]
    simp [targetOf, receiptSource]
  · rcases returns_ite.mp returns with ⟨traced, returns⟩ | ⟨-, returns⟩
    · simp only [returns_bind_refuseIf, returns_query] at returns
      obtain ⟨-, same, rfl, rfl⟩ := returns
      have reported : (receiptsOf db batchId).length = 0 ∧ (reportsOf db batchId).length = 1 := by
        simpa [receiptsOf, reportsOf] using traced
      refine ⟨rfl, kept _ _, batch, inspectable (Or.inr reported), ?_⟩
      rw [same, sourceOf, if_neg (by omega)]
      simp [targetOf, productionSource]
    · simp at returns

theorem inspectionTarget_returns [Writes resourceVersions writes] {body : SubmitQualityInspection}
    {batchId : Option Nat} {target : InspectionTarget}
    (returns : (inspectionTarget command body batchId : Tx writes InspectionTarget).Returns
      db target sent db') :
    sent = [] ∧ (∀ t, t ≠ resourceVersions → db' t = db t) ∧
      ∀ id, batchId = some id → ∃ batch, Inspectable body db id batch ∧
        target = targetOf db batch.sku (sourceOf db id) := by
  cases batchId with
  | some id =>
      obtain ⟨sends, kept, found⟩ := batchTarget_returns returns
      refine ⟨sends, kept, ?_⟩
      intro key same
      cases same
      exact found
  | none =>
      simp only [inspectionTarget, orderTarget, returns_bind_refuseIf, returns_bind_query,
        returns_bind_orThrow, returns_pure] at returns
      obtain ⟨-, _, -, -, rfl, rfl⟩ := returns
      exact ⟨rfl, fun _ _ => rfl, by simp⟩

/-- What a committed inspection did to the stock: a whole batch that was pending
inspection is settled as its rule has it, or nothing moves. -/
def Inspected (body : SubmitQualityInspection) (db db' : Database) : Prop :=
  (body.batchId = none ∧ db' inventoryBatches = db inventoryBatches) ∨
    ∃ id batch rule, body.batchId = some id ∧ Inspectable body db id batch ∧
      batchRule db body id = some rule ∧
      db' inventoryBatches = (db inventoryBatches).modify id
        (Move.change (.settle id batch.pendingInspectionQuantity
          (decide (rule.2.minimumPassRateBps ≤
            roundDiv (body.passedQuantity * 10000) batch.pendingInspectionQuantity))))

theorem settleInspection_returns {batchId warehouseId inspectionId : Nat} {sku : String}
    {quantity : Int} {passed : Bool} {u : Unit}
    (returns : (settleInspection batchId sku warehouseId inspectionId quantity passed).Returns
      db u sent db') :
    sent = [] ∧ db' inventoryBatches = (db inventoryBatches).modify batchId
      (Move.change (.settle batchId quantity passed)) := by
  simp only [settleInspection, returns_bind_updateRow, returns_insertMovement] at returns
  obtain ⟨-, -, rfl, rfl⟩ := returns
  refine ⟨rfl, ?_⟩
  simp
  rfl

theorem moveInspected_silent {inspectionId : Nat} {batchId : Option Nat}
    {finalResult : InspectionResult} {quantity : Int} {u : Unit}
    (returns : (moveInspected inspectionId batchId finalResult quantity).Returns db u sent db') :
    sent = [] := by
  cases batchId with
  | none => exact (returns_pure.mp returns).2.1
  | some id =>
      rcases returns_ite.mp returns with ⟨-, returns⟩ | ⟨-, returns⟩
      · exact (returns_pure.mp returns).2.1
      · simp only [returns_bind_select, returns_bind_orThrow] at returns
        obtain ⟨current, -, returns⟩ := returns
        exact (settleInspection_returns returns).1

theorem submitQualityInspection_returns {body : SubmitQualityInspection}
    (returns : (submitQualityInspection command body).Returns db reply sent db') :
    Inspected body db db' ∧
      (∃ row, db' qualityInspections = (db qualityInspections).insert row ∧
        row.batchId = body.batchId ∧ row.passedQuantity = body.passedQuantity ∧
        row.failedQuantity = body.failedQuantity) ∧
      ∃ type, sent = [⟨type, .qualityInspection, (db qualityInspections).nextId, none⟩] := by
  simp only [submitQualityInspection, returns_bind_requireRole, returns_bind_optionalInteger,
    returns_bind_refuseIf, returns_bind_integer, returns_bind_optionalString] at returns
  obtain ⟨-, -, -, -, -, -, -, -, -, -, -, -, -, returns⟩ := returns
  obtain ⟨target, _, mid, _, targeted, later, rfl⟩ := returns_bind.mp returns
  obtain ⟨rfl, kept, whole⟩ := inspectionTarget_returns targeted
  simp only [returns_bind_refuseIf, returns_bind_query, returns_bind_orThrow,
    returns_bind_optionalInteger, returns_bind_insertInto, returns_bind_lockVersion,
    returns_bind_widen, returns_bind_domainEvent, returns_pure] at later
  obtain ⟨-, rule, ruled, unrequested, -, _, -, -, _, _, _, _, moved, ⟨_, ⟨-, rfl, rfl⟩, rfl⟩, rfl⟩ :=
    later
  have counts : mid qualityInspections = db qualityInspections := kept _ (by decide)
  have rows := moved.unwritten qualityInspections (by decide)
  rw [Store.put_other _ _ (by decide), Store.put_same, counts] at rows
  obtain rfl := moveInspected_silent moved
  refine ⟨?_, ⟨_, rows, rfl, rfl, rfl⟩, _, by rw [counts]; rfl⟩
  cases bound : body.batchId with
  | none =>
      simp only [bound, moveInspected, returns_pure] at moved
      obtain ⟨-, -, rfl⟩ := moved
      exact Or.inl ⟨bound, by simp [kept]⟩
  | some id =>
      obtain ⟨batch, inspectable, rfl⟩ := whole id bound
      have final : body.requestedResult = none := by
        push Not at unrequested
        exact unrequested (by simp [bound])
      have same : mid inventoryBatches = db inventoryBatches := kept _ (by decide)
      have rules : mid qualityRules = db qualityRules := kept _ (by decide)
      have found : batchRule db body id = some rule := by
        rw [batchRule, inspectable.found, Option.bind_some, ← ruled]
        simp [qualityRule, rules]
      simp only [bound, moveInspected, final, ne_eq, not_true_eq_false, false_and, if_false]
        at moved
      rcases returns_ite.mp moved with ⟨waits, moved⟩ | ⟨-, moved⟩
      · split at waits <;> cases waits
      · simp only [returns_bind_select, returns_bind_orThrow] at moved
        obtain ⟨current, foundCurrent, moved⟩ := moved
        obtain ⟨-, settled⟩ := settleInspection_returns moved
        refine Or.inr ⟨id, batch, rule, bound, inspectable, found, ?_⟩
        simp only [inspectable.inspected, Store.put_other, ne_eq, reduceCtorEq, not_false_eq_true,
          same] at settled
        rw [settled]
        congr 4
        split <;> simp [*]

theorem Inspected.moves {body : SubmitQualityInspection} (inspected : Inspected body db db')
    (reservations : db' inventoryReservations = db inventoryReservations) :
    stockOf db' = stockOf db ∨ ∃ id quantity passed, Traced db id ∧ Thawed db id ∧
      Moved (stockOf db) (.settle id quantity passed) (stockOf db') := by
  rcases inspected with ⟨-, batches⟩ | ⟨id, batch, rule, -, inspectable, -, batches⟩
  · exact Or.inl (by simp [stockOf, batches, reservations])
  · let passed := decide (rule.2.minimumPassRateBps ≤
      roundDiv (body.passedQuantity * 10000) batch.pendingInspectionQuantity)
    refine Or.inr ⟨id, batch.pendingInspectionQuantity, passed, inspectable.traced,
      thawed_of_found inspectable.found inspectable.thawed, ?_⟩
    have moved : Moved (stockOf db) (.settle id batch.pendingInspectionQuantity passed) _ :=
      Moved.settle inspectable.found inspectable.positive (Int.le_refl _)
    simpa [stockOf, batches, reservations, passed] using moved

end SupplyChain.QualityInspections
