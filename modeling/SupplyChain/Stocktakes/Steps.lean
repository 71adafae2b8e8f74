import SupplyChain.Operations
import SupplyChain.Stocktakes.Outcomes
import SupplyChain.Approvals.Outcomes

/-!
What every step of the operations system does to the stocktakes, their counts
and their adjustments, and the movements that a decided stocktake books.
-/

namespace SupplyChain.Stocktakes

open Relational Transaction TableName

variable {effects : Approvals.ProcurementEffects} {command : CommandContext}
  {db db' mid : Database} {reply : JsonValue} {sent : List DomainEvent} {event : Event}
  {decision : Decision} {id : Nat} {task : Stocktake}

/-! ## Deciding adjustments -/

/-- The source key of the movement that an adjustment books. -/
def movementKey (stocktakeId adjustmentId revision : Nat) : String :=
  "stocktake:" ++ toString stocktakeId ++ ":adjustment:" ++ toString adjustmentId ++
    ":revision:" ++ toString revision

def settled (decision : Decision) (adjustment : StocktakeAdjustment) : StocktakeAdjustment :=
  { adjustment with decision := decision.status }

theorem decideAdjustments_settle {rows : List ApprovalEffects.AdjustmentRow} {u : Unit}
    (returns : (forEach (ApprovalEffects.decideAdjustment task id decision) rows).Returns
      db u sent db') (key : Nat) :
    (db' stocktakeAdjustments).find? key =
      ((db stocktakeAdjustments).find? key).map fun other =>
        if (∃ row ∈ rows, row.id = key) ∧ other.decision = .pending then settled decision other
        else other := by
  induction rows generalizing db sent with
  | nil =>
      obtain ⟨-, rfl⟩ := returns_forEach_nil.mp returns
      simp
  | cons row rest ih =>
      obtain ⟨first, mid, later, head, tail, -⟩ := returns_forEach_cons.mp returns
      obtain ⟨-, written, -⟩ := ApprovalEffects.decideAdjustment_returns head
      rw [ih tail, written, Table.find?_update]
      cases found : (db stocktakeAdjustments).find? key with
      | none => rfl
      | some other =>
          simp only [Option.map_some, Option.some.injEq, Bool.and_eq_true, beq_iff_eq,
            List.exists_mem_cons_iff]
          by_cases here : key = row.id
          · subst here
            by_cases pending : other.decision = .pending
            · have decided : decision.status ≠ .pending := by
                cases decision with
                | approved => decide
                | rejected => decide
              simp [pending, settled, decided]
            · simp [pending]
          · have apart : ¬ row.id = key := fun same => here same.symm
            simp [here, apart]

/-- An approval books a movement for each listed adjustment, under its own key, and
no other. -/
theorem decideAdjustments_book {rows : List ApprovalEffects.AdjustmentRow} {u : Unit}
    (returns : (forEach (ApprovalEffects.decideAdjustment task id .approved) rows).Returns
      db u sent db') :
    (∀ key movement, (db' inventoryMovements).find? key = some movement →
      (db inventoryMovements).find? key = some movement ∨
        ∃ row ∈ rows, movement.sourceKey = movementKey id row.id row.adjustment.revision) ∧
      (∀ key movement, (db inventoryMovements).find? key = some movement →
        (db' inventoryMovements).find? key = some movement) ∧
      ∀ row ∈ rows, ∃ key movement, (db' inventoryMovements).find? key = some movement ∧
        movement.sourceKey = movementKey id row.id row.adjustment.revision := by
  induction rows generalizing db sent with
  | nil =>
      obtain ⟨-, rfl⟩ := returns_forEach_nil.mp returns
      simp
  | cons row rest ih =>
      obtain ⟨first, mid, later, head, tail, -⟩ := returns_forEach_cons.mp returns
      obtain ⟨origin, kept, booked⟩ := ih tail
      have written : ∃ movement : InventoryMovement,
          movement.sourceKey = movementKey id row.id row.adjustment.revision ∧
            mid inventoryMovements = (db inventoryMovements).insert movement := by
        simp only [ApprovalEffects.decideAdjustment, whenever, if_true, returns_bind_widen,
          ApprovalEffects.applyAdjustment, returns_bind_orThrow, returns_bind_updateRow,
          returns_insertMovement, returns_updateWhere] at head
        obtain ⟨_, _, applied, _, ⟨_, -, -, -, -, rfl⟩, ⟨-, rfl⟩, -⟩ := head
        rw [Store.put_other _ _ (by decide), Store.put_same, Store.put_other _ _ (by decide)]
        exact ⟨⟨_, _, _, _, _⟩, rfl, rfl⟩
      obtain ⟨movement, keyed, inserted⟩ := written
      refine ⟨?_, ?_, ?_⟩
      · intro key other found
        rcases origin key other found with there | ⟨source, member, same⟩
        · rw [inserted] at there
          rcases Table.find?_insert_cases there with ⟨-, rfl⟩ | old
          · exact Or.inr ⟨row, List.mem_cons_self, keyed⟩
          · exact Or.inl old
        · exact Or.inr ⟨source, List.mem_cons_of_mem _ member, same⟩
      · intro key other found
        apply kept
        rw [inserted]
        exact Table.find?_insert_of_some found
      · intro source member
        rcases List.mem_cons.mp member with rfl | inside
        · refine ⟨(db inventoryMovements).nextId, movement, kept _ _ ?_, keyed⟩
          rw [inserted]
          exact Table.find?_insert_nextId _ movement
        · exact booked source inside

/-! ## Steps -/

/-- The pending adjustments of the stocktake are settled, those with a count. -/
structure Judged (id : Nat) (decision : Decision) (db db' : Database) : Prop where
  waiting : ∃ task, (db stocktakes).find? id = some task ∧ task.status = .pendingApproval
  tasks : db' stocktakes = (db stocktakes).modify id fun row =>
    { row with status := if decision = .approved then .completed else .recount }
  counts : db' stocktakeCounts = db stocktakeCounts
  adjustments : ∀ key, (db' stocktakeAdjustments).find? key =
    ((db stocktakeAdjustments).find? key).map fun other =>
      if (∃ row ∈ ApprovalEffects.pendingAdjustments db id, row.id = key) ∧
          other.decision = .pending then settled decision other
      else other
  books : decision = .approved →
    (∀ key movement, (db' inventoryMovements).find? key = some movement →
      (db inventoryMovements).find? key = some movement ∨
        ∃ row ∈ ApprovalEffects.pendingAdjustments db id,
          movement.sourceKey = movementKey id row.id row.adjustment.revision) ∧
      ∀ row ∈ ApprovalEffects.pendingAdjustments db id, ∃ key movement,
        (db' inventoryMovements).find? key = some movement ∧
          movement.sourceKey = movementKey id row.id row.adjustment.revision

/-- What a step does to the stocktakes, their counts and their adjustments. -/
inductive Taken (db : Database) : Event → Database → Prop
  | opened {db' : Database} {command : CommandContext} {body : OpenStocktake}
      (opened : Opened db db') : Taken db (.command ⟨command, .openStocktake body⟩) db'
  | transitioned {db' : Database} {command : CommandContext} {body : TransitionStocktake}
      {task : Stocktake} (found : (db stocktakes).find? body.id = some task)
      (transitioned : Transitioned task body.id db db') :
      Taken db (.command ⟨command, .transitionStocktake body⟩) db'
  | judged {db' : Database} {command : CommandContext} {body : Approvals.DecideApproval}
      {approval : ApprovalRequest}
      (foundApproval : (db approvalRequests).find? body.id = some approval)
      (workflow : approval.workflowType = .stocktakeVariance)
      (judged : Judged approval.entityId body.decision db db') :
      Taken db (.command ⟨command, .decideApproval body⟩) db'
  | elsewhere {event : Event} {db' : Database} (tasks : db' stocktakes = db stocktakes)
      (counts : db' stocktakeCounts = db stocktakeCounts)
      (adjustments : db' stocktakeAdjustments = db stocktakeAdjustments)
      (undecided : ∀ command body approval, event = .command ⟨command, .decideApproval body⟩ →
        (db approvalRequests).find? body.id = some approval →
          approval.workflowType ≠ .stocktakeVariance) : Taken db event db'

theorem judged_of_effect {approval : ApprovalRequest}
    (same : ∀ t, t ≠ approvalRequests → t ≠ authChallenges → mid t = db t)
    (returns : (ApprovalEffects.stocktakeVariance approval decision).Returns mid reply sent db') :
    Judged approval.entityId decision db db' := by
  obtain ⟨task, last, found, waiting, -, loop, rfl⟩ :=
    ApprovalEffects.stocktakeVariance_returns returns
  have listed : ApprovalEffects.pendingAdjustments mid approval.entityId =
      ApprovalEffects.pendingAdjustments db approval.entityId := by
    simp only [ApprovalEffects.pendingAdjustments, same stocktakeAdjustments (by decide) (by decide),
      same stocktakeCounts (by decide) (by decide)]
  rw [listed] at loop
  have tasks := same stocktakes (by decide) (by decide)
  rw [tasks] at found
  constructor
  · exact ⟨task, found, waiting⟩
  · rw [Store.put_same, tasks]
  · rw [Store.put_other _ _ (by decide), loop.unwritten _ (by decide),
      Store.put_other _ _ (by decide), same _ (by decide) (by decide)]
  · intro key
    rw [Store.put_other _ _ (by decide), decideAdjustments_settle loop,
      Store.put_other _ _ (by decide), same _ (by decide) (by decide)]
  · rintro rfl
    obtain ⟨origin, -, booked⟩ := decideAdjustments_book loop
    rw [Store.put_other _ _ (by decide), same _ (by decide) (by decide)] at origin
    rw [Store.put_other _ _ (by decide)]
    exact ⟨origin, booked⟩

theorem decideApproval_taken {body : Approvals.DecideApproval}
    (returns : (Approvals.decideApproval effects command body).Returns db reply sent db') :
    Taken db (.command ⟨command, .decideApproval body⟩) db' := by
  obtain ⟨-, approval, mid, decided⟩ := Approvals.decideApproval_returns returns
  obtain ⟨outcome, effect⟩ := decided.effect
  have same := decided.kept
  have another : approval.workflowType ≠ .stocktakeVariance → ∀ command' body' approval',
      Event.command ⟨command, .decideApproval body⟩ = .command ⟨command', .decideApproval body'⟩ →
        (db approvalRequests).find? body'.id = some approval' →
          approval'.workflowType ≠ .stocktakeVariance := by
    intro different command' body' approval' event found
    cases event
    rw [decided.found] at found
    cases found
    exact different
  unfold Approvals.approvalEffect at effect
  cases workflow : approval.workflowType with
  | stocktakeVariance =>
      simp only [workflow, returns_widen] at effect
      exact Taken.judged decided.found workflow (judged_of_effect same effect)
  | _ =>
      rw [workflow] at another
      simp only [workflow, returns_widen] at effect
      have unwritten := effect.unwritten
      exact Taken.elsewhere (by simp [unwritten, same]) (by simp [unwritten, same])
        (by simp [unwritten, same]) (another (by rintro ⟨⟩))

theorem work_taken (work : Work effects db event db') : Taken db event db' := by
  cases work with
  | @command _ request reply sent returns =>
      obtain ⟨command, body⟩ := request
      unfold runCommand at returns
      cases body with
      | decideApproval body => exact decideApproval_taken (returns_widen.mp returns)
      | openStocktake body => exact Taken.opened (openStocktake_returns (returns_widen.mp returns))
      | transitionStocktake body =>
          obtain ⟨task, found, transitioned⟩ := transitionStocktake_returns (returns_widen.mp returns)
          exact Taken.transitioned found transitioned
      | _ =>
          have unwritten := (returns_widen.mp returns).unwritten
          exact Taken.elsewhere (by simp [unwritten]) (by simp [unwritten]) (by simp [unwritten])
            (by rintro _ _ _ ⟨⟩)
  | warnInvoiceRisk warned =>
      have unwritten := warned.unwritten
      exact Taken.elsewhere (by simp [unwritten]) (by simp [unwritten]) (by simp [unwritten])
        (by rintro _ _ _ ⟨⟩)
  | procurement own =>
      exact Taken.elsewhere (by simp [own, foreignTables]) (by simp [own, foreignTables])
        (by simp [own, foreignTables]) (by rintro _ _ _ ⟨⟩)
  | approvalRequest =>
      exact Taken.elsewhere (by simp) (by simp) (by simp) (by rintro _ _ _ ⟨⟩)
  | outboxMessage => exact Taken.elsewhere rfl rfl rfl (by rintro _ _ _ ⟨⟩)

/-- An invariant that does not read the outbox is preserved by a step when what
it does to the stocktakes preserves it. -/
theorem step_taken (step : Step effects db event db') :
    ∃ mid, Taken db event mid ∧ ApartFromOutbox mid db' := by
  obtain ⟨mid, work, apart⟩ := step.works
  exact ⟨mid, work_taken work, apart⟩

end SupplyChain.Stocktakes
