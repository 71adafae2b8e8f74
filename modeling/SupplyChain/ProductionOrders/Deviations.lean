import SupplyChain.ProductionOrders.Stranding

/-!
The deviations of material lines: a completion judges the lines that its own
request reports, so an order is completed past a line whose deviation waits for
an approval exactly when the request leaves that line out.
-/

namespace SupplyChain.ProductionOrders

open Relational TableName Stock

variable {effects : Approvals.ProcurementEffects} {command : CommandContext}
  {db db' opening : Database} {event : Event} {events : List Event} {orderId order key : Nat}

/-- A line of the order whose deviation waits for an approval. -/
def PendingLine (db : Database) (orderId key : Nat) : Prop :=
  ∃ line, (db productionMaterialLines).find? key = some line ∧
    line.executionOrderId = orderId ∧ line.deviationStatus = .pendingApproval

/-- The event approves the variance of the order. -/
def ApprovesVariance (db : Database) (orderId : Nat) : Event → Prop
  | .command ⟨_, .decideApproval body⟩ =>
      body.decision = .approved ∧
        ∃ row ∈ varianceRow db body, row.report.executionOrderId = orderId
  | _ => False

/-- An order that becomes completed has no line that waits, unless its variance
is approved. -/
def KeepsDeviations (db : Database) (event : Event) (db' : Database) : Prop :=
  ∀ id before after, (db executionOrders).find? id = some before →
    (db' executionOrders).find? id = some after →
    before.status ≠ .completed → after.status = .completed →
    ApprovesVariance db id event ∨ ∀ key, ¬ PendingLine db' id key

/-- A completion that asks for no approval reports every line that waits. -/
def ReportsPending (db : Database) : Event → Prop
  | .command ⟨_, .transitionProductionOrder ⟨id, .complete actual lines⟩⟩ =>
      ∀ order ∈ (db executionOrders).find? id, ∀ item ∈ (db orderItems).find? order.orderItemId,
        completesWithin db order item.sku actual lines = true →
          ∀ key, PendingLine db id key → ∃ input ∈ lines, input.id = key
  | _ => True

theorem pendingLine_congr (same : db' productionMaterialLines = db productionMaterialLines) :
    PendingLine db' orderId key ↔ PendingLine db orderId key := by
  rw [PendingLine, PendingLine, same]

/-! ## The lines after the reports -/

section

variable {input : MaterialReport} {line : ProductionMaterialLine} {component : BomComponent}
  {moves : List Move}

theorem Reported.pendingLine (reported : Reported order input line component moves db db')
    (within : ProductionOrders.deviating db input = false) :
    PendingLine db' orderId key ↔ key ≠ input.id ∧ PendingLine db orderId key := by
  obtain ⟨deviationStatus, lines⟩ := reported.lines
  constructor
  · rintro ⟨after, found, owned, waits⟩
    have other : key ≠ input.id := by
      rintro rfl
      rw [reported.judged after found, within] at waits
      cases waits
    rw [lines, Table.find?_modify_ne _ _ other] at found
    exact ⟨other, after, found, owned, waits⟩
  · rintro ⟨other, before, found, owned, waits⟩
    refine ⟨before, ?_, owned, waits⟩
    rw [lines, Table.find?_modify_ne _ _ other]
    exact found

theorem ReportedAll.pendingLine {inputs : List MaterialReport}
    (reported : ReportedAll order inputs moves db db')
    (within : inputs.any (deviating db) = false) :
    PendingLine db' orderId key ↔
      (∀ input ∈ inputs, input.id ≠ key) ∧ PendingLine db orderId key := by
  induction reported with
  | done => simp
  | next first others ih =>
      rw [List.any_cons, Bool.or_eq_false_iff] at within
      have later := within.2
      rw [← funext first.deviating] at later
      rw [ih later, first.pendingLine within.1, List.forall_mem_cons, ← and_assoc,
        and_comm (a := ∀ _ ∈ _, _), ne_comm]

end

/-! ## One transition -/

theorem Stored.pendingLine {id : Nat} {placed : ExecutionOrder} {sku : String} {actual : Int}
    {deviates pending : Bool} (stored : Stored command id placed sku actual deviates db db' pending) :
    PendingLine db' orderId key ↔ PendingLine db orderId key := by
  cases stored with
  | asked _ _ _ lines _ => exact pendingLine_congr lines
  | empty _ _ _ lines _ => exact pendingLine_congr lines
  | stored _ _ _ _ _ lines _ =>
      constructor
      · rintro ⟨after, found, owned, waits⟩
        rw [lines, Table.find?_update] at found
        obtain ⟨before, foundBefore, rfl⟩ := Option.map_eq_some_iff.mp found
        refine ⟨before, foundBefore, ?_, ?_⟩
        · split at owned <;> exact owned
        · split at waits <;> exact waits
      · rintro ⟨before, found, owned, waits⟩
        refine ⟨_, by rw [lines, Table.find?_update, found]; rfl, ?_, ?_⟩
        · dsimp only
          split <;> exact owned
        · dsimp only
          split <;> exact waits

theorem completed_pending {id : Nat} {placed : ExecutionOrder} {sku : String} {actual : Int}
    {lines : List MaterialReport} {moves : List Move} {start mid : Database}
    {deviates pending : Bool} (begins : SameRows db start)
    (reported : ReportedAll id lines moves start mid)
    (completed : Completed command id placed sku actual deviates pending mid db')
    (deviation : deviates = lines.any (deviating start)) :
    pending = !completesWithin db placed sku actual lines := by
  have judged := completed.judged
  rw [overproduced_congr ((reported.kept skus (by decide)).trans (begins _ (by decide))),
    deviation, begins.any_deviating] at judged
  rw [judged, completesWithin, Bool.not_not]

/-- A completion within tolerance leaves waiting the lines that it does not report. -/
theorem completed_pendingLine {id : Nat} {placed : ExecutionOrder} {sku : String} {actual : Int}
    {lines : List MaterialReport} {moves : List Move} {start mid : Database}
    {deviates pending : Bool} (begins : SameRows db start)
    (reported : ReportedAll id lines moves start mid)
    (completed : Completed command id placed sku actual deviates pending mid db')
    (within : completesWithin db placed sku actual lines = true) :
    PendingLine db' id key ↔ (∀ input ∈ lines, input.id ≠ key) ∧ PendingLine db id key := by
  simp only [completesWithin, Bool.not_eq_true', Bool.or_eq_false_iff] at within
  have none : lines.any (deviating start) = false := by
    rw [begins.any_deviating]
    exact within.2
  rw [completed.stored.pendingLine, reported.pendingLine none,
    pendingLine_congr (begins _ (by decide))]

theorem transitioned_keeps_iff {body : TransitionProductionOrder} {placed : ExecutionOrder}
    {item : OrderItem} {sent : List DomainEvent}
    (found : (db executionOrders).find? body.id = some placed)
    (foundItem : (db orderItems).find? placed.orderItemId = some item)
    (transitioned : Transitioned command body.id placed item.sku db db' body.action sent) :
    KeepsDeviations db (.command ⟨command, .transitionProductionOrder body⟩) db' ↔
      ReportsPending db (.command ⟨command, .transitionProductionOrder body⟩) := by
  have still : (∀ id after, (db' executionOrders).find? id = some after →
      after.status = .completed → (db executionOrders).find? id = some after) →
      KeepsDeviations db (.command ⟨command, .transitionProductionOrder body⟩) db' := by
    intro same id before after foundBefore foundAfter open' done
    rw [same id after foundAfter done] at foundBefore
    cases foundBefore
    exact absurd done open'
  obtain ⟨id, action⟩ := body
  dsimp only at found transitioned
  cases transitioned with
  | released _ _ _ _ _ _ kept =>
      refine iff_of_true (still ?_) trivial
      intro key after foundAfter _
      rwa [kept _ (by decide)] at foundAfter
  | started planned orders kept =>
      refine iff_of_true (still ?_) trivial
      intro key after foundAfter done
      rw [orders] at foundAfter
      rcases Table.find?_modify_cases foundAfter with ⟨-, old, -, rfl⟩ | ⟨-, old⟩
      · cases done
      · exact old
  | reported begins reported ends =>
      refine iff_of_true (still ?_) trivial
      intro key after foundAfter _
      rwa [ends _ (by decide), reported.kept _ (by decide), begins _ (by decide)] at foundAfter
  | @completed lines start mid moves actual deviates pending begins reported completed _ deviation =>
      have orders := completed.orders
      rw [reported.kept _ (by decide), begins _ (by decide)] at orders
      have asks := completed_pending begins reported completed deviation
      constructor
      · intro keeps order foundOrder other foundOther within key waits
        obtain rfl : placed = order := Option.some.inj (found.symm.trans foundOrder)
        obtain rfl : item = other := Option.some.inj (foundItem.symm.trans foundOther)
        have after := Table.find?_modify_self (fun row => { row with
          status := if pending = true then .variancePending else .completed
          completedQuantity := actual }) found
        rw [← orders] at after
        have running : placed.status ≠ .completed := by
          intro done
          have running := completed.running
          rw [done] at running
          cases running
        rcases keeps id placed _ found after running (by simp [asks, within]) with
          approved | none
        · exact approved.elim
        · have missing := mt (completed_pendingLine begins reported completed within).mpr
            (none key)
          by_contra unreported
          push Not at unreported
          exact missing ⟨unreported, waits⟩
      · intro reports other before after foundBefore foundAfter open' done
        rw [orders] at foundAfter
        rcases Table.find?_modify_cases foundAfter with ⟨rfl, old, foundOld, rfl⟩ | ⟨-, old⟩
        · refine Or.inr ?_
          intro key waits
          have within : completesWithin db placed item.sku actual lines = true := by
            cases verdict : completesWithin db placed item.sku actual lines with
            | true => rfl
            | false =>
                rw [verdict] at asks
                rw [asks] at done
                cases done
          obtain ⟨unreported, waited⟩ :=
            (completed_pendingLine begins reported completed within).mp waits
          obtain ⟨input, member, same⟩ := reports placed found item foundItem within key waited
          exact unreported input member same
        · rw [old] at foundBefore
          cases foundBefore
          exact absurd done open'

/-! ## Every step -/

theorem work_keeps_iff (work : Work effects db event db') :
    KeepsDeviations db event db' ↔ ReportsPending db event := by
  cases work_worked work with
  | created created kept =>
      refine iff_of_true ?_ trivial
      intro id before after found foundAfter open' done
      rw [created.orders, Table.find?_insert_of_some found] at foundAfter
      cases foundAfter
      exact absurd done open'
  | transitioned found foundItem transitioned kept =>
      exact transitioned_keeps_iff found foundItem transitioned
  | @judged _ command body approval row judged =>
      refine iff_of_true ?_ trivial
      intro id before after found foundAfter open' done
      refine Or.inl ?_
      rw [judged.orders] at foundAfter
      rcases Table.find?_modify_cases foundAfter with ⟨rfl, old, -, rfl⟩ | ⟨-, old⟩
      · refine ⟨?_, row, judged.varianceRow, rfl⟩
        by_contra refused
        simp only [judgedOrder, refused, if_false] at done
        split at done <;> cases done
      · rw [old] at found
        cases found
        exact absurd done open'
  | elsewhere orders lines reports =>
      have keeps : KeepsDeviations db event db' := by
        intro id before after found foundAfter open' done
        rw [orders, found] at foundAfter
        cases foundAfter
        exact absurd done open'
      -- a transition is judged by what it did, any other event may do as it likes
      obtain ⟨command, body⟩ | _ := event
      · cases body with
        | transitionProductionOrder body =>
            obtain ⟨order, item, sent, found, foundItem, transitioned⟩ := work_transitioned work
            exact transitioned_keeps_iff found foundItem transitioned
        | _ => exact iff_of_true keeps trivial
      all_goals exact iff_of_true keeps trivial

theorem keepsDeviations_apart (apart : ApartFromOutbox db db') :
    KeepsDeviations opening event db' ↔ KeepsDeviations opening event db := by
  simp only [KeepsDeviations, PendingLine, apart executionOrders (by decide),
    apart productionMaterialLines (by decide)]

theorem step_keeps_iff (step : Step effects db event db') :
    KeepsDeviations db event db' ↔ ReportsPending db event := by
  obtain ⟨mid, work, apart⟩ := step.works
  rw [keepsDeviations_apart apart]
  exact work_keeps_iff work

/-- The runs in which no order is completed past a line that waits are the
runs in which every completion within tolerance reports the lines that wait. -/
theorem deviations_kept :
    Run (fun db event db' => Step effects db event db' ∧ KeepsDeviations db event db')
        opening events db ↔
      Run (fun db event db' => Step effects db event db' ∧ ReportsPending db event)
        opening events db := by
  constructor
  · intro run
    exact run.imp fun ⟨step, keeps⟩ => ⟨step, (step_keeps_iff step).mp keeps⟩
  · intro run
    exact run.imp fun ⟨step, reports⟩ => ⟨step, (step_keeps_iff step).mpr reports⟩

/-! ## A deviation that the completion leaves out -/

/-- The step completes the order, and its line still waits. -/
def completesPending (db db' : Database) : Bool :=
  ((db executionOrders).find? 1).any (fun order => order.status != .completed) &&
    ((db' executionOrders).find? 1).any (fun order => order.status == .completed) &&
    ((db' productionMaterialLines).find? 1).any fun line =>
      line.executionOrderId == 1 && line.deviationStatus == .pendingApproval

/-- Fifty parts are reported for ten goods, which need twenty, and the completion
that follows reports no line. -/
theorem completed_past_deviation :
    ∃ db db', Run (Step noProcurement) plannedDatabase
        ([plans 1 10, reserves 2 60, works 3 (.materials [⟨1, 50, 50, 0⟩])].map .command) db ∧
      Step noProcurement db (.command (works 4 (.complete 10 []))) db' ∧
      ¬ KeepsDeviations db (.command (works 4 (.complete 10 []))) db' := by
  obtain ⟨db, db', run, step, seen⟩ := replay_steps noProcurement
    [plans 1 10, reserves 2 60, works 3 (.materials [⟨1, 50, 50, 0⟩])] (works 4 (.complete 10 []))
    plannedDatabase completesPending (by decide +kernel)
  refine ⟨db, db', run, step, ?_⟩
  intro keeps
  simp only [completesPending, Bool.and_eq_true, Option.any_eq_true, bne_iff_ne, beq_iff_eq] at seen
  obtain ⟨⟨⟨before, found, open'⟩, after, foundAfter, done⟩, line, foundLine, owned, waits⟩ := seen
  rcases keeps 1 before after found foundAfter open' done with approved | none
  · exact approved.elim
  · exact none 1 ⟨line, foundLine, owned, waits⟩

end SupplyChain.ProductionOrders
