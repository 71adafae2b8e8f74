import SupplyChain.ProductionOrders.Deviations

/-!
The materials of closed orders: an order that has left the planned and the
running states keeps the figures of its lines and the reservations that it
holds, except that reports of materials go on unless they repeat what stands.
-/

namespace SupplyChain.ProductionOrders

open Relational TableName Stock

variable {effects : Approvals.ProcurementEffects} {command : CommandContext}
  {db mid db' opening : Database} {event : Event} {events : List Event} {orderId order : Nat}

/-- The order has left the planned and the running states. -/
def Closed (db : Database) (orderId : Nat) : Prop :=
  ∃ order, (db executionOrders).find? orderId = some order ∧ order.status.running = false

/-- The lines of the order keep what they say was issued, consumed and lost. -/
def SameFigures (orderId : Nat) (db db' : Database) : Prop :=
  ∀ key line, (db productionMaterialLines).find? key = some line →
    line.executionOrderId = orderId →
    ∃ after, (db' productionMaterialLines).find? key = some after ∧
      after.executionOrderId = orderId ∧ after.issuedQuantity = line.issuedQuantity ∧
      after.consumedQuantity = line.consumedQuantity ∧ after.lossQuantity = line.lossQuantity

/-- The order holds the reservations that it held, as they were. -/
def SameHolds (orderId : Nat) (db db' : Database) : Prop :=
  ∀ key row, Holds orderId row →
    ((db' inventoryReservations).find? key = some row ↔
      (db inventoryReservations).find? key = some row)

/-- A transition changes neither the figures nor the reservations of closed orders. -/
def FreezesClosed (db : Database) (event : Event) (db' : Database) : Prop :=
  ∀ command body, event = .command ⟨command, .transitionProductionOrder body⟩ →
    ∀ orderId, Closed db orderId → SameFigures orderId db db' ∧ SameHolds orderId db db'

/-- The report states what its line says. -/
def Restates (db : Database) (input : MaterialReport) : Prop :=
  ∀ line ∈ (db productionMaterialLines).find? input.id,
    input.issuedQuantity = line.issuedQuantity ∧
      input.consumedQuantity = line.consumedQuantity ∧ input.lossQuantity = line.lossQuantity

/-- Materials are reported for an order that is not closed, or repeat what stands. -/
def ReportsOpen (db : Database) : Event → Prop
  | .command ⟨_, .transitionProductionOrder ⟨id, .materials lines⟩⟩ =>
      ∀ order ∈ (db executionOrders).find? id, order.status.running = false →
        ∀ input ∈ lines, Restates db input
  | _ => True

theorem SameFigures.refl (orderId : Nat) (db : Database) : SameFigures orderId db db :=
  fun _ line found owned => ⟨line, found, owned, rfl, rfl, rfl⟩

theorem SameFigures.trans (first : SameFigures orderId db mid)
    (second : SameFigures orderId mid db') : SameFigures orderId db db' := by
  intro key line found owned
  obtain ⟨between, foundBetween, ownedBetween, issued, consumed, loss⟩ := first key line found owned
  obtain ⟨after, foundAfter, ownedAfter, issued', consumed', loss'⟩ :=
    second key between foundBetween ownedBetween
  exact ⟨after, foundAfter, ownedAfter, issued'.trans issued, consumed'.trans consumed,
    loss'.trans loss⟩

theorem SameFigures.of_same (lines : db' productionMaterialLines = db productionMaterialLines) :
    SameFigures orderId db db' := by
  intro key line found owned
  exact ⟨line, by rw [lines]; exact found, owned, rfl, rfl, rfl⟩

theorem SameFigures.congr {start last : Database}
    (begins : start productionMaterialLines = db productionMaterialLines)
    (ends : db' productionMaterialLines = last productionMaterialLines)
    (same : SameFigures orderId db db') : SameFigures orderId start last := by
  rw [SameFigures, begins, ← ends]
  exact same

theorem SameHolds.of_same (reservations : db' inventoryReservations = db inventoryReservations) :
    SameHolds orderId db db' := by
  intro key row _
  rw [reservations]

/-! ## Moves on the reservations of one order -/

section

variable {s s' : Stock} {move : Move} {moves : List Move}

theorem OnThawed.otherHolds (onThawed : OnThawed opening order move) (moved : Moved s move s')
    (other : orderId ≠ order) {key : Nat} {row : InventoryReservation} (holds : Holds orderId row) :
    s'.reservations.find? key = some row ↔ s.reservations.find? key = some row := by
  have apart : ¬ Holds order row := fun both => other (both.order.mp holds).symm
  obtain ⟨reservationId, batchId, sku, quantity, -, rfl | rfl⟩ := onThawed
  · cases moved with
    | consume held owned _ _ _ _ =>
        by_cases same : key = reservationId
        · subst same
          rw [Table.find?_modify_self _ held, held, Option.some.injEq, Option.some.injEq]
          refine iff_of_false ?_ ?_
          · rintro rfl
            exact apart ⟨holds.active, owned.entityType, owned.entityId⟩
          · rintro rfl
            exact apart owned
        · rw [Table.find?_modify_ne _ _ same]
  · cases moved with
    | release held owned _ _ _ =>
        by_cases same : key = reservationId
        · subst same
          rw [Table.find?_modify_self _ held, held, Option.some.injEq, Option.some.injEq]
          refine iff_of_false ?_ ?_
          · rintro rfl
            cases holds.active
          · rintro rfl
            exact apart owned
        · rw [Table.find?_modify_ne _ _ same]

theorem moves_otherHolds (run : Moves s moves s')
    (onThawed : ∀ move ∈ moves, OnThawed opening order move) (other : orderId ≠ order) {key : Nat}
    {row : InventoryReservation} (holds : Holds orderId row) :
    s'.reservations.find? key = some row ↔ s.reservations.find? key = some row := by
  induction run with
  | done => exact Iff.rfl
  | next head _ ih =>
      rw [ih fun move member => onThawed move (List.mem_cons_of_mem _ member)]
      exact (onThawed _ List.mem_cons_self).otherHolds head other holds

theorem OnThawed.taken_pos (onThawed : OnThawed opening order move) (moved : Moved s move s') :
    0 < taken move := by
  obtain ⟨reservationId, batchId, sku, quantity, -, rfl | rfl⟩ := onThawed
  · cases moved with
    | consume _ _ positive _ _ _ => exact positive
  · cases moved with
    | release _ _ positive _ _ => exact positive

theorem moves_none (run : Moves s moves s') (onThawed : ∀ move ∈ moves, OnThawed opening order move)
    (nothing : (moves.map taken).sum ≤ 0) : s' = s := by
  have nonneg : ∀ {start : Stock} {others : List Move}, Moves start others s' →
      (∀ move ∈ others, OnThawed opening order move) → 0 ≤ (others.map taken).sum := by
    intro start others later labels
    induction later with
    | done => exact Int.le_refl _
    | next head _ ih =>
        have here := (labels _ List.mem_cons_self).taken_pos head
        have rest := ih run fun move member => labels move (List.mem_cons_of_mem _ member)
        rw [List.map_cons, List.sum_cons]
        omega
  cases run with
  | done => rfl
  | next head tail =>
      have here := (onThawed _ List.mem_cons_self).taken_pos head
      have rest := nonneg tail fun move member => onThawed move (List.mem_cons_of_mem _ member)
      rw [List.map_cons, List.sum_cons] at nothing
      omega

end

/-! ## Reports of materials -/

section

variable {input : MaterialReport} {line : ProductionMaterialLine} {component : BomComponent}
  {moves : List Move} {inputs : List MaterialReport}

theorem Restates.congr (same : db' productionMaterialLines = db productionMaterialLines) :
    Restates db' input ↔ Restates db input := by
  rw [Restates, Restates, same]

/-- The figures of the lines of an order do not go down. -/
def Grows (orderId : Nat) (db db' : Database) : Prop :=
  ∀ key line, (db productionMaterialLines).find? key = some line →
    line.executionOrderId = orderId →
    ∃ after, (db' productionMaterialLines).find? key = some after ∧
      after.executionOrderId = orderId ∧ line.issuedQuantity ≤ after.issuedQuantity ∧
      line.consumedQuantity ≤ after.consumedQuantity ∧ line.lossQuantity ≤ after.lossQuantity

theorem Grows.trans (first : Grows orderId db mid) (second : Grows orderId mid db') :
    Grows orderId db db' := by
  intro key line found owned
  obtain ⟨between, foundBetween, ownedBetween, issued, consumed, loss⟩ := first key line found owned
  obtain ⟨after, foundAfter, ownedAfter, issued', consumed', loss'⟩ :=
    second key between foundBetween ownedBetween
  exact ⟨after, foundAfter, ownedAfter, issued.trans issued', consumed.trans consumed',
    loss.trans loss'⟩

theorem SameFigures.first (same : SameFigures orderId db db') (first : Grows orderId db mid)
    (second : Grows orderId mid db') : SameFigures orderId db mid := by
  intro key line found owned
  obtain ⟨between, foundBetween, ownedBetween, issued, consumed, loss⟩ := first key line found owned
  obtain ⟨after, foundAfter, -, issued', consumed', loss'⟩ :=
    second key between foundBetween ownedBetween
  obtain ⟨final, foundFinal, -, equal⟩ := same key line found owned
  obtain rfl : after = final := Option.some.inj (foundAfter.symm.trans foundFinal)
  exact ⟨between, foundBetween, ownedBetween, by omega, by omega, by omega⟩

theorem Reported.ownLine (reported : Reported order input line component moves db db') :
    ∃ after, (db' productionMaterialLines).find? input.id = some after ∧
      after.executionOrderId = order ∧ after.issuedQuantity = input.issuedQuantity ∧
      after.consumedQuantity = input.consumedQuantity ∧
      after.lossQuantity = input.lossQuantity := by
  obtain ⟨deviationStatus, lines⟩ := reported.lines
  rw [lines]
  exact ⟨_, Table.find?_modify_self _ reported.foundLine, reported.owned, rfl, rfl, rfl⟩

theorem Reported.otherLine (reported : Reported order input line component moves db db')
    {key : Nat} (other : key ≠ input.id) :
    (db' productionMaterialLines).find? key = (db productionMaterialLines).find? key := by
  obtain ⟨deviationStatus, lines⟩ := reported.lines
  rw [lines, Table.find?_modify_ne _ _ other]

theorem Reported.grows (reported : Reported order input line component moves db db') :
    Grows orderId db db' := by
  intro key row found owned
  by_cases same : key = input.id
  · subst same
    obtain rfl : line = row := Option.some.inj (reported.foundLine.symm.trans found)
    obtain ⟨after, foundAfter, ownedAfter, issued, consumed, loss⟩ := reported.ownLine
    have increasing := reported.increasing
    exact ⟨after, foundAfter, by rw [ownedAfter, ← reported.owned, owned], by omega, by omega,
      by omega⟩
  · exact ⟨row, by rw [reported.otherLine same]; exact found, owned, Int.le_refl _, Int.le_refl _,
      Int.le_refl _⟩

theorem ReportedAll.grows (reported : ReportedAll order inputs moves db db') :
    Grows orderId db db' := by
  induction reported with
  | done =>
      exact fun _ line found owned =>
        ⟨line, found, owned, Int.le_refl _, Int.le_refl _, Int.le_refl _⟩
  | next first _ ih => exact first.grows.trans ih

theorem ReportedAll.otherFigures (reported : ReportedAll order inputs moves db db')
    (other : orderId ≠ order) : SameFigures orderId db db' := by
  induction reported with
  | done => exact SameFigures.refl _ _
  | @next _ _ _ input _ _ _ _ _ first _ ih =>
      refine SameFigures.trans ?_ ih
      intro key row found owned
      have apart : key ≠ input.id := by
        rintro rfl
        have same := Option.some.inj (first.foundLine.symm.trans found)
        rw [← same] at owned
        exact other (owned.symm.trans first.owned)
      exact ⟨row, by rw [first.otherLine apart]; exact found, owned, rfl, rfl, rfl⟩

theorem Reported.figures (reported : Reported order input line component moves db db')
    (restates : Restates db input) : SameFigures orderId db db' := by
  intro key row found owned
  by_cases same : key = input.id
  · subst same
    obtain rfl : line = row := Option.some.inj (reported.foundLine.symm.trans found)
    obtain ⟨issued, consumed, loss⟩ := restates line found
    obtain ⟨after, foundAfter, ownedAfter, issued', consumed', loss'⟩ := reported.ownLine
    exact ⟨after, foundAfter, by rw [ownedAfter, ← reported.owned, owned], issued'.trans issued,
      consumed'.trans consumed, loss'.trans loss⟩
  · exact ⟨row, by rw [reported.otherLine same]; exact found, owned, rfl, rfl, rfl⟩

theorem Reported.restates_iff (reported : Reported order input line component moves db db')
    (restates : Restates db input) (other : MaterialReport) :
    Restates db' other ↔ Restates db other := by
  by_cases same : other.id = input.id
  · obtain ⟨issued, consumed, loss⟩ := restates line reported.foundLine
    obtain ⟨after, foundAfter, -, issued', consumed', loss'⟩ := reported.ownLine
    simp only [Restates, same, reported.foundLine, foundAfter, Option.mem_some_iff,
      forall_eq', issued', consumed', loss', issued, consumed, loss]
  · rw [Restates, Restates, reported.otherLine same]

/-- Reports keep the figures of their order exactly when each of them says what
its line says. -/
theorem ReportedAll.figures_iff (reported : ReportedAll order inputs moves db db') :
    SameFigures order db db' ↔ ∀ input ∈ inputs, Restates db input := by
  induction reported with
  | done => exact iff_of_true (SameFigures.refl _ _) (by simp)
  | @next db mid db' input rest line component _ _ first others ih =>
      rw [List.forall_mem_cons]
      constructor
      · intro same
        have begins := same.first first.grows others.grows
        have restates : Restates db input := by
          intro row found
          obtain rfl : line = row := Option.some.inj (first.foundLine.symm.trans found)
          obtain ⟨after, foundAfter, -, issued, consumed, loss⟩ := begins _ line found first.owned
          obtain ⟨reportedLine, foundReported, -, issued', consumed', loss'⟩ := first.ownLine
          obtain rfl : after = reportedLine :=
            Option.some.inj (foundAfter.symm.trans foundReported)
          exact ⟨issued'.symm.trans issued, consumed'.symm.trans consumed,
            loss'.symm.trans loss⟩
        refine ⟨restates, ?_⟩
        intro other member
        rw [← first.restates_iff restates]
        refine ih.mp ?_ other member
        -- the figures went back to where they were, and never went down
        intro key row found owned
        by_cases here : key = input.id
        · subst here
          obtain ⟨issued, consumed, loss⟩ := restates line first.foundLine
          obtain ⟨between, foundBetween, -, issued', consumed', loss'⟩ := first.ownLine
          obtain rfl : between = row := Option.some.inj (foundBetween.symm.trans found)
          obtain ⟨after, foundAfter, ownedAfter, figures⟩ :=
            same _ line first.foundLine first.owned
          exact ⟨after, foundAfter, ownedAfter, by omega, by omega, by omega⟩
        · rw [first.otherLine here] at found
          exact same key row found owned
      · rintro ⟨restates, later⟩
        refine (first.figures restates).trans (ih.mpr ?_)
        intro other member
        exact (first.restates_iff restates other).mpr (later other member)

theorem ReportedAll.still (reported : ReportedAll order inputs moves db db')
    (restates : ∀ input ∈ inputs, Restates db input) : stockOf db' = stockOf db := by
  induction reported with
  | done => rfl
  | @next db mid db' input rest line component _ _ first others ih =>
      rw [List.forall_mem_cons] at restates
      rw [ih fun other member =>
        (first.restates_iff restates.1 other).mpr (restates.2 other member)]
      obtain ⟨issued, consumed, loss⟩ := restates.1 line first.foundLine
      have used := first.used
      have onThawed : ∀ move ∈ _, OnThawed db order move := fun move member =>
        (first.onPool move member).thawed first.thawed
      exact moves_none first.run onThawed (by omega)

end

/-! ## One transition -/

theorem Stored.figures {id : Nat} {placed : ExecutionOrder} {sku : String} {actual : Int}
    {deviates pending : Bool} (stored : Stored command id placed sku actual deviates db db' pending) :
    SameFigures orderId db db' := by
  cases stored with
  | asked _ _ _ lines _ => exact SameFigures.of_same lines
  | empty _ _ _ lines _ => exact SameFigures.of_same lines
  | stored _ _ _ _ _ lines _ =>
      intro key line found owned
      refine ⟨_, by rw [lines, Table.find?_update, found]; rfl, ?_⟩
      dsimp only
      split <;> exact ⟨owned, rfl, rfl, rfl⟩

theorem SameRows.figures (same : SameRows db mid) : SameFigures orderId db mid :=
  SameFigures.of_same (same _ (by decide))

theorem Transitioned.apart {id : Nat} {placed : ExecutionOrder} {sku : String}
    {action : ProductionAction} {sent : List DomainEvent}
    (transitioned : Transitioned command id placed sku db db' action sent) (other : orderId ≠ id) :
    SameFigures orderId db db' ∧ SameHolds orderId db db' := by
  cases transitioned with
  | released _ _ thawed run onPool _ kept =>
      refine ⟨SameFigures.of_same (kept _ (by decide)), ?_⟩
      intro key row holds
      exact moves_otherHolds run (fun move member => (onPool move member).thawed thawed) other holds
  | started _ _ kept =>
      exact ⟨SameFigures.of_same (kept _ (by decide)), SameHolds.of_same (kept _ (by decide))⟩
  | reported begins reported ends =>
      refine ⟨(begins.figures.trans (reported.otherFigures other)).trans ends.figures, ?_⟩
      intro key row holds
      rw [ends _ (by decide), ← begins inventoryReservations (by decide)]
      exact moves_otherHolds reported.run reported.onThawed other holds
  | completed begins reported completed reservations _ =>
      refine ⟨(begins.figures.trans (reported.otherFigures other)).trans
        completed.stored.figures, ?_⟩
      intro key row holds
      rw [reservations, ← begins inventoryReservations (by decide)]
      exact moves_otherHolds reported.run reported.onThawed other holds

theorem transitioned_freezes_iff {body : TransitionProductionOrder} {placed : ExecutionOrder}
    {sku : String} {sent : List DomainEvent}
    (found : (db executionOrders).find? body.id = some placed)
    (transitioned : Transitioned command body.id placed sku db db' body.action sent) :
    FreezesClosed db (.command ⟨command, .transitionProductionOrder body⟩) db' ↔
      ReportsOpen db (.command ⟨command, .transitionProductionOrder body⟩) := by
  have provided : (placed.status.running = false →
      SameFigures body.id db db' ∧ SameHolds body.id db db') →
      FreezesClosed db (.command ⟨command, .transitionProductionOrder body⟩) db' := by
    rintro own _ _ event orderId ⟨order, foundOrder, closed⟩
    cases event
    by_cases same : orderId = body.id
    · subst same
      rw [found] at foundOrder
      cases foundOrder
      exact own closed
    · exact transitioned.apart same
  obtain ⟨id, action⟩ := body
  dsimp only at found transitioned provided
  cases transitioned with
  | released running _ _ _ _ _ _ =>
      refine iff_of_true (provided ?_) trivial
      intro closed
      rw [running] at closed
      cases closed
  | started planned _ _ =>
      refine iff_of_true (provided ?_) trivial
      intro closed
      rw [planned] at closed
      cases closed
  | completed _ _ completed _ _ =>
      refine iff_of_true (provided ?_) trivial
      intro closed
      rw [completed.running] at closed
      cases closed
  | reported begins reported ends =>
      have restates : ∀ input, Restates _ input ↔ Restates db input :=
        fun input => Restates.congr (begins _ (by decide))
      constructor
      · intro freezes order foundOrder closed
        have figures := (freezes _ _ rfl id ⟨order, foundOrder, closed⟩).1
        have lines := reported.figures_iff.mp <| by
          refine SameFigures.congr ?_ ?_ figures
          · exact begins _ (by decide)
          · exact ends _ (by decide)
        exact fun input member => (restates input).mp (lines input member)
      · intro open'
        refine provided ?_
        intro closed
        have lines := fun input member =>
          (restates input).mpr (open' placed found closed input member)
        refine ⟨(begins.figures.trans (reported.figures_iff.mpr lines)).trans ends.figures, ?_⟩
        have still := congrArg Stock.reservations (reported.still lines)
        refine SameHolds.of_same ?_
        rw [ends _ (by decide), ← begins inventoryReservations (by decide)]
        exact still

/-! ## Every step -/

theorem step_freezes_iff (step : Step effects db event db') :
    FreezesClosed db event db' ↔ ReportsOpen db event := by
  obtain ⟨mid, work, apart⟩ := step.works
  have same : FreezesClosed db event db' ↔ FreezesClosed db event mid := by
    simp only [FreezesClosed, SameFigures, SameHolds, apart productionMaterialLines (by decide),
      apart inventoryReservations (by decide)]
  rw [same]
  have others : (∀ command body, event ≠ .command ⟨command, .transitionProductionOrder body⟩) →
      FreezesClosed db event mid := by
    intro none command body same
    exact absurd same (none command body)
  obtain ⟨command, body⟩ | _ := event
  · cases body with
    | transitionProductionOrder body =>
        obtain ⟨order, item, sent, found, -, transitioned⟩ := work_transitioned work
        exact transitioned_freezes_iff found transitioned
    | _ => exact iff_of_true (others (by simp)) trivial
  all_goals exact iff_of_true (others (by simp)) trivial

theorem foldl_insert_found {components : List (Nat × BomComponent)} (plannedQuantity : Int)
    (lines : Table ProductionMaterialLine) {key : Nat} {line : ProductionMaterialLine}
    (found : lines.find? key = some line) :
    (components.foldl
      (fun lines component => lines.insert (lineOf order plannedQuantity component))
      lines).find? key = some line := by
  induction components generalizing lines with
  | nil => exact found
  | cons component rest ih => exact ih _ (Table.find?_insert_of_some found)

theorem work_closed (work : Work effects db event db') (open' : ReportsOpen db event)
    (closed : Closed db orderId) : Closed db' orderId ∧ SameFigures orderId db db' := by
  obtain ⟨order, found, status⟩ := closed
  cases work_worked work with
  | created created _ =>
      refine ⟨⟨order, by rw [created.orders]; exact Table.find?_insert_of_some found, status⟩, ?_⟩
      intro key line foundLine owned
      refine ⟨line, ?_, owned, rfl, rfl, rfl⟩
      rw [created.lines]
      exact foldl_insert_found _ _ foundLine
  | @transitioned _ command body placed item sent foundOrder foundItem transitioned _ =>
      have freezes := (transitioned_freezes_iff foundOrder transitioned).mpr open'
      refine ⟨?_, (freezes command body rfl orderId ⟨order, found, status⟩).1⟩
      have apart : ∀ change, orderId ≠ body.id →
          ((db executionOrders).modify body.id change).find? orderId = some order := by
        intro change other
        rw [Table.find?_modify_ne _ _ other]
        exact found
      obtain ⟨id, action⟩ := body
      dsimp only at foundOrder transitioned apart
      have other : placed.status.running = true → orderId ≠ id := by
        rintro running rfl
        rw [found] at foundOrder
        cases foundOrder
        rw [running] at status
        cases status
      cases transitioned with
      | released _ _ _ _ _ _ kept => exact ⟨order, by rw [kept _ (by decide)]; exact found, status⟩
      | started planned orders _ =>
          refine ⟨order, ?_, status⟩
          rw [orders, apart _ (other (by rw [planned]; rfl))]
      | reported begins reported ends =>
          refine ⟨order, ?_, status⟩
          rw [ends _ (by decide), reported.kept _ (by decide), begins _ (by decide)]
          exact found
      | completed begins reported completed _ _ =>
          refine ⟨order, ?_, status⟩
          rw [completed.orders, reported.kept _ (by decide), begins _ (by decide),
            apart _ (other completed.running)]
  | @judged _ command body approval row judged =>
      constructor
      · by_cases same : orderId = row.report.executionOrderId
        · subst same
          refine ⟨_, by rw [judged.orders]; exact Table.find?_modify_self _ found, ?_⟩
          simp only [judgedOrder]
          split
          · rfl
          · split <;> rfl
        · exact ⟨order, by rw [judged.orders, Table.find?_modify_ne _ _ same]; exact found, status⟩
      · intro key line foundLine owned
        refine ⟨_, by rw [judged.lines, Table.find?_update, foundLine]; rfl, ?_⟩
        dsimp only
        split <;> exact ⟨owned, rfl, rfl, rfl⟩
  | elsewhere orders lines _ =>
      exact ⟨⟨order, by rw [orders]; exact found, status⟩, SameFigures.of_same lines⟩

/-- The runs in which no transition changes what belongs to a closed order are
the runs whose reports for closed orders repeat what stands, and along these
a closed order stays closed and keeps its figures. -/
theorem closed_frozen :
    Run (fun db event db' => Step effects db event db' ∧ ReportsOpen db event) opening events db ↔
      Run (fun db event db' => Step effects db event db' ∧ FreezesClosed db event db')
          opening events db ∧
        ∀ orderId, Closed opening orderId → Closed db orderId ∧ SameFigures orderId opening db := by
  constructor
  · intro run
    refine ⟨run.imp fun ⟨step, open'⟩ => ⟨step, (step_freezes_iff step).mpr open'⟩, ?_⟩
    intro orderId closed
    refine run.preserves
      (fun now => Closed now orderId ∧ SameFigures orderId opening now) ?_
      ⟨closed, SameFigures.refl _ _⟩
    rintro a event b ⟨step, open'⟩ ⟨still, figures⟩
    obtain ⟨mid, work, apart⟩ := step.works
    obtain ⟨⟨order, found, status⟩, later⟩ := work_closed work open' still
    refine ⟨⟨order, by rw [apart _ (by decide)]; exact found, status⟩, ?_⟩
    exact (figures.trans later).trans (SameFigures.of_same (apart _ (by decide)))
  · rintro ⟨run, -⟩
    exact run.imp fun ⟨step, freezes⟩ => ⟨step, (step_freezes_iff step).mp freezes⟩

/-! ## A report after the completion -/

/-- The order is closed, and the step changes what its line says was consumed. -/
def consumesClosed (db db' : Database) : Bool :=
  ((db executionOrders).find? 1).any (fun order => !order.status.running) &&
    ((db productionMaterialLines).find? 1).any fun line =>
      line.executionOrderId == 1 && ((db' productionMaterialLines).find? 1).any fun after =>
        after.consumedQuantity != line.consumedQuantity

/-- An order is completed short of its plan, and while its variance waits for a
decision five more parts are reported. -/
theorem closed_order_consumes :
    ∃ db db', Run (Step noProcurement) plannedDatabase
        ([plans 1 10, reserves 2 60, works 3 (.complete 8 [⟨1, 20, 20, 0⟩])].map .command) db ∧
      Step noProcurement db (.command (works 4 (.materials [⟨1, 25, 25, 0⟩]))) db' ∧
      ¬ FreezesClosed db (.command (works 4 (.materials [⟨1, 25, 25, 0⟩]))) db' := by
  obtain ⟨db, db', run, step, seen⟩ := replay_steps noProcurement
    [plans 1 10, reserves 2 60, works 3 (.complete 8 [⟨1, 20, 20, 0⟩])]
    (works 4 (.materials [⟨1, 25, 25, 0⟩])) plannedDatabase consumesClosed (by decide +kernel)
  refine ⟨db, db', run, step, ?_⟩
  intro freezes
  simp only [consumesClosed, Bool.and_eq_true, Option.any_eq_true, beq_iff_eq, bne_iff_ne,
    Bool.not_eq_true'] at seen
  obtain ⟨⟨order, found, closed⟩, line, foundLine, owned, after, foundAfter, changed⟩ := seen
  obtain ⟨same, foundSame, -, -, consumed, -⟩ :=
    (freezes _ _ rfl 1 ⟨order, found, closed⟩).1 1 line foundLine owned
  rw [foundAfter] at foundSame
  cases foundSame
  exact changed consumed

end SupplyChain.ProductionOrders
