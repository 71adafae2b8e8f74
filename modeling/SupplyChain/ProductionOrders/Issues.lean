import SupplyChain.ProductionOrders.Backing

/-!
The materials issued to an order: they stay backed by its reservations as long
as a report does not issue more than the pool holds for all lines of the sku
together, and nothing is released while something is issued. A line that is
backed can be reported again.
-/

namespace SupplyChain.ProductionOrders

open Relational Transaction TableName Stock

variable {effects : Approvals.ProcurementEffects} {command : CommandContext} {db db' : Database}
  {event : Event} {opening : Database} {events : List Event} {orderId order : Nat}
  {wanted : Option String}

/-- Reservations for orders and transitions of orders. -/
def onOrders : Event → Bool
  | .command ⟨_, .reserveInventory _⟩ | .command ⟨_, .transitionProductionOrder _⟩ => true
  | _ => false

/-- The component skus of the lines of an order. -/
def orderSkus (db : Database) (orderId : Nat) : List String :=
  ((db productionMaterialLines).select fun _ line => line.executionOrderId == orderId).filterMap
    fun r => ((db bomComponents).find? r.2.bomComponentId).map (·.componentSku)

/-- What the pool of an order holds of a sku or has given up to its lines. -/
def backing (db : Database) (orderId : Nat) (sku : String) : Int :=
  pool (stockOf db) orderId (some sku) + spentTotal db orderId (some sku)

/-- All lines of a sku together issue at most what backs them, and nothing is
released while something is issued. -/
def KeepsBacking (db : Database) : Event → Prop
  | .command ⟨_, .transitionProductionOrder ⟨id, .materials lines⟩⟩
  | .command ⟨_, .transitionProductionOrder ⟨id, .complete _ lines⟩⟩ =>
      ∀ sku ∈ orderSkus db id, issuedAfter db id (some sku) lines ≤ backing db id sku
  | .command ⟨_, .transitionProductionOrder ⟨id, .releaseMaterials⟩⟩ =>
      ∀ sku ∈ orderSkus db id, outstanding db id (some sku) ≤ 0
  | _ => True

/-- Nothing is issued on any line yet, and the reservations are in order. -/
structure OpeningIssues (db : Database) : Prop where
  unissued : ∀ id line, (db productionMaterialLines).find? id = some line →
    line.issuedQuantity = 0 ∧ line.consumedQuantity = 0 ∧ line.lossQuantity = 0
  linked : Linked (stockOf db)
  nonneg : NonnegReservations (stockOf db)

/-! ## The invariant -/

structure Backed (db : Database) : Prop where
  linked : Linked (stockOf db)
  nonneg : NonnegReservations (stockOf db)
  balanced : ∀ id line, (db productionMaterialLines).find? id = some line →
    spent line ≤ line.issuedQuantity
  backed : ∀ orderId sku,
    outstanding db orderId (some sku) ≤ pool (stockOf db) orderId (some sku)

theorem OpeningIssues.backed (opens : OpeningIssues opening) : Backed opening where
  linked := opens.linked
  nonneg := opens.nonneg
  balanced id line found := by
    obtain ⟨issued, consumed, loss⟩ := opens.unissued id line found
    simp [spent, issued, consumed, loss]
  backed orderId sku := by
    refine Int.le_trans (Int.le_of_eq ?_) (pool_nonneg opens.nonneg orderId (some sku))
    rw [outstanding, lineTotal]
    refine Table.weigh_zero ?_
    intro id line found
    obtain ⟨issued, consumed, loss⟩ := opens.unissued id line found
    simp [spent, issued, consumed, loss]

theorem lineTotal_elsewhere {sku : String} (absent : sku ∉ orderSkus db orderId)
    (weight : Nat → ProductionMaterialLine → Int) :
    lineTotal db orderId (some sku) weight = 0 := by
  refine Table.weigh_zero ?_
  intro id line found
  split
  · rename_i here
    obtain ⟨owned, onSku⟩ := here
    obtain ⟨component, foundComponent, same⟩ := Option.any_eq_true _ _ |>.mp onSku
    refine absurd ?_ absent
    refine List.mem_filterMap.mpr ⟨(id, line), ?_, ?_⟩
    · exact Table.mem_select.mpr ⟨found, by simpa using owned⟩
    · simp only [foundComponent, Option.map_some, Option.some.injEq]
      simpa [among] using same
  · rfl

theorem reports_balanced {inputs : List MaterialReport} {moves : List Move}
    (reported : ReportedAll order inputs moves db db')
    (balanced : ∀ id line, (db productionMaterialLines).find? id = some line →
      spent line ≤ line.issuedQuantity) :
    ∀ id line, (db' productionMaterialLines).find? id = some line →
      spent line ≤ line.issuedQuantity := by
  induction reported with
  | done => exact balanced
  | next first _ ih =>
      refine ih ?_
      intro id line found
      obtain ⟨deviationStatus, lines⟩ := first.lines
      rw [lines] at found
      rcases Table.find?_modify_cases found with ⟨rfl, old, -, rfl⟩ | ⟨-, old⟩
      · exact first.balanced
      · exact balanced id line old

theorem reports_backed {inputs : List MaterialReport} {moves : List Move} {sku : String}
    (reported : ReportedAll order inputs moves db db') (linked : Linked (stockOf db))
    (nonneg : NonnegReservations (stockOf db))
    (rule : ∀ sku ∈ orderSkus db order, issuedAfter db order (some sku) inputs ≤ backing db order sku)
    (backed : ∀ orderId sku,
      outstanding db orderId (some sku) ≤ pool (stockOf db) orderId (some sku)) :
    outstanding db' orderId (some sku) ≤ pool (stockOf db') orderId (some sku) := by
  have conserved : pool (stockOf db') orderId (some sku) + spentTotal db' orderId (some sku) =
      pool (stockOf db) orderId (some sku) + spentTotal db orderId (some sku) :=
    reported.conserves linked
  by_cases same : orderId = order
  · subst same
    have issued := outstanding_eq db' orderId (some sku)
    rw [reported.issuedTotal] at issued
    have within : issuedAfter db orderId (some sku) inputs ≤ backing db orderId sku := by
      by_cases listed : sku ∈ orderSkus db orderId
      · exact rule sku listed
      · rw [issuedAfter, backing, spentTotal, lineTotal_elsewhere listed,
          lineTotal_elsewhere listed, Int.add_zero]
        exact pool_nonneg nonneg orderId (some sku)
    rw [backing] at within
    omega
  · have before := backed orderId sku
    rw [outstanding, reported.otherTotal same]
    rw [outstanding] at before
    rw [spentTotal, spentTotal, reported.otherTotal same] at conserved
    omega

/-! ## Steps -/

theorem Backed.still (backed : Backed db)
    (lines : db' productionMaterialLines = db productionMaterialLines)
    (components : db' bomComponents = db bomComponents)
    (linked : Linked (stockOf db')) (nonneg : NonnegReservations (stockOf db'))
    (grows : ∀ orderId sku, pool (stockOf db) orderId (some sku) ≤
      pool (stockOf db') orderId (some sku)) : Backed db' where
  linked := linked
  nonneg := nonneg
  balanced := by
    rw [lines]
    exact backed.balanced
  backed orderId sku := by
    rw [outstanding, lineTotal_congr lines components]
    exact Int.le_trans (backed.backed orderId sku) (grows orderId sku)

theorem Backed.reserved {body : Inventory.ReserveInventory} {batch : InventoryBatch}
    {priority : Int} (backed : Backed db) (reserved : Inventory.Reserved body batch priority db db')
    (lines : db' productionMaterialLines = db productionMaterialLines)
    (components : db' bomComponents = db bomComponents) : Backed db' := by
  refine backed.still lines components (reserved.moved.linked backed.linked)
    (reserved.moved.nonnegReservations backed.nonneg) ?_
  intro orderId sku
  rw [reserved.moved.pool backed.linked]
  have fresh : 0 ≤ (Inventory.reservationOf body priority batch).reservedQuantity := by
    have positive := reserved.positive
    simp only [Inventory.reservationOf]
    omega
  rw [Move.poolChange]
  split <;> omega

theorem Backed.released {rows : List PoolRow} {moves : List Move} (backed : Backed db)
    (run : Moves (stockOf db) moves (stockOf db'))
    (onPool : ∀ move ∈ moves, OnPool order rows move)
    (settled : ∀ sku ∈ orderSkus db order, outstanding db order (some sku) ≤ 0)
    (lines : db' productionMaterialLines = db productionMaterialLines)
    (components : db' bomComponents = db bomComponents) : Backed db' where
  linked := run.linked backed.linked
  nonneg := run.nonnegReservations backed.nonneg
  balanced := by
    rw [lines]
    exact backed.balanced
  backed orderId sku := by
    rw [outstanding, lineTotal_congr lines components, ← outstanding]
    by_cases same : orderId = order
    · subst same
      refine Int.le_trans ?_ (pool_nonneg (run.nonnegReservations backed.nonneg) orderId (some sku))
      by_cases listed : sku ∈ orderSkus db orderId
      · exact settled sku listed
      · rw [outstanding, lineTotal_elsewhere listed]
    · have elsewhere : ∀ move ∈ moves, move.poolChange orderId (some sku) = 0 := by
        intro move member
        obtain ⟨row, -, quantity, rfl | rfl⟩ := onPool move member
        · simp [Move.poolChange, Ne.symm same]
        · simp [Move.poolChange, Ne.symm same]
      rw [run.pool backed.linked, List.map_congr_left elsewhere]
      simpa using backed.backed orderId sku

theorem Backed.reports {inputs : List MaterialReport} {moves : List Move} (backed : Backed db)
    (reported : ReportedAll order inputs moves db db')
    (rule : ∀ sku ∈ orderSkus db order,
      issuedAfter db order (some sku) inputs ≤ backing db order sku) : Backed db' where
  linked := reported.linked backed.linked
  nonneg := reported.run.nonnegReservations backed.nonneg
  balanced := reports_balanced reported backed.balanced
  backed _ _ := reports_backed reported backed.linked backed.nonneg rule backed.backed

theorem Completed.lineTotal {id : Nat} {placed : ExecutionOrder} {sku : String} {actual : Int}
    {deviates pending : Bool}
    (completed : Completed command id placed sku actual deviates pending db db')
    (components : db' bomComponents = db bomComponents)
    {weight : Nat → ProductionMaterialLine → Int}
    (unread : ∀ key row, weight key { row with reservedQuantity := 0 } = weight key row) :
    ProductionOrders.lineTotal db' orderId wanted weight =
      ProductionOrders.lineTotal db orderId wanted weight := by
  cases completed.stored with
  | asked _ _ _ lines _ => exact lineTotal_congr lines components weight
  | empty _ _ _ lines _ => exact lineTotal_congr lines components weight
  | stored _ _ _ _ _ lines _ =>
      have same : ∀ line, lineOnSku db' wanted line = lineOnSku db wanted line := by
        intro line
        simp only [lineOnSku, components]
      simp only [ProductionOrders.lineTotal, same]
      rw [lines, Table.weigh_update]
      refine Table.weigh_congr ?_
      intro key row _
      by_cases here : (row.executionOrderId == id) = true
      · simp only [here, if_true, unread]
        rfl
      · simp only [here, Bool.false_eq_true, if_false]

theorem Backed.completed {id : Nat} {placed : ExecutionOrder} {sku : String} {actual : Int}
    {deviates pending : Bool} (backed : Backed db)
    (completed : Completed command id placed sku actual deviates pending db db')
    (reservations : db' inventoryReservations = db inventoryReservations)
    (components : db' bomComponents = db bomComponents) : Backed db' := by
  obtain ⟨moves, run, admits⟩ := completed.moves reservations
  refine
    { linked := run.linked backed.linked
      nonneg := run.nonnegReservations backed.nonneg
      balanced := ?_
      backed := ?_ }
  · intro key line found
    cases completed.stored with
    | asked _ _ _ lines _ => rw [lines] at found; exact backed.balanced key line found
    | empty _ _ _ lines _ => rw [lines] at found; exact backed.balanced key line found
    | stored _ _ _ _ _ lines _ =>
        rw [lines, Table.find?_update] at found
        obtain ⟨old, foundOld, rfl⟩ := Option.map_eq_some_iff.mp found
        have before := backed.balanced key old foundOld
        split
        · exact before
        · exact before
  · intro orderId sku
    have still : ∀ move ∈ moves, move.poolChange orderId (some sku) = 0 := by
      intro move member
      obtain ⟨reportId, warehouseId, rfl, -⟩ := admits move member
      rfl
    rw [outstanding, completed.lineTotal components (fun _ _ => rfl), ← outstanding,
      run.pool backed.linked, List.map_congr_left still]
    simpa using backed.backed orderId sku

theorem Backed.sameRows (backed : Backed db) (same : SameRows db db') : Backed db' := by
  refine backed.still (same _ (by decide)) (same _ (by decide)) ?_ ?_ ?_
  · rw [same.stock]
    exact backed.linked
  · rw [same.stock]
    exact backed.nonneg
  · intro orderId sku
    rw [same.stock]

theorem SameRows.within {lines : List MaterialReport} (same : SameRows db db')
    (rule : ∀ sku ∈ orderSkus db order,
      issuedAfter db order (some sku) lines ≤ backing db order sku) :
    ∀ sku ∈ orderSkus db' order,
      issuedAfter db' order (some sku) lines ≤ backing db' order sku := by
  intro sku listed
  rw [orderSkus, same _ (by decide), same _ (by decide)] at listed
  rw [issuedAfter, backing, spentTotal, same.lineTotal, same.lineTotal, same.stock]
  exact rule sku listed

theorem transition_backed {body : TransitionProductionOrder} {placed : ExecutionOrder}
    {item : OrderItem} {sent : List DomainEvent} (backed : Backed db)
    (transitioned : Transitioned command body.id placed item.sku db db' body.action sent)
    (rule : KeepsBacking db (.command ⟨command, .transitionProductionOrder body⟩))
    (components : db' bomComponents = db bomComponents) : Backed db' := by
  obtain ⟨id, action⟩ := body
  dsimp only at transitioned
  cases transitioned with
  | released running positive thawed run onPool sum kept =>
      exact backed.released run onPool rule (kept _ (by decide)) components
  | started planned orders kept =>
      refine backed.still (kept _ (by decide)) components ?_ ?_ ?_
      · rw [stockOf, kept _ (by decide), kept _ (by decide)]
        exact backed.linked
      · rw [stockOf, kept _ (by decide), kept _ (by decide)]
        exact backed.nonneg
      · intro orderId sku
        rw [stockOf, stockOf, kept _ (by decide), kept _ (by decide)]
  | reported begins reported ends =>
      exact ((backed.sameRows begins).reports reported (begins.within rule)).sameRows ends
  | completed begins reported completed reservations _ =>
      refine ((backed.sameRows begins).reports reported (begins.within rule)).completed completed
        reservations ?_
      rw [components, reported.kept _ (by decide), begins _ (by decide)]

theorem work_backed (work : Work effects db event db') (on : onOrders event = true)
    (rule : KeepsBacking db event) (backed : Backed db) : Backed db' := by
  cases work with
  | @command _ request reply sent returns =>
      obtain ⟨command, body⟩ := request
      cases body with
      | reserveInventory body =>
          simp only [runCommand, returns_widen] at returns
          obtain ⟨batch, priority, reserved, -⟩ := Inventory.reserveInventory_returns returns
          exact backed.reserved reserved (returns.unwritten _ (by decide))
            (returns.unwritten _ (by decide))
      | transitionProductionOrder body =>
          simp only [runCommand, returns_widen] at returns
          obtain ⟨placed, item, -, -, transitioned⟩ := transitionProductionOrder_returns returns
          exact transition_backed backed transitioned rule (returns.unwritten _ (by decide))
      | _ => cases on
  | _ => cases on

/-! ## Reporting a line again -/

/-- How a report is refused for want of reservations. -/
def backingRefusals : List String :=
  ["Issued quantity exceeds real inventory reservations", "Insufficient reserved inventory"]

theorem ne_backingRefusal {message other : String} (listed : message ∈ backingRefusals)
    (apart : other ∉ backingRefusals) : conflict other ≠ conflict message := by
  apply conflict_ne_conflict
  rintro rfl
  exact apart listed

theorem never_consumeFrom {message : String} (rows : List PoolRow) (remaining : Int) :
    Never (conflict message) (consumeFrom command rows remaining) := by
  induction rows generalizing remaining with
  | nil => exact never_pure
  | cons row rest ih =>
      refine never_ite (fun _ => never_pure) fun _ => ?_
      refine never_ite (fun _ => ih remaining) fun _ => ?_
      refine never_bind ?_ fun _ => ih _
      refine never_bind (never_updateRow versionConflict_ne_conflict) fun _ => ?_
      refine never_bind (never_updateRow versionConflict_ne_conflict) fun _ => ?_
      exact never_bind never_query fun _ => never_insertMovement

theorem consumeFrom_meets {rows : List PoolRow} {remaining left : Int} {sent : List DomainEvent}
    (nonneg : 0 ≤ remaining) (reserved : ∀ row ∈ rows, 0 ≤ row.reservedQuantity)
    (enough : remaining ≤ (rows.map (·.reservedQuantity)).sum)
    (returns : (consumeFrom command rows remaining).Returns db left sent db') : left = 0 := by
  induction rows generalizing db remaining sent with
  | nil =>
      obtain ⟨rfl, -, -⟩ := returns_pure.mp returns
      simp only [List.map_nil, List.sum_nil] at enough
      omega
  | cons row rest ih =>
      simp only [List.map_cons, List.sum_cons] at enough
      have reservedRest : ∀ row ∈ rest, 0 ≤ row.reservedQuantity :=
        fun other member => reserved other (List.mem_cons_of_mem _ member)
      have restNonneg : 0 ≤ (rest.map (·.reservedQuantity)).sum := by
        refine List.sum_nonneg ?_
        intro amount inside
        obtain ⟨other, member, rfl⟩ := List.mem_map.mp inside
        exact reservedRest other member
      unfold consumeFrom at returns
      rcases returns_ite.mp returns with ⟨-, returns⟩ | ⟨unmet, returns⟩
      · exact (returns_pure.mp returns).1
      · rcases returns_ite.mp returns with ⟨empty, returns⟩ | ⟨stocked, returns⟩
        · exact ih nonneg reservedRest (by omega) returns
        · obtain ⟨_, _, _, _, -, tail, -⟩ := returns_bind.mp returns
          exact ih (by omega) reservedRest (by omega) tail

theorem consumeReservedInventory_meets {message : String} {rows : List PoolRow} {quantity : Int}
    (reserved : ∀ row ∈ rows, 0 ≤ row.reservedQuantity)
    (enough : quantity ≤ (rows.map (·.reservedQuantity)).sum) :
    ¬ (consumeReservedInventory command rows quantity).Fails db (conflict message) := by
  intro failed
  unfold consumeReservedInventory at failed
  rcases fails_ite.mp failed with ⟨-, failed⟩ | ⟨positive, failed⟩
  · exact never_pure db failed
  · obtain ⟨left, _, mid, loop, failed⟩ := (never_consumeFrom rows quantity).continues failed
    have met := consumeFrom_meets (by omega) reserved enough loop
    exact (fails_refuseIf.mp failed).1 met

theorem never_lockActiveReservations {writes : List TableName} [Writes resourceVersions writes]
    {message : String} (listed : message ∈ backingRefusals) :
    Never (conflict message)
      (lockActiveReservations orderId wanted : Tx writes (List PoolRow)) := by
  refine never_bind never_query fun rows => never_bind ?_ fun _ => never_query
  refine never_forEach fun row _ => never_bind never_freezeExists fun _ => ?_
  exact never_refuseIf (ne_backingRefusal listed (by decide))

theorem Backed.line {id : Nat} {line : ProductionMaterialLine} {component : BomComponent}
    (backed : Backed db) (found : (db productionMaterialLines).find? id = some line)
    (foundComponent : (db bomComponents).find? line.bomComponentId = some component) :
    line.issuedQuantity - spent line ≤
      pool (stockOf db) line.executionOrderId (some component.componentSku) := by
  refine Int.le_trans ?_ (backed.backed line.executionOrderId component.componentSku)
  have onSku : lineOnSku db (some component.componentSku) line = true := by
    simp [lineOnSku, foundComponent, among]
  have part := Table.weight_le_weigh (fun _ row =>
    if row.executionOrderId = line.executionOrderId ∧
        lineOnSku db (some component.componentSku) row = true
    then row.issuedQuantity - spent row else 0) found (by
      intro key row present
      have balanced := backed.balanced key row present
      split <;> omega)
  simpa only [onSku, and_self, if_true, outstanding, lineTotal] using part

/-- A report of a line that keeps its issued quantity and consumes up to it. -/
structure ReportsAgain (db : Database) (orderId : Nat) (report : MaterialReport) : Prop where
  line : ∃ line, (db productionMaterialLines).find? report.id = some line ∧
    line.executionOrderId = orderId ∧ report.issuedQuantity = line.issuedQuantity ∧
    line.consumedQuantity ≤ report.consumedQuantity ∧ line.lossQuantity ≤ report.lossQuantity
  within : report.consumedQuantity + report.lossQuantity ≤ report.issuedQuantity

theorem updateMaterial_again {message : String} {report : MaterialReport} (backed : Backed db)
    (listed : message ∈ backingRefusals) (again : ReportsAgain db orderId report) :
    ¬ (updateMaterial command orderId report).Fails db (conflict message) := by
  intro failed
  obtain ⟨line, foundLine, rfl, issued, -, -⟩ := again.line
  have within := again.within
  have unbalanced : conflict "Material consumption and loss exceed issued quantity" ≠
      conflict message := ne_backingRefusal listed (by decide)
  have decreased : conflict "Material quantities cannot be decreased" ≠ conflict message :=
    ne_backingRefusal listed (by decide)
  simp only [updateMaterial, fails_bind_identifier, fails_bind_integer, fails_bind_refuseIf,
    fails_bind_query, fails_bind_orThrow, notFound_ne_conflict, unbalanced, decreased, foundLine,
    and_false, false_or, Option.bind_some, if_true, Option.map_eq_some_iff] at failed
  obtain ⟨-, -, -, -, -, _, ⟨component, foundComponent, rfl⟩, -, failed⟩ := failed
  obtain ⟨rows, _, mid, locks, failed⟩ := (never_lockActiveReservations listed).continues failed
  obtain ⟨-, rfl, -, kept⟩ := lockActiveReservations_returns locks
  have covered := backed.line foundLine foundComponent
  have reserved : ∀ row ∈ readReservationPool db line.executionOrderId (some component.componentSku),
      0 ≤ row.reservedQuantity := by
    intro row member
    obtain ⟨reservation, found, -, same, -⟩ := (mem_pool member).reservation
    rw [← same]
    exact backed.nonneg _ _ found
  simp only [spent] at covered
  simp only [fails_bind_refuseIf, pool_sum] at failed
  rcases failed with ⟨excess, -⟩ | ⟨-, failed⟩
  · omega
  · obtain ⟨_, _, last, -, failed⟩ := (never_updateRow versionConflict_ne_conflict).continues failed
    rcases fails_bind.mp failed with failed | ⟨_, _, _, -, failed⟩
    · refine consumeReservedInventory_meets reserved ?_ failed
      rw [pool_sum]
      omega
    · exact never_pure _ failed

/-- The command that reports such a line is not refused for want of
reservations. -/
theorem transition_again {message : String} {report : MaterialReport} (backed : Backed db)
    (listed : message ∈ backingRefusals) (again : ReportsAgain db orderId report) :
    ¬ (transitionProductionOrder command ⟨orderId, .materials [report]⟩).Fails db
      (conflict message) := by
  intro failed
  simp only [transitionProductionOrder, fails_bind_requireRole, fails_bind_identifier,
    fails_bind_query, fails_bind_orThrow, fails_bind_refuseIf, notFound_ne_conflict,
    forbidden_ne_conflict, and_false, false_or] at failed
  obtain ⟨-, -, ⟨placed, sku⟩, -, -, failed⟩ := failed
  obtain ⟨version, start, begins, failed⟩ := continues_lockVersion failed
  have againStart : ReportsAgain start orderId report := by
    refine ⟨?_, again.within⟩
    rw [begins _ (by decide)]
    exact again.line
  rcases fails_bind.mp failed with failed | ⟨deviates, _, mid, -, failed⟩
  · change (updateMaterials command orderId [report]).Fails start (conflict message) at failed
    rcases fails_bind.mp failed with failed | ⟨flags, _, _, -, failed⟩
    · rcases fails_bind.mp failed with failed | ⟨flag, _, _, -, failed⟩
      · exact updateMaterial_again (backed.sameRows begins) listed againStart failed
      · exact never_bind never_pure (fun _ => never_pure) _ failed
    · exact never_pure _ failed
  · refine never_bind ?_ (fun _ => never_bind never_domainEvent fun _ => never_pure) _ failed
    exact never_bumpVersion

/-! ## Runs -/

/-- Issued materials are backed, and what is issued can be reported again. -/
structure IssuesBacked (db : Database) : Prop where
  backed : ∀ orderId sku,
    outstanding db orderId (some sku) ≤ pool (stockOf db) orderId (some sku)
  again : ∀ command orderId report, ReportsAgain db orderId report →
    ∀ message ∈ backingRefusals,
      ¬ (transitionProductionOrder command ⟨orderId, .materials [report]⟩).Fails db
        (conflict message)

theorem Backed.apart (backed : Backed db) (apart : ApartFromOutbox db db') : Backed db' := by
  have stock : stockOf db' = stockOf db := by
    simp only [stockOf, apart inventoryBatches (by decide), apart inventoryReservations (by decide)]
  refine backed.still (apart _ (by decide)) (apart _ (by decide)) ?_ ?_ ?_
  · rw [stock]
    exact backed.linked
  · rw [stock]
    exact backed.nonneg
  · intro orderId sku
    rw [stock]

/-- In every run of reservations and transitions of orders whose reports issue
what the reservations back, and which releases nothing that is issued, the
issued materials stay backed. -/
theorem issues_backed (opens : OpeningIssues opening)
    (run : Run (fun db event db' => Step effects db event db' ∧
      (onOrders event = true ∧ KeepsBacking db event)) opening events db) :
    IssuesBacked db := by
  have backed := run.preserves Backed
    (fun ruled backed => ruled.1.preserves Backed (fun apart backed => backed.apart apart)
      fun work => work_backed work ruled.2.1 ruled.2.2 backed) opens.backed
  exact ⟨backed.backed, fun _ _ _ again _ listed => transition_again backed listed again⟩

/-! ## An order to replay -/

instance (db : Database) (event : Event) : Decidable (KeepsBacking db event) := by
  unfold KeepsBacking
  split <;> infer_instance

/-- The planned order with its material line, as its creation leaves them. -/
def createdDatabase : Database :=
  (plannedDatabase.put executionOrders (Table.empty.insert
      { executionNo := "MO", orderItemId := 1, factoryId := 1, bomId := 1, plannedQuantity := 10
        completedQuantity := 0, status := .planned })).put
    productionMaterialLines (Table.empty.insert
      { executionOrderId := 1, bomComponentId := 1, theoreticalQuantity := 20
        reservedQuantity := 20, issuedQuantity := 0, consumedQuantity := 0, lossQuantity := 0
        deviationStatus := .withinTolerance })

theorem createdDatabase_opens : OpeningIssues createdDatabase where
  unissued id line found := by
    rw [Table.find?_single found]
    exact ⟨rfl, rfl, rfl⟩
  linked id row found := by cases found
  nonneg id row found := by cases found

theorem consumed_issues_backed :
    ∃ db, outstanding db 1 (some "PART") = 5 ∧ IssuesBacked db := by
  obtain ⟨db, run, five⟩ := replayUnder_reaches noProcurement
    (fun db event => onOrders event = true ∧ KeepsBacking db event)
    [reserves 1 20, works 2 .start, works 3 (.materials [⟨1, 10, 2, 1⟩, ⟨1, 20, 14, 1⟩])]
    createdDatabase (fun db => outstanding db 1 (some "PART") == 5) (by decide +kernel)
  exact ⟨db, by simpa using five, issues_backed createdDatabase_opens run⟩

/-- A release after an issue leaves the issued material without a reservation. -/
theorem released_issue :
    OpeningIssues createdDatabase ∧ ∃ db,
      Run (fun db event db' => Step noProcurement db event db' ∧ onOrders event = true)
        createdDatabase
        ([reserves 1 20, works 2 (.materials [⟨1, 20, 0, 0⟩]), works 3 .releaseMaterials].map
          .command) db ∧
      ¬ IssuesBacked db := by
  obtain ⟨db, run, bare⟩ := replayUnder_reaches noProcurement (fun _ event => onOrders event = true)
    [reserves 1 20, works 2 (.materials [⟨1, 20, 0, 0⟩]), works 3 .releaseMaterials]
    createdDatabase (fun db => decide
      (pool (stockOf db) 1 (some "PART") < outstanding db 1 (some "PART"))) (by decide +kernel)
  refine ⟨createdDatabase_opens, db, run, ?_⟩
  intro backed
  have covered := backed.backed 1 "PART"
  have short := of_decide_eq_true bare
  omega

end SupplyChain.ProductionOrders
