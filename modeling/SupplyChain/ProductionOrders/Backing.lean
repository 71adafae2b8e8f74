import SupplyChain.ProductionOrders.Reports
import SupplyChain.Stock.Steps
import SupplyChain.Platform.Refusals

/-!
The materials of an order and its reservations: what its lines used up and what
its pool holds change together in a report, so that what is left in the pool
after a list of reports is known from the list.
-/

namespace SupplyChain.ProductionOrders

open Relational Transaction TableName Stock

variable {effects : Approvals.ProcurementEffects} {command : CommandContext} {db db' : Database}
  {event : Event} {opening : Database} {events : List Event} {orderId order : Nat}
  {wanted : Option String}

/-! ## Totals over the lines of an order -/

/-- What was used up on a line. -/
def spent (line : ProductionMaterialLine) : Int :=
  line.consumedQuantity + line.lossQuantity

/-- Whether the component of a line is the one asked for. -/
def lineOnSku (db : Database) (wanted : Option String) (line : ProductionMaterialLine) : Bool :=
  ((db bomComponents).find? line.bomComponentId).any fun component =>
    among wanted component.componentSku

/-- A total over the material lines of an order. -/
def lineTotal (db : Database) (orderId : Nat) (wanted : Option String)
    (weight : Nat → ProductionMaterialLine → Int) : Int :=
  (db productionMaterialLines).weigh fun id line =>
    if line.executionOrderId = orderId ∧ lineOnSku db wanted line = true then weight id line else 0

/-- A quantity of a line after a list of reports: the last of them that is on
the line says it. -/
def latest (quantity : MaterialReport → Int) : List MaterialReport → Nat → Int → Int
  | [], _, stored => stored
  | report :: rest, id, stored =>
      latest quantity rest id (if id = report.id then quantity report else stored)

def MaterialReport.spent (report : MaterialReport) : Int :=
  report.consumedQuantity + report.lossQuantity

/-- What an order used up of a component. -/
def spentTotal (db : Database) (orderId : Nat) (wanted : Option String) : Int :=
  lineTotal db orderId wanted fun _ line => spent line

/-- What an order will have used up of a component after a list of reports. -/
def spentAfter (db : Database) (orderId : Nat) (wanted : Option String)
    (reports : List MaterialReport) : Int :=
  lineTotal db orderId wanted fun id line => latest MaterialReport.spent reports id (spent line)

/-- What an order will have been issued of a component after a list of reports. -/
def issuedAfter (db : Database) (orderId : Nat) (wanted : Option String)
    (reports : List MaterialReport) : Int :=
  lineTotal db orderId wanted fun id line =>
    latest (·.issuedQuantity) reports id line.issuedQuantity

/-- What was issued to an order of a component and is not used up. -/
def outstanding (db : Database) (orderId : Nat) (wanted : Option String) : Int :=
  lineTotal db orderId wanted fun _ line => line.issuedQuantity - spent line

theorem lineTotal_congr (lines : db' productionMaterialLines = db productionMaterialLines)
    (components : db' bomComponents = db bomComponents)
    (weight : Nat → ProductionMaterialLine → Int) :
    lineTotal db' orderId wanted weight = lineTotal db orderId wanted weight := by
  have same : ∀ line, lineOnSku db' wanted line = lineOnSku db wanted line := by
    intro line
    simp only [lineOnSku, components]
  simp only [lineTotal, lines, same]

theorem SameRows.lineTotal {mid : Database} (same : SameRows db mid)
    (weight : Nat → ProductionMaterialLine → Int) :
    ProductionOrders.lineTotal mid orderId wanted weight =
      ProductionOrders.lineTotal db orderId wanted weight :=
  lineTotal_congr (same _ (by decide)) (same _ (by decide)) weight

theorem SameRows.any_deviating {mid : Database} (same : SameRows db mid)
    (reports : List MaterialReport) :
    reports.any (deviating mid) = reports.any (deviating db) := by
  congr 1
  funext report
  simp only [deviating, same productionMaterialLines (by decide), same bomComponents (by decide)]

theorem outstanding_eq (db : Database) (orderId : Nat) (wanted : Option String) :
    outstanding db orderId wanted + spentTotal db orderId wanted =
      issuedAfter db orderId wanted [] := by
  simp only [outstanding, spentTotal, issuedAfter, lineTotal, latest, ← Table.weigh_add]
  refine Table.weigh_congr ?_
  intro id line _
  split <;> omega

/-! ## One report -/

section

variable {input : MaterialReport} {line : ProductionMaterialLine} {component : BomComponent}
  {moves : List Move}

theorem Reported.lineOnSku (reported : Reported order input line component moves db db')
    (row : ProductionMaterialLine) (wanted : Option String) :
    ProductionOrders.lineOnSku db' wanted row = ProductionOrders.lineOnSku db wanted row := by
  simp only [ProductionOrders.lineOnSku, reported.kept bomComponents (by decide)]

theorem Reported.lineTotal (reported : Reported order input line component moves db db')
    {before after : Nat → ProductionMaterialLine → Int}
    (same : ∀ id row deviationStatus, after id (if id = input.id then { row with
        issuedQuantity := input.issuedQuantity, consumedQuantity := input.consumedQuantity
        lossQuantity := input.lossQuantity, deviationStatus } else row) = before id row) :
    ProductionOrders.lineTotal db' orderId wanted after =
      ProductionOrders.lineTotal db orderId wanted before := by
  obtain ⟨deviationStatus, lines⟩ := reported.lines
  simp only [ProductionOrders.lineTotal, reported.lineOnSku]
  rw [lines, Table.modify, Table.weigh_update]
  refine Table.weigh_congr ?_
  intro id row _
  rw [← same id row deviationStatus]
  by_cases here : id = input.id
  · simp [here, ProductionOrders.lineOnSku]
  · simp [here]

theorem Reported.spentTotal (reported : Reported order input line component moves db db') :
    ProductionOrders.spentTotal db' orderId wanted =
      ProductionOrders.spentTotal db orderId wanted +
        (if order = orderId ∧ among wanted component.componentSku = true then
          input.spent - spent line else 0) := by
  obtain ⟨deviationStatus, lines⟩ := reported.lines
  simp only [ProductionOrders.spentTotal, ProductionOrders.lineTotal, reported.lineOnSku]
  rw [lines, Table.weigh_modify reported.foundLine]
  congr 1
  simp only [ProductionOrders.lineOnSku, reported.foundComponent, Option.any_some, reported.owned,
    spent, MaterialReport.spent]
  split <;> omega

/-- A report leaves the totals of other orders as they were. -/
theorem Reported.otherTotal (reported : Reported order input line component moves db db')
    (other : orderId ≠ order) (weight : Nat → ProductionMaterialLine → Int) :
    ProductionOrders.lineTotal db' orderId wanted weight =
      ProductionOrders.lineTotal db orderId wanted weight := by
  obtain ⟨deviationStatus, lines⟩ := reported.lines
  simp only [ProductionOrders.lineTotal, reported.lineOnSku]
  rw [lines, Table.weigh_modify reported.foundLine]
  have owned : line.executionOrderId ≠ orderId := by
    rw [reported.owned]
    exact fun same => other same.symm
  simp [owned]

theorem onPool_poolChange {move : Move} {sku : String}
    (onPool : OnPool order (readReservationPool db order (some sku)) move) :
    move.poolChange orderId wanted =
      if order = orderId ∧ among wanted sku = true then -taken move else 0 := by
  obtain ⟨row, member, quantity, label⟩ := onPool
  have same : row.sku = sku := by
    have wanted := (mem_pool member).wanted
    simpa [among] using wanted
  rcases label with rfl | rfl
  · simp only [Move.poolChange, same, taken]
  · simp only [Move.poolChange, same, taken]

theorem sum_poolChange {moves : List Move} {sku : String}
    (onPool : ∀ move ∈ moves, OnPool order (readReservationPool db order (some sku)) move) :
    (moves.map (Move.poolChange orderId wanted)).sum =
      if order = orderId ∧ among wanted sku = true then -(moves.map taken).sum else 0 := by
  induction moves with
  | nil => simp
  | cons move rest ih =>
      rw [List.map_cons, List.sum_cons, List.map_cons, List.sum_cons,
        onPool_poolChange (onPool move List.mem_cons_self),
        ih fun other member => onPool other (List.mem_cons_of_mem _ member)]
      split <;> omega

/-- The pool and what is used up add up to what they did before the report. -/
theorem Reported.conserves (reported : Reported order input line component moves db db')
    (linked : Linked (stockOf db)) :
    pool (stockOf db') orderId wanted + ProductionOrders.spentTotal db' orderId wanted =
      pool (stockOf db) orderId wanted + ProductionOrders.spentTotal db orderId wanted := by
  rw [reported.run.pool linked, sum_poolChange reported.onPool, reported.used,
    reported.spentTotal]
  simp only [MaterialReport.spent, spent]
  split <;> omega

end

/-! ## A list of reports -/

section

variable {inputs : List MaterialReport} {moves : List Move}

theorem ReportedAll.linked (reported : ReportedAll order inputs moves db db')
    (linked : Linked (stockOf db)) : Linked (stockOf db') :=
  reported.run.linked linked

theorem ReportedAll.conserves (reported : ReportedAll order inputs moves db db')
    (linked : Linked (stockOf db)) :
    pool (stockOf db') orderId wanted + spentTotal db' orderId wanted =
      pool (stockOf db) orderId wanted + spentTotal db orderId wanted := by
  induction reported with
  | done => rfl
  | next first _ ih => rw [ih (first.run.linked linked), first.conserves linked]

theorem ReportedAll.otherTotal (reported : ReportedAll order inputs moves db db')
    (other : orderId ≠ order) (weight : Nat → ProductionMaterialLine → Int) :
    lineTotal db' orderId wanted weight = lineTotal db orderId wanted weight := by
  induction reported with
  | done => rfl
  | next first _ ih => rw [ih, first.otherTotal other]

/-- The last reports on the lines say what is written on them in the end. -/
theorem ReportedAll.latest (reported : ReportedAll order inputs moves db db')
    {quantity : MaterialReport → Int} (stored : ProductionMaterialLine → Int)
    (written : ∀ (row : ProductionMaterialLine) (report : MaterialReport) (deviationStatus),
      stored { row with
        issuedQuantity := report.issuedQuantity, consumedQuantity := report.consumedQuantity
        lossQuantity := report.lossQuantity, deviationStatus } = quantity report) :
    lineTotal db' orderId wanted (fun _ row => stored row) =
      lineTotal db orderId wanted fun id row =>
        ProductionOrders.latest quantity inputs id (stored row) := by
  induction reported with
  | done => rfl
  | @next _ _ _ input _ _ _ _ _ first _ ih =>
      rw [ih]
      refine first.lineTotal ?_
      intro id row deviationStatus
      by_cases here : id = input.id
      · simp only [ProductionOrders.latest, here, if_true, written]
      · simp only [ProductionOrders.latest, here, if_false]

theorem ReportedAll.spentTotal (reported : ReportedAll order inputs moves db db') :
    ProductionOrders.spentTotal db' orderId wanted = spentAfter db orderId wanted inputs :=
  reported.latest spent fun _ _ _ => rfl

theorem ReportedAll.issuedTotal (reported : ReportedAll order inputs moves db db') :
    issuedAfter db' orderId wanted [] = issuedAfter db orderId wanted inputs :=
  reported.latest (fun row => row.issuedQuantity) fun _ _ _ => rfl

end

end SupplyChain.ProductionOrders
