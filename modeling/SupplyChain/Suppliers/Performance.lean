import SupplyChain.Shipments.Outcomes
import SupplyChain.Calendar.Timestamps

/-!
The delivery half of the supplier performance: the delivery batches that are
read for a quarter, by the texts of their planned dates, and what is counted of
them, by the days of those dates in Shanghai.
-/

namespace SupplyChain.Suppliers

open Relational Transaction TableName
open Calendar (Date Zone)

/-! ## Dates -/

/-- What the runtime says of dates: the instant of a text that is no timestamp,
and the zone Asia/Shanghai. -/
structure Dates where
  other : String → Option Int
  shanghai : Zone

/-- `new Date(value)`, where it is a date. -/
def newDate (dates : Dates) (value : String) : Option Int :=
  match Calendar.timestamp? value with
  | some stamp => some stamp.time
  | none => dates.other value

/-- The parts that the formatter shows; `Date.shown` joins them. -/
def localDate (dates : Dates) (value : String) : Option Date :=
  (newDate dates value).map fun time => Calendar.shownDate (dates.shanghai.day time)

def quarterFromDate (date : Date) : String :=
  toString date.year ++ "-Q" ++ toString ((date.month - 1) / 3 + 1)

/-- A text `/^\d{4}-Q[1-4]$/u`. -/
structure Quarter where
  year : Nat
  number : Nat
  fits : year < 10000
  counted : 1 ≤ number ∧ number ≤ 4
  deriving DecidableEq

def Quarter.text (quarter : Quarter) : String :=
  String.ofList (Calendar.fourDigits quarter.year) ++ "-Q" ++ toString quarter.number

def Quarter.startInclusive (quarter : Quarter) : String :=
  Date.text ⟨quarter.year, (quarter.number - 1) * 3 + 1, 1⟩

/-- `padStart` leaves the year 10000 as it is. -/
def Quarter.endExclusive (quarter : Quarter) : String :=
  if quarter.number < 4 then Date.text ⟨quarter.year, quarter.number * 3 + 1, 1⟩
  else if quarter.year < 9999 then Date.text ⟨quarter.year + 1, 1, 1⟩
  else "10000-01-01"

/-! ## What is read -/

inductive PerformanceError
  | invalidData
  deriving DecidableEq

structure PerformanceDeliveryRow where
  plannedShipAt : String
  shippedAt : Option String
  supplierId : Option Nat

def supplierLimit : Nat := 500

def deliveryLimit : Nat := 20000

/-- `ORDER BY … LIMIT`: the rows with fewer than so many before them. -/
def limited {α : Type} (before : α → α → Bool) (limit : Nat) (rows : List α) : List α :=
  rows.filter fun row => decide (rows.countP (fun other => before other row) < limit)

/-- `status = 'active' AND tier IN (1, 2, 3)`, and the tier that is asked for. -/
def inScope (tier : Option Int) (supplier : Supplier) : Bool :=
  supplier.active && supplier.tier.any (fun own => decide (1 ≤ own ∧ own ≤ 3)) &&
    tier.all fun asked => supplier.tier == some asked

/-- `ORDER BY updated_at DESC, id DESC`; `updatedAt` is the column. -/
def visibleSuppliers (updatedAt : Nat → Nat) (db : Database) (tier : Option Int) :
    List (Nat × Supplier) :=
  limited (fun a b => decide (updatedAt b.1 < updatedAt a.1 ∨
    updatedAt a.1 = updatedAt b.1 ∧ b.1 < a.1)) supplierLimit
      ((db suppliers).select fun _ supplier => inScope tier supplier)

def visibleSupplierIds (updatedAt : Nat → Nat) (db : Database) (tier : Option Int) : List Nat :=
  (visibleSuppliers updatedAt db tier).map (·.1)

/-- `items.supplier_id`, through the execution order. -/
def supplierOf (db : Database) (id : Nat) : Option Nat :=
  (Shipments.shipmentRow db id).bind fun row => row.item.supplierId

/-- The dates are compared as texts. -/
def inRange (quarter : Quarter) (batch : DeliveryBatch) : Bool :=
  decide (quarter.startInclusive ≤ batch.plannedShipAt ∧ batch.plannedShipAt < quarter.endExclusive)

/-- The batches of visible suppliers in the range. -/
def quarterBatches (updatedAt : Nat → Nat) (db : Database) (quarter : Quarter)
    (tier : Option Int) : List (Nat × DeliveryBatch) :=
  (db deliveryBatches).select fun id batch => inRange quarter batch &&
    (supplierOf db id).any fun supplier => (visibleSupplierIds updatedAt db tier).contains supplier

/-- `ORDER BY batches.id DESC` -/
def deliveryRows (updatedAt : Nat → Nat) (db : Database) (quarter : Quarter)
    (tier : Option Int) : List (Nat × DeliveryBatch) :=
  limited (fun a b => decide (b.1 < a.1)) deliveryLimit (quarterBatches updatedAt db quarter tier)

def performanceDelivery (db : Database) (row : Nat × DeliveryBatch) : PerformanceDeliveryRow where
  plannedShipAt := row.2.plannedShipAt
  shippedAt := row.2.shippedAt
  supplierId := supplierOf db row.1

/-! ## What is counted -/

structure DeliveryStats where
  onTime : Nat
  total : Nat
  deriving DecidableEq

def plannedDateOf (dates : Dates) (plannedShipAt : String) : Except PerformanceError Date :=
  match localDate dates plannedShipAt with
  | some date => .ok date
  | none => .error .invalidData

def shippedDateOf (dates : Dates) : Option String → Except PerformanceError (Option Date)
  | none => .ok none
  | some shippedAt =>
      match localDate dates shippedAt with
      | some date => .ok (some date)
      | none => .error .invalidData

/-- What the loop makes of a row: it is skipped, or it counts for its supplier,
on time or not. -/
def evaluateDelivery (dates : Dates) (quarter : Quarter) (today : String)
    (row : PerformanceDeliveryRow) : Except PerformanceError (Option (Nat × Bool)) :=
  match row.supplierId with
  | none => .ok none
  | some supplierId => do
      let plannedDate ← plannedDateOf dates row.plannedShipAt
      if quarterFromDate plannedDate ≠ quarter.text then return none
      else do
        let shippedDate ← shippedDateOf dates row.shippedAt
        if shippedDate = none ∧ today ≤ plannedDate.shown then return none
        else
          return some (supplierId, shippedDate.map Date.shown == some plannedDate.shown)

abbrev DeliveryBySupplier := Nat → Option DeliveryStats

def countDelivery (stats : DeliveryBySupplier) : Option (Nat × Bool) → DeliveryBySupplier
  | none => stats
  | some (supplierId, onTime) =>
      let own := (stats supplierId).getD ⟨0, 0⟩
      Function.update stats supplierId
        (some ⟨if onTime then own.onTime + 1 else own.onTime, own.total + 1⟩)

/-- The loop of `performanceResponse` over the deliveries. -/
def deliveryBySupplier (dates : Dates) (quarter : Quarter) (today : String) :
    List PerformanceDeliveryRow → DeliveryBySupplier → Except PerformanceError DeliveryBySupplier
  | [], stats => .ok stats
  | row :: rest, stats => do
      let evaluated ← evaluateDelivery dates quarter today row
      deliveryBySupplier dates quarter today rest (countDelivery stats evaluated)

def readPerformance (dates : Dates) (updatedAt : Nat → Nat) (db : Database) (quarter : Quarter)
    (tier : Option Int) (today : String) : Except PerformanceError DeliveryBySupplier :=
  deliveryBySupplier dates quarter today
    ((deliveryRows updatedAt db quarter tier).map (performanceDelivery db)) fun _ => none

end SupplyChain.Suppliers
