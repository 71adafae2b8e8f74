import SupplyChain.Suppliers.Punctuality

/-!
The ranking answers as long as no delivery batch brings a date that it reads and
cannot be a date. Planning and dispatch take any text, so this is a condition on
what they name.
-/

namespace SupplyChain.Suppliers

open Relational Transaction TableName

variable {effects : Approvals.ProcurementEffects} {dates : Dates} {opening db db' : Database}
  {event : Event} {events : List Event}

/-- The dates that the read of a quarter comes upon are dates: the planned one where
the text lies in the range, and then the shipped one where the day does. -/
def Answerable (dates : Dates) (batch : DeliveryBatch) : Prop :=
  ∀ quarter, inRange quarter batch = true →
    ∃ plannedDate, localDate dates batch.plannedShipAt = some plannedDate ∧
      (quarterFromDate plannedDate = quarter.text →
        ∀ shippedAt ∈ batch.shippedAt, ∃ shippedDate, localDate dates shippedAt = some shippedDate)

def AllAnswerable (dates : Dates) (db : Database) : Prop :=
  ∀ id batch, (db deliveryBatches).find? id = some batch → Answerable dates batch

/-- A planning names a date, or a text that no quarter reads; a dispatch names one
unless its delivery batch is in no quarter. -/
def NamesDates (dates : Dates) (db : Database) : Event → Prop
  | .command ⟨_, .shipmentCommand (.create body)⟩ =>
      Answerable dates (Shipments.deliveryOf body)
  | .command ⟨_, .shipmentCommand (.ship body)⟩ =>
      ∀ batch, (db deliveryBatches).find? body.deliveryBatchId = some batch →
        Answerable dates { batch with shippedAt := some (trim body.shippedAt) }
  | _ => True

/-! ## What an answerable batch gives -/

theorem Answerable.evaluates {batch : DeliveryBatch} (answerable : Answerable dates batch)
    {quarter : Quarter} (range : inRange quarter batch = true) (supplierId : Option Nat)
    (today : String) : ∃ evaluated, evaluateDelivery dates quarter today
      ⟨batch.plannedShipAt, batch.shippedAt, supplierId⟩ = .ok evaluated := by
  obtain ⟨plannedDate, planned, shipped⟩ := answerable quarter range
  cases supplierId with
  | none => exact ⟨none, rfl⟩
  | some supplierId =>
      simp only [evaluateDelivery, plannedDateOf, planned, bind, Except.bind, pure, Except.pure]
      by_cases here : quarterFromDate plannedDate = quarter.text
      · rw [if_neg (not_not_intro here)]
        have read : ∃ shippedDate, shippedDateOf dates batch.shippedAt = .ok shippedDate := by
          cases at_ : batch.shippedAt with
          | none => exact ⟨none, rfl⟩
          | some shippedAt =>
              obtain ⟨shippedDate, day⟩ := shipped here shippedAt at_
              exact ⟨some shippedDate, by simp only [shippedDateOf, day]⟩
        obtain ⟨shippedDate, read⟩ := read
        rw [read]
        dsimp only
        by_cases early : shippedDate = none ∧ today ≤ plannedDate.shown
        · exact ⟨none, if_pos early⟩
        · exact ⟨_, if_neg early⟩
      · rw [if_pos here]
        exact ⟨none, rfl⟩

theorem AllAnswerable.readable (all : AllAnswerable dates db) (updatedAt : Nat → Nat)
    (tier : Option Int) (today : String) (quarter : Quarter) :
    Readable dates updatedAt db tier today quarter := by
  rintro ⟨id, batch⟩ member
  obtain ⟨found, range, -, -⟩ := mem_deliveryRows.mp member
  exact (all id batch found).evaluates range (supplierOf db id) today

/-! ## Runs -/

theorem answerable_dated {batch : DeliveryBatch}
    (planned : (localDate dates batch.plannedShipAt).isSome = true)
    (shipped : ∀ shippedAt ∈ batch.shippedAt, (localDate dates shippedAt).isSome = true) :
    Answerable dates batch := by
  intro quarter _
  obtain ⟨plannedDate, day⟩ := Option.isSome_iff_exists.mp planned
  refine ⟨plannedDate, day, fun _ shippedAt member => ?_⟩
  exact Option.isSome_iff_exists.mp (shipped shippedAt member)

/-- Every date that a planning or a dispatch names, and that of its delivery batch. -/
def Dated (dates : Dates) (db : Database) : Event → Prop
  | .command ⟨_, .shipmentCommand (.create body)⟩ =>
      (localDate dates (trim body.plannedShipAt)).isSome = true
  | .command ⟨_, .shipmentCommand (.ship body)⟩ =>
      (localDate dates (trim body.shippedAt)).isSome = true ∧
        ((db deliveryBatches).find? body.deliveryBatchId).all (fun batch =>
          (localDate dates batch.plannedShipAt).isSome) = true
  | _ => True

def datedTest (dates : Dates) (db : Database) : Event → Bool
  | .command ⟨_, .shipmentCommand (.create body)⟩ =>
      (localDate dates (trim body.plannedShipAt)).isSome
  | .command ⟨_, .shipmentCommand (.ship body)⟩ =>
      (localDate dates (trim body.shippedAt)).isSome &&
        ((db deliveryBatches).find? body.deliveryBatchId).all (fun batch =>
          (localDate dates batch.plannedShipAt).isSome)
  | _ => true

theorem datedTest_iff (dates : Dates) (db : Database) (event : Event) :
    datedTest dates db event = true ↔ Dated dates db event := by
  cases event with
  | command request =>
      obtain ⟨_, body⟩ := request
      cases body with
      | shipmentCommand request =>
          cases request with
          | create body => simp only [datedTest, Dated]
          | ship body => simp only [datedTest, Dated, Bool.and_eq_true]
          | _ => simp only [datedTest, Dated]
      | _ => simp only [datedTest, Dated]
  | _ => simp only [datedTest, Dated]

instance (dates : Dates) (db : Database) (event : Event) : Decidable (Dated dates db event) :=
  decidable_of_iff _ (datedTest_iff dates db event)

theorem Dated.names (dated : Dated dates db event) : NamesDates dates db event := by
  unfold NamesDates
  split
  · rename_i body
    apply @answerable_dated dates (Shipments.deliveryOf body) dated
    intro shippedAt member
    cases member
  · rename_i body
    obtain ⟨shipped, planned⟩ := dated
    intro batch found
    rw [found] at planned
    apply @answerable_dated dates { batch with shippedAt := some (trim body.shippedAt) } planned
    intro shippedAt member
    cases member
    exact shipped
  · trivial

def refuses (dates : Dates) (quarter : Quarter) (today : String) (db : Database) : Bool :=
  match readPerformance dates (fun _ => 0) db quarter none today with
  | .error _ => true
  | .ok _ => false

end SupplyChain.Suppliers
