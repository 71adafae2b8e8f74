import SupplyChain.Suppliers.Performance
import SupplyChain.Shipments.Deviations

/-!
Whether the dispatch of a delivery batch and the performance of its supplier
judge the same day. The dispatch compares the days that the texts write, the
performance those of the instants in Shanghai, and the read for a quarter needs
both the written day and the day in Shanghai to lie in it.
-/

namespace SupplyChain.Suppliers

open Relational Transaction TableName
open Calendar (Date Timestamp Zone)

variable {dates : Dates} {updatedAt : Nat → Nat} {db db' : Database} {quarter other : Quarter}
  {tier : Option Int} {today : String} {id : Nat}

/-! ## What the loop counts -/

/-- How many of the rows count for a supplier, and pass a test. -/
def counted (dates : Dates) (quarter : Quarter) (today : String) (supplierId : Nat)
    (passes : Bool → Bool) (row : PerformanceDeliveryRow) : Bool :=
  match evaluateDelivery dates quarter today row with
  | .ok (some (supplier, onTime)) => supplier == supplierId && passes onTime
  | _ => false

theorem countDelivery_apply (stats : DeliveryBySupplier) (supplierId : Nat)
    (evaluated : Option (Nat × Bool)) :
    (countDelivery stats evaluated supplierId).getD ⟨0, 0⟩ =
      { onTime := ((stats supplierId).getD ⟨0, 0⟩).onTime +
          (if evaluated = some (supplierId, true) then 1 else 0)
        total := ((stats supplierId).getD ⟨0, 0⟩).total +
          (if evaluated.any (fun one => one.1 == supplierId) = true then 1 else 0) } := by
  cases evaluated with
  | none => simp [countDelivery]
  | some one =>
      obtain ⟨supplier, onTime⟩ := one
      by_cases same : supplier = supplierId
      · subst same
        cases onTime <;> simp [countDelivery]
      · have apart : supplierId ≠ supplier := fun equal => same equal.symm
        simp [countDelivery, Function.update_of_ne apart, same]

/-- Every row is readable, and the statistics of a supplier count its rows. -/
theorem deliveryBySupplier_counts {rows : List PerformanceDeliveryRow}
    {stats result : DeliveryBySupplier}
    (read : deliveryBySupplier dates quarter today rows stats = .ok result) :
    (∀ row ∈ rows, ∃ evaluated, evaluateDelivery dates quarter today row = .ok evaluated) ∧
      ∀ supplierId, (result supplierId).getD ⟨0, 0⟩ =
        { onTime := ((stats supplierId).getD ⟨0, 0⟩).onTime +
            rows.countP (counted dates quarter today supplierId fun onTime => onTime)
          total := ((stats supplierId).getD ⟨0, 0⟩).total +
            rows.countP (counted dates quarter today supplierId fun _ => true) } := by
  induction rows generalizing stats with
  | nil =>
      cases read
      exact ⟨fun row member => absurd member List.not_mem_nil, fun supplierId => by simp⟩
  | cons row rest ih =>
      cases here : evaluateDelivery dates quarter today row with
      | error error =>
          rw [deliveryBySupplier, here] at read
          cases read
      | ok evaluated =>
          rw [deliveryBySupplier, here] at read
          obtain ⟨readable, counts⟩ := ih read
          constructor
          · intro one member
            rcases List.mem_cons.mp member with rfl | member
            · exact ⟨evaluated, here⟩
            · exact readable one member
          · intro supplierId
            rw [counts supplierId, countDelivery_apply, List.countP_cons, List.countP_cons]
            simp only [counted, here]
            rcases evaluated with none | ⟨supplier, onTime⟩
            · simp
            · by_cases same : supplier = supplierId
              · cases onTime <;> simp [same] <;> omega
              · simp [same]

theorem deliveryBySupplier_total {rows : List PerformanceDeliveryRow} (stats : DeliveryBySupplier)
    (readable : ∀ row ∈ rows,
      ∃ evaluated, evaluateDelivery dates quarter today row = .ok evaluated) :
    ∃ result, deliveryBySupplier dates quarter today rows stats = .ok result := by
  induction rows generalizing stats with
  | nil => exact ⟨stats, rfl⟩
  | cons row rest ih =>
      obtain ⟨evaluated, here⟩ := readable row List.mem_cons_self
      rw [deliveryBySupplier, here]
      exact ih _ fun one member => readable one (List.mem_cons_of_mem _ member)

/-! ## When a row counts -/

/-- The delivery batch is shipped, or its day in Shanghai is past. -/
def Due (today : String) (plannedDate : Date) (row : PerformanceDeliveryRow) : Prop :=
  row.shippedAt.isSome = true ∨ plannedDate.shown < today

/-- A row counts for its quarter once it is due, if its dates can be read. -/
theorem evaluateDelivery_counts {row : PerformanceDeliveryRow} {supplierId : Nat}
    {plannedDate : Date} (supplied : row.supplierId = some supplierId)
    (planned : localDate dates row.plannedShipAt = some plannedDate)
    (due : Due today plannedDate row)
    (readable : ∃ evaluated, evaluateDelivery dates quarter today row = .ok evaluated) :
    (∃ onTime, evaluateDelivery dates quarter today row = .ok (some (supplierId, onTime))) ↔
      quarterFromDate plannedDate = quarter.text := by
  obtain ⟨evaluated, ran⟩ := readable
  rw [ran]
  simp only [evaluateDelivery, supplied, plannedDateOf, planned, bind, Except.bind, pure,
    Except.pure] at ran
  by_cases here : quarterFromDate plannedDate = quarter.text
  · refine iff_of_true ?_ here
    simp only [here, ne_eq, not_true_eq_false, if_false] at ran
    cases shipped : shippedDateOf dates row.shippedAt with
    | error error =>
        rw [shipped] at ran
        cases ran
    | ok shippedDate =>
        rw [shipped] at ran
        have counts : ¬ (shippedDate = none ∧ today ≤ plannedDate.shown) := by
          rintro ⟨rfl, early⟩
          rcases due with ships | past
          · unfold shippedDateOf at shipped
            cases when_ : row.shippedAt with
            | none =>
                rw [when_] at ships
                cases ships
            | some shippedAt =>
                rw [when_] at shipped
                dsimp only at shipped
                cases day : localDate dates shippedAt <;> rw [day] at shipped <;> cases shipped
          · exact absurd past (String.not_lt.mpr early)
        simp only [if_neg counts] at ran
        cases ran
        exact ⟨_, rfl⟩
  · refine iff_of_false ?_ here
    simp only [ne_eq, here, not_false_eq_true, if_true] at ran
    cases ran
    rintro ⟨onTime, same⟩
    cases same

/-- A shipped row of its quarter counts as on time when both days are shown alike. -/
theorem evaluateDelivery_onTime {plannedShipAt shippedAt : String} {supplierId : Nat}
    {plannedDate shippedDate : Date} (planned : localDate dates plannedShipAt = some plannedDate)
    (shipped : localDate dates shippedAt = some shippedDate)
    (here : quarterFromDate plannedDate = quarter.text) :
    evaluateDelivery dates quarter today ⟨plannedShipAt, some shippedAt, some supplierId⟩ =
        .ok (some (supplierId, true)) ↔ shippedDate.shown = plannedDate.shown := by
  simp [evaluateDelivery, plannedDateOf, planned, shippedDateOf, shipped, here, bind, Except.bind,
    pure, Except.pure]

/-! ## Quarters -/

theorem dash_not_mem_fourDigits (year : Nat) : '-' ∉ Calendar.fourDigits year := by
  have apart : ∀ value, '-' ≠ Calendar.digit value := by
    intro value same
    have digit := Calendar.isDigit_digit value
    rw [← same] at digit
    cases digit
  simp [Calendar.fourDigits, Calendar.twoDigits, apart]

theorem quarterFromDate_text {date : Date} : quarterFromDate date = quarter.text ↔
    date.year = quarter.year ∧ 1000 ≤ date.year ∧ (date.month - 1) / 3 + 1 = quarter.number := by
  have parts : "-Q".toList = ['-', 'Q'] := rfl
  have years := @Calendar.toString_fourDigits date.year quarter.year quarter.fits
  constructor
  · intro same
    have texts := congrArg String.toList same
    simp only [quarterFromDate, Quarter.text, String.toList_append, String.toList_ofList, parts,
      List.append_assoc, List.cons_append, List.nil_append] at texts
    obtain ⟨first, rest⟩ := fields_eq
      (separator_not_mem_toString (c := '-') (by decide) date.year)
      (dash_not_mem_fourDigits quarter.year) texts
    obtain ⟨sameYear, late⟩ := years.mp first
    have numbers := toString_injective (String.toList_inj.mp (List.cons.inj rest).2)
    exact ⟨sameYear, by omega, numbers⟩
  · rintro ⟨sameYear, late, sameNumber⟩
    have first := years.mpr ⟨sameYear, by omega⟩
    rw [quarterFromDate, Quarter.text, sameNumber, ← first, String.ofList_toList]

/-- The quarter of the day that is written. -/
def writtenQuarter (stamp : Timestamp) : Quarter where
  year := stamp.date.year
  number := (stamp.date.month - 1) / 3 + 1
  fits := stamp.valid.year
  counted := by
    have month := stamp.valid.month
    omega

/-- The end of the last quarter of the year 9999 comes before its start. -/
def Quarter.Closed (quarter : Quarter) : Prop := quarter.year < 9999 ∨ quarter.number < 4

/-- A timestamp is in the range of the quarter of the day that it writes. -/
theorem inRange_written {batch : DeliveryBatch} {stamp : Timestamp}
    (read : Calendar.timestamp? batch.plannedShipAt = some stamp) :
    inRange quarter batch = true ↔ quarter = writtenQuarter stamp ∧ quarter.Closed := by
  obtain ⟨rest, starts⟩ := Calendar.timestamp?_text read
  have fits := quarter.fits
  have counts := quarter.counted
  have month := stamp.valid.month
  have day := stamp.valid.day
  have first : (Date.mk quarter.year ((quarter.number - 1) * 3 + 1) 1).Valid :=
    ⟨fits, by dsimp only; omega, Nat.le_refl _, Calendar.daysInMonth_pos _ _⟩
  have same : quarter = writtenQuarter stamp ↔
      quarter.year = stamp.date.year ∧ quarter.number = (stamp.date.month - 1) / 3 + 1 := by
    obtain ⟨year, number, _, _⟩ := quarter
    simp only [writtenQuarter, Quarter.mk.injEq]
  have begins : quarter.startInclusive ≤ batch.plannedShipAt ↔
      ¬ stamp.date.Before ⟨quarter.year, (quarter.number - 1) * 3 + 1, 1⟩ := by
    rw [← String.not_lt, Quarter.startInclusive, Calendar.starts_lt_text stamp.valid first starts]
  rw [inRange, decide_eq_true_eq, begins, same, Quarter.Closed, Quarter.endExclusive]
  by_cases inside : quarter.number < 4
  · have last : (Date.mk quarter.year (quarter.number * 3 + 1) 1).Valid :=
      ⟨fits, by dsimp only; omega, Nat.le_refl _, Calendar.daysInMonth_pos _ _⟩
    rw [if_pos inside, Calendar.starts_lt_text stamp.valid last starts]
    simp only [Date.Before]
    omega
  · rw [if_neg inside]
    by_cases next : quarter.year < 9999
    · have last : (Date.mk (quarter.year + 1) 1 1).Valid :=
        ⟨by dsimp only; omega, by dsimp only; omega, Nat.le_refl _, Calendar.daysInMonth_pos _ _⟩
      rw [if_pos next, Calendar.starts_lt_text stamp.valid last starts]
      simp only [Date.Before]
      omega
    · rw [if_neg next]
      constructor
      · rintro ⟨late, less⟩
        exfalso
        simp only [Date.Before] at late
        have years := stamp.valid.year
        have year : stamp.date.year = 9999 := by omega
        have digits : Calendar.fourDigits 9999 = ['9', '9', '9', '9'] := by decide
        have end_ : "10000-01-01".toList = ['1', '0', '0', '0', '0', '-', '0', '1', '-', '0', '1'] :=
          rfl
        rw [String.lt_iff, starts, Date.text, String.toList_ofList, year, digits, end_] at less
        simp [List.cons_lt_cons_iff] at less
      · omega

/-! ## The same day -/

theorem localDate_stamp {value : String} {stamp : Timestamp}
    (read : Calendar.timestamp? value = some stamp) :
    localDate dates value = some (Calendar.shownDate (dates.shanghai.day stamp.time)) := by
  rw [localDate, newDate, read]
  rfl

theorem localDay_stamp {value : String} {stamp : Timestamp}
    (read : Calendar.timestamp? value = some stamp) :
    Shipments.localDay value = stamp.date.text := Calendar.timestamp?_date read

theorem text_inj {a b : Date} (validA : a.Valid) (validB : b.Valid) :
    a.text = b.text ↔ a.number = b.number := by
  constructor
  · intro same
    have read := Calendar.parse_eq_some_iff.mpr ⟨validB, same⟩
    rw [Calendar.parse_eq_some_iff.mpr ⟨validA, rfl⟩] at read
    rw [Option.some.inj read]
  · intro same
    rw [Calendar.Date.number_inj validA.proper validB.proper same]

theorem day_low (zone : Zone) (stamp : Timestamp) : -146097 ≤ zone.day stamp.time := by
  have drift := stamp.drift_bounds zone
  rw [zone.day_time]
  omega

/-- In the years of the quarters two days are shown alike only if they are the same. -/
theorem shown_alike {planned shipped : Timestamp}
    (here : quarterFromDate (Calendar.shownDate (dates.shanghai.day planned.time)) = quarter.text) :
    (Calendar.shownDate (dates.shanghai.day shipped.time)).shown =
        (Calendar.shownDate (dates.shanghai.day planned.time)).shown ↔
      dates.shanghai.day planned.time = dates.shanghai.day shipped.time := by
  obtain ⟨-, late, -⟩ := quarterFromDate_text.mp here
  rw [Date.shown_inj (Calendar.shownDate_fits _) (Calendar.shownDate_fits _)]
  constructor
  · intro same
    exact Calendar.shownDate_inj (day_low _ _) (day_low _ _) (by omega) same.symm
  · intro same
    rw [same]

/-- The zone moves both timestamps by as many days; or it moves them apart, and
they write days that are neither the same nor as far apart as that. -/
def Aligned (zone : Zone) (planned shipped : Timestamp) : Prop :=
  planned.drift zone = shipped.drift zone ∨
    (shipped.date.number : Int) - planned.date.number ≠ 0 ∧
      (shipped.date.number : Int) - planned.date.number ≠
        planned.drift zone - shipped.drift zone

/-- The written days and the days in Shanghai agree exactly on aligned timestamps. -/
theorem days_agree {plannedShipAt shippedAt : String} {planned shipped : Timestamp}
    (readPlanned : Calendar.timestamp? plannedShipAt = some planned)
    (readShipped : Calendar.timestamp? shippedAt = some shipped) (zone : Zone) :
    (Shipments.localDay plannedShipAt = Shipments.localDay shippedAt ↔
        zone.day planned.time = zone.day shipped.time) ↔ Aligned zone planned shipped := by
  rw [localDay_stamp readPlanned, localDay_stamp readShipped,
    text_inj planned.valid shipped.valid, zone.day_time, zone.day_time, Aligned]
  omega

/-- The delivery batch is on its way. -/
def Dispatched (db : Database) (id : Nat) : Prop :=
  ∃ batch, (db deliveryBatches).find? id = some batch ∧ batch.status = .shipped

/-- A planned batch is dispatched at once exactly when its planned day is written. -/
theorem ship_dispatched {command : CommandContext} {body : Shipments.ShipShipment}
    {reply : JsonValue} {sent : List DomainEvent} {batch : DeliveryBatch}
    (returns : (Shipments.shipmentCommand command (.ship body)).Returns db reply sent db')
    (found : (db deliveryBatches).find? body.deliveryBatchId = some batch)
    (planned : batch.status = .planned) : Dispatched db' body.deliveryBatchId ↔
      Shipments.localDay batch.plannedShipAt = Shipments.localDay (trim body.shippedAt) := by
  obtain ⟨old, foundOld, ⟨off, -, reason, asks⟩ | ⟨-, onTheDay, carrier, logisticsNo, ships⟩⟩ :=
    Shipments.ship_dates returns
  · rw [found] at foundOld
    cases foundOld
    refine iff_of_false ?_ off
    rintro ⟨after, foundAfter, shipped⟩
    rw [asks, Table.find?_update, found] at foundAfter
    simp only [Option.map_some, planned, beq_self_eq_true, Bool.and_true, if_true,
      Option.some.injEq] at foundAfter
    subst foundAfter
    cases shipped
  · rw [found] at foundOld
    cases foundOld
    apply iff_of_true
    · rw [Dispatched, ships]
      exact ⟨_, Table.find?_modify_self _ found, rfl⟩
    · rcases onTheDay with same | approved
      · exact same
      · rw [planned] at approved
        cases approved

/-! ## Evaluation -/

/-- The performance of the quarter is read, and the batch counts in it. -/
def Evaluated (dates : Dates) (updatedAt : Nat → Nat) (db : Database) (tier : Option Int)
    (today : String) (id : Nat) (quarter : Quarter) : Prop :=
  (∃ stats, readPerformance dates updatedAt db quarter tier today = .ok stats) ∧
    ∃ batch supplierId onTime, (id, batch) ∈ deliveryRows updatedAt db quarter tier ∧
      evaluateDelivery dates quarter today (performanceDelivery db (id, batch)) =
        .ok (some (supplierId, onTime))

/-- Every row that is read for the quarter has dates that can be read. -/
def Readable (dates : Dates) (updatedAt : Nat → Nat) (db : Database) (tier : Option Int)
    (today : String) (quarter : Quarter) : Prop :=
  ∀ row ∈ deliveryRows updatedAt db quarter tier,
    ∃ evaluated, evaluateDelivery dates quarter today (performanceDelivery db row) = .ok evaluated

theorem readPerformance_ok : (∃ stats, readPerformance dates updatedAt db quarter tier today =
    .ok stats) ↔ Readable dates updatedAt db tier today quarter := by
  constructor
  · rintro ⟨stats, read⟩ row member
    exact (deliveryBySupplier_counts read).1 _ (List.mem_map_of_mem member)
  · intro readable
    apply deliveryBySupplier_total
    intro row member
    obtain ⟨one, there, rfl⟩ := List.mem_map.mp member
    exact readable one there

theorem mem_deliveryRows {batch : DeliveryBatch} :
    (id, batch) ∈ deliveryRows updatedAt db quarter tier ↔
      (db deliveryBatches).find? id = some batch ∧ inRange quarter batch = true ∧
        (∃ supplierId, supplierOf db id = some supplierId ∧
          supplierId ∈ visibleSupplierIds updatedAt db tier) ∧
        (quarterBatches updatedAt db quarter tier).countP (fun later => decide (id < later.1)) <
          deliveryLimit := by
  have listed : (id, batch) ∈ quarterBatches updatedAt db quarter tier ↔
      (db deliveryBatches).find? id = some batch ∧ inRange quarter batch = true ∧
        ∃ supplierId, supplierOf db id = some supplierId ∧
          supplierId ∈ visibleSupplierIds updatedAt db tier := by
    simp only [quarterBatches, Table.mem_select, Bool.and_eq_true, Option.any_eq_true,
      List.contains_iff_mem]
  rw [deliveryRows, limited, List.mem_filter, decide_eq_true_eq, listed]
  simp only [and_assoc]

/-- A visible batch among the latest of its quarter, whose written day and day in
Shanghai lie in that quarter and whose neighbours can be read. -/
structure Evaluable (dates : Dates) (updatedAt : Nat → Nat) (db : Database) (tier : Option Int)
    (today : String) (id : Nat) (stamp : Timestamp) : Prop where
  quarter : quarterFromDate (Calendar.shownDate (dates.shanghai.day stamp.time)) =
    (writtenQuarter stamp).text
  closed : (writtenQuarter stamp).Closed
  visible : ∃ supplierId, supplierOf db id = some supplierId ∧
    supplierId ∈ visibleSupplierIds updatedAt db tier
  latest : (quarterBatches updatedAt db (writtenQuarter stamp) tier).countP
    (fun later => decide (id < later.1)) < deliveryLimit
  readable : Readable dates updatedAt db tier today (writtenQuarter stamp)

/-- A due batch is evaluated for a quarter exactly when it is that of both days. -/
theorem evaluated_iff {batch : DeliveryBatch} {stamp : Timestamp}
    (found : (db deliveryBatches).find? id = some batch)
    (read : Calendar.timestamp? batch.plannedShipAt = some stamp)
    (due : batch.shippedAt.isSome = true ∨
      (Calendar.shownDate (dates.shanghai.day stamp.time)).shown < today) :
    Evaluated dates updatedAt db tier today id quarter ↔
      quarter = writtenQuarter stamp ∧ Evaluable dates updatedAt db tier today id stamp := by
  have planned := @localDate_stamp dates _ _ read
  constructor
  · rintro ⟨reads, other, supplierId, onTime, member, counts⟩
    obtain ⟨there, range, ⟨supplier, supplied, visible⟩, latest⟩ := mem_deliveryRows.mp member
    rw [found] at there
    cases there
    obtain ⟨same, closed⟩ := (inRange_written read).mp range
    subst same
    have readable := readPerformance_ok.mp reads
    have own := (@evaluateDelivery_counts dates _ today (performanceDelivery db (id, batch))
      _ _ supplied planned due (readable _ member)).mp
    refine ⟨rfl, ?_, closed, ⟨supplier, supplied, visible⟩, latest, readable⟩
    apply own
    have ids : supplierId = supplier := by
      simp only [evaluateDelivery, performanceDelivery, supplied, bind, Except.bind] at counts
      split at counts
      · cases counts
      · split at counts
        · cases counts
        · split at counts
          · cases counts
          · split at counts <;> cases counts
            rfl
    rw [← ids]
    exact ⟨onTime, counts⟩
  · rintro ⟨rfl, evaluable⟩
    obtain ⟨supplierId, supplied, visible⟩ := evaluable.visible
    have member : (id, batch) ∈ deliveryRows updatedAt db (writtenQuarter stamp) tier :=
      mem_deliveryRows.mpr ⟨found, (inRange_written read).mpr ⟨rfl, evaluable.closed⟩,
        ⟨supplierId, supplied, visible⟩, evaluable.latest⟩
    obtain ⟨onTime, counts⟩ := (@evaluateDelivery_counts dates _ today
      (performanceDelivery db (id, batch)) _ _ supplied planned due
      (evaluable.readable _ member)).mpr evaluable.quarter
    exact ⟨readPerformance_ok.mpr evaluable.readable, batch, supplierId, onTime, member, counts⟩

/-- The batch is evaluated for one quarter, that of its planned day in Shanghai. -/
def EvaluatedOnce (dates : Dates) (updatedAt : Nat → Nat) (db : Database) (tier : Option Int)
    (today : String) (id : Nat) (stamp : Timestamp) : Prop :=
  ∃ quarter : Quarter,
    quarterFromDate (Calendar.shownDate (dates.shanghai.day stamp.time)) = quarter.text ∧
      ∀ other, Evaluated dates updatedAt db tier today id other ↔ other = quarter

theorem evaluatedOnce_iff {batch : DeliveryBatch} {stamp : Timestamp}
    (found : (db deliveryBatches).find? id = some batch)
    (read : Calendar.timestamp? batch.plannedShipAt = some stamp)
    (due : batch.shippedAt.isSome = true ∨
      (Calendar.shownDate (dates.shanghai.day stamp.time)).shown < today) :
    EvaluatedOnce dates updatedAt db tier today id stamp ↔
      Evaluable dates updatedAt db tier today id stamp := by
  constructor
  · rintro ⟨quarter, -, once⟩
    exact ((evaluated_iff found read due).mp ((once quarter).mpr rfl)).2
  · intro evaluable
    refine ⟨writtenQuarter stamp, evaluable.quarter, fun other => ?_⟩
    rw [evaluated_iff found read due]
    exact ⟨fun both => both.1, fun same => ⟨same, evaluable⟩⟩

/-- A dispatch goes through without a deviation exactly when the performance counts
it as on time, if and only if the timestamps are aligned; and a due batch is
evaluated for the one quarter of its planned day in Shanghai if and only if it is
evaluable. -/
theorem punctuality_agrees_iff (dates : Dates) :
    (∀ {command : CommandContext} {body : Shipments.ShipShipment} {reply : JsonValue}
      {sent : List DomainEvent} {db db' : Database} {batch : DeliveryBatch}
      {planned shipped : Timestamp} {quarter : Quarter} {today : String} {supplierId : Nat},
      (Shipments.shipmentCommand command (.ship body)).Returns db reply sent db' →
      (db deliveryBatches).find? body.deliveryBatchId = some batch → batch.status = .planned →
      Calendar.timestamp? batch.plannedShipAt = some planned →
      Calendar.timestamp? (trim body.shippedAt) = some shipped →
      quarterFromDate (Calendar.shownDate (dates.shanghai.day planned.time)) = quarter.text →
      ((Dispatched db' body.deliveryBatchId ↔
        evaluateDelivery dates quarter today
          ⟨batch.plannedShipAt, some (trim body.shippedAt), some supplierId⟩ =
            .ok (some (supplierId, true))) ↔ Aligned dates.shanghai planned shipped)) ∧
    ∀ {updatedAt : Nat → Nat} {db : Database} {tier : Option Int} {today : String} {id : Nat}
      {batch : DeliveryBatch} {stamp : Timestamp},
      (db deliveryBatches).find? id = some batch →
      Calendar.timestamp? batch.plannedShipAt = some stamp →
      (batch.shippedAt.isSome = true ∨
        (Calendar.shownDate (dates.shanghai.day stamp.time)).shown < today) →
      (EvaluatedOnce dates updatedAt db tier today id stamp ↔
        Evaluable dates updatedAt db tier today id stamp) := by
  constructor
  · intro command body reply sent db db' batch planned shipped quarter today supplierId returns
      found status readPlanned readShipped here
    rw [ship_dispatched returns found status, evaluateDelivery_onTime (localDate_stamp readPlanned)
      (localDate_stamp readShipped) here, shown_alike here]
    exact days_agree readPlanned readShipped dates.shanghai
  · intro updatedAt db tier today id batch stamp found read due
    exact evaluatedOnce_iff found read due

/-! ## Two evenings -/

/-- Eight hours ahead of UTC; other texts are no dates. -/
def eastern : Dates where
  other _ := none
  shanghai := ⟨fun _ => 28800000, fun _ => by decide⟩

/-- An order from an active supplier, with stock and evidence for a dispatch. -/
def suppliedDatabase : Database :=
  (Shipments.stockedDatabase.put orderItems (Table.empty.insert
      { purchaseOrderId := 1, sku := "S", itemType := some "finished", supplierId := some 1
        quantity := 10, receivedQuantity := 0, unitPriceTaxIncludedMinor := 5 })).put
    suppliers (Table.empty.insert
      { code := "V", tier := some 2, managedByFactoryId := some 1 })

def plannedDatabase (plannedShipAt : String) : Database :=
  suppliedDatabase.put deliveryBatches (Table.empty.insert
    { executionOrderId := 1, batchNo := "D", quantity := 10, plannedShipAt, shippedAt := none
      carrier := "", logisticsNo := "", destination := "W", requiresApproval := false
      deviationReason := none, status := .planned })

def shipBody (shippedAt : String) : Shipments.ShipShipment where
  deliveryBatchId := 1
  shippedAt := shippedAt
  carrier := "C"
  logisticsNo := "L"
  deviationReason := some "R"
  evidenceFileId := 1

def shipContext : CommandContext := (Shipments.dispatchesOn 1 "").command

/-- The database after a dispatch, where it goes through. -/
def shippedDatabase (plannedShipAt shippedAt : String) : Option Database :=
  ((Shipments.shipmentCommand shipContext (.ship (shipBody shippedAt))).run
    (plannedDatabase plannedShipAt)).toOption.map fun done => done.store

theorem ship_seen {plannedShipAt shippedAt : String} {seen : Database → Bool}
    (passes : (shippedDatabase plannedShipAt shippedAt).any seen = true) :
    ∃ reply sent db', (Shipments.shipmentCommand shipContext (.ship (shipBody shippedAt))).Returns
      (plannedDatabase plannedShipAt) reply sent db' ∧ seen db' = true := by
  unfold shippedDatabase at passes
  cases ran : (Shipments.shipmentCommand shipContext (.ship (shipBody shippedAt))).run
      (plannedDatabase plannedShipAt) with
  | error error =>
      rw [ran] at passes
      cases passes
  | ok done =>
      rw [ran] at passes
      exact ⟨done.value, done.sent, done.store, ran, passes⟩

/-- The single batch is on its way, as of the text. -/
def shippedOn (plannedShipAt shippedAt : String) (db : Database) : Bool :=
  ((db deliveryBatches).find? 1).any fun batch => batch.status == .shipped &&
    batch.plannedShipAt == plannedShipAt && batch.shippedAt == some shippedAt

theorem shippedOn_batch {plannedShipAt shippedAt : String}
    (seen : shippedOn plannedShipAt shippedAt db = true) :
    ∃ batch, (db deliveryBatches).find? 1 = some batch ∧ batch.status = .shipped ∧
      batch.plannedShipAt = plannedShipAt ∧ batch.shippedAt = some shippedAt := by
  obtain ⟨batch, found, columns⟩ := (Option.any_eq_true _ _).mp seen
  simp only [Bool.and_eq_true, beq_iff_eq] at columns
  exact ⟨batch, found, columns.1.1, columns.1.2, columns.2⟩

/-- The morning of the second of March, and two hours later. -/
def morningStamp (hours : Fin 4) : Timestamp where
  date := ⟨2026, 3, 2⟩
  timeOfDay := 28800000 + hours * 3600000
  offset := 480
  valid := by decide
  inside := by
    have bound := hours.isLt
    have length : Calendar.dayLength = 86400000 := rfl
    omega
  bounded := by decide

def marchQuarter : Quarter := ⟨2026, 1, by decide, by decide⟩

theorem punctuality_agrees_march :
    (∃ reply sent db', (Shipments.shipmentCommand shipContext
        (.ship (shipBody "2026-03-02T10:00:00+08:00"))).Returns
        (plannedDatabase "2026-03-02T08:00:00+08:00") reply sent db' ∧
      ((Dispatched db' 1 ↔ evaluateDelivery eastern marchQuarter "2026-03-05"
        ⟨"2026-03-02T08:00:00+08:00", some "2026-03-02T10:00:00+08:00", some 1⟩ =
          .ok (some (1, true))) ↔
        Aligned eastern.shanghai (morningStamp 0) (morningStamp 2))) ∧
    (EvaluatedOnce eastern (fun _ => 0) (plannedDatabase "2026-03-02T08:00:00+08:00") none
        "2026-03-05" 1 (morningStamp 0) ↔
      Evaluable eastern (fun _ => 0) (plannedDatabase "2026-03-02T08:00:00+08:00") none
        "2026-03-05" 1 (morningStamp 0)) := by
  constructor
  · obtain ⟨reply, sent, db', returns, -⟩ := @ship_seen "2026-03-02T08:00:00+08:00"
      "2026-03-02T10:00:00+08:00" (fun _ => true) (by decide +kernel)
    exact ⟨reply, sent, db', returns, (punctuality_agrees_iff eastern).1 returns rfl rfl
      (by decide +kernel) (by decide +kernel) (by decide +kernel)⟩
  · exact (punctuality_agrees_iff eastern).2 rfl (by decide +kernel) (by decide +kernel)

/-- The last evening of a quarter in UTC, which is the first day of the next in
Shanghai. -/
def eveningStamp : Timestamp :=
  ⟨⟨2026, 3, 31⟩, 72000000, 0, by decide, by decide, by decide⟩

/-- A batch planned on that evening and shipped ten hours before goes through and
does not count as on time, and no quarter evaluates it. -/
theorem punctuality_disagrees :
    ∃ reply sent db', (Shipments.shipmentCommand shipContext
        (.ship (shipBody "2026-03-31T10:00:00Z"))).Returns
        (plannedDatabase "2026-03-31T20:00:00Z") reply sent db' ∧ Dispatched db' 1 ∧
      evaluateDelivery eastern ⟨2026, 2, by decide, by decide⟩ "2026-07-01"
        ⟨"2026-03-31T20:00:00Z", some "2026-03-31T10:00:00Z", some 1⟩ = .ok (some (1, false)) ∧
      ∀ quarter, ¬ Evaluated eastern (fun _ => 0) db' none "2026-07-01" 1 quarter := by
  obtain ⟨reply, sent, db', returns, seen⟩ := @ship_seen "2026-03-31T20:00:00Z"
    "2026-03-31T10:00:00Z" (shippedOn "2026-03-31T20:00:00Z" "2026-03-31T10:00:00Z")
    (by decide +kernel)
  obtain ⟨batch, found, status, planned, shipped⟩ := shippedOn_batch seen
  refine ⟨reply, sent, db', returns, ⟨batch, found, status⟩, by decide +kernel, ?_⟩
  intro quarter evaluated
  have read : Calendar.timestamp? batch.plannedShipAt = some eveningStamp := by
    rw [planned]
    decide +kernel
  have due : batch.shippedAt.isSome = true := by
    rw [shipped]
    rfl
  obtain ⟨-, evaluable⟩ := (evaluated_iff found read (Or.inl due)).mp evaluated
  exact absurd evaluable.quarter (by decide +kernel)

end SupplyChain.Suppliers
