import SupplyChain.Suppliers.Timeline

/-!
The prices of the suppliers over the runs of the system: the agreements are a
timeline in every state, and the lookup of an order finds the agreement of every
day exactly as long as no agreement has been followed by another.
-/

namespace SupplyChain.Suppliers

open Relational Transaction TableName Supply Procurement
open PurchaseOrders (priceOn)

variable {db db' : Database} {event : SupplyEvent} {events : List SupplyEvent}

/-! ## The requests beside the timeline -/

/-- The agreements are a timeline, and a change was requested against an
agreement that starts before it. -/
structure PriceBook (db : Database) : Prop where
  timeline : Timeline (db corePriceAgreements)
  proposed : ∀ id change, (db corePriceChangeRequests).find? id = some change →
    (Calendar.parse change.proposedEffectiveFrom).isSome = true ∧
      ∀ key, change.currentAgreementId = some key →
        ∃ row, (db corePriceAgreements).find? key = some row ∧
          row.effectiveFrom < change.proposedEffectiveFrom

/-- No price has been agreed or asked for. -/
structure Unpriced (db : Database) : Prop where
  prices : ∀ id, (db corePriceAgreements).find? id = none
  requests : ∀ id, (db corePriceChangeRequests).find? id = none

theorem Unpriced.book (opening : Unpriced db) : PriceBook db := by
  refine ⟨⟨?_, ?_, ?_, ?_⟩, ?_⟩
  · intro id row found
    simp [opening.prices] at found
  · intro id row found
    simp [opening.prices] at found
  · intro i j a b foundA
    simp [opening.prices] at foundA
  · intro i a last found
    simp [opening.prices] at found
  · intro id change found
    simp [opening.requests] at found

section Steps

variable {supplierId : Nat} {sku effectiveFrom : String} {price : Int}

theorem Activated.forward (activated : Activated supplierId sku effectiveFrom price db db')
    {id : Nat} {old : CorePriceAgreement} (found : (db corePriceAgreements).find? id = some old) :
    ∃ row, (db' corePriceAgreements).find? id = some row ∧
      row.effectiveFrom = old.effectiveFrom ∧ (old.active = false → row.active = false) := by
  obtain ⟨row, foundRow, -, starts, ended⟩ := retired_forward found
  refine ⟨row, ?_, starts, ended⟩
  rw [activated.prices]
  exact Table.find?_insert_of_some foundRow

theorem Activated.timeline (activated : Activated supplierId sku effectiveFrom price db db')
    (timeline : Timeline (db corePriceAgreements))
    (later : ∀ r, activePrice db supplierId sku = some r → r.2.effectiveFrom < effectiveFrom)
    (valid : (Calendar.parse effectiveFrom).isSome = true) :
    Timeline (db' corePriceAgreements) := by
  rw [activated.prices]
  exact timeline.replace (activePrice_current db supplierId sku) later valid

theorem Activated.proposed (activated : Activated supplierId sku effectiveFrom price db db')
    {change : CorePriceChangeRequest}
    (before : ∀ key, change.currentAgreementId = some key →
      ∃ row, (db corePriceAgreements).find? key = some row ∧
        row.effectiveFrom < change.proposedEffectiveFrom)
    (key : Nat) (named : change.currentAgreementId = some key) :
    ∃ row, (db' corePriceAgreements).find? key = some row ∧
      row.effectiveFrom < change.proposedEffectiveFrom := by
  obtain ⟨old, found, earlier⟩ := before key named
  obtain ⟨row, foundRow, starts, -⟩ := activated.forward found
  exact ⟨row, foundRow, by rw [starts]; exact earlier⟩

/-- An approved change takes the place of the agreement it was requested
against, which starts before it. -/
theorem PriceBook.later (book : PriceBook db) {id : Nat} {change : CorePriceChangeRequest}
    (found : (db corePriceChangeRequests).find? id = some change)
    (current : (activePrice db change.supplierId change.sku).map (·.1) = change.currentAgreementId)
    (r : Nat × CorePriceAgreement) (active : activePrice db change.supplierId change.sku = some r) :
    r.2.effectiveFrom < change.proposedEffectiveFrom := by
  have chosen := activePrice_current db change.supplierId change.sku
  rw [active] at chosen current
  obtain ⟨row, foundRow, earlier⟩ := (book.proposed id change found).2 r.1 current.symm
  obtain rfl : row = r.2 := Option.some.inj (foundRow.symm.trans chosen.1)
  exact earlier

theorem PriceBook.written (book : PriceBook db) {command : SupplyContext} {body : WriteSupplierPrice}
    (valid : (Calendar.parse (trim body.effectiveFrom)).isSome = true)
    (later : ∀ r, activePrice db body.supplierId (trim body.sku) = some r →
      r.2.effectiveFrom < trim body.effectiveFrom)
    (written : PriceWritten command body db db') : PriceBook db' := by
  cases written with
  | activated found maintains activated requests =>
      refine ⟨activated.timeline book.timeline later valid, ?_⟩
      rw [requests]
      intro id change foundChange
      have before := book.proposed id change foundChange
      exact ⟨before.1, activated.proposed before.2⟩
  | requested found other prices requests =>
      refine ⟨by rw [prices]; exact book.timeline, ?_⟩
      rw [prices, requests]
      intro id change foundChange
      rcases Table.find?_insert_cases foundChange with ⟨-, rfl⟩ | old
      · refine ⟨valid, ?_⟩
        intro key named
        obtain ⟨r, active, rfl⟩ := Option.map_eq_some_iff.mp named
        have chosen := activePrice_current db body.supplierId (trim body.sku)
        rw [active] at chosen
        exact ⟨r.2, chosen.1, later r active⟩
      · exact book.proposed id change old

theorem PriceBook.decided (book : PriceBook db) {changeId : Nat} {decision : Decision}
    {change : CorePriceChangeRequest}
    (decided : PriceDecided changeId decision change db db') : PriceBook db' := by
  have requests : ∀ id row, (db' corePriceChangeRequests).find? id = some row →
      ∃ old, (db corePriceChangeRequests).find? id = some old ∧
        row.currentAgreementId = old.currentAgreementId ∧
        row.proposedEffectiveFrom = old.proposedEffectiveFrom := by
    intro id row found
    rw [decided.requests] at found
    rcases Table.find?_modify_cases found with ⟨rfl, old, foundOld, rfl⟩ | ⟨-, same⟩
    · exact ⟨old, foundOld, rfl, rfl⟩
    · exact ⟨row, same, rfl, rfl⟩
  cases decision with
  | approved =>
      have activated := decided.approved rfl
      have valid := (book.proposed changeId change decided.found).1
      refine ⟨activated.timeline book.timeline
        (book.later decided.found (decided.current rfl)) valid, ?_⟩
      intro id row found
      obtain ⟨old, foundOld, current, starts⟩ := requests id row found
      have before := book.proposed id old foundOld
      rw [starts, current]
      exact ⟨before.1, activated.proposed before.2⟩
  | rejected =>
      have prices := decided.rejected rfl
      refine ⟨by rw [prices]; exact book.timeline, ?_⟩
      intro id row found
      obtain ⟨old, foundOld, current, starts⟩ := requests id row found
      rw [prices, starts, current]
      exact book.proposed id old foundOld

theorem PriceBook.priced (book : PriceBook db) (priced : Priced db event db') : PriceBook db' := by
  cases priced with
  | written request undecided valid later written => exact book.written valid later written
  | decided notSupplied verdict decided => exact book.decided decided
  | elsewhere notWritten undecided prices requests =>
      refine ⟨by rw [prices]; exact book.timeline, ?_⟩
      rw [prices, requests]
      exact book.proposed

end Steps

/-! ## The law and the lookup -/

/-- For every supplier and sku the periods of the agreements share no day and
leave none out, each that has ended is followed on the next day, and at most one
has not ended. -/
structure PriceTimeline (db : Database) : Prop where
  disjoint : ∀ i j a b day, (db corePriceAgreements).find? i = some a →
    (db corePriceAgreements).find? j = some b → SameGoods a b → Covers a day → Covers b day → i = j
  contiguous : ∀ id first day, (db corePriceAgreements).find? id = some first →
    (Calendar.parse day).isSome = true → first.effectiveFrom ≤ day →
    ∃ key row, (db corePriceAgreements).find? key = some row ∧ SameGoods first row ∧ Covers row day
  followed : ∀ i a last, (db corePriceAgreements).find? i = some a → a.effectiveTo = some last →
    ∃ j b, (db corePriceAgreements).find? j = some b ∧ SameGoods a b ∧
      previousDay b.effectiveFrom = some last
  oneOpen : ∀ i j a b, (db corePriceAgreements).find? i = some a →
    (db corePriceAgreements).find? j = some b → SameGoods a b →
    a.effectiveTo = none → b.effectiveTo = none → i = j

/-- The lookup of an order finds the agreement whose period has the order date. -/
def FindsPrice (db : Database) : Prop :=
  ∀ id row day, (db corePriceAgreements).find? id = some row →
    (Calendar.parse day).isSome = true → Covers row day →
    priceOn db row.supplierId row.sku day = some row

/-- No agreement has been followed by another. -/
def AllActive (db : Database) : Prop :=
  ∀ id row, (db corePriceAgreements).find? id = some row → row.active = true

theorem PriceBook.priceTimeline (book : PriceBook db) : PriceTimeline db where
  disjoint i j a b day foundA foundB same := book.timeline.disjoint foundA foundB same
  contiguous id first day found valid := book.timeline.covered found valid
  followed i a last found ended := by
    obtain ⟨j, b, foundB, same, -, precedes⟩ := book.timeline.followed i a last found ended
    exact ⟨j, b, foundB, same, precedes⟩
  oneOpen i j a b foundA foundB same := book.timeline.open_unique foundA foundB same

theorem PriceBook.finds_of_active (book : PriceBook db) (active : AllActive db) : FindsPrice db := by
  intro id row day found valid covers
  cases chosen : priceOn db row.supplierId row.sku day with
  | none =>
      have empty := Table.nil_of_head?_insertionSort (Option.map_eq_none_iff.mp chosen)
      rw [Table.select_eq_nil] at empty
      have passes := empty id row found
      have ends : row.effectiveTo.all (fun last => decide (day ≤ last)) = true := by
        simpa [Option.all_eq_true] using covers.2
      simp [active id row found, covers.1, ends] at passes
  | some agreed =>
      obtain ⟨r, first, rfl⟩ := Option.map_eq_some_iff.mp chosen
      obtain ⟨foundRow, passes⟩ := Table.mem_select.mp (Table.mem_of_head?_insertionSort first)
      simp only [Bool.and_eq_true, beq_iff_eq, decide_eq_true_eq] at passes
      obtain ⟨⟨⟨⟨sameSupplier, sameSku⟩, -⟩, started⟩, ends⟩ := passes
      have coversOther : Covers r.2 day :=
        ⟨started, by simpa [Option.all_eq_true] using ends⟩
      have same := book.timeline.disjoint found foundRow ⟨sameSupplier.symm, sameSku.symm⟩ covers
        coversOther
      subst same
      rw [Option.some.inj (foundRow.symm.trans found)]

/-- The lookup misses the first day of an agreement that another one followed. -/
theorem PriceBook.active_of_finds (book : PriceBook db) (finds : FindsPrice db) : AllActive db := by
  intro id row found
  have covers : Covers row row.effectiveFrom := by
    refine ⟨String.le_refl _, ?_⟩
    intro last ended
    obtain ⟨next, other, foundOther, same, before, precedes⟩ :=
      book.timeline.followed id row last found ended
    have sooner := (book.timeline.ordered id next row other found foundOther same before).1
    exact previousDay_greatest precedes (book.timeline.dated id row found) sooner
  have lookup := finds id row _ found (book.timeline.dated id row found) covers
  obtain ⟨r, chosen, rfl⟩ := Option.map_eq_some_iff.mp lookup
  obtain ⟨-, passes⟩ := Table.mem_select.mp (Table.mem_of_head?_insertionSort chosen)
  simp only [Bool.and_eq_true] at passes
  exact passes.1.1.2

/-! ## Runs -/

/-- The event replaces an active agreement: a factory activates a price, or a
change is approved, for a supplier and a sku that have one. -/
def Supersedes (db : Database) (event : SupplyEvent) : Prop :=
  (∃ command body supplier, supplied event = some ⟨command, .writeSupplierPrice body⟩ ∧
      (db suppliers).find? body.supplierId = some supplier ∧
      maintainsPrices command.access supplier = true ∧
      (activePrice db body.supplierId (trim body.sku)).isSome = true) ∨
    ∃ approval change, decides db event = some ("supplier_price_change", approval, .approved) ∧
      (db corePriceChangeRequests).find? approval.entityId = some change ∧
      (activePrice db change.supplierId change.sku).isSome = true

/-- A step that replaces no active agreement. -/
def Unsuperseding (db : Database) (event : SupplyEvent) (db' : Database) : Prop :=
  SupplyStep db event db' ∧ ¬ Supersedes db event

section Replaced

variable {supplierId : Nat} {sku effectiveFrom : String} {price : Int}

/-- An agreement that has ended stays so. -/
def SomeEnded (db : Database) : Prop :=
  ∃ id row, (db corePriceAgreements).find? id = some row ∧ row.active = false

theorem Activated.ended (activated : Activated supplierId sku effectiveFrom price db db')
    (ended : SomeEnded db) : SomeEnded db' := by
  obtain ⟨id, old, found, inactive⟩ := ended
  obtain ⟨row, foundRow, -, stays⟩ := activated.forward found
  exact ⟨id, row, foundRow, stays inactive⟩

theorem Activated.ends (activated : Activated supplierId sku effectiveFrom price db db')
    (replaces : (activePrice db supplierId sku).isSome = true) : SomeEnded db' := by
  obtain ⟨r, active⟩ := Option.isSome_iff_exists.mp replaces
  have chosen := activePrice_current db supplierId sku
  rw [active] at chosen
  refine ⟨r.1, { r.2 with effectiveTo := previousDay effectiveFrom, active := false }, ?_, rfl⟩
  rw [activated.prices, active]
  exact Table.find?_insert_of_some (Table.find?_modify_self _ chosen.1)

theorem Activated.stays (activated : Activated supplierId sku effectiveFrom price db db')
    (first : (activePrice db supplierId sku).isSome = false) (active : AllActive db) :
    AllActive db' := by
  intro id row found
  rw [activated.prices, Option.isSome_eq_false_iff.mp first |> Option.isNone_iff_eq_none.mp] at found
  rcases Table.find?_insert_cases found with ⟨-, rfl⟩ | old
  · rfl
  · exact active id row old

end Replaced

theorem Priced.ended (priced : Priced db event db') (ended : SomeEnded db) : SomeEnded db' := by
  cases priced with
  | written request undecided valid later written =>
      cases written with
      | activated found maintains activated requests => exact activated.ended ended
      | requested found other prices requests =>
          unfold SomeEnded
          rw [prices]
          exact ended
  | @decided approval decision change notSupplied verdict decided =>
      cases decision with
      | approved => exact (decided.approved rfl).ended ended
      | rejected =>
          unfold SomeEnded
          rw [decided.rejected rfl]
          exact ended
  | elsewhere notWritten undecided prices requests =>
      unfold SomeEnded
      rw [prices]
      exact ended

theorem Priced.ends (priced : Priced db event db') (supersedes : Supersedes db event) :
    SomeEnded db' := by
  cases priced with
  | @written command body request undecided valid later written =>
      rcases supersedes with ⟨_, _, supplier, named, foundSupplier, maintains, replaces⟩ |
        ⟨approval, change, verdict, -⟩
      · rw [request] at named
        cases named
        cases written with
        | activated found maintained activated requests => exact activated.ends replaces
        | requested found other prices requests =>
            obtain rfl := Option.some.inj (found.symm.trans foundSupplier)
            rw [maintains] at other
            cases other
      · rw [undecided] at verdict
        cases verdict
  | @decided approval decision change notSupplied verdict decided =>
      rcases supersedes with ⟨_, _, _, named, -⟩ | ⟨other, row, named, found, replaces⟩
      · rw [notSupplied] at named
        cases named
      · rw [verdict] at named
        cases named
        obtain rfl := Option.some.inj (decided.found.symm.trans found)
        exact (decided.approved rfl).ends replaces
  | elsewhere notWritten undecided prices requests =>
      rcases supersedes with ⟨command, body, _, named, -⟩ | ⟨approval, change, verdict, -⟩
      · exact absurd named (notWritten command body)
      · exact absurd verdict (undecided approval .approved)

theorem Priced.stays (priced : Priced db event db') (kept : ¬ Supersedes db event)
    (active : AllActive db) : AllActive db' := by
  cases priced with
  | @written command body request undecided valid later written =>
      cases written with
      | @activated supplier found maintains activated requests =>
          apply activated.stays _ active
          apply Bool.eq_false_iff.mpr
          intro replaces
          exact kept (Or.inl ⟨command, body, supplier, request, found, maintains, replaces⟩)
      | requested found other prices requests =>
          unfold AllActive
          rw [prices]
          exact active
  | @decided approval decision change notSupplied verdict decided =>
      cases decision with
      | approved =>
          apply (decided.approved rfl).stays _ active
          apply Bool.eq_false_iff.mpr
          intro replaces
          exact kept (Or.inr ⟨approval, change, verdict, decided.found, replaces⟩)
      | rejected =>
          unfold AllActive
          rw [decided.rejected rfl]
          exact active
  | elsewhere notWritten undecided prices requests =>
      unfold AllActive
      rw [prices]
      exact active

theorem priced_of_apart (apart : ApartFromOutbox db db') : Priced db .elsewhere db' :=
  Priced.elsewhere (by simp [supplied]) (by simp [decides]) (apart _ (by decide))
    (apart _ (by decide))

theorem step_book (step : SupplyStep db event db') (book : PriceBook db) : PriceBook db' := by
  obtain ⟨mid, work, apart⟩ := step.works
  exact (book.priced (touched_priced (work_touched work))).priced (priced_of_apart apart)

theorem step_ended (step : SupplyStep db event db') (ended : SomeEnded db) : SomeEnded db' := by
  obtain ⟨mid, work, apart⟩ := step.works
  exact (priced_of_apart apart).ended ((touched_priced (work_touched work)).ended ended)

theorem step_ends (step : SupplyStep db event db') (supersedes : Supersedes db event) :
    SomeEnded db' := by
  obtain ⟨mid, work, apart⟩ := step.works
  exact (priced_of_apart apart).ended ((touched_priced (work_touched work)).ends supersedes)

theorem step_stays (step : Unsuperseding db event db') (active : AllActive db) :
    AllActive db' := by
  obtain ⟨mid, work, apart⟩ := step.1.works
  refine (priced_of_apart apart).stays ?_
    ((touched_priced (work_touched work)).stays step.2 active)
  simp [Supersedes, supplied, decides]

theorem run_unsuperseding (run : Run SupplyStep db events db') (active : AllActive db') :
    Run Unsuperseding db events db' := by
  induction run with
  | done => exact Run.done
  | next first later ih =>
      refine Run.next ⟨first, fun supersedes => ?_⟩ (ih active)
      have ended := later.preserves SomeEnded (fun step => step_ended step)
        (step_ends first supersedes)
      obtain ⟨id, row, found, inactive⟩ := ended
      rw [active id row found] at inactive
      cases inactive

theorem Unpriced.active (opening : Unpriced db) : AllActive db := by
  intro id row found
  simp [opening.prices] at found

/-- From a system without prices the agreements are a timeline in every state of
a run, and the lookup of an order is right exactly when no step of the run
replaced an active agreement. -/
theorem price_timeline (opening : Unpriced db) (run : Run SupplyStep db events db') :
    PriceTimeline db' ∧ (FindsPrice db' ↔ Run Unsuperseding db events db') := by
  have book := run.preserves PriceBook (fun step => step_book step) opening.book
  refine ⟨book.priceTimeline, ?_⟩
  constructor
  · intro finds
    exact run_unsuperseding run (book.active_of_finds finds)
  · intro kept
    apply book.finds_of_active
    exact kept.preserves AllActive (fun step => step_stays step) opening.active

/-- A supplier of the third tier with its active relation, the evidence file of
its prices and two verified challenges for the versions 1 and 2 of its price. -/
def unpricedDatabase : Database :=
  ((((emptyDatabase.put suppliers (Table.empty.insert
      { code := "T", tier := some 3, managedByFactoryId := some 1 })).put
    skus (Table.empty.insert
      { code := "S", itemType := some "component", overproductionToleranceBps := 0
        active := true })).put
    supplierSkus (Table.empty.insert
      { factoryId := 1, supplierId := 1, sku := "S", effectiveFrom := "2026-01-01"
        status := .active, requestedBy := 1 })).put
    fileObjects (Table.empty.insert
      { objectKey := "K", category := "price_evidence", entityType := "supplier_sku"
        entityId := some 1, ownerUserId := 1, factoryId := some 1, supplierId := none
        clean := true })).put
    priceChallenges ((Table.empty.insert (challenge "C1" 1)).insert (challenge "C2" 2))
where
  challenge (challengeNo : String) (objectVersion : Nat) : PriceChallenge :=
    { challengeNo, userId := 1, sessionId := some 1, highRisk := true
      action := "supplier_price.activate", objectId := "1:S", objectVersion, requestDigest := ""
      verified := true, consumedAt := none, expiresAt := 9 }

theorem unpricedDatabase_opens : Unpriced unpricedDatabase where
  prices _ := rfl
  requests _ := rfl

/-- The factory activates a price from a date on. -/
def agrees (time : Nat) (price : Int) (effectiveFrom challengeNo : String) (version : Nat) : Act :=
  .supply (supplyAt time
    { userId := 1, sessionId := some 1, roles := [.factory], factoryId := some 1
      supplierId := none }
    (.writeSupplierPrice
      { supplierId := 1, sku := "S", taxIncludedMinor := price, taxExcludedMinor := price
        taxRateBps := 0, effectiveFrom, reason := "R", evidenceFileKey := "K"
        objectVersion := some version, challengeNo := some challengeNo }))

/-- A price from 2027 on is agreed while the one from 2026 is in force. -/
def agreesAhead : List Act :=
  [agrees 1 100 "2026-01-01" "C1" 1, agrees 2 120 "2027-01-01" "C2" 2]

/-- The lookup of an order of June 2026 then finds no price. -/
theorem ahead_unfound : ∃ db', Run SupplyStep unpricedDatabase (agreesAhead.map Act.event) db' ∧
    ¬ FindsPrice db' := by
  obtain ⟨db', run, seen⟩ := replayActs_reaches agreesAhead unpricedDatabase
    (fun db => ((db corePriceAgreements).find? 1).any (fun row =>
        row.supplierId == 1 && row.sku == "S" && decide (row.effectiveFrom ≤ "2026-06-01") &&
          row.effectiveTo == some "2026-12-31") &&
      (priceOn db 1 "S" "2026-06-01").isNone) (by decide +kernel)
  refine ⟨db', run, fun finds => ?_⟩
  simp only [Bool.and_eq_true, Option.any_eq_true, beq_iff_eq, decide_eq_true_eq,
    Option.isNone_iff_eq_none] at seen
  obtain ⟨⟨row, found, ⟨⟨supplier, sku⟩, started⟩, ends⟩, missing⟩ := seen
  have covers : Covers row "2026-06-01" := by
    refine ⟨started, ?_⟩
    intro last ended
    rw [ends] at ended
    cases ended
    decide
  have lookup := finds 1 row "2026-06-01" found (by decide) covers
  rw [supplier, sku, missing] at lookup
  cases lookup

/-- A first price is on the timeline and is found. -/
theorem price_timeline_first : ∃ db', ((db' corePriceAgreements).find? 1).isSome = true ∧
    PriceTimeline db' ∧
    (FindsPrice db' ↔ Run Unsuperseding unpricedDatabase ((agreesAhead.take 1).map Act.event) db') := by
  obtain ⟨db', run, seen⟩ := replayActs_reaches (agreesAhead.take 1) unpricedDatabase
    (fun db => ((db corePriceAgreements).find? 1).isSome) (by decide +kernel)
  exact ⟨db', seen, price_timeline unpricedDatabase_opens run⟩

end SupplyChain.Suppliers
