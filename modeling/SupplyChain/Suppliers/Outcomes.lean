import SupplyChain.Procurement.Steps

/-!
What the commands on the prices of the suppliers and the decision of a price
change did when they committed.
-/

namespace SupplyChain.Suppliers

open Relational Transaction TableName Supply Procurement SupplyApprovalEffects

variable {db db' : Database} {writes : List TableName} {event : SupplyEvent}

/-! ## What the writers do to the agreements -/

/-- The agreements after the active one is ended. -/
def retiredPrices (prices : Table CorePriceAgreement) (current : Option Nat)
    (effectiveFrom : String) : Table CorePriceAgreement :=
  match current with
  | none => prices
  | some id => prices.modify id fun row =>
      { row with effectiveTo := previousDay effectiveFrom, active := false }

def agreementOf (supplierId : Nat) (sku : String) (price : Int) (effectiveFrom : String) :
    CorePriceAgreement where
  supplierId := supplierId
  sku := sku
  unitPriceTaxIncludedMinor := price
  effectiveFrom := effectiveFrom

theorem retirePrice_returns {μ : Type} [Writes corePriceAgreements writes] {current : Option Nat}
    {effectiveFrom message : String} {u : Unit} {sent : List μ}
    (returns : (retirePrice current effectiveFrom message :
      Transaction Row μ Failure writes Unit).Returns db u sent db') :
    sent = [] ∧ db' = db.put corePriceAgreements
      (retiredPrices (db corePriceAgreements) current effectiveFrom) := by
  cases current with
  | none =>
      obtain ⟨-, rfl, rfl⟩ := returns_pure.mp returns
      exact ⟨rfl, (Store.put_self _ _).symm⟩
  | some id =>
      obtain ⟨-, rfl, rfl⟩ := returns_updateRow.mp returns
      exact ⟨rfl, rfl⟩

/-- A new agreement took the place of the active one, if there was one. -/
structure Activated (supplierId : Nat) (sku effectiveFrom : String) (price : Int)
    (db db' : Database) : Prop where
  prices : db' corePriceAgreements = (retiredPrices (db corePriceAgreements)
    ((activePrice db supplierId sku).map (·.1)) effectiveFrom).insert
      (agreementOf supplierId sku price effectiveFrom)

/-- What a committed price request did. -/
inductive PriceWritten (command : SupplyContext) (body : WriteSupplierPrice) (db db' : Database) :
    Prop
  | activated {supplier : Supplier} (found : (db suppliers).find? body.supplierId = some supplier)
      (maintains : maintainsPrices command.access supplier = true)
      (activated : Activated body.supplierId (trim body.sku) (trim body.effectiveFrom)
        body.taxIncludedMinor db db')
      (requests : db' corePriceChangeRequests = db corePriceChangeRequests)
  | requested {supplier : Supplier} (found : (db suppliers).find? body.supplierId = some supplier)
      (other : maintainsPrices command.access supplier = false)
      (prices : db' corePriceAgreements = db corePriceAgreements)
      (requests : db' corePriceChangeRequests = (db corePriceChangeRequests).insert
        { currentAgreementId := (activePrice db body.supplierId (trim body.sku)).map (·.1)
          supplierId := body.supplierId, sku := trim body.sku
          proposedTaxIncludedMinor := body.taxIncludedMinor
          proposedEffectiveFrom := trim body.effectiveFrom })

theorem requireFile_reads {access : AccessContext} {selector : FileSelector}
    {categories : List String} {entity : Option (String × List Nat)} {file : FileObject}
    {sent : List String}
    (returns : (requireFile access selector categories entity :
      SupplyTx writes FileObject).Returns db file sent db') : sent = [] ∧ db' = db := by
  simp only [requireFile, returns_bind_query, returns_bind_orThrow, returns_bind_refuseIf,
    returns_pure] at returns
  obtain ⟨_, -, -, -, -, -, -, sends, same⟩ := returns
  exact ⟨sends, same⟩

theorem ensurePriceVersion_returns {resourceId : String} {version : Nat} {sent : List String}
    (returns : (ensurePriceVersion resourceId).Returns db version sent db') :
    sent = [] ∧ ∀ t, t ≠ priceVersions → db' t = db t := by
  simp only [ensurePriceVersion, returns_bind_query] at returns
  obtain ⟨_, _, _, _, inserted, done, rfl⟩ := returns_bind.mp returns
  obtain ⟨-, rfl, rfl⟩ := returns_pure.mp done
  rcases returns_whenever.mp inserted with ⟨-, written⟩ | ⟨-, rfl, rfl⟩
  · obtain ⟨rfl, rfl⟩ := returns_insertRow.mp written
    exact ⟨rfl, fun t other => Store.put_other _ _ other⟩
  · exact ⟨rfl, fun _ _ => rfl⟩

theorem raisePriceVersion_returns {μ : Type} [Writes priceVersions writes] {resourceId message : String}
    {version : Nat} {u : Unit} {sent : List μ}
    (returns : (raisePriceVersion resourceId version message :
      Transaction Row μ Failure writes Unit).Returns db u sent db') :
    sent = [] ∧ ∀ t, t ≠ priceVersions → db' t = db t := by
  simp only [raisePriceVersion, returns_bind_query, returns_bind_refuseIf,
    returns_updateWhere] at returns
  obtain ⟨-, rfl, rfl⟩ := returns
  exact ⟨rfl, fun t other => Store.put_other _ _ other⟩

theorem activatePrice_returns {command : SupplyContext} {request : PriceRequest}
    {objectVersion : Option Nat} {challengeNo : Option String} {reply : JsonValue}
    {sent : List String}
    (returns : (activatePrice command request objectVersion challengeNo).Returns db reply sent db') :
    db' corePriceAgreements = (retiredPrices (db corePriceAgreements) request.current
      request.effectiveFrom).insert (agreementOf request.supplierId request.sku
        request.taxIncludedMinor request.effectiveFrom) := by
  simp only [activatePrice, returns_bind_orThrow, returns_bind_positiveKey, returns_bind_refuseIf,
    returns_bind_text, returns_bind_widen] at returns
  obtain ⟨_, -, -, -, -, _, _, claimed, _, claims, returns, rfl⟩ := returns
  have unclaimed := claims.unwritten corePriceAgreements (by decide)
  obtain ⟨_, _, retired, _, retires, rest, rfl⟩ := returns_bind.mp returns
  obtain ⟨rfl, rfl⟩ := retirePrice_returns retires
  simp only [returns_bind_insertInto] at rest
  obtain ⟨_, _, raised, _, raises, last, rfl⟩ := returns_bind.mp rest
  obtain ⟨rfl, kept⟩ := raisePriceVersion_returns raises
  simp only [Supply.domainEvent, returns_bind_send, returns_pure] at last
  obtain ⟨_, ⟨-, rfl, rfl⟩, rfl⟩ := last
  rw [kept _ (by decide), ← unclaimed]
  simp [agreementOf]

theorem requestPrice_returns {command : SupplyContext} {request : PriceRequest}
    {evidenceObjectKey : String} {reply : JsonValue} {sent : List String}
    (returns : (requestPrice command request evidenceObjectKey).Returns db reply sent db') :
    db' corePriceChangeRequests = (db corePriceChangeRequests).insert
      { currentAgreementId := request.current, supplierId := request.supplierId, sku := request.sku
        proposedTaxIncludedMinor := request.taxIncludedMinor
        proposedEffectiveFrom := request.effectiveFrom } := by
  simp only [requestPrice, returns_bind_insertInto, createApproval, approvalNotification] at returns
  obtain ⟨_, _, created, _, creates, rest, rfl⟩ := returns_bind.mp returns
  simp only [returns_bind_insertUnique, returns_pure] at creates
  obtain ⟨-, -, -, -, rfl⟩ := creates
  obtain ⟨_, _, notified, _, notifies, last, rfl⟩ := returns_bind.mp rest
  simp only [returns_bind_refuseIf, returns_send] at notifies
  obtain ⟨-, -, rfl⟩ := notifies
  obtain ⟨-, -, rfl⟩ := returns_pure.mp last
  simp

theorem writeSupplierPrice_returns {command : SupplyContext} {body : WriteSupplierPrice}
    {reply : JsonValue} {sent : List String}
    (returns : (writeSupplierPrice command body).Returns db reply sent db') :
    (Calendar.parse (trim body.effectiveFrom)).isSome = true ∧
      (∀ r, activePrice db body.supplierId (trim body.sku) = some r →
        r.2.effectiveFrom < trim body.effectiveFrom) ∧
      PriceWritten command body db db' := by
  simp only [writeSupplierPrice, returns_bind_positiveKey, returns_bind_text,
    returns_bind_positiveInteger, returns_bind_nonNegativeInteger, returns_bind_refuseIf,
    returns_bind_date, returns_bind_select, returns_bind_orThrow, returns_bind_query] at returns
  obtain ⟨-, -, -, -, -, -, -, valid, -, -, supplier, found, -, -, -, -, returns⟩ := returns
  rw [returns_bind_of_reads requireFile_reads] at returns
  obtain ⟨evidence, -, returns⟩ := returns
  simp only [returns_bind_query, returns_bind_refuseIf, returns_bind_widen] at returns
  obtain ⟨later, version, _, versioned, _, ensured, returns, rfl⟩ := returns
  obtain ⟨rfl, kept⟩ := ensurePriceVersion_returns ensured
  refine ⟨valid, ?_, ?_⟩
  · intro r active
    rw [active] at later
    simpa using later
  · rcases returns_ite.mp returns with ⟨maintains, ran⟩ | ⟨other, ran⟩
    · refine PriceWritten.activated found maintains ⟨?_⟩ ?_
      · rw [activatePrice_returns (returns_widen.mp ran), kept _ (by decide)]
      · rw [(returns_widen.mp ran).unwritten _ (by decide), kept _ (by decide)]
    · refine PriceWritten.requested found (by simpa using other) ?_ ?_
      · rw [(returns_widen.mp ran).unwritten _ (by decide), kept _ (by decide)]
      · rw [requestPrice_returns (returns_widen.mp ran), kept _ (by decide)]

/-- What a committed decision of a price change did. -/
structure PriceDecided (changeId : Nat) (decision : Decision)
    (change : CorePriceChangeRequest) (db db' : Database) : Prop where
  found : (db corePriceChangeRequests).find? changeId = some change
  requests : db' corePriceChangeRequests = (db corePriceChangeRequests).modify changeId
    fun row => { row with decision := decision.status }
  current : decision = .approved →
    (activePrice db change.supplierId change.sku).map (·.1) = change.currentAgreementId
  approved : decision = .approved → Activated change.supplierId change.sku
    change.proposedEffectiveFrom change.proposedTaxIncludedMinor db db'
  rejected : decision = .rejected → db' corePriceAgreements = db corePriceAgreements

theorem applySupplierPrice_returns {approval : ApprovalRequest} {decision : Decision} {u : Unit}
    {sent : List DomainEvent}
    (returns : (applySupplierPrice approval decision).Returns db u sent db') :
    ∃ change, PriceDecided approval.entityId decision change db db' := by
  simp only [applySupplierPrice, returns_bind_orThrow, returns_bind_select, returns_bind_refuseIf,
    returns_bind_query] at returns
  obtain ⟨resourceId, -, version, -, change, found, -, -, -, returns⟩ := returns
  obtain ⟨_, _, replaced, _, replaces, last, rfl⟩ := returns_bind.mp returns
  obtain ⟨-, rfl, rfl⟩ := returns_updateRow.mp last
  rcases returns_whenever.mp replaces with ⟨rfl, ran⟩ | ⟨other, rfl, rfl⟩
  · simp only [returns_widen, replacePrice, returns_bind_query, returns_bind_refuseIf, ne_eq,
      not_not] at ran
    obtain ⟨same, ran⟩ := ran
    obtain ⟨_, _, retired, _, retires, rest, rfl⟩ := returns_bind.mp ran
    obtain ⟨rfl, rfl⟩ := retirePrice_returns retires
    simp only [returns_bind_insertRow] at rest
    obtain ⟨-, kept⟩ := raisePriceVersion_returns rest
    refine ⟨change, found, ?_, fun _ => same, fun _ => ⟨?_⟩, by simp⟩
    · rw [Store.put_same, kept _ (by decide)]
      simp
    · rw [Store.put_other _ _ (by decide), kept _ (by decide), same]
      simp [agreementOf]
  · refine ⟨change, found, by simp, fun approved => absurd approved other,
      fun approved => absurd approved other, fun _ => by simp⟩

/-! ## Steps -/

theorem activePrice_congr {mid : Database}
    (same : mid corePriceAgreements = db corePriceAgreements) (supplierId : Nat) (sku : String) :
    activePrice mid supplierId sku = activePrice db supplierId sku := by
  simp only [activePrice, same]

theorem PriceDecided.congr {changeId : Nat} {decision : Decision}
    {change : CorePriceChangeRequest} {mid after : Database}
    (decided : PriceDecided changeId decision change mid after)
    (before : ∀ t ∈ plannedTables, mid t = db t) (last : ∀ t ∈ plannedTables, db' t = after t) :
    PriceDecided changeId decision change db db' := by
  have prices := before corePriceAgreements (by decide)
  have requests := before corePriceChangeRequests (by decide)
  have prices' := last corePriceAgreements (by decide)
  have requests' := last corePriceChangeRequests (by decide)
  refine ⟨by rw [← requests]; exact decided.found, by rw [requests', ← requests]; exact decided.requests,
    fun approved => ?_, fun approved => ⟨?_⟩, fun rejected => ?_⟩
  · rw [← activePrice_congr prices]
    exact decided.current approved
  · rw [prices', ← prices, ← activePrice_congr prices]
    exact (decided.approved approved).prices
  · rw [prices', ← prices]
    exact decided.rejected rejected

/-- What a step does to the prices. -/
inductive Priced (db : Database) (event : SupplyEvent) (db' : Database) : Prop
  | written {command : SupplyContext} {body : WriteSupplierPrice}
      (request : supplied event = some ⟨command, .writeSupplierPrice body⟩)
      (undecided : decides db event = none)
      (valid : (Calendar.parse (trim body.effectiveFrom)).isSome = true)
      (later : ∀ r, activePrice db body.supplierId (trim body.sku) = some r →
        r.2.effectiveFrom < trim body.effectiveFrom)
      (written : PriceWritten command body db db')
  | decided {approval : ApprovalRequest} {decision : Decision} {change : CorePriceChangeRequest}
      (notSupplied : supplied event = none)
      (verdict : decides db event = some ("supplier_price_change", approval, decision))
      (decided : PriceDecided approval.entityId decision change db db')
  | elsewhere
      (notWritten : ∀ command body,
        supplied event ≠ some ⟨command, .writeSupplierPrice body⟩)
      (undecided : ∀ approval decision,
        decides db event ≠ some ("supplier_price_change", approval, decision))
      (prices : db' corePriceAgreements = db corePriceAgreements)
      (requests : db' corePriceChangeRequests = db corePriceChangeRequests)

theorem touched_priced (touched : Touched db event db') : Priced db event db' := by
  cases touched with
  | @supply _ request reply sent returns =>
      obtain ⟨command, body⟩ := request
      unfold runSupply at returns
      cases body with
      | writeSupplierPrice body =>
          obtain ⟨valid, later, written⟩ := writeSupplierPrice_returns (returns_widen.mp returns)
          exact Priced.written rfl rfl valid later written
      | _ =>
          have unwritten := (returns_widen.mp returns).unwritten
          exact Priced.elsewhere (by simp [supplied]) (by simp [decides]) (unwritten _ (by decide))
            (unwritten _ (by decide))
  | @applied _ command body name approval applied =>
      have verdict := applied.decides
      obtain ⟨claimed, mid, after, ⟨-, entityId, -⟩, before, ran, last⟩ := applied.effect
      have kept : ∀ t ∈ plannedTables, after t = mid t → db' t = db t := fun t planned same => by
        rw [planned_last last t planned, same, planned_before before t planned]
      cases ran with
      | price returns =>
          obtain ⟨change, decided⟩ := applySupplierPrice_returns returns
          rw [entityId] at decided
          exact Priced.decided rfl verdict
            (decided.congr (planned_before before) (planned_last last))
      | unknown other same =>
          subst same
          refine Priced.elsewhere (by simp [supplied]) ?_ (kept _ (by decide) rfl)
            (kept _ (by decide) rfl)
          rintro approval decision decides
          rw [verdict] at decides
          cases decides
          exact other (by decide)
      | _ =>
          rename_i returns
          have unwritten := returns.unwritten
          exact Priced.elsewhere (by simp [supplied]) (by simp [verdict])
            (kept _ (by decide) (unwritten _ (by decide)))
            (kept _ (by decide) (unwritten _ (by decide)))
  | apart notSupplied undecided own =>
      exact Priced.elsewhere (by simp [notSupplied]) (by simp [undecided]) (own _ (by decide))
        (own _ (by decide))

end SupplyChain.Suppliers
