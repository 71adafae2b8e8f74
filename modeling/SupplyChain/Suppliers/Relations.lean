import SupplyChain.Procurement.Steps

/-!
The relations between the factories, their suppliers and the skus. An approved
primary relation takes the mark from the others of its factory and sku; a
relation that a factory activates directly leaves theirs.
-/

namespace SupplyChain.Suppliers

open Relational Transaction TableName Supply Procurement SupplyApprovalEffects

variable {db db' : Database} {writes : List TableName} {event : SupplyEvent}
  {events : List SupplyEvent}

/-! ## What the writers do to the relations -/

/-- The unique key of a relation. -/
def SameKey (a b : SupplierSku) : Prop :=
  a.factoryId = b.factoryId ∧ a.supplierId = b.supplierId ∧ a.sku = b.sku

/-- A relation was inserted, or it took the place of the one with its key. -/
inductive Stored (relation : SupplierSku) (db db' : Database) : Prop
  | created (fresh : ∀ id row, (db supplierSkus).find? id = some row → ¬ SameKey row relation)
      (relations : db' supplierSkus = (db supplierSkus).insert relation)
  | revised {id : Nat} {old : SupplierSku} (found : (db supplierSkus).find? id = some old)
      (same : SameKey old relation)
      (relations : db' supplierSkus = (db supplierSkus).modify id fun _ => relation)

/-- The relation that a request asks for. -/
structure Requested (command : SupplyContext) (body : WriteSupplierSku) (supplier : Supplier)
    (relation : SupplierSku) : Prop where
  factoryId : relation.factoryId = body.factoryId
  supplierId : relation.supplierId = body.supplierId
  sku : relation.sku = trim body.sku
  isPrimary : relation.isPrimary = body.isPrimary
  status : relation.status =
    if activatesRelation command.access supplier.tier body.factoryId then .active else .pending

theorem optional_reads {value : Option String} {maximum : Nat} {result : Option String}
    {sent : List String}
    (returns : (optionalText value maximum : SupplyTx writes _).Returns db result sent db') :
    sent = [] ∧ db' = db := by
  unfold optionalText at returns
  split at returns
  · exact (returns_pure.mp returns).2
  · rcases returns_ite.mp returns with ⟨-, done⟩ | ⟨-, done⟩
    · exact (returns_pure.mp done).2
    · exact (returns_pure.mp (returns_bind_text.mp done).2).2

theorem optionalPositive_reads {value result : Option Int} {sent : List String}
    (returns : (optionalPositive value : SupplyTx writes _).Returns db result sent db') :
    sent = [] ∧ db' = db := by
  unfold optionalPositive at returns
  split at returns
  · exact (returns_pure.mp returns).2
  · exact (returns_pure.mp (returns_bind_positiveInteger.mp returns).2).2

theorem optionalNonNegative_reads {value result : Option Int} {sent : List String}
    (returns : (optionalNonNegative value : SupplyTx writes _).Returns db result sent db') :
    sent = [] ∧ db' = db := by
  unfold optionalNonNegative at returns
  split at returns
  · exact (returns_pure.mp returns).2
  · exact (returns_pure.mp (returns_bind_nonNegativeInteger.mp returns).2).2

theorem relationOf_returns {command : SupplyContext} {body : WriteSupplierSku}
    {sku effectiveFrom : String} {stockUnit : Option String} {directFactory : Bool}
    {relation : SupplierSku} {sent : List String}
    (returns : (relationOf command body sku effectiveFrom stockUnit directFactory :
      SupplyTx writes _).Returns db relation sent db') :
    (sent = [] ∧ db' = db) ∧ relation.factoryId = body.factoryId ∧
      relation.supplierId = body.supplierId ∧ relation.sku = sku ∧
      relation.isPrimary = body.isPrimary ∧
      relation.status = if directFactory then .active else .pending := by
  simp only [relationOf, returns_bind_positiveInteger] at returns
  obtain ⟨-, -, -, returns⟩ := returns
  rw [returns_bind_of_reads optional_reads] at returns
  obtain ⟨_, -, returns⟩ := returns
  rw [returns_bind_of_reads optionalNonNegative_reads] at returns
  obtain ⟨_, -, returns⟩ := returns
  rw [returns_bind_of_reads optionalPositive_reads] at returns
  obtain ⟨_, -, returns⟩ := returns
  rw [returns_bind_of_reads optionalPositive_reads] at returns
  obtain ⟨_, -, returns⟩ := returns
  obtain ⟨rfl, sends, same⟩ := returns_pure.mp returns
  exact ⟨⟨sends, same⟩, rfl, rfl, rfl, rfl, rfl⟩

theorem ensureVersion_keeps [Writes procurementVersions writes] {resourceType : String}
    {resourceId version : Nat} {sent : List String}
    (returns : (ensureVersion resourceType resourceId : SupplyTx writes Nat).Returns
      db version sent db') : ∀ t, t ≠ procurementVersions → db' t = db t := by
  simp only [ensureVersion, returns_bind_query] at returns
  obtain ⟨_, _, _, _, inserted, done, rfl⟩ := returns_bind.mp returns
  obtain ⟨-, rfl, rfl⟩ := returns_pure.mp done
  rcases returns_whenever.mp inserted with ⟨-, written⟩ | ⟨-, rfl, rfl⟩
  · obtain ⟨rfl, rfl⟩ := returns_insertRow.mp written
    exact fun t other => Store.put_other _ _ other
  · exact fun _ _ => rfl

theorem raiseVersion_keeps {μ : Type} [Writes procurementVersions writes]
    {resourceType message : String} {resourceId version : Nat} {u : Unit} {sent : List μ}
    (returns : (raiseVersion resourceType resourceId version message :
      Transaction Row μ Failure writes Unit).Returns db u sent db') :
    ∀ t, t ≠ procurementVersions → db' t = db t := by
  simp only [raiseVersion, returns_bind_query, returns_bind_refuseIf,
    returns_updateWhere] at returns
  obtain ⟨-, rfl, rfl⟩ := returns
  exact fun t other => Store.put_other _ _ other

theorem storeRelation_returns {existing : Option (Nat × SupplierSku)} {relation : SupplierSku}
    {stored : Nat × Nat} {sent : List String}
    (known : ∀ r, existing = some r →
      (db supplierSkus).find? r.1 = some r.2 ∧ SameKey r.2 relation)
    (returns : (storeRelation existing relation).Returns db stored sent db') :
    Stored relation db db' := by
  cases existing with
  | none =>
      simp only [storeRelation, returns_bind_insertUnique] at returns
      obtain ⟨unique, rest⟩ := returns
      obtain ⟨_, _, _, _, ensured, done, rfl⟩ := returns_bind.mp rest
      obtain ⟨-, rfl, rfl⟩ := returns_pure.mp done
      apply Stored.created
      · intro id row found same
        rw [Table.any_eq_false] at unique
        have clash := unique id row found
        simp [same.1, same.2.1, same.2.2] at clash
      · rw [ensureVersion_keeps ensured _ (by decide), Store.put_same]
  | some r =>
      obtain ⟨found, same⟩ := known r rfl
      simp only [storeRelation, returns_bind_updateRow] at returns
      obtain ⟨-, rest⟩ := returns
      obtain ⟨_, _, _, _, ensured, more, rfl⟩ := returns_bind.mp rest
      obtain ⟨_, _, _, _, raised, done, rfl⟩ := returns_bind.mp more
      obtain ⟨-, rfl, rfl⟩ := returns_pure.mp done
      apply Stored.revised found same
      rw [raiseVersion_keeps raised _ (by decide), ensureVersion_keeps ensured _ (by decide),
        Store.put_same]

theorem writeSupplierSku_stores {command : SupplyContext} {body : WriteSupplierSku}
    {reply : JsonValue} {sent : List String}
    (returns : (writeSupplierSku command body).Returns db reply sent db') :
    ∃ supplier stocked relation, (db suppliers).find? body.supplierId = some supplier ∧
      (db skus).first? (fun _ row => row.code == trim body.sku && row.active) = some stocked ∧
      (relationOf command body (trim body.sku) (trim body.effectiveFrom) stocked.2.stockUnit
        (activatesRelation command.access supplier.tier body.factoryId) : SupplyTx
          [supplierSkus, approvalRequests, procurementVersions] _).Returns db relation [] db ∧
      Stored relation db db' := by
  simp only [writeSupplierSku, returns_bind_positiveKey, returns_bind_text,
    returns_bind_date] at returns
  obtain ⟨-, -, -, -, -, returns⟩ := returns
  have bound : ∀ {db mid : Database} {u : Unit} {sent : List String},
      (whenever (isInternal command.access = false)
        (requireFactoryBinding command.access body.factoryId) : SupplyTx
          [supplierSkus, approvalRequests, procurementVersions] Unit).Returns db u sent mid →
      sent = [] ∧ mid = db := by
    intro db mid u sent checked
    rcases returns_whenever.mp checked with ⟨-, ran⟩ | ⟨-, sends, same⟩
    · exact (returns_refuseIf.mp ran).2
    · exact ⟨sends, same⟩
  rw [returns_bind_of_reads bound] at returns
  obtain ⟨_, -, returns⟩ := returns
  simp only [returns_bind_query, returns_bind_select, returns_bind_orThrow,
    returns_bind_refuseIf] at returns
  obtain ⟨supplier, foundSupplier, stocked, foundSku, -, -, returns⟩ := returns
  rw [returns_bind_of_reads fun ran => (relationOf_returns ran).1] at returns
  obtain ⟨relation, asked, returns⟩ := returns
  obtain ⟨-, factoryId, supplierId, sku, -⟩ := relationOf_returns asked
  obtain ⟨stored, _, mid, _, stores, later, rfl⟩ := returns_bind.mp returns
  have kept : db' supplierSkus = mid supplierSkus := by
    rcases returns_ite.mp later with ⟨-, tells⟩ | ⟨-, asks⟩
    · simp only [Supply.domainEvent, returns_bind_send, returns_pure] at tells
      obtain ⟨_, ⟨-, -, rfl⟩, -⟩ := tells
      rfl
    · obtain ⟨_, _, created, _, creates, rest, rfl⟩ := returns_bind.mp asks
      obtain ⟨-, -, -, others⟩ := createApproval_returns creates
      obtain ⟨_, _, notified, _, notifies, done, rfl⟩ := returns_bind.mp rest
      obtain rfl := approvalNotification_returns notifies
      obtain ⟨-, -, rfl⟩ := returns_pure.mp done
      exact others _ (by decide) (by decide)
  refine ⟨supplier, stocked, relation, foundSupplier, foundSku, asked, ?_⟩
  have known : ∀ r, (db supplierSkus).first? (fun _ row => row.factoryId == body.factoryId &&
      row.supplierId == body.supplierId && row.sku == trim body.sku) = some r →
      (db supplierSkus).find? r.1 = some r.2 ∧ SameKey r.2 relation := by
    intro r first
    obtain ⟨found, passes⟩ := Table.first?_some first
    simp only [Bool.and_eq_true, beq_iff_eq] at passes
    refine ⟨found, ?_, ?_, ?_⟩
    · rw [factoryId, passes.1.1]
    · rw [supplierId, passes.1.2]
    · rw [sku, passes.2]
  cases storeRelation_returns known (returns_widen.mp stores) with
  | created fresh relations => exact Stored.created fresh (kept.trans relations)
  | revised found same relations => exact Stored.revised found same (kept.trans relations)

theorem writeSupplierSku_returns {command : SupplyContext} {body : WriteSupplierSku}
    {reply : JsonValue} {sent : List String}
    (returns : (writeSupplierSku command body).Returns db reply sent db') :
    ∃ supplier relation, (db suppliers).find? body.supplierId = some supplier ∧
      Requested command body supplier relation ∧ Stored relation db db' := by
  obtain ⟨supplier, stocked, relation, found, -, asked, stored⟩ := writeSupplierSku_stores returns
  obtain ⟨-, factoryId, supplierId, sku, isPrimary, status⟩ := relationOf_returns asked
  exact ⟨supplier, relation, found, ⟨factoryId, supplierId, sku, isPrimary, status⟩, stored⟩

/-- The relations after an approved primary one takes the mark from the others. -/
def unmarked (relations : Table SupplierSku) (now id : Nat) (relation : SupplierSku) :
    Table SupplierSku :=
  relations.update
    (fun key row => row.factoryId == relation.factoryId && row.sku == relation.sku && key != id &&
      row.isPrimary)
    fun row => { row with isPrimary := false, updatedAt := now }

/-- What a committed decision of a relation did. -/
structure RelationDecided (now id : Nat) (decision : Decision) (relation : SupplierSku)
    (db db' : Database) : Prop where
  found : (db supplierSkus).find? id = some relation
  pending : relation.status = .pending
  relations : db' supplierSkus =
    (if decision = .approved ∧ relation.isPrimary = true then
      unmarked (db supplierSkus) now id relation else db supplierSkus).modify id fun row =>
        { row with
          status := if decision = .approved then .active else .inactive, updatedAt := now }

theorem applySupplierSku_returns {command : CommandContext} {approval : ApprovalRequest}
    {decision : Decision} {u : Unit} {sent : List DomainEvent}
    (returns : (applySupplierSku command approval decision).Returns db u sent db') :
    ∃ relation, RelationDecided command.now approval.entityId decision relation db db' := by
  simp only [applySupplierSku, returns_bind_orThrow, returns_bind_select, returns_bind_query,
    returns_bind_refuseIf] at returns
  obtain ⟨version, -, hash, -, relation, found, -, -, returns⟩ := returns
  obtain ⟨_, _, marked, _, marks, rest, rfl⟩ := returns_bind.mp returns
  simp only [returns_bind_updateRow] at rest
  obtain ⟨⟨row, foundRow, passes⟩, raises⟩ := rest
  simp only [Bool.and_eq_true, beq_iff_eq] at passes
  have relations : marked supplierSkus =
      if decision = .approved ∧ relation.isPrimary = true then
        unmarked (db supplierSkus) command.now approval.entityId relation
      else db supplierSkus := by
    rcases returns_whenever.mp marks with ⟨clears, ran⟩ | ⟨keeps, -, rfl⟩
    · obtain ⟨-, rfl⟩ := returns_updateWhere.mp (returns_widen.mp ran)
      rw [if_pos clears, Store.put_same]
      rfl
    · rw [if_neg keeps]
  -- the relation itself is not among those that lose the mark
  have same : row = relation := by
    rw [relations] at foundRow
    split at foundRow
    · simpa [unmarked, Table.find?_update, found, eq_comm] using foundRow
    · exact Option.some.inj (foundRow.symm.trans found)
  subst same
  refine ⟨row, found, passes.1, ?_⟩
  rw [raiseVersion_keeps raises _ (by decide), Store.put_same, relations]

/-! ## Steps -/

theorem RelationDecided.congr {now id : Nat} {decision : Decision} {relation : SupplierSku}
    {mid after : Database} (decided : RelationDecided now id decision relation mid after)
    (before : mid supplierSkus = db supplierSkus) (last : db' supplierSkus = after supplierSkus) :
    RelationDecided now id decision relation db db' := by
  refine ⟨before ▸ decided.found, decided.pending, ?_⟩
  rw [last, decided.relations, before]

/-- What a step does to the relations. -/
inductive Related (db : Database) (event : SupplyEvent) (db' : Database) : Prop
  | written {command : SupplyContext} {body : WriteSupplierSku} {supplier : Supplier}
      {relation : SupplierSku}
      (request : supplied event = some ⟨command, .writeSupplierSku body⟩)
      (found : (db suppliers).find? body.supplierId = some supplier)
      (requested : Requested command body supplier relation) (stored : Stored relation db db')
  | decided {now id : Nat} {decision : Decision} {relation : SupplierSku}
      (notSupplied : supplied event = none)
      (decided : RelationDecided now id decision relation db db')
  | elsewhere (notWritten : ∀ command body,
        supplied event ≠ some ⟨command, .writeSupplierSku body⟩)
      (relations : db' supplierSkus = db supplierSkus)

theorem touched_related (touched : Touched db event db') : Related db event db' := by
  cases touched with
  | @supply _ request reply sent returns =>
      obtain ⟨command, body⟩ := request
      unfold runSupply at returns
      cases body with
      | writeSupplierSku body =>
          obtain ⟨supplier, relation, found, requested, stored⟩ :=
            writeSupplierSku_returns (returns_widen.mp returns)
          exact Related.written rfl found requested stored
      | _ =>
          have unwritten := (returns_widen.mp returns).unwritten
          exact Related.elsewhere (by simp [supplied]) (unwritten _ (by decide))
  | @applied _ command body name approval applied =>
      obtain ⟨claimed, mid, after, -, before, ran, last⟩ := applied.effect
      have first := planned_before before supplierSkus (by decide)
      have final := planned_last last supplierSkus (by decide)
      cases ran with
      | relation returns =>
          obtain ⟨relation, decided⟩ := applySupplierSku_returns returns
          exact Related.decided rfl (decided.congr first final)
      | unknown other same =>
          subst same
          exact Related.elsewhere (by simp [supplied]) (final.trans first)
      | _ =>
          rename_i returns
          apply Related.elsewhere (by simp [supplied])
          rw [final, returns.unwritten _ (by decide), first]
  | apart notSupplied undecided own =>
      exact Related.elsewhere (by simp [notSupplied]) (own _ (by decide))

/-! ## One primary relation -/

/-- For every factory and sku at most one active relation is the primary one. -/
def OnePrimary (db : Database) : Prop :=
  ∀ i j a b, (db supplierSkus).find? i = some a → (db supplierSkus).find? j = some b →
    a.factoryId = b.factoryId → a.sku = b.sku → a.status = .active → b.status = .active →
    a.isPrimary = true → b.isPrimary = true → i = j

/-- No two relations have the same key. -/
def UniqueRelations (db : Database) : Prop :=
  ∀ i j a b, (db supplierSkus).find? i = some a → (db supplierSkus).find? j = some b →
    SameKey a b → i = j

/-- A factory activates a primary relation directly while another supplier is
the active primary one of the sku. -/
def Doubles (db : Database) (event : SupplyEvent) : Prop :=
  ∃ command body supplier, supplied event = some ⟨command, .writeSupplierSku body⟩ ∧
    (db suppliers).find? body.supplierId = some supplier ∧
    activatesRelation command.access supplier.tier body.factoryId = true ∧ body.isPrimary = true ∧
    ∃ id row, (db supplierSkus).find? id = some row ∧ row.factoryId = body.factoryId ∧
      row.sku = trim body.sku ∧ row.supplierId ≠ body.supplierId ∧ row.status = .active ∧
      row.isPrimary = true

theorem SameKey.symm {a b : SupplierSku} (same : SameKey a b) : SameKey b a :=
  ⟨same.1.symm, same.2.1.symm, same.2.2.symm⟩

theorem SameKey.trans {a b c : SupplierSku} (first : SameKey a b) (second : SameKey b c) :
    SameKey a c :=
  ⟨first.1.trans second.1, first.2.1.trans second.2.1, first.2.2.trans second.2.2⟩

section Stored

variable {relation : SupplierSku}

/-- After a relation was stored every other one is as it was, and it is the only
one with its key. -/
theorem Stored.backward (stored : Stored relation db db') (unique : UniqueRelations db) {id : Nat}
    {row : SupplierSku} (found : (db' supplierSkus).find? id = some row) :
    row = relation ∧ (∀ key other, (db' supplierSkus).find? key = some other →
        SameKey other relation → key = id) ∨
      (db supplierSkus).find? id = some row ∧ ¬ SameKey row relation := by
  cases stored with
  | created fresh relations =>
      rw [relations] at found ⊢
      rcases Table.find?_insert_cases found with ⟨rfl, rfl⟩ | old
      · refine Or.inl ⟨rfl, ?_⟩
        intro key other foundOther same
        rcases Table.find?_insert_cases foundOther with ⟨rfl, -⟩ | oldOther
        · rfl
        · exact absurd same (fresh key other oldOther)
      · exact Or.inr ⟨old, fresh id row old⟩
  | @revised stored old foundOld sameOld relations =>
      rw [relations] at found ⊢
      rcases Table.find?_modify_cases found with ⟨rfl, _, -, rfl⟩ | ⟨differ, kept⟩
      · refine Or.inl ⟨rfl, ?_⟩
        intro key other foundOther same
        rcases Table.find?_modify_cases foundOther with ⟨rfl, -⟩ | ⟨-, keptOther⟩
        · rfl
        · exact unique key id other old keptOther foundOld (same.trans sameOld.symm)
      · refine Or.inr ⟨kept, fun same => differ ?_⟩
        exact unique id stored row old kept foundOld (same.trans sameOld.symm)

theorem Stored.unique (stored : Stored relation db db') (unique : UniqueRelations db) :
    UniqueRelations db' := by
  intro i j a b foundA foundB same
  rcases stored.backward unique foundA with ⟨rfl, onlyA⟩ | ⟨oldA, otherA⟩
  · exact (onlyA j b foundB same.symm).symm
  · rcases stored.backward unique foundB with ⟨rfl, onlyB⟩ | ⟨oldB, -⟩
    · exact onlyB i a foundA same
    · exact unique i j a b oldA oldB same

theorem Stored.forward (stored : Stored relation db db') :
    (∃ id, (db' supplierSkus).find? id = some relation) ∧
      ∀ id row, (db supplierSkus).find? id = some row → ¬ SameKey row relation →
        (db' supplierSkus).find? id = some row := by
  cases stored with
  | created fresh relations =>
      rw [relations]
      refine ⟨⟨_, Table.find?_insert_nextId _ _⟩, ?_⟩
      intro id row found other
      exact Table.find?_insert_of_some found
  | @revised stored old foundOld sameOld relations =>
      rw [relations]
      refine ⟨⟨_, Table.find?_modify_self _ foundOld⟩, ?_⟩
      intro id row found other
      have differ : id ≠ stored := by
        rintro rfl
        rw [Option.some.inj (found.symm.trans foundOld)] at other
        exact other sameOld
      rw [Table.find?_modify_ne _ _ differ, found]

variable {command : SupplyContext} {body : WriteSupplierSku} {supplier : Supplier}

theorem Stored.onePrimary (stored : Stored relation db db') (unique : UniqueRelations db)
    (onePrimary : OnePrimary db) (found : (db suppliers).find? body.supplierId = some supplier)
    (requested : Requested command body supplier relation)
    (request : supplied event = some ⟨command, .writeSupplierSku body⟩) :
    OnePrimary db' ↔ ¬ Doubles db event := by
  constructor
  · rintro one ⟨_, _, other, named, foundOther, activates, primary, key, row, foundRow, factoryId,
      sku, supplierId, active, marked⟩
    rw [request] at named
    cases named
    obtain rfl := Option.some.inj (found.symm.trans foundOther)
    obtain ⟨⟨id, foundNew⟩, kept⟩ := stored.forward
    have differ : ¬ SameKey row relation := by
      intro same
      exact supplierId (same.2.1.trans requested.supplierId)
    have foundKept := kept key row foundRow differ
    have equal := one id key relation row foundNew foundKept
      (requested.factoryId.trans factoryId.symm) (requested.sku.trans sku.symm)
      (by rw [requested.status, if_pos activates]) active (requested.isPrimary.trans primary) marked
    subst equal
    rw [Option.some.inj (foundNew.symm.trans foundKept)] at differ
    exact differ ⟨rfl, rfl, rfl⟩
  · intro single
    -- the stored relation has no other primary one beside it
    have alone : ∀ key row, (db supplierSkus).find? key = some row → ¬ SameKey row relation →
        row.factoryId = relation.factoryId → row.sku = relation.sku → relation.status = .active →
        row.status = .active → relation.isPrimary = true → row.isPrimary = true → False := by
      intro key row foundRow differ factoryId sku active activeRow primary primaryRow
      apply single
      refine ⟨command, body, supplier, request, found, ?_, requested.isPrimary.symm.trans primary,
        key, row, foundRow, factoryId.trans requested.factoryId, sku.trans requested.sku, ?_,
        activeRow, primaryRow⟩
      · rw [requested.status] at active
        by_contra notDirect
        rw [if_neg notDirect] at active
        cases active
      · intro supplierId
        exact differ ⟨factoryId, supplierId.trans requested.supplierId.symm, sku⟩
    intro i j a b foundA foundB factoryId sku activeA activeB primaryA primaryB
    rcases stored.backward unique foundA with ⟨rfl, onlyA⟩ | ⟨oldA, otherA⟩
    · rcases stored.backward unique foundB with ⟨rfl, -⟩ | ⟨oldB, otherB⟩
      · exact (onlyA j _ foundB ⟨rfl, rfl, rfl⟩).symm
      · exact (alone j b oldB otherB factoryId.symm sku.symm activeA activeB primaryA primaryB).elim
    · rcases stored.backward unique foundB with ⟨rfl, -⟩ | ⟨oldB, -⟩
      · exact (alone i a oldA otherA factoryId sku activeB activeA primaryB primaryA).elim
      · exact onePrimary i j a b oldA oldB factoryId sku activeA activeB primaryA primaryB

end Stored

/-! ## Decisions -/

section Decided

variable {now id : Nat} {decision : Decision} {relation : SupplierSku}

/-- What a relation was before a decision: the decided one was pending, and
another keeps its mark only if it need not give it up. -/
theorem RelationDecided.backward (decided : RelationDecided now id decision relation db db')
    {key : Nat} {row : SupplierSku} (found : (db' supplierSkus).find? key = some row) :
    ∃ old, (db supplierSkus).find? key = some old ∧ SameKey row old ∧
      (key = id → old = relation ∧ row.isPrimary = relation.isPrimary ∧
        row.status = if decision = .approved then .active else .inactive) ∧
      (key ≠ id → row.status = old.status ∧ (row.isPrimary = true → old.isPrimary = true ∧
        ¬ (decision = .approved ∧ relation.isPrimary = true ∧
          old.factoryId = relation.factoryId ∧ old.sku = relation.sku))) := by
  have cleared : ∀ row, (if decision = .approved ∧ relation.isPrimary = true then
      unmarked (db supplierSkus) now id relation else db supplierSkus).find? key = some row →
      ∃ old, (db supplierSkus).find? key = some old ∧ SameKey row old ∧ row.status = old.status ∧
        (key = id → row = old) ∧ (key ≠ id → row.isPrimary = true → old.isPrimary = true ∧
          ¬ (decision = .approved ∧ relation.isPrimary = true ∧
            old.factoryId = relation.factoryId ∧ old.sku = relation.sku)) := by
    intro row foundRow
    by_cases clears : decision = .approved ∧ relation.isPrimary = true
    · rw [if_pos clears, unmarked, Table.find?_update] at foundRow
      obtain ⟨old, foundOld, rfl⟩ := Option.map_eq_some_iff.mp foundRow
      refine ⟨old, foundOld, ?_⟩
      split
      · rename_i marked
        simp only [Bool.and_eq_true, beq_iff_eq, bne_iff_ne, ne_eq] at marked
        refine ⟨⟨rfl, rfl, rfl⟩, rfl, fun same => absurd same marked.1.2, ?_⟩
        intro _ primary
        cases primary
      · rename_i unmarked
        refine ⟨⟨rfl, rfl, rfl⟩, rfl, fun _ => rfl, ?_⟩
        intro differ primary
        refine ⟨primary, ?_⟩
        rintro ⟨-, -, factoryId, sku⟩
        simp [factoryId, sku, differ, primary] at unmarked
    · rw [if_neg clears] at foundRow
      refine ⟨row, foundRow, ⟨rfl, rfl, rfl⟩, rfl, fun _ => rfl, ?_⟩
      intro _ primary
      exact ⟨primary, fun clash => clears ⟨clash.1, clash.2.1⟩⟩
  rw [decided.relations] at found
  rcases Table.find?_modify_cases found with ⟨rfl, mid, foundMid, rfl⟩ | ⟨differ, kept⟩
  · obtain ⟨old, foundOld, same, -, here, -⟩ := cleared mid foundMid
    obtain rfl := here rfl
    obtain rfl := Option.some.inj (foundOld.symm.trans decided.found)
    refine ⟨mid, foundOld, same, fun _ => ⟨rfl, rfl, rfl⟩, ?_⟩
    intro differ
    exact absurd rfl differ
  · obtain ⟨old, foundOld, same, status, -, marks⟩ := cleared row kept
    refine ⟨old, foundOld, same, fun here => absurd here differ, ?_⟩
    intro _
    exact ⟨status, marks differ⟩

theorem RelationDecided.unique (decided : RelationDecided now id decision relation db db')
    (unique : UniqueRelations db) : UniqueRelations db' := by
  intro i j a b foundA foundB same
  obtain ⟨oldA, fromA, sameA, -⟩ := decided.backward foundA
  obtain ⟨oldB, fromB, sameB, -⟩ := decided.backward foundB
  exact unique i j oldA oldB fromA fromB (sameA.symm.trans (same.trans sameB))

theorem RelationDecided.onePrimary (decided : RelationDecided now id decision relation db db')
    (onePrimary : OnePrimary db) : OnePrimary db' := by
  -- an active primary row beside the decided one has kept its mark, so it is not active
  have alone : ∀ {key : Nat} {a row : SupplierSku}, (db' supplierSkus).find? id = some a →
      (db' supplierSkus).find? key = some row → key ≠ id → row.factoryId = a.factoryId →
      row.sku = a.sku → a.status = .active → a.isPrimary = true → row.isPrimary = true → False := by
    intro key a row foundA foundRow differ factoryId sku active primary marked
    obtain ⟨oldA, -, sameA, here, -⟩ := decided.backward foundA
    obtain ⟨rfl, isPrimary, status⟩ := here rfl
    obtain ⟨old, -, same, -, elsewhere⟩ := decided.backward foundRow
    have approved : decision = .approved := by
      by_contra other
      rw [status, if_neg other] at active
      cases active
    apply ((elsewhere differ).2 marked).2
    exact ⟨approved, isPrimary.symm.trans primary, same.1.symm.trans (factoryId.trans sameA.1),
      same.2.2.symm.trans (sku.trans sameA.2.2)⟩
  intro i j a b foundA foundB factoryId sku activeA activeB primaryA primaryB
  by_cases hereA : i = id
  · by_cases hereB : j = id
    · rw [hereA, hereB]
    · subst hereA
      exact (alone foundA foundB hereB factoryId.symm sku.symm activeA primaryA primaryB).elim
  · by_cases hereB : j = id
    · subst hereB
      exact (alone foundB foundA hereA factoryId sku activeB primaryB primaryA).elim
    · obtain ⟨oldA, fromA, sameA, -, elsewhereA⟩ := decided.backward foundA
      obtain ⟨oldB, fromB, sameB, -, elsewhereB⟩ := decided.backward foundB
      obtain ⟨statusA, marksA⟩ := elsewhereA hereA
      obtain ⟨statusB, marksB⟩ := elsewhereB hereB
      exact onePrimary i j oldA oldB fromA fromB (sameA.1.symm.trans (factoryId.trans sameB.1))
        (sameA.2.2.symm.trans (sku.trans sameB.2.2)) (statusA.symm.trans activeA)
        (statusB.symm.trans activeB) (marksA primaryA).1 (marksB primaryB).1

end Decided

/-! ## Runs -/

/-- A step keeps the keys unique, and keeps the primary relation unique exactly
when it does not double it. -/
theorem Related.onePrimary (related : Related db event db') (unique : UniqueRelations db)
    (onePrimary : OnePrimary db) :
    UniqueRelations db' ∧ (OnePrimary db' ↔ ¬ Doubles db event) := by
  cases related with
  | written request found requested stored =>
      exact ⟨stored.unique unique, stored.onePrimary unique onePrimary found requested request⟩
  | decided notSupplied decided =>
      refine ⟨decided.unique unique, fun _ => ?_, fun _ => decided.onePrimary onePrimary⟩
      rintro ⟨_, _, _, named, -⟩
      rw [notSupplied] at named
      cases named
  | elsewhere notWritten relations =>
      unfold UniqueRelations OnePrimary
      rw [relations]
      refine ⟨unique, fun _ => ?_, fun _ => onePrimary⟩
      rintro ⟨command, body, _, named, -⟩
      exact notWritten command body named

theorem step_onePrimary (step : SupplyStep db event db') (unique : UniqueRelations db)
    (onePrimary : OnePrimary db) :
    UniqueRelations db' ∧ (OnePrimary db' ↔ ¬ Doubles db event) := by
  obtain ⟨mid, work, apart⟩ := step.works
  have last := apart supplierSkus (by decide)
  unfold UniqueRelations OnePrimary
  rw [last]
  exact (touched_related (work_touched work)).onePrimary unique onePrimary

/-- No relation has been asked for. -/
def Unrelated (db : Database) : Prop :=
  ∀ id, (db supplierSkus).find? id = none

/-- From a system without relations the primary relation of every factory and
sku is unique in every state of a run exactly when no step of the run doubles
it. -/
theorem primary_unique (opening : Unrelated db) :
    Run (fun a event b => SupplyStep a event b ∧ OnePrimary b) db events db' ↔
      Run (fun a event b => SupplyStep a event b ∧ ¬ Doubles a event) db events db' := by
  apply Run.iff_under (fun db => UniqueRelations db ∧ OnePrimary db)
  · intro a event b step onePrimary inside
    exact ⟨(step_onePrimary step inside.1 inside.2).1, onePrimary⟩
  · intro a event b step inside
    exact (step_onePrimary step inside.1 inside.2).2
  · constructor
    · intro i j a b foundA
      simp [opening i] at foundA
    · intro i j a b foundA
      simp [opening i] at foundA

/-- Two suppliers of the third tier that one factory manages. -/
def unrelatedDatabase : Database :=
  ((emptyDatabase.put factories (Table.empty.insert { code := "F" })).put
    suppliers ((Table.empty.insert (managed "A")).insert (managed "B"))).put
    skus (Table.empty.insert
      { code := "S", itemType := some "component", stockUnit := some "pcs"
        overproductionToleranceBps := 0, active := true })
where
  managed (code : String) : Supplier := { code, tier := some 3, managedByFactoryId := some 1 }

theorem unrelatedDatabase_opens : Unrelated unrelatedDatabase := by
  intro id
  rfl

/-- The factory activates the relation to a supplier as its primary one. -/
def activates (time supplierId : Nat) : Act :=
  .supply (supplyAt time
    { userId := 1, sessionId := some 1, roles := [.factory], factoryId := some 1
      supplierId := none }
    (.writeSupplierSku
      { factoryId := 1, supplierId, sku := "S", effectiveFrom := "2026-01-01", isPrimary := true }))

/-- Two primary relations of one sku are activated one after the other. -/
theorem primary_doubled : ∃ db', Run SupplyStep unrelatedDatabase
    ([activates 1 1, activates 2 2].map Act.event) db' ∧ ¬ OnePrimary db' := by
  obtain ⟨db', run, seen⟩ := replayActs_reaches [activates 1 1, activates 2 2] unrelatedDatabase
    (fun db => [1, 2].all fun id => ((db supplierSkus).find? id).any fun row =>
      row.factoryId == 1 && row.sku == "S" && row.status == .active && row.isPrimary)
    (by decide +kernel)
  refine ⟨db', run, fun one => ?_⟩
  simp only [List.all_cons, List.all_nil, Bool.and_true, Bool.and_eq_true, Option.any_eq_true,
    beq_iff_eq] at seen
  obtain ⟨⟨a, foundA, ⟨⟨factoryA, skuA⟩, activeA⟩, primaryA⟩, b, foundB,
    ⟨⟨factoryB, skuB⟩, activeB⟩, primaryB⟩ := seen
  have same := one 1 2 a b foundA foundB (factoryA.trans factoryB.symm) (skuA.trans skuB.symm)
    activeA activeB primaryA primaryB
  cases same

/-- The first of them alone is in order. -/
theorem primary_unique_first : ∃ db', ((db' supplierSkus).find? 1).isSome = true ∧
    (Run (fun a event b => SupplyStep a event b ∧ OnePrimary b) unrelatedDatabase
        ([activates 1 1].map Act.event) db' ↔
      Run (fun a event b => SupplyStep a event b ∧ ¬ Doubles a event) unrelatedDatabase
        ([activates 1 1].map Act.event) db') := by
  obtain ⟨db', -, seen⟩ := replayActs_reaches [activates 1 1] unrelatedDatabase
    (fun db => ((db supplierSkus).find? 1).isSome) (by decide +kernel)
  exact ⟨db', seen, primary_unique unrelatedDatabase_opens⟩

end SupplyChain.Suppliers
