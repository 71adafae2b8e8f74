import SupplyChain.Suppliers.Relations

/-!
The terms that a relation agrees. The request for other terms and the terms in
force share one row, so beside every run stands what is in force by the requests
that were activated or approved alone, and the row is compared with it.
-/

namespace SupplyChain.Suppliers

open Relational Transaction TableName Supply Procurement

variable {db db' : Database} {writes : List TableName} {event : SupplyEvent}
  {events : List SupplyEvent}

/-! ## What is agreed -/

structure Terms where
  isPrimary : Bool
  priority : Int
  minimumOrderQuantity : Int
  packagingMultiple : Int
  purchaseUnit : String
  leadTimeDays : Option Int
  dailyCapacity : Option Int
  monthlyCapacity : Option Int
  effectiveFrom : String

def termsOf (row : SupplierSku) : Terms where
  isPrimary := row.isPrimary
  priority := row.priority
  minimumOrderQuantity := row.minimumOrderQuantity
  packagingMultiple := row.packagingMultiple
  purchaseUnit := row.purchaseUnit
  leadTimeDays := row.leadTimeDays
  dailyCapacity := row.dailyCapacity
  monthlyCapacity := row.monthlyCapacity
  effectiveFrom := row.effectiveFrom

/-- The factory, the supplier and the sku. -/
abbrev RelationKey := Nat × Nat × String

def relationKey (row : SupplierSku) : RelationKey := (row.factoryId, row.supplierId, row.sku)

/-- The terms that a reader finds: every reader asks for an active row. -/
def ReadTerms (db : Database) (key : RelationKey) (terms : Terms) : Prop :=
  ∃ id row, (db supplierSkus).find? id = some row ∧ relationKey row = key ∧
    row.status = .active ∧ termsOf row = terms

/-- The key of a request. -/
def askedKey (body : WriteSupplierSku) : RelationKey :=
  (body.factoryId, body.supplierId, trim body.sku)

/-- The stock unit of the sku, which stands in for a purchase unit that is not given. -/
def stockUnitOf (db : Database) (sku : String) : Option String :=
  ((db skus).first? fun _ row => row.code == sku && row.active).bind (·.2.stockUnit)

/-- The terms of a request. -/
def askedTerms (db : Database) (body : WriteSupplierSku) : Terms where
  isPrimary := body.isPrimary
  priority := body.priority.getD 1
  minimumOrderQuantity := body.minimumOrderQuantity.getD 1
  packagingMultiple := body.packagingMultiple.getD 1
  purchaseUnit := ((body.purchaseUnit.filter (· ≠ "")).map trim).getD
    ((stockUnitOf db (trim body.sku)).getD "")
  leadTimeDays := body.leadTimeDays
  dailyCapacity := body.dailyCapacity
  monthlyCapacity := body.monthlyCapacity
  effectiveFrom := trim body.effectiveFrom

/-- The request takes effect without an approval. -/
def takesEffect (db : Database) (command : SupplyContext) (body : WriteSupplierSku) : Bool :=
  ((db suppliers).find? body.supplierId).any fun supplier =>
    activatesRelation command.access supplier.tier body.factoryId

/-! ## What is in force -/

/-- An approved primary relation takes the mark from the others of its factory and sku. -/
def demoted (relation : SupplierSku) (key : RelationKey) (terms : Terms) : Terms :=
  if relation.isPrimary ∧ key.1 = relation.factoryId ∧ key.2.2 = relation.sku then
    { terms with isPrimary := false }
  else terms

def afterApproval (relation : SupplierSku) (inForce : RelationKey → Option Terms)
    (key : RelationKey) : Option Terms :=
  if key = relationKey relation then some (termsOf relation)
  else (inForce key).map (demoted relation key)

/-- The relation that an event approves. -/
def approvedRelation (db : Database) (event : SupplyEvent) : Option SupplierSku :=
  (decides db event).bind fun verdict =>
    if verdict.1 = "supplier_sku_change" ∧ verdict.2.2 = .approved then
      (db supplierSkus).find? verdict.2.1.entityId
    else none

/-- What is in force after an event: a direct activation and an approval put terms in
force, a request that waits and a refusal leave them. -/
def nextForce (db : Database) (event : SupplyEvent) (inForce : RelationKey → Option Terms)
    (key : RelationKey) : Option Terms :=
  match event with
  | .supply ⟨command, .writeSupplierSku body⟩ =>
      if takesEffect db command body ∧ key = askedKey body then some (askedTerms db body)
      else inForce key
  | event => (approvedRelation db event).elim (inForce key) fun relation =>
      afterApproval relation inForce key

/-- The tables, and what is in force. -/
structure Governed where
  database : Database
  inForce : RelationKey → Option Terms

def GovernStep (a : Governed) (event : SupplyEvent) (b : Governed) : Prop :=
  SupplyStep a.database event b.database ∧ b.inForce = nextForce a.database event a.inForce

/-- The readers find what is in force. -/
def Faithful (state : Governed) : Prop :=
  ∀ key terms, ReadTerms state.database key terms ↔ state.inForce key = some terms

/-- Other terms are asked for than those of an active relation, and they have to wait for
an approval. -/
def Resubmits (db : Database) (event : SupplyEvent) : Prop :=
  match event with
  | .supply ⟨command, .writeSupplierSku body⟩ => takesEffect db command body = false ∧
      ∃ terms, ReadTerms db (askedKey body) terms
  | _ => False

/-! ## The writers -/

theorem optionalText_value {value : Option String} {maximum : Nat} {result : Option String}
    {sent : List String}
    (returns : (optionalText value maximum : SupplyTx writes _).Returns db result sent db') :
    result = (value.filter (· ≠ "")).map trim := by
  cases value with
  | none => exact (returns_pure.mp returns).1
  | some given =>
      rcases returns_ite.mp returns with ⟨rfl, done⟩ | ⟨stated, done⟩
      · exact (returns_pure.mp done).1
      · rw [(returns_pure.mp (returns_bind_text.mp done).2).1]
        simp [Option.filter, stated]

theorem optionalPositive_value {value result : Option Int} {sent : List String}
    (returns : (optionalPositive value : SupplyTx writes _).Returns db result sent db') :
    result = value := by
  cases value with
  | none => exact (returns_pure.mp returns).1
  | some given => exact (returns_pure.mp (returns_bind_positiveInteger.mp returns).2).1

theorem optionalNonNegative_value {value result : Option Int} {sent : List String}
    (returns : (optionalNonNegative value : SupplyTx writes _).Returns db result sent db') :
    result = value := by
  cases value with
  | none => exact (returns_pure.mp returns).1
  | some given => exact (returns_pure.mp (returns_bind_nonNegativeInteger.mp returns).2).1

theorem relationOf_terms {command : SupplyContext} {body : WriteSupplierSku} {sku : String}
    {stockUnit : Option String} {directFactory : Bool} {relation : SupplierSku}
    {sent : List String} (unit : stockUnit = stockUnitOf db (trim body.sku))
    (returns : (relationOf command body sku (trim body.effectiveFrom) stockUnit directFactory :
      SupplyTx writes _).Returns db relation sent db') :
    termsOf relation = askedTerms db body := by
  simp only [relationOf, returns_bind_positiveInteger] at returns
  obtain ⟨-, -, -, returns⟩ := returns
  rw [returns_bind_of_reads optional_reads] at returns
  obtain ⟨_, purchaseUnit, returns⟩ := returns
  rw [returns_bind_of_reads optionalNonNegative_reads] at returns
  obtain ⟨_, leadTime, returns⟩ := returns
  rw [returns_bind_of_reads optionalPositive_reads] at returns
  obtain ⟨_, daily, returns⟩ := returns
  rw [returns_bind_of_reads optionalPositive_reads] at returns
  obtain ⟨_, monthly, returns⟩ := returns
  obtain rfl := optionalText_value purchaseUnit
  obtain rfl := optionalNonNegative_value leadTime
  obtain rfl := optionalPositive_value daily
  obtain rfl := optionalPositive_value monthly
  obtain ⟨rfl, -, -⟩ := returns_pure.mp returns
  rw [unit]
  rfl

/-- What a committed request stored: the terms that it asks for, active only if it takes
effect. -/
structure AskedFor (command : SupplyContext) (body : WriteSupplierSku) (relation : SupplierSku)
    (db db' : Database) : Prop where
  key : relationKey relation = askedKey body
  terms : termsOf relation = askedTerms db body
  status : relation.status = if takesEffect db command body then .active else .pending
  stored : Stored relation db db'

theorem writeSupplierSku_asks {command : SupplyContext} {body : WriteSupplierSku}
    {reply : JsonValue} {sent : List String}
    (returns : (writeSupplierSku command body).Returns db reply sent db') :
    ∃ relation, AskedFor command body relation db db' := by
  obtain ⟨supplier, stocked, relation, found, sold, asked, stored⟩ :=
    writeSupplierSku_stores returns
  obtain ⟨-, factoryId, supplierId, sku, -, status⟩ := relationOf_returns asked
  refine ⟨relation, ?_, relationOf_terms ?_ asked, ?_, stored⟩
  · rw [relationKey, factoryId, supplierId, sku, askedKey]
  · rw [stockUnitOf, sold]
    rfl
  · rw [status, takesEffect, found]
    rfl

theorem sameKey_iff {a b : SupplierSku} : SameKey a b ↔ relationKey a = relationKey b := by
  simp [SameKey, relationKey]

/-- After a request, the readers of its relation find the terms that it asks for if it
takes effect, and none if it does not. -/
theorem AskedFor.read {command : SupplyContext} {body : WriteSupplierSku} {relation : SupplierSku}
    (asked : AskedFor command body relation db db') (unique : UniqueRelations db)
    (key : RelationKey) (terms : Terms) :
    ReadTerms db' key terms ↔
      if key = askedKey body then takesEffect db command body = true ∧ askedTerms db body = terms
      else ReadTerms db key terms := by
  obtain ⟨⟨id, foundNew⟩, kept⟩ := asked.stored.forward
  have active : relation.status = .active ↔ takesEffect db command body = true := by
    rw [asked.status]
    cases takesEffect db command body <;> simp
  split
  · rename_i own
    subst own
    constructor
    · rintro ⟨id, row, found, named, status, rfl⟩
      rcases asked.stored.backward unique found with ⟨rfl, -⟩ | ⟨-, other⟩
      · exact ⟨active.mp status, asked.terms.symm⟩
      · exact absurd (sameKey_iff.mpr (named.trans asked.key.symm)) other
    · rintro ⟨effective, rfl⟩
      exact ⟨id, relation, foundNew, asked.key, active.mpr effective, asked.terms⟩
  · rename_i other
    constructor
    · rintro ⟨id, row, found, named, status, same⟩
      rcases asked.stored.backward unique found with ⟨rfl, -⟩ | ⟨old, -⟩
      · exact absurd (named.symm.trans asked.key) other
      · exact ⟨id, row, old, named, status, same⟩
    · rintro ⟨id, row, found, named, status, same⟩
      refine ⟨id, row, kept id row found fun shared => ?_, named, status, same⟩
      exact other (named.symm.trans ((sameKey_iff.mp shared).trans asked.key))

/-! ## The decisions -/

section Decided

variable {now id : Nat} {decision : Decision} {relation : SupplierSku}

/-- A row after a decision about the relation under the key. -/
def decidedRow (now id : Nat) (decision : Decision) (relation : SupplierSku) (key : Nat)
    (row : SupplierSku) : SupplierSku :=
  if key = id then
    { row with
      status := if decision = .approved then .active else .inactive, updatedAt := now }
  else if decision = .approved ∧ relation.isPrimary = true ∧
      row.factoryId = relation.factoryId ∧ row.sku = relation.sku ∧ row.isPrimary = true then
    { row with isPrimary := false, updatedAt := now }
  else row

theorem RelationDecided.find? (decided : RelationDecided now id decision relation db db')
    (key : Nat) : (db' supplierSkus).find? key =
      ((db supplierSkus).find? key).map (decidedRow now id decision relation key) := by
  rw [decided.relations]
  by_cases own : key = id
  · subst own
    rw [decided.found]
    split
    · rename_i clears
      have found : (unmarked (db supplierSkus) now key relation).find? key = some relation := by
        simp [unmarked, Table.find?_update, decided.found]
      rw [Table.find?_modify_self _ found]
      simp [decidedRow]
    · rw [Table.find?_modify_self _ decided.found]
      simp [decidedRow]
  · rw [Table.find?_modify_ne _ _ own]
    split
    · rename_i clears
      rw [unmarked, Table.find?_update]
      congr 1
      funext row
      simp [decidedRow, own, clears, and_assoc]
    · rename_i keeps
      have same : decidedRow now id decision relation key = fun row => row := by
        funext row
        rw [decidedRow, if_neg own, if_neg]
        rintro ⟨approved, primary, -⟩
        exact keeps ⟨approved, primary⟩
      rw [same, Option.map_id']

theorem decidedRow_key {key : Nat} {row : SupplierSku} :
    relationKey (decidedRow now id decision relation key row) = relationKey row := by
  unfold decidedRow
  split
  · rfl
  · split <;> rfl

theorem decidedRow_other {key : Nat} {row : SupplierSku} (other : key ≠ id) :
    (decidedRow now id decision relation key row).status = row.status ∧
      termsOf (decidedRow now id decision relation key row) =
        if decision = .approved then demoted relation (relationKey row) (termsOf row)
        else termsOf row := by
  rw [decidedRow, if_neg other]
  cases decision with
  | rejected => simp
  | approved =>
      by_cases marked : relation.isPrimary = true ∧ row.factoryId = relation.factoryId ∧
          row.sku = relation.sku
      · -- the mark is gone, also where there was none
        cases primary : row.isPrimary <;> simp [demoted, relationKey, marked, primary, termsOf]
      · have apart : ¬ (relation.isPrimary = true ∧ row.factoryId = relation.factoryId ∧
            row.sku = relation.sku ∧ row.isPrimary = true) :=
          fun all => marked ⟨all.1, all.2.1, all.2.2.1⟩
        simp [demoted, relationKey, marked, apart]

theorem RelationDecided.read_approved
    (decided : RelationDecided now id .approved relation db db') (unique : UniqueRelations db)
    (key : RelationKey) (terms : Terms) :
    ReadTerms db' key terms ↔ if key = relationKey relation then terms = termsOf relation
      else ∃ old, ReadTerms db key old ∧ demoted relation key old = terms := by
  have own : ∀ other row, (db supplierSkus).find? other = some row →
      relationKey row = relationKey relation → other = id := by
    intro other row found same
    exact unique other id row relation found decided.found (sameKey_iff.mpr same)
  constructor
  · rintro ⟨other, row, found, rfl, active, rfl⟩
    rw [decided.find?, Option.map_eq_some_iff] at found
    obtain ⟨old, foundOld, rfl⟩ := found
    rw [decidedRow_key]
    by_cases here : other = id
    · subst here
      obtain rfl := Option.some.inj (decided.found.symm.trans foundOld)
      rw [if_pos rfl, decidedRow, if_pos rfl]
      rfl
    · obtain ⟨status, terms⟩ := @decidedRow_other now id .approved relation other old here
      rw [if_neg fun same => here (own other old foundOld same), terms, if_pos rfl]
      exact ⟨_, ⟨other, old, foundOld, rfl, status ▸ active, rfl⟩, rfl⟩
  · split
    · rintro rfl
      rename_i same
      subst same
      refine ⟨id, decidedRow now id .approved relation id relation, ?_, decidedRow_key, ?_, ?_⟩
      · rw [decided.find?, decided.found, Option.map_some]
      · rw [decidedRow, if_pos rfl, if_pos rfl]
      · rw [decidedRow, if_pos rfl]
        rfl
    · rename_i differ
      rintro ⟨_, ⟨other, old, foundOld, rfl, active, rfl⟩, rfl⟩
      have there : other ≠ id := by
        rintro rfl
        rw [Option.some.inj (foundOld.symm.trans decided.found)] at differ
        exact differ rfl
      obtain ⟨status, terms⟩ := @decidedRow_other now id .approved relation other old there
      refine ⟨other, decidedRow now id .approved relation other old, ?_, decidedRow_key,
        status.trans active, terms⟩
      rw [decided.find?, foundOld, Option.map_some]

/-- A refused request leaves what the readers find: its relation was and is not active. -/
theorem RelationDecided.read_rejected
    (decided : RelationDecided now id .rejected relation db db') (key : RelationKey)
    (terms : Terms) : ReadTerms db' key terms ↔ ReadTerms db key terms := by
  constructor
  · rintro ⟨other, row, found, rfl, active, rfl⟩
    rw [decided.find?, Option.map_eq_some_iff] at found
    obtain ⟨old, foundOld, rfl⟩ := found
    by_cases here : other = id
    · rw [decidedRow, if_pos here] at active
      cases active
    · obtain ⟨status, terms⟩ := @decidedRow_other now id .rejected relation other old here
      rw [terms, decidedRow_key]
      exact ⟨other, old, foundOld, rfl, status ▸ active, rfl⟩
  · rintro ⟨other, old, foundOld, rfl, active, rfl⟩
    have there : other ≠ id := by
      rintro rfl
      rw [Option.some.inj (foundOld.symm.trans decided.found), decided.pending] at active
      cases active
    obtain ⟨status, terms⟩ := @decidedRow_other now id .rejected relation other old there
    refine ⟨other, decidedRow now id .rejected relation other old, ?_, decidedRow_key,
      status.trans active, terms⟩
    rw [decided.find?, foundOld, Option.map_some]

end Decided

/-! ## Steps -/

/-- What a step does to the relations and their terms. -/
inductive Resolved (db : Database) (event : SupplyEvent) (db' : Database) : Prop
  | asked {command : SupplyContext} {body : WriteSupplierSku} {relation : SupplierSku}
      (request : event = .supply ⟨command, .writeSupplierSku body⟩)
      (asked : AskedFor command body relation db db')
  | decided {approval : ApprovalRequest} {decision : Decision} {now : Nat} {relation : SupplierSku}
      (notSupplied : supplied event = none)
      (verdict : decides db event = some ("supplier_sku_change", approval, decision))
      (decided : RelationDecided now approval.entityId decision relation db db')
  | elsewhere (notWritten : ∀ command body,
        supplied event ≠ some ⟨command, .writeSupplierSku body⟩)
      (undecided : approvedRelation db event = none)
      (relations : db' supplierSkus = db supplierSkus)

theorem touched_resolved (touched : Touched db event db') : Resolved db event db' := by
  cases touched with
  | @supply _ request reply sent returns =>
      obtain ⟨command, body⟩ := request
      unfold runSupply at returns
      cases body with
      | writeSupplierSku body =>
          obtain ⟨relation, asked⟩ := writeSupplierSku_asks (returns_widen.mp returns)
          exact Resolved.asked rfl asked
      | _ =>
          have unwritten := (returns_widen.mp returns).unwritten
          exact Resolved.elsewhere (by simp [supplied]) rfl (unwritten _ (by decide))
  | @applied _ command body name approval applied =>
      have verdict := applied.decides
      obtain ⟨claimed, mid, after, same, before, ran, last⟩ := applied.effect
      have first := planned_before before supplierSkus (by decide)
      have final := planned_last last supplierSkus (by decide)
      cases ran with
      | relation returns =>
          obtain ⟨relation, decided⟩ := applySupplierSku_returns returns
          rw [same.2.1] at decided
          exact Resolved.decided rfl verdict (decided.congr first final)
      | unknown other same =>
          subst same
          refine Resolved.elsewhere (by simp [supplied]) ?_ (final.trans first)
          have differ : name ≠ "supplier_sku_change" := by
            rintro rfl
            exact other (by decide)
          simp [approvedRelation, verdict, differ]
      | _ =>
          rename_i returns
          refine Resolved.elsewhere (by simp [supplied]) ?_ ?_
          · simp [approvedRelation, verdict]
          · rw [final, returns.unwritten _ (by decide), first]
  | apart notSupplied undecided own =>
      refine Resolved.elsewhere (by simp [notSupplied]) ?_ (own _ (by decide))
      rw [approvedRelation, undecided]
      rfl

theorem nextForce_unwritten {inForce : RelationKey → Option Terms} {key : RelationKey}
    (notWritten : ∀ command body, supplied event ≠ some ⟨command, .writeSupplierSku body⟩) :
    nextForce db event inForce key = (approvedRelation db event).elim (inForce key)
      fun relation => afterApproval relation inForce key := by
  unfold nextForce
  split
  · rename_i command body
    exact absurd rfl (notWritten command body)
  · rfl

theorem Resolved.unique (resolved : Resolved db event db') (unique : UniqueRelations db) :
    UniqueRelations db' := by
  cases resolved with
  | asked _ asked => exact asked.stored.unique unique
  | decided _ _ decided => exact decided.unique unique
  | elsewhere _ _ relations =>
      unfold UniqueRelations
      rw [relations]
      exact unique

/-- The readers find what is in force after a step exactly if it was no request for other
terms of an active relation that has to wait. -/
theorem Resolved.faithful (resolved : Resolved db event db') (unique : UniqueRelations db)
    {inForce : RelationKey → Option Terms}
    (faithful : ∀ key terms, ReadTerms db key terms ↔ inForce key = some terms) :
    (∀ key terms, ReadTerms db' key terms ↔ nextForce db event inForce key = some terms) ↔
      ¬ Resubmits db event := by
  cases resolved with
  | @asked command body relation request asked =>
      subst request
      simp only [asked.read unique, Resubmits, nextForce]
      cases effective : takesEffect db command body with
      | true =>
          apply iff_of_true
          · intro key terms
            by_cases own : key = askedKey body
            · simp [own]
            · simp [own, faithful]
          · rintro ⟨none, -⟩
            cases none
      | false =>
          constructor
          · rintro kept ⟨-, terms, read⟩
            have gone := (kept (askedKey body) terms).mpr
            rw [if_pos rfl] at gone
            have still := gone (by simpa using (faithful _ terms).mp read)
            cases still.1
          · intro fresh key terms
            by_cases own : key = askedKey body
            · subst own
              simp only [if_true, Bool.false_eq_true, false_and, if_false, false_iff]
              intro held
              exact fresh ⟨rfl, terms, (faithful _ terms).mpr held⟩
            · simp [own, faithful]
  | @decided approval decision now relation notSupplied verdict decided =>
      have notWritten : ∀ command body, supplied event ≠ some ⟨command, .writeSupplierSku body⟩ := by
        intro command body
        rw [notSupplied]
        intro none
        cases none
      simp only [nextForce_unwritten notWritten]
      apply iff_of_true
      · intro key terms
        cases decision with
        | approved =>
            have approves : approvedRelation db event = some relation := by
              simp [approvedRelation, verdict, decided.found]
            rw [decided.read_approved unique, approves, Option.elim_some, afterApproval]
            split
            · rw [Option.some.injEq, eq_comm]
            · simp only [Option.map_eq_some_iff, faithful]
        | rejected =>
            have approves : approvedRelation db event = none := by
              simp [approvedRelation, verdict]
            rw [decided.read_rejected, approves, Option.elim_none, faithful]
      · unfold Resubmits
        split
        · cases notSupplied
        · exact not_false
  | elsewhere notWritten undecided relations =>
      simp only [nextForce_unwritten notWritten, undecided, Option.elim_none]
      apply iff_of_true
      · intro key terms
        rw [← faithful, ReadTerms, relations]
        rfl
      · unfold Resubmits
        split
        · exact absurd rfl (notWritten _ _)
        · exact not_false

/-! ## Runs -/

theorem governStep_faithful {a b : Governed} (step : GovernStep a event b)
    (unique : UniqueRelations a.database) (faithful : Faithful a) :
    UniqueRelations b.database ∧ (Faithful b ↔ ¬ Resubmits a.database event) := by
  obtain ⟨mid, work, apart⟩ := step.1.works
  have resolved := touched_resolved (work_touched work)
  have last := apart supplierSkus (by decide)
  constructor
  · unfold UniqueRelations
    rw [last]
    exact resolved.unique unique
  · unfold Faithful ReadTerms
    rw [last, step.2]
    exact resolved.faithful unique faithful

/-- In every state of a run the readers find the terms of the last activation or approval
exactly if no step of it asks for other terms of an active relation that have to wait for
an approval. -/
theorem terms_in_force {opening last : Governed} (unique : UniqueRelations opening.database)
    (faithful : Faithful opening) :
    Run (fun a event b => GovernStep a event b ∧ Faithful b) opening events last ↔
      Run (fun a event b => GovernStep a event b ∧ ¬ Resubmits a.database event)
        opening events last := by
  apply Run.iff_under fun state => UniqueRelations state.database ∧ Faithful state
  · intro a event b step faithful inside
    exact ⟨(governStep_faithful step inside.1 inside.2).1, faithful⟩
  · intro a event b step inside
    exact (governStep_faithful step inside.1 inside.2).2
  · exact ⟨unique, faithful⟩

/-- The relation that an order is placed under is one that is in force on its date. -/
theorem ordersUnder_iff {state : Governed} (faithful : Faithful state) {factoryId supplierId : Nat}
    {sku orderDate : String} :
    ((state.database supplierSkus).any fun _ row => row.factoryId == factoryId &&
        row.supplierId == supplierId && row.sku == sku && row.status == .active &&
          decide (row.effectiveFrom ≤ orderDate)) = true ↔
      ∃ terms, state.inForce (factoryId, supplierId, sku) = some terms ∧
        terms.effectiveFrom ≤ orderDate := by
  simp only [← faithful _ _, Table.any_eq_true, Bool.and_eq_true, beq_iff_eq, decide_eq_true_eq]
  constructor
  · rintro ⟨id, row, found, ⟨⟨⟨rfl, rfl⟩, rfl⟩, active⟩, begun⟩
    exact ⟨termsOf row, ⟨id, row, found, rfl, active, rfl⟩, begun⟩
  · rintro ⟨_, ⟨id, row, found, named, active, rfl⟩, begun⟩
    cases named
    exact ⟨id, row, found, ⟨⟨⟨rfl, rfl⟩, rfl⟩, active⟩, begun⟩

/-- A price needs a relation that is in force, of the own factory where one is given. -/
theorem activeRelations_iff {state : Governed} (faithful : Faithful state) {supplierId : Nat}
    {sku : String} {factoryId : Option Nat} :
    activeRelations state.database supplierId sku factoryId ≠ [] ↔
      ∃ factory, (∀ own ∈ factoryId, factory = own) ∧
        (state.inForce (factory, supplierId, sku)).isSome = true := by
  have passes : ∀ row : SupplierSku, (factoryId.all fun id => row.factoryId == id) = true ↔
      ∀ own ∈ factoryId, row.factoryId = own := by
    intro row
    cases factoryId <;> simp
  rw [activeRelations, ne_eq, List.map_eq_nil_iff, Table.select_eq_nil]
  simp only [not_forall, Bool.not_eq_false, Bool.and_eq_true, beq_iff_eq, passes,
    Option.isSome_iff_exists, ← faithful _ _]
  constructor
  · rintro ⟨id, row, found, ⟨⟨rfl, rfl⟩, active⟩, own⟩
    exact ⟨row.factoryId, own, termsOf row, id, row, found, rfl, active, rfl⟩
  · rintro ⟨factory, own, terms, id, row, found, named, active, -⟩
    cases named
    exact ⟨id, row, found, ⟨⟨rfl, rfl⟩, active⟩, own⟩

/-! ## One relation -/

/-- The supply chain asks for other terms of the relation of the first supplier. -/
def resubmits (time : Nat) : Act :=
  .supply (supplyAt time
    { userId := 2, sessionId := some 2, roles := [.supplyChain], factoryId := none
      supplierId := none }
    (.writeSupplierSku
      { factoryId := 1, supplierId := 1, sku := "S", effectiveFrom := "2026-06-01" }))

theorem governed_run {acts : List Act} {db db' : Database}
    (run : Run SupplyStep db (acts.map Act.event) db') (inForce : RelationKey → Option Terms) :
    ∃ inForce', Run GovernStep ⟨db, inForce⟩ (acts.map Act.event) ⟨db', inForce'⟩ := by
  induction acts generalizing db inForce with
  | nil =>
      cases run
      exact ⟨inForce, Run.done⟩
  | cons one rest ih =>
      cases run with
      | next first later =>
          obtain ⟨inForce', run⟩ := ih later (nextForce db one.event inForce)
          exact ⟨inForce', Run.next ⟨first, rfl⟩ run⟩

theorem unrelated_faithful : UniqueRelations unrelatedDatabase ∧
    Faithful ⟨unrelatedDatabase, fun _ => none⟩ := by
  constructor
  · intro i j a b found
    cases found
  · intro key terms
    apply iff_of_false
    · rintro ⟨id, row, found, -⟩
      cases found
    · intro none
      cases none

/-- The relation that the factory activates is in force, and read so. -/
theorem terms_in_force_active : ∃ last, (last.inForce (1, 1, "S")).isSome = true ∧
    Run (fun a event b => GovernStep a event b ∧ Faithful b) ⟨unrelatedDatabase, fun _ => none⟩
      ([activates 1 1].map Act.event) last := by
  obtain ⟨db, run, -⟩ := replayActs_reaches [activates 1 1] unrelatedDatabase (fun _ => true)
    (by decide +kernel)
  obtain ⟨inForce, run⟩ := governed_run run fun _ => none
  have fresh : ¬ Resubmits unrelatedDatabase (activates 1 1).event := by
    rintro ⟨none, -⟩
    exact absurd none (by decide)
  refine ⟨⟨db, inForce⟩, ?_, (terms_in_force unrelated_faithful.1 unrelated_faithful.2).mpr ?_⟩
  · cases run with
    | next first later =>
        cases later
        rw [show inForce = _ from first.2]
        rfl
  · cases run with
    | next first later =>
        cases later
        exact Run.single ⟨first, fresh⟩

theorem resubmits_waits (db : Database) (inForce : RelationKey → Option Terms) (time : Nat) :
    nextForce db (resubmits time).event inForce = inForce := by
  funext key
  apply if_neg
  rintro ⟨effective, -⟩
  obtain ⟨supplier, -, activates⟩ := Option.any_eq_true _ _ |>.mp effective
  cases activates

/-- A request that waits for its approval takes the relation out of force. -/
theorem terms_out_of_force : ¬ ∀ (opening last : Governed) (events : List SupplyEvent),
    UniqueRelations opening.database → Faithful opening → Run GovernStep opening events last →
      Faithful last := by
  intro always
  obtain ⟨db, run, seen⟩ := replayActs_reaches [activates 1 1, resubmits 2] unrelatedDatabase
    (fun db => !(db supplierSkus).any fun _ row => row.status == .active) (by decide +kernel)
  obtain ⟨inForce, run⟩ := governed_run run fun _ => none
  have faithful := always _ _ _ unrelated_faithful.1 unrelated_faithful.2 run
  have active : (inForce (1, 1, "S")).isSome = true := by
    cases run with
    | next first later =>
        cases later with
        | next second done =>
            cases done
            rw [show inForce = _ from second.2, resubmits_waits, first.2]
            rfl
  obtain ⟨terms, held⟩ := Option.isSome_iff_exists.mp active
  obtain ⟨id, row, found, -, status, -⟩ := (faithful _ _).mpr held
  rw [Bool.not_eq_true', Table.any_eq_false] at seen
  have none := seen id row found
  rw [status] at none
  cases none

end SupplyChain.Suppliers
