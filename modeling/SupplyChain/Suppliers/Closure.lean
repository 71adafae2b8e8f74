import SupplyChain.Suppliers.Performance
import Mathlib.Data.List.Dedup
import Mathlib.Data.List.Perm.Subperm

/-!
The read of the supplier-SKU relations with the suppliers, factories and skus
that they name. The four lists have limits, orders and filters of their own, and
the read answers only if each relation finds what it names in the other three.
-/

namespace SupplyChain.Suppliers

open Relational Transaction TableName

variable {Row α : Type} {db : Database}

/-! ## The rows of a limited query -/

theorem countP_lt {p q : α → Bool} {rows : List α} {row : α} (member : row ∈ rows)
    (implies : ∀ other ∈ rows, p other = true → q other = true) (own : q row = true)
    (not : p row = false) : rows.countP p < rows.countP q := by
  induction rows with
  | nil => cases member
  | cons first rest ih =>
      have tail : rest.countP p ≤ rest.countP q :=
        List.countP_mono_left fun other inside => implies other (List.mem_cons_of_mem _ inside)
      rw [List.countP_cons, List.countP_cons]
      rcases List.mem_cons.mp member with rfl | inside
      · rw [if_pos own, if_neg (by simp [not])]
        omega
      · have less := ih inside fun other inside => implies other (List.mem_cons_of_mem _ inside)
        by_cases head : p first = true
        · rw [if_pos head, if_pos (implies first List.mem_cons_self head)]
          omega
        · rw [if_neg head]
          omega

/-- An order in which of two different rows one comes before the other. -/
structure Ordered (before : α → α → Bool) (rows : List α) : Prop where
  irrefl : ∀ row, before row row = false
  trans : ∀ a b c, before a b = true → before b c = true → before a c = true
  total : rows.Pairwise fun a b => before a b = true ∨ before b a = true

theorem Ordered.fewer {before : α → α → Bool} {rows : List α} (ordered : Ordered before rows)
    {a b : α} (member : a ∈ rows) (first : before a b = true) :
    rows.countP (fun other => before other a) < rows.countP fun other => before other b :=
  countP_lt member (fun other _ sooner => ordered.trans other a b sooner first) first
    (ordered.irrefl a)

/-- A limited query returns no more rows than its limit: their ranks differ. -/
theorem limited_length_le {before : α → α → Bool} {rows : List α} {limit : Nat}
    (ordered : Ordered before rows) : (limited before limit rows).length ≤ limit := by
  let rank := fun row => rows.countP fun other => before other row
  have inside : ∀ row ∈ limited before limit rows, row ∈ rows ∧ rank row < limit := by
    intro row member
    obtain ⟨there, below⟩ := List.mem_filter.mp member
    exact ⟨there, of_decide_eq_true below⟩
  have apart : ((limited before limit rows).map rank).Nodup := by
    rw [List.Nodup, List.pairwise_map]
    have total : (limited before limit rows).Pairwise fun a b =>
      before a b = true ∨ before b a = true := ordered.total.sublist List.filter_sublist
    apply total.imp_of_mem
    intro a b here there differ
    rcases differ with first | first
    · exact Nat.ne_of_lt (ordered.fewer (inside a here).1 first)
    · exact (Nat.ne_of_lt (ordered.fewer (inside b there).1 first)).symm
  have range : (limited before limit rows).map rank ⊆ List.range limit := by
    intro count member
    obtain ⟨row, there, rfl⟩ := List.mem_map.mp member
    exact List.mem_range.mpr (inside row there).2
  have shorter := (apart.subperm range).length_le
  rwa [List.length_map, List.length_range] at shorter

/-- `ORDER BY updated_at DESC, id DESC` -/
def newestFirst (updatedAt : Nat → Nat) (id other : Nat) : Bool :=
  decide (updatedAt other < updatedAt id ∨ updatedAt id = updatedAt other ∧ other < id)

/-- `ORDER BY id DESC` -/
def lastFirst (id other : Nat) : Bool := decide (other < id)

theorem newestFirst_ordered (updatedAt : Nat → Nat) (t : Table Row) (guard : Nat → Row → Bool) :
    Ordered (fun a b => newestFirst updatedAt a.1 b.1) (t.select guard) where
  irrefl row := by simp [newestFirst]
  trans a b c first second := by
    simp only [newestFirst, decide_eq_true_eq] at first second ⊢
    omega
  total := by
    apply (t.select_ascending guard).imp
    intro a b less
    simp only [newestFirst, decide_eq_true_eq]
    omega

theorem lastFirst_ordered (t : Table Row) (guard : Nat → Row → Bool) :
    Ordered (fun a b => lastFirst a.1 b.1) (t.select guard) where
  irrefl row := by simp [lastFirst]
  trans a b c first second := by
    simp only [lastFirst, decide_eq_true_eq] at first second ⊢
    omega
  total := by
    apply (t.select_ascending guard).imp
    intro a b less
    simp only [lastFirst, decide_eq_true_eq]
    omega

/-- The row passes the filter, and of those that pass fewer than the limit come
before it. -/
def Shown (t : Table Row) (visible : Nat → Row → Bool) (before : Nat → Nat → Bool) (limit : Nat)
    (id : Nat) (row : Row) : Prop :=
  t.find? id = some row ∧ visible id row = true ∧
    (t.select fun other shown => visible other shown && before other id).length < limit

theorem mem_limited {t : Table Row} {visible : Nat → Row → Bool} {before : Nat → Nat → Bool}
    {limit id : Nat} {row : Row} :
    (id, row) ∈ limited (fun a b => before a.1 b.1) limit (t.select visible) ↔
      Shown t visible before limit id row := by
  have counts : (t.select visible).countP (fun other => before other.1 id) =
      (t.select fun other shown => visible other shown && before other id).length := by
    rw [List.countP_eq_length_filter, Table.select, Table.select, List.filter_filter]
    congr 1
    apply List.filter_congr
    intro other _
    exact Bool.and_comm _ _
  rw [limited, List.mem_filter, Table.mem_select, decide_eq_true_eq, counts, Shown, and_assoc]

/-! ## The readers -/

inductive DataScope
  | internal
  | factory (factoryId : Nat)
  | supplier (supplierId : Nat)
  | factorySupplier (factoryId supplierId : Nat)

inductive SupplierReadError
  | unavailable
  deriving DecidableEq

/-- The `updated_at` columns. -/
structure UpdateTimes where
  suppliers : Nat → Nat
  factories : Nat → Nat
  skus : Nat → Nat

def factoryLimit : Nat := 200
def relationLimit : Nat := 500
def skuLimit : Nat := 1000

def integerColumn (value : Int) : Bool := decide (isSafeInteger value ∧ 1 ≤ value)

def supplierSummary (row : Nat × Supplier) : Bool :=
  integerColumn row.1 && row.2.code != "" && row.2.tier.all integerColumn &&
    row.2.managedByFactoryId.all fun id => integerColumn id

def factory (row : Nat × Factory) : Bool :=
  integerColumn row.1 && row.2.code != ""

def sku (row : Nat × Sku) : Bool :=
  integerColumn row.1 && row.2.code != "" &&
    row.2.itemType.all fun itemType => ["finished", "auxiliary", "component"].contains itemType

def relation (row : Nat × SupplierSku) : Bool :=
  integerColumn row.1 && integerColumn row.2.factoryId && integerColumn row.2.supplierId &&
    row.2.sku != "" && integerColumn row.2.priority &&
    integerColumn row.2.minimumOrderQuantity && integerColumn row.2.packagingMultiple &&
    (row.2.leadTimeDays.all fun days => decide (isSafeInteger days ∧ 0 ≤ days)) &&
    row.2.dailyCapacity.all integerColumn && row.2.monthlyCapacity.all integerColumn &&
    (Calendar.parse row.2.effectiveFrom).isSome

/-- `ensureBoundedRows(rows, limit).map(decode)`; `decodes` says which rows the
decoder takes. -/
def boundedRows (decodes : Nat × Row → Bool) (limit : Nat) (rows : List (Nat × Row)) :
    Except SupplierReadError (List (Nat × Row)) :=
  if limit < rows.length then .error .unavailable
  else if rows.all decodes = true then .ok rows
  else .error .unavailable

def placeholders (count maximum : Nat) : Except SupplierReadError Unit :=
  if count = 0 ∨ maximum < count then .error .unavailable else .ok ()

def uniqueIntegers (values : List Nat) : List Nat := values.dedup
def uniqueStrings (values : List String) : List String := values.dedup

def withinScope : DataScope → SupplierSku → Bool
  | .internal, _ => true
  | .factory factoryId, row => row.factoryId == factoryId
  | .supplier supplierId, row => row.supplierId == supplierId
  | .factorySupplier factoryId supplierId, row =>
      row.factoryId == factoryId || row.supplierId == supplierId

/-- The newest relations within the scope. -/
def scopedRelations (db : Database) (scope : DataScope) : List (Nat × SupplierSku) :=
  limited (fun a b => lastFirst a.1 b.1) relationLimit
    ((db supplierSkus).select fun _ row => withinScope scope row)

def readRelations (db : Database) (scope : DataScope) :
    Except SupplierReadError (List (Nat × SupplierSku)) :=
  boundedRows relation relationLimit (scopedRelations db scope)

/-- `WHERE … ORDER BY updated_at DESC, id DESC LIMIT …` -/
def newestRows (updatedAt : Nat → Nat) (limit : Nat) (t : Table Row)
    (visible : Nat → Row → Bool) : List (Nat × Row) :=
  limited (fun a b => newestFirst updatedAt a.1 b.1) limit (t.select visible)

def readNewest (updatedAt : Nat → Nat) (decodes : Nat × Row → Bool) (limit : Nat) (t : Table Row)
    (visible : Nat → Row → Bool) : Except SupplierReadError (List (Nat × Row)) :=
  boundedRows decodes limit (newestRows updatedAt limit t visible)

def readSummaries (times : UpdateTimes) (db : Database) (visible : Nat → Supplier → Bool) :
    Except SupplierReadError (List (Nat × Supplier)) :=
  readNewest times.suppliers supplierSummary supplierLimit (db suppliers) visible

def readFactories (times : UpdateTimes) (db : Database) (visible : Nat → Factory → Bool) :
    Except SupplierReadError (List (Nat × Factory)) :=
  readNewest times.factories factory factoryLimit (db factories) visible

def readSkus (times : UpdateTimes) (db : Database) (visible : Nat → Sku → Bool) :
    Except SupplierReadError (List (Nat × Sku)) :=
  readNewest times.skus sku skuLimit (db skus) visible

def readSupplierSummariesByIds (times : UpdateTimes) (db : Database) (ids : List Nat) :
    Except SupplierReadError (List (Nat × Supplier)) :=
  if ids = [] then .ok []
  else do
    placeholders ids.length supplierLimit
    readSummaries times db fun id _ => ids.contains id

def readFactoriesByIds (times : UpdateTimes) (db : Database) (ids : List Nat) :
    Except SupplierReadError (List (Nat × Factory)) :=
  if ids = [] then .ok []
  else do
    placeholders ids.length factoryLimit
    readFactories times db fun id _ => ids.contains id

def readSkusByCodes (times : UpdateTimes) (db : Database) (codes : List String) :
    Except SupplierReadError (List (Nat × Sku)) :=
  if codes = [] then .ok []
  else do
    placeholders codes.length skuLimit
    readSkus times db fun _ row => row.active && codes.contains row.code

/-- The ids that the suppliers are asked for by, apart from the managing factory. -/
def supplierIds (relations : List (Nat × SupplierSku)) : DataScope → List Nat
  | .internal => []
  | .factory _ => uniqueIntegers (relations.map fun row => row.2.supplierId)
  | .supplier supplierId | .factorySupplier _ supplierId =>
      uniqueIntegers (supplierId :: relations.map fun row => row.2.supplierId)

def supplierQuery (times : UpdateTimes) (db : Database) (relations : List (Nat × SupplierSku))
    (scope : DataScope) : Except SupplierReadError (List (Nat × Supplier)) :=
  let ids := supplierIds relations scope
  match scope with
  | .internal => readSummaries times db fun _ _ => true
  | .factory factoryId => do
      if ids ≠ [] then placeholders ids.length relationLimit
      readSummaries times db fun id row =>
        row.managedByFactoryId == some factoryId || ids.contains id
  | .supplier _ => readSupplierSummariesByIds times db ids
  | .factorySupplier factoryId _ => do
      placeholders ids.length (relationLimit + 1)
      readSummaries times db fun id row =>
        row.managedByFactoryId == some factoryId || ids.contains id

/-- The ids that the factories are asked for by. -/
def factoryIds (relations : List (Nat × SupplierSku)) : DataScope → List Nat
  | .internal => []
  | .factory factoryId => [factoryId]
  | .supplier _ => uniqueIntegers (relations.map fun row => row.2.factoryId)
  | .factorySupplier factoryId _ =>
      uniqueIntegers (factoryId :: relations.map fun row => row.2.factoryId)

def factoryQuery (times : UpdateTimes) (db : Database) (relations : List (Nat × SupplierSku))
    (scope : DataScope) : Except SupplierReadError (List (Nat × Factory)) :=
  match scope with
  | .internal => readFactories times db fun _ _ => true
  | .factory factoryId =>
      boundedRows factory 1 (limited (fun a b => lastFirst a.1 b.1) 1
        ((db factories).select fun id _ => id == factoryId))
  | .supplier _ | .factorySupplier _ _ =>
      readFactoriesByIds times db (factoryIds relations scope)

def skuQuery (times : UpdateTimes) (db : Database) (relations : List (Nat × SupplierSku))
    (scope : DataScope) : Except SupplierReadError (List (Nat × Sku)) :=
  match scope with
  | .supplier _ =>
      readSkusByCodes times db (uniqueStrings (relations.map fun row => row.2.sku))
  | _ => readSkus times db fun _ row => row.active

structure SupplierSkusResponse where
  relations : List (Nat × SupplierSku)
  suppliers : List (Nat × Supplier)
  factories : List (Nat × Factory)
  skus : List (Nat × Sku)

namespace SupplierSkusResponse

/-- A relation finds what it names in the other lists. -/
def closes (response : SupplierSkusResponse) (row : SupplierSku) : Bool :=
  (response.suppliers.map (·.1)).contains row.supplierId &&
    (response.factories.map (·.1)).contains row.factoryId &&
    (response.skus.map (·.2.code)).contains row.sku

end SupplierSkusResponse

def ensureRelationClosure (response : SupplierSkusResponse) : Except SupplierReadError Unit :=
  if response.relations.any (fun row => !response.closes row.2) = true then .error .unavailable
  else .ok ()

def readSupplierSkus (times : UpdateTimes) (db : Database) (scope : DataScope) :
    Except SupplierReadError SupplierSkusResponse := do
  let relations ← readRelations db scope
  let suppliers ← supplierQuery times db relations scope
  let factories ← factoryQuery times db relations scope
  let skus ← skuQuery times db relations scope
  ensureRelationClosure { relations, suppliers, factories, skus }
  return { relations, suppliers, factories, skus }

/-! ## When a query answers -/

variable {times : UpdateTimes} {scope : DataScope} {relations : List (Nat × SupplierSku)}

theorem boundedRows_ok {decodes : Nat × Row → Bool} {limit : Nat} {rows list : List (Nat × Row)}
    (few : rows.length ≤ limit) :
    boundedRows decodes limit rows = .ok list ↔
      list = rows ∧ ∀ row ∈ rows, decodes row = true := by
  rw [boundedRows, if_neg (Nat.not_lt.mpr few)]
  by_cases all : rows.all decodes = true
  · rw [if_pos all]
    constructor
    · intro same
      cases same
      exact ⟨rfl, List.all_eq_true.mp all⟩
    · rintro ⟨rfl, -⟩
      rfl
  · rw [if_neg all]
    constructor
    · intro same
      cases same
    · rintro ⟨-, each⟩
      exact absurd (List.all_eq_true.mpr each) all

theorem placeholders_ok {count maximum : Nat} :
    placeholders count maximum = .ok () ↔ count ≠ 0 ∧ count ≤ maximum := by
  rw [placeholders]
  split
  · rename_i refused
    constructor
    · intro same
      cases same
    · rintro ⟨some, few⟩
      omega
  · rename_i taken
    simp only [true_iff]
    omega

theorem scopedRelations_length (db : Database) (scope : DataScope) :
    (scopedRelations db scope).length ≤ relationLimit :=
  limited_length_le (lastFirst_ordered _ _)

theorem readNewest_ok {updatedAt : Nat → Nat} {decodes : Nat × Row → Bool} {limit : Nat}
    {t : Table Row} {visible : Nat → Row → Bool} {list : List (Nat × Row)} :
    readNewest updatedAt decodes limit t visible = .ok list ↔
      list = newestRows updatedAt limit t visible ∧
        ∀ row ∈ newestRows updatedAt limit t visible, decodes row = true :=
  boundedRows_ok (limited_length_le (newestFirst_ordered _ _ _))

theorem newestRows_none {updatedAt : Nat → Nat} {limit : Nat} {t : Table Row}
    {visible : Nat → Row → Bool} (none : ∀ id row, visible id row = false) :
    newestRows updatedAt limit t visible = [] := by
  have nothing : t.select visible = [] :=
    Table.select_eq_nil.mpr fun id row _ => none id row
  rw [newestRows, nothing]
  rfl

theorem bind_unit_ok {β : Type} {check : Except SupplierReadError Unit}
    {next : Except SupplierReadError β} {value : β} :
    (check >>= fun _ => next) = .ok value ↔ check = .ok () ∧ next = .ok value := by
  cases check <;> simp [bind, Except.bind]

theorem bind_read_ok {β γ : Type} {read : Except SupplierReadError β}
    {next : β → Except SupplierReadError γ} {value : γ} :
    read >>= next = .ok value ↔ ∃ list, read = .ok list ∧ next list = .ok value := by
  cases read <;> simp [bind, Except.bind]

/-! ## What each scope sees -/

def supplierVisible (relations : List (Nat × SupplierSku)) (scope : DataScope) (id : Nat)
    (row : Supplier) : Bool :=
  match scope with
  | .internal => true
  | .factory factoryId | .factorySupplier factoryId _ =>
      row.managedByFactoryId == some factoryId || (supplierIds relations scope).contains id
  | .supplier _ => (supplierIds relations scope).contains id

def shownSuppliers (times : UpdateTimes) (db : Database) (relations : List (Nat × SupplierSku))
    (scope : DataScope) : List (Nat × Supplier) :=
  newestRows times.suppliers supplierLimit (db suppliers) (supplierVisible relations scope)

theorem uniqueIntegers_le {values : List Nat} : (uniqueIntegers values).length ≤ values.length :=
  (List.dedup_sublist values).length_le

theorem uniqueIntegers_same {values : List Nat} {value : Nat}
    (same : ∀ other ∈ values, other = value) : (uniqueIntegers values).length ≤ 1 := by
  have inside : uniqueIntegers values ⊆ [value] := by
    intro other member
    rw [same other (List.mem_dedup.mp member)]
    exact List.mem_cons_self
  exact ((List.nodup_dedup values).subperm inside).length_le

/-- The ids that suppliers are asked for by are never too many. -/
theorem supplierQuery_ok {list : List (Nat × Supplier)} (few : relations.length ≤ relationLimit)
    (within : ∀ row ∈ relations, withinScope scope row.2 = true) :
    supplierQuery times db relations scope = .ok list ↔
      list = shownSuppliers times db relations scope ∧
        ∀ row ∈ shownSuppliers times db relations scope, supplierSummary row = true := by
  cases scope with
  | internal => exact readNewest_ok
  | factory factoryId =>
      have bound : (supplierIds relations (.factory factoryId)).length ≤ relationLimit := by
        apply Nat.le_trans uniqueIntegers_le
        rwa [List.length_map]
      simp only [supplierQuery]
      by_cases none : supplierIds relations (.factory factoryId) = []
      · rw [if_neg (not_not.mpr none)]
        exact readNewest_ok
      · rw [if_pos none, bind_unit_ok, placeholders_ok]
        have some : (supplierIds relations (.factory factoryId)).length ≠ 0 :=
          fun zero => none (List.length_eq_zero_iff.mp zero)
        simp only [some, ne_eq, not_false_eq_true, bound, true_and]
        exact readNewest_ok
  | supplier supplierId =>
      have one : (supplierIds relations (.supplier supplierId)).length ≤ 1 := by
        apply @uniqueIntegers_same _ supplierId
        intro other member
        rcases List.mem_cons.mp member with rfl | inside
        · rfl
        · obtain ⟨row, there, rfl⟩ := List.mem_map.mp inside
          exact of_decide_eq_true (within row there)
      have own : supplierId ∈ supplierIds relations (.supplier supplierId) :=
        List.mem_dedup.mpr List.mem_cons_self
      have some := List.ne_nil_of_mem own
      simp only [supplierQuery, readSupplierSummariesByIds]
      rw [if_neg some, bind_unit_ok, placeholders_ok]
      have counts : (supplierIds relations (.supplier supplierId)).length ≠ 0 ∧
          (supplierIds relations (.supplier supplierId)).length ≤ supplierLimit :=
        ⟨fun zero => some (List.length_eq_zero_iff.mp zero), Nat.le_trans one (by decide)⟩
      rw [and_iff_right counts]
      exact readNewest_ok
  | factorySupplier factoryId supplierId =>
      have bound : (supplierIds relations (.factorySupplier factoryId supplierId)).length ≤
          relationLimit + 1 := by
        apply Nat.le_trans uniqueIntegers_le
        rw [List.length_cons, List.length_map]
        omega
      have own : supplierId ∈ supplierIds relations (.factorySupplier factoryId supplierId) :=
        List.mem_dedup.mpr List.mem_cons_self
      have some := List.ne_nil_of_mem own
      simp only [supplierQuery]
      rw [bind_unit_ok, placeholders_ok,
        and_iff_right ⟨fun zero => some (List.length_eq_zero_iff.mp zero), bound⟩]
      exact readNewest_ok

/-- The factories that are asked for by their ids are counted first. -/
def fewFactories (relations : List (Nat × SupplierSku)) : DataScope → Prop
  | .internal | .factory _ => True
  | .supplier supplierId => (factoryIds relations (.supplier supplierId)).length ≤ factoryLimit
  | .factorySupplier factoryId supplierId =>
      (factoryIds relations (.factorySupplier factoryId supplierId)).length ≤ factoryLimit

def shownFactories (times : UpdateTimes) (db : Database) (relations : List (Nat × SupplierSku))
    (scope : DataScope) : List (Nat × Factory) :=
  match scope with
  | .internal => newestRows times.factories factoryLimit (db factories) fun _ _ => true
  | .factory factoryId =>
      limited (fun a b => lastFirst a.1 b.1) 1 ((db factories).select fun id _ => id == factoryId)
  | .supplier _ | .factorySupplier _ _ =>
      newestRows times.factories factoryLimit (db factories) fun id _ =>
        (factoryIds relations scope).contains id

theorem readFactoriesByIds_ok {ids : List Nat} {list : List (Nat × Factory)} :
    readFactoriesByIds times db ids = .ok list ↔
      ids.length ≤ factoryLimit ∧
        list = newestRows times.factories factoryLimit (db factories)
            (fun id _ => ids.contains id) ∧
          ∀ row ∈ newestRows times.factories factoryLimit (db factories)
            (fun id _ => ids.contains id), factory row = true := by
  rw [readFactoriesByIds]
  by_cases none : ids = []
  · subst none
    rw [if_pos rfl, newestRows_none (by simp)]
    constructor
    · intro same
      cases same
      exact ⟨Nat.zero_le _, rfl, by simp⟩
    · rintro ⟨-, rfl, -⟩
      rfl
  · rw [if_neg none, bind_unit_ok, placeholders_ok]
    have some : ids.length ≠ 0 := fun zero => none (List.length_eq_zero_iff.mp zero)
    rw [and_iff_right some]
    exact and_congr_right fun _ => readNewest_ok

theorem factoryQuery_ok {list : List (Nat × Factory)} :
    factoryQuery times db relations scope = .ok list ↔
      fewFactories relations scope ∧ list = shownFactories times db relations scope ∧
        ∀ row ∈ shownFactories times db relations scope, factory row = true := by
  cases scope with
  | internal =>
      simp only [fewFactories, true_and]
      exact readNewest_ok
  | factory factoryId =>
      simp only [fewFactories, true_and]
      exact boundedRows_ok (limited_length_le (lastFirst_ordered _ _))
  | supplier supplierId => exact readFactoriesByIds_ok
  | factorySupplier factoryId supplierId => exact readFactoriesByIds_ok

def skuVisible (relations : List (Nat × SupplierSku)) (scope : DataScope) (_ : Nat) (row : Sku) :
    Bool :=
  match scope with
  | .supplier _ =>
      row.active && (uniqueStrings (relations.map fun relation => relation.2.sku)).contains row.code
  | _ => row.active

def shownSkus (times : UpdateTimes) (db : Database) (relations : List (Nat × SupplierSku))
    (scope : DataScope) : List (Nat × Sku) :=
  newestRows times.skus skuLimit (db skus) (skuVisible relations scope)

theorem skuQuery_ok {list : List (Nat × Sku)} (few : relations.length ≤ relationLimit) :
    skuQuery times db relations scope = .ok list ↔
      list = shownSkus times db relations scope ∧
        ∀ row ∈ shownSkus times db relations scope, sku row = true := by
  cases scope with
  | internal => exact readNewest_ok
  | factory factoryId => exact readNewest_ok
  | factorySupplier factoryId supplierId => exact readNewest_ok
  | supplier supplierId =>
      simp only [skuQuery, readSkusByCodes]
      by_cases none : uniqueStrings (relations.map fun row => row.2.sku) = []
      · have nothing : shownSkus times db relations (.supplier supplierId) = [] := by
          apply newestRows_none
          intro id row
          simp [skuVisible, none]
        rw [if_pos none, nothing]
        constructor
        · intro same
          cases same
          exact ⟨rfl, by simp⟩
        · rintro ⟨rfl, -⟩
          rfl
      · rw [if_neg none, bind_unit_ok, placeholders_ok]
        have some : (uniqueStrings (relations.map fun row => row.2.sku)).length ≠ 0 :=
          fun zero => none (List.length_eq_zero_iff.mp zero)
        have bound : (uniqueStrings (relations.map fun row => row.2.sku)).length ≤ skuLimit := by
          have shorter := (List.dedup_sublist (relations.map fun row => row.2.sku)).length_le
          rw [List.length_map] at shorter
          exact Nat.le_trans shorter (Nat.le_trans few (by decide))
        rw [and_iff_right ⟨some, bound⟩]
        exact readNewest_ok

/-! ## When the read closes -/

def SupplierShown (times : UpdateTimes) (db : Database) (scope : DataScope) (id : Nat)
    (row : Supplier) : Prop :=
  Shown (db suppliers) (supplierVisible (scopedRelations db scope) scope)
    (newestFirst times.suppliers) supplierLimit id row

def FactoryShown (times : UpdateTimes) (db : Database) (scope : DataScope) (id : Nat)
    (row : Factory) : Prop :=
  match scope with
  | .internal =>
      Shown (db factories) (fun _ _ => true) (newestFirst times.factories) factoryLimit id row
  | .factory factoryId => Shown (db factories) (fun id _ => id == factoryId) lastFirst 1 id row
  | .supplier _ | .factorySupplier _ _ =>
      Shown (db factories) (fun id _ => (factoryIds (scopedRelations db scope) scope).contains id)
        (newestFirst times.factories) factoryLimit id row

def SkuShown (times : UpdateTimes) (db : Database) (scope : DataScope) (id : Nat) (row : Sku) :
    Prop :=
  Shown (db skus) (skuVisible (scopedRelations db scope) scope) (newestFirst times.skus) skuLimit
    id row

/-- The newest relations of the scope name suppliers, factories and active skus
before which fewer rows come than the limits of their lists; the factories that are
asked for by their ids are not more than their limit; and what is read decodes. -/
structure Closes (times : UpdateTimes) (db : Database) (scope : DataScope) : Prop where
  supplier : ∀ row ∈ scopedRelations db scope, ∃ supplier,
    SupplierShown times db scope row.2.supplierId supplier
  factory : ∀ row ∈ scopedRelations db scope, ∃ factory,
    FactoryShown times db scope row.2.factoryId factory
  sku : ∀ row ∈ scopedRelations db scope, ∃ id sku,
    SkuShown times db scope id sku ∧ sku.code = row.2.sku
  few : fewFactories (scopedRelations db scope) scope
  relations : ∀ row ∈ scopedRelations db scope, relation row = true
  suppliers : ∀ id row, SupplierShown times db scope id row → supplierSummary (id, row) = true
  factories : ∀ id row, FactoryShown times db scope id row →
    Suppliers.factory (id, row) = true
  skus : ∀ id row, SkuShown times db scope id row → Suppliers.sku (id, row) = true

theorem mem_shownFactories {id : Nat} {row : Factory} :
    (id, row) ∈ shownFactories times db (scopedRelations db scope) scope ↔
      FactoryShown times db scope id row := by
  cases scope <;> exact mem_limited

theorem scopedRelations_within :
    ∀ row ∈ scopedRelations db scope, withinScope scope row.2 = true := by
  intro row member
  exact (Table.mem_select.mp (List.mem_filter.mp member).1).2

/-- What the read answers with, if it answers. -/
def scopedResponse (times : UpdateTimes) (db : Database) (scope : DataScope) :
    SupplierSkusResponse where
  relations := scopedRelations db scope
  suppliers := shownSuppliers times db (scopedRelations db scope) scope
  factories := shownFactories times db (scopedRelations db scope) scope
  skus := shownSkus times db (scopedRelations db scope) scope

theorem scopedResponse_closes {row : SupplierSku} :
    (scopedResponse times db scope).closes row = true ↔
      (∃ supplier, SupplierShown times db scope row.supplierId supplier) ∧
        (∃ factory, FactoryShown times db scope row.factoryId factory) ∧
          ∃ id sku, SkuShown times db scope id sku ∧ sku.code = row.sku := by
  simp only [SupplierSkusResponse.closes, Bool.and_eq_true, List.contains_iff_mem, List.mem_map,
    and_assoc]
  refine and_congr ?_ (and_congr ?_ ?_)
  · constructor
    · rintro ⟨⟨id, supplier⟩, member, rfl⟩
      exact ⟨supplier, mem_limited.mp member⟩
    · rintro ⟨supplier, shown⟩
      exact ⟨_, mem_limited.mpr shown, rfl⟩
  · constructor
    · rintro ⟨⟨id, factory⟩, member, rfl⟩
      exact ⟨factory, mem_shownFactories.mp member⟩
    · rintro ⟨factory, shown⟩
      exact ⟨_, mem_shownFactories.mpr shown, rfl⟩
  · constructor
    · rintro ⟨⟨id, sku⟩, member, code⟩
      exact ⟨id, sku, mem_limited.mp member, code⟩
    · rintro ⟨id, sku, shown, code⟩
      exact ⟨_, mem_limited.mpr shown, code⟩

theorem ensureRelationClosure_ok {response : SupplierSkusResponse} :
    ensureRelationClosure response = .ok () ↔
      ∀ row ∈ response.relations, response.closes row.2 = true := by
  rw [ensureRelationClosure]
  by_cases some : response.relations.any (fun row => !response.closes row.2) = true
  · rw [if_pos some]
    obtain ⟨row, member, misses⟩ := List.any_eq_true.mp some
    constructor
    · intro same
      cases same
    · intro each
      rw [each row member] at misses
      cases misses
  · rw [if_neg some]
    simp only [true_iff]
    intro row member
    by_contra misses
    apply some
    exact List.any_eq_true.mpr ⟨row, member, by simpa using misses⟩

theorem readSupplierSkus_ok {response : SupplierSkusResponse} :
    readSupplierSkus times db scope = .ok response ↔
      response = scopedResponse times db scope ∧ Closes times db scope := by
  rw [readSupplierSkus, bind_read_ok]
  have few := scopedRelations_length db scope
  constructor
  · rintro ⟨relations, read, returned⟩
    obtain ⟨rfl, decodes⟩ := (boundedRows_ok few).mp read
    obtain ⟨suppliers, readSuppliers, returned⟩ := bind_read_ok.mp returned
    obtain ⟨factories, readFactories, returned⟩ := bind_read_ok.mp returned
    obtain ⟨skus, readSkus, returned⟩ := bind_read_ok.mp returned
    obtain ⟨rfl, suppliersDecode⟩ := (supplierQuery_ok few scopedRelations_within).mp readSuppliers
    obtain ⟨fewFactories, rfl, factoriesDecode⟩ := factoryQuery_ok.mp readFactories
    obtain ⟨rfl, skusDecode⟩ := (skuQuery_ok few).mp readSkus
    obtain ⟨closed, same⟩ := bind_unit_ok.mp returned
    have each := ensureRelationClosure_ok.mp closed
    cases same
    refine ⟨rfl, ?_⟩
    exact
      { supplier := fun row member => (scopedResponse_closes.mp (each row member)).1
        factory := fun row member => (scopedResponse_closes.mp (each row member)).2.1
        sku := fun row member => (scopedResponse_closes.mp (each row member)).2.2
        few := fewFactories
        relations := decodes
        suppliers := fun id row shown => suppliersDecode _ (mem_limited.mpr shown)
        factories := fun id row shown => factoriesDecode _ (mem_shownFactories.mpr shown)
        skus := fun id row shown => skusDecode _ (mem_limited.mpr shown) }
  · rintro ⟨rfl, closes⟩
    refine ⟨_, (boundedRows_ok few).mpr ⟨rfl, closes.relations⟩, ?_⟩
    rw [bind_read_ok]
    refine ⟨_, (supplierQuery_ok few scopedRelations_within).mpr ⟨rfl, ?_⟩, ?_⟩
    · exact fun row member => closes.suppliers _ _ (mem_limited.mp member)
    rw [bind_read_ok]
    refine ⟨_, factoryQuery_ok.mpr ⟨closes.few, rfl, ?_⟩, ?_⟩
    · exact fun row member => closes.factories _ _ (mem_shownFactories.mp member)
    rw [bind_read_ok]
    refine ⟨_, (skuQuery_ok few).mpr ⟨rfl, ?_⟩, ?_⟩
    · exact fun row member => closes.skus _ _ (mem_limited.mp member)
    rw [bind_unit_ok]
    refine ⟨ensureRelationClosure_ok.mpr fun row member => ?_, rfl⟩
    exact scopedResponse_closes.mpr
      ⟨closes.supplier row member, closes.factory row member, closes.sku row member⟩

/-- The read answers, with all that its relations name, exactly if it closes. -/
theorem readSupplierSkus_closes_iff (times : UpdateTimes) (db : Database) (scope : DataScope) :
    (∃ response, readSupplierSkus times db scope = .ok response ∧
        ∀ row ∈ response.relations, response.closes row.2 = true) ↔
      Closes times db scope := by
  constructor
  · rintro ⟨response, read, -⟩
    exact (readSupplierSkus_ok.mp read).2
  · intro closes
    refine ⟨_, readSupplierSkus_ok.mpr ⟨rfl, closes⟩, fun row member => ?_⟩
    exact scopedResponse_closes.mpr
      ⟨closes.supplier row member, closes.factory row member, closes.sku row member⟩

/-- As many suppliers as the first number, entered one after another, of which the first has a
relation for the sku of the only factory. -/
def enteredSuppliers (count : Nat) : Database
  | .suppliers => (List.range count).foldl (fun t n =>
      t.insert { code := "SUP-" ++ toString n, tier := some 1, managedByFactoryId := none
                 verificationStatus := .approved }) Table.empty
  | .factories => Table.empty.insert { code := "FAC" }
  | .skus => Table.empty.insert
      { code := "SKU", itemType := some "component", overproductionToleranceBps := 0
        verificationStatus := .approved, active := true }
  | .supplierSkus => Table.empty.insert
      { factoryId := 1, supplierId := 1, sku := "SKU", effectiveFrom := "2026-03-01"
        status := .active, requestedBy := 1 }
  | _ => Table.empty

/-- Each row was last updated when it was entered. -/
def entryTimes : UpdateTimes := ⟨id, id, id⟩

/-- The first of 501 suppliers is left out of the list, and the read fails for everyone
who may see all. -/
theorem readSupplierSkus_refuses :
    ¬ ∀ times db scope, ∃ response, readSupplierSkus times db scope = .ok response ∧
      ∀ row ∈ response.relations, response.closes row.2 = true := by
  intro answers
  obtain ⟨response, read, -⟩ := answers entryTimes (enteredSuppliers 501) .internal
  have closes := (readSupplierSkus_ok.mp read).2
  have member : ∃ row ∈ scopedRelations (enteredSuppliers 501) .internal, row.2.supplierId = 1 := by
    refine ⟨(1, _), mem_limited.mpr ⟨rfl, rfl, ?_⟩, rfl⟩
    decide
  obtain ⟨row, member, first⟩ := member
  obtain ⟨supplier, -, -, below⟩ := closes.supplier row member
  rw [first] at below
  exact absurd below (by decide +kernel)

example : (readSupplierSkus entryTimes (enteredSuppliers 2) .internal).isOk = true := by
  decide +kernel

end SupplyChain.Suppliers
