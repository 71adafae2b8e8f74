import SupplyChain.Platform
import SupplyChain.Relational.Keys
import SupplyChain.Tally
import Mathlib.Data.List.Dedup
import Mathlib.Data.List.Perm.Lattice

/-!
The capacity risks of a price page. The demand is added up under a text of the
supplier, the sku and the period, and the text is taken apart again to find the
relation that the demand is on; a sku that contains the separator is taken apart
in the wrong place.
-/

namespace SupplyChain.Suppliers.Capacity

open Relational Tally

/-! ## Rows -/

/-- `DAY_PATTERN`. -/
def isDay (text : String) : Bool :=
  match text.toList with
  | [a, b, c, d, '-', e, f, '-', g, h] => [a, b, c, d, e, f, g, h].all Char.isDigit
  | _ => false

structure DemandRow where
  dueDate : String
  quantity : Int
  sku : String
  supplierId : Nat
  positive : 0 < quantity
  dueDay : isDay dueDate = true

inductive PeriodType
  | day | month
  deriving DecidableEq

/-- A relation as the price page reads it; a capacity is positive. -/
structure SupplierSkuRelation where
  id : Nat
  factoryId : Nat
  supplierId : Nat
  sku : String
  dailyCapacity : Option Int
  monthlyCapacity : Option Int
  dailyPositive : ∀ capacity ∈ dailyCapacity, 0 < capacity
  monthlyPositive : ∀ capacity ∈ monthlyCapacity, 0 < capacity

def SupplierSkuRelation.capacity (value : SupplierSkuRelation) : PeriodType → Option Int
  | .day => value.dailyCapacity
  | .month => value.monthlyCapacity

structure SupplierCapacityRisk where
  relationId : Nat
  factoryId : Nat
  supplierId : Nat
  sku : String
  periodType : PeriodType
  period : String
  demand : Int
  capacity : Int
  excess : Int
  deriving DecidableEq

/-! ## Demand -/

/-- `item.dueDate.slice(0, 7)`. -/
def monthOf (dueDate : String) : String := String.ofList (dueDate.toList.take 7)

def periodOf : PeriodType → String → String
  | .day, dueDate => dueDate
  | .month, dueDate => monthOf dueDate

/-- What the demand is added up under: a supplier, a sku and a period. -/
structure Bucket where
  supplierId : Nat
  sku : String
  period : String
  deriving DecidableEq

/-- The text of a bucket. -/
def Bucket.key (bucket : Bucket) : String :=
  toString bucket.supplierId ++ "|" ++ bucket.sku ++ "|" ++ bucket.period

/-- The quantities of the rows, each under its day and its month. -/
def buckets (demandRows : List DemandRow) : List (Bucket × Int) :=
  demandRows.flatMap fun item => [PeriodType.day, .month].map fun periodType =>
    (⟨item.supplierId, item.sku, periodOf periodType item.dueDate⟩, item.quantity)

/-- The map of the demand. -/
def demandOf (demandRows : List DemandRow) : List (String × Int) :=
  tally (named Bucket.key (buckets demandRows))

/-! ## Risks -/

def periodLength : PeriodType → Nat
  | .day => 10
  | .month => 7

/-- `Number` of a text of digits. -/
def numberOf (text : String) : Option Nat :=
  if text ≠ "" ∧ text.toList.all Char.isDigit = true then
    some (Nat.ofDigitChars 10 text.toList 0)
  else none

def split (key : String) : List String :=
  (key.toList.splitOn '|').map String.ofList

/-- The entry of a relation for a period. -/
def riskOf (value : SupplierSkuRelation) (periodType : PeriodType) (capacity : Int)
    (period : String) (quantity : Int) : SupplierCapacityRisk where
  relationId := value.id
  factoryId := value.factoryId
  supplierId := value.supplierId
  sku := value.sku
  periodType := periodType
  period := period
  demand := quantity
  capacity := capacity
  excess := quantity - capacity

/-- One entry of the map, compared with one capacity of a relation. -/
def compared (value : SupplierSkuRelation) (periodType : PeriodType) (capacity : Int)
    (entry : String × Int) : Option SupplierCapacityRisk :=
  match split entry.1 with
  | supplierId :: skuCode :: period :: _ =>
      if textLength period ≠ periodLength periodType ∨ numberOf supplierId ≠ some value.supplierId ∨
          skuCode ≠ value.sku ∨ entry.2 ≤ capacity then none
      else some (riskOf value periodType capacity period entry.2)
  | _ => none

/-- The loop over the relations and their capacities. -/
def collected (relations : List SupplierSkuRelation) (demand : List (String × Int)) :
    List SupplierCapacityRisk :=
  relations.flatMap fun value => [PeriodType.day, .month].flatMap fun periodType =>
    match value.capacity periodType with
    | none => []
    | some capacity => demand.filterMap (compared value periodType capacity)

def PeriodType.name : PeriodType → String
  | .day => "day"
  | .month => "month"

/-- The order of the answer; `localeCompare` compares two texts. -/
def listedBefore (localeCompare : String → String → Ordering)
    (left right : SupplierCapacityRisk) : Bool :=
  ((compare right.relationId left.relationId).then
    ((localeCompare right.period left.period).then
      (localeCompare left.periodType.name right.periodType.name))).isLE

def riskLimit : Nat := 10000

inductive ReadError
  | invalidData
  deriving DecidableEq

def capacityRisks (localeCompare : String → String → Ordering)
    (relations : List SupplierSkuRelation) (demandRows : List DemandRow) :
    Except ReadError (List SupplierCapacityRisk) :=
  let risks := collected relations (demandOf demandRows)
  if riskLimit < risks.length then .error .invalidData
  else .ok (risks.mergeSort (listedBefore localeCompare))

/-! ## What the risks are -/

/-- The demand for a sku of a supplier in a period. -/
def demandFor (demandRows : List DemandRow) (supplierId : Nat) (sku : String)
    (periodType : PeriodType) (period : String) : Int :=
  (demandRows.map fun item =>
    if item.supplierId = supplierId ∧ item.sku = sku ∧ periodOf periodType item.dueDate = period then
      item.quantity
    else 0).sum

/-- The entries of one relation: the periods whose demand is over its capacity. -/
def exceeded (demandRows : List DemandRow) (value : SupplierSkuRelation)
    (periodType : PeriodType) (capacity : Int) : List SupplierCapacityRisk :=
  (((demandRows.map fun item => periodOf periodType item.dueDate).dedup).filter fun period =>
    decide (capacity < demandFor demandRows value.supplierId value.sku periodType period)).map
      fun period => riskOf value periodType capacity period
        (demandFor demandRows value.supplierId value.sku periodType period)

/-- One entry for each relation and each period whose demand is over the
capacity. -/
def expected (relations : List SupplierSkuRelation) (demandRows : List DemandRow) :
    List SupplierCapacityRisk :=
  relations.flatMap fun value => [PeriodType.day, .month].flatMap fun periodType =>
    match value.capacity periodType with
    | none => []
    | some capacity => exceeded demandRows value periodType capacity

def Barred (sku : String) : Prop := '|' ∈ sku.toList

instance (sku : String) : Decidable (Barred sku) := inferInstanceAs (Decidable (_ ∈ _))

/-- The demand for `item` in one of its periods reads as demand on the relation
in another: the sku up to its separator is that of the relation, and what
follows is as long as a period. -/
structure Misread (demandRows : List DemandRow) (value : SupplierSkuRelation)
    (periodType : PeriodType) (capacity : Int) (item : DemandRow) (held : PeriodType) : Prop where
  supplier : item.supplierId = value.supplierId
  parts : ∃ second rest, split item.sku = value.sku :: second :: rest ∧
    textLength second = periodLength periodType
  exceeds : capacity < demandFor demandRows item.supplierId item.sku held (periodOf held item.dueDate)

/-- No sku with a separator matters: no relation on one is over its capacity, and
no demand on one reads as an excess on another relation. -/
structure Unambiguous (relations : List SupplierSkuRelation) (demandRows : List DemandRow) :
    Prop where
  within : ∀ value ∈ relations, Barred value.sku → ∀ periodType capacity,
    value.capacity periodType = some capacity → ∀ period,
      demandFor demandRows value.supplierId value.sku periodType period ≤ capacity
  apart : ∀ value ∈ relations, ∀ periodType capacity, value.capacity periodType = some capacity →
    ∀ item ∈ demandRows, ∀ held, ¬ Misread demandRows value periodType capacity item held

/-! ## Texts -/

theorem isDay_chars {text : String} (isDay : isDay text = true) :
    text.toList.length = 10 ∧ ∀ c ∈ text.toList, c.isDigit = true ∨ c = '-' := by
  unfold Capacity.isDay at isDay
  split at isDay
  · rename_i characters
    simp only [List.all_cons, List.all_nil, Bool.and_true, Bool.and_eq_true] at isDay
    rw [characters]
    refine ⟨rfl, ?_⟩
    intro c member
    simp only [List.mem_cons, List.not_mem_nil, or_false] at member
    rcases member with rfl | rfl | rfl | rfl | rfl | rfl | rfl | rfl | rfl | rfl <;> simp [isDay]
  · cases isDay

theorem textLength_plain {text : String}
    (plain : ∀ c ∈ text.toList, c.isDigit = true ∨ c = '-') :
    textLength text = text.toList.length := by
  unfold textLength
  generalize text.toList = characters at plain
  induction characters with
  | nil => rfl
  | cons c rest ih =>
      have small : c.val ≤ 65535 := by
        rcases plain c List.mem_cons_self with digit | rfl
        · unfold Char.isDigit at digit
          simp only [Bool.and_eq_true, decide_eq_true_eq] at digit
          exact UInt32.le_trans digit.2 (by decide)
        · decide
      rw [List.map_cons, List.sum_cons, if_pos small,
        ih fun other member => plain other (List.mem_cons_of_mem _ member), List.length_cons]
      omega

theorem period_chars {periodType : PeriodType} {item : DemandRow} :
    ∀ c ∈ (periodOf periodType item.dueDate).toList, c.isDigit = true ∨ c = '-' := by
  have plain := (isDay_chars item.dueDay).2
  cases periodType with
  | day => exact plain
  | month =>
      intro c member
      rw [periodOf, monthOf, String.toList_ofList] at member
      exact plain c (List.mem_of_mem_take member)

theorem period_length (periodType : PeriodType) (item : DemandRow) :
    textLength (periodOf periodType item.dueDate) = periodLength periodType := by
  rw [textLength_plain period_chars]
  have length := (isDay_chars item.dueDay).1
  cases periodType with
  | day => exact length
  | month =>
      rw [periodOf, monthOf, String.toList_ofList, List.length_take, length]
      rfl

theorem period_bar (periodType : PeriodType) (item : DemandRow) :
    '|' ∉ (periodOf periodType item.dueDate).toList := by
  intro member
  rcases period_chars '|' member with digit | dash
  · cases digit
  · cases dash

theorem numberOf_toString (n : Nat) : numberOf (toString n) = some n := by
  have characters : (toString n).toList = Nat.toDigits 10 n := by
    change (String.ofList (Nat.toDigits 10 n)).toList = _
    rw [String.toList_ofList]
  have digits : (toString n).toList.all Char.isDigit = true := by
    rw [characters, List.all_eq_true]
    intro c member
    exact Nat.isDigit_of_mem_toDigits (by decide) (by decide) member
  have some : toString n ≠ "" := by
    intro none
    have nothing : Nat.toDigits 10 n = [] := by
      rw [← characters, none]
      rfl
    exact absurd nothing (Nat.toDigits_ne_nil)
  rw [numberOf, if_pos ⟨some, digits⟩, characters, Nat.ofDigitChars_ten_toDigits]

/-- A bucket whose period has no separator. -/
def Bucket.Plain (bucket : Bucket) : Prop := '|' ∉ bucket.period.toList

theorem Bucket.key_chars (bucket : Bucket) : bucket.key.toList =
    (toString bucket.supplierId).toList ++ '|' :: (bucket.sku.toList ++ '|' :: bucket.period.toList) := by
  simp [Bucket.key, String.toList_append]

theorem Bucket.key_injective (a b : Bucket) (plain : a.Plain) (plain' : b.Plain)
    (same : a.key = b.key) : a = b := by
  have texts := congrArg String.toList same
  rw [a.key_chars, b.key_chars] at texts
  obtain ⟨supplier, rest⟩ := numbered_eq (by decide) texts
  obtain ⟨sku, period⟩ := lastField_eq plain plain' rest
  obtain ⟨_, _, _⟩ := a
  obtain ⟨_, _, _⟩ := b
  simp only [Bucket.mk.injEq]
  exact ⟨supplier, String.toList_inj.mp sku, String.toList_inj.mp period⟩

/-- A key is taken apart into the supplier, the parts of the sku and the period. -/
theorem Bucket.split_key {bucket : Bucket} (plain : bucket.Plain) :
    split bucket.key = toString bucket.supplierId :: (split bucket.sku ++ [bucket.period]) := by
  have free : '|' ∉ (toString bucket.supplierId).toList :=
    separator_not_mem_toString (by decide) _
  rw [split, bucket.key_chars, List.splitOn_append_cons_self_of_not_mem free,
    List.splitOn_append_cons_self, List.splitOn_eq_singleton plain, List.map_cons, List.map_append,
    List.map_cons, List.map_nil, String.ofList_toList, String.ofList_toList, split]

theorem split_unbarred {sku : String} (free : ¬ Barred sku) : split sku = [sku] := by
  rw [split, List.splitOn_eq_singleton free]
  simp

theorem split_barred {sku : String} (barred : Barred sku) :
    ∃ first second rest, split sku = first :: second :: rest ∧ ¬ Barred first := by
  obtain ⟨before, after, cut, free⟩ := List.eq_append_cons_of_mem barred
  rw [split, cut, List.splitOn_append_cons_self_of_not_mem free]
  cases parts : after.splitOn '|' with
  | nil => exact absurd parts (List.splitOn_ne_nil _ _)
  | cons second rest =>
      refine ⟨String.ofList before, String.ofList second, rest.map String.ofList, rfl, ?_⟩
      rw [Barred, String.toList_ofList]
      exact free

/-! ## One relation and one capacity -/

section

variable {demandRows : List DemandRow} {value : SupplierSkuRelation} {periodType : PeriodType}
  {capacity : Int}

theorem mem_buckets {bucket : Bucket} : bucket ∈ (buckets demandRows).map (·.1) ↔
    ∃ item ∈ demandRows, ∃ held,
      bucket = ⟨item.supplierId, item.sku, periodOf held item.dueDate⟩ := by
  constructor
  · intro member
    obtain ⟨entry, inside, rfl⟩ := List.mem_map.mp member
    obtain ⟨item, listed, entries⟩ := List.mem_flatMap.mp inside
    obtain ⟨held, -, rfl⟩ := List.mem_map.mp entries
    exact ⟨item, listed, held, rfl⟩
  · rintro ⟨item, listed, held, rfl⟩
    refine List.mem_map.mpr ⟨(_, item.quantity), List.mem_flatMap.mpr ⟨item, listed, ?_⟩, rfl⟩
    refine List.mem_map.mpr ⟨held, ?_, rfl⟩
    cases held <;> simp

theorem buckets_plain : ∀ bucket ∈ (buckets demandRows).map (·.1), bucket.Plain := by
  intro bucket member
  obtain ⟨item, -, held, rfl⟩ := mem_buckets.mp member
  exact period_bar held item

theorem demandOf_eq (demandRows : List DemandRow) :
    demandOf demandRows = named Bucket.key (tally (buckets demandRows)) :=
  @tally_named _ _ _ _ _ Bucket.key Bucket.Plain Bucket.key_injective buckets_plain

theorem totalOf_buckets {supplierId : Nat} {sku period : String}
    (length : textLength period = periodLength periodType) :
    totalOf (buckets demandRows) ⟨supplierId, sku, period⟩ =
      demandFor demandRows supplierId sku periodType period := by
  induction demandRows with
  | nil => rfl
  | cons item rest ih =>
      have cut : buckets (item :: rest) =
          (⟨item.supplierId, item.sku, periodOf .day item.dueDate⟩, item.quantity) ::
            (⟨item.supplierId, item.sku, periodOf .month item.dueDate⟩, item.quantity) ::
              buckets rest := rfl
      have dayLength := period_length .day item
      have monthLength := period_length .month item
      rw [cut, totalOf_cons, totalOf_cons, ih, demandFor, demandFor, List.map_cons, List.sum_cons]
      -- the period of the other kind has another length
      cases periodType with
      | day =>
          have apart : periodOf .month item.dueDate ≠ period := by
            rintro rfl
            rw [monthLength] at length
            cases length
          simp [Bucket.mk.injEq, apart]
      | month =>
          have apart : periodOf .day item.dueDate ≠ period := by
            rintro rfl
            rw [dayLength] at length
            cases length
          simp [Bucket.mk.injEq, apart]

theorem compared_unbarred {bucket : Bucket} {quantity : Int} (plain : bucket.Plain)
    (free : ¬ Barred bucket.sku) :
    compared value periodType capacity (bucket.key, quantity) =
      if textLength bucket.period = periodLength periodType ∧ bucket.supplierId = value.supplierId ∧
          bucket.sku = value.sku ∧ capacity < quantity then
        some (riskOf value periodType capacity bucket.period quantity)
      else none := by
  unfold compared
  rw [bucket.split_key plain, split_unbarred free]
  simp only [List.singleton_append, numberOf_toString, ne_eq, Option.some.injEq]
  by_cases hit : textLength bucket.period = periodLength periodType ∧
      bucket.supplierId = value.supplierId ∧ bucket.sku = value.sku ∧ capacity < quantity
  · rw [if_pos hit, if_neg]
    rintro (one | two | three | four)
    · exact one hit.1
    · exact two hit.2.1
    · exact three hit.2.2.1
    · omega
  · rw [if_neg hit, if_pos]
    by_contra none
    simp only [not_or, not_not, not_le] at none
    exact hit none

theorem compared_barred {bucket : Bucket} {quantity : Int} {first second : String}
    {rest : List String} (plain : bucket.Plain) (parts : split bucket.sku = first :: second :: rest) :
    compared value periodType capacity (bucket.key, quantity) ≠ none ↔
      textLength second = periodLength periodType ∧ bucket.supplierId = value.supplierId ∧
        first = value.sku ∧ capacity < quantity := by
  unfold compared
  rw [bucket.split_key plain, parts]
  simp only [List.cons_append, numberOf_toString, ne_eq, Option.some.injEq]
  constructor
  · intro found
    by_contra missed
    refine found (if_pos ?_)
    by_contra none
    simp only [not_or, not_not, not_le] at none
    exact missed none
  · rintro ⟨one, two, three, four⟩
    rw [if_neg]
    · simp
    · rintro (other | other | other | other)
      · exact other one
      · exact other two
      · exact other three
      · omega

theorem compared_none {bucket : Bucket} {quantity : Int} (plain : bucket.Plain)
    (barred : Barred value.sku) : compared value periodType capacity (bucket.key, quantity) = none := by
  by_cases free : Barred bucket.sku
  · obtain ⟨first, second, rest, parts, unbarred⟩ := split_barred free
    by_contra found
    have same := ((compared_barred plain parts).mp found).2.2.1
    rw [same] at unbarred
    exact unbarred barred
  · rw [compared_unbarred plain free, if_neg]
    rintro ⟨-, -, same, -⟩
    rw [same] at free
    exact free barred

/-- The entries that a relation is given for one capacity. -/
def entriesOf (demandRows : List DemandRow) (value : SupplierSkuRelation) (periodType : PeriodType)
    (capacity : Int) : List SupplierCapacityRisk :=
  (demandOf demandRows).filterMap (compared value periodType capacity)

/-- The comparison of a bucket. -/
def comparedBucket (value : SupplierSkuRelation) (periodType : PeriodType) (capacity : Int)
    (entry : Bucket × Int) : Option SupplierCapacityRisk :=
  compared value periodType capacity (entry.1.key, entry.2)

theorem entriesOf_eq : entriesOf demandRows value periodType capacity =
    (tally (buckets demandRows)).filterMap (comparedBucket value periodType capacity) := by
  rw [entriesOf, demandOf_eq, named, List.filterMap_map]
  rfl

theorem tally_plain {entry : Bucket × Int} (member : entry ∈ tally (buckets demandRows)) :
    entry.1.Plain ∧ entry.2 = totalOf (buckets demandRows) entry.1 := by
  obtain ⟨present, total⟩ := mem_tally.mp member
  exact ⟨buckets_plain _ present, total⟩

/-- The entries of the buckets whose sku has a separator. -/
def misreadEntries (demandRows : List DemandRow) (value : SupplierSkuRelation)
    (periodType : PeriodType) (capacity : Int) : List SupplierCapacityRisk :=
  ((tally (buckets demandRows)).filter fun entry => !decide (¬ Barred entry.1.sku)).filterMap
    (comparedBucket value periodType capacity)

theorem misreadEntries_eq_nil : misreadEntries demandRows value periodType capacity = [] ↔
    ∀ item ∈ demandRows, ∀ held, ¬ Misread demandRows value periodType capacity item held := by
  rw [misreadEntries, List.filterMap_eq_nil_iff]
  have holds : ∀ (item : DemandRow) (held : PeriodType), totalOf (buckets demandRows)
      ⟨item.supplierId, item.sku, periodOf held item.dueDate⟩ =
        demandFor demandRows item.supplierId item.sku held (periodOf held item.dueDate) :=
    fun item held => totalOf_buckets (period_length held item)
  constructor
  · rintro none item listed held ⟨supplier, ⟨second, rest, parts, length⟩, exceeds⟩
    have barred : Barred item.sku := by
      by_contra free
      rw [split_unbarred free] at parts
      exact absurd (List.cons.inj parts).2 (by simp)
    have member : ((⟨item.supplierId, item.sku, periodOf held item.dueDate⟩ : Bucket),
        demandFor demandRows item.supplierId item.sku held (periodOf held item.dueDate)) ∈
          tally (buckets demandRows) :=
      mem_tally.mpr ⟨mem_buckets.mpr ⟨item, listed, held, rfl⟩, (holds item held).symm⟩
    have missed := none _ (List.mem_filter.mpr ⟨member, by simpa using barred⟩)
    exact (compared_barred (tally_plain member).1 parts).mpr ⟨length, supplier, rfl, exceeds⟩ missed
  · intro none entry member
    obtain ⟨inside, barred⟩ := List.mem_filter.mp member
    obtain ⟨present, total⟩ := mem_tally.mp inside
    obtain ⟨item, listed, held, bucket⟩ := mem_buckets.mp present
    have barred' : Barred entry.1.sku := by simpa using barred
    obtain ⟨first, second, rest, parts, -⟩ := split_barred barred'
    by_contra found
    obtain ⟨length, supplier, same, exceeds⟩ :=
      (compared_barred (tally_plain inside).1 parts).mp found
    refine none item listed held ⟨?_, ⟨second, rest, ?_, length⟩, ?_⟩
    · rw [← supplier, bucket]
    · rw [← same, ← parts, bucket]
    · rw [← holds, ← bucket, ← total]
      exact exceeds

/-- The entry for a bucket of the relation's own sku. -/
def hitOf (value : SupplierSkuRelation) (periodType : PeriodType) (capacity : Int)
    (entry : Bucket × Int) : Option SupplierCapacityRisk :=
  if textLength entry.1.period = periodLength periodType ∧ entry.1.supplierId = value.supplierId ∧
      entry.1.sku = value.sku ∧ capacity < entry.2 then
    some (riskOf value periodType capacity entry.1.period entry.2)
  else none

theorem hitOf_some {entry : Bucket × Int} {risk : SupplierCapacityRisk} :
    hitOf value periodType capacity entry = some risk ↔
      (textLength entry.1.period = periodLength periodType ∧
        entry.1.supplierId = value.supplierId ∧ entry.1.sku = value.sku ∧ capacity < entry.2) ∧
      risk = riskOf value periodType capacity entry.1.period entry.2 := by
  unfold hitOf
  split
  · rename_i hit
    rw [Option.some.injEq]
    exact ⟨fun same => ⟨hit, same.symm⟩, fun both => both.2.symm⟩
  · rename_i missed
    constructor
    · intro found
      cases found
    · rintro ⟨hit, -⟩
      exact absurd hit missed

theorem demanded {supplierId : Nat} {sku period : String}
    (positive : 0 < demandFor demandRows supplierId sku periodType period) :
    ∃ item ∈ demandRows, item.supplierId = supplierId ∧ item.sku = sku ∧
      periodOf periodType item.dueDate = period := by
  by_contra none
  have zero : demandFor demandRows supplierId sku periodType period = 0 := by
    refine List.sum_eq_zero ?_
    intro quantity counted
    obtain ⟨item, inside, rfl⟩ := List.mem_map.mp counted
    exact if_neg fun hit => none ⟨item, inside, hit⟩
  omega

theorem unbarred_perm (free : ¬ Barred value.sku) (positive : 0 < capacity) :
    (((tally (buckets demandRows)).filter fun entry => decide (¬ Barred entry.1.sku)).filterMap
      (comparedBucket value periodType capacity)).Perm
        (exceeded demandRows value periodType capacity) := by
  have clean : ((tally (buckets demandRows)).filter fun entry => decide (¬ Barred entry.1.sku)).filterMap
      (comparedBucket value periodType capacity) =
        ((tally (buckets demandRows)).filter fun entry => decide (¬ Barred entry.1.sku)).filterMap
          (hitOf value periodType capacity) := by
    refine List.filterMap_congr ?_
    intro entry member
    obtain ⟨inside, unbarred⟩ := List.mem_filter.mp member
    exact compared_unbarred (tally_plain inside).1 (by simpa using unbarred)
  rw [clean, List.perm_ext_iff_of_nodup]
  · intro risk
    rw [List.mem_filterMap, exceeded, List.mem_map]
    constructor
    · rintro ⟨⟨bucket, quantity⟩, member, hit⟩
      obtain ⟨inside, -⟩ := List.mem_filter.mp member
      obtain ⟨⟨length, supplier, same, exceeds⟩, rfl⟩ := hitOf_some.mp hit
      obtain ⟨present, total⟩ := mem_tally.mp inside
      obtain ⟨item, listed, held, equal⟩ := mem_buckets.mp present
      dsimp only at length supplier same exceeds equal total
      have period : periodOf held item.dueDate = bucket.period := by rw [equal]
      have kind : held = periodType := by
        have lengths := period_length held item
        rw [period, length] at lengths
        cases held <;> cases periodType <;> first | rfl | cases lengths
      subst kind
      have demand : demandFor demandRows value.supplierId value.sku held bucket.period = quantity := by
        rw [← supplier, ← same, ← totalOf_buckets length, total]
      refine ⟨bucket.period, ?_, by rw [demand]⟩
      rw [List.mem_filter, List.mem_dedup, demand]
      exact ⟨List.mem_map.mpr ⟨item, listed, period⟩, by simpa using exceeds⟩
    · rintro ⟨period, member, rfl⟩
      rw [List.mem_filter, List.mem_dedup, decide_eq_true_eq] at member
      obtain ⟨listed, exceeds⟩ := member
      obtain ⟨dated, -, rfl⟩ := List.mem_map.mp listed
      have length := period_length periodType dated
      -- some row has the supplier, the sku and the period, as the demand is positive
      obtain ⟨item, inside, supplier, same, equal⟩ := demanded (positive.trans exceeds)
      refine ⟨(⟨value.supplierId, value.sku, periodOf periodType dated.dueDate⟩,
        demandFor demandRows value.supplierId value.sku periodType
          (periodOf periodType dated.dueDate)), ?_, ?_⟩
      · refine List.mem_filter.mpr ⟨mem_tally.mpr ⟨?_, (totalOf_buckets length).symm⟩, by simpa using free⟩
        refine mem_buckets.mpr ⟨item, inside, periodType, ?_⟩
        rw [supplier, same, equal]
      · exact hitOf_some.mpr ⟨⟨length, rfl, rfl, exceeds⟩, rfl⟩
  · have distinct := (nodup_tally (buckets demandRows)).of_map
    refine (distinct.filter _).filterMap ?_
    intro one other risk hit hit'
    obtain ⟨⟨-, supplier, same, -⟩, rfl⟩ := hitOf_some.mp hit
    obtain ⟨⟨-, supplier', same', -⟩, equal⟩ := hitOf_some.mp hit'
    obtain ⟨⟨_, _, _⟩, _⟩ := one
    obtain ⟨⟨_, _, _⟩, _⟩ := other
    simp only [riskOf, SupplierCapacityRisk.mk.injEq, true_and] at equal supplier same supplier' same'
    obtain ⟨period, quantity, -⟩ := equal
    rw [supplier, supplier', same, same', period, quantity]
  · refine ((List.nodup_dedup _).filter _).map ?_
    exact fun period other equal => congrArg SupplierCapacityRisk.period equal

theorem entriesOf_perm (free : ¬ Barred value.sku) (positive : 0 < capacity) :
    (entriesOf demandRows value periodType capacity).Perm
      (exceeded demandRows value periodType capacity ++
        misreadEntries demandRows value periodType capacity) := by
  rw [entriesOf_eq]
  have split := (List.filter_append_perm (fun entry : Bucket × Int =>
    decide (¬ Barred entry.1.sku)) (tally (buckets demandRows))).filterMap
      (comparedBucket value periodType capacity)
  rw [List.filterMap_append] at split
  exact split.symm.trans ((unbarred_perm free positive).append_right _)

theorem entriesOf_barred (barred : Barred value.sku) :
    entriesOf demandRows value periodType capacity = [] := by
  rw [entriesOf_eq, List.filterMap_eq_nil_iff]
  intro entry member
  exact compared_none (tally_plain member).1 barred

theorem entriesOf_sku {risk : SupplierCapacityRisk}
    (member : risk ∈ entriesOf demandRows value periodType capacity) : risk.sku = value.sku := by
  obtain ⟨entry, -, found⟩ := List.mem_filterMap.mp member
  unfold compared at found
  split at found
  · split at found
    · cases found
    · cases found
      rfl
  · cases found

theorem mem_exceeded {period : String} (positive : 0 < capacity)
    (exceeds : capacity < demandFor demandRows value.supplierId value.sku periodType period) :
    riskOf value periodType capacity period
      (demandFor demandRows value.supplierId value.sku periodType period) ∈
        exceeded demandRows value periodType capacity := by
  obtain ⟨item, listed, -, -, rfl⟩ := demanded (positive.trans exceeds)
  refine List.mem_map.mpr ⟨_, List.mem_filter.mpr ⟨List.mem_dedup.mpr ?_, by simpa using exceeds⟩, rfl⟩
  exact List.mem_map.mpr ⟨item, listed, rfl⟩

theorem exceeded_eq_nil (none : ∀ period,
    demandFor demandRows value.supplierId value.sku periodType period ≤ capacity) :
    exceeded demandRows value periodType capacity = [] := by
  rw [exceeded, List.map_eq_nil_iff, List.filter_eq_nil_iff]
  intro period _
  have := none period
  simp only [decide_eq_true_eq]
  omega

end

theorem SupplierSkuRelation.positive {value : SupplierSkuRelation} {periodType : PeriodType}
    {capacity : Int} (stated : value.capacity periodType = some capacity) : 0 < capacity := by
  cases periodType with
  | day => exact value.dailyPositive capacity stated
  | month => exact value.monthlyPositive capacity stated

/-! ## All relations -/

/-- What `f` lists for every relation and each of its capacities. -/
def perCapacity (relations : List SupplierSkuRelation)
    (f : SupplierSkuRelation → PeriodType → Int → List SupplierCapacityRisk) :
    List SupplierCapacityRisk :=
  relations.flatMap fun value => [PeriodType.day, .month].flatMap fun periodType =>
    (value.capacity periodType).elim [] (f value periodType)

section

variable {relations : List SupplierSkuRelation} {demandRows : List DemandRow}
  {f g : SupplierSkuRelation → PeriodType → Int → List SupplierCapacityRisk}

theorem mem_perCapacity {risk : SupplierCapacityRisk} : risk ∈ perCapacity relations f ↔
    ∃ value ∈ relations, ∃ periodType capacity,
      value.capacity periodType = some capacity ∧ risk ∈ f value periodType capacity := by
  simp only [perCapacity, List.mem_flatMap]
  constructor
  · rintro ⟨value, listed, periodType, -, member⟩
    cases stated : value.capacity periodType with
    | none =>
        rw [stated] at member
        cases member
    | some capacity =>
        rw [stated] at member
        exact ⟨value, listed, periodType, capacity, stated, member⟩
  · rintro ⟨value, listed, periodType, capacity, stated, member⟩
    refine ⟨value, listed, periodType, by cases periodType <;> simp, ?_⟩
    rw [stated]
    exact member

theorem perCapacity_perm (each : ∀ value ∈ relations, ∀ periodType capacity,
    value.capacity periodType = some capacity →
      (f value periodType capacity).Perm (g value periodType capacity)) :
    (perCapacity relations f).Perm (perCapacity relations g) := by
  refine List.Perm.flatMap_left _ ?_
  intro value listed
  refine List.Perm.flatMap_left _ ?_
  intro periodType _
  cases stated : value.capacity periodType with
  | none => exact List.Perm.refl _
  | some capacity => exact each value listed periodType capacity stated

theorem perCapacity_append : (perCapacity relations fun value periodType capacity =>
    f value periodType capacity ++ g value periodType capacity).Perm
      (perCapacity relations f ++ perCapacity relations g) := by
  have each : ∀ value : SupplierSkuRelation, ([PeriodType.day, .month].flatMap fun periodType =>
      (value.capacity periodType).elim [] fun capacity =>
        f value periodType capacity ++ g value periodType capacity).Perm
      (([PeriodType.day, .month].flatMap fun periodType =>
          (value.capacity periodType).elim [] (f value periodType)) ++
        [PeriodType.day, .month].flatMap fun periodType =>
          (value.capacity periodType).elim [] (g value periodType)) := by
    intro value
    refine .trans (.of_eq ?_) (List.flatMap_append_perm _ _ _).symm
    refine List.flatMap_congr ?_
    intro periodType _
    cases value.capacity periodType <;> rfl
  exact (List.Perm.flatMap_left _ fun value _ => each value).trans
    (List.flatMap_append_perm _ _ _).symm

theorem collected_eq : collected relations (demandOf demandRows) =
    perCapacity relations (entriesOf demandRows) := by
  refine List.flatMap_congr fun value _ => List.flatMap_congr fun periodType _ => ?_
  cases value.capacity periodType <;> rfl

theorem expected_eq : expected relations demandRows = perCapacity relations (exceeded demandRows) := by
  refine List.flatMap_congr fun value _ => List.flatMap_congr fun periodType _ => ?_
  cases value.capacity periodType <;> rfl

/-! ## When the risks are right -/

/-- Without a relation on a barred sku over its capacity, the entries are those
expected and the misread ones. -/
theorem collected_perm
    (within : ∀ value ∈ relations, Barred value.sku → ∀ periodType capacity,
      value.capacity periodType = some capacity → ∀ period,
        demandFor demandRows value.supplierId value.sku periodType period ≤ capacity) :
    (collected relations (demandOf demandRows)).Perm
      (expected relations demandRows ++ perCapacity relations fun value periodType capacity =>
        if Barred value.sku then [] else misreadEntries demandRows value periodType capacity) := by
  rw [collected_eq, expected_eq]
  refine .trans (perCapacity_perm ?_) perCapacity_append
  intro value listed periodType capacity stated
  by_cases barred : Barred value.sku
  · rw [entriesOf_barred barred, if_pos barred,
      exceeded_eq_nil (within value listed barred periodType capacity stated), List.append_nil]
  · rw [if_neg barred]
    exact entriesOf_perm barred (SupplierSkuRelation.positive stated)

theorem misread_unbarred {value : SupplierSkuRelation} {periodType : PeriodType} {capacity : Int}
    {item : DemandRow} {held : PeriodType}
    (misread : Misread demandRows value periodType capacity item held) : ¬ Barred value.sku := by
  obtain ⟨second, rest, parts, -⟩ := misread.parts
  by_cases barred : Barred item.sku
  · obtain ⟨first, other, others, cut, unbarred⟩ := split_barred barred
    rw [cut] at parts
    rw [← (List.cons.inj parts).1]
    exact unbarred
  · rw [split_unbarred barred] at parts
    exact absurd (List.cons.inj parts).2 (by simp)

theorem perm_iff_unambiguous :
    (collected relations (demandOf demandRows)).Perm (expected relations demandRows) ↔
      Unambiguous relations demandRows := by
  constructor
  · intro perm
    have within : ∀ value ∈ relations, Barred value.sku → ∀ periodType capacity,
        value.capacity periodType = some capacity → ∀ period,
          demandFor demandRows value.supplierId value.sku periodType period ≤ capacity := by
      intro value listed barred periodType capacity stated period
      by_contra exceeds
      -- the excess is expected, and every entry found has a sku without a separator
      have wanted := mem_exceeded (SupplierSkuRelation.positive stated) (not_le.mp exceeds)
      have found := perm.mem_iff.mpr (expected_eq ▸
        mem_perCapacity.mpr ⟨value, listed, periodType, capacity, stated, wanted⟩)
      rw [collected_eq] at found
      obtain ⟨other, -, kind, limit, -, entry⟩ := mem_perCapacity.mp found
      have same : value.sku = other.sku := entriesOf_sku entry
      rw [entriesOf_barred (same ▸ barred)] at entry
      cases entry
    have extras := (collected_perm within).symm.trans perm
    have lengths := extras.length_eq
    rw [List.length_append] at lengths
    have none : (perCapacity relations fun value periodType capacity =>
        if Barred value.sku then [] else misreadEntries demandRows value periodType capacity) = [] :=
      List.eq_nil_of_length_eq_zero (by omega)
    refine ⟨within, ?_⟩
    intro value listed periodType capacity stated item inside held misread
    have nothing : misreadEntries demandRows value periodType capacity = [] := by
      refine List.eq_nil_iff_forall_not_mem.mpr ?_
      intro risk member
      refine List.eq_nil_iff_forall_not_mem.mp none risk ?_
      refine mem_perCapacity.mpr ⟨value, listed, periodType, capacity, stated, ?_⟩
      rw [if_neg (misread_unbarred misread)]
      exact member
    exact misreadEntries_eq_nil.mp nothing item inside held misread
  · intro clean
    refine (collected_perm clean.within).trans (.of_eq ?_)
    have none : (perCapacity relations fun value periodType capacity =>
        if Barred value.sku then [] else misreadEntries demandRows value periodType capacity) = [] := by
      refine List.eq_nil_iff_forall_not_mem.mpr ?_
      intro risk member
      obtain ⟨value, listed, periodType, capacity, stated, entry⟩ := mem_perCapacity.mp member
      by_cases barred : Barred value.sku
      · rw [if_pos barred] at entry
        cases entry
      · rw [if_neg barred, misreadEntries_eq_nil.mpr
          (clean.apart value listed periodType capacity stated)] at entry
        cases entry
    rw [none, List.append_nil]

end

/-- With no more than the limit to report, the capacity risks are one entry for
each relation and each period over its capacity, exactly when no sku with a
separator is read wrongly. -/
theorem capacityRisks_exact (localeCompare : String → String → Ordering)
    (relations : List SupplierSkuRelation) (demandRows : List DemandRow)
    (few : (expected relations demandRows).length ≤ riskLimit) :
    (∃ risks, capacityRisks localeCompare relations demandRows = .ok risks ∧
      risks.Perm (expected relations demandRows)) ↔ Unambiguous relations demandRows := by
  rw [← perm_iff_unambiguous]
  constructor
  · rintro ⟨risks, answered, perm⟩
    unfold capacityRisks at answered
    dsimp only at answered
    split at answered
    · cases answered
    · cases answered
      exact (List.mergeSort_perm _ _).symm.trans perm
  · intro perm
    refine ⟨_, if_neg ?_, (List.mergeSort_perm _ _).trans perm⟩
    have := perm.length_eq
    omega

theorem one_positive : ∀ capacity ∈ some (1 : Int), 0 < capacity := by simp

theorem none_positive : ∀ capacity ∈ (none : Option Int), 0 < capacity := by simp

/-- A relation on a sku, with a daily capacity of one. -/
def onSku (sku : String) : SupplierSkuRelation where
  id := 1
  factoryId := 1
  supplierId := 1
  sku := sku
  dailyCapacity := some 1
  monthlyCapacity := none
  dailyPositive := one_positive
  monthlyPositive := none_positive

theorem five_positive : (0 : Int) < 5 := by decide

theorem isDay_january : isDay "2026-01-05" = true := by decide

/-- Five are due on one day. -/
def dueOn (sku : String) : DemandRow where
  dueDate := "2026-01-05"
  quantity := 5
  sku := sku
  supplierId := 1
  positive := five_positive
  dueDay := isDay_january

theorem capacityRisks_exact_plain :
    (expected [onSku "A"] [dueOn "A"]).length ≤ riskLimit ∧
      ((∃ risks, capacityRisks compare [onSku "A"] [dueOn "A"] = .ok risks ∧
        risks.Perm (expected [onSku "A"] [dueOn "A"])) ↔ Unambiguous [onSku "A"] [dueOn "A"]) := by
  have few : (expected [onSku "A"] [dueOn "A"]).length ≤ riskLimit := by decide +kernel
  exact ⟨few, capacityRisks_exact compare _ _ few⟩

/-- The excess on a sku with a separator is missed. -/
theorem barred_risk_missed : (expected [onSku "A|B"] [dueOn "A|B"]).length = 1 ∧
    ∀ localeCompare, capacityRisks localeCompare [onSku "A|B"] [dueOn "A|B"] = .ok [] := by
  refine ⟨by decide +kernel, ?_⟩
  intro localeCompare
  have none : collected [onSku "A|B"] (demandOf [dueOn "A|B"]) = [] := by decide +kernel
  unfold capacityRisks
  rw [none]
  exact congrArg Except.ok (List.mergeSort_nil)

end SupplyChain.Suppliers.Capacity
