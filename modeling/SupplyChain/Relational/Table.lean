import Mathlib.Tactic.Common
import Mathlib.Algebra.Order.BigOperators.Group.List
import Mathlib.Algebra.Order.Ring.Int
import Mathlib.Data.List.Sort
import Mathlib.Logic.Unique

/-!
Tables with an auto-increment key. A table is the list of its rows in key
order together with the next key; both facts a reader of the list relies on,
that keys ascend and that the next key is unused, are fields of the table.
Sums over a table are stated for an arbitrary weight of a row, so that a
counter column, a ledger and a stock total are all instances of one notion.
-/

namespace Relational

structure Table (Row : Type) where
  rows : List (Nat × Row)
  nextId : Nat
  ascending : rows.Pairwise (fun a b => a.1 < b.1)
  bounded : ∀ r ∈ rows, r.1 < nextId

namespace Table

variable {Row : Type}

def empty : Table Row where
  rows := []
  nextId := 1
  ascending := List.Pairwise.nil
  bounded := by simp

def find? (t : Table Row) (id : Nat) : Option Row :=
  (t.rows.find? fun r => r.1 == id).map (·.2)

def insert (t : Table Row) (row : Row) : Table Row where
  rows := t.rows ++ [(t.nextId, row)]
  nextId := t.nextId + 1
  ascending := by
    rw [List.pairwise_append]
    refine ⟨t.ascending, List.pairwise_singleton _ _, ?_⟩
    intro a member b single
    rw [List.mem_singleton.mp single]
    exact t.bounded a member
  bounded := by
    intro r member
    rcases List.mem_append.mp member with old | new
    · exact Nat.lt_succ_of_lt (t.bounded r old)
    · rw [List.mem_singleton.mp new]
      exact Nat.lt_succ_self _

/-- The insert of a row that only some condition calls for. -/
def insertWhen (t : Table Row) (condition : Prop) [Decidable condition] (row : Row) : Table Row :=
  if condition then t.insert row else t

/-- Every row is revised and the keys stay where they are. -/
def revise (t : Table Row) (change : Nat → Row → Row) : Table Row where
  rows := t.rows.map fun r => (r.1, change r.1 r.2)
  nextId := t.nextId
  ascending := by
    rw [List.pairwise_map]
    exact t.ascending
  bounded := by
    intro r member
    obtain ⟨old, inside, same⟩ := List.mem_map.mp member
    subst same
    exact t.bounded old inside

/-- The set-oriented update: `change` is applied to every row that passes
`guard`. -/
def update (t : Table Row) (guard : Nat → Row → Bool) (change : Row → Row) : Table Row :=
  t.revise fun id row => if guard id row then change row else row

/-- The update of the one row with key `id`. -/
def modify (t : Table Row) (id : Nat) (change : Row → Row) : Table Row :=
  t.update (fun key _ => key == id) change

@[simp]
theorem update_key (t : Table Row) (id : Nat) (change : Row → Row) :
    (t.update (fun key _ => key == id) change) = t.modify id change := rfl

def select (t : Table Row) (guard : Nat → Row → Bool) : List (Nat × Row) :=
  t.rows.filter fun r => guard r.1 r.2

/-- Whether some row passes `guard`; unique keys are checked with it. -/
def any (t : Table Row) (guard : Nat → Row → Bool) : Bool :=
  t.rows.any fun r => guard r.1 r.2

/-- The first row in key order that passes `guard`. -/
def first? (t : Table Row) (guard : Nat → Row → Bool) : Option (Nat × Row) :=
  t.rows.find? fun r => guard r.1 r.2

def weigh (t : Table Row) (weight : Nat → Row → Int) : Int :=
  (t.rows.map fun r => weight r.1 r.2).sum

/-! ## Looking a row up -/

theorem find?_eq_some_iff (t : Table Row) (id : Nat) (row : Row) :
    t.find? id = some row ↔ (id, row) ∈ t.rows := by
  have distinct := t.ascending
  unfold find?
  generalize t.rows = rows at distinct ⊢
  induction rows with
  | nil => simp
  | cons head rest ih =>
      obtain ⟨key, value⟩ := head
      rw [List.pairwise_cons] at distinct
      by_cases same : key = id
      · subst same
        simp only [List.find?_cons, BEq.rfl, Option.map_some, List.mem_cons, Prod.mk.injEq,
          true_and, Option.some.injEq]
        constructor
        · intro equal
          exact Or.inl equal.symm
        · rintro (equal | later)
          · exact equal.symm
          · exact absurd (distinct.1 _ later) (Nat.lt_irrefl _)
      · have other : (key == id) = false := by simpa using same
        have differ : ¬ id = key := fun equal => same equal.symm
        simp only [List.find?_cons, other, List.mem_cons, Prod.mk.injEq, differ, false_and,
          false_or]
        exact ih distinct.2

theorem find?_lt_nextId {t : Table Row} {id : Nat} {row : Row} (found : t.find? id = some row) :
    id < t.nextId :=
  t.bounded (id, row) ((t.find?_eq_some_iff id row).mp found)

theorem find?_nextId (t : Table Row) : t.find? t.nextId = none := by
  cases found : t.find? t.nextId with
  | none => rfl
  | some row => exact absurd (find?_lt_nextId found) (Nat.lt_irrefl _)

@[simp]
theorem nextId_insert (t : Table Row) (row : Row) : (t.insert row).nextId = t.nextId + 1 := rfl

theorem find?_insert (t : Table Row) (row : Row) (id : Nat) :
    (t.insert row).find? id = if id = t.nextId then some row else t.find? id := by
  by_cases new : id = t.nextId
  · subst new
    rw [if_pos rfl, find?_eq_some_iff]
    exact List.mem_append.mpr (Or.inr (List.mem_singleton.mpr rfl))
  · rw [if_neg new]
    have other : (t.nextId == id) = false := by
      simpa using fun equal => new equal.symm
    unfold find?
    simp only [insert, List.find?_append, List.find?_cons, other, List.find?_nil, Option.or_none]

theorem find?_revise (t : Table Row) (change : Nat → Row → Row) (id : Nat) :
    (t.revise change).find? id = (t.find? id).map (change id) := by
  simp only [find?, revise]
  induction t.rows with
  | nil => rfl
  | cons head rest ih =>
      by_cases same : head.1 = id
      · subst same
        simp
      · have other : (head.1 == id) = false := by simpa using same
        simpa [other] using ih

theorem find?_update (t : Table Row) (guard : Nat → Row → Bool) (change : Row → Row) (id : Nat) :
    (t.update guard change).find? id =
      (t.find? id).map fun row => if guard id row then change row else row :=
  find?_revise t _ id

theorem find?_modify (t : Table Row) (id : Nat) (change : Row → Row) (key : Nat) :
    (t.modify id change).find? key =
      if key = id then (t.find? key).map change else t.find? key := by
  rw [modify, find?_update]
  by_cases same : key = id
  · simp [same]
  · simp [same]

theorem modify_congr {t : Table Row} {id : Nat} {change change' : Row → Row}
    (same : ∀ row, t.find? id = some row → change row = change' row) :
    t.modify id change = t.modify id change' := by
  unfold modify update revise
  congr 1
  refine List.map_congr_left ?_
  rintro ⟨key, row⟩ member
  by_cases here : key = id
  · subst here
    simp [same row ((t.find?_eq_some_iff key row).mpr member)]
  · simp [here]

/-- An update that does not change the row changes nothing. -/
theorem modify_same {t : Table Row} {id : Nat} {change : Row → Row}
    (same : ∀ row, t.find? id = some row → change row = row) : t.modify id change = t := by
  have kept : t.modify id change = t.modify id fun row => row := modify_congr same
  rw [kept]
  simp [modify, update, revise]

theorem insert_modify (t : Table Row) (row : Row) (change : Row → Row) :
    (t.insert row).modify t.nextId change = t.insert (change row) := by
  have older : ∀ r ∈ t.rows, (r.1, if r.1 == t.nextId then change r.2 else r.2) = r := by
    intro r member
    have below := t.bounded r member
    have differ : (r.1 == t.nextId) = false := by
      rw [beq_eq_false_iff_ne]
      omega
    simp [differ]
  unfold modify update revise insert
  simp only [List.map_append, List.map_cons, List.map_nil, BEq.rfl, if_true]
  congr 1
  congr 1
  exact (List.map_congr_left older).trans (List.map_id _)

theorem update_guarded {t : Table Row} {id : Nat} {row : Row} (found : t.find? id = some row)
    (guard : Row → Bool) (passes : guard row = true) (change : Row → Row) :
    t.update (fun key other => key == id && guard other) change = t.modify id change := by
  unfold modify update revise
  congr 1
  refine List.map_congr_left ?_
  rintro ⟨key, other⟩ member
  by_cases same : key = id
  · subst same
    rw [← find?_eq_some_iff, found] at member
    cases member
    simp [passes]
  · simp [same]

theorem update_single {t : Table Row} {guard : Nat → Row → Bool} {id : Nat} {row : Row}
    (found : t.find? id = some row) (passes : guard id row = true)
    (only : ∀ key other, t.find? key = some other → guard key other = true → key = id)
    (change : Row → Row) : t.update guard change = t.modify id change := by
  unfold modify update revise
  congr 1
  refine List.map_congr_left ?_
  rintro ⟨key, other⟩ member
  rw [← find?_eq_some_iff] at member
  by_cases same : key = id
  · subst same
    rw [found] at member
    cases member
    simp [passes]
  · have fails : guard key other = false := by
      rw [← Bool.not_eq_true]
      exact fun hit => same (only key other member hit)
    simp [same, fails]

theorem find?_modify_self {t : Table Row} {id : Nat} {row : Row} (change : Row → Row)
    (found : t.find? id = some row) : (t.modify id change).find? id = some (change row) := by
  rw [find?_modify, if_pos rfl, found]
  rfl

theorem find?_modify_ne (t : Table Row) {id key : Nat} (change : Row → Row)
    (differ : key ≠ id) : (t.modify id change).find? key = t.find? key := by
  rw [find?_modify, if_neg differ]

/-- A row found after an update is the old row or its changed copy. -/
theorem find?_modify_cases {t : Table Row} {id key : Nat} {change : Row → Row} {row : Row}
    (found : (t.modify id change).find? key = some row) :
    (key = id ∧ ∃ old, t.find? id = some old ∧ row = change old) ∨
      (key ≠ id ∧ t.find? key = some row) := by
  rw [find?_modify] at found
  by_cases same : key = id
  · subst same
    rw [if_pos rfl] at found
    obtain ⟨old, before, after⟩ := Option.map_eq_some_iff.mp found
    exact Or.inl ⟨rfl, old, before, after.symm⟩
  · rw [if_neg same] at found
    exact Or.inr ⟨same, found⟩

theorem find?_insert_cases {t : Table Row} {row new : Row} {key : Nat}
    (found : (t.insert new).find? key = some row) :
    (key = t.nextId ∧ row = new) ∨ t.find? key = some row := by
  rw [find?_insert] at found
  by_cases fresh : key = t.nextId
  · rw [if_pos fresh] at found
    exact Or.inl ⟨fresh, (Option.some.inj found).symm⟩
  · rw [if_neg fresh] at found
    exact Or.inr found

theorem find?_insert_of_some {t : Table Row} {row new : Row} {key : Nat}
    (found : t.find? key = some row) : (t.insert new).find? key = some row := by
  rw [find?_insert, if_neg (Nat.ne_of_lt (find?_lt_nextId found))]
  exact found

theorem find?_single {row found : Row} {id : Nat}
    (present : (empty.insert row).find? id = some found) : found = row := by
  rcases find?_insert_cases present with ⟨-, same⟩ | none
  · exact same
  · cases none

theorem find?_insert_nextId (t : Table Row) (row : Row) :
    (t.insert row).find? t.nextId = some row := by
  rw [find?_insert, if_pos rfl]

theorem mem_select {t : Table Row} {guard : Nat → Row → Bool} {r : Nat × Row} :
    r ∈ t.select guard ↔ t.find? r.1 = some r.2 ∧ guard r.1 r.2 = true := by
  rw [find?_eq_some_iff]
  exact List.mem_filter

theorem any_eq_true {t : Table Row} {guard : Nat → Row → Bool} :
    t.any guard = true ↔ ∃ id row, t.find? id = some row ∧ guard id row = true := by
  simp only [any, List.any_eq_true, find?_eq_some_iff]
  constructor
  · rintro ⟨r, member, passes⟩
    exact ⟨r.1, r.2, member, passes⟩
  · rintro ⟨id, row, member, passes⟩
    exact ⟨(id, row), member, passes⟩

theorem any_insert {t : Table Row} {guard : Nat → Row → Bool} {row : Row} :
    (t.insert row).any guard = (t.any guard || guard t.nextId row) := by
  simp [any, insert]

theorem any_eq_false {t : Table Row} {guard : Nat → Row → Bool} :
    t.any guard = false ↔ ∀ id row, t.find? id = some row → guard id row = false := by
  rw [Bool.eq_false_iff, Ne, any_eq_true]
  constructor
  · intro none id row found
    by_contra passes
    exact none ⟨id, row, found, by simpa using passes⟩
  · rintro all ⟨id, row, found, passes⟩
    rw [all id row found] at passes
    cases passes

theorem mem_of_head?_insertionSort {α : Type} {r : α → α → Prop} [DecidableRel r] {items : List α}
    {item : α} (first : (items.insertionSort r).head? = some item) : item ∈ items :=
  (List.perm_insertionSort r items).mem_iff.mp (List.mem_of_mem_head? first)

theorem nil_of_head?_insertionSort {α : Type} {r : α → α → Prop} [DecidableRel r] {items : List α}
    (none : (items.insertionSort r).head? = none) : items = [] := by
  have perm := List.perm_insertionSort r items
  rw [List.head?_eq_none_iff.mp none] at perm
  exact List.nil_perm.mp perm

/-- Among the rows that pass there is one with the greatest key. -/
theorem exists_greatest {t : Table Row} (guard : Nat → Row → Bool)
    (inhabited : ∃ id row, t.find? id = some row ∧ guard id row = true) :
    ∃ id row, t.find? id = some row ∧ guard id row = true ∧
      ∀ key other, t.find? key = some other → guard key other = true → key ≤ id := by
  obtain ⟨id, row, found, passes⟩ := inhabited
  -- by induction on how many keys are left above
  generalize left : t.nextId - id = room
  induction room using Nat.strong_induction_on generalizing id row with
  | h room ih =>
      by_cases higher : ∃ key other, t.find? key = some other ∧ guard key other = true ∧ id < key
      · obtain ⟨key, other, foundOther, passesOther, above⟩ := higher
        have bound := find?_lt_nextId foundOther
        exact ih (t.nextId - key) (by omega) key other foundOther passesOther rfl
      · refine ⟨id, row, found, passes, ?_⟩
        intro key other foundOther passesOther
        apply Nat.not_lt.mp
        intro above
        exact higher ⟨key, other, foundOther, passesOther, above⟩

theorem first?_insert (t : Table Row) (guard : Nat → Row → Bool) (row : Row) :
    (t.insert row).first? guard =
      (t.first? guard).or (if guard t.nextId row then some (t.nextId, row) else none) := by
  simp only [first?, insert, List.find?_append, List.find?_singleton]

/-- An update that leaves `guard` as it was changes the first row in place. -/
theorem first?_update (t : Table Row) (guard touched : Nat → Row → Bool) (change : Row → Row)
    (stable : ∀ id row, touched id row = true → guard id (change row) = guard id row) :
    (t.update touched change).first? guard =
      (t.first? guard).map fun r => (r.1, if touched r.1 r.2 then change r.2 else r.2) := by
  simp only [first?, update, revise]
  induction t.rows with
  | nil => rfl
  | cons head rest ih =>
      have same : guard head.1 (if touched head.1 head.2 then change head.2 else head.2) =
          guard head.1 head.2 := by
        by_cases hit : touched head.1 head.2 = true
        · rw [if_pos hit, stable _ _ hit]
        · rw [if_neg hit]
      by_cases passes : guard head.1 head.2 = true
      · simp [same, passes]
      · simpa [same, passes] using ih

theorem first?_some {t : Table Row} {guard : Nat → Row → Bool} {r : Nat × Row}
    (found : t.first? guard = some r) : t.find? r.1 = some r.2 ∧ guard r.1 r.2 = true := by
  unfold first? at found
  refine ⟨(t.find?_eq_some_iff r.1 r.2).mpr (List.mem_of_find?_eq_some found), ?_⟩
  simpa using List.find?_some found

theorem first?_none {t : Table Row} {guard : Nat → Row → Bool} :
    t.first? guard = none ↔ t.any guard = false := by
  simp [first?, any]

theorem select_ascending (t : Table Row) (guard : Nat → Row → Bool) :
    (t.select guard).Pairwise (fun a b => a.1 < b.1) :=
  t.ascending.filter _

theorem select_insert (t : Table Row) (guard : Nat → Row → Bool) (row : Row) :
    (t.insert row).select guard =
      t.select guard ++ (if guard t.nextId row then [(t.nextId, row)] else []) := by
  simp only [select, insert, List.filter_append, List.filter_cons, List.filter_nil]

/-- A revision that leaves `guard` as it was selects as many rows. -/
theorem length_select_revise (t : Table Row) (guard : Nat → Row → Bool)
    (change : Nat → Row → Row)
    (stable : ∀ id row, t.find? id = some row → guard id (change id row) = guard id row) :
    ((t.revise change).select guard).length = (t.select guard).length := by
  simp only [select, revise, List.filter_map, List.length_map]
  congr 1
  refine List.filter_congr ?_
  intro r member
  exact stable r.1 r.2 ((t.find?_eq_some_iff r.1 r.2).mpr member)

theorem select_eq_nil {t : Table Row} {guard : Nat → Row → Bool} :
    t.select guard = [] ↔ ∀ id row, t.find? id = some row → guard id row = false := by
  simp only [select, List.filter_eq_nil_iff, find?_eq_some_iff]
  constructor
  · intro none id row member
    simpa using none (id, row) member
  · intro none r member
    simp [none r.1 r.2 member]

/-- Two tables that show the same rows under every key hold the same rows. -/
theorem rows_ext {t u : Table Row} (same : ∀ id, t.find? id = u.find? id) : t.rows = u.rows := by
  have members : ∀ r, r ∈ t.rows ↔ r ∈ u.rows := by
    rintro ⟨id, row⟩
    rw [← find?_eq_some_iff, ← find?_eq_some_iff, same id]
  have nodup : ∀ v : Table Row, v.rows.Nodup := fun v =>
    v.ascending.imp fun lt equal => by
      subst equal
      exact Nat.lt_irrefl _ lt
  have perm : t.rows.Perm u.rows :=
    (List.perm_ext_iff_of_nodup (nodup t) (nodup u)).mpr members
  exact perm.eq_of_pairwise (fun a b _ _ left right => absurd (Nat.lt_trans left right)
    (Nat.lt_irrefl _)) t.ascending u.ascending

/-! ## Sums over a table -/

theorem weigh_insert (t : Table Row) (row : Row) (weight : Nat → Row → Int) :
    (t.insert row).weigh weight = t.weigh weight + weight t.nextId row := by
  simp [weigh, insert]

theorem weigh_congr {t : Table Row} {weight weight' : Nat → Row → Int}
    (same : ∀ id row, t.find? id = some row → weight id row = weight' id row) :
    t.weigh weight = t.weigh weight' := by
  unfold weigh
  congr 1
  refine List.map_congr_left ?_
  intro r member
  exact same r.1 r.2 ((t.find?_eq_some_iff r.1 r.2).mpr member)

theorem weigh_revise (t : Table Row) (change : Nat → Row → Row) (weight : Nat → Row → Int) :
    (t.revise change).weigh weight = t.weigh fun id row => weight id (change id row) := by
  simp [weigh, revise, Function.comp_def]

theorem weigh_update (t : Table Row) (guard : Nat → Row → Bool) (change : Row → Row)
    (weight : Nat → Row → Int) :
    (t.update guard change).weigh weight =
      t.weigh fun id row => weight id (if guard id row then change row else row) :=
  weigh_revise t _ weight

theorem weigh_add (t : Table Row) (weight weight' : Nat → Row → Int) :
    (t.weigh fun id row => weight id row + weight' id row) =
      t.weigh weight + t.weigh weight' := by
  exact List.sum_map_add

theorem weigh_zero {t : Table Row} {weight : Nat → Row → Int}
    (zero : ∀ id row, t.find? id = some row → weight id row = 0) : t.weigh weight = 0 := by
  rw [weigh_congr zero]
  simp [weigh]

/-- A weight concentrated on one key sums to its value there. -/
theorem weigh_single {t : Table Row} {id : Nat} {row : Row} (found : t.find? id = some row)
    (value : Int) : (t.weigh fun key _ => if key = id then value else 0) = value := by
  have member := (t.find?_eq_some_iff id row).mp found
  have distinct := t.ascending
  unfold weigh
  generalize t.rows = rows at member distinct ⊢
  induction rows with
  | nil => cases member
  | cons head rest ih =>
      rw [List.pairwise_cons] at distinct
      simp only [List.map_cons, List.sum_cons]
      rcases List.mem_cons.mp member with first | later
      · have vanish : (rest.map fun r => if r.1 = id then value else 0).sum = 0 := by
          refine List.sum_eq_zero ?_
          intro amount inside
          obtain ⟨r, inRest, equal⟩ := List.mem_map.mp inside
          have above := distinct.1 r inRest
          rw [← first] at above
          have differ : ¬ r.1 = id := Nat.ne_of_gt above
          rw [← equal, if_neg differ]
        rw [← first, vanish]
        simp
      · have below := distinct.1 _ later
        have differ : ¬ head.1 = id := Nat.ne_of_lt below
        rw [if_neg differ, ih later distinct.2, Int.zero_add]

/-- The sum after an update of one row differs by what that row's weight does. -/
theorem weigh_modify {t : Table Row} {id : Nat} {row : Row} (found : t.find? id = some row)
    (change : Row → Row) (weight : Nat → Row → Int) :
    (t.modify id change).weigh weight =
      t.weigh weight + (weight id (change row) - weight id row) := by
  rw [modify, weigh_update, ← weigh_single found (weight id (change row) - weight id row),
    ← weigh_add]
  refine weigh_congr ?_
  intro key old present
  by_cases same : key = id
  · subst same
    rw [found] at present
    cases present
    simp
  · simp [same]

theorem weigh_nonneg {t : Table Row} {weight : Nat → Row → Int}
    (nonneg : ∀ id row, t.find? id = some row → 0 ≤ weight id row) : 0 ≤ t.weigh weight := by
  refine List.sum_nonneg ?_
  intro amount inside
  obtain ⟨r, member, equal⟩ := List.mem_map.mp inside
  rw [← equal]
  exact nonneg r.1 r.2 ((t.find?_eq_some_iff r.1 r.2).mpr member)

theorem weigh_mono {t : Table Row} {weight weight' : Nat → Row → Int}
    (below : ∀ id row, t.find? id = some row → weight id row ≤ weight' id row) :
    t.weigh weight ≤ t.weigh weight' := by
  have gap : 0 ≤ t.weigh fun id row => weight' id row - weight id row :=
    weigh_nonneg fun id row found => Int.sub_nonneg_of_le (below id row found)
  have split : t.weigh weight' =
      t.weigh weight + t.weigh fun id row => weight' id row - weight id row := by
    rw [← weigh_add]
    exact weigh_congr fun id row _ => by omega
  omega

/-- With nonnegative weights one row weighs at most as much as the table. -/
theorem weight_le_weigh {t : Table Row} (weight : Nat → Row → Int) {id : Nat} {row : Row}
    (found : t.find? id = some row)
    (nonneg : ∀ key other, t.find? key = some other → 0 ≤ weight key other) :
    weight id row ≤ t.weigh weight := by
  rw [← weigh_single found (weight id row)]
  refine weigh_mono ?_
  intro key other present
  by_cases same : key = id
  · subst same
    rw [found] at present
    cases present
    simp
  · rw [if_neg same]
    exact nonneg key other present

theorem select_single {t : Table Row} {guard : Nat → Row → Bool}
    (single : (t.select guard).length = 1) :
    ∃ id row, t.find? id = some row ∧ guard id row = true ∧
      ∀ key other, t.find? key = some other → guard key other = true → key = id := by
  obtain ⟨only, listed⟩ := List.length_eq_one_iff.mp single
  obtain ⟨found, passes⟩ := mem_select.mp (by rw [listed]; exact List.mem_cons_self)
  refine ⟨only.1, only.2, found, passes, ?_⟩
  intro key other foundOther passesOther
  have member : (key, other) ∈ t.select guard := mem_select.mpr ⟨foundOther, passesOther⟩
  rw [listed, List.mem_singleton] at member
  rw [← member]

/-- A listing of selected rows sums to the weight of the rows that pass. -/
theorem sum_select (t : Table Row) (guard : Nat → Row → Bool) (weight : Nat → Row → Int) :
    ((t.select guard).map fun r => weight r.1 r.2).sum =
      t.weigh fun id row => if guard id row then weight id row else 0 := by
  unfold select weigh
  induction t.rows with
  | nil => rfl
  | cons head rest ih =>
      by_cases passes : guard head.1 head.2 = true
      · simp [passes, ih]
      · simp [passes, ih]

/-! ## Changes of a table -/

/-- The rows of `u` are those of `t`, each changed as `law` allows. -/
def Revises (law : Nat → Row → Row → Prop) (t u : Table Row) : Prop :=
  ∃ change, u = t.revise change ∧ ∀ id old, t.find? id = some old → law id old (change id old)

/-- Every row of `t` is still in `u`, changed as `law` allows. -/
structure Evolves (law : Nat → Row → Row → Prop) (t u : Table Row) : Prop where
  grows : t.nextId ≤ u.nextId
  kept : ∀ id old, t.find? id = some old → ∃ row, u.find? id = some row ∧ law id old row

variable {law : Nat → Row → Row → Prop} {t u v : Table Row}

theorem revises_update {guard : Nat → Row → Bool} {change : Row → Row}
    (lawful : ∀ id old, t.find? id = some old →
      law id old (if guard id old then change old else old)) :
    Revises law t (t.update guard change) :=
  ⟨_, rfl, lawful⟩

theorem revises_modify {id : Nat} {change : Row → Row}
    (here : ∀ old, t.find? id = some old → law id old (change old))
    (elsewhere : ∀ key old, key ≠ id → law key old old) :
    Revises law t (t.modify id change) := by
  refine revises_update ?_
  intro key old found
  by_cases same : key = id
  · subst same
    simpa using here old found
  · simpa [same] using elsewhere key old same

theorem Revises.refl (reflexive : ∀ id row, law id row row) : Revises law t t :=
  ⟨fun _ row => row, by simp [revise], fun id old _ => reflexive id old⟩

theorem Revises.trans {law' law'' : Nat → Row → Row → Prop} (first : Revises law t u)
    (second : Revises law' u v)
    (composed : ∀ id old mid row, law id old mid → law' id mid row → law'' id old row) :
    Revises law'' t v := by
  obtain ⟨change, rfl, lawful⟩ := first
  obtain ⟨change', rfl, lawful'⟩ := second
  refine ⟨fun id row => change' id (change id row), ?_, ?_⟩
  · simp [revise, Function.comp_def]
  · intro id old found
    exact composed id old _ _ (lawful id old found)
      (lawful' id _ (by rw [find?_revise, found]; rfl))

theorem Revises.forward {id : Nat} {old : Row} (revises : Revises law t u)
    (found : t.find? id = some old) : ∃ row, u.find? id = some row ∧ law id old row := by
  obtain ⟨change, rfl, lawful⟩ := revises
  exact ⟨change id old, by rw [find?_revise, found]; rfl, lawful id old found⟩

theorem Revises.backward {id : Nat} {row : Row} (revises : Revises law t u)
    (found : u.find? id = some row) : ∃ old, t.find? id = some old ∧ law id old row := by
  obtain ⟨change, rfl, lawful⟩ := revises
  rw [find?_revise] at found
  obtain ⟨old, before, rfl⟩ := Option.map_eq_some_iff.mp found
  exact ⟨old, before, lawful id old before⟩

theorem Revises.nextId (revises : Revises law t u) : u.nextId = t.nextId := by
  obtain ⟨change, rfl, -⟩ := revises
  rfl

theorem Revises.imp {law' : Nat → Row → Row → Prop} (revises : Revises law t u)
    (weaker : ∀ id old row, t.find? id = some old → law id old row → law' id old row) :
    Revises law' t u := by
  obtain ⟨change, rfl, lawful⟩ := revises
  exact ⟨change, rfl, fun id old found => weaker id old _ found (lawful id old found)⟩

theorem Revises.weigh_eq (revises : Revises law t u) {weight : Nat → Row → Int}
    (kept : ∀ id old row, t.find? id = some old → law id old row →
      weight id row = weight id old) :
    u.weigh weight = t.weigh weight := by
  obtain ⟨change, rfl, lawful⟩ := revises
  rw [weigh_revise]
  exact weigh_congr fun id old found => kept id old _ found (lawful id old found)

theorem Evolves.refl (reflexive : ∀ id row, law id row row) : Evolves law t t :=
  ⟨Nat.le_refl _, fun id old found => ⟨old, found, reflexive id old⟩⟩

theorem Evolves.trans (transitive : ∀ id a b c, law id a b → law id b c → law id a c)
    (first : Evolves law t u) (second : Evolves law u v) : Evolves law t v := by
  refine ⟨Nat.le_trans first.grows second.grows, ?_⟩
  intro id old found
  obtain ⟨mid, foundMid, before⟩ := first.kept id old found
  obtain ⟨row, foundRow, after⟩ := second.kept id mid foundMid
  exact ⟨row, foundRow, transitive id old mid row before after⟩

theorem evolves_insert (reflexive : ∀ id row, law id row row) (row : Row) :
    Evolves law t (t.insert row) :=
  ⟨Nat.le_succ _, fun id old found => ⟨old, find?_insert_of_some found, reflexive id old⟩⟩

theorem evolves_modify {id : Nat} {change : Row → Row} (reflexive : ∀ key row, law key row row)
    (here : ∀ old, t.find? id = some old → law id old (change old)) :
    Evolves law t (t.modify id change) := by
  refine ⟨Nat.le_refl _, ?_⟩
  intro key old found
  by_cases same : key = id
  · subst same
    exact ⟨change old, find?_modify_self change found, here old found⟩
  · exact ⟨old, by rw [find?_modify_ne t change same, found], reflexive key old⟩

theorem Revises.evolves (revises : Revises law t u) : Evolves law t u :=
  ⟨Nat.le_of_eq revises.nextId.symm, fun _ _ found => revises.forward found⟩

end Table

end Relational
