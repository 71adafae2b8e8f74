import SupplyChain.Relational.Transaction
import SupplyChain.Relational.Keys
import Mathlib.Data.Set.Finite.Basic

/-!
Tables that only gain rows. A loop that inserts for each of its items leaves the
table with the rows of all of them, and the new rows are exactly those. Which rows
are as stated, after an insertion and after a change in place.
-/

namespace Relational

namespace Table

variable {Row : Type}

def insertAll (t : Table Row) (rows : List Row) : Table Row :=
  rows.foldl insert t

theorem insertAll_append (t : Table Row) (rows rest : List Row) :
    t.insertAll (rows ++ rest) = (t.insertAll rows).insertAll rest :=
  List.foldl_append

theorem exists_unused (t : Table Row) (key : Row → String) (start : String) :
    ∃ text, (t.any fun _ row => key row == start ++ text) = false := by
  have injective : Function.Injective fun n : Nat => start ++ toString n := by
    intro m n same
    have texts := congrArg String.toList same
    rw [String.toList_append, String.toList_append, List.append_cancel_left_eq] at texts
    exact toString_injective (String.toList_inj.mp texts)
  obtain ⟨_, ⟨n, rfl⟩, unused⟩ := (Set.infinite_range_of_injective injective).exists_notMem_finite
    (List.finite_toSet (t.rows.map fun r => key r.2))
  refine ⟨toString n, any_eq_false.mpr ?_⟩
  intro id row found
  rw [beq_eq_false_iff_ne]
  intro same
  exact unused (List.mem_map.mpr ⟨(id, row), (find?_eq_some_iff _ _ _).mp found, same⟩)

/-- The row is in the later table and was not in the earlier one. -/
def Gained (old new : Table Row) (id : Nat) (row : Row) : Prop :=
  new.find? id = some row ∧ old.find? id = none

theorem insertAll_keeps {t : Table Row} {rows : List Row} {id : Nat} {row : Row}
    (found : t.find? id = some row) : (t.insertAll rows).find? id = some row := by
  induction rows generalizing t with
  | nil => exact found
  | cons first rest ih => exact ih (find?_insert_of_some found)

/-- The rows that a table gains are those that are inserted. -/
theorem gained_insertAll {t : Table Row} {rows : List Row} {row : Row} :
    (∃ id, Gained t (t.insertAll rows) id row) ↔ row ∈ rows := by
  induction rows generalizing t with
  | nil =>
      constructor
      · rintro ⟨id, found, none⟩
        rw [show t.insertAll [] = t from rfl, none] at found
        cases found
      · intro member
        cases member
  | cons first rest ih =>
      constructor
      · rintro ⟨id, found, none⟩
        cases before : (t.insert first).find? id with
        | none => exact List.mem_cons_of_mem _ (ih.mp ⟨id, found, before⟩)
        | some other =>
            have kept := @insertAll_keeps _ (t.insert first) rest id other before
            rcases find?_insert_cases before with ⟨-, rfl⟩ | there
            · have same := kept.symm.trans found
              rw [Option.some.inj same]
              exact List.mem_cons_self
            · rw [there] at none
              cases none
      · intro member
        rcases List.mem_cons.mp member with rfl | inside
        · refine ⟨t.nextId, ?_, find?_nextId t⟩
          exact @insertAll_keeps _ (t.insert row) rest _ _ (find?_insert_nextId t row)
        · obtain ⟨id, found, none⟩ := ih.mpr inside
          refine ⟨id, found, ?_⟩
          rw [find?_insert] at none
          by_cases new : id = t.nextId
          · rw [if_pos new] at none
            cases none
          · rwa [if_neg new] at none

theorem not_gained_modify {t : Table Row} {key id : Nat} {change : Row → Row} {row : Row} :
    ¬ Gained t (t.modify key change) id row := by
  rintro ⟨found, none⟩
  rw [find?_modify, none] at found
  simp at found

/-! ### What a row is like -/

section Holds

variable {t : Table Row} {p : Row → Prop} {row : Row} {id key : Nat} {change : Row → Row}

/-- There is a row under the key, and it is as stated. -/
def Holds (t : Table Row) (p : Row → Prop) (id : Nat) : Prop :=
  ∃ row, t.find? id = some row ∧ p row

theorem not_holds_nextId : ¬ t.Holds p t.nextId := by
  rintro ⟨row, found, -⟩
  rw [find?_nextId] at found
  cases found

theorem holds_insert : (t.insert row).Holds p id ↔ t.Holds p id ∨ (id = t.nextId ∧ p row) := by
  by_cases new : id = t.nextId
  · subst new
    simp [Holds, find?_insert, find?_nextId]
  · simp [Holds, find?_insert, new]

theorem holds_modify (found : t.find? key = some row) :
    (t.modify key change).Holds p id ↔ if id = key then p (change row) else t.Holds p id := by
  by_cases own : id = key
  · subst own
    simp [Holds, find?_modify_self change found]
  · simp [Holds, find?_modify_ne _ _ own, own]

/-- A change that leaves the row as it is in the one respect. -/
theorem holds_modify_same (found : t.find? key = some row) (same : p (change row) ↔ p row) :
    (t.modify key change).Holds p id ↔ t.Holds p id := by
  rw [holds_modify found]
  split
  · rename_i own
    subst own
    simp [Holds, found, same]
  · rfl

end Holds

end Table

namespace Transaction

variable {T : Type} {Row : T → Type} {μ ε α : Type} {writes : List T}

theorem forEach_insertAll {t : T} {f : α → Transaction Row μ ε writes Unit}
    {rows : α → List (Row t)} {items : List α}
    (round : ∀ item ∈ items, ∀ {s first mid}, (f item).Returns s () first mid →
      mid t = (s t).insertAll (rows item))
    {s s' : Store Row} {sent : List μ} {u : Unit}
    (returns : (forEach f items).Returns s u sent s') :
    s' t = (s t).insertAll (items.flatMap rows) := by
  induction items generalizing s sent with
  | nil =>
      obtain ⟨-, rfl⟩ := returns_forEach_nil.mp returns
      rfl
  | cons item rest ih =>
      obtain ⟨first, mid, later, head, tail, -⟩ := returns_forEach_cons.mp returns
      have here := round item List.mem_cons_self head
      have there := ih (fun other member => round other (List.mem_cons_of_mem item member)) tail
      rw [there, here, List.flatMap_cons, Table.insertAll_append]

end Transaction

end Relational
