import Mathlib.Algebra.BigOperators.Group.List.Basic
import Mathlib.Algebra.Order.Ring.Int
import Mathlib.Tactic.Common

/-!
Tallies: quantities added up under a key, in the order in which the keys first
come up. A tally lists each key of its items once, with the sum of the items
under it, and does not change under another name of the keys.
-/

namespace Tally

variable {Key Name : Type} [DecidableEq Key] [DecidableEq Name] {counts items : List (Key × Int)}
  {key : Key}

def add (key : Key) (quantity : Int) : List (Key × Int) → List (Key × Int)
  | [] => [(key, quantity)]
  | (first, total) :: rest =>
      if first = key then (first, total + quantity) :: rest
      else (first, total) :: add key quantity rest

/-- The tally of the items after those that `counts` holds. -/
def addAll (counts : List (Key × Int)) : List (Key × Int) → List (Key × Int)
  | [] => counts
  | item :: rest => addAll (add item.1 item.2 counts) rest

def tally (items : List (Key × Int)) : List (Key × Int) := addAll [] items

/-- The sum of the items under a key. -/
def totalOf (items : List (Key × Int)) (key : Key) : Int :=
  (items.map fun item => if item.1 = key then item.2 else 0).sum

omit [DecidableEq Name] in
theorem totalOf_cons (item : Key × Int) (rest : List (Key × Int)) (key : Key) :
    totalOf (item :: rest) key = (if item.1 = key then item.2 else 0) + totalOf rest key := by
  simp [totalOf]

theorem totalOf_of_not_mem (absent : key ∉ items.map (·.1)) : totalOf items key = 0 := by
  refine List.sum_eq_zero ?_
  intro quantity member
  obtain ⟨item, inside, rfl⟩ := List.mem_map.mp member
  exact if_neg fun same => absent (List.mem_map.mpr ⟨item, inside, same⟩)

theorem mem_keys_add {quantity : Int} {other : Key} :
    other ∈ (add key quantity counts).map (·.1) ↔ other = key ∨ other ∈ counts.map (·.1) := by
  induction counts with
  | nil => simp [add]
  | cons first rest ih =>
      rw [add]
      split
      · rename_i same
        simp [same]
      · simp only [List.map_cons, List.mem_cons, ih]
        tauto

theorem nodup_add {quantity : Int} (distinct : (counts.map (·.1)).Nodup) :
    ((add key quantity counts).map (·.1)).Nodup := by
  induction counts with
  | nil => simp [add]
  | cons first rest ih =>
      rw [List.map_cons, List.nodup_cons] at distinct
      rw [add]
      split
      · rw [List.map_cons, List.nodup_cons]
        exact distinct
      · rename_i apart
        rw [List.map_cons, List.nodup_cons, mem_keys_add]
        refine ⟨?_, ih distinct.2⟩
        rintro (same | later)
        · exact apart same
        · exact distinct.1 later

theorem totalOf_add {quantity : Int} (other : Key) :
    totalOf (add key quantity counts) other =
      totalOf counts other + if key = other then quantity else 0 := by
  induction counts with
  | nil => simp [add, totalOf]
  | cons first rest ih =>
      rw [add]
      split
      · rename_i same
        subst same
        rw [totalOf_cons, totalOf_cons]
        dsimp only
        by_cases here : first.1 = other
        · rw [if_pos here, if_pos here, if_pos here]
          omega
        · rw [if_neg here, if_neg here, if_neg here, Int.add_zero]
      · rw [totalOf_cons, totalOf_cons, ih]
        dsimp only
        omega

theorem totalOf_of_mem {total : Int} (distinct : (counts.map (·.1)).Nodup)
    (member : (key, total) ∈ counts) : totalOf counts key = total := by
  induction counts with
  | nil => cases member
  | cons first rest ih =>
      rw [List.map_cons, List.nodup_cons] at distinct
      rw [totalOf_cons]
      rcases List.mem_cons.mp member with rfl | later
      · rw [if_pos rfl, totalOf_of_not_mem distinct.1, Int.add_zero]
      · have apart : first.1 ≠ key := by
          intro same
          rw [same] at distinct
          exact distinct.1 (List.mem_map_of_mem later)
        rw [if_neg apart, Int.zero_add, ih distinct.2 later]

theorem mem_keys_addAll : key ∈ (addAll counts items).map (·.1) ↔
    key ∈ counts.map (·.1) ∨ key ∈ items.map (·.1) := by
  induction items generalizing counts with
  | nil => simp [addAll]
  | cons item rest ih =>
      rw [addAll, ih, mem_keys_add, List.map_cons, List.mem_cons]
      tauto

theorem nodup_addAll (distinct : (counts.map (·.1)).Nodup) :
    ((addAll counts items).map (·.1)).Nodup := by
  induction items generalizing counts with
  | nil => exact distinct
  | cons item rest ih => exact ih (nodup_add distinct)

theorem totalOf_addAll (key : Key) :
    totalOf (addAll counts items) key = totalOf counts key + totalOf items key := by
  induction items generalizing counts with
  | nil => simp [addAll, totalOf]
  | cons item rest ih =>
      rw [addAll, ih, totalOf_add, totalOf_cons]
      omega

theorem nodup_tally (items : List (Key × Int)) : ((tally items).map (·.1)).Nodup :=
  nodup_addAll List.nodup_nil

theorem mem_tally {total : Int} :
    (key, total) ∈ tally items ↔ key ∈ items.map (·.1) ∧ total = totalOf items key := by
  have totals : totalOf (tally items) key = totalOf items key := by
    rw [tally, totalOf_addAll]
    simp [totalOf]
  have keys : key ∈ (tally items).map (·.1) ↔ key ∈ items.map (·.1) := by
    rw [tally, mem_keys_addAll]
    simp
  constructor
  · intro member
    refine ⟨keys.mp (List.mem_map_of_mem member), ?_⟩
    rw [← totals, totalOf_of_mem (nodup_tally items) member]
  · rintro ⟨present, rfl⟩
    obtain ⟨⟨other, total⟩, member, same⟩ := List.mem_map.mp (keys.mpr present)
    dsimp only at same
    subst same
    rw [← totals, totalOf_of_mem (nodup_tally items) member]
    exact member

/-- The items under other names of their keys. -/
def named (name : Key → Name) (items : List (Key × Int)) : List (Name × Int) :=
  items.map fun item => (name item.1, item.2)

theorem add_named {name : Key → Name} {quantity : Int}
    (injective : ∀ other ∈ counts.map (·.1), name other = name key → other = key) :
    add (name key) quantity (named name counts) = named name (add key quantity counts) := by
  induction counts with
  | nil => rfl
  | cons first rest ih =>
      have later := ih fun other member => injective other (List.mem_cons_of_mem _ member)
      rw [named] at later
      rw [named, List.map_cons, add, add]
      by_cases same : first.1 = key
      · rw [if_pos same, if_pos (congrArg name same)]
        rfl
      · rw [if_neg same, if_neg fun equal => same (injective first.1 List.mem_cons_self equal), later]
        rfl

theorem addAll_named {name : Key → Name} {keys : Key → Prop}
    (injective : ∀ a b, keys a → keys b → name a = name b → a = b)
    (held : ∀ key ∈ counts.map (·.1), keys key) (given : ∀ key ∈ items.map (·.1), keys key) :
    addAll (named name counts) (named name items) = named name (addAll counts items) := by
  induction items generalizing counts with
  | nil => rfl
  | cons item rest ih =>
      have here := given item.1 List.mem_cons_self
      have cut : named name (item :: rest) = (name item.1, item.2) :: named name rest := rfl
      rw [cut, addAll, addAll]
      rw [add_named fun other member => injective other item.1 (held other member) here]
      refine ih ?_ fun key member => given key (List.mem_cons_of_mem _ member)
      intro key member
      rcases mem_keys_add.mp member with rfl | before
      · exact here
      · exact held key before

theorem tally_named {name : Key → Name} {keys : Key → Prop}
    (injective : ∀ a b, keys a → keys b → name a = name b → a = b)
    (given : ∀ key ∈ items.map (·.1), keys key) :
    tally (named name items) = named name (tally items) :=
  @addAll_named _ _ _ _ [] items name keys injective (by simp) given

end Tally
