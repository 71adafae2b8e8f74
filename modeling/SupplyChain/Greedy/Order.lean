import SupplyChain.Greedy
import Mathlib.Algebra.Order.BigOperators.Group.List

/-!
The order in which a plan draws. A plan goes through the supplies from the
first: it draws on a supply only when every supply before it is used up, what
it leaves is what the supplies fall short of, and two quantities planned one
after the other draw what their sum draws.
-/

namespace Greedy

variable {Key : Type} {wanted : Int} {supplies : List (Key × Int)}

theorem total_cons (draw : Key × Int) (rest : List (Key × Int)) :
    total (draw :: rest) = draw.2 + total rest := by
  simp [total]

theorem total_nonneg (stocked : ∀ supply ∈ supplies, 0 ≤ supply.2) : 0 ≤ total supplies := by
  refine List.sum_nonneg ?_
  intro quantity member
  obtain ⟨supply, inside, rfl⟩ := List.mem_map.mp member
  exact stocked supply inside

theorem total_filter (stocked : ∀ supply ∈ supplies, 0 ≤ supply.2) :
    total (supplies.filter fun supply => decide (0 < supply.2)) = total supplies := by
  induction supplies with
  | nil => rfl
  | cons supply rest ih =>
      have here := stocked supply List.mem_cons_self
      have later := ih fun other member => stocked other (List.mem_cons_of_mem _ member)
      by_cases positive : 0 < supply.2
      · rw [List.filter_cons_of_pos (by simpa using positive), total_cons, total_cons, later]
      · rw [List.filter_cons_of_neg (by simpa using positive), total_cons, later]
        omega

@[simp]
theorem plan_zero (supplies : List (Key × Int)) : plan 0 supplies = ⟨[], 0⟩ := by
  cases supplies <;> simp [plan]

theorem plan_cons {supply : Key × Int} {rest : List (Key × Int)} (unmet : wanted ≠ 0) :
    plan wanted (supply :: rest) =
      ⟨(supply.1, min wanted supply.2) :: (plan (wanted - min wanted supply.2) rest).taken,
        (plan (wanted - min wanted supply.2) rest).left⟩ := by
  simp [plan, unmet]

theorem plan_left (nonneg : 0 ≤ wanted) (stocked : ∀ supply ∈ supplies, 0 ≤ supply.2) :
    (plan wanted supplies).left = max 0 (wanted - total supplies) := by
  induction supplies generalizing wanted with
  | nil => simp [plan, total, nonneg]
  | cons supply rest ih =>
      have inRest := fun other member => stocked other (List.mem_cons_of_mem supply member)
      have here := stocked supply List.mem_cons_self
      have later := total_nonneg inRest
      rw [total_cons]
      by_cases met : wanted = 0
      · subst met
        rw [plan_zero]
        dsimp only
        omega
      · rw [plan_cons met]
        dsimp only
        rw [ih (by omega) inRest]
        omega

theorem plan_left_eq_zero_iff (nonneg : 0 ≤ wanted)
    (stocked : ∀ supply ∈ supplies, 0 ≤ supply.2) :
    (plan wanted supplies).left = 0 ↔ wanted ≤ total supplies := by
  rw [plan_left nonneg stocked]
  omega

theorem plan_keys (wanted : Int) (supplies : List (Key × Int)) :
    (plan wanted supplies).taken.map (·.1) <+: supplies.map (·.1) := by
  induction supplies generalizing wanted with
  | nil => simp [plan]
  | cons supply rest ih =>
      by_cases met : wanted = 0
      · simp [met]
      · rw [plan_cons met]
        simp only [List.map_cons]
        exact (List.prefix_cons_inj _).mpr (ih _)

/-- A supply before one that is drawn on is drawn on, for all of it. -/
theorem plan_before {before after : List (Key × Int)} {supply draw : Key × Int}
    (distinct : (supplies.map (·.1)).Nodup) (split : supplies = before ++ supply :: after)
    (drawn : draw ∈ (plan wanted supplies).taken) (same : draw.1 = supply.1) :
    ∀ earlier ∈ before, earlier ∈ (plan wanted supplies).taken := by
  induction before generalizing wanted supplies with
  | nil => simp
  | cons first others ih =>
      subst split
      rw [List.cons_append, List.map_cons, List.nodup_cons] at distinct
      rw [List.cons_append] at drawn ⊢
      by_cases met : wanted = 0
      · simp [met] at drawn
      · rw [plan_cons met] at drawn ⊢
        -- the first key is not that of the supply, so the draw is a later one
        have later : draw ∈ (plan (wanted - min wanted first.2) (others ++ supply :: after)).taken := by
          rcases List.mem_cons.mp drawn with rfl | inside
          · dsimp only at same
            refine absurd ?_ distinct.1
            rw [same]
            simp
          · exact inside
        have more : wanted - min wanted first.2 ≠ 0 := by
          intro done
          rw [done, plan_zero] at later
          exact absurd later (List.not_mem_nil)
        have whole : min wanted first.2 = first.2 := by omega
        intro earlier member
        rcases List.mem_cons.mp member with rfl | inside
        · rw [whole]
          exact List.mem_cons_self
        · exact List.mem_cons_of_mem _ (ih distinct.2 rfl later earlier inside)

/-! ## What each supply gives -/

/-- The supplies that are drawn on are those that come before the quantity is met. -/
theorem mem_taken_keys (nonneg : 0 ≤ wanted) (stocked : ∀ supply ∈ supplies, 0 < supply.2) {key : Key} :
    key ∈ (plan wanted supplies).taken.map (·.1) ↔
      ∃ before supply after, supplies = before ++ supply :: after ∧ supply.1 = key ∧
        total before < wanted := by
  induction supplies generalizing wanted with
  | nil => simp [plan]
  | cons supply rest ih =>
      have positive := stocked supply List.mem_cons_self
      have others := fun other member => stocked other (List.mem_cons_of_mem supply member)
      by_cases met : wanted = 0
      · subst met
        rw [plan_zero]
        constructor
        · intro member
          cases member
        · rintro ⟨before, other, after, split, -, less⟩
          have nonnegTotal : 0 ≤ total before := by
            refine total_nonneg fun other member => ?_
            have listed : other ∈ supply :: rest := by
              rw [split]
              exact List.mem_append_left _ member
            exact (stocked other listed).le
          omega
      · rw [plan_cons met, List.map_cons, List.mem_cons]
        have left : 0 ≤ wanted - min wanted supply.2 := by omega
        rw [ih left others]
        constructor
        · rintro (rfl | ⟨before, other, after, rfl, same, less⟩)
          · exact ⟨[], supply, rest, rfl, rfl, by simp only [total, List.map_nil, List.sum_nil]; omega⟩
          · refine ⟨supply :: before, other, after, rfl, same, ?_⟩
            have nonnegTotal : 0 ≤ total before := by
              refine total_nonneg fun one member => ?_
              exact (others one (List.mem_append_left _ member)).le
            rw [total_cons]
            omega
        · rintro ⟨before, other, after, split, same, less⟩
          cases before with
          | nil =>
              rw [List.nil_append] at split
              obtain ⟨rfl, rfl⟩ := List.cons.inj split
              exact .inl same.symm
          | cons first before =>
              rw [List.cons_append] at split
              obtain ⟨rfl, rfl⟩ := List.cons.inj split
              rw [total_cons] at less
              exact .inr ⟨before, other, after, rfl, same, by omega⟩

/-- Supplies of nothing are passed by: drawing on them draws nothing. -/
theorem plan_filter (nonneg : 0 ≤ wanted) (stocked : ∀ supply ∈ supplies, 0 ≤ supply.2) :
    (plan wanted (supplies.filter fun supply => decide (0 < supply.2))).taken =
      (plan wanted supplies).taken.filter fun draw => decide (0 < draw.2) := by
  induction supplies generalizing wanted with
  | nil => simp [plan]
  | cons supply rest ih =>
      have inRest := fun other member => stocked other (List.mem_cons_of_mem supply member)
      have here := stocked supply List.mem_cons_self
      by_cases met : wanted = 0
      · simp [met]
      · rw [plan_cons met]
        by_cases positive : 0 < supply.2
        · rw [List.filter_cons_of_pos (by simpa using positive), plan_cons met,
            List.filter_cons_of_pos (by simp; omega), ih (by omega) inRest]
        · rw [List.filter_cons_of_neg (by simpa using positive), List.filter_cons_of_neg (by simp; omega)]
          have nothing : wanted - min wanted supply.2 = wanted := by omega
          rw [nothing]
          exact ih nonneg inRest

/-- The supplies after a quantity was drawn from them. -/
def drain : Int → List (Key × Int) → List (Key × Int)
  | _, [] => []
  | wanted, (key, available) :: rest =>
      (key, available - min wanted available) :: drain (wanted - min wanted available) rest

theorem drain_keys (wanted : Int) (supplies : List (Key × Int)) :
    (drain wanted supplies).map (·.1) = supplies.map (·.1) := by
  induction supplies generalizing wanted with
  | nil => rfl
  | cons supply rest ih => rw [drain, List.map_cons, List.map_cons, ih]

theorem drain_zero (stocked : ∀ supply ∈ supplies, 0 ≤ supply.2) : drain 0 supplies = supplies := by
  induction supplies with
  | nil => rfl
  | cons supply rest ih =>
      have here := stocked supply List.mem_cons_self
      have none : min 0 supply.2 = 0 := by omega
      have later := ih fun other member => stocked other (List.mem_cons_of_mem _ member)
      rw [drain, none, Int.sub_zero, Int.sub_zero, later]

theorem total_drain (nonneg : 0 ≤ wanted) (stocked : ∀ supply ∈ supplies, 0 ≤ supply.2) :
    total (drain wanted supplies) = total supplies - min wanted (total supplies) := by
  induction supplies generalizing wanted with
  | nil => simp [drain, total, nonneg]
  | cons supply rest ih =>
      have here := stocked supply List.mem_cons_self
      have inRest := fun other member => stocked other (List.mem_cons_of_mem supply member)
      have later := total_nonneg inRest
      rw [drain, total_cons, total_cons, ih (by omega) inRest]
      dsimp only
      omega

/-- Two quantities drawn one after the other draw what their sum draws. -/
theorem drain_add {more : Int} (nonneg : 0 ≤ wanted) (nonnegMore : 0 ≤ more)
    (stocked : ∀ supply ∈ supplies, 0 ≤ supply.2) :
    drain more (drain wanted supplies) = drain (wanted + more) supplies := by
  induction supplies generalizing wanted more with
  | nil => rfl
  | cons supply rest ih =>
      obtain ⟨key, available⟩ := supply
      have here := stocked (key, available) List.mem_cons_self
      have inRest := fun other member => stocked other (List.mem_cons_of_mem (key, available) member)
      simp only [drain]
      dsimp only at here
      rw [ih (by omega) (by omega) inRest]
      have left : available - min wanted available - min more (available - min wanted available) =
          available - min (wanted + more) available := by omega
      have rest : wanted - min wanted available + (more - min more (available - min wanted available)) =
          wanted + more - min (wanted + more) available := by omega
      rw [left, rest]

theorem plan_nonneg (nonneg : 0 ≤ wanted) (stocked : ∀ supply ∈ supplies, 0 ≤ supply.2) :
    ∀ draw ∈ (plan wanted supplies).taken, 0 ≤ draw.2 := by
  induction supplies generalizing wanted with
  | nil => simp [plan]
  | cons supply rest ih =>
      have here := stocked supply List.mem_cons_self
      by_cases met : wanted = 0
      · simp [met]
      · rw [plan_cons met]
        intro draw member
        rcases List.mem_cons.mp member with rfl | inside
        · dsimp only
          omega
        · exact ih (by omega) (fun other there => stocked other (List.mem_cons_of_mem _ there))
            draw inside

section

variable [DecidableEq Key]

/-- What is taken from one supply. -/
def share (taken : List (Key × Int)) (key : Key) : Int :=
  (taken.map fun draw => if draw.1 = key then draw.2 else 0).sum

theorem share_cons (draw : Key × Int) (taken : List (Key × Int)) (key : Key) :
    share (draw :: taken) key = (if draw.1 = key then draw.2 else 0) + share taken key := by
  simp [share]

theorem share_of_not_mem {taken : List (Key × Int)} {key : Key}
    (absent : key ∉ taken.map (·.1)) : share taken key = 0 := by
  refine List.sum_eq_zero ?_
  intro quantity member
  obtain ⟨draw, inside, rfl⟩ := List.mem_map.mp member
  exact if_neg fun same => absent (List.mem_map.mpr ⟨draw, inside, same⟩)

theorem share_of_mem {taken : List (Key × Int)} {draw : Key × Int}
    (distinct : (taken.map (·.1)).Nodup) (member : draw ∈ taken) :
    share taken draw.1 = draw.2 := by
  induction taken with
  | nil => cases member
  | cons first rest ih =>
      rw [List.map_cons, List.nodup_cons] at distinct
      rw [share_cons]
      rcases List.mem_cons.mp member with rfl | inside
      · rw [if_pos rfl, share_of_not_mem distinct.1, Int.add_zero]
      · have apart : first.1 ≠ draw.1 := by
          intro same
          rw [same] at distinct
          exact distinct.1 (List.mem_map_of_mem inside)
        rw [if_neg apart, Int.zero_add, ih distinct.2 inside]

theorem share_filter {taken : List (Key × Int)} (drawn : ∀ draw ∈ taken, 0 ≤ draw.2) (key : Key) :
    share (taken.filter fun draw => decide (0 < draw.2)) key = share taken key := by
  induction taken with
  | nil => rfl
  | cons draw rest ih =>
      have here := drawn draw List.mem_cons_self
      have later := ih fun other member => drawn other (List.mem_cons_of_mem _ member)
      by_cases positive : 0 < draw.2
      · rw [List.filter_cons_of_pos (by simpa using positive), share_cons, share_cons, later]
      · rw [List.filter_cons_of_neg (by simpa using positive), share_cons, later]
        split <;> omega

/-- A supply is left with what it had less what is taken from it. -/
theorem drain_eq (distinct : (supplies.map (·.1)).Nodup) (nonneg : 0 ≤ wanted)
    (stocked : ∀ supply ∈ supplies, 0 ≤ supply.2) :
    drain wanted supplies =
      supplies.map fun supply => (supply.1, supply.2 - share (plan wanted supplies).taken supply.1) := by
  induction supplies generalizing wanted with
  | nil => rfl
  | cons supply rest ih =>
      have inRest := fun other member => stocked other (List.mem_cons_of_mem supply member)
      have here := stocked supply List.mem_cons_self
      by_cases met : wanted = 0
      · subst met
        rw [drain_zero stocked, plan_zero]
        simp [share]
      · rw [List.map_cons, List.nodup_cons] at distinct
        have elsewhere : supply.1 ∉ (plan (wanted - min wanted supply.2) rest).taken.map (·.1) :=
          fun inside => distinct.1 ((plan_keys _ rest).subset inside)
        rw [drain, plan_cons met, List.map_cons, share_cons, if_pos rfl, share_of_not_mem elsewhere,
          Int.add_zero, ih distinct.2 (by omega) inRest]
        congr 1
        refine List.map_congr_left ?_
        intro other member
        have apart : supply.1 ≠ other.1 := by
          intro same
          rw [same] at distinct
          exact distinct.1 (List.mem_map_of_mem member)
        rw [share_cons, if_neg apart, Int.zero_add]

theorem drawn_of_share {taken : List (Key × Int)} {key : Key} (some : share taken key ≠ 0) :
    ∃ draw ∈ taken, draw.1 = key := by
  by_contra none
  refine some (share_of_not_mem ?_)
  intro inside
  obtain ⟨draw, member, same⟩ := List.mem_map.mp inside
  exact none ⟨draw, member, same⟩

/-- A supply gives something only when those before it give all they have. -/
theorem share_before {before after : List (Key × Int)} {supply : Key × Int}
    (distinct : (supplies.map (·.1)).Nodup) (split : supplies = before ++ supply :: after)
    (some : share (plan wanted supplies).taken supply.1 ≠ 0) :
    ∀ earlier ∈ before, share (plan wanted supplies).taken earlier.1 = earlier.2 := by
  obtain ⟨draw, member, same⟩ := drawn_of_share some
  intro earlier inside
  exact share_of_mem (distinct.sublist (plan_keys wanted supplies).sublist)
    (plan_before distinct split member same earlier inside)

/-- A supply gives no more than it has, and nothing where it has nothing. -/
theorem share_bounds (distinct : (supplies.map (·.1)).Nodup) (nonneg : 0 ≤ wanted)
    (stocked : ∀ supply ∈ supplies, 0 ≤ supply.2) :
    ∀ supply ∈ supplies, 0 ≤ share (plan wanted supplies).taken supply.1 ∧
      share (plan wanted supplies).taken supply.1 ≤ supply.2 := by
  induction supplies generalizing wanted with
  | nil => simp
  | cons first rest ih =>
      have here := stocked first List.mem_cons_self
      have inRest := fun other member => stocked other (List.mem_cons_of_mem first member)
      rw [List.map_cons, List.nodup_cons] at distinct
      intro supply member
      by_cases met : wanted = 0
      · have := stocked supply member
        simp [met, share, this]
      · rw [plan_cons met, share_cons]
        rcases List.mem_cons.mp member with rfl | inside
        · have elsewhere : supply.1 ∉ (plan (wanted - min wanted supply.2) rest).taken.map (·.1) :=
            fun there => distinct.1 ((plan_keys _ rest).subset there)
          rw [if_pos rfl, share_of_not_mem elsewhere]
          omega
        · have apart : first.1 ≠ supply.1 := by
            intro same
            rw [same] at distinct
            exact distinct.1 (List.mem_map_of_mem inside)
          rw [if_neg apart, Int.zero_add]
          exact ih distinct.2 (by omega) inRest supply inside

end

end Greedy
