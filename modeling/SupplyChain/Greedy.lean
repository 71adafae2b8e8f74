import Mathlib.Tactic.Common
import Mathlib.Algebra.Order.Ring.Int
import Mathlib.Algebra.BigOperators.Group.List.Basic

/-!
Greedy deduction of one quantity from a list of supplies: every supply is
drawn down in order until the quantity is met. A plan lists what is taken from
which supply; what is left over is what the supplies could not meet.
-/

namespace Greedy

variable {Key : Type}

structure Plan (Key : Type) where
  taken : List (Key × Int)
  left : Int

def plan : Int → List (Key × Int) → Plan Key
  | wanted, [] => ⟨[], wanted⟩
  | wanted, (key, available) :: rest =>
      if wanted = 0 then ⟨[], 0⟩
      else
        let quantity := min wanted available
        let later := plan (wanted - quantity) rest
        ⟨(key, quantity) :: later.taken, later.left⟩

def total (taken : List (Key × Int)) : Int := (taken.map (·.2)).sum

/-- Whatever the supplies are, what is taken and what is left make up the
quantity wanted. -/
theorem plan_total (wanted : Int) (supplies : List (Key × Int)) :
    total (plan wanted supplies).taken + (plan wanted supplies).left = wanted := by
  induction supplies generalizing wanted with
  | nil => simp [plan, total]
  | cons supply rest ih =>
      obtain ⟨key, available⟩ := supply
      by_cases met : wanted = 0
      · simp [plan, total, met]
      · have later := ih (wanted - min wanted available)
        simp only [total] at later ⊢
        simp only [plan, met, if_false, List.map_cons, List.sum_cons]
        omega

theorem plan_drawn {wanted : Int} {supplies : List (Key × Int)} :
    ∀ draw ∈ (plan wanted supplies).taken, ∃ available, (draw.1, available) ∈ supplies := by
  induction supplies generalizing wanted with
  | nil =>
      intro draw member
      simp [plan] at member
  | cons supply rest ih =>
      obtain ⟨key, available⟩ := supply
      intro draw member
      by_cases met : wanted = 0
      · simp [plan, met] at member
      · simp only [plan, met, if_false, List.mem_cons] at member
        rcases member with first | later
        · subst first
          exact ⟨available, List.mem_cons_self⟩
        · obtain ⟨limit, inRest⟩ := ih draw later
          exact ⟨limit, List.mem_cons_of_mem _ inRest⟩

theorem plan_taken {wanted : Int} {supplies : List (Key × Int)} (positive : 0 ≤ wanted)
    (stocked : ∀ supply ∈ supplies, 0 < supply.2) :
    ∀ draw ∈ (plan wanted supplies).taken,
      0 < draw.2 ∧ ∃ available, (draw.1, available) ∈ supplies ∧ draw.2 ≤ available := by
  induction supplies generalizing wanted with
  | nil =>
      intro draw member
      simp [plan] at member
  | cons supply rest ih =>
      obtain ⟨key, available⟩ := supply
      intro draw member
      have inStock : 0 < available := stocked (key, available) List.mem_cons_self
      by_cases met : wanted = 0
      · simp [plan, met] at member
      · simp only [plan, met, if_false, List.mem_cons] at member
        rcases member with first | later
        · subst first
          exact ⟨by omega, available, List.mem_cons_self, by omega⟩
        · obtain ⟨above, limit, inRest, below⟩ :=
            ih (by omega) (fun other inside => stocked other (List.mem_cons_of_mem _ inside))
              draw later
          exact ⟨above, limit, List.mem_cons_of_mem _ inRest, below⟩

end Greedy
