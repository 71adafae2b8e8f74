import Mathlib.Data.List.Shortlex
import Mathlib.Data.Set.Card
import Mathlib.Tactic.Common

/-!
Bijective numeration. A word counts with the digits `1` to `base`, so there is no zero
and every number has one word. Words are counted in shortlex order: the number of a
word is how many words come before it.
-/

namespace Numeration

variable {base : Nat} {m n : Nat} {v w : List (Fin base)}

/-- The number that is read on from `n`; the digit `d` counts `d + 1`. -/
def numberFrom (n : Nat) (word : List (Fin base)) : Nat :=
  word.foldl (fun n digit => n * base + (digit.val + 1)) n

def number (word : List (Fin base)) : Nat := numberFrom 0 word

theorem number_append : number (v ++ w) = numberFrom (number v) w := by
  simp only [number, numberFrom, List.foldl_append]

theorem number_concat {digit : Fin base} :
    number (v ++ [digit]) = number v * base + (digit + 1) := by
  simp only [number, numberFrom, List.foldl_append, List.foldl_cons, List.foldl_nil]

theorem number_pos (filled : w ≠ []) : 0 < number w := by
  rw [← List.dropLast_append_getLast filled, number_concat]
  omega

/-- What was read before outweighs as many digits as are still to come. -/
theorem numberFrom_lt (lengths : v.length = w.length) (less : m < n) :
    numberFrom m v < numberFrom n w := by
  induction v generalizing w m n with
  | nil =>
      obtain rfl := List.eq_nil_of_length_eq_zero lengths.symm
      exact less
  | cons digit v ih =>
      cases w with
      | nil => cases lengths
      | cons digit' w =>
          have lengths := Nat.succ.inj lengths
          apply ih lengths
          calc m * base + (digit + 1) ≤ m * base + base := by omega
            _ = (m + 1) * base := (Nat.succ_mul m base).symm
            _ ≤ n * base := Nat.mul_le_mul_right base less
            _ < n * base + (digit' + 1) := by omega

theorem numberFrom_lex (lengths : v.length = w.length) (before : List.Lex (· < ·) v w) :
    numberFrom n v < numberFrom n w := by
  induction before generalizing n with
  | nil => cases lengths
  | cons before ih => exact ih (Nat.succ.inj lengths)
  | rel less =>
      apply numberFrom_lt (Nat.succ.inj lengths)
      -- the first digits that differ decide
      have less := Fin.lt_def.mp less
      dsimp only
      omega

theorem number_lt_of_length (shorter : v.length < w.length) : number v < number w := by
  have split := List.take_append_drop (w.length - v.length) w
  have front : w.take (w.length - v.length) ≠ [] := by
    apply List.ne_nil_of_length_pos
    rw [List.length_take]
    omega
  have back : v.length = (w.drop (w.length - v.length)).length := by
    rw [List.length_drop]
    omega
  rw [← split, number_append]
  exact numberFrom_lt back (number_pos front)

theorem number_lt (before : List.Shortlex (· < ·) v w) : number v < number w := by
  rcases List.shortlex_def.mp before with shorter | ⟨lengths, before⟩
  · exact number_lt_of_length shorter
  · exact numberFrom_lex lengths before

theorem number_lt_iff : number v < number w ↔ List.Shortlex (· < ·) v w := by
  constructor
  · intro less
    rcases Std.Trichotomous.rel_or_eq_or_rel_swap (r := List.Shortlex (· < ·)) (a := v) (b := w)
      with before | same | after
    · exact before
    · subst same
      exact absurd less (Nat.lt_irrefl _)
    · exact absurd less (Nat.lt_asymm (number_lt after))
  · exact number_lt

theorem number_injective : Function.Injective (number : List (Fin base) → Nat) := by
  intro v w same
  rcases Std.Trichotomous.rel_or_eq_or_rel_swap (r := List.Shortlex (· < ·)) (a := v) (b := w)
    with before | equal | after
  · exact absurd same (Nat.ne_of_lt (number_lt before))
  · exact equal
  · exact absurd same.symm (Nat.ne_of_lt (number_lt after))

/-- The last digit is what one less than the number leaves, and the digits before it are
the word of the quotient. -/
theorem number_surjective (positive : 0 < base) :
    Function.Surjective (number : List (Fin base) → Nat) := by
  intro n
  induction n using Nat.strongRecOn with
  | ind n ih =>
      cases n with
      | zero => exact ⟨[], rfl⟩
      | succ n =>
          obtain ⟨front, counted⟩ := ih (n / base) (Nat.lt_succ_of_le (Nat.div_le_self n base))
          refine ⟨front ++ [⟨n % base, Nat.mod_lt n positive⟩], ?_⟩
          rw [number_concat, counted, ← Nat.add_assoc, Nat.mul_comm, Nat.div_add_mod]

theorem encard_before (positive : 0 < base) :
    {v : List (Fin base) | List.Shortlex (· < ·) v w}.encard = number w := by
  have image : number '' {v : List (Fin base) | List.Shortlex (· < ·) v w} =
      Set.Iio (number w) := by
    ext n
    constructor
    · rintro ⟨v, before, rfl⟩
      exact number_lt before
    · intro less
      obtain ⟨v, rfl⟩ := number_surjective positive n
      exact ⟨v, number_lt_iff.mp less, rfl⟩
  rw [← number_injective.encard_image, image]
  exact Set.Nat.encard_range _

/-! ## Sums -/

section Sums

variable {α : Type} {value : α → Nat}

theorem sum_shifted (symbols : List α) (places : Nat) :
    (symbols.mapIdx fun k symbol => base ^ (k + places) * value symbol).sum =
      base ^ places * (symbols.mapIdx fun k symbol => base ^ k * value symbol).sum := by
  induction symbols generalizing places with
  | nil => rfl
  | cons symbol rest ih =>
      have next : (rest.mapIdx fun k symbol => base ^ (k + 1 + places) * value symbol).sum =
          base ^ places * (base * (rest.mapIdx fun k symbol => base ^ k * value symbol).sum) := by
        simp only [Nat.add_assoc, Nat.add_comm 1 places]
        rw [ih (places + 1), pow_succ, mul_assoc]
      have one := ih 1
      rw [pow_one] at one
      rw [List.mapIdx_cons, List.mapIdx_cons, List.sum_cons, List.sum_cons, mul_add, next, one,
        zero_add, pow_zero, one_mul]

/-- Reading from the left weighs every symbol with a power of the base. -/
theorem foldl_sum (symbols : List α) :
    symbols.foldl (fun n symbol => n * base + value symbol) 0 =
      (symbols.reverse.mapIdx fun k symbol => base ^ k * value symbol).sum := by
  induction symbols using List.reverseRecOn with
  | nil => rfl
  | append_singleton front symbol ih =>
      rw [List.foldl_append, ih, List.reverse_append, List.reverse_singleton,
        List.singleton_append, List.mapIdx_cons, List.sum_cons, sum_shifted _ 1]
      simp only [List.foldl_cons, List.foldl_nil, pow_zero, pow_one, one_mul]
      rw [add_comm, mul_comm]

end Sums

end Numeration
