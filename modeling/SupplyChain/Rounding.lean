import Mathlib.Algebra.Order.Field.Basic
import Mathlib.Algebra.Order.Round
import Mathlib.Data.Finset.Max
import Mathlib.Data.Rat.Floor
import Mathlib.Tactic.Linarith

/-!
Rounding to one decimal and weighted means. Rounding is monotone and leaves a
number with one decimal alone, so that a rounded mean of such numbers stays
between the least and the greatest of them.
-/

namespace Rounding

/-! ## Rounding -/

theorem round_mono {x y : ℚ} (le : x ≤ y) : round x ≤ round y := by
  rw [round_eq, round_eq]
  exact Int.floor_mono (by linarith)

theorem intCast_le_round {n : ℤ} {x : ℚ} (le : (n : ℚ) ≤ x) : n ≤ round x := by
  have rounded := round_mono le
  rwa [round_intCast] at rounded

theorem round_le_intCast {n : ℤ} {x : ℚ} (le : x ≤ n) : round x ≤ n := by
  have rounded := round_mono le
  rwa [round_intCast] at rounded

/-- A number with one decimal. -/
def Tenths (x : ℚ) : Prop := ∃ n : ℤ, x = n / 10

theorem tenths_round (x : ℚ) : Tenths (round x / 10) := ⟨round x, rfl⟩

theorem Tenths.le_round {low x : ℚ} (tenths : Tenths low) (le : low ≤ x) :
    low ≤ round (x * 10) / 10 := by
  obtain ⟨n, rfl⟩ := tenths
  have scaled : (n : ℚ) ≤ x * 10 := by linarith
  have rounded : (n : ℚ) ≤ round (x * 10) := by exact_mod_cast intCast_le_round scaled
  linarith

theorem Tenths.round_le {high x : ℚ} (tenths : Tenths high) (le : x ≤ high) :
    round (x * 10) / 10 ≤ high := by
  obtain ⟨n, rfl⟩ := tenths
  have scaled : x * 10 ≤ (n : ℚ) := by linarith
  have rounded : (round (x * 10) : ℚ) ≤ n := by exact_mod_cast round_le_intCast scaled
  linarith

/-! ## Weighted sums -/

section

variable {κ : Type} {value : κ → ℚ} {weight : κ → ℕ} {keys : List κ}

/-- What the keys weigh together. -/
def total (weight : κ → ℕ) (keys : List κ) : ℕ := (keys.map weight).sum

def weighted (value : κ → ℚ) (weight : κ → ℕ) (keys : List κ) : ℚ :=
  (keys.map fun key => value key * weight key).sum

theorem total_cons (key : κ) (rest : List κ) :
    total weight (key :: rest) = weight key + total weight rest := List.sum_cons

theorem weighted_cons (key : κ) (rest : List κ) :
    weighted value weight (key :: rest) = value key * weight key + weighted value weight rest :=
  List.sum_cons

theorem total_pos_iff : 0 < total weight keys ↔ ∃ key ∈ keys, 0 < weight key := by
  induction keys with
  | nil => simp [total]
  | cons key rest ih =>
      rw [total_cons, Nat.add_pos_iff_pos_or_pos, ih]
      simp

theorem le_weighted {low : ℚ} (least : ∀ key ∈ keys, low ≤ value key) :
    low * total weight keys ≤ weighted value weight keys := by
  induction keys with
  | nil => simp [total, weighted]
  | cons key rest ih =>
      have step : low * weight key ≤ value key * weight key :=
        mul_le_mul_of_nonneg_right (least key List.mem_cons_self) (Nat.cast_nonneg _)
      have below := ih fun other member => least other (List.mem_cons_of_mem _ member)
      rw [total_cons, weighted_cons]
      push_cast
      linarith

theorem weighted_le {high : ℚ} (greatest : ∀ key ∈ keys, value key ≤ high) :
    weighted value weight keys ≤ high * total weight keys := by
  induction keys with
  | nil => simp [total, weighted]
  | cons key rest ih =>
      have step : value key * weight key ≤ high * weight key :=
        mul_le_mul_of_nonneg_right (greatest key List.mem_cons_self) (Nat.cast_nonneg _)
      have below := ih fun other member => greatest other (List.mem_cons_of_mem _ member)
      rw [total_cons, weighted_cons]
      push_cast
      linarith

theorem exists_extremes (some : keys ≠ []) :
    (∃ low ∈ keys, ∀ key ∈ keys, value low ≤ value key) ∧
      ∃ high ∈ keys, ∀ key ∈ keys, value key ≤ value high := by
  classical
  have filled : keys.toFinset.Nonempty := by
    obtain ⟨key, member⟩ := List.exists_mem_of_ne_nil keys some
    exact ⟨key, List.mem_toFinset.mpr member⟩
  obtain ⟨low, lowIn, least⟩ := keys.toFinset.exists_min_image value filled
  obtain ⟨high, highIn, greatest⟩ := keys.toFinset.exists_max_image value filled
  simp only [List.mem_toFinset] at lowIn least highIn greatest
  exact ⟨⟨low, lowIn, least⟩, high, highIn, greatest⟩

theorem mean_between (tenths : ∀ key ∈ keys, Tenths (value key)) (heavy : 0 < total weight keys) :
    (∃ low ∈ keys,
      value low ≤ round (weighted value weight keys / total weight keys * 10) / 10) ∧
    ∃ high ∈ keys,
      round (weighted value weight keys / total weight keys * 10) / 10 ≤ value high := by
  have some : keys ≠ [] := by
    rintro rfl
    cases heavy
  have positive : (0 : ℚ) < total weight keys := by exact_mod_cast heavy
  have extremes : (∃ low ∈ keys, ∀ key ∈ keys, value low ≤ value key) ∧
      ∃ high ∈ keys, ∀ key ∈ keys, value key ≤ value high := exists_extremes some
  obtain ⟨⟨low, lowIn, least⟩, high, highIn, greatest⟩ := extremes
  refine ⟨⟨low, lowIn, (tenths low lowIn).le_round ?_⟩, high, highIn, (tenths high highIn).round_le ?_⟩
  · rw [le_div_iff₀ positive]
    exact le_weighted least
  · rw [div_le_iff₀ positive]
    exact weighted_le greatest

end

end Rounding
