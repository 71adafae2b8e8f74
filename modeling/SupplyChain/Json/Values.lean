import Mathlib.Algebra.Order.Field.Rat
import Mathlib.Algebra.GroupWithZero.Basic
import SupplyChain.Json.Numbers

/-!
Values of numbers. The text of a number is a numeral, with a point or an exponent where it
has one, and the numeral is worth what the number is.
-/

namespace Json

/-- The digits and the place of the point. -/
def Decimal.size (number : Decimal) : ℚ :=
  (Nat.ofDigitChars 10 number.figures 0 : ℚ) * 10 ^ (number.point - number.figures.length)

/-- What a number is, if it is finite. -/
def Number.value : Number → Option ℚ
  | .notFinite => none
  | .zero => some 0
  | .decimal number => some (if number.negative then -number.size else number.size)

/-! ## Numerals -/

def exponentOf (text : List Char) : Option Int :=
  match text with
  | [] => some 0
  | e :: sign :: digits =>
      if e = 'e' ∧ digits ≠ [] ∧ digits.all Char.isDigit = true then
        if sign = '+' then some (Nat.ofDigitChars 10 digits 0)
        else if sign = '-' then some (-(Nat.ofDigitChars 10 digits 0 : Int))
        else none
      else none
  | _ => none

def fractionOf (mantissa : List Char) : List Char := (mantissa.dropWhile (· != '.')).drop 1

def unsignedNumeral (text : List Char) : Option ℚ :=
  let mantissa := text.takeWhile (· != 'e')
  let whole := mantissa.takeWhile (· != '.')
  let figures := mantissa.filter (· != '.')
  if whole ≠ [] ∧ whole.all Char.isDigit = true ∧ (fractionOf mantissa).all Char.isDigit = true then
    (exponentOf (text.dropWhile (· != 'e'))).map fun exponent : Int =>
      (Nat.ofDigitChars 10 figures 0 : ℚ) * 10 ^ (exponent + (whole.length - figures.length : Int))
  else none

/-- The value of a numeral. -/
def numeral (text : List Char) : Option ℚ :=
  if text.head? = some '-' then (unsignedNumeral text.tail).map (- ·) else unsignedNumeral text

/-! ## Reading them back -/

theorem exponentOf_text (exponent : Int) : exponentOf (exponentText exponent) = some exponent := by
  have digits : (toString exponent.natAbs).toList = Nat.toDigits 10 exponent.natAbs := by
    rw [Nat.toString_eq_repr, Nat.toList_repr]
  have filled : Nat.toDigits 10 exponent.natAbs ≠ [] := Nat.toDigits_ne_nil
  have all : (Nat.toDigits 10 exponent.natAbs).all Char.isDigit = true := by
    rw [List.all_eq_true]
    intro c member
    exact Nat.isDigit_of_mem_toDigits (by decide) (by decide) member
  rw [exponentText, digits]
  by_cases negative : exponent < 0
  · simp [exponentOf, negative, filled, all, abs_of_neg negative]
  · simp [exponentOf, negative, filled, all, abs_of_nonneg (Int.not_lt.mp negative)]

theorem dropWhile_run {c : Char} {figures rest : List Char} (free : c ∉ figures) :
    (figures ++ c :: rest).dropWhile (· != c) = c :: rest := by
  induction figures with
  | nil => simp
  | cons d figures ih =>
      have other : d ≠ c := fun same => free (same ▸ List.mem_cons_self)
      have later : c ∉ figures := fun member => free (List.mem_cons_of_mem d member)
      simpa [other] using ih later

theorem dropWhile_free {c : Char} {figures : List Char} (free : c ∉ figures) :
    figures.dropWhile (· != c) = [] := by
  rw [List.dropWhile_eq_nil_iff]
  intro d member
  rw [bne_iff_ne]
  exact fun same => free (same ▸ member)

namespace Decimal

variable (number : Decimal)

theorem fraction_digits : (fractionOf number.mantissa).all Char.isDigit = true := by
  have free : '.' ∉ number.figures := number.not_mem_figures rfl
  have digits : ∀ c ∈ number.figures, c.isDigit = true := fun c => number.isDigit_of_mem_figures
  have clear : ∀ count, '.' ∉ zeros count := fun count member =>
    ne_of_isDigit (isDigit_of_mem_zeros member) rfl rfl
  have cut : ∀ count, fractionOf (number.figures.take count ++ '.' :: number.figures.drop count) =
      number.figures.drop count := by
    intro count
    rw [fractionOf, dropWhile_run fun member => free (List.mem_of_mem_take member)]
    rfl
  have kept : ∀ count, (number.figures.drop count).all Char.isDigit = true := by
    intro count
    rw [List.all_eq_true]
    exact fun c member => digits c (List.mem_of_mem_drop member)
  unfold mantissa
  by_cases format : number.scientific
  · rw [if_pos format]
    by_cases single : number.figures.length = 1
    · rw [if_pos single, fractionOf, dropWhile_free free]
      rfl
    · rw [if_neg single, cut]
      exact kept 1
  · rw [if_neg format]
    by_cases whole : (number.figures.length : Int) ≤ number.point
    · have none : '.' ∉ number.figures ++ zeros (number.point - number.figures.length).toNat := by
        simp [free, clear]
      rw [if_pos whole, fractionOf, dropWhile_free none]
      rfl
    · rw [if_neg whole]
      by_cases inside : 0 < number.point
      · rw [if_pos inside, cut]
        exact kept _
      · rw [if_neg inside, List.all_eq_true]
        intro c member
        have tail : c ∈ zeros (-number.point).toNat ++ number.figures := by
          simpa [fractionOf] using member
        rcases List.mem_append.mp tail with zero | figure
        · exact isDigit_of_mem_zeros zero
        · exact digits c figure

theorem whole_digits : number.mantissa.takeWhile (· != '.') ≠ [] ∧
    (number.mantissa.takeWhile (· != '.')).all Char.isDigit = true := by
  constructor
  · obtain ⟨c, rest, shape, digit⟩ := number.unsigned_head
    have other : c ≠ '.' := ne_of_isDigit digit rfl
    rw [unsigned] at shape
    cases mantissa : number.mantissa with
    | nil =>
        obtain ⟨before, after, filtered, -⟩ := number.mantissa_shape
        have some := number.length_figures_pos
        have lengths := congrArg List.length filtered
        rw [mantissa, List.filter_nil, List.length_append, List.length_append] at lengths
        rw [List.length_nil] at lengths
        omega
    | cons d front =>
        rw [mantissa, List.cons_append, List.cons.injEq] at shape
        rw [shape.1]
        simp [other]
  · rw [List.all_eq_true]
    intro c member
    rcases number.mem_mantissa ((List.takeWhile_prefix _).subset member) with digit | point
    · exact digit
    · have other := List.mem_takeWhile_imp member
      rw [point] at other
      cases other

theorem unsignedNumeral_text : unsignedNumeral number.unsigned = some number.size := by
  obtain ⟨before, after, filtered, whole⟩ := number.mantissa_shape
  obtain ⟨filled, digits⟩ := number.whole_digits
  have fraction := number.fraction_digits
  have free := number.e_not_mem_mantissa
  -- the exponent that is written, and the text around it
  obtain ⟨exponent, mantissa, written, sum⟩ : ∃ exponent : Int,
      number.unsigned.takeWhile (· != 'e') = number.mantissa ∧
        exponentOf (number.unsigned.dropWhile (· != 'e')) = some exponent ∧
          exponent + (if number.scientific then 1 else number.point) = number.point := by
    unfold unsigned
    by_cases format : number.scientific
    · refine ⟨number.point - 1, ?_, ?_, ?_⟩
      · rw [if_pos format, exponentText]
        exact takeWhile_run free
      · rw [if_pos format, exponentText, dropWhile_run free]
        exact exponentOf_text _
      · rw [if_pos format]
        omega
    · refine ⟨0, ?_, ?_, ?_⟩
      · rw [if_neg format, List.append_nil, takeWhile_free free]
      · rw [if_neg format, List.append_nil, dropWhile_free free]
        rfl
      · rw [if_neg format]
        omega
  have figures : Nat.ofDigitChars 10 (number.mantissa.filter (· != '.')) 0 =
      Nat.ofDigitChars 10 number.figures 0 * 10 ^ after := by
    rw [filtered, Nat.ofDigitChars_append, Nat.ofDigitChars_append, zeros, zeros,
      Nat.ofDigitChars_replicate_zero, Nat.ofDigitChars_replicate_zero, Nat.mul_zero, Nat.mul_comm]
  have length : ((number.mantissa.filter (· != '.')).length : Int) =
      before + number.figures.length + after := by
    rw [filtered, List.length_append, List.length_append, zeros, zeros, List.length_replicate,
      List.length_replicate]
    omega
  have place : exponent + ((number.mantissa.takeWhile (· != '.')).length -
      (number.mantissa.filter (· != '.')).length : Int) =
        (number.point - number.figures.length) - after := by
    omega
  have ten : (10 : ℚ) ≠ 0 := by decide
  unfold unsignedNumeral
  simp only [mantissa, written, Option.map_some]
  rw [if_pos ⟨filled, digits, fraction⟩, place, figures, size]
  apply congrArg some
  rw [zpow_sub₀ ten, zpow_natCast, Nat.cast_mul, Nat.cast_pow, Nat.cast_ofNat, mul_assoc,
    mul_div_cancel₀ _ (pow_ne_zero after ten)]

end Decimal

theorem numeral_text (a : Number) : numeral a.text = a.value := by
  cases a with
  | notFinite =>
      have mantissa : unsignedNumeral ['n', 'u', 'l', 'l'] = none := by
        simp [unsignedNumeral]
      simpa [numeral, Number.text, Number.value] using mantissa
  | zero =>
      have mantissa : unsignedNumeral ['0'] = some 0 := by
        simp [unsignedNumeral, exponentOf, fractionOf, Nat.ofDigitChars]
      simpa [numeral, Number.text, Number.value] using mantissa
  | decimal number =>
      obtain ⟨c, rest, shape, digit⟩ := number.unsigned_head
      have other : c ≠ '-' := ne_of_isDigit digit rfl
      have positive : numeral number.unsigned = some number.size := by
        have head : number.unsigned.head? ≠ some '-' := by
          rw [shape, List.head?_cons]
          exact fun same => other (Option.some.inj same)
        rw [numeral, if_neg head, number.unsignedNumeral_text]
      by_cases negative : number.negative = true
      · rw [Number.text, Number.value, if_pos negative, if_pos negative, numeral, List.head?_cons,
          if_pos rfl, List.tail_cons, number.unsignedNumeral_text, Option.map_some]
      · rw [Number.text, Number.value, if_neg negative, if_neg negative, positive]

end Json
