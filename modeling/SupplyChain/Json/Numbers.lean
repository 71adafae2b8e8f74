import Mathlib.Data.List.Basic
import Mathlib.Data.List.TakeWhile
import Mathlib.Data.Nat.Digits.Defs
import Mathlib.Tactic.Common
import SupplyChain.Relational.Keys

/-!
Numbers of ECMAScript and their decimal texts. A finite number other than zero
is known by its shortest decimal: its digits and the place of the point. The
text is in one of four formats, and the digits and the place are read back
from each.
-/

namespace Json

/-- A finite number other than zero: `0.d₁d₂…dₖ × 10 ^ point`, with the fewest
digits. -/
structure Decimal where
  negative : Bool
  digits : List (Fin 10)
  point : Int
  leading : digits.head? ≠ some 0
  trailing : digits.getLast? ≠ some 0
  digits_ne_nil : digits ≠ []

/-- A number that is not finite is kept without its kind: both canonical texts
and the serialisation treat `NaN` and the infinities alike. The two zeros are
equal. -/
inductive Number
  | notFinite
  | zero
  | decimal (value : Decimal)

/-! ## Texts -/

def digitText (digit : Fin 10) : Char := Nat.digitChar digit

/-- The digits of a number as a text. -/
def Decimal.figures (value : Decimal) : List Char := value.digits.map digitText

def zeros (count : Nat) : List Char := List.replicate count '0'

def exponentText (exponent : Int) : List Char :=
  'e' :: (if exponent < 0 then '-' else '+') :: (toString exponent.natAbs).toList

/-- Whether the text has an exponent. -/
def Decimal.scientific (value : Decimal) : Prop := value.point ≤ -6 ∨ 21 < value.point

instance (value : Decimal) : Decidable value.scientific := inferInstanceAs (Decidable (_ ∨ _))

/-- The text before the exponent. -/
def Decimal.mantissa (value : Decimal) : List Char :=
  let figures := value.figures
  if value.scientific then
    if figures.length = 1 then figures else figures.take 1 ++ '.' :: figures.drop 1
  else if figures.length ≤ value.point then
    figures ++ zeros (value.point - figures.length).toNat
  else if 0 < value.point then
    figures.take value.point.toNat ++ '.' :: figures.drop value.point.toNat
  else '0' :: '.' :: (zeros (-value.point).toNat ++ figures)

/-- `Number::toString` of the absolute value. -/
def Decimal.unsigned (value : Decimal) : List Char :=
  value.mantissa ++ if value.scientific then exponentText (value.point - 1) else []

/-- `JSON.stringify` of a number. -/
def Number.text : Number → List Char
  | .notFinite => ['n', 'u', 'l', 'l']
  | .zero => ['0']
  | .decimal value => if value.negative then '-' :: value.unsigned else value.unsigned

/-- The number that a natural number is; the zeros at its end are the place of
the point. -/
def Number.ofNat (value : Nat) : Number :=
  let digits := (Nat.digits 10 value).map fun digit => Fin.ofNat 10 digit
  let figures := (digits.dropWhile (· == 0)).reverse
  if shortest : figures.head? ≠ some 0 ∧ figures.getLast? ≠ some 0 ∧ figures ≠ [] then
    .decimal ⟨false, figures, digits.length, shortest.1, shortest.2.1, shortest.2.2⟩
  else .zero

/-! ## Digits and zeros -/

theorem digitText_eq_zero {digit : Fin 10} : digitText digit = '0' ↔ digit = 0 := by
  revert digit
  decide

theorem digitText_injective : Function.Injective digitText := by
  unfold Function.Injective
  decide

theorem isDigit_digitText (digit : Fin 10) : (digitText digit).isDigit = true := by
  revert digit
  decide

theorem isDigit_of_mem_zeros {count : Nat} {c : Char} (member : c ∈ zeros count) :
    c.isDigit = true := by
  rw [List.eq_of_mem_replicate member]
  rfl

theorem ne_of_isDigit {c d : Char} (digit : c.isDigit = true) (other : d.isDigit = false) :
    c ≠ d := by
  rintro rfl
  rw [digit] at other
  cases other

theorem dropWhile_zeros (count : Nat) {rest : List Char} {c : Char} (other : c ≠ '0') :
    (zeros count ++ c :: rest).dropWhile (· == '0') = c :: rest := by
  induction count with
  | zero => simp [zeros, other]
  | succ count ih => simpa [zeros, List.replicate_succ] using ih

theorem takeWhile_zeros (count : Nat) {rest : List Char} {c : Char} (other : c ≠ '0') :
    ((zeros count ++ c :: rest).takeWhile (· == '0')).length = count := by
  induction count with
  | zero => simp [zeros, other]
  | succ count ih => simpa [zeros, List.replicate_succ] using ih

section Runs

variable {figures rest : List Char}

/-- A run of characters other than `c`, up to the first `c`. -/
theorem takeWhile_run {c : Char} (free : c ∉ figures) :
    (figures ++ c :: rest).takeWhile (· != c) = figures := by
  induction figures with
  | nil => simp
  | cons head tail ih =>
      have other : head ≠ c := fun same => free (same ▸ List.mem_cons_self)
      simp [other, ih fun member => free (List.mem_cons_of_mem _ member)]

theorem takeWhile_free {c : Char} (free : c ∉ figures) : figures.takeWhile (· != c) = figures := by
  apply List.takeWhile_eq_self_iff.mpr
  intro d member
  exact bne_iff_ne.mpr fun same => free (same ▸ member)

theorem filter_free {c : Char} (free : c ∉ figures) : figures.filter (· != c) = figures := by
  apply List.filter_eq_self.mpr
  intro d member
  exact bne_iff_ne.mpr fun same => free (same ▸ member)

end Runs

/-! ## Reading a mantissa -/

/-- The digits of a mantissa without the zeros around them. -/
def significant (mantissa : List Char) : List Char :=
  (((mantissa.filter (· != '.')).dropWhile (· == '0')).reverse.dropWhile (· == '0')).reverse

/-- Where the point stands, counted from the first digit that is not zero. -/
def place (mantissa : List Char) : Int :=
  (mantissa.takeWhile (· != '.')).length - ((mantissa.filter (· != '.')).takeWhile (· == '0')).length

namespace Decimal

variable (value : Decimal)

theorem isDigit_of_mem_figures {c : Char} (member : c ∈ value.figures) : c.isDigit = true := by
  obtain ⟨digit, -, rfl⟩ := List.mem_map.mp member
  exact isDigit_digitText digit

theorem not_mem_figures {c : Char} (other : c.isDigit = false) : c ∉ value.figures :=
  fun member => ne_of_isDigit (isDigit_of_mem_figures value member) other rfl

theorem length_figures_pos : 0 < value.figures.length := by
  rw [figures, List.length_map]
  exact List.length_pos_iff.mpr value.digits_ne_nil

theorem head_figures : ∃ c rest, value.figures = c :: rest ∧ c ≠ '0' := by
  unfold figures
  cases shape : value.digits with
  | nil => exact absurd shape value.digits_ne_nil
  | cons digit rest =>
      refine ⟨digitText digit, rest.map digitText, rfl, ?_⟩
      intro zero
      apply value.leading
      rw [shape, List.head?_cons, digitText_eq_zero.mp zero]

theorem last_figures : ∃ c rest, value.figures.reverse = c :: rest ∧ c ≠ '0' := by
  unfold figures
  rw [← List.map_reverse]
  cases shape : value.digits.reverse with
  | nil => exact absurd (List.reverse_eq_nil_iff.mp shape) value.digits_ne_nil
  | cons digit rest =>
      refine ⟨digitText digit, rest.map digitText, rfl, ?_⟩
      intro zero
      apply value.trailing
      rw [← List.head?_reverse, shape, List.head?_cons, digitText_eq_zero.mp zero]

theorem stripped (before after : Nat) :
    (((zeros before ++ (value.figures ++ zeros after)).dropWhile (· == '0')).reverse.dropWhile
      (· == '0')).reverse = value.figures := by
  obtain ⟨c, rest, shape, other⟩ := head_figures value
  obtain ⟨d, front, reversed, last⟩ := last_figures value
  have dropped : (zeros before ++ (value.figures ++ zeros after)).dropWhile (· == '0') =
      value.figures ++ zeros after := by
    rw [shape, List.cons_append, dropWhile_zeros before other]
  have turned : (value.figures ++ zeros after).reverse = zeros after ++ d :: front := by
    rw [List.reverse_append, reversed]
    simp [zeros]
  rw [dropped, turned, dropWhile_zeros after last, ← reversed, List.reverse_reverse]

theorem pointed (cut : Nat) :
    (value.figures.take cut ++ '.' :: value.figures.drop cut).filter (· != '.') = value.figures ∧
      (value.figures.take cut ++ '.' :: value.figures.drop cut).takeWhile (· != '.') =
        value.figures.take cut := by
  have free : '.' ∉ value.figures := value.not_mem_figures rfl
  constructor
  · rw [List.filter_append, List.filter_cons_of_neg (by simp), ← List.filter_append,
      List.take_append_drop, filter_free free]
  · exact takeWhile_run fun member => free (List.mem_of_mem_take member)

/-- In each format the digits stand between zeros, and the length of the whole
part says where the point is. -/
theorem mantissa_shape : ∃ before after : Nat,
    value.mantissa.filter (· != '.') = zeros before ++ (value.figures ++ zeros after) ∧
      ((value.mantissa.takeWhile (· != '.')).length : Int) =
        (if value.scientific then 1 else value.point) + before := by
  have free : '.' ∉ value.figures := value.not_mem_figures rfl
  have some := value.length_figures_pos
  have clear : ∀ count, '.' ∉ zeros count := fun count member =>
    ne_of_isDigit (isDigit_of_mem_zeros member) rfl rfl
  unfold mantissa
  by_cases format : value.scientific
  · refine ⟨0, 0, ?_⟩
    by_cases single : value.figures.length = 1
    · simp [format, single, filter_free free, takeWhile_free free, zeros]
    · simp only [format, single, if_true, if_false, value.pointed 1]
      simp [zeros]
      omega
  · simp only [if_neg format]
    by_cases whole : (value.figures.length : Int) ≤ value.point
    · have all : '.' ∉ value.figures ++ zeros (value.point - value.figures.length).toNat := by
        simp [free, clear]
      refine ⟨0, (value.point - value.figures.length).toNat, ?_⟩
      simp only [if_pos whole, filter_free all, takeWhile_free all]
      simp [zeros]
      omega
    · by_cases inside : 0 < value.point
      · refine ⟨0, 0, ?_⟩
        simp only [if_neg whole, if_pos inside, value.pointed]
        simp [zeros]
        omega
      · refine ⟨(-value.point).toNat + 1, 0, ?_⟩
        simp only [if_neg whole, if_neg inside]
        simp [filter_free free, zeros, List.replicate_succ]
        omega

theorem significant_mantissa : significant value.mantissa = value.figures := by
  obtain ⟨before, after, filtered, -⟩ := value.mantissa_shape
  rw [significant, filtered, stripped]

theorem place_mantissa :
    place value.mantissa = if value.scientific then 1 else value.point := by
  obtain ⟨before, after, filtered, whole⟩ := value.mantissa_shape
  obtain ⟨c, rest, shape, other⟩ := head_figures value
  have leading : ((value.mantissa.filter (· != '.')).takeWhile (· == '0')).length = before := by
    rw [filtered, shape, List.cons_append, takeWhile_zeros before other]
  rw [place, whole, leading]
  omega

/-! ## The exponent -/

theorem mem_mantissa {c : Char} (member : c ∈ value.mantissa) : c.isDigit = true ∨ c = '.' := by
  by_cases point : c = '.'
  · exact Or.inr point
  · obtain ⟨before, after, filtered, -⟩ := value.mantissa_shape
    have kept : c ∈ value.mantissa.filter (· != '.') :=
      List.mem_filter.mpr ⟨member, bne_iff_ne.mpr point⟩
    rw [filtered, List.mem_append, List.mem_append] at kept
    left
    rcases kept with zero | figure | zero
    · exact isDigit_of_mem_zeros zero
    · exact value.isDigit_of_mem_figures figure
    · exact isDigit_of_mem_zeros zero

theorem e_not_mem_mantissa : 'e' ∉ value.mantissa := by
  intro member
  rcases value.mem_mantissa member with digit | point
  · cases digit
  · cases point

theorem exponentText_injective {a b : Int} (same : exponentText a = exponentText b) : a = b := by
  simp only [exponentText, List.cons.injEq, true_and] at same
  have size := Relational.toString_injective (String.toList_inj.mp same.2)
  have sign := same.1
  split at sign <;> split at sign
  · omega
  · cases sign
  · cases sign
  · omega

/-- Two texts before an `e`, with nothing or an exponent behind. -/
theorem unsigned_eq {value value' : Decimal} (same : value.unsigned = value'.unsigned) :
    value.mantissa = value'.mantissa ∧ (value.scientific ↔ value'.scientific) ∧
      (value.scientific → value.point = value'.point) := by
  have free := value.e_not_mem_mantissa
  have free' := value'.e_not_mem_mantissa
  unfold unsigned at same
  by_cases format : value.scientific <;> by_cases format' : value'.scientific
  · simp only [if_pos format, if_pos format'] at same
    obtain ⟨mantissas, exponents⟩ := Relational.fields_eq free free' same
    refine ⟨mantissas, iff_of_true format format', fun _ => ?_⟩
    have points := exponentText_injective (congrArg (List.cons 'e') exponents)
    omega
  · simp only [if_pos format, if_neg format', List.append_nil] at same
    exact absurd (same ▸ List.mem_append_right _ List.mem_cons_self) free'
  · simp only [if_neg format, if_pos format', List.append_nil] at same
    exact absurd (same ▸ List.mem_append_right _ List.mem_cons_self) free
  · simp only [if_neg format, if_neg format', List.append_nil] at same
    exact ⟨same, iff_of_false format format', fun sci => absurd sci format⟩

/-- The digits and the place of the point are read back from the text. -/
theorem unsigned_injective {value value' : Decimal} (same : value.unsigned = value'.unsigned) :
    value.digits = value'.digits ∧ value.point = value'.point := by
  obtain ⟨mantissas, formats, points⟩ := unsigned_eq same
  have digits : value.figures = value'.figures := by
    rw [← value.significant_mantissa, mantissas, value'.significant_mantissa]
  refine ⟨List.map_injective_iff.mpr digitText_injective digits, ?_⟩
  have places : place value.mantissa = place value'.mantissa := by rw [mantissas]
  rw [place_mantissa, place_mantissa] at places
  by_cases format : value.scientific
  · exact points format
  · rwa [if_neg format, if_neg (mt formats.mpr format)] at places

theorem unsigned_head : ∃ c rest, value.unsigned = c :: rest ∧ c.isDigit = true := by
  have some := value.length_figures_pos
  obtain ⟨c, rest, shape, -⟩ := value.head_figures
  have digit := value.isDigit_of_mem_figures (shape ▸ List.mem_cons_self)
  have head : ∃ d tail, value.mantissa = d :: tail ∧ d.isDigit = true := by
    unfold mantissa
    simp only [shape]
    split_ifs with format single whole inside
    · exact ⟨c, rest, rfl, digit⟩
    · exact ⟨c, '.' :: rest, rfl, digit⟩
    · exact ⟨c, _, rfl, digit⟩
    · obtain ⟨cut, positive⟩ : ∃ cut, value.point.toNat = cut + 1 :=
        Nat.exists_eq_succ_of_ne_zero (by omega)
      rw [positive]
      exact ⟨c, _, rfl, digit⟩
    · exact ⟨'0', _, rfl, rfl⟩
  obtain ⟨d, tail, shape', digit'⟩ := head
  exact ⟨d, _, by rw [unsigned, shape', List.cons_append], digit'⟩

end Decimal

theorem Decimal.eq_of {value value' : Decimal} (signs : value.negative = value'.negative)
    (digits : value.digits = value'.digits) (points : value.point = value'.point) :
    value = value' := by
  cases value
  cases value'
  simp_all

namespace Number

theorem decimal_ne_zero (value : Decimal) : (decimal value).text ≠ zero.text := by
  intro same
  obtain ⟨c, rest, shape, digit⟩ := value.unsigned_head
  simp only [text] at same
  split at same
  · cases same
  · by_cases format : value.scientific
    · have exponent : 'e' ∈ value.unsigned := by
        rw [Decimal.unsigned, if_pos format]
        exact List.mem_append_right _ List.mem_cons_self
      rw [same] at exponent
      cases List.mem_singleton.mp exponent
    · rw [Decimal.unsigned, if_neg format, List.append_nil] at same
      have none : value.figures = [] := by
        rw [← value.significant_mantissa, same]
        rfl
      exact absurd none (List.length_pos_iff.mp value.length_figures_pos)

theorem text_injective {a b : Number} (finite : a ≠ notFinite) (finite' : b ≠ notFinite)
    (same : a.text = b.text) : a = b := by
  cases a with
  | notFinite => exact absurd rfl finite
  | zero =>
      cases b with
      | notFinite => exact absurd rfl finite'
      | zero => rfl
      | decimal value => exact absurd same.symm (decimal_ne_zero value)
  | decimal value =>
      cases b with
      | notFinite => exact absurd rfl finite'
      | zero => exact absurd same (decimal_ne_zero value)
      | decimal value' =>
          obtain ⟨c, rest, shape, digit⟩ := value.unsigned_head
          obtain ⟨c', rest', shape', digit'⟩ := value'.unsigned_head
          have signs : value.negative = value'.negative ∧ value.unsigned = value'.unsigned := by
            simp only [text, shape, shape'] at same ⊢
            cases sign : value.negative <;> cases sign' : value'.negative <;>
              simp only [sign, sign', if_true, Bool.false_eq_true, if_false] at same
            · exact ⟨rfl, same⟩
            · exact absurd (List.cons.inj same).1 (ne_of_isDigit digit rfl)
            · exact absurd (List.cons.inj same).1.symm (ne_of_isDigit digit' rfl)
            · exact ⟨rfl, (List.cons.inj same).2⟩
          obtain ⟨digits, points⟩ := Decimal.unsigned_injective signs.2
          rw [Decimal.eq_of signs.1 digits points]

/-- The characters that the text of a finite number is made of. -/
def isNumberChar (c : Char) : Bool :=
  c.isDigit || c == '.' || c == 'e' || c == '+' || c == '-'

theorem isNumberChar_of_mem_unsigned {value : Decimal} {c : Char} (member : c ∈ value.unsigned) :
    isNumberChar c = true := by
  rw [Decimal.unsigned, List.mem_append] at member
  rcases member with front | back
  · rcases value.mem_mantissa front with digit | rfl
    · simp [isNumberChar, digit]
    · rfl
  · split at back
    · simp only [exponentText, List.mem_cons] at back
      rcases back with rfl | sign | digit
      · rfl
      · split at sign <;> subst sign <;> rfl
      · by_contra other
        have separator : c.isDigit = false := by
          simp only [isNumberChar, Bool.or_eq_true, not_or, Bool.not_eq_true] at other
          exact other.1.1.1.1
        exact Relational.separator_not_mem_toString separator _ digit
    · cases back

theorem isNumberChar_of_mem {a : Number} (finite : a ≠ notFinite) {c : Char}
    (member : c ∈ a.text) : isNumberChar c = true := by
  cases a with
  | notFinite => exact absurd rfl finite
  | zero =>
      rw [List.mem_singleton.mp member]
      rfl
  | decimal value =>
      simp only [text] at member
      split at member
      · rcases List.mem_cons.mp member with rfl | rest
        · rfl
        · exact isNumberChar_of_mem_unsigned rest
      · exact isNumberChar_of_mem_unsigned member

theorem text_head {a : Number} (finite : a ≠ notFinite) :
    ∃ c rest, a.text = c :: rest ∧ (c.isDigit = true ∨ c = '-') := by
  cases a with
  | notFinite => exact absurd rfl finite
  | zero => exact ⟨'0', [], rfl, Or.inl rfl⟩
  | decimal value =>
      obtain ⟨c, rest, shape, digit⟩ := value.unsigned_head
      simp only [text]
      split
      · exact ⟨'-', value.unsigned, rfl, Or.inr rfl⟩
      · exact ⟨c, rest, shape, Or.inl digit⟩

/-- A number ends where a character of another kind follows. -/
theorem text_eq {a b : Number} (finite : a ≠ notFinite) (finite' : b ≠ notFinite)
    {rest rest' : List Char} (ends : ∀ c tail, rest = c :: tail → isNumberChar c = false)
    (ends' : ∀ c tail, rest' = c :: tail → isNumberChar c = false)
    (same : a.text ++ rest = b.text ++ rest') : a = b ∧ rest = rest' := by
  have read : ∀ {x : Number} {more : List Char}, x ≠ notFinite →
      (∀ c tail, more = c :: tail → isNumberChar c = false) →
      (x.text ++ more).takeWhile isNumberChar = x.text := by
    intro x more known stops
    rw [List.takeWhile_append_of_pos fun c member => isNumberChar_of_mem known member]
    cases more with
    | nil => simp
    | cons c tail => simp [stops c tail rfl]
  have texts : a.text = b.text := by
    rw [← read finite ends, same, read finite' ends']
  refine ⟨text_injective finite finite' texts, ?_⟩
  rw [texts] at same
  exact List.append_cancel_left same

end Number

end Json
