import SupplyChain.Calendar

/-!
Days as numbers and instants as texts. The days are counted from the first of
January of the year 0, and an instant is written as `toISOString` writes it.
Counting is strictly monotone, so the texts of two instants of four-digit years
compare as the instants do.
-/

namespace Calendar

/-! ## Counting days -/

/-- The days of the years before a year. -/
def daysBeforeYear (year : Nat) : Nat :=
  365 * year + (year + 3) / 4 - (year + 99) / 100 + (year + 399) / 400

def daysBeforeMonth (year : Nat) : Nat → Nat
  | 0 => 0
  | 1 => 0
  | month + 2 => daysBeforeMonth year (month + 1) + daysInMonth year (month + 1)

def yearLength (year : Nat) : Nat := if leapYear year then 366 else 365

def Date.number (date : Date) : Nat :=
  daysBeforeYear date.year + daysBeforeMonth date.year date.month + (date.day - 1)

/-- A multiple of the length is passed with the next year, or none is. -/
theorem ceiling_succ {length : Nat} (positive : 0 < length) (year : Nat) :
    (year + 1 + (length - 1)) / length =
      (year + (length - 1)) / length + if year % length = 0 then 1 else 0 := by
  have next : year + 1 + (length - 1) = year + length := by omega
  rw [next, Nat.add_div_right _ positive]
  have parts := Nat.div_add_mod year length
  have below := Nat.mod_lt year positive
  by_cases multiple : year % length = 0
  · have last : year + (length - 1) = length - 1 + length * (year / length) := by omega
    have short : (length - 1) / length = 0 := Nat.div_eq_of_lt (by omega)
    rw [if_pos multiple, last, Nat.add_mul_div_left _ _ positive, short, Nat.zero_add]
  · have rest : year + (length - 1) = year % length - 1 + length * (year / length + 1) := by
      rw [Nat.mul_add]
      omega
    have short : (year % length - 1) / length = 0 := Nat.div_eq_of_lt (by omega)
    rw [if_neg multiple, rest, Nat.add_mul_div_left _ _ positive, short, Nat.zero_add,
      Nat.add_zero]

theorem daysBeforeYear_succ (year : Nat) :
    daysBeforeYear (year + 1) = daysBeforeYear year + yearLength year := by
  have fourths : (year + 1 + 3) / 4 = _ := ceiling_succ (by decide : 0 < 4) year
  have centuries : (year + 1 + 99) / 100 = _ := ceiling_succ (by decide : 0 < 100) year
  have cycles : (year + 1 + 399) / 400 = _ := ceiling_succ (by decide : 0 < 400) year
  have fewer : (year + 99) / 100 ≤ (year + 3) / 4 := by omega
  unfold yearLength leapYear daysBeforeYear
  rw [fourths, centuries, cycles]
  generalize (year + 3) / 4 = passedFourths at fewer ⊢
  generalize (year + 99) / 100 = passedCenturies at fewer ⊢
  generalize (year + 399) / 400 = passedCycles
  by_cases fourth : year % 4 = 0
  · by_cases century : year % 100 = 0
    · by_cases longest : year % 400 = 0
      · simp [fourth, century, longest]
        omega
      · simp [fourth, century, longest]
        omega
    · have longest : year % 400 ≠ 0 := by omega
      simp [fourth, century, longest]
      omega
  · have century : year % 100 ≠ 0 := by omega
    have longest : year % 400 ≠ 0 := by omega
    simp [fourth, century, longest]
    omega

theorem daysBeforeYear_lt {a b : Nat} (before : a < b) :
    daysBeforeYear a + yearLength a ≤ daysBeforeYear b := by
  induction b with
  | zero => omega
  | succ b ih =>
      rw [daysBeforeYear_succ]
      rcases Nat.lt_or_ge a b with earlier | last
      · have below := ih earlier
        omega
      · obtain rfl : a = b := by omega
        omega

theorem daysBeforeMonth_succ (year : Nat) {month : Nat} (counted : 1 ≤ month) :
    daysBeforeMonth year (month + 1) = daysBeforeMonth year month + daysInMonth year month := by
  obtain ⟨earlier, rfl⟩ : ∃ earlier, month = earlier + 1 := ⟨month - 1, by omega⟩
  rfl

theorem daysBeforeMonth_lt (year : Nat) {a b : Nat} (counted : 1 ≤ a) (before : a < b) :
    daysBeforeMonth year a + daysInMonth year a ≤ daysBeforeMonth year b := by
  induction b with
  | zero => omega
  | succ b ih =>
      rcases Nat.lt_or_ge a b with earlier | last
      · have below := ih earlier
        rw [daysBeforeMonth_succ year (Nat.le_trans counted (Nat.le_of_lt earlier))]
        omega
      · obtain rfl : a = b := by omega
        exact Nat.le_of_eq (daysBeforeMonth_succ year counted).symm

theorem daysBeforeMonth_year (year : Nat) : daysBeforeMonth year 13 = yearLength year := by
  unfold yearLength
  by_cases leap : leapYear year
  · simp [daysBeforeMonth, daysInMonth, leap]
  · simp [daysBeforeMonth, daysInMonth, leap]

/-- A day of the calendar, in a year of any length. -/
structure Date.Proper (date : Date) : Prop where
  month : 1 ≤ date.month ∧ date.month ≤ 12
  day : 1 ≤ date.day ∧ date.day ≤ daysInMonth date.year date.month

theorem Date.Valid.proper {date : Date} (valid : date.Valid) : date.Proper :=
  ⟨valid.month, valid.day⟩

theorem Date.Proper.valid {date : Date} (proper : date.Proper) (fits : date.year < 10000) :
    date.Valid :=
  ⟨fits, proper.month, proper.day⟩

theorem Date.Proper.inside {date : Date} (proper : date.Proper) :
    daysBeforeMonth date.year date.month + (date.day - 1) < yearLength date.year := by
  have day := proper.day
  have month := daysBeforeMonth_lt date.year (b := 13) proper.month.1 (by have := proper.month; omega)
  rw [daysBeforeMonth_year] at month
  omega

theorem Date.number_lt {a b : Date} (proper : a.Proper) (before : a.Before b) :
    a.number < b.number := by
  have inside := proper.inside
  have day := proper.day
  unfold Date.number
  rcases before with years | ⟨sameYear, months | ⟨sameMonth, days⟩⟩
  · have below := daysBeforeYear_lt years
    omega
  · have below := daysBeforeMonth_lt a.year proper.month.1 months
    rw [← sameYear]
    omega
  · rw [← sameYear, ← sameMonth]
    omega

theorem Date.before_trichotomy (a b : Date) : a.Before b ∨ a = b ∨ b.Before a := by
  obtain ⟨year, month, day⟩ := a
  obtain ⟨year', month', day'⟩ := b
  unfold Date.Before
  simp only [Date.mk.injEq]
  omega

theorem Date.number_lt_iff {a b : Date} (properA : a.Proper) (properB : b.Proper) :
    a.number < b.number ↔ a.Before b := by
  constructor
  · intro less
    rcases a.before_trichotomy b with before | rfl | after
    · exact before
    · omega
    · have greater := Date.number_lt properB after
      omega
  · exact Date.number_lt properA

theorem Date.number_inj {a b : Date} (properA : a.Proper) (properB : b.Proper)
    (same : a.number = b.number) : a = b := by
  rcases a.before_trichotomy b with before | equal | after
  · have less := Date.number_lt properA before
    omega
  · exact equal
  · have less := Date.number_lt properB after
    omega

/-! ## The day of a number -/

/-- Counts up from `k` as long as the next value of `f` is not above `n`. -/
def countUp (f : Nat → Nat) (n : Nat) : Nat → Nat → Nat
  | 0, k => k
  | fuel + 1, k => if f (k + 1) ≤ n then countUp f n fuel (k + 1) else k

theorem countUp_le {f : Nat → Nat} {n fuel k : Nat} (start : f k ≤ n) :
    f (countUp f n fuel k) ≤ n ∧ k ≤ countUp f n fuel k ∧ countUp f n fuel k ≤ k + fuel := by
  induction fuel generalizing k with
  | zero => exact ⟨start, Nat.le_refl k, Nat.le_refl k⟩
  | succ fuel ih =>
      unfold countUp
      by_cases further : f (k + 1) ≤ n
      · rw [if_pos further]
        obtain ⟨below, low, high⟩ := ih further
        exact ⟨below, by omega, by omega⟩
      · rw [if_neg further]
        exact ⟨start, Nat.le_refl k, by omega⟩

/-- With enough fuel the count stops at the last value that is not above `n`. -/
theorem countUp_lt {f : Nat → Nat} {n fuel k : Nat} (enough : n < f (k + fuel + 1)) :
    n < f (countUp f n fuel k + 1) := by
  induction fuel generalizing k with
  | zero => exact enough
  | succ fuel ih =>
      unfold countUp
      by_cases further : f (k + 1) ≤ n
      · rw [if_pos further]
        apply ih
        rwa [show k + 1 + fuel + 1 = k + (fuel + 1) + 1 by omega]
      · rw [if_neg further]
        omega

def yearOf (number : Nat) : Nat := countUp daysBeforeYear number number (number / 366)

def monthOf (year rest : Nat) : Nat := countUp (daysBeforeMonth year) rest 11 1

def dateOf (number : Nat) : Date :=
  let year := yearOf number
  let rest := number - daysBeforeYear year
  let month := monthOf year rest
  ⟨year, month, rest - daysBeforeMonth year month + 1⟩

theorem daysBeforeYear_bounds (year : Nat) :
    365 * year ≤ daysBeforeYear year ∧ daysBeforeYear year ≤ 366 * year := by
  unfold daysBeforeYear
  omega

theorem yearOf_spec (number : Nat) :
    daysBeforeYear (yearOf number) ≤ number ∧
      number < daysBeforeYear (yearOf number) + yearLength (yearOf number) := by
  have low := (daysBeforeYear_bounds (number / 366)).2
  have high := (daysBeforeYear_bounds (number / 366 + number + 1)).1
  have start := @countUp_le daysBeforeYear number number (number / 366) (by omega)
  refine ⟨start.1, ?_⟩
  rw [← daysBeforeYear_succ]
  apply countUp_lt
  omega

theorem monthOf_spec {year rest : Nat} (inside : rest < yearLength year) :
    (1 ≤ monthOf year rest ∧ monthOf year rest ≤ 12) ∧
      daysBeforeMonth year (monthOf year rest) ≤ rest ∧
      rest < daysBeforeMonth year (monthOf year rest) + daysInMonth year (monthOf year rest) := by
  obtain ⟨below, low, high⟩ := @countUp_le (daysBeforeMonth year) rest 11 1 (Nat.zero_le rest)
  refine ⟨⟨low, by unfold monthOf; omega⟩, below, ?_⟩
  rw [← daysBeforeMonth_succ year (show 1 ≤ monthOf year rest from low)]
  apply countUp_lt
  rw [daysBeforeMonth_year]
  exact inside

theorem dateOf_proper (number : Nat) : (dateOf number).Proper := by
  have year := yearOf_spec number
  have month := @monthOf_spec (yearOf number) (number - daysBeforeYear (yearOf number)) (by omega)
  refine ⟨month.1, by unfold dateOf; dsimp only; omega, ?_⟩
  unfold dateOf
  dsimp only
  omega

theorem number_dateOf (number : Nat) : (dateOf number).number = number := by
  have year := yearOf_spec number
  have month := @monthOf_spec (yearOf number) (number - daysBeforeYear (yearOf number)) (by omega)
  unfold Date.number dateOf
  dsimp only
  omega

theorem dateOf_number {date : Date} (proper : date.Proper) : dateOf date.number = date :=
  Date.number_inj (dateOf_proper _) proper (number_dateOf _)

theorem dateOf_before {a b : Nat} : (dateOf a).Before (dateOf b) ↔ a < b := by
  rw [← Date.number_lt_iff (dateOf_proper a) (dateOf_proper b), number_dateOf, number_dateOf]

theorem dateOf_inj {a b : Nat} : dateOf a = dateOf b ↔ a = b := by
  constructor
  · intro same
    rw [← number_dateOf a, same, number_dateOf]
  · rintro rfl
    rfl

/-- The days before the year 10000. -/
def lastDay : Nat := daysBeforeYear 10000

theorem dateOf_year {number : Nat} : (dateOf number).year < 10000 ↔ number < lastDay := by
  have spec := yearOf_spec number
  change yearOf number < 10000 ↔ number < daysBeforeYear 10000
  constructor
  · intro small
    have below := daysBeforeYear_lt small
    omega
  · intro inside
    by_contra large
    rcases Nat.lt_or_ge 10000 (yearOf number) with later | same
    · have below := daysBeforeYear_lt later
      omega
    · obtain equal : yearOf number = 10000 := by omega
      rw [equal] at spec
      omega

theorem dateOf_valid {number : Nat} (inside : number < lastDay) : (dateOf number).Valid :=
  (dateOf_proper number).valid (dateOf_year.mpr inside)

/-! ## Texts of instants -/

def dayLength : Nat := 86400000

def threeDigits (value : Nat) : List Char := digit (value / 100) :: twoDigits (value % 100)

def sixDigits (value : Nat) : List Char := twoDigits (value / 10000) ++ fourDigits (value % 10000)

/-- A year of more than four digits is written with its sign and six digits. -/
def yearChars (year : Nat) : List Char :=
  if year < 10000 then fourDigits year else '+' :: sixDigits year

/-- The time of a day, in milliseconds, as `HH:MM:SS.mmmZ`. -/
def timeChars (time : Nat) : List Char :=
  twoDigits (time / 3600000) ++ ':' :: (twoDigits (time / 60000 % 60) ++ ':' ::
    (twoDigits (time / 1000 % 60) ++ '.' :: (threeDigits (time % 1000) ++ ['Z'])))

def isoChars (instant : Nat) : List Char :=
  let date := dateOf (instant / dayLength)
  yearChars date.year ++ '-' :: (twoDigits date.month ++ '-' ::
    (twoDigits date.day ++ 'T' :: timeChars (instant % dayLength)))

/-- The first of January 1970 in milliseconds from the start of the year 0. -/
def epoch : Nat := 719528 * dayLength

/-- `toISOString` of the time value `time`, at or after 1970. -/
def toISOString (time : Nat) : String := String.ofList (isoChars (epoch + time))

theorem separated_lt (c : Char) (s t : List Char) : c :: s < c :: t ↔ s < t := by
  rw [List.cons_lt_cons_iff]
  have apart : ¬ c < c := Char.lt_irrefl c
  simp [apart]

theorem threeDigits_append_lt {a b : Nat} (fitsA : a < 1000) (fitsB : b < 1000) (s t : List Char) :
    threeDigits a ++ s < threeDigits b ++ t ↔ a < b ∨ a = b ∧ s < t := by
  rw [threeDigits, threeDigits, List.cons_append, List.cons_append, List.cons_lt_cons_iff,
    digit_lt, digit_inj, twoDigits_append_lt (by omega) (by omega)]
  by_cases later : s < t
  · simp only [later, and_true]
    omega
  · simp only [later, and_false, or_false]
    omega

theorem timeChars_lt {a b : Nat} (insideA : a < dayLength) (insideB : b < dayLength) :
    timeChars a < timeChars b ↔ a < b := by
  unfold dayLength at insideA insideB
  have last : ¬ ['Z'] < ['Z'] := by decide
  rw [timeChars, timeChars, twoDigits_append_lt (by omega) (by omega), separated_lt,
    twoDigits_append_lt (by omega) (by omega), separated_lt,
    twoDigits_append_lt (by omega) (by omega), separated_lt,
    threeDigits_append_lt (by omega) (by omega)]
  simp only [last, and_false, or_false]
  omega

theorem yearChars_lt_long {a b : Nat} (short : a < 10000) (long : ¬ b < 10000) (s t : List Char) :
    ¬ yearChars a ++ s < yearChars b ++ t := by
  rw [yearChars, yearChars, if_pos short, if_neg long]
  simp only [fourDigits, twoDigits, List.cons_append, List.cons_lt_cons_iff]
  rintro (less | ⟨same, -⟩)
  · -- every digit comes after the sign
    have order : digit (a / 100 / 10) < '+' ↔ (digit (a / 100 / 10)).toNat < '+'.toNat := Iff.rfl
    rw [order, digit_toNat] at less
    have sign : '+'.toNat = 43 := rfl
    omega
  · have values := congrArg Char.toNat same
    rw [digit_toNat] at values
    have sign : '+'.toNat = 43 := rfl
    omega

theorem dateChars_append_lt {a b : Date} (validA : a.Valid) (validB : b.Valid)
    (s t : List Char) :
    yearChars a.year ++ '-' :: (twoDigits a.month ++ '-' :: (twoDigits a.day ++ s)) <
        yearChars b.year ++ '-' :: (twoDigits b.month ++ '-' :: (twoDigits b.day ++ t)) ↔
      a.Before b ∨ a = b ∧ s < t := by
  rw [yearChars, yearChars, if_pos validA.year, if_pos validB.year,
    fourDigits_append_lt validA.year validB.year, separated_lt,
    twoDigits_append_lt validA.month_fits validB.month_fits, separated_lt,
    twoDigits_append_lt validA.day_fits validB.day_fits]
  obtain ⟨year, month, day⟩ := a
  obtain ⟨year', month', day'⟩ := b
  simp only [Date.Before, Date.mk.injEq]
  by_cases later : s < t
  · simp only [later, and_true]
    omega
  · simp only [later, and_false, or_false]

/-- The texts of instants of four-digit years compare as the instants. -/
theorem isoChars_lt {a b : Nat} (insideA : a / dayLength < lastDay)
    (insideB : b / dayLength < lastDay) : isoChars a < isoChars b ↔ a < b := by
  have positive : 0 < dayLength := by decide
  have times := timeChars_lt (Nat.mod_lt a positive) (Nat.mod_lt b positive)
  rw [isoChars, isoChars, dateChars_append_lt (dateOf_valid insideA) (dateOf_valid insideB),
    separated_lt, times, dateOf_before, dateOf_inj]
  unfold dayLength
  omega

/-- From a four-digit year on, only a later instant has a greater text: the
texts of longer years come before. -/
theorem lt_of_isoChars_lt {a b : Nat} (insideA : a / dayLength < lastDay)
    (less : isoChars a < isoChars b) : a < b := by
  by_cases insideB : b / dayLength < lastDay
  · exact (isoChars_lt insideA insideB).mp less
  · exfalso
    have long : ¬ (dateOf (b / dayLength)).year < 10000 := fun short => insideB (dateOf_year.mp short)
    exact yearChars_lt_long (dateOf_year.mpr insideA) long _ _ less

/-- A reading of the clock, in a year of four digits. -/
structure Instant where
  time : Nat
  fourDigits : (epoch + time) / dayLength < lastDay

def Instant.text (instant : Instant) : String := toISOString instant.time

theorem Instant.lt_of_text_lt {instant : Instant} {time : Nat}
    (less : instant.text < toISOString time) : instant.time < time := by
  rw [String.lt_iff, Instant.text, toISOString, toISOString, String.toList_ofList,
    String.toList_ofList] at less
  have later := lt_of_isoChars_lt instant.fourDigits less
  omega

example : toISOString 1790000000123 = "2026-09-21T14:13:20.123Z" := by decide +kernel

end Calendar
