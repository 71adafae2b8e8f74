import Mathlib.Tactic.Common

/-!
Days of the calendar and their texts `YYYY-MM-DD`. A text names at most one day
and a day has one text; the texts compare as the days do, so that a comparison
of texts is one of days.
-/

namespace Calendar

/-! ## Decimal digits -/

def digit (value : Nat) : Char := Char.ofNat (48 + value % 10)

/-- The number that a list of digits spells. -/
def digits (chars : List Char) : Option Nat :=
  if chars.all Char.isDigit then some (chars.foldl (fun value c => 10 * value + (c.toNat - 48)) 0)
  else none

theorem digit_toNat (value : Nat) : (digit value).toNat = 48 + value % 10 := by
  have all : ∀ k : Fin 10, (Char.ofNat (48 + k.val)).toNat = 48 + k.val := by decide
  exact all ⟨value % 10, Nat.mod_lt _ (by decide)⟩

theorem isDigit_digit (value : Nat) : (digit value).isDigit = true := by
  have all : ∀ k : Fin 10, (Char.ofNat (48 + k.val)).isDigit = true := by decide
  exact all ⟨value % 10, Nat.mod_lt _ (by decide)⟩

theorem digit_lt {a b : Nat} : digit a < digit b ↔ a % 10 < b % 10 := by
  have order : digit a < digit b ↔ (digit a).toNat < (digit b).toNat := Iff.rfl
  rw [order, digit_toNat, digit_toNat]
  omega

theorem digit_inj {a b : Nat} : digit a = digit b ↔ a % 10 = b % 10 := by
  constructor
  · intro same
    have values := congrArg Char.toNat same
    rw [digit_toNat, digit_toNat] at values
    omega
  · intro same
    unfold digit
    rw [same]

theorem isDigit_toNat {c : Char} (isDigit : c.isDigit = true) : 48 ≤ c.toNat ∧ c.toNat ≤ 57 := by
  simp only [Char.isDigit, Bool.and_eq_true, decide_eq_true_eq] at isDigit
  exact isDigit

theorem digit_of_isDigit {c : Char} {value : Nat} (isDigit : c.isDigit = true)
    (same : value % 10 = c.toNat - 48) : digit value = c := by
  obtain ⟨low, high⟩ := isDigit_toNat isDigit
  apply Char.ext
  apply UInt32.toNat_inj.mp
  change (digit value).toNat = c.toNat
  rw [digit_toNat]
  omega

/-! ### Two and four digits -/

def twoDigits (value : Nat) : List Char := [digit (value / 10), digit value]

def fourDigits (value : Nat) : List Char := twoDigits (value / 100) ++ twoDigits (value % 100)

theorem digits_twoDigits {value : Nat} (fits : value < 100) :
    digits (twoDigits value) = some value := by
  simp only [digits, twoDigits, List.all_cons, isDigit_digit, List.all_nil, Bool.and_self, if_true,
    List.foldl_cons, List.foldl_nil, digit_toNat, Option.some.injEq]
  omega

theorem digits_fourDigits {value : Nat} (fits : value < 10000) :
    digits (fourDigits value) = some value := by
  simp only [digits, fourDigits, twoDigits, List.cons_append, List.nil_append, List.all_cons, isDigit_digit, List.all_nil, Bool.and_self, if_true,
    List.foldl_cons, List.foldl_nil, digit_toNat, Option.some.injEq]
  omega

theorem twoDigits_of_digits {a b : Char} {value : Nat} (spelt : digits [a, b] = some value) :
    [a, b] = twoDigits value ∧ value < 100 := by
  simp only [digits, List.all_cons, List.all_nil, Bool.and_true, List.foldl_cons,
    List.foldl_nil, Option.ite_none_right_eq_some, Bool.and_eq_true, Option.some.injEq] at spelt
  obtain ⟨⟨first, second⟩, same⟩ := spelt
  have boundA := isDigit_toNat first
  have boundB := isDigit_toNat second
  refine ⟨?_, by omega⟩
  unfold twoDigits
  rw [digit_of_isDigit first (by omega), digit_of_isDigit second (by omega)]

theorem fourDigits_of_digits {a b c d : Char} {value : Nat}
    (spelt : digits [a, b, c, d] = some value) :
    [a, b, c, d] = fourDigits value ∧ value < 10000 := by
  simp only [digits, List.all_cons, List.all_nil, Bool.and_true, List.foldl_cons,
    List.foldl_nil, Option.ite_none_right_eq_some, Bool.and_eq_true, Option.some.injEq] at spelt
  obtain ⟨⟨first, second, third, fourth⟩, same⟩ := spelt
  have boundA := isDigit_toNat first
  have boundB := isDigit_toNat second
  have boundC := isDigit_toNat third
  have boundD := isDigit_toNat fourth
  refine ⟨?_, by omega⟩
  unfold fourDigits twoDigits
  rw [digit_of_isDigit first (by omega), digit_of_isDigit second (by omega),
    digit_of_isDigit third (by omega), digit_of_isDigit fourth (by omega)]
  rfl

/-- Numbers of two digits compare as their texts, and after them what follows. -/
theorem twoDigits_append_lt {a b : Nat} (fitsA : a < 100) (fitsB : b < 100) (s t : List Char) :
    twoDigits a ++ s < twoDigits b ++ t ↔ a < b ∨ a = b ∧ s < t := by
  simp only [twoDigits, List.cons_append, List.nil_append, List.cons_lt_cons_iff, digit_lt,
    digit_inj]
  by_cases later : s < t
  · simp only [later, and_true]
    omega
  · simp only [later, and_false, or_false]
    omega

theorem fourDigits_append_lt {a b : Nat} (fitsA : a < 10000) (fitsB : b < 10000)
    (s t : List Char) : fourDigits a ++ s < fourDigits b ++ t ↔ a < b ∨ a = b ∧ s < t := by
  rw [fourDigits, fourDigits, List.append_assoc, List.append_assoc,
    twoDigits_append_lt (by omega) (by omega), twoDigits_append_lt (by omega) (by omega)]
  by_cases later : s < t
  · simp only [later, and_true]
    omega
  · simp only [later, and_false, or_false]
    omega

/-! ## Days -/

def leapYear (year : Nat) : Bool :=
  year % 4 == 0 && (year % 100 != 0 || year % 400 == 0)

def daysInMonth (year month : Nat) : Nat :=
  if month == 2 then (if leapYear year then 29 else 28)
  else if month == 4 || month == 6 || month == 9 || month == 11 then 30
  else 31

theorem daysInMonth_le (year month : Nat) : daysInMonth year month ≤ 31 := by
  unfold daysInMonth
  split
  · split <;> decide
  · split <;> decide

theorem daysInMonth_pos (year month : Nat) : 1 ≤ daysInMonth year month := by
  unfold daysInMonth
  split
  · split <;> decide
  · split <;> decide

structure Date where
  year : Nat
  month : Nat
  day : Nat
  deriving DecidableEq

/-- A day that exists, in a year of at most four digits. -/
structure Date.Valid (date : Date) : Prop where
  year : date.year < 10000
  month : 1 ≤ date.month ∧ date.month ≤ 12
  day : 1 ≤ date.day ∧ date.day ≤ daysInMonth date.year date.month

def Date.Before (a b : Date) : Prop :=
  a.year < b.year ∨ a.year = b.year ∧ (a.month < b.month ∨ a.month = b.month ∧ a.day < b.day)

def Date.text (date : Date) : String :=
  String.ofList
    (fourDigits date.year ++ '-' :: (twoDigits date.month ++ '-' :: twoDigits date.day))

/-- A text `YYYY-MM-DD` that names a day. -/
def parse (value : String) : Option Date :=
  match value.toList with
  | [y1, y2, y3, y4, '-', m1, m2, '-', d1, d2] => do
      let year ← digits [y1, y2, y3, y4]
      let month ← digits [m1, m2]
      let day ← digits [d1, d2]
      if 1 ≤ month ∧ month ≤ 12 ∧ 1 ≤ day ∧ day ≤ daysInMonth year month then
        some { year, month, day }
      else none
  | _ => none

/-- The last day before, unless it is in a year before 0. -/
def Date.previous (date : Date) : Option Date :=
  if 1 < date.day then some { date with day := date.day - 1 }
  else if 1 < date.month then
    some { date with month := date.month - 1, day := daysInMonth date.year (date.month - 1) }
  else if 0 < date.year then some ⟨date.year - 1, 12, 31⟩
  else none

theorem Date.Valid.day_fits {date : Date} (valid : date.Valid) : date.day < 100 := by
  have bound := daysInMonth_le date.year date.month
  have inside := valid.day
  omega

theorem Date.Valid.month_fits {date : Date} (valid : date.Valid) : date.month < 100 := by
  have inside := valid.month
  omega

/-- A text names a day exactly when it is the text of that day. -/
theorem parse_eq_some_iff {value : String} {date : Date} :
    parse value = some date ↔ date.Valid ∧ value = date.text := by
  constructor
  · intro parsed
    unfold parse at parsed
    split at parsed
    · rename_i y1 y2 y3 y4 m1 m2 d1 d2 listed
      simp only [Option.bind_eq_bind, Option.bind_eq_some_iff, Option.ite_none_right_eq_some,
        Option.some.injEq] at parsed
      obtain ⟨year, spelt, month, speltMonth, day, speltDay, ⟨low, high, first, last⟩, rfl⟩ := parsed
      obtain ⟨years, fits⟩ := fourDigits_of_digits spelt
      obtain ⟨months, -⟩ := twoDigits_of_digits speltMonth
      obtain ⟨days, -⟩ := twoDigits_of_digits speltDay
      refine ⟨⟨fits, ⟨low, high⟩, ⟨first, last⟩⟩, ?_⟩
      rw [← String.ofList_toList (s := value), listed]
      unfold Date.text
      rw [← years, ← months, ← days]
      rfl
    · cases parsed
  · rintro ⟨valid, rfl⟩
    have years := digits_fourDigits valid.year
    have months := digits_twoDigits valid.month_fits
    have days := digits_twoDigits valid.day_fits
    simp only [fourDigits, twoDigits, List.cons_append, List.nil_append] at years months days
    have inside : 1 ≤ date.month ∧ date.month ≤ 12 ∧ 1 ≤ date.day ∧
        date.day ≤ daysInMonth date.year date.month :=
      ⟨valid.month.1, valid.month.2, valid.day⟩
    simp [parse, Date.text, fourDigits, twoDigits, years, months, days, inside]

theorem Date.text_lt {a b : Date} (validA : a.Valid) (validB : b.Valid) :
    a.text < b.text ↔ a.Before b := by
  have days := twoDigits_append_lt validA.day_fits validB.day_fits [] []
  rw [List.append_nil, List.append_nil] at days
  rw [String.lt_iff, Date.text, Date.text, String.toList_ofList, String.toList_ofList,
    fourDigits_append_lt validA.year validB.year, List.cons_lt_cons_iff,
    twoDigits_append_lt validA.month_fits validB.month_fits, List.cons_lt_cons_iff, days]
  simp [Date.Before]

/-! ## The day before -/

theorem Date.Valid.previous {date before : Date} (valid : date.Valid)
    (found : date.previous = some before) : before.Valid := by
  have year := valid.year
  have month := valid.month
  have day := valid.day
  unfold Date.previous at found
  split at found
  · cases found
    exact ⟨year, month, by dsimp only; omega, by dsimp only; omega⟩
  · split at found
    · cases found
      exact ⟨year, by dsimp only; omega, daysInMonth_pos _ _, Nat.le_refl _⟩
    · split at found
      · cases found
        exact ⟨by dsimp only; omega, by dsimp only; omega, by dsimp only; omega, Nat.le_refl _⟩
      · cases found

theorem Date.previous_before {date before : Date} (found : date.previous = some before) :
    before.Before date := by
  unfold Date.previous at found
  unfold Date.Before
  split at found
  · cases found
    dsimp only
    omega
  · split at found
    · cases found
      dsimp only
      omega
    · split at found
      · cases found
        dsimp only
        omega
      · cases found

theorem Date.previous_greatest {date before other : Date} (valid : other.Valid)
    (found : date.previous = some before) (earlier : other.Before date) :
    ¬ before.Before other := by
  have month := valid.month
  have day := valid.day
  have long := daysInMonth_le other.year other.month
  unfold Date.previous at found
  unfold Date.Before at earlier ⊢
  split at found
  · cases found
    dsimp only
    omega
  · split at found
    · cases found
      dsimp only
      rintro (later | ⟨same, later | ⟨sameMonth, later⟩⟩)
      · omega
      · omega
      · rw [same, sameMonth] at later
        omega
    · split at found
      · cases found
        dsimp only
        omega
      · cases found

theorem Date.previous_none {date other : Date} (valid : other.Valid)
    (none : date.previous = none) : ¬ other.Before date := by
  have month := valid.month
  have day := valid.day
  unfold Date.previous at none
  unfold Date.Before
  split at none
  · cases none
  · split at none
    · cases none
    · split at none
      · cases none
      · omega

end Calendar
