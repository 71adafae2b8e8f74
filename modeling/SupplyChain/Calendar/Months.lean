import SupplyChain.Calendar.Instants

/-!
Months as numbers. The months of all years are counted on, so that a month some months
later needs no case for the end of a year, and a day is a month with a day in it.
-/

namespace Calendar

variable {a b : Date} {year month : Nat}

/-- The months before the one of a day. -/
def Date.months (date : Date) : Nat := 12 * date.year + (date.month - 1)

/-- The first of a month that is counted from zero and may lie in a later year. -/
def firstOf (year month : Nat) : Date := ⟨year + month / 12, month % 12 + 1, 1⟩

theorem firstOf_proper (year month : Nat) : (firstOf year month).Proper := by
  refine ⟨?_, Nat.le_refl 1, daysInMonth_pos _ _⟩
  dsimp only [firstOf]
  omega

theorem months_firstOf (year month : Nat) : (firstOf year month).months = 12 * year + month := by
  dsimp only [firstOf, Date.months]
  omega

theorem Date.before_iff (properA : a.Proper) (properB : b.Proper) :
    a.Before b ↔ a.months < b.months ∨ a.months = b.months ∧ a.day < b.day := by
  have monthA := properA.month
  have monthB := properB.month
  unfold Date.Before Date.months
  omega

theorem Date.eq_of_months (properA : a.Proper) (properB : b.Proper) (months : a.months = b.months)
    (days : a.day = b.day) : a = b := by
  rcases a.before_trichotomy b with before | same | after
  · rw [Date.before_iff properA properB] at before
    omega
  · exact same
  · rw [Date.before_iff properB properA] at after
    omega

theorem Date.sameMonth (properA : a.Proper) (properB : b.Proper) (months : a.months = b.months) :
    a.year = b.year ∧ a.month = b.month := by
  have monthA := properA.month
  have monthB := properB.month
  unfold Date.months at months
  omega

theorem Date.number_first (date : Date) :
    date.number = (Date.mk date.year date.month 1).number + (date.day - 1) := by
  unfold Date.number
  dsimp only
  omega

theorem number_nextMonth (counted : 1 ≤ month ∧ month ≤ 12) :
    (firstOf year month).number = (Date.mk year month 1).number + daysInMonth year month := by
  unfold firstOf Date.number
  dsimp only
  by_cases last : month = 12
  · subst last
    -- the first of January follows on the last month of the year
    have filled := daysBeforeMonth_year year
    have december := @daysBeforeMonth_succ year 12 (by decide)
    have next := daysBeforeYear_succ year
    have january : daysBeforeMonth (year + 12 / 12) (12 % 12 + 1) = 0 := rfl
    have quotient : year + 12 / 12 = year + 1 := rfl
    rw [january, quotient, next, ← filled, december]
    omega
  · have quotient : year + month / 12 = year := by omega
    have remainder : month % 12 = month := by omega
    have succ := daysBeforeMonth_succ year counted.1
    rw [quotient, remainder]
    omega

theorem number_of_year {least : Nat} (from_year : least ≤ a.year) :
    daysBeforeYear least ≤ a.number := by
  have first : ∀ year, least ≤ year → daysBeforeYear least ≤ daysBeforeYear year := by
    intro year before
    by_cases same : least = year
    · exact Nat.le_of_eq (congrArg daysBeforeYear same)
    · have below := daysBeforeYear_lt (Nat.lt_of_le_of_ne before same)
      omega
  have below := first a.year from_year
  unfold Date.number
  omega

theorem Date.year_lt_iff (proper : a.Proper) : a.year < 10000 ↔ a.number < lastDay := by
  rw [← dateOf_year, dateOf_number proper]

end Calendar
