import SupplyChain.Calendar.Timestamps

/-!
Instants as a database writes them in the time zone of its session,
`YYYY-MM-DD HH:MM:SS.mmm`, beside the texts of `toISOString`. Among themselves
each kind compares as its clock does; between the kinds only the days count, and
on one day the text of the session comes first.
-/

namespace Calendar

/-- The time of a day, in milliseconds, as `HH:MM:SS.mmm`. -/
def clockChars (time : Nat) : List Char :=
  twoDigits (time / 3600000) ++ ':' :: (twoDigits (time / 60000 % 60) ++ ':' ::
    (twoDigits (time / 1000 % 60) ++ '.' :: threeDigits (time % 1000)))

def datetimeChars (instant : Nat) : List Char :=
  let date := dateOf (instant / dayLength)
  yearChars date.year ++ '-' :: (twoDigits date.month ++ '-' ::
    (twoDigits date.day ++ ' ' :: clockChars (instant % dayLength)))

theorem clockChars_lt {a b : Nat} (insideA : a < dayLength) (insideB : b < dayLength) :
    clockChars a < clockChars b ↔ a < b := by
  unfold dayLength at insideA insideB
  have last : ¬ ([] : List Char) < [] := List.not_lt_nil []
  have millis := @threeDigits_append_lt (a % 1000) (b % 1000) (by omega) (by omega) [] []
  rw [List.append_nil, List.append_nil] at millis
  rw [clockChars, clockChars, twoDigits_append_lt (by omega) (by omega), separated_lt,
    twoDigits_append_lt (by omega) (by omega), separated_lt,
    twoDigits_append_lt (by omega) (by omega), separated_lt, millis]
  simp only [last, and_false, or_false]
  omega

section Orders

variable {a b : Nat} (insideA : a / dayLength < lastDay) (insideB : b / dayLength < lastDay)

include insideA insideB

theorem datetimeChars_lt : datetimeChars a < datetimeChars b ↔ a < b := by
  have positive : 0 < dayLength := by decide
  have times := clockChars_lt (Nat.mod_lt a positive) (Nat.mod_lt b positive)
  rw [datetimeChars, datetimeChars, dateChars_append_lt (dateOf_valid insideA) (dateOf_valid insideB),
    separated_lt, times, dateOf_before, dateOf_inj]
  unfold dayLength
  omega

theorem datetimeChars_lt_iso : datetimeChars a < isoChars b ↔ a / dayLength ≤ b / dayLength := by
  have blank : ∀ s t : List Char, ' ' :: s < 'T' :: t := by
    intro s t
    exact List.cons_lt_cons_iff.mpr (Or.inl (by decide))
  rw [datetimeChars, isoChars, dateChars_append_lt (dateOf_valid insideA) (dateOf_valid insideB),
    dateOf_before, dateOf_inj]
  simp only [blank, and_true]
  omega

theorem isoChars_lt_datetime : isoChars a < datetimeChars b ↔ a / dayLength < b / dayLength := by
  have blank : ∀ s t : List Char, ¬ 'T' :: s < ' ' :: t := by
    intro s t less
    rcases List.cons_lt_cons_iff.mp less with less | ⟨same, -⟩
    · exact absurd less (by decide)
    · exact absurd same (by decide)
  rw [datetimeChars, isoChars, dateChars_append_lt (dateOf_valid insideA) (dateOf_valid insideB),
    dateOf_before, dateOf_inj]
  simp only [blank, and_false, or_false]

end Orders

/-! ## Moments -/

/-- A time after 1970, some days before the year 10000. -/
structure Moment where
  time : Nat
  early : (epoch + time) / dayLength + 3 < lastDay

/-- The milliseconds of the clock of a zone, counted from the start of the year 0. -/
def Zone.clock (zone : Zone) (time : Nat) : Nat := (epoch + time + zone.ahead time).toNat

/-- The day in UTC. -/
def utcDay (time : Nat) : Nat := (epoch + time) / dayLength

def Zone.localDay (zone : Zone) (time : Nat) : Nat := zone.clock time / dayLength

def Zone.datetime (zone : Zone) (time : Nat) : String :=
  String.ofList (datetimeChars (zone.clock time))

/-- Within a day of a moment every text has a year of four digits. -/
theorem Moment.inside (moment : Moment) {later : Nat} (soon : later ≤ dayLength) (zone : Zone) :
    utcDay (moment.time + later) < lastDay ∧ zone.localDay (moment.time + later) < lastDay := by
  have early := moment.early
  have ahead := zone.bounded (moment.time + later : Nat)
  have length : dayLength = 86400000 := rfl
  unfold utcDay Zone.localDay Zone.clock
  rw [length] at early ahead soon ⊢
  omega

section Texts

variable {a b : Nat} {zone : Zone}

theorem toISOString_lt (insideA : utcDay a < lastDay) (insideB : utcDay b < lastDay) :
    toISOString a < toISOString b ↔ a < b := by
  rw [String.lt_iff, toISOString, toISOString, String.toList_ofList, String.toList_ofList,
    isoChars_lt insideA insideB]
  omega

theorem datetime_lt (insideA : zone.localDay a < lastDay) (insideB : zone.localDay b < lastDay) :
    zone.datetime a < zone.datetime b ↔ zone.clock a < zone.clock b := by
  rw [String.lt_iff, Zone.datetime, Zone.datetime, String.toList_ofList, String.toList_ofList,
    datetimeChars_lt insideA insideB]

theorem datetime_lt_iso (insideA : zone.localDay a < lastDay) (insideB : utcDay b < lastDay) :
    zone.datetime a < toISOString b ↔ zone.localDay a ≤ utcDay b := by
  rw [String.lt_iff, Zone.datetime, toISOString, String.toList_ofList, String.toList_ofList,
    datetimeChars_lt_iso insideA insideB]
  rfl

theorem iso_lt_datetime (insideA : utcDay a < lastDay) (insideB : zone.localDay b < lastDay) :
    toISOString a < zone.datetime b ↔ utcDay a < zone.localDay b := by
  rw [String.lt_iff, Zone.datetime, toISOString, String.toList_ofList, String.toList_ofList,
    isoChars_lt_datetime insideA insideB]
  rfl

end Texts

end Calendar
