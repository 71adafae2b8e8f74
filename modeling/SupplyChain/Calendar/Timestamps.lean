import SupplyChain.Calendar.Instants
import SupplyChain.Relational.Keys

/-!
Timestamps `YYYY-MM-DDTHH:mm:ss.sss` with a `Z` or an offset, and the days of
their instants in a time zone. The day that is written and the day in the zone
are apart by the drift, which is told by the time of the day, the offset and
the zone; a text that starts with a day compares with a day as its own does.
-/

namespace Calendar

/-! ## Timestamps -/

/-- A time of a day at an offset, in minutes ahead of UTC. -/
structure Timestamp where
  date : Date
  timeOfDay : Nat
  offset : Int
  valid : date.Valid
  inside : timeOfDay ≤ dayLength
  bounded : -1440 < offset ∧ offset < 1440
  deriving DecidableEq

instance (date : Date) : Decidable date.Valid :=
  decidable_of_iff (date.year < 10000 ∧ (1 ≤ date.month ∧ date.month ≤ 12) ∧
      1 ≤ date.day ∧ date.day ≤ daysInMonth date.year date.month)
    ⟨fun inside => ⟨inside.1, inside.2.1, inside.2.2⟩,
      fun valid => ⟨valid.year, valid.month, valid.day⟩⟩

/-- The last instant of a day is written `24:00:00.000` too. -/
def clockTime (hour minute second milli : List Char) : Option Nat := do
  let hour ← digits hour
  let minute ← digits minute
  let second ← digits second
  let milli ← digits milli
  if minute < 60 ∧ second < 60 then
    some (hour * 3600000 + minute * 60000 + second * 1000 + milli)
  else none

/-- `HH:mm`, with seconds or not, and those with milliseconds or not; then what
follows the time. -/
def clock : List Char → Option (Nat × List Char)
  | h1 :: h2 :: ':' :: m1 :: m2 :: ':' :: s1 :: s2 :: '.' :: f1 :: f2 :: f3 :: rest =>
      (clockTime [h1, h2] [m1, m2] [s1, s2] [f1, f2, f3]).map fun time => (time, rest)
  | h1 :: h2 :: ':' :: m1 :: m2 :: ':' :: s1 :: s2 :: rest =>
      (clockTime [h1, h2] [m1, m2] [s1, s2] []).map fun time => (time, rest)
  | h1 :: h2 :: ':' :: m1 :: m2 :: rest =>
      (clockTime [h1, h2] [m1, m2] [] []).map fun time => (time, rest)
  | _ => none

def offsetMinutes (hour minute : List Char) : Option Int := do
  let hour ← digits hour
  let minute ← digits minute
  if minute < 60 then some (60 * hour + minute) else none

def offsetOf : List Char → Option Int
  | ['Z'] => some 0
  | ['+', h1, h2, ':', m1, m2] => offsetMinutes [h1, h2] [m1, m2]
  | ['-', h1, h2, ':', m1, m2] => (offsetMinutes [h1, h2] [m1, m2]).map fun minutes => -minutes
  | _ => none

/-- The day is what the first ten characters name. -/
def timestamp? (value : String) : Option Timestamp :=
  match parse (String.ofList (value.toList.take 10)), value.toList.drop 10 with
  | some date, 'T' :: rest => do
      let (timeOfDay, rest) ← clock rest
      let offset ← offsetOf rest
      if fits : date.Valid ∧ timeOfDay ≤ dayLength ∧ -1440 < offset ∧ offset < 1440 then
        some ⟨date, timeOfDay, offset, fits.1, fits.2.1, fits.2.2⟩
      else none
  | _, _ => none

theorem timestamp?_date {value : String} {stamp : Timestamp} (read : timestamp? value = some stamp) :
    String.ofList (value.toList.take 10) = stamp.date.text := by
  unfold timestamp? at read
  split at read
  · rename_i date rest parsed after
    simp only [Option.bind_eq_bind, Option.bind_eq_some_iff] at read
    obtain ⟨⟨time, rest⟩, -, offset, -, built⟩ := read
    split at built
    · cases built
      exact (parse_eq_some_iff.mp parsed).2
    · cases built
  · cases read

theorem timestamp?_text {value : String} {stamp : Timestamp} (read : timestamp? value = some stamp) :
    ∃ rest, value.toList = stamp.date.text.toList ++ rest := by
  refine ⟨value.toList.drop 10, ?_⟩
  rw [← timestamp?_date read, String.toList_ofList, List.take_append_drop]

/-- The instant in milliseconds from the first of January 1970, UTC. -/
def Timestamp.time (stamp : Timestamp) : Int :=
  stamp.date.number * dayLength + stamp.timeOfDay - stamp.offset * 60000 - epoch

/-! ## Days in a zone -/

/-- How many milliseconds a zone is ahead of UTC at an instant. -/
structure Zone where
  ahead : Int → Int
  bounded : ∀ time, -dayLength < ahead time ∧ ahead time < dayLength

/-- The number of the day in the zone. -/
def Zone.day (zone : Zone) (time : Int) : Int := (time + epoch + zone.ahead time) / dayLength

/-- How many days the zone is ahead of the day that is written. -/
def Timestamp.drift (zone : Zone) (stamp : Timestamp) : Int :=
  (stamp.timeOfDay - stamp.offset * 60000 + zone.ahead stamp.time) / dayLength

theorem Zone.day_time (zone : Zone) (stamp : Timestamp) :
    zone.day stamp.time = stamp.date.number + stamp.drift zone := by
  have sum : stamp.time + epoch + zone.ahead stamp.time =
      stamp.timeOfDay - stamp.offset * 60000 + zone.ahead stamp.time +
        stamp.date.number * dayLength := by
    unfold Timestamp.time
    omega
  rw [Zone.day, sum, Int.add_mul_ediv_right _ _ (by decide), Timestamp.drift, Int.add_comm]

theorem Timestamp.drift_bounds (zone : Zone) (stamp : Timestamp) :
    -2 ≤ stamp.drift zone ∧ stamp.drift zone ≤ 2 := by
  have time := stamp.inside
  have offset := stamp.bounded
  have ahead := zone.bounded stamp.time
  unfold Timestamp.drift
  have length : dayLength = 86400000 := rfl
  rw [length] at time ahead ⊢
  omega

/-! ## Days as a calendar shows them -/

/-- The years before the year 1 are shown counted backwards from 1. -/
def shownDate : Int → Date
  | .ofNat number =>
      let date := dateOf number
      { date with year := if date.year = 0 then 1 else date.year }
  | .negSucc number =>
      -- 146097 days have the same dates as those of 400 years before
      let cycles := number / 146097 + 1
      let date := dateOf (146097 * cycles - (number + 1))
      { date with year := 400 * cycles + 1 - date.year }

/-- The year without padding, the month and the day with two digits. -/
def Date.shown (date : Date) : String :=
  toString date.year ++ "-" ++ String.ofList (twoDigits date.month) ++ "-" ++
    String.ofList (twoDigits date.day)

theorem twoDigits_inj {a b : Nat} (fitsA : a < 100) (fitsB : b < 100)
    (same : twoDigits a = twoDigits b) : a = b := by
  have spelt := digits_twoDigits fitsA
  rw [same, digits_twoDigits fitsB] at spelt
  exact (Option.some.inj spelt).symm

theorem Date.Proper.fits {date : Date} (proper : date.Proper) :
    date.month < 100 ∧ date.day < 100 := by
  have month := proper.month
  have day := proper.day
  have bound := daysInMonth_le date.year date.month
  omega

theorem Date.shown_inj {a b : Date} (fitsA : a.month < 100 ∧ a.day < 100)
    (fitsB : b.month < 100 ∧ b.day < 100) : a.shown = b.shown ↔ a = b := by
  constructor
  · intro same
    have texts := congrArg String.toList same
    have dash : "-".toList = ['-'] := rfl
    simp only [Date.shown, String.toList_append, String.toList_ofList, List.append_assoc, dash,
      List.cons_append, List.nil_append] at texts
    obtain ⟨years, texts⟩ := Relational.numbered_eq (c := '-') (by decide) texts
    obtain ⟨months, days⟩ := List.append_inj texts rfl
    obtain ⟨year, month, day⟩ := a
    obtain ⟨year', month', day'⟩ := b
    simp only [Date.mk.injEq]
    exact ⟨years, twoDigits_inj fitsA.1 fitsB.1 months,
      twoDigits_inj fitsA.2 fitsB.2 (List.cons.inj days).2⟩
  · rintro rfl
    rfl

theorem shownDate_fits (day : Int) :
    (shownDate day).month < 100 ∧ (shownDate day).day < 100 := by
  cases day with
  | ofNat number => exact (dateOf_proper number).fits
  | negSucc number => exact (dateOf_proper _).fits

/-- From the year 402 on a day of the last 400 years before 0 or of those after
is shown as it is. -/
theorem shownDate_late {day : Int} (low : -146097 ≤ day) (late : 402 ≤ (shownDate day).year) :
    ∃ number : Nat, day = number ∧ shownDate day = dateOf number := by
  cases day with
  | ofNat number =>
      refine ⟨number, rfl, ?_⟩
      unfold shownDate at late ⊢
      dsimp only at late ⊢
      rw [if_neg]
      intro none
      rw [if_pos none] at late
      omega
  | negSucc number =>
      exfalso
      have cycle : number / 146097 = 0 := by omega
      simp only [shownDate, cycle] at late
      omega

/-- Two such days are shown alike only if they are the same. -/
theorem shownDate_inj {day day' : Int} (low : -146097 ≤ day) (low' : -146097 ≤ day')
    (late : 402 ≤ (shownDate day).year) (same : shownDate day = shownDate day') : day = day' := by
  obtain ⟨number, rfl, here⟩ := shownDate_late low late
  obtain ⟨number', rfl, there⟩ := shownDate_late low' (same ▸ late)
  rw [here, there] at same
  rw [dateOf_inj.mp same]

/-! ## Texts and days -/

theorem digitChar_digit {value : Nat} (small : value < 10) : value.digitChar = digit value := by
  have all : ∀ k : Fin 10, k.val.digitChar = digit k.val := by decide
  exact all ⟨value, small⟩

/-- A number is written with four digits as it is exactly from 1000 on. -/
theorem toString_fourDigits {number year : Nat} (fits : year < 10000) :
    (toString number).toList = fourDigits year ↔ number = year ∧ 1000 ≤ year := by
  have written : (toString number).toList = Nat.toDigits 10 number := Nat.toList_repr
  have spelt : 1000 ≤ number → number < 10000 → Nat.toDigits 10 number = fourDigits number := by
    intro low high
    rw [Nat.toDigits_of_base_le (by decide) (by omega), Nat.toDigits_of_base_le (by decide)
      (by omega), Nat.toDigits_of_base_le (by decide) (by omega),
      Nat.toDigits_of_lt_base (by omega), digitChar_digit (by omega), digitChar_digit (by omega),
      digitChar_digit (by omega), digitChar_digit (by omega)]
    have first : digit (number / 10 / 10 / 10) = digit (number / 100 / 10) := by
      rw [digit_inj]
      omega
    have second : digit (number / 10 / 10 % 10) = digit (number / 100) := by
      rw [digit_inj]
      omega
    have third : digit (number / 10 % 10) = digit (number % 100 / 10) := by
      rw [digit_inj]
      omega
    have fourth : digit (number % 10) = digit (number % 100) := by
      rw [digit_inj]
      omega
    rw [first, second, third, fourth]
    rfl
  rw [written]
  constructor
  · intro same
    have lengths := congrArg List.length same
    have four : (fourDigits year).length = 4 := rfl
    rw [four] at lengths
    have high := (@Nat.length_toDigits_le_iff 10 number 4 (by decide) (by decide)).mp (by omega)
    have low := (@Nat.length_toDigits_le_iff 10 number 3 (by decide) (by decide)).not.mp (by omega)
    have value := digits_fourDigits fits
    rw [← same, spelt (by omega) (by omega), digits_fourDigits (by omega)] at value
    have years := Option.some.inj value
    omega
  · rintro ⟨rfl, low⟩
    exact spelt low fits

/-- A text that starts with a day comes before a later day and no other. -/
theorem starts_lt_text {value : String} {a b : Date} {rest : List Char} (validA : a.Valid)
    (validB : b.Valid) (starts : value.toList = a.text.toList ++ rest) :
    value < b.text ↔ a.Before b := by
  have texts := dateChars_append_lt validA validB rest []
  rw [yearChars, yearChars, if_pos validA.year, if_pos validB.year] at texts
  have nothing : ¬ rest < [] := List.not_lt_nil rest
  simp only [nothing, and_false, or_false, List.append_nil] at texts
  rw [String.lt_iff, starts, ← texts]
  simp only [Date.text, String.toList_ofList, List.append_assoc, List.cons_append]

end Calendar
