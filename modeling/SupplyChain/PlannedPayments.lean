import Mathlib.Data.Rat.Floor
import SupplyChain.Calendar.Months

/-!
The planned payment date of a shipment: some days after the shipment, or a day of one of
the two months after it, depending on a cut-off day. Instants are those from 1970 on.
-/

namespace SupplyChain.PlannedPayments

open Calendar

/-! ## Input -/

/-- A number of the language. -/
inductive PaymentNumber
  | finite (value : ℚ)
  | infinite (negative : Bool)
  | nan
  deriving DecidableEq

namespace PaymentNumber

/-- `number < bound` -/
def below (bound : ℚ) : PaymentNumber → Bool
  | finite value => value < bound
  | infinite negative => negative
  | nan => false

/-- `bound < number` -/
def above (bound : ℚ) : PaymentNumber → Bool
  | finite value => bound < value
  | infinite negative => !negative
  | nan => false

/-- `bound <= number` -/
def atLeast (bound : ℚ) : PaymentNumber → Bool
  | finite value => bound ≤ value
  | infinite negative => !negative
  | nan => false

/-- The integer, for which `Number.isInteger` holds. -/
def integer : PaymentNumber → Option Int
  | finite value => if value.den = 1 then some value.num else none
  | infinite _ => none
  | nan => none

/-- `Math.min(number, bound)`, cut to an integer as the setters of a date do. -/
def minimum (bound : Int) : PaymentNumber → Option Int
  | finite value =>
      let least := min value bound
      some (if 0 ≤ least then ⌊least⌋ else ⌈least⌉)
  | infinite negative => if negative then none else some bound
  | nan => none

end PaymentNumber

/-- What stands in an optional field. -/
inductive Given
  | undefined
  | null
  | number (value : PaymentNumber)
  deriving DecidableEq

/-- `given ?? value` -/
def Given.orElse (value : PaymentNumber) : Given → PaymentNumber
  | .number given => given
  | _ => value

/-- `Number(given)` -/
def Given.toNumber : Given → PaymentNumber
  | .undefined => .nan
  | .null => .finite 0
  | .number given => given

inductive PaymentMode
  | shipmentPlusDays
  | monthlyCutoff
  deriving DecidableEq

structure PaymentRule where
  mode : PaymentMode
  daysAfterShipment : Given
  cutoffDay : Given
  paymentDay : Given

inductive PaymentError
  | message (text : String)
  | rangeError
  deriving DecidableEq

/-! ## Dates of the language -/

/-- Times after this one are no dates. -/
def lastTime : Nat := 8640000000000000

/-- The day of a time in UTC; its month counts from one. -/
def utcDate (time : Nat) : Date := dateOf ((epoch + time) / dayLength)

/-- The number of a day that is counted from the first of a month, which is counted from zero
and may lie in a later year. -/
def makeDay (year month : Nat) (day : Int) : Int :=
  (Date.mk (year + month / 12) (month % 12 + 1) 1).number + day - 1

/-- The time of a day and a time of that day; a time before 1970 or after the last one is
none. -/
def makeDate (day : Int) (timeOfDay : Nat) : Option Nat :=
  let time := day * dayLength + timeOfDay - epoch
  if 0 ≤ time ∧ time ≤ lastTime then some time.toNat else none

/-- `date.setUTCDate(day)` -/
def setUTCDate (time : Nat) (day : Int) : Option Nat :=
  makeDate (makeDay (utcDate time).year ((utcDate time).month - 1) day) ((epoch + time) % dayLength)

/-- `new Date(Date.UTC(year, month, day))`; years of two digits are those of the last century. -/
def dateUTC (year month : Nat) (day : Int) : Option Nat :=
  makeDate (makeDay (if year ≤ 99 then 1900 + year else year) month day) 0

/-- `date.toISOString().slice(0, 10)` -/
def isoDay (time : Nat) : String := String.ofList ((toISOString time).toList.take 10)

/-! ## The date -/

variable (newDate : String → Option Nat)

def shipmentPlusDays (shipped : Nat) (rule : PaymentRule) : Except PaymentError String :=
  match rule.daysAfterShipment.toNumber.integer with
  | some days =>
      if days < 0 then .error (.message "发货后付款天数不合法。")
      else match setUTCDate shipped ((utcDate shipped).day + days) with
        | some paid => .ok (isoDay paid)
        | none => .error .rangeError
  | none => .error (.message "发货后付款天数不合法。")

/-- The month after the shipment, or the one after that. -/
def targetMonth (shipped : Nat) (cutoffDay : PaymentNumber) : Option Nat :=
  let monthOffset := if cutoffDay.atLeast (utcDate shipped).day then 1 else 2
  dateUTC (utcDate shipped).year ((utcDate shipped).month - 1 + monthOffset) 1

/-- The day before the first of the month after. -/
def lastDayOf (target : Nat) : Option Nat :=
  (dateUTC (utcDate target).year (utcDate target).month 0).map fun last => (utcDate last).day

def monthlyCutoff (shipped : Nat) (rule : PaymentRule) : Except PaymentError String :=
  let cutoffDay := rule.cutoffDay.orElse (.finite 25)
  let paymentDay := rule.paymentDay.orElse (.finite 25)
  if cutoffDay.below 1 || cutoffDay.above 31 || paymentDay.below 1 || paymentDay.above 31 then
    .error (.message "月结付款日期配置不合法。")
  else
    match (do
      let target ← targetMonth shipped cutoffDay
      let lastDay ← lastDayOf target
      let day ← paymentDay.minimum lastDay
      setUTCDate target day : Option Nat) with
    | some paid => .ok (isoDay paid)
    | none => .error .rangeError

/-- `newDate` reads the instant of a text. -/
def calculatePlannedPaymentDate (shippedAt : String) (rule : PaymentRule) :
    Except PaymentError String :=
  match newDate shippedAt with
  | none => .error (.message "实际发货日期不合法。")
  | some shipped =>
      match rule.mode with
      | .shipmentPlusDays => shipmentPlusDays shipped rule
      | .monthlyCutoff => monthlyCutoff shipped rule

/-! ## Dates and times -/

variable {date : Date} {time day : Nat}

theorem utcDate_proper (time : Nat) : (utcDate time).Proper := dateOf_proper _

theorem utcDate_since (time : Nat) : 1970 ≤ (utcDate time).year := by
  by_contra early
  -- the days of 1969 and before end with the epoch
  have first := Date.number_lt (b := ⟨1970, 1, 1⟩) (utcDate_proper time) (Or.inl (by
    dsimp only
    omega))
  have epoch_number : (Date.mk 1970 1 1).number = 719528 := by decide
  rw [epoch_number, utcDate, number_dateOf] at first
  have since : 719528 ≤ (epoch + time) / dayLength := by
    rw [epoch, Nat.add_comm, Nat.add_mul_div_right _ _ (by decide)]
    exact Nat.le_add_left _ _
  omega

theorem isoDay_text (short : (utcDate time).year < 10000) : isoDay time = (utcDate time).text := by
  unfold isoDay toISOString isoChars Date.text yearChars
  rw [String.toList_ofList]
  have date : dateOf ((epoch + time) / dayLength) = utcDate time := rfl
  simp only [date, if_pos short]
  rfl

theorem makeDate_number {timeOfDay : Nat} (proper : date.Proper) (since : 1970 ≤ date.year)
    (short : date.year < 10000) (inside : timeOfDay < dayLength) :
    ∃ time, makeDate date.number timeOfDay = some time ∧ utcDate time = date := by
  have least := number_of_year since
  have most := (Date.year_lt_iff proper).mp short
  have first : daysBeforeYear 1970 = 719528 := by decide
  have last : lastDay = 3652425 := by decide
  have length : dayLength = 86400000 := rfl
  have product : date.number * dayLength = 86400000 * date.number := Nat.mul_comm _ _
  have start : epoch = 62167219200000 := by decide
  refine ⟨date.number * dayLength + timeOfDay - epoch, ?_, ?_⟩
  · unfold makeDate lastTime
    have product' : (date.number : Int) * (dayLength : Int) = 86400000 * date.number :=
      Int.mul_comm _ _
    rw [if_pos (by omega)]
    apply congrArg some
    omega
  · have sum : epoch + (date.number * dayLength + timeOfDay - epoch) =
        timeOfDay + date.number * dayLength := by omega
    rw [utcDate, sum, Nat.add_mul_div_right _ _ (by decide), Nat.div_eq_of_lt inside, Nat.zero_add,
      dateOf_number proper]

theorem makeDay_first (year month : Nat) (day : Int) :
    makeDay year month day = (firstOf year month).number + day - 1 := rfl

theorem setUTCDate_day (proper : (Date.mk (utcDate time).year (utcDate time).month day).Proper)
    (short : (utcDate time).year < 10000) : ∃ other, setUTCDate time day = some other ∧
      utcDate other = ⟨(utcDate time).year, (utcDate time).month, day⟩ := by
  have month := proper.month
  have counted := proper.day
  have number := Date.number_first ⟨(utcDate time).year, (utcDate time).month, day⟩
  have first : firstOf (utcDate time).year ((utcDate time).month - 1) =
      ⟨(utcDate time).year, (utcDate time).month, 1⟩ := by
    unfold firstOf
    dsimp only at month
    congr 1
    · omega
    · omega
  have made : makeDay (utcDate time).year ((utcDate time).month - 1) day =
      (Date.mk (utcDate time).year (utcDate time).month day).number := by
    rw [makeDay_first, first, number]
    dsimp only at counted ⊢
    omega
  rw [setUTCDate, made]
  exact makeDate_number proper (utcDate_since time) short (Nat.mod_lt _ (by decide))

theorem setUTCDate_days (days : Nat) (proper : date.Proper) (short : date.year < 10000)
    (later : date.number = (utcDate time).number + days) :
    ∃ other, setUTCDate time ((utcDate time).day + days) = some other ∧ utcDate other = date := by
  have month := (utcDate_proper time).month
  have counted := (utcDate_proper time).day
  have number := Date.number_first (utcDate time)
  have first : firstOf (utcDate time).year ((utcDate time).month - 1) =
      ⟨(utcDate time).year, (utcDate time).month, 1⟩ := by
    unfold firstOf
    congr 1
    · omega
    · omega
  have made : makeDay (utcDate time).year ((utcDate time).month - 1) ((utcDate time).day + days) =
      date.number := by
    rw [makeDay_first, first]
    omega
  have since : 1970 ≤ date.year := by
    have shipped := utcDate_since time
    by_contra early
    have before := Date.number_lt proper (b := utcDate time) (Or.inl (by omega))
    omega
  rw [setUTCDate, made]
  exact makeDate_number proper since short (Nat.mod_lt _ (by decide))

theorem dateUTC_first (since : 1970 ≤ day) (month : Nat) (short : (firstOf day month).year < 10000) :
    ∃ target, dateUTC day month 1 = some target ∧ utcDate target = firstOf day month := by
  have made : makeDay (if day ≤ 99 then 1900 + day else day) month 1 = (firstOf day month).number := by
    rw [if_neg (by omega), makeDay_first]
    omega
  rw [dateUTC, made]
  refine makeDate_number (firstOf_proper day month) ?_ short (by decide)
  dsimp only [firstOf]
  omega

theorem lastDayOf_month (short : (utcDate time).year < 10000) :
    lastDayOf time = some (daysInMonth (utcDate time).year (utcDate time).month) := by
  have proper := utcDate_proper time
  have since := utcDate_since time
  have positive := daysInMonth_pos (utcDate time).year (utcDate time).month
  have next := @number_nextMonth (utcDate time).year _ proper.month
  have last : (Date.mk (utcDate time).year (utcDate time).month
      (daysInMonth (utcDate time).year (utcDate time).month)).Proper :=
    ⟨proper.month, positive, Nat.le_refl _⟩
  have number := Date.number_first (Date.mk (utcDate time).year (utcDate time).month
    (daysInMonth (utcDate time).year (utcDate time).month))
  have made : makeDay (if (utcDate time).year ≤ 99 then 1900 + (utcDate time).year
      else (utcDate time).year) (utcDate time).month 0 = (Date.mk (utcDate time).year
        (utcDate time).month (daysInMonth (utcDate time).year (utcDate time).month)).number := by
    rw [if_neg (by omega), makeDay_first, next, number]
    dsimp only
    omega
  obtain ⟨end_of, dated, same⟩ := makeDate_number last since short (by decide : 0 < dayLength)
  rw [lastDayOf, dateUTC, made, dated, Option.map_some, same]

/-! ## The planned date -/

/-- What was agreed. -/
inductive PaymentTerms
  | plusDays (days : Nat)
  | cutoff (cutoffDay paymentDay : Nat)

/-- A rule is admissible when it says integer days, or leaves them to the defaults. -/
def PaymentRule.Agrees (rule : PaymentRule) : PaymentTerms → Prop
  | .plusDays days =>
      rule.mode = .shipmentPlusDays ∧ rule.daysAfterShipment.toNumber = .finite days
  | .cutoff cutoffDay paymentDay =>
      rule.mode = .monthlyCutoff ∧ rule.cutoffDay.orElse (.finite 25) = .finite cutoffDay ∧
        rule.paymentDay.orElse (.finite 25) = .finite paymentDay ∧
        (1 ≤ cutoffDay ∧ cutoffDay ≤ 31) ∧ 1 ≤ paymentDay ∧ paymentDay ≤ 31

/-- The day that is planned for a shipment of a day. -/
def PlannedOn (terms : PaymentTerms) (shipped paid : Date) : Prop :=
  paid.Proper ∧ match terms with
    | .plusDays days => paid.number = shipped.number + days
    | .cutoff cutoffDay paymentDay =>
        paid.months = shipped.months + (if shipped.day ≤ cutoffDay then 1 else 2) ∧
          paid.day = min paymentDay (daysInMonth paid.year paid.month)

section Planned

variable {terms : PaymentTerms} {rule : PaymentRule} {shipped paid shipped' paid' : Date}
  {cutoffDay paymentDay days : Nat}

theorem plannedOn_exists (positive : ∀ cutoffDay paymentDay, terms = .cutoff cutoffDay paymentDay →
    1 ≤ paymentDay) : ∃ paid, PlannedOn terms shipped paid := by
  cases terms with
  | plusDays days => exact ⟨dateOf (shipped.number + days), dateOf_proper _, number_dateOf _⟩
  | cutoff cutoffDay paymentDay =>
      have least := positive cutoffDay paymentDay rfl
      have first := firstOf_proper 0 (shipped.months + (if shipped.day ≤ cutoffDay then 1 else 2))
      have months := months_firstOf 0 (shipped.months + (if shipped.day ≤ cutoffDay then 1 else 2))
      generalize firstOf 0 (shipped.months + (if shipped.day ≤ cutoffDay then 1 else 2)) = target
        at first months
      have long := daysInMonth_pos target.year target.month
      refine ⟨⟨target.year, target.month, min paymentDay (daysInMonth target.year target.month)⟩,
        ⟨first.month, ?_⟩, ?_, rfl⟩
      · dsimp only
        omega
      · unfold Date.months at months ⊢
        dsimp only
        omega

theorem plannedOn_unique (one : PlannedOn terms shipped paid) (other : PlannedOn terms shipped paid') :
    paid' = paid := by
  cases terms with
  | plusDays days => exact Date.number_inj other.1 one.1 (other.2.trans one.2.symm)
  | cutoff cutoffDay paymentDay =>
      have months : paid'.months = paid.months := other.2.1.trans one.2.1.symm
      obtain ⟨year, month⟩ := Date.sameMonth other.1 one.1 months
      apply Date.eq_of_months other.1 one.1 months
      rw [other.2.2, one.2.2, year, month]

theorem plannedOn_after (proper : shipped.Proper) (planned : PlannedOn terms shipped paid) :
    ¬ paid.Before shipped := by
  cases terms with
  | plusDays days =>
      intro before
      have less := Date.number_lt planned.1 before
      rw [planned.2] at less
      omega
  | cutoff cutoffDay paymentDay =>
      rw [Date.before_iff planned.1 proper, planned.2.1]
      by_cases early : shipped.day ≤ cutoffDay
      · rw [if_pos early]
        omega
      · rw [if_neg early]
        omega

/-- A later shipment is never paid earlier: in one month a later day is no nearer to the cut-off,
and the next month makes up for it. -/
theorem plannedOn_mono (proper : shipped.Proper) (proper' : shipped'.Proper)
    (later : ¬ shipped'.Before shipped) (planned : PlannedOn terms shipped paid)
    (planned' : PlannedOn terms shipped' paid') : ¬ paid'.Before paid := by
  cases terms with
  | plusDays days =>
      intro before
      have less := Date.number_lt planned'.1 before
      rw [planned.2, planned'.2] at less
      exact later ((Date.number_lt_iff proper' proper).mp (by omega))
  | cutoff cutoffDay paymentDay =>
      rw [Date.before_iff proper' proper] at later
      have months : paid.months ≤ paid'.months := by
        rw [planned.2.1, planned'.2.1]
        by_cases early : shipped.day ≤ cutoffDay
        · by_cases early' : shipped'.day ≤ cutoffDay
          · rw [if_pos early, if_pos early']
            omega
          · rw [if_pos early, if_neg early']
            omega
        · by_cases early' : shipped'.day ≤ cutoffDay
          · rw [if_neg early, if_pos early']
            omega
          · rw [if_neg early, if_neg early']
            omega
      rw [Date.before_iff planned'.1 planned.1]
      rintro (less | ⟨same, less⟩)
      · omega
      · -- the same month clamps the same day
        obtain ⟨year, month⟩ := Date.sameMonth planned'.1 planned.1 same
        rw [planned.2.2, planned'.2.2, year, month] at less
        omega

theorem integer_natCast (days : Nat) : (PaymentNumber.finite days).integer = some (days : Int) := by
  have den : ((days : ℚ)).den = 1 := Rat.den_natCast days
  have num : ((days : ℚ)).num = days := Rat.num_natCast days
  rw [PaymentNumber.integer, if_pos den, num]

theorem minimum_natCast (day last : Nat) :
    (PaymentNumber.finite day).minimum last = some ((min day last : Nat) : Int) := by
  have least : min (day : ℚ) ((last : Int) : ℚ) = ((min day last : Nat) : ℚ) := by
    push_cast
    rfl
  have floor : ⌊((min day last : Nat) : ℚ)⌋ = ((min day last : Nat) : Int) := Int.floor_natCast _
  simp only [PaymentNumber.minimum, least, if_pos (Nat.cast_nonneg _), floor]

variable {time : Nat}

theorem shipmentPlusDays_planned (given : rule.daysAfterShipment.toNumber = .finite days)
    (planned : PlannedOn (.plusDays days) (utcDate time) paid) (short : paid.year < 10000) :
    shipmentPlusDays time rule = .ok paid.text := by
  obtain ⟨other, made, dated⟩ := setUTCDate_days days planned.1 short planned.2
  have known : ¬ (days : Int) < 0 := by omega
  rw [shipmentPlusDays, given, integer_natCast]
  simp only [if_neg known, made]
  rw [isoDay_text (by rw [dated]; exact short), dated]

theorem targetMonth_planned (planned : PlannedOn (.cutoff cutoffDay paymentDay) (utcDate time) paid)
    (short : paid.year < 10000) : ∃ target, targetMonth time (.finite cutoffDay) = some target ∧
      utcDate target = ⟨paid.year, paid.month, 1⟩ := by
  have month := planned.1.month
  have shippedMonth := (utcDate_proper time).month
  have months := planned.2.1
  have early : (PaymentNumber.finite (cutoffDay : ℚ)).atLeast ((utcDate time).day : ℚ) =
      decide ((utcDate time).day ≤ cutoffDay) := by
    simp only [PaymentNumber.atLeast, Nat.cast_le]
  unfold targetMonth
  rw [early]
  simp only [decide_eq_true_eq]
  generalize (if (utcDate time).day ≤ cutoffDay then 1 else 2) = offset at months ⊢
  have first : firstOf (utcDate time).year ((utcDate time).month - 1 + offset) =
      ⟨paid.year, paid.month, 1⟩ := by
    unfold Date.months at months
    unfold firstOf
    congr 1
    · omega
    · omega
  rw [← first]
  apply dateUTC_first (utcDate_since time)
  rw [first]
  exact short

theorem monthlyCutoff_planned (agreed : rule.Agrees (.cutoff cutoffDay paymentDay))
    (planned : PlannedOn (.cutoff cutoffDay paymentDay) (utcDate time) paid)
    (short : paid.year < 10000) : monthlyCutoff time rule = .ok paid.text := by
  obtain ⟨-, cutoff, payment, ⟨leastCutoff, mostCutoff⟩, leastPayment, mostPayment⟩ := agreed
  obtain ⟨target, found, first⟩ := targetMonth_planned planned short
  have shortTarget : (utcDate target).year < 10000 := by
    rw [first]
    exact short
  have last := lastDayOf_month shortTarget
  rw [first] at last
  dsimp only at last
  have day := planned.2.2
  have dated : Date.mk (utcDate target).year (utcDate target).month paid.day = paid := by
    rw [first]
  have inMonth : (Date.mk (utcDate target).year (utcDate target).month paid.day).Proper := by
    rw [dated]
    exact planned.1
  obtain ⟨other, made, same⟩ := setUTCDate_day inMonth shortTarget
  rw [dated] at same
  have admitted : ((PaymentNumber.finite cutoffDay).below 1 || (PaymentNumber.finite cutoffDay).above 31 ||
      (PaymentNumber.finite paymentDay).below 1 || (PaymentNumber.finite paymentDay).above 31) = false := by
    simp only [PaymentNumber.below, PaymentNumber.above, Bool.or_eq_false_iff, decide_eq_false_iff_not,
      not_lt]
    refine ⟨⟨⟨?_, ?_⟩, ?_⟩, ?_⟩
    · exact_mod_cast leastCutoff
    · exact_mod_cast mostCutoff
    · exact_mod_cast leastPayment
    · exact_mod_cast mostPayment
  unfold monthlyCutoff
  simp only [cutoff, payment, admitted, found, last, minimum_natCast, Option.bind_eq_bind,
    Option.bind_some, ← day, made]
  rw [if_neg Bool.false_ne_true, isoDay_text (by rw [same]; exact short), same]

/-- The planned date of an admissible rule is one day of the calendar: it is given back, it is
not before the shipment, and a later shipment has no earlier one. -/
theorem calculatePlannedPaymentDate_planned {newDate : String → Option Nat} {shippedAt : String}
    (agreed : rule.Agrees terms) (read : newDate shippedAt = some time) :
    ∃ paid, PlannedOn terms (utcDate time) paid ∧
      (∀ other, PlannedOn terms (utcDate time) other → other = paid) ∧
      ¬ paid.Before (utcDate time) ∧
      (paid.year < 10000 → calculatePlannedPaymentDate newDate shippedAt rule = .ok paid.text ∧
        parse paid.text = some paid) ∧
      ∀ shippedAt' time' paid', newDate shippedAt' = some time' → time ≤ time' →
        PlannedOn terms (utcDate time') paid' → ¬ paid'.Before paid ∧
          (paid'.year < 10000 →
            calculatePlannedPaymentDate newDate shippedAt' rule = .ok paid'.text ∧
              paid.text ≤ paid'.text) := by
  have returned : ∀ {shippedAt : String} {time : Nat} {paid : Date}, newDate shippedAt = some time →
      PlannedOn terms (utcDate time) paid → paid.year < 10000 →
        calculatePlannedPaymentDate newDate shippedAt rule = .ok paid.text := by
    intro shippedAt time paid read planned short
    unfold calculatePlannedPaymentDate
    rw [read]
    cases terms with
    | plusDays days =>
        simp only [agreed.1]
        exact shipmentPlusDays_planned agreed.2 planned short
    | cutoff cutoffDay paymentDay =>
        simp only [agreed.1]
        exact monthlyCutoff_planned agreed planned short
  have positive : ∀ cutoffDay paymentDay, terms = .cutoff cutoffDay paymentDay → 1 ≤ paymentDay := by
    rintro cutoffDay paymentDay rfl
    exact agreed.2.2.2.2.1
  obtain ⟨paid, planned⟩ := @plannedOn_exists terms (utcDate time) positive
  refine ⟨paid, planned, fun other => plannedOn_unique planned,
    plannedOn_after (utcDate_proper time) planned, ?_, ?_⟩
  · intro short
    exact ⟨returned read planned short, parse_eq_some_iff.mpr ⟨planned.1.valid short, rfl⟩⟩
  · intro shippedAt' time' paid' read' later planned'
    have order : ¬ (utcDate time').Before (utcDate time) := by
      unfold utcDate
      rw [dateOf_before]
      exact Nat.not_lt.mpr (Nat.div_le_div_right (Nat.add_le_add_left later epoch))
    have mono := plannedOn_mono (utcDate_proper time) (utcDate_proper time') order planned planned'
    refine ⟨mono, fun short' => ⟨returned read' planned' short', ?_⟩⟩
    have short : paid.year < 10000 := by
      have month := planned.1.month
      unfold Date.Before at mono
      omega
    rw [← String.not_lt, Date.text_lt (planned'.1.valid short') (planned.1.valid short)]
    exact mono

/-- A monthly rule that leaves both days to the defaults. -/
def defaultRule : PaymentRule := ⟨.monthlyCutoff, .null, .undefined, .null⟩

theorem defaultRule_agrees : defaultRule.Agrees (.cutoff 25 25) := by
  exact ⟨rfl, rfl, rfl, by decide, by decide⟩

/-- 26 January 2024, after the cut-off day. -/
def januaryShipment (_ : String) : Option Nat := some 1706227200000

theorem calculatePlannedPaymentDate_planned_january :
    ∃ paid, PlannedOn (.cutoff 25 25) (utcDate 1706227200000) paid ∧
      (∀ other, PlannedOn (.cutoff 25 25) (utcDate 1706227200000) other → other = paid) ∧
      ¬ paid.Before (utcDate 1706227200000) ∧
      (paid.year < 10000 →
        calculatePlannedPaymentDate januaryShipment "2024-01-26T00:00:00Z" defaultRule =
            .ok paid.text ∧ parse paid.text = some paid) ∧
      ∀ shippedAt' time' paid', januaryShipment shippedAt' = some time' →
        1706227200000 ≤ time' → PlannedOn (.cutoff 25 25) (utcDate time') paid' →
          ¬ paid'.Before paid ∧ (paid'.year < 10000 →
            calculatePlannedPaymentDate januaryShipment shippedAt' defaultRule = .ok paid'.text ∧
              paid.text ≤ paid'.text) :=
  calculatePlannedPaymentDate_planned defaultRule_agrees rfl

end Planned

end SupplyChain.PlannedPayments
