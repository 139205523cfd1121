import Mathlib.Data.Nat.Find
import Reservations.Calendar.Pattern

namespace Reservations.Calendar

/-! ## From numbers back to dates

Days are counted from the first day of year 0 here. -/

/-! ### Years -/

/-- The year that a day lies in. As 400 years have 146097 days, the guess is at most one
year off. -/
def yearOf (day : Int) : Int :=
  let guess := day * 400 / 146097
  if day < daysBeforeYear guess then guess - 1
  else if daysBeforeYear (guess + 1) ≤ day then guess + 1
  else guess

theorem daysBeforeYear_bounds (year : Int) :
    146097 * year - 396 ≤ 400 * daysBeforeYear year ∧
      400 * daysBeforeYear year ≤ 146097 * year + 699 := by
  unfold daysBeforeYear
  omega

theorem yearOf_bounds (day : Int) :
    daysBeforeYear (yearOf day) ≤ day ∧ day < daysBeforeYear (yearOf day + 1) := by
  have before := daysBeforeYear_bounds (day * 400 / 146097 - 1)
  have behind := daysBeforeYear_bounds (day * 400 / 146097 + 1 + 1)
  unfold yearOf
  dsimp only
  split
  case isTrue early =>
    rw [Int.sub_add_cancel]
    omega
  case isFalse notEarly =>
    split
    case isTrue late => omega
    case isFalse notLate => omega

theorem daysBeforeYear_mono {left right : Int} (le : left ≤ right) :
    daysBeforeYear left ≤ daysBeforeYear right := by
  unfold daysBeforeYear
  omega

theorem le_yearOf_iff (year day : Int) : year ≤ yearOf day ↔ daysBeforeYear year ≤ day := by
  obtain ⟨before, behind⟩ := yearOf_bounds day
  constructor
  · intro le
    exact Int.le_trans (daysBeforeYear_mono le) before
  · intro le
    refine Int.not_lt.mp fun earlier => ?_
    have next : daysBeforeYear (yearOf day + 1) ≤ daysBeforeYear year :=
      daysBeforeYear_mono (Int.add_one_le_iff.mpr earlier)
    omega

/-- No other year holds the day. -/
theorem yearOf_eq {year day : Int} (before : daysBeforeYear year ≤ day)
    (behind : day < daysBeforeYear (year + 1)) : yearOf day = year := by
  have least := (le_yearOf_iff year day).mpr before
  have most : ¬ year + 1 ≤ yearOf day := fun le => by
    have late := (le_yearOf_iff (year + 1) day).mp le
    omega
  omega

/-! ### Months -/

theorem daysBeforeMonth_succ (year : Int) {month : Nat} (positive : 1 ≤ month) :
    daysBeforeMonth year (month + 1) = daysBeforeMonth year month + daysInMonth year month := by
  obtain ⟨earlier, rfl⟩ := Nat.exists_eq_add_of_le' positive
  rw [daysBeforeMonth, daysBeforeMonth, Nat.add_sub_cancel, Nat.add_sub_cancel,
    List.range'_1_concat, List.foldl_append, Nat.add_comm 1 earlier]
  rfl

theorem isLeapYear_iff (year : Int) :
    isLeapYear year = true ↔ year % 4 = 0 ∧ (year % 100 ≠ 0 ∨ year % 400 = 0) := by
  simp [isLeapYear]

/-- The twelve months make up the year. -/
theorem daysBeforeMonth_thirteen (year : Int) :
    daysBeforeYear year + daysBeforeMonth year 13 = daysBeforeYear (year + 1) := by
  have months : daysBeforeMonth year 13 = 337 + daysInMonth year 2 := by
    simp [daysBeforeMonth, List.range', daysInMonth]
    omega
  have february : daysInMonth year 2 = if isLeapYear year then 29 else 28 := rfl
  have leap := isLeapYear_iff year
  rw [months, february]
  unfold daysBeforeYear
  split
  case isTrue longer =>
    rw [leap] at longer
    omega
  case isFalse shorter =>
    rw [leap] at shorter
    omega

/-- The month that a day of a year lies in. The days of a year are counted from 0. -/
def monthOf (year : Int) (dayOfYear : Nat) : Nat :=
  Nat.findGreatest (fun month => daysBeforeMonth year month ≤ dayOfYear) 12

section Month

variable (year : Int) (dayOfYear : Nat)

theorem monthOf_le : monthOf year dayOfYear ≤ 12 :=
  Nat.findGreatest_le 12

theorem monthOf_pos : 1 ≤ monthOf year dayOfYear :=
  Nat.le_findGreatest (by decide) (Nat.zero_le dayOfYear)

theorem daysBeforeMonth_monthOf_le : daysBeforeMonth year (monthOf year dayOfYear) ≤ dayOfYear :=
  Nat.findGreatest_spec (P := fun month => daysBeforeMonth year month ≤ dayOfYear)
    (Nat.zero_le 12) (Nat.zero_le dayOfYear)

variable {year dayOfYear}

theorem lt_daysBeforeMonth_monthOf_succ (within : dayOfYear < daysBeforeMonth year 13) :
    dayOfYear < daysBeforeMonth year (monthOf year dayOfYear + 1) := by
  rcases Nat.lt_or_eq_of_le (monthOf_le year dayOfYear) with earlier | last
  · exact Nat.not_le.mp
      (Nat.findGreatest_is_greatest (P := fun month => daysBeforeMonth year month ≤ dayOfYear)
        (Nat.lt_succ_self _) earlier)
  · rwa [last]

theorem daysBeforeMonth_mono
    (year : Int) {earlier later : Nat} (positive : 1 ≤ earlier) (le : earlier ≤ later) :
    daysBeforeMonth year earlier ≤ daysBeforeMonth year later := by
  induction later, le using Nat.le_induction with
  | base => exact Nat.le_refl _
  | succ later le inductionHypothesis =>
      rw [daysBeforeMonth_succ year (Nat.le_trans positive le)]
      exact Nat.le_trans inductionHypothesis (Nat.le_add_right _ _)

/-- No other month of the year holds the day. -/
theorem monthOf_eq {month : Nat} (inYear : month ≤ 12)
    (before : daysBeforeMonth year month ≤ dayOfYear)
    (behind : dayOfYear < daysBeforeMonth year (month + 1)) : monthOf year dayOfYear = month := by
  have least : month ≤ monthOf year dayOfYear := Nat.le_findGreatest inYear before
  have most : ¬ month + 1 ≤ monthOf year dayOfYear := fun le => by
    have late := daysBeforeMonth_mono year (Nat.le_add_left 1 month) le
    have own := daysBeforeMonth_monthOf_le year dayOfYear
    omega
  omega

end Month

/-! ### Dates -/

section Date

variable (day : Int)

/-- How many days of its year lie before a day. -/
def dayOfYear : Nat :=
  (day - daysBeforeYear (yearOf day)).toNat

/-- The month that a day lies in. -/
def monthOfDay : Nat :=
  monthOf (yearOf day) (dayOfYear day)

/-- The place of a day in its month, counted from 1. -/
def dayOfMonth : Nat :=
  dayOfYear day - daysBeforeMonth (yearOf day) (monthOfDay day) + 1

theorem daysBeforeYear_add_dayOfYear : daysBeforeYear (yearOf day) + dayOfYear day = day := by
  have bounds := yearOf_bounds day
  unfold dayOfYear
  omega

theorem dayOfYear_lt : dayOfYear day < daysBeforeMonth (yearOf day) 13 := by
  have bounds := yearOf_bounds day
  have whole := daysBeforeMonth_thirteen (yearOf day)
  have placed := daysBeforeYear_add_dayOfYear day
  omega

theorem dayOfMonth_le : dayOfMonth day ≤ daysInMonth (yearOf day) (monthOfDay day) := by
  have before := daysBeforeMonth_monthOf_le (yearOf day) (dayOfYear day)
  have behind := lt_daysBeforeMonth_monthOf_succ (dayOfYear_lt day)
  rw [daysBeforeMonth_succ _ (monthOf_pos _ _)] at behind
  unfold dayOfMonth monthOfDay
  omega

theorem daysBeforeMonth_add_dayOfMonth :
    daysBeforeMonth (yearOf day) (monthOfDay day) + (dayOfMonth day - 1) = dayOfYear day := by
  have before := daysBeforeMonth_monthOf_le (yearOf day) (dayOfYear day)
  unfold dayOfMonth monthOfDay
  omega

/-- The date of a day has the number of the day. -/
theorem exists_date_of_day (first : firstYear ≤ yearOf day) (last : yearOf day ≤ lastYear) :
    ∃ date, Date.of? (yearOf day) (monthOfDay day) (dayOfMonth day) = some date ∧
      date.dayNumber = day - epochDay := by
  have valid : firstYear ≤ yearOf day ∧ yearOf day ≤ lastYear ∧ 1 ≤ monthOfDay day ∧
      monthOfDay day ≤ 12 ∧ 1 ≤ dayOfMonth day ∧
      dayOfMonth day ≤ daysInMonth (yearOf day) (monthOfDay day) :=
    ⟨first, last, monthOf_pos _ _, monthOf_le _ _, Nat.le_add_left _ _, dayOfMonth_le day⟩
  refine ⟨_, dif_pos valid, ?_⟩
  have year := daysBeforeYear_add_dayOfYear day
  have month := daysBeforeMonth_add_dayOfMonth day
  have positive : 1 ≤ dayOfMonth day := Nat.le_add_left _ _
  dsimp only [Date.dayNumber]
  omega

end Date

namespace Date

variable (date : Date)

theorem lt_daysBeforeMonth_succ :
    daysBeforeMonth date.year date.month + (date.day - 1) <
      daysBeforeMonth date.year (date.month + 1) := by
  have positive := date.day_pos
  have inMonth := date.day_le
  rw [daysBeforeMonth_succ _ date.month_pos]
  omega

theorem dayNumber_add_epochDay :
    date.dayNumber + epochDay =
      daysBeforeYear date.year + (daysBeforeMonth date.year date.month + (date.day - 1) : Nat) := by
  have positive := date.day_pos
  unfold dayNumber
  omega

theorem yearOf_dayNumber : yearOf (date.dayNumber + epochDay) = date.year := by
  have number := date.dayNumber_add_epochDay
  have inMonth := date.lt_daysBeforeMonth_succ
  have inYear : daysBeforeMonth date.year (date.month + 1) ≤ daysBeforeMonth date.year 13 :=
    daysBeforeMonth_mono _ (Nat.le_add_left 1 _) (Nat.succ_le_succ date.month_le)
  have whole := daysBeforeMonth_thirteen date.year
  exact yearOf_eq (by omega) (by omega)

theorem dayOfYear_dayNumber :
    Calendar.dayOfYear (date.dayNumber + epochDay) =
      daysBeforeMonth date.year date.month + (date.day - 1) := by
  have number := date.dayNumber_add_epochDay
  rw [Calendar.dayOfYear, yearOf_dayNumber]
  omega

theorem monthOfDay_dayNumber : monthOfDay (date.dayNumber + epochDay) = date.month := by
  rw [monthOfDay, yearOf_dayNumber, dayOfYear_dayNumber]
  exact monthOf_eq date.month_le (Nat.le_add_right _ _) date.lt_daysBeforeMonth_succ

theorem dayOfMonth_dayNumber : dayOfMonth (date.dayNumber + epochDay) = date.day := by
  have positive := date.day_pos
  rw [dayOfMonth, yearOf_dayNumber, monthOfDay_dayNumber, dayOfYear_dayNumber]
  omega

end Date

/-! ## From milliseconds back to date-times -/

/-- The date and time of day of a number of milliseconds since the Unix epoch. -/
def Fields.ofMilli (milli : Int) : Fields :=
  let day := milli / 86400000 + epochDay
  let rest := (milli % 86400000).toNat
  { year := yearOf day
    month := monthOfDay day
    day := dayOfMonth day
    hour := rest / 3600000
    minute := rest / 60000 % 60
    second := rest / 1000 % 60
    nano := rest % 1000 * 1000000 }

theorem DateTime.of?_of_lt {hour minute second nano : Nat} (date : Date)
    (hours : hour < 24) (minutes : minute < 60) (seconds : second < 60)
    (nanos : nano < 1000000000) :
    DateTime.of? date hour minute second nano =
      some ⟨date, hour, minute, second, nano, hours, minutes, seconds, by omega⟩ := by
  have noLeap : ¬ second = 60 := by omega
  have small : nano < 2000000000 := by omega
  simp only [DateTime.of?, noLeap, if_false, hours, minutes, seconds, small, and_self, dite_true]

/-- The fields of a number of milliseconds denote a date-time of as many milliseconds. -/
theorem Fields.exists_dateTime_ofMilli {milli : Int}
    (first : firstYear ≤ (ofMilli milli).year) (last : (ofMilli milli).year ≤ lastYear) :
    ∃ moment, (ofMilli milli).dateTime? = some moment ∧ moment.epochMilli = milli := by
  obtain ⟨date, found, number⟩ := exists_date_of_day (milli / 86400000 + epochDay) first last
  have below : milli % 86400000 < 86400000 := Int.emod_lt_of_pos _ (by decide)
  have least : 0 ≤ milli % 86400000 := Int.emod_nonneg _ (by decide)
  have whole : 86400000 * (milli / 86400000) + milli % 86400000 = milli :=
    Int.mul_ediv_add_emod milli 86400000
  obtain ⟨rest, taken⟩ := Int.eq_ofNat_of_zero_le least
  have denoted : (ofMilli milli).dateTime? =
      DateTime.of? date (rest / 3600000) (rest / 60000 % 60) (rest / 1000 % 60)
        (rest % 1000 * 1000000) := by
    simp only [dateTime?, ofMilli, taken, Int.toNat_natCast, found, Option.bind_eq_bind,
      Option.bind_some]
  rw [denoted, DateTime.of?_of_lt date (by omega) (by omega) (by omega) (by omega)]
  refine ⟨_, rfl, ?_⟩
  dsimp only [DateTime.epochMilli, DateTime.epochSecond]
  omega

/-- No other fields denote a date-time of as many milliseconds, unless they hold a leap second
or a part of a millisecond. -/
theorem Fields.ofMilli_epochMilli (moment : DateTime) (noLeap : moment.nano < 1000000000)
    (whole : moment.nano % 1000000 = 0) :
    ofMilli moment.epochMilli =
      ⟨moment.date.year, moment.date.month, moment.date.day, moment.hour, moment.minute,
        moment.second, moment.nano⟩ := by
  have hour := moment.hour_lt
  have minute := moment.minute_lt
  have second := moment.second_lt
  have day : moment.epochMilli / 86400000 = moment.date.dayNumber := by
    unfold DateTime.epochMilli DateTime.epochSecond
    omega
  have rest : (moment.epochMilli % 86400000).toNat =
      moment.hour * 3600000 + moment.minute * 60000 + moment.second * 1000 +
        moment.nano / 1000000 := by
    unfold DateTime.epochMilli DateTime.epochSecond
    omega
  rw [ofMilli, day, rest, moment.date.yearOf_dayNumber, moment.date.monthOfDay_dayNumber,
    moment.date.dayOfMonth_dayNumber, Fields.mk.injEq]
  refine ⟨rfl, rfl, rfl, ?_, ?_, ?_, ?_⟩
  · omega
  · omega
  · omega
  · omega

end Reservations.Calendar
