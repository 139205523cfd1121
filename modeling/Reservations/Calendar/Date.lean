namespace Reservations.Calendar

/-! ## Dates of the proleptic Gregorian calendar -/

/-- A year is a leap year when four divides it, save for the centuries that 400
does not divide. -/
def isLeapYear (year : Int) : Bool :=
  year % 4 = 0 && (year % 100 ≠ 0 || year % 400 = 0)

/-- How many days a month has. -/
def daysInMonth (year : Int) (month : Nat) : Nat :=
  match month with
  | 2 => if isLeapYear year then 29 else 28
  | 4 | 6 | 9 | 11 => 30
  | _ => 31

/-- The first year that dates reach back to. -/
def firstYear : Int := -262143

/-- The last year that dates reach up to. -/
def lastYear : Int := 262142

/-- A day of the calendar, in the years that dates cover. -/
structure Date where
  year : Int
  month : Nat
  day : Nat
  year_ge : firstYear ≤ year
  year_le : year ≤ lastYear
  month_pos : 1 ≤ month
  month_le : month ≤ 12
  day_pos : 1 ≤ day
  day_le : day ≤ daysInMonth year month
  deriving DecidableEq, Repr

namespace Date

/-- The date with the given year, month and day, when there is one. -/
def of? (year : Int) (month day : Nat) : Option Date :=
  if h : firstYear ≤ year ∧ year ≤ lastYear ∧ 1 ≤ month ∧ month ≤ 12 ∧
      1 ≤ day ∧ day ≤ daysInMonth year month then
    some {
      year := year
      month := month
      day := day
      year_ge := h.1
      year_le := h.2.1
      month_pos := h.2.2.1
      month_le := h.2.2.2.1
      day_pos := h.2.2.2.2.1
      day_le := h.2.2.2.2.2 }
  else none

end Date

/-- How many days lie between the first days of year 0 and of another year. -/
def daysBeforeYear (year : Int) : Int :=
  365 * year + (year + 3) / 4 - (year + 99) / 100 + (year + 399) / 400

/-- How many days of a year lie before the first of a month. -/
def daysBeforeMonth (year : Int) (month : Nat) : Nat :=
  (List.range' 1 (month - 1)).foldl
    (fun total earlier => total + daysInMonth year earlier) 0

/-- How many days lie between the first day of year 0 and the Unix epoch. -/
def epochDay : Int := 719528

namespace Date

/-- How many days lie between the Unix epoch and a date. -/
def dayNumber (date : Date) : Int :=
  daysBeforeYear date.year + daysBeforeMonth date.year date.month
    + (date.day - 1) - epochDay

end Date

/-- A date and a time of day. The nanoseconds of a leap second run from
1,000,000,000 up to 1,999,999,999, over the last second of the minute. -/
structure DateTime where
  date : Date
  hour : Nat
  minute : Nat
  second : Nat
  nano : Nat
  hour_lt : hour < 24
  minute_lt : minute < 60
  second_lt : second < 60
  nano_lt : nano < 2000000000
  deriving DecidableEq, Repr

namespace DateTime

/-- The date-time with the given time of day, when there is one. Second 60 is
the last second of the minute with a full second more. -/
def of? (date : Date) (hour minute second nano : Nat) : Option DateTime :=
  let leap := second = 60
  let shown := if leap then 59 else second
  let frac := if leap then nano + 1000000000 else nano
  if h : hour < 24 ∧ minute < 60 ∧ shown < 60 ∧ frac < 2000000000 then
    some {
      date := date
      hour := hour
      minute := minute
      second := shown
      nano := frac
      hour_lt := h.1
      minute_lt := h.2.1
      second_lt := h.2.2.1
      nano_lt := h.2.2.2 }
  else none

/-- The seconds between the Unix epoch and a date-time read as UTC, without its
nanoseconds. -/
def epochSecond (moment : DateTime) : Int :=
  moment.date.dayNumber * 86400 + moment.hour * 3600 + moment.minute * 60
    + moment.second

/-- The milliseconds between the Unix epoch and a date-time read as UTC,
rounded down. -/
def epochMilli (moment : DateTime) : Int :=
  moment.epochSecond * 1000 + moment.nano / 1000000

end DateTime

end Reservations.Calendar
