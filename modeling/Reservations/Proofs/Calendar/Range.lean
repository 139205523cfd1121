import Reservations.Calendar.Date

namespace Reservations.Calendar

/-! ## The range of date-times

The years that dates cover are few enough for every date-time to be a number of
milliseconds in 64 bits. -/

theorem daysInMonth_le (year : Int) (month : Nat) : daysInMonth year month ≤ 31 := by
  unfold daysInMonth
  split
  · split
    · decide
    · decide
  · decide
  · decide
  · decide
  · decide
  · decide

theorem foldl_daysInMonth_le (year : Int) (months : List Nat) (total : Nat) :
    months.foldl (fun total earlier => total + daysInMonth year earlier) total ≤
      total + 31 * months.length := by
  induction months generalizing total with
  | nil => simp
  | cons month months inductionHypothesis =>
      have rest := inductionHypothesis (total + daysInMonth year month)
      have days := daysInMonth_le year month
      rw [List.foldl_cons, List.length_cons]
      omega

theorem daysBeforeMonth_le (year : Int) {month : Nat} (inYear : month ≤ 12) :
    daysBeforeMonth year month ≤ 341 := by
  have sum := foldl_daysInMonth_le year (List.range' 1 (month - 1)) 0
  rw [List.length_range'] at sum
  rw [daysBeforeMonth]
  omega

theorem Date.dayNumber_bounds (date : Date) :
    -97000000 ≤ date.dayNumber ∧ date.dayNumber ≤ 97000000 := by
  have first := date.year_ge
  have last := date.year_le
  have months := daysBeforeMonth_le date.year date.month_le
  have days := Nat.le_trans date.day_le (daysInMonth_le date.year date.month)
  have positive := date.day_pos
  unfold firstYear at first
  unfold lastYear at last
  unfold dayNumber daysBeforeYear epochDay
  omega

theorem DateTime.epochMilli_bounds (moment : DateTime) :
    -9000000000000000 ≤ moment.epochMilli ∧ moment.epochMilli ≤ 9000000000000000 := by
  have day := moment.date.dayNumber_bounds
  have hour := moment.hour_lt
  have minute := moment.minute_lt
  have second := moment.second_lt
  have nano := moment.nano_lt
  unfold epochMilli epochSecond
  omega

/-- Nothing is lost when a date-time becomes a number of 64 bits. -/
theorem DateTime.toInt_ofInt_epochMilli (moment : DateTime) :
    (Int64.ofInt moment.epochMilli).toInt = moment.epochMilli := by
  have bounds := moment.epochMilli_bounds
  apply Int64.toInt_ofInt_of_le
  · omega
  · omega

end Reservations.Calendar
