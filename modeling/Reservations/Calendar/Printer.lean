import Reservations.Calendar.Date

namespace Reservations.Calendar

/-! ## Writing date-times -/

/-- A number with leading zeros up to a width. -/
def padded (width value : Nat) : List Char :=
  let digits := (Nat.repr value).toList
  List.replicate (width - digits.length) '0' ++ digits

/-- Years from 0 to 9999 have four digits; others a sign and at least four. -/
def yearText (year : Int) : List Char :=
  if 0 ≤ year ∧ year ≤ 9999 then padded 4 year.toNat
  else (if year < 0 then '-' else '+') :: padded 4 year.natAbs

/-- The shortest of no, three, six or nine digits that a fraction of a second
needs. -/
def fractionText (nano : Nat) : List Char :=
  if nano = 0 then []
  else if nano % 1000000 = 0 then '.' :: padded 3 (nano / 1000000)
  else if nano % 1000 = 0 then '.' :: padded 6 (nano / 1000)
  else '.' :: padded 9 nano

namespace DateTime

/-- The text of a date-time, with a space between date and time. A leap second
is written as second 60. -/
def toText (moment : DateTime) : String :=
  let leap := 1000000000 ≤ moment.nano
  let second := if leap then moment.second + 1 else moment.second
  let nano := if leap then moment.nano - 1000000000 else moment.nano
  String.ofList <|
    yearText moment.date.year ++ '-' :: padded 2 moment.date.month
      ++ '-' :: padded 2 moment.date.day
      ++ ' ' :: padded 2 moment.hour ++ ':' :: padded 2 moment.minute
      ++ ':' :: padded 2 second ++ fractionText nano

end DateTime

end Reservations.Calendar
