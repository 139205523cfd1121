import Reservations.Instant

namespace Reservations.Limits

/-! ## Limits -/

/-- The earliest instant that a reservation may start at: the year 2000. -/
def earliest : Instant := 946684800000

/-- The latest instant that a reservation may stop at: the year 2100. -/
def latest : Instant := 4102444800000

/-- The longest a reservation may last: 31 days. -/
def longest : Int64 := 2678400000

/-- How many bytes the name of a customer may have. -/
def nameBytes : Nat := 256

/-- How many bytes the address of a customer may have. -/
def emailBytes : Nat := 320

/-- How many reservations one resource may hold. -/
def bookSize : Nat := 100000

/-- How many unavailable periods a catalog answer may list. -/
def periods : Nat := 10000

/-- How many bytes the body of a catalog answer may have. -/
def bodyBytes : Nat := 1048576

/-- How many bytes the payload of a log frame may have when it is read. -/
def payloadBytes : Nat := 16777216

end Reservations.Limits
