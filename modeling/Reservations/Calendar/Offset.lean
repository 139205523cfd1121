import Reservations.Calendar.Pattern

namespace Reservations.Calendar

/-! ## Date-times with an offset from UTC

The internet profile of ISO 8601: every number has a fixed count of digits, and
the offset is required. -/

/-- Reads one given character. -/
def readChar (c : Char) : List Char → Option (List Char)
  | first :: rest => if first = c then some rest else none
  | [] => none

/-- Reads an offset from UTC in seconds: `Z` in either case, or a sign, hours
and minutes. The minus sign may be U+2212. -/
def readOffset (cs : List Char) : Option (Int × List Char) :=
  match cs with
  | 'Z' :: rest => some (0, rest)
  | 'z' :: rest => some (0, rest)
  | sign :: rest => do
      let negative ←
        if sign = '+' then some false
        else if sign = '-' ∨ sign = '−' then some true
        else none
      let (hours, rest) ← readExactly 2 rest
      let rest ← readChar ':' rest
      let (minutes, rest) ← readExactly 2 rest
      guard (minutes < 60)
      guard (hours < 24)
      let seconds : Int := hours * 3600 + minutes * 60
      some (if negative then -seconds else seconds, rest)
  | [] => none

/-- The milliseconds since the Unix epoch that a whole text with an offset
denotes. -/
def parseWithOffset? (cs : List Char) : Option Int := do
  let (year, cs) ← readExactly 4 cs
  let cs ← readChar '-' cs
  let (month, cs) ← readExactly 2 cs
  let cs ← readChar '-' cs
  let (day, cs) ← readExactly 2 cs
  let cs ←
    match cs with
    | 'T' :: rest | 't' :: rest | ' ' :: rest => some rest
    | _ => none
  let (hour, cs) ← readExactly 2 cs
  let cs ← readChar ':' cs
  let (minute, cs) ← readExactly 2 cs
  let cs ← readChar ':' cs
  let (second, cs) ← readExactly 2 cs
  let (nano, cs) ←
    match cs with
    | '.' :: rest => readFraction rest
    | _ => some (0, cs)
  let (offset, cs) ← readOffset cs
  guard cs.isEmpty
  let fields : Fields := ⟨year, month, day, hour, minute, second, nano⟩
  let moment ← fields.dateTime?
  some (moment.epochMilli - offset * 1000)

end Reservations.Calendar
