import Reservations.Calendar.Offset
import Reservations.Instant

namespace Reservations.Calendar

/-! ## Timestamps

An instant is written in milliseconds, as a date-time with an offset, or as a
date-time in UTC, with `T` or a space between date and time, with or without
seconds. -/

/-- The patterns of date-times in UTC, in the order they are tried. -/
def utcPatterns : List (List Piece) :=
  [datePieces ++ .literal 'T' :: secondPieces,
    datePieces ++ .blanks :: secondPieces,
    datePieces ++ .literal 'T' :: minutePieces,
    datePieces ++ .blanks :: minutePieces]

/-- The instant that a text without blank ends denotes. -/
def instantOf? (cs : List Char) : Option Instant :=
  (Text.readInt64 cs).toOption
    <|> (parseWithOffset? cs).map Int64.ofInt
    <|> (utcPatterns.findSome? (parse? · cs)).map
      fun moment => Int64.ofInt moment.epochMilli

/-- The instant that a text denotes, with blank characters around it removed;
or else that shorter text. -/
def readInstant (text : String) : Except String Instant :=
  let cs := Text.trim text.toList
  match instantOf? cs with
  | some instant => .ok instant
  | none => .error (String.ofList cs)

end Reservations.Calendar
