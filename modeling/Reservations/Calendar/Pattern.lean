import Reservations.Calendar.Date
import Reservations.Text.Blank
import Reservations.Text.Integer

namespace Reservations.Calendar

/-! ## Patterns of date-times

A pattern lists what a text holds from left to right. Blank characters are
skipped before every number. -/

/-- One piece of a pattern. -/
inductive Piece where
  | year
  | month
  | day
  | hour
  | minute
  | second
  /-- A point and at least one digit, or nothing. -/
  | fraction
  /-- Any run of blank characters, also none. -/
  | blanks
  | literal (c : Char)
  deriving DecidableEq, Repr

/-- What has been read so far. -/
structure Fields where
  year : Int := 0
  month : Nat := 0
  day : Nat := 0
  hour : Nat := 0
  minute : Nat := 0
  second : Nat := 0
  nano : Nat := 0
  deriving DecidableEq, Repr, Inhabited

namespace Fields

/-- The date-time that complete fields denote. -/
def dateTime? (fields : Fields) : Option DateTime := do
  let date ← Date.of? fields.year fields.month fields.day
  DateTime.of? date fields.hour fields.minute fields.second fields.nano

end Fields

/-- Reads from one up to `most` digits. -/
def readDigits (most : Nat) (cs : List Char) : Option (Nat × List Char) :=
  let digits := (cs.take most).takeWhile Text.isDigit
  if digits.isEmpty then none
  else some (Text.decimal digits, cs.drop digits.length)

/-- Reads exactly `count` digits. -/
def readExactly (count : Nat) (cs : List Char) : Option (Nat × List Char) :=
  let digits := cs.take count
  if digits.length = count ∧ digits.all Text.isDigit then
    some (Text.decimal digits, cs.drop count)
  else none

/-- Reads the digits after a decimal point as nanoseconds. Digits beyond the
ninth are skipped. -/
def readFraction (cs : List Char) : Option (Nat × List Char) :=
  let digits := (cs.take 9).takeWhile Text.isDigit
  if digits.isEmpty then none
  else
    some (Text.decimal digits * Nat.pow 10 (9 - digits.length),
      (cs.drop digits.length).dropWhile Text.isDigit)

/-- Reads a year: up to four digits, or any number of digits after a sign. -/
def readYear (cs : List Char) : Option (Int × List Char) :=
  match cs with
  | '-' :: rest => (readDigits rest.length rest).map fun (n, rest) => (-n, rest)
  | '+' :: rest => (readDigits rest.length rest).map fun (n, rest) => (n, rest)
  | _ => (readDigits 4 cs).map fun (n, rest) => (n, rest)

/-- Reads a number of one or two digits after any blank characters. -/
def readPair (cs : List Char) : Option (Nat × List Char) :=
  readDigits 2 (Text.trimStart cs)

namespace Piece

/-- Reads one piece. -/
def read (piece : Piece) (fields : Fields) (cs : List Char) :
    Option (Fields × List Char) :=
  match piece with
  | year => (readYear (Text.trimStart cs)).map fun (n, rest) =>
      ({ fields with year := n }, rest)
  | month => (readPair cs).map fun (n, rest) => ({ fields with month := n }, rest)
  | day => (readPair cs).map fun (n, rest) => ({ fields with day := n }, rest)
  | hour => (readPair cs).map fun (n, rest) => ({ fields with hour := n }, rest)
  | minute => (readPair cs).map fun (n, rest) => ({ fields with minute := n }, rest)
  | second => (readPair cs).map fun (n, rest) => ({ fields with second := n }, rest)
  | fraction =>
      match cs with
      | '.' :: rest => (readFraction rest).map fun (n, rest) =>
          ({ fields with nano := n }, rest)
      | _ => some (fields, cs)
  | blanks => some (fields, Text.trimStart cs)
  | literal c =>
      match cs with
      | first :: rest => if first = c then some (fields, rest) else none
      | [] => none

end Piece

/-- Reads the pieces of a pattern in order. -/
def readPieces : List Piece → Fields → List Char → Option (Fields × List Char)
  | [], fields, cs => some (fields, cs)
  | piece :: pieces, fields, cs => do
      let (fields, rest) ← piece.read fields cs
      readPieces pieces fields rest

/-- The date-time that a whole text denotes under a pattern. -/
def parse? (pattern : List Piece) (cs : List Char) : Option DateTime := do
  let (fields, rest) ← readPieces pattern {} cs
  guard rest.isEmpty
  fields.dateTime?

/-- Year, month and day, joined by hyphens. -/
def datePieces : List Piece :=
  [.year, .literal '-', .month, .literal '-', .day]

/-- Hour and minute, joined by a colon. -/
def minutePieces : List Piece :=
  [.hour, .literal ':', .minute]

/-- Hour, minute and second, joined by colons, and an optional fraction. -/
def secondPieces : List Piece :=
  minutePieces ++ [.literal ':', .second, .fraction]

/-- A date-time whose separators may have blank characters around them, with a
`T` between date and time. -/
def loosePattern : List Piece :=
  [.year, .blanks, .literal '-', .month, .blanks, .literal '-', .day, .blanks,
    .literal 'T', .hour, .blanks, .literal ':', .minute, .blanks, .literal ':',
    .second, .fraction, .blanks]

end Reservations.Calendar
