import Reservations.Ulid.Crockford

namespace Reservations.Ulid

/-! ## Hexadecimal identifiers

The same 128 bits may be written as 32 hexadecimal digits, alone, in five
groups joined by hyphens, or in such groups inside braces or after the prefix
`urn:uuid:`. -/

/-- How many digits each of the five groups has. -/
def groupLengths : List Nat :=
  [8, 4, 4, 4, 12]

/-- Cuts a text into groups of the given lengths. -/
def cutGroups : (lengths : List Nat) → List Char → List (List Char)
  | [], _ => []
  | length :: lengths, cs => cs.take length :: cutGroups lengths (cs.drop length)

/-- The hyphenated lower-case text of an identifier. -/
def toUuid (id : Ulid) : String :=
  let digits := (Text.toDigits 16 32 id.toNat).map Text.hexDigit
  String.ofList (['-'].intercalate (cutGroups groupLengths digits))

/-- The identifier that 32 hexadecimal digits denote. -/
def ofHex? (cs : List Char) : Option Ulid := do
  guard (cs.length = 32)
  let digits ← cs.mapM Text.hexValue?
  some (ofNat (Text.ofDigits 16 digits))

/-- Removes the hyphens after the groups of a hyphenated text. Fails where a
hyphen is missing. -/
def joinGroups? : (lengths : List Nat) → List Char → Option (List Char)
  | [], cs => some cs
  | [_], cs => some cs
  | length :: lengths, cs =>
      match cs.drop length with
      | '-' :: rest => (joinGroups? lengths rest).map (cs.take length ++ ·)
      | _ => none

/-- The identifier that five hyphenated groups denote. -/
def ofHyphenated? (cs : List Char) : Option Ulid := do
  guard (cs.length = 36)
  ofHex? (← joinGroups? groupLengths cs)

/-- The identifier that a text denotes in one of the hexadecimal notations. -/
def ofUuid? (cs : List Char) : Option Ulid :=
  if cs.length = 32 then ofHex? cs
  else if cs.length = 36 then ofHyphenated? cs
  else if cs.length = 38 ∧ cs.head? = some '{' ∧ cs.getLast? = some '}' then
    ofHyphenated? (cs.drop 1).dropLast
  else if cs.length = 45 ∧
      (cs.take 9).map Char.toLower = "urn:uuid:".toList then
    ofHyphenated? (cs.drop 9)
  else none

/-- The identifier that a text denotes, first in Crockford base 32, then in one
of the hexadecimal notations. -/
def ofText? (text : String) : Option Ulid :=
  ofCrockford? text.toList <|> ofUuid? text.toList

end Reservations.Ulid
