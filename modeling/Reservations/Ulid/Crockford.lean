import Reservations.Ulid
import Reservations.Text.Digits

namespace Reservations.Ulid

/-! ## Crockford base 32

An identifier is written in 26 characters of five bits each. The alphabet has
the ten digits and the letters without `I`, `L`, `O` and `U`; letters are read
in either case. Twenty-six characters hold 130 bits, of which reading keeps the
lower 128. -/

/-- The characters of the alphabet, by value. -/
def alphabet : List Char :=
  "0123456789ABCDEFGHJKMNPQRSTVWXYZ".toList

/-- The character of a value below 32. -/
def digitChar (value : Nat) : Char :=
  alphabet.getD value '0'

/-- The value of a character of the alphabet, in either case. -/
def digitValue? (c : Char) : Option Nat :=
  alphabet.findIdx? (· = c.toUpper)

/-- The 26-character text of an identifier. -/
def toText (id : Ulid) : String :=
  String.ofList ((Text.toDigits 32 26 id.toNat).map digitChar)

/-- The identifier that 26 characters of the alphabet denote. -/
def ofCrockford? (cs : List Char) : Option Ulid := do
  guard (cs.length = 26)
  let digits ← cs.mapM digitValue?
  some (ofNat (Text.ofDigits 32 digits))

instance : ToString Ulid :=
  ⟨toText⟩

end Reservations.Ulid
