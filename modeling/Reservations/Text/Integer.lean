import Reservations.Text.Digits

namespace Reservations.Text

/-! ## Decimal integers

An integer is written with an optional sign and at least one ASCII digit. -/

/-- The number of a count as it is written. -/
def countText (count : Nat) : String :=
  String.ofList (Nat.toDigits 10 count)

/-- An integer as it is written. -/
def decimalText (value : Int) : String :=
  (if value < 0 then "-" else "") ++ countText value.natAbs

/-- Why a text is not an integer of the wanted range. -/
inductive IntegerFault where
  | empty
  | strayCharacter
  | tooLarge
  | tooSmall
  deriving DecidableEq, Repr

/-- The wording of a fault. -/
def IntegerFault.message : IntegerFault → String
  | empty => "cannot parse integer from empty string"
  | strayCharacter => "invalid digit found in string"
  | tooLarge => "number too large to fit in target type"
  | tooSmall => "number too small to fit in target type"

/-- Reads digits onto a total from left to right, up to the first character
that is no digit or that takes the total beyond a limit. -/
def readDigitsWithin (limit : Nat) (beyond : IntegerFault) :
    (total : Nat) → List Char → Except IntegerFault Nat
  | total, [] => .ok total
  | total, c :: cs =>
      if isDigit c then
        let next := total * 10 + (c.toNat - 48)
        if next ≤ limit then readDigitsWithin limit beyond next cs
        else .error beyond
      else .error .strayCharacter

/-- Reads an integer between two bounds, of which the lower is not positive. A
minus sign is only read when the lower bound is negative. -/
def readInteger (least greatest : Int) (cs : List Char) :
    Except IntegerFault Int :=
  match cs with
  | [] => .error .empty
  | ['+'] | ['-'] => .error .strayCharacter
  | '+' :: digits =>
      (readDigitsWithin greatest.toNat .tooLarge 0 digits).map Int.ofNat
  | '-' :: digits =>
      if least < 0 then
        (readDigitsWithin least.natAbs .tooSmall 0 digits).map fun n => -(n : Int)
      else .error .strayCharacter
  | digits =>
      (readDigitsWithin greatest.toNat .tooLarge 0 digits).map Int.ofNat

/-- Reads an integer of 64 bits. -/
def readInt64 (cs : List Char) : Except IntegerFault Int64 :=
  (readInteger Int64.minValue.toInt Int64.maxValue.toInt cs).map Int64.ofInt

/-- The least number that 16 bits do not hold. -/
def bound16 : Nat := 65536

/-- The least number that 64 bits do not hold. -/
def bound64 : Nat := 18446744073709551616

/-- Reads a number below a bound. -/
def readNat? (bound : Nat) (cs : List Char) : Option Nat :=
  (readInteger 0 (bound - 1) cs).toOption.map Int.toNat

end Reservations.Text
