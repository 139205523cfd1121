import Reservations.Json.Token
import Reservations.Text.Digits

namespace Reservations.Json

/-! ## Texts of JSON -/

/-- The number that four hexadecimal digits at the front of bytes denote. -/
def hexUnit? : List UInt8 → Option (Nat × List UInt8)
  | a :: b :: c :: d :: rest => do
      let digits ← [a, b, c, d].mapM fun byte =>
        Text.hexValue? (Char.ofNat byte.toNat)
      some (Text.ofDigits 16 digits, rest)
  | _ => none

/-- Whether a number is the first unit of a surrogate pair. -/
def isHighSurrogate (unit : Nat) : Bool :=
  0xD800 ≤ unit && unit ≤ 0xDBFF

/-- Whether a number is the second unit of a surrogate pair. -/
def isLowSurrogate (unit : Nat) : Bool :=
  0xDC00 ≤ unit && unit ≤ 0xDFFF

/-- The code point of a surrogate pair. -/
def joinSurrogates (high low : Nat) : Nat :=
  0x10000 + (high - 0xD800) * 0x400 + (low - 0xDC00)

/-- The bytes of a code point in UTF-8. -/
def utf8 (code : Nat) : List UInt8 :=
  String.utf8EncodeChar (Char.ofNat code)

/-- The byte that an escape of one letter stands for. -/
def escaped? (byte : UInt8) : Option UInt8 :=
  if byte = 34 ∨ byte = 92 ∨ byte = 47 then some byte
  else if byte = 98 then some 8
  else if byte = 102 then some 12
  else if byte = 110 then some 10
  else if byte = 114 then some 13
  else if byte = 116 then some 9
  else none

/-- Resolves the escapes of a written text onto the bytes before it, which are
in reverse. Surrogates must come in pairs. The fuel bounds the escapes and
bytes that are taken. -/
def unescapeOnto (done : List UInt8) :
    (fuel : Nat) → List UInt8 → Option (List UInt8)
  | 0, written => if written.isEmpty then some done.reverse else none
  | _ + 1, [] => some done.reverse
  | fuel + 1, 92 :: 117 :: rest => do
      let (unit, rest) ← hexUnit? rest
      if isLowSurrogate unit then none
      else if isHighSurrogate unit then
        match rest with
        | 92 :: 117 :: rest =>
            let (low, rest) ← hexUnit? rest
            if isLowSurrogate low then
              unescapeOnto ((utf8 (joinSurrogates unit low)).reverse ++ done) fuel rest
            else none
        | _ => none
      else unescapeOnto ((utf8 unit).reverse ++ done) fuel rest
  | fuel + 1, 92 :: letter :: rest => do
      let byte ← escaped? letter
      unescapeOnto (byte :: done) fuel rest
  | fuel + 1, byte :: rest => unescapeOnto (byte :: done) fuel rest

/-- The text that is written between quotes, when it is one. -/
def textOf? (written : List UInt8) : Option String := do
  let bytes ← unescapeOnto [] written.length written
  String.fromUTF8? ⟨bytes.toArray⟩

end Reservations.Json
