namespace Reservations.Log

/-! ## CRC-32

The cyclic redundancy check of the polynomial 0x04C11DB7, with bits taken from
the least significant end. -/

/-- The polynomial with its bits reversed. -/
def polynomial : UInt32 := 0xEDB88320

/-- Divides one bit out of the remainder. -/
def shiftBit (remainder : UInt32) : UInt32 :=
  if remainder &&& 1 = 1 then (remainder >>> 1) ^^^ polynomial else remainder >>> 1

/-- Divides several bits out of the remainder. -/
def shiftBits : Nat → UInt32 → UInt32
  | 0, remainder => remainder
  | count + 1, remainder => shiftBits count (shiftBit remainder)

/-- Takes one byte into the remainder. -/
def takeByte (remainder : UInt32) (byte : UInt8) : UInt32 :=
  shiftBits 8 (remainder ^^^ byte.toUInt32)

/-- The checksum of bytes. -/
def checksum (bytes : List UInt8) : UInt32 :=
  bytes.foldl takeByte 0xFFFFFFFF ^^^ 0xFFFFFFFF

end Reservations.Log
