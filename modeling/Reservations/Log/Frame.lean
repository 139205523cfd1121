import Reservations.Limits
import Reservations.Log.Checksum
import Reservations.Log.Codec

namespace Reservations.Log

/-! ## Frames

A frame holds one event: the length of its payload in four bytes, the payload,
and the checksum of the payload in four bytes. -/

/-- The three parts of the frame of an event, in the order they are written. -/
def frameParts (event : Event) : List (List UInt8) :=
  let payload := encode event
  [bytesOfNat 4 payload.length, payload, bytesOfNat 4 (checksum payload).toNat]

/-- The frame of an event. -/
def frame (event : Event) : List UInt8 :=
  (frameParts event).flatten

/-- The bytes of a range of a file. -/
def slice (bytes : ByteArray) (start stop : Nat) : List UInt8 :=
  (bytes.extract start stop).data.toList

/-- The number in the four bytes at an offset. -/
def word? (bytes : ByteArray) (offset : Nat) : Option Nat :=
  if offset + 4 ≤ bytes.size then some (natOfBytes (slice bytes offset (offset + 4)))
  else none

/-- The event and the payload length of the frame at an offset. There is none
where the bytes end early, where the length is beyond the limit, where the
checksum is wrong, and where the payload is no event. -/
def frameAt? (bytes : ByteArray) (offset : Nat) : Option (Event × Nat) := do
  let length ← word? bytes offset
  guard (length ≤ Limits.payloadBytes)
  let sum ← word? bytes (offset + 4 + length)
  let payload := slice bytes (offset + 4) (offset + 4 + length)
  guard (sum = (checksum payload).toNat)
  let event ← decode? payload
  some (event, length)

/-- What an intact front of a log holds. -/
structure Replay where
  events : List Event
  /-- How many bytes the frames of the events take up. -/
  validLength : Nat
  deriving DecidableEq, Repr

/-- Reads frames from an offset on until there is none, behind events that
were read before. -/
def replayFrom (bytes : ByteArray) (offset : Nat) (earlier : Array Event) : Replay :=
  if _inside : offset < bytes.size then
    match frameAt? bytes offset with
    | some (event, length) =>
        replayFrom bytes (offset + (length + 8)) (earlier.push event)
    | none => ⟨earlier.toList, offset⟩
  else ⟨earlier.toList, offset⟩
termination_by bytes.size - offset

/-- Reads a log up to its first flaw. -/
def replay (bytes : ByteArray) : Replay :=
  replayFrom bytes 0 #[]

end Reservations.Log
