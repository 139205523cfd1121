import Reservations.Ledger

namespace Reservations.Log

/-! ## Events as bytes

Numbers are little endian. A constructor is written as its index in four bytes,
a text as its length in eight bytes and its bytes, an identifier as its text of
26 characters, an instant in eight bytes. -/

/-- The last `count` bytes of a number, least significant first. -/
def bytesOfNat : (count value : Nat) → List UInt8
  | 0, _ => []
  | count + 1, value => UInt8.ofNat value :: bytesOfNat count (value / 256)

/-- The number that bytes denote, least significant first. -/
def natOfBytes : List UInt8 → Nat
  | [] => 0
  | byte :: bytes => byte.toNat + 256 * natOfBytes bytes

theorem length_bytesOfNat (count value : Nat) :
    (bytesOfNat count value).length = count := by
  induction count generalizing value with
  | zero => rfl
  | succ count inductionHypothesis => simp [bytesOfNat, inductionHypothesis]

theorem natOfBytes_bytesOfNat (count value : Nat) :
    natOfBytes (bytesOfNat count value) = value % Nat.pow 256 count := by
  induction count generalizing value with
  | zero => simp [bytesOfNat, natOfBytes, Nat.mod_one]
  | succ count inductionHypothesis =>
      change _ = value % (Nat.pow 256 count * 256)
      rw [bytesOfNat, natOfBytes, inductionHypothesis,
        Nat.mul_comm (Nat.pow 256 count) 256, Nat.mod_mul]
      simp

/-- The bytes of a text. -/
def bytesOfString (text : String) : List UInt8 :=
  text.toUTF8.data.toList

/-- The bytes of an index of a constructor. -/
def putIndex (index : Nat) : List UInt8 :=
  bytesOfNat 4 index

/-- The bytes of an instant. -/
def putInstant (instant : Instant) : List UInt8 :=
  bytesOfNat 8 instant.toUInt64.toNat

/-- The bytes of a text after its length. -/
def putText (text : String) : List UInt8 :=
  bytesOfNat 8 text.utf8ByteSize ++ bytesOfString text

/-- The index of a status. -/
def statusIndex : Status → Nat
  | .pending => 0
  | .confirmed => 1
  | .cancelled => 2

/-- The bytes of a reservation. -/
def putReservation (reservation : Reservation) : List UInt8 :=
  putText reservation.id.toText
    ++ putText reservation.resource.toText
    ++ putInstant reservation.span.start
    ++ putInstant reservation.span.stop
    ++ putIndex (statusIndex reservation.status)
    ++ putText reservation.customer.name
    ++ putText reservation.customer.email
    ++ putInstant reservation.createdAt

/-- The bytes of an event. -/
def encode : Event → List UInt8
  | .created reservation => putIndex 0 ++ putReservation reservation
  | .deleted id resource => putIndex 1 ++ putText id.toText ++ putText resource.toText

/-- A reader takes a value from the front of bytes. -/
abbrev Reader := StateT (List UInt8) Option

/-- Takes exactly `count` bytes. -/
def getBytes (count : Nat) : Reader (List UInt8) := fun bytes =>
  let front := bytes.take count
  if front.length = count then some (front, bytes.drop count) else none

/-- Takes a number of `count` bytes. -/
def getNat (count : Nat) : Reader Nat :=
  natOfBytes <$> getBytes count

/-- Takes an instant. -/
def getInstant : Reader Instant := do
  return (UInt64.ofNat (← getNat 8)).toInt64

/-- Takes a text. Its bytes must be UTF-8. -/
def getText : Reader String := do
  let bytes ← getBytes (← getNat 8)
  (String.fromUTF8? ⟨bytes.toArray⟩ : Option String)

/-- Takes an identifier. -/
def getUlid : Reader Ulid := do
  let text ← getText
  Ulid.ofCrockford? text.toList

/-- Takes a status. -/
def getStatus : Reader Status := do
  match ← getNat 4 with
  | 0 => return .pending
  | 1 => return .confirmed
  | 2 => return .cancelled
  | _ => failure

/-- Takes a reservation. -/
def getReservation : Reader Reservation := do
  let id ← getUlid
  let resource ← getUlid
  let start ← getInstant
  let stop ← getInstant
  let status ← getStatus
  let name ← getText
  let email ← getText
  let createdAt ← getInstant
  return ⟨id, resource, ⟨start, stop⟩, status, ⟨name, email⟩, createdAt⟩

/-- Takes an event. -/
def getEvent : Reader Event := do
  match ← getNat 4 with
  | 0 => return .created (← getReservation)
  | 1 =>
      let id ← getUlid
      return .deleted id (← getUlid)
  | _ => failure

/-- The event at the front of bytes. Bytes behind it are ignored. -/
def decode? (bytes : List UInt8) : Option Event :=
  (getEvent.run bytes).map Prod.fst

end Reservations.Log
