import Reservations.Catalog.Failure
import Reservations.Reservation

namespace Reservations

/-! ## Refusals -/

/-- What is wrong with a request or a reservation on its own. -/
inductive Flaw where
  | startMissing
  | stopMissing
  | startNotInFuture
  | stopNotAfterStart
  | emptySpan
  | outOfRange
  | tooLong
  | nameMissing
  | emailMissing
  | nameTooLong
  | emailTooLong
  | emailInvalid
  | bookFull
  deriving DecidableEq, Repr

/-- The wording of a flaw. -/
def Flaw.message : Flaw → String
  | startMissing => "start time is required"
  | stopMissing => "end time is required"
  | startNotInFuture => "start time must be in the future"
  | stopNotAfterStart => "end time must be after start time"
  | emptySpan => "end must be after start"
  | outOfRange => "timestamp out of range"
  | tooLong => "reservation too long"
  | nameMissing => "customer name is required"
  | emailMissing => "customer email is required"
  | nameTooLong => "customer name too long"
  | emailTooLong => "customer email too long"
  | emailInvalid => "customer email is not a valid address"
  | bookFull => "too many reservations on resource"

/-- Why a resource cannot take a reservation. -/
inductive Unavailability where
  | inactive
  /-- The catalog gave no answer, which counts as a no. -/
  | lookup (cause : Catalog.LookupFailure)
  | window (window : Span)
  deriving DecidableEq, Repr

/-- The wording of an unavailability, unless the failed look-up has none. -/
def Unavailability.message? : Unavailability → Option String
  | inactive => some "resource is not active"
  | lookup cause => cause.message?.map fun text => s!"resource lookup failed: {text}"
  | window ⟨start, stop⟩ =>
      some s!"resource is unavailable during [{start.toInt}, {stop.toInt})"

/-- Why storage failed. -/
inductive StorageFault where
  | noSpace
  | isDirectory
  | notDirectory
  | missing
  | other (detail : String)
  deriving DecidableEq, Repr

/-- The wording of a storage fault. -/
def StorageFault.message : StorageFault → String
  | noSpace => "No space left on device (os error 28)"
  | isDirectory => "Is a directory (os error 21)"
  | notDirectory => "Not a directory (os error 20)"
  | missing => "No such file or directory (os error 2)"
  | other detail => detail

/-- Why a reservation was not made, found or removed. -/
inductive Refusal where
  | invalid (flaw : Flaw)
  | conflict (existing : Ulid)
  | unavailable (reason : Unavailability)
  | notFound (id : Ulid)
  | alreadyExists (id : Ulid)
  | storage (fault : StorageFault)
  deriving DecidableEq, Repr

namespace Refusal

/-- The short name of a refusal. -/
def kind : Refusal → String
  | invalid _ => "validation"
  | conflict _ => "conflict"
  | unavailable _ => "unavailable"
  | notFound _ => "not_found"
  | alreadyExists _ => "already_exists"
  | storage _ => "transient_dependency"

/-- The SQL state that a refusal is reported with. -/
def sqlState : Refusal → String
  | invalid _ => "22023"
  | conflict _ => "23P01"
  | unavailable _ => "55000"
  | notFound _ => "P0002"
  | alreadyExists _ => "23505"
  | storage _ => "58000"

/-- The wording of a refusal, unless the failed look-up behind it has none. -/
def message? : Refusal → Option String
  | invalid flaw => some s!"invalid reservation: {flaw.message}"
  | conflict existing => some
      s!"resource already booked for this time (conflicts with reservation {existing.toText})"
  | unavailable reason => reason.message?.map fun text => s!"resource unavailable: {text}"
  | notFound id => some s!"reservation not found: {id.toText}"
  | alreadyExists id => some s!"reservation already exists: {id.toText}"
  | storage fault => some s!"storage error: {fault.message}"

end Refusal

end Reservations
