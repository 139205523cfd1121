import Reservations.Refusal
import Reservations.Text.Blank

namespace Reservations

/-! ## Requests -/

/-- The first flaw of a span, if it has any: it must not be empty, must lie in
the range of valid instants and must not be too long. -/
def Span.flaw? (span : Span) : Option Flaw :=
  if span.stop ≤ span.start then some .emptySpan
  else if span.start < Limits.earliest ∨ Limits.latest < span.stop then
    some .outOfRange
  else if Limits.longest < span.duration then some .tooLong
  else none

/-- The parts of a text before and after its last `@`. -/
def splitAtSign? (cs : List Char) : Option (List Char × List Char) :=
  let domain := (cs.reverse.takeWhile (· ≠ '@')).reverse
  if domain.length < cs.length then
    some (cs.take (cs.length - domain.length - 1), domain)
  else none

/-- Whether a list begins or ends with a point, or has two in a row. -/
def hasEmptyLabel (cs : List Char) : Bool :=
  (cs.splitOn '.').any List.isEmpty

/-- Whether a text has the shape of an address: a part before and a part after
the last `@`, no blank character, and no empty label after the `@`. -/
def looksLikeEmail (email : String) : Bool :=
  match splitAtSign? email.toList with
  | none => false
  | some (mailbox, domain) =>
      !mailbox.isEmpty && !domain.isEmpty && !email.toList.any Text.isBlank
        && !hasEmptyLabel domain

/-- A wish for a reservation. Either bound may be missing. -/
structure Request where
  resource : Ulid
  customer : Customer
  start : Option Instant
  stop : Option Instant
  deriving DecidableEq, Repr, Inhabited

/-- The first flaw of a customer, if there is any. -/
def Customer.flaw? (customer : Customer) : Option Flaw :=
  if (Text.trim customer.name.toList).isEmpty then some .nameMissing
  else if (Text.trim customer.email.toList).isEmpty then some .emailMissing
  else if Limits.nameBytes < customer.name.utf8ByteSize then some .nameTooLong
  else if Limits.emailBytes < customer.email.utf8ByteSize then some .emailTooLong
  else if !looksLikeEmail customer.email then some .emailInvalid
  else none

/-- The span that a request asks for at a time, or its first flaw. -/
def Request.span (request : Request) (now : Instant) : Except Flaw Span :=
  match request.start, request.stop with
  | none, _ => .error .startMissing
  | some _, none => .error .stopMissing
  | some start, some stop =>
      if stop ≤ start then .error .stopNotAfterStart
      else
        match Span.flaw? ⟨start, stop⟩ with
        | some flaw => .error flaw
        | none =>
            if start ≤ now then .error .startNotInFuture
            else
              match request.customer.flaw? with
              | some flaw => .error flaw
              | none => .ok ⟨start, stop⟩

end Reservations
