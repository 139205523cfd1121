import Reservations.Instant
import Reservations.Ulid.Crockford

namespace Reservations

/-! ## Reservations -/

/-- How far a reservation has come. -/
inductive Status where
  | pending
  | confirmed
  | cancelled
  deriving DecidableEq, Repr, Inhabited

namespace Status

/-- A cancelled reservation never blocks a time range. -/
def isActive : Status → Bool
  | pending => true
  | confirmed => true
  | cancelled => false

/-- The word that a status is written with. -/
def word : Status → String
  | pending => "PENDING"
  | confirmed => "CONFIRMED"
  | cancelled => "CANCELLED"

end Status

/-- Who asks for a reservation. Stored and returned, never interpreted. -/
structure Customer where
  name : String
  email : String
  deriving DecidableEq, Repr, Inhabited

/-- A span of time held on a resource for a customer. -/
structure Reservation where
  id : Ulid
  resource : Ulid
  span : Span
  status : Status
  customer : Customer
  createdAt : Instant
  deriving DecidableEq, Repr, Inhabited

namespace Reservation

/-- Whether a reservation keeps others out of a span. -/
def blocks (reservation : Reservation) (span : Span) : Bool :=
  reservation.status.isActive && reservation.span.overlaps span

theorem blocks_iff (reservation : Reservation) (span : Span) :
    reservation.blocks span = true ↔
      reservation.status.isActive = true ∧
        reservation.span.overlaps span = true := by
  simp [blocks]

end Reservation

end Reservations
