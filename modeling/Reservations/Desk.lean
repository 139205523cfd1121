import Reservations.Catalog.Answer
import Reservations.Store

namespace Reservations

/-! ## Taking bookings

A booking passes its checks in a fixed order: the request on its own, active
reservations in its way, the catalog, the unavailable windows that the catalog
lists, and the store. The first check that fails decides. -/

/-- The store, the clock and the catalog that bookings are decided with. -/
structure Desk where
  store : Store
  now : Instant
  answers : Catalog.Answers := {}
  /-- The fault that every call of the store fails with, if there is one. -/
  outage : Option StorageFault := none
  /-- How often the catalog was asked. -/
  lookups : Nat := 0
  /-- How many identifiers were given out. -/
  issued : Nat := 0

namespace Desk

/-- The value of a call of the store, unless there is an outage. -/
def call {α : Type} (desk : Desk) (value : α) : Except Refusal α :=
  match desk.outage with
  | some fault => .error (.storage fault)
  | none => .ok value

/-- Asks the catalog about a resource. -/
def fetch (desk : Desk) (resource : Ulid) :
    Except Catalog.LookupFailure Catalog.Snapshot × Desk :=
  ((desk.answers.about resource).snapshot, { desk with lookups := desk.lookups + 1 })

/-- Why a resource with a snapshot cannot be reserved for a span, if it
cannot. -/
def obstacle? (snapshot : Catalog.Snapshot) (span : Span) : Option Unavailability :=
  if snapshot.active then
    (firstIntersecting snapshot.windows span).map Unavailability.window
  else some .inactive

/-- The reservation that a request asks for. -/
def pending (request : Request) (span : Span) (id : Ulid) (now : Instant) : Reservation :=
  { id := id
    resource := request.resource
    span := span
    status := .pending
    customer := request.customer
    createdAt := now }

/-- Puts a reservation into the store under the next identifier. -/
def place (desk : Desk) (request : Request) (span : Span) :
    Except Refusal Reservation × Desk :=
  let id := Ulid.ofNat (desk.issued + 1)
  let desk := { desk with issued := desk.issued + 1 }
  match desk.outage with
  | some fault => (.error (.storage fault), desk)
  | none =>
      let (result, store) := desk.store.insert (pending request span id desk.now)
      (result, { desk with store })

/-- Decides about a request and makes the reservation if nothing is in its
way. -/
def create (desk : Desk) (request : Request) : Except Refusal Reservation × Desk :=
  match request.span desk.now with
  | .error flaw => (.error (.invalid flaw), desk)
  | .ok span =>
      match desk.call (desk.store.ledger.findOverlap? request.resource span) with
      | .error refusal => (.error refusal, desk)
      | .ok (some existing) => (.error (.conflict existing), desk)
      | .ok none =>
          match desk.fetch request.resource with
          | (.error cause, desk) => (.error (.unavailable (.lookup cause)), desk)
          | (.ok snapshot, desk) =>
              match obstacle? snapshot span with
              | some reason => (.error (.unavailable reason), desk)
              | none => desk.place request span

/-- The reservation with an identifier. -/
def get (desk : Desk) (id : Ulid) : Except Refusal Reservation :=
  match desk.call (desk.store.ledger.get? id) with
  | .error refusal => .error refusal
  | .ok none => .error (.notFound id)
  | .ok (some reservation) => .ok reservation

/-- Removes a reservation. The answer says whether there was one. -/
def delete (desk : Desk) (id : Ulid) : Except Refusal Bool × Desk :=
  match desk.outage with
  | some fault => (.error (.storage fault), desk)
  | none =>
      let (result, store) := desk.store.erase id
      (result, { desk with store })

/-- The reservations of one resource, or of all. -/
def list (desk : Desk) (resource? : Option Ulid) : Except Refusal (List Reservation) :=
  desk.call (desk.store.ledger.list resource?)

end Desk

end Reservations
