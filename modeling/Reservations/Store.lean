import Reservations.Log.Journal
import Reservations.Request

namespace Reservations

/-! ## The durable store -/

/-- The ledger in memory and the log that it can be rebuilt from. -/
structure Store where
  ledger : Ledger
  journal : Log.Journal

namespace Store

/-- Opens the store on a log, after recovery. -/
def start (directory : Log.Directory) : Except StorageFault Store := do
  let (events, directory) ← directory.recover
  let journal ← directory.openJournal
  return ⟨Ledger.empty.applyAll events, journal⟩

/-- Closes the store and opens it again. -/
def reopen (store : Store) : Except StorageFault Store :=
  start store.journal.close

/-- Writes an event to the log and, once it is durable, applies it. -/
def persist (store : Store) (event : Event) : Except Refusal Unit × Store :=
  match store.journal.commit [event] with
  | (.ok (), journal) => (.ok (), ⟨store.ledger.apply event, journal⟩)
  | (.error fault, journal) => (.error (.storage fault), ⟨store.ledger, journal⟩)

/-- Adds a reservation. Its span must be valid, its identifier unused, its book
not full, and no active reservation in its way, unless it is cancelled. -/
def insert (store : Store) (reservation : Reservation) :
    Except Refusal Reservation × Store :=
  match reservation.span.flaw? with
  | some flaw => (.error (.invalid flaw), store)
  | none =>
      if (store.ledger.homeOf? reservation.id).isSome then
        (.error (.alreadyExists reservation.id), store)
      else
        let store := { store with ledger := store.ledger.openBook reservation.resource }
        let book := store.ledger.book reservation.resource
        if Limits.bookSize ≤ book.size then (.error (.invalid .bookFull), store)
        else
          let obstacle :=
            if reservation.status.isActive then book.firstBlocking reservation.span
            else none
          match obstacle with
          | some existing => (.error (.conflict existing.id), store)
          | none =>
              match store.persist (.created reservation) with
              | (.ok (), store) => (.ok reservation, store)
              | (.error refusal, store) => (.error refusal, store)

/-- Removes a reservation. The answer says whether there was one. -/
def erase (store : Store) (id : Ulid) : Except Refusal Bool × Store :=
  match store.ledger.homeOf? id with
  | none => (.ok false, store)
  | some resource =>
      match store.ledger.get? id with
      | none => (.ok false, store)
      | some _ =>
          match store.persist (.deleted id resource) with
          | (.ok (), store) => (.ok true, store)
          | (.error refusal, store) => (.error refusal, store)

/-- The reservation with an identifier. -/
def get (store : Store) (id : Ulid) : Except Refusal Reservation :=
  match store.ledger.get? id with
  | some reservation => .ok reservation
  | none => .error (.notFound id)

/-- Reduces the log to one creation for each reservation there is. -/
def compact (store : Store) : Except Refusal Unit × Store :=
  let events := (store.ledger.list none).map Event.created
  match store.journal.compact events with
  | (.ok (), journal) => (.ok (), { store with journal })
  | (.error fault, journal) => (.error (.storage fault), { store with journal })

/-- Compacts once enough frames were added. The answer says whether it did. -/
def compactIfNeeded (store : Store) (threshold : Nat) : Bool × Store :=
  if store.journal.appends < threshold then (false, store)
  else
    match store.compact with
    | (.ok (), store) => (true, store)
    | (.error _, store) => (false, store)

end Store

end Reservations
