import Reservations.Book
import Std.Data.TreeMap

namespace Reservations

/-! ## What the log says happened, and what follows from it -/

/-- A change of the set of reservations. -/
inductive Event where
  | created (reservation : Reservation)
  | deleted (id resource : Ulid)
  deriving DecidableEq, Repr, Inhabited

/-- The resource that an event is about. -/
def Event.resource : Event → Ulid
  | created reservation => reservation.resource
  | deleted _ resource => resource

/-- The books of all resources, and the resource that each reservation is held
on. -/
structure Ledger where
  books : Std.TreeMap Ulid Book := ∅
  homes : Std.TreeMap Ulid Ulid := ∅

namespace Ledger

/-- The ledger without reservations. -/
def empty : Ledger := {}

/-- The book of a resource, which is empty until it is first used. -/
def book (ledger : Ledger) (resource : Ulid) : Book :=
  ledger.books[resource]?.getD (Book.empty resource)

/-- Opens the book of a resource that has none. -/
def openBook (ledger : Ledger) (resource : Ulid) : Ledger :=
  { ledger with
    books := ledger.books.alter resource fun book? =>
      some (book?.getD (Book.empty resource)) }

/-- Changes the book of a resource. -/
def modifyBook
    (ledger : Ledger) (resource : Ulid) (change : Book → Book) : Ledger :=
  { ledger with
    books := ledger.books.alter resource fun book? =>
      some (change (book?.getD (Book.empty resource))) }

/-- The ledger after an event. Nothing is checked. -/
def apply (ledger : Ledger) : Event → Ledger
  | .created reservation =>
      let ledger := ledger.modifyBook reservation.resource (·.insert reservation)
      { ledger with homes := ledger.homes.insert reservation.id reservation.resource }
  | .deleted id resource =>
      let ledger := ledger.modifyBook resource (·.erase id)
      { ledger with homes := ledger.homes.erase id }

/-- The ledger after events in order. -/
def applyAll (ledger : Ledger) (events : List Event) : Ledger :=
  events.foldl apply ledger

/-- The resource that a reservation is held on. -/
def homeOf? (ledger : Ledger) (id : Ulid) : Option Ulid :=
  ledger.homes[id]?

/-- The reservation with an identifier. -/
def get? (ledger : Ledger) (id : Ulid) : Option Reservation := do
  let resource ← ledger.homeOf? id
  let book ← ledger.books[resource]?
  book.get? id

/-- How many reservations there are. -/
def count (ledger : Ledger) : Nat :=
  ledger.homes.size

/-- The first reservation of a resource that keeps others out of a span. -/
def findOverlap? (ledger : Ledger) (resource : Ulid) (span : Span) : Option Ulid := do
  let book ← ledger.books[resource]?
  let existing ← book.firstBlocking span
  some existing.id

/-- Whether some reservation of a resource keeps others out of a span. -/
def existsOverlap (ledger : Ledger) (resource : Ulid) (span : Span) : Bool :=
  (ledger.findOverlap? resource span).isSome

/-- The reservations of one resource in order, or of all resources in the order
of their identifiers. -/
def list (ledger : Ledger) : Option Ulid → List Reservation
  | some resource => (ledger.books[resource]?.map Book.toList).getD []
  | none => ledger.books.toList.flatMap fun (_, book) => book.toList

/-! ### Books and homes after a change -/

theorem book_modifyBook (ledger : Ledger) (resource other : Ulid) (change : Book → Book) :
    (ledger.modifyBook resource change).book other =
      if resource = other then change (ledger.book other) else ledger.book other := by
  simp only [modifyBook, book, Std.TreeMap.getElem?_alter, Std.LawfulEqOrd.compare_eq_iff_eq]
  split
  · subst_vars
    simp
  · rfl

/-- Opening a book puts nothing into it. -/
theorem book_openBook (ledger : Ledger) (resource other : Ulid) :
    (ledger.openBook resource).book other = ledger.book other :=
  (ledger.book_modifyBook resource other id).trans (ite_self _)

/-- An event changes the book of its resource and no other. -/
theorem book_apply (ledger : Ledger) (event : Event) (other : Ulid) :
    (ledger.apply event).book other =
      if event.resource = other then
        match event with
        | .created reservation => (ledger.book other).insert reservation
        | .deleted id _ => (ledger.book other).erase id
      else ledger.book other := by
  cases event with
  | created reservation =>
      exact ledger.book_modifyBook reservation.resource other (·.insert reservation)
  | deleted id resource => exact ledger.book_modifyBook resource other (·.erase id)

theorem homeOf?_apply_created (ledger : Ledger) (reservation : Reservation) (id : Ulid) :
    (ledger.apply (.created reservation)).homeOf? id =
      if reservation.id = id then some reservation.resource else ledger.homeOf? id := by
  simp only [apply, homeOf?, modifyBook, Std.TreeMap.getElem?_insert,
    Std.LawfulEqOrd.compare_eq_iff_eq]

theorem homeOf?_apply_deleted (ledger : Ledger) (removed resource id : Ulid) :
    (ledger.apply (.deleted removed resource)).homeOf? id =
      if removed = id then none else ledger.homeOf? id := by
  simp only [apply, homeOf?, modifyBook, Std.TreeMap.getElem?_erase,
    Std.LawfulEqOrd.compare_eq_iff_eq]

theorem applyAll_append (ledger : Ledger) (earlier later : List Event) :
    ledger.applyAll (earlier ++ later) = (ledger.applyAll earlier).applyAll later := by
  simp [applyAll]

theorem findOverlap?_eq (ledger : Ledger) (resource : Ulid) (span : Span) :
    ledger.findOverlap? resource span =
      ((ledger.book resource).firstBlocking span).map Reservation.id := by
  simp only [findOverlap?, book]
  cases ledger.books[resource]? with
  | none => simp
  | some book => cases found : book.firstBlocking span <;> simp [found]

theorem list_some (ledger : Ledger) (resource : Ulid) :
    ledger.list (some resource) = (ledger.book resource).toList := by
  simp only [list, book]
  cases ledger.books[resource]? <;> rfl

end Ledger

end Reservations
