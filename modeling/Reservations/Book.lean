import Reservations.Reservation
import Reservations.Search

namespace Reservations

/-! ## The reservations of one resource -/

/-- The reservations of a resource, in the order of their starts. -/
structure Book where
  resource : Ulid
  entries : Array Reservation
  deriving DecidableEq, Repr, Inhabited

namespace Book

/-- The book of a resource that holds no reservation. -/
def empty (resource : Ulid) : Book :=
  ⟨resource, #[]⟩

/-- How many reservations a book holds. -/
def size (book : Book) : Nat :=
  book.entries.size

/-- The reservations of a book in order. -/
def toList (book : Book) : List Reservation :=
  book.entries.toList

/-- Where a reservation with a given start goes: directly before the last one
with that start, or else behind all that start earlier. -/
def insertionPoint (book : Book) (start : Instant) : Nat :=
  let upTo := partitionPoint book.entries fun r => decide (r.span.start ≤ start)
  if 0 < upTo ∧ (book.entries[upTo - 1]?.any fun r => r.span.start = start) = true then
    upTo - 1
  else upTo

/-- Adds a reservation and keeps the order of starts. -/
def insert (book : Book) (reservation : Reservation) : Book :=
  let place := book.insertionPoint reservation.span.start
  { book with entries := book.entries.insertIdxIfInBounds place reservation }

/-- The first reservation with an identifier. -/
def get? (book : Book) (id : Ulid) : Option Reservation :=
  book.entries.find? (·.id = id)

/-- Removes the first reservation with an identifier. -/
def erase (book : Book) (id : Ulid) : Book :=
  match book.entries.findIdx? (·.id = id) with
  | some place => { book with entries := book.entries.eraseIdxIfInBounds place }
  | none => book

/-- The reservations whose spans overlap a span, in the order of the book. Only
those that start before the span stops are looked at. -/
def overlapping (book : Book) (span : Span) : List Reservation :=
  let upTo := partitionPoint book.entries fun r => decide (r.span.start < span.stop)
  (book.entries.extract 0 upTo).toList.filter fun r => decide (span.start < r.span.stop)

/-- The first reservation that keeps others out of a span. -/
def firstBlocking (book : Book) (span : Span) : Option Reservation :=
  (book.overlapping span).find? fun r => r.status.isActive

/-! ### The list of a book -/

@[simp]
theorem length_toList (book : Book) : book.toList.length = book.size := by
  simp [toList, size]

theorem get?_eq_find? (book : Book) (id : Ulid) :
    book.get? id = book.toList.find? (·.id = id) := by
  simp [get?, toList, Array.find?_toList]

/-- A reservation always finds a place. -/
theorem insertionPoint_le_size (book : Book) (start : Instant) :
    book.insertionPoint start ≤ book.size := by
  have bound := partitionPoint_le_size book.entries fun r => decide (r.span.start ≤ start)
  simp only [insertionPoint, size]
  split
  · omega
  · exact bound

theorem toList_insert (book : Book) (reservation : Reservation) :
    (book.insert reservation).toList =
      book.toList.insertIdx (book.insertionPoint reservation.span.start) reservation := by
  have inside := book.insertionPoint_le_size reservation.span.start
  unfold size at inside
  simp [insert, toList, Array.insertIdxIfInBounds, inside]

theorem size_insert (book : Book) (reservation : Reservation) :
    (book.insert reservation).size = book.size + 1 := by
  have inside := book.insertionPoint_le_size reservation.span.start
  unfold size at inside
  simp [insert, size, Array.insertIdxIfInBounds, inside]

theorem toList_erase (book : Book) (id : Ulid) :
    (book.erase id).toList = book.toList.eraseP (·.id = id) := by
  obtain ⟨resource, ⟨entries⟩⟩ := book
  rw [List.eraseP_eq_eraseIdx]
  simp only [erase, toList, List.findIdx?_toArray]
  cases List.findIdx? (fun r => decide (r.id = id)) entries with
  | none => rfl
  | some place => simp

theorem overlapping_eq_filter_take (book : Book) (span : Span) :
    book.overlapping span =
      (book.toList.take
        (partitionPoint book.entries fun r => decide (r.span.start < span.stop))).filter
          fun r => decide (span.start < r.span.stop) := by
  simp [overlapping, toList]

@[simp]
theorem overlapping_empty (resource : Ulid) (span : Span) :
    (empty resource).overlapping span = [] := by
  simp [overlapping, empty]

@[simp]
theorem firstBlocking_empty (resource : Ulid) (span : Span) :
    (empty resource).firstBlocking span = none := by
  simp [firstBlocking]

end Book

end Reservations
