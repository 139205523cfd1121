import Reservations.Proofs.Book

namespace Reservations.Book

/-! ## Books under changes

A book that starts empty and is only added to and taken from, with any reservations: their
spans may be empty or turned round, and starts and identifiers may repeat. -/

inductive Change where
  | insert (reservation : Reservation)
  | erase (id : Ulid)

/-- The reservation that a change brings, if it brings one. -/
def Change.added? : Change → Option Reservation
  | insert reservation => some reservation
  | erase _ => none

/-- What a change takes out of a book, and the book after it. -/
def change (book : Book) : Change → Option Reservation × Book
  | .insert reservation => (none, book.insert reservation)
  | .erase id => (book.get? id, book.erase id)

/-- All that changes take out of a book, and the book after them. -/
def changeAll (book : Book) : List Change → List Reservation × Book
  | [] => ([], book)
  | first :: changes =>
      let (removed?, next) := book.change first
      let (removed, last) := next.changeAll changes
      (removed?.toList ++ removed, last)

/-- What a change may do to reservations in a row, and what it takes out. The others stay as
they stand to each other. -/
inductive Shifts :
    Change → List Reservation → List Reservation → Option Reservation → Prop
  | insert {front back : List Reservation} {reservation : Reservation}
      (early : ∀ r ∈ front, r.span.start ≤ reservation.span.start)
      (late : ∀ r ∈ back, reservation.span.start ≤ r.span.start) :
      Shifts (.insert reservation) (front ++ back) (front ++ reservation :: back) none
  | erase {front back : List Reservation} {reservation : Reservation}
      (first : ∀ r ∈ front, r.id ≠ reservation.id) :
      Shifts (.erase reservation.id) (front ++ reservation :: back) (front ++ back)
        (some reservation)
  | absent {id : Ulid} {entries : List Reservation} (unknown : ∀ r ∈ entries, r.id ≠ id) :
      Shifts (.erase id) entries entries none

namespace Shifts

variable {change : Change} {before after : List Reservation} {removed? : Option Reservation}

theorem sorted
    (shifts : Shifts change before after removed?)
    (ordered : before.Pairwise fun earlier later => earlier.span.start ≤ later.span.start) :
    after.Pairwise fun earlier later => earlier.span.start ≤ later.span.start := by
  cases shifts with
  | @insert front back reservation early late =>
      rw [List.pairwise_append] at ordered ⊢
      obtain ⟨frontOrdered, backOrdered, across⟩ := ordered
      refine ⟨frontOrdered, List.pairwise_cons.mpr ⟨late, backOrdered⟩, ?_⟩
      intro earlier inFront later inBack
      rcases List.mem_cons.mp inBack with rfl | behind
      · exact early earlier inFront
      · exact across earlier inFront later behind
  | @erase front back reservation first =>
      have shorter : (front ++ back).Sublist (front ++ reservation :: back) :=
        (List.sublist_cons_self reservation back).append_left front
      exact ordered.sublist shorter
  | absent unknown => exact ordered

/-- What comes in and what was there is what goes out and what is there. -/
theorem perm (shifts : Shifts change before after removed?) :
    (after ++ removed?.toList).Perm (before ++ change.added?.toList) := by
  cases shifts with
  | @insert front back reservation early late =>
      calc
        (front ++ reservation :: back) ++ []
            = front ++ reservation :: back := List.append_nil _
        _ |>.Perm (reservation :: (front ++ back)) := List.perm_middle
        _ |>.Perm ((front ++ back) ++ [reservation]) := (List.perm_append_singleton _ _).symm
  | @erase front back reservation first =>
      calc
        ((front ++ back) ++ [reservation]).Perm (reservation :: (front ++ back)) :=
          List.perm_append_singleton _ _
        _ |>.Perm (front ++ reservation :: back) := List.perm_middle.symm
        _ = (front ++ reservation :: back) ++ [] := (List.append_nil _).symm
  | absent unknown => exact List.Perm.refl _

end Shifts

theorem shifts_insert {book : Book} (sorted : book.Sorted) (reservation : Reservation) :
    Shifts (.insert reservation) book.toList (book.insert reservation).toList none := by
  have early : ∀ r ∈ book.toList.take (book.insertionPoint reservation.span.start),
      r.span.start ≤ reservation.span.start := fun r member =>
    le_of_mem_take_insertionPoint sorted member
  have late : ∀ r ∈ book.toList.drop (book.insertionPoint reservation.span.start),
      reservation.span.start ≤ r.span.start := fun r member =>
    le_of_mem_drop_insertionPoint sorted member
  have shifts := Shifts.insert early late
  rwa [List.take_append_drop, ← toList_insert_split] at shifts

theorem shifts_erase (book : Book) (id : Ulid) :
    Shifts (.erase id) book.toList (book.erase id).toList (book.get? id) := by
  rw [toList_erase, get?_eq_find?]
  cases found : book.toList.find? (·.id = id) with
  | none =>
      have unknown : ∀ r ∈ book.toList, r.id ≠ id := by
        simpa using found
      rw [List.eraseP_of_forall_not (by simpa using unknown)]
      exact Shifts.absent unknown
  | some reservation =>
      obtain ⟨same, front, back, split, passed⟩ := List.find?_eq_some_iff_append.mp found
      obtain rfl : reservation.id = id := by simpa using same
      have first : ∀ r ∈ front, r.id ≠ reservation.id := by simpa using passed
      rw [split, List.eraseP_append_right _ (by simpa using first),
        List.eraseP_cons_of_pos (by simp)]
      exact Shifts.erase first

theorem shifts_change {book : Book} (sorted : book.Sorted) (change : Change) :
    Shifts change book.toList (book.change change).2.toList (book.change change).1 := by
  cases change with
  | insert reservation => exact shifts_insert sorted reservation
  | erase id => exact book.shifts_erase id

/-- By induction on the changes: each of them keeps the order, and what it takes out of the
book is what is missing from it afterwards. -/
theorem changeAll_spec {book : Book} (sorted : book.Sorted) (changes : List Change) :
    (book.changeAll changes).2.Sorted ∧
      ((book.changeAll changes).2.toList ++ (book.changeAll changes).1).Perm
        (book.toList ++ changes.filterMap Change.added?) := by
  induction changes generalizing book with
  | nil => exact ⟨sorted, List.Perm.refl _⟩
  | cons first changes inductionHypothesis =>
      have shifts := shifts_change sorted first
      have further := inductionHypothesis (shifts.sorted sorted)
      have added : (first :: changes).filterMap Change.added? =
          first.added?.toList ++ changes.filterMap Change.added? := by
        cases first <;> rfl
      rw [added, changeAll]
      cases changed : book.change first with
      | mk taken next =>
          rw [changed] at shifts further
          cases rest : next.changeAll changes with
          | mk removed last =>
              simp only [rest] at further ⊢
              obtain ⟨lastSorted, balanced⟩ := further
              refine ⟨lastSorted, ?_⟩
              calc
                (last.toList ++ (taken.toList ++ removed)).Perm
                    ((last.toList ++ removed) ++ taken.toList) := by
                  rw [List.append_assoc]
                  exact List.perm_append_comm.append_left last.toList
                _ |>.Perm ((next.toList ++ changes.filterMap Change.added?) ++ taken.toList) :=
                  balanced.append_right taken.toList
                _ |>.Perm ((next.toList ++ taken.toList) ++ changes.filterMap Change.added?) := by
                  rw [List.append_assoc, List.append_assoc]
                  exact List.perm_append_comm.append_left next.toList
                _ |>.Perm
                    ((book.toList ++ first.added?.toList) ++ changes.filterMap Change.added?) :=
                  shifts.perm.append_right _
                _ = book.toList ++ (first.added?.toList ++ changes.filterMap Change.added?) :=
                  List.append_assoc _ _ _

/-- Whatever was done to a book that began empty: its reservations stand in the order of their
starts, they are those that were added and not taken out again, the next change moves none of
them past another, and to look at the front of them is to look at all of them. -/
theorem scans_of_changeAll (resource : Ulid) (changes : List Change) :
    ∃ removed book, (empty resource).changeAll changes = (removed, book) ∧
      (book.toList.Pairwise fun earlier later => earlier.span.start ≤ later.span.start) ∧
      (book.toList ++ removed).Perm (changes.filterMap Change.added?) ∧
      (∀ change, Shifts change book.toList (book.change change).2.toList (book.change change).1) ∧
      ∀ span,
        book.overlapping span = book.toList.filter (fun r => r.span.overlaps span) ∧
        book.firstBlocking span = book.toList.find? fun r => r.blocks span := by
  obtain ⟨sorted, balanced⟩ := changeAll_spec (sorted_empty resource) changes
  refine ⟨_, _, rfl, sorted, balanced, shifts_change sorted, fun span => ?_⟩
  exact ⟨overlapping_eq_filter sorted span, firstBlocking_eq_find? sorted span⟩

end Reservations.Book
