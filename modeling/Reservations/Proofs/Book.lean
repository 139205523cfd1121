import Reservations.Book
import Reservations.Proofs.Search

namespace Reservations

namespace Book

/-! ## Books in the order of starts -/

/-- Reservations stand in the order of their starts. -/
def Sorted (book : Book) : Prop :=
  book.toList.Pairwise fun earlier later => earlier.span.start ≤ later.span.start

theorem sorted_empty (resource : Ulid) : (empty resource).Sorted :=
  List.Pairwise.nil

theorem partitioned_start_le
    {book : Book} (sorted : book.Sorted) (instant : Instant) :
    Partitioned book.entries fun r => decide (r.span.start ≤ instant) := by
  refine partitioned_of_pairwise (List.Pairwise.imp (fun ordered passes => ?_) sorted)
  simp only [decide_eq_true_eq] at passes ⊢
  exact Int64.le_trans ordered passes

theorem partitioned_start_lt
    {book : Book} (sorted : book.Sorted) (instant : Instant) :
    Partitioned book.entries fun r => decide (r.span.start < instant) := by
  refine partitioned_of_pairwise (List.Pairwise.imp (fun ordered passes => ?_) sorted)
  simp only [decide_eq_true_eq] at passes ⊢
  exact Int64.lt_of_le_of_lt ordered passes

/-! ### Looking for overlaps -/

/-- Whether a reservation is found depends on its own span and not on where it
stands. -/
theorem overlapping_eq_filter
    {book : Book} (sorted : book.Sorted) (span : Span) :
    book.overlapping span = book.toList.filter fun r => r.span.overlaps span := by
  rw [overlapping_eq_filter_take, toList,
    take_partitionPoint (partitioned_start_lt sorted span.stop), List.filter_filter]
  congr 1
  funext r
  simp only [Span.overlaps, Bool.and_comm]

theorem firstBlocking_eq_find?
    {book : Book} (sorted : book.Sorted) (span : Span) :
    book.firstBlocking span = book.toList.find? fun r => r.blocks span := by
  rw [firstBlocking, overlapping_eq_filter sorted, List.find?_filter]
  congr 1
  funext r
  simp only [Reservation.blocks, Bool.decide_and, Bool.decide_eq_true, Bool.and_comm]

theorem firstBlocking_eq_none_iff
    {book : Book} (sorted : book.Sorted) (span : Span) :
    book.firstBlocking span = none ↔ ∀ r ∈ book.toList, r.blocks span = false := by
  rw [firstBlocking_eq_find? sorted, List.find?_eq_none]
  simp only [Bool.not_eq_true]

/-- What keeps others out of a span is named by its earliest start. -/
theorem firstBlocking_eq_some
    {book : Book} (sorted : book.Sorted) {span : Span} {first : Reservation}
    (found : book.firstBlocking span = some first) :
    first ∈ book.toList ∧ first.blocks span = true ∧
      ∀ r ∈ book.toList, r.blocks span = true → first.span.start ≤ r.span.start := by
  rw [firstBlocking_eq_find? sorted] at found
  obtain ⟨blocks, front, back, split, passed⟩ := List.find?_eq_some_iff_append.mp found
  refine ⟨by simp [split], blocks, ?_⟩
  intro r member rBlocks
  rw [split, List.mem_append, List.mem_cons] at member
  rcases member with inFront | rfl | inBack
  · have := passed r inFront
    simp [rBlocks] at this
  · exact Int64.le_refl _
  · have ordered := sorted
    rw [Sorted, split, List.pairwise_append] at ordered
    exact (List.pairwise_cons.mp ordered.2.1).1 r inBack

/-! ### Adding and removing -/

/-- A new reservation goes behind all that start no later, or directly before
the last of them when that one has the same start. -/
theorem insertionPoint_cases (book : Book) (start : Instant) :
    (book.insertionPoint start =
        partitionPoint book.entries fun r => decide (r.span.start ≤ start)) ∨
      (book.insertionPoint start + 1 =
          partitionPoint book.entries (fun r => decide (r.span.start ≤ start)) ∧
        ∃ inside : book.insertionPoint start < book.entries.size,
          book.entries[book.insertionPoint start].span.start = start) := by
  have bound := partitionPoint_le_size book.entries fun r => decide (r.span.start ≤ start)
  simp only [insertionPoint]
  split
  · rename_i same
    obtain ⟨positive, equal⟩ := same
    refine Or.inr ⟨by omega, by omega, ?_⟩
    rw [Array.getElem?_eq_getElem (by omega), Option.any_some] at equal
    exact of_decide_eq_true equal
  · exact Or.inl rfl

theorem le_of_mem_take_insertionPoint
    {book : Book} (sorted : book.Sorted) {start : Instant} {r : Reservation}
    (member : r ∈ book.toList.take (book.insertionPoint start)) :
    r.span.start ≤ start := by
  have atMost :
      book.insertionPoint start ≤
        partitionPoint book.entries fun r => decide (r.span.start ≤ start) := by
    rcases book.insertionPoint_cases start with equal | ⟨next, _⟩ <;> omega
  have early := List.take_subset_take_left book.toList atMost member
  rw [toList, take_partitionPoint (partitioned_start_le sorted start), List.mem_filter] at early
  exact of_decide_eq_true early.2

theorem le_of_mem_drop_insertionPoint
    {book : Book} (sorted : book.Sorted) {start : Instant} {r : Reservation}
    (member : r ∈ book.toList.drop (book.insertionPoint start)) :
    start ≤ r.span.start := by
  obtain ⟨i, inside, rfl⟩ := List.mem_drop_iff_getElem.mp member
  have inEntries : book.insertionPoint start + i < book.entries.size := by
    simpa [toList, Nat.add_comm] using inside
  have place := lt_partitionPoint_iff (partitioned_start_le sorted start) _ inEntries
  simp only [toList, Array.getElem_toList]
  by_cases late : start < book.entries[book.insertionPoint start + i].span.start
  · exact Int64.le_of_lt late
  · rw [Int64.not_lt] at late
    have before := place.mpr (decide_eq_true late)
    rcases book.insertionPoint_cases start with equal | ⟨next, _, same⟩
    · omega
    · -- only the element at the place itself still starts early enough
      obtain rfl : i = 0 := by omega
      simp only [Nat.add_zero, same]
      exact Int64.le_refl _

theorem toList_insert_split (book : Book) (reservation : Reservation) :
    (book.insert reservation).toList =
      book.toList.take (book.insertionPoint reservation.span.start)
        ++ reservation :: book.toList.drop (book.insertionPoint reservation.span.start) := by
  have inside := book.insertionPoint_le_size reservation.span.start
  rw [← length_toList] at inside
  obtain ⟨front, back, split, length, inserted⟩ :=
    List.exists_of_modifyTailIdx (List.cons reservation) inside
  rw [toList_insert, List.insertIdx, inserted, ← length, split]
  simp

theorem insert_perm (book : Book) (reservation : Reservation) :
    (book.insert reservation).toList.Perm (reservation :: book.toList) := by
  rw [toList_insert]
  refine List.perm_insertIdx reservation book.toList ?_
  rw [length_toList]
  exact book.insertionPoint_le_size reservation.span.start

theorem mem_toList_insert (book : Book) (reservation r : Reservation) :
    r ∈ (book.insert reservation).toList ↔ r = reservation ∨ r ∈ book.toList := by
  rw [(book.insert_perm reservation).mem_iff, List.mem_cons]

theorem Sorted.insert
    {book : Book} (sorted : book.Sorted) (reservation : Reservation) :
    (book.insert reservation).Sorted := by
  rw [Sorted, toList_insert_split, List.pairwise_append]
  refine ⟨List.Pairwise.take sorted, ?_, ?_⟩
  · rw [List.pairwise_cons]
    exact ⟨fun r member => le_of_mem_drop_insertionPoint sorted member,
      List.Pairwise.drop sorted⟩
  · intro earlier inFront later inBack
    have early := le_of_mem_take_insertionPoint sorted inFront
    rcases List.mem_cons.mp inBack with rfl | inRest
    · exact early
    · exact Int64.le_trans early (le_of_mem_drop_insertionPoint sorted inRest)

theorem Sorted.erase {book : Book} (sorted : book.Sorted) (id : Ulid) :
    (book.erase id).Sorted := by
  rw [Sorted, toList_erase]
  exact List.Pairwise.sublist List.eraseP_sublist sorted

theorem resource_erase (book : Book) (id : Ulid) : (book.erase id).resource = book.resource := by
  rw [erase]
  split <;> rfl

/-- A reservation with a new identifier leaves everything in its place when it is taken out. -/
theorem erase_insert
    {book : Book} {reservation : Reservation}
    (fresh : ∀ r ∈ book.toList, r.id ≠ reservation.id) :
    (book.insert reservation).erase reservation.id = book := by
  have entries : ((book.insert reservation).erase reservation.id).toList = book.toList := by
    have front : ∀ r ∈ book.toList.take (book.insertionPoint reservation.span.start),
        ¬ decide (r.id = reservation.id) = true := by
      intro r member
      simpa using fresh r (List.mem_of_mem_take member)
    rw [toList_erase, toList_insert_split, List.eraseP_append_right _ front,
      List.eraseP_cons_of_pos (by simp), List.take_append_drop]
  have resource := (book.insert reservation).resource_erase reservation.id
  cases erased : (book.insert reservation).erase reservation.id with
  | mk owner held =>
      rw [erased] at entries resource
      obtain ⟨bookOwner, bookHeld⟩ := book
      obtain rfl : owner = bookOwner := resource
      obtain rfl : held = bookHeld := Array.toList_inj.mp entries
      rfl

end Book

end Reservations
