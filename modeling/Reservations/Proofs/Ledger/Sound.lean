import Mathlib.Data.List.Pairwise
import Reservations.Ledger
import Reservations.Proofs.Book
import Reservations.Request

namespace Reservations

/-! ## What every ledger of the store keeps to -/

theorem Status.isActive_iff (status : Status) : status.isActive = true ↔ status ≠ .cancelled := by
  cases status with
  | pending => decide
  | confirmed => decide
  | cancelled => decide

/-- Two reservations do not keep each other out: one of them is cancelled, or
their spans share no instant. -/
def Reservation.Apart (left right : Reservation) : Prop :=
  left.status.isActive = true → right.status.isActive = true →
    left.span.overlaps right.span = false

instance (left right : Reservation) : Decidable (left.Apart right) :=
  inferInstanceAs (Decidable (_ → _ → _))

theorem Reservation.Apart.symm {left right : Reservation} (apart : left.Apart right) :
    right.Apart left := by
  intro rightActive leftActive
  rw [Span.overlaps_comm]
  exact apart leftActive rightActive

/-- A valid span is not empty. -/
theorem Span.start_lt_stop_of_flaw?_eq_none {span : Span} (valid : span.flaw? = none) :
    span.start < span.stop := by
  unfold Span.flaw? at valid
  split at valid
  · cases valid
  · rename_i ordered
    exact Int64.not_le.mp ordered

/-- Valid spans that share no instant start at different instants. -/
theorem Span.start_ne_of_not_overlaps
    {left right : Span}
    (leftValid : left.flaw? = none) (rightValid : right.flaw? = none)
    (apart : left.overlaps right = false) :
    left.start ≠ right.start := by
  intro same
  have overlap : left.overlaps right = true := by
    rw [overlaps_iff]
    constructor
    · rw [same]
      exact start_lt_stop_of_flaw?_eq_none rightValid
    · rw [← same]
      exact start_lt_stop_of_flaw?_eq_none leftValid
  rw [overlap] at apart
  cases apart

namespace Ledger

/-- What holds of the ledger between any two operations. -/
structure Sound (ledger : Ledger) : Prop where
  sorted : ∀ resource, (ledger.book resource).Sorted
  /-- A reservation stands in the book of its resource and is housed there. -/
  owned : ∀ resource, ∀ r ∈ (ledger.book resource).toList,
    r.resource = resource ∧ ledger.homeOf? r.id = some resource
  /-- A home has a reservation in it. -/
  housed : ∀ id resource, ledger.homeOf? id = some resource →
    ∃ r ∈ (ledger.book resource).toList, r.id = id
  distinct : ∀ resource,
    (ledger.book resource).toList.Pairwise fun left right => left.id ≠ right.id
  valid : ∀ resource, ∀ r ∈ (ledger.book resource).toList, r.span.flaw? = none
  apart : ∀ resource, (ledger.book resource).toList.Pairwise Reservation.Apart
  bounded : ∀ resource, (ledger.book resource).size ≤ Limits.bookSize

/-- What is checked before a reservation is added. -/
structure Admits (ledger : Ledger) (reservation : Reservation) : Prop where
  valid : reservation.span.flaw? = none
  fresh : ledger.homeOf? reservation.id = none
  room : (ledger.book reservation.resource).size < Limits.bookSize
  free : ∀ r ∈ (ledger.book reservation.resource).toList, reservation.Apart r

@[simp]
theorem book_empty (resource : Ulid) : empty.book resource = Book.empty resource := by
  simp [empty, book]

@[simp]
theorem homeOf?_empty (id : Ulid) : empty.homeOf? id = none := by
  simp [empty, homeOf?]

theorem book_apply_created (ledger : Ledger) (reservation : Reservation) (other : Ulid) :
    (ledger.apply (.created reservation)).book other =
      if reservation.resource = other then (ledger.book other).insert reservation
      else ledger.book other :=
  ledger.book_apply (.created reservation) other

theorem book_apply_deleted (ledger : Ledger) (id resource other : Ulid) :
    (ledger.apply (.deleted id resource)).book other =
      if resource = other then (ledger.book other).erase id else ledger.book other :=
  ledger.book_apply (.deleted id resource) other

theorem sound_empty : empty.Sound where
  sorted resource := by
    rw [book_empty]
    exact Book.sorted_empty resource
  owned resource r member := by simp [Book.empty, Book.toList] at member
  housed id resource home := by simp at home
  distinct resource := by simp [Book.empty, Book.toList]
  valid resource r member := by simp [Book.empty, Book.toList] at member
  apart resource := by simp [Book.empty, Book.toList]
  bounded resource := by simp [Book.empty, Book.size]

namespace Sound

variable {ledger : Ledger}

/-- A reservation stands in a book exactly when its identifier is housed
there. -/
theorem homeOf?_eq_some_iff (sound : ledger.Sound) (id resource : Ulid) :
    ledger.homeOf? id = some resource ↔
      ∃ r ∈ (ledger.book resource).toList, r.id = id := by
  constructor
  · exact sound.housed id resource
  · rintro ⟨r, member, rfl⟩
    exact (sound.owned resource r member).2

/-- No two reservations of a book have one identifier. -/
theorem eq_of_id_eq
    (sound : ledger.Sound) {resource : Ulid} {left right : Reservation}
    (leftMember : left ∈ (ledger.book resource).toList)
    (rightMember : right ∈ (ledger.book resource).toList)
    (same : left.id = right.id) :
    left = right := by
  by_cases equal : left = right
  · exact equal
  · have symmetric : Std.Symm fun left right : Reservation => left.id ≠ right.id :=
      ⟨fun _ _ different => different.symm⟩
    exact absurd same ((sound.distinct resource).forall leftMember rightMember equal)

/-- No two active reservations of a book start at one instant. -/
theorem eq_of_start_eq
    (sound : ledger.Sound) {resource : Ulid} {left right : Reservation}
    (leftMember : left ∈ (ledger.book resource).toList)
    (rightMember : right ∈ (ledger.book resource).toList)
    (leftActive : left.status.isActive = true) (rightActive : right.status.isActive = true)
    (same : left.span.start = right.span.start) :
    left = right := by
  by_cases equal : left = right
  · exact equal
  · have symmetric : Std.Symm Reservation.Apart := ⟨fun _ _ => Reservation.Apart.symm⟩
    have apart := (sound.apart resource).forall leftMember rightMember equal
    have different :=
      Span.start_ne_of_not_overlaps
        (sound.valid resource left leftMember) (sound.valid resource right rightMember)
        (apart leftActive rightActive)
    exact absurd same different

/-- Removing a reservation removes exactly what has its identifier. -/
theorem toList_erase
    (sound : ledger.Sound) (resource id : Ulid) :
    ((ledger.book resource).erase id).toList =
      (ledger.book resource).toList.filter fun r => r.id ≠ id := by
  rw [Book.toList_erase]
  generalize (ledger.book resource).toList = entries, sound.distinct resource = distinct at *
  induction entries with
  | nil => rfl
  | cons first rest inductionHypothesis =>
      rw [List.pairwise_cons] at distinct
      by_cases same : first.id = id
      · subst same
        simp only [decide_true, List.eraseP_cons_of_pos, ne_eq, not_true_eq_false,
          decide_false, Bool.false_eq_true, not_false_eq_true, List.filter_cons_of_neg]
        symm
        rw [List.filter_eq_self]
        intro r member
        exact decide_eq_true (Ne.symm (distinct.1 r member))
      · rw [List.eraseP_cons_of_neg (by simpa using same),
          List.filter_cons_of_pos (by simpa using same), inductionHypothesis distinct.2]

/-- Adding a reservation that was checked keeps the ledger sound. -/
theorem apply_created
    (sound : ledger.Sound) {reservation : Reservation}
    (admits : ledger.Admits reservation) :
    (ledger.apply (.created reservation)).Sound := by
  have housedElsewhere :
      ∀ resource, ∀ r ∈ (ledger.book resource).toList, reservation.id ≠ r.id := by
    intro resource r member same
    have home := (sound.owned resource r member).2
    rw [← same, admits.fresh] at home
    cases home
  constructor
  case sorted =>
    intro resource
    rw [book_apply_created]
    split
    · exact (sound.sorted resource).insert reservation
    · exact sound.sorted resource
  case owned =>
    intro resource r member
    rw [homeOf?_apply_created]
    rw [book_apply_created] at member
    split at member
    · rename_i here
      rcases (Book.mem_toList_insert _ _ _).mp member with rfl | old
      · exact ⟨here, by simpa using here⟩
      · rw [if_neg (housedElsewhere resource r old)]
        exact sound.owned resource r old
    · rw [if_neg (housedElsewhere resource r member)]
      exact sound.owned resource r member
  case housed =>
    intro id resource home
    rw [homeOf?_apply_created] at home
    rw [book_apply_created]
    split at home
    · rename_i same
      obtain rfl : reservation.resource = resource := by simpa using home
      refine ⟨reservation, ?_, same⟩
      rw [if_pos rfl]
      exact (Book.mem_toList_insert _ _ _).mpr (Or.inl rfl)
    · obtain ⟨r, member, same⟩ := sound.housed id resource home
      refine ⟨r, ?_, same⟩
      split
      · exact (Book.mem_toList_insert _ _ _).mpr (Or.inr member)
      · exact member
  case distinct =>
    intro resource
    rw [book_apply_created]
    split
    · rw [(Book.insert_perm _ _).pairwise_iff Ne.symm, List.pairwise_cons]
      exact ⟨housedElsewhere resource, sound.distinct resource⟩
    · exact sound.distinct resource
  case valid =>
    intro resource r member
    rw [book_apply_created] at member
    split at member
    · rcases (Book.mem_toList_insert _ _ _).mp member with rfl | old
      · exact admits.valid
      · exact sound.valid resource r old
    · exact sound.valid resource r member
  case apart =>
    intro resource
    rw [book_apply_created]
    split
    · rename_i here
      subst here
      rw [(Book.insert_perm _ _).pairwise_iff Reservation.Apart.symm, List.pairwise_cons]
      exact ⟨admits.free, sound.apart reservation.resource⟩
    · exact sound.apart resource
  case bounded =>
    intro resource
    rw [book_apply_created]
    split
    · rename_i here
      subst here
      rw [Book.size_insert]
      exact admits.room
    · exact sound.bounded resource

/-- Removing a reservation from its home keeps the ledger sound. -/
theorem apply_deleted
    (sound : ledger.Sound) {id resource : Ulid}
    (home : ledger.homeOf? id = some resource) :
    (ledger.apply (.deleted id resource)).Sound := by
  have sublist :
      ∀ other, ((ledger.apply (.deleted id resource)).book other).toList.Sublist
        (ledger.book other).toList := by
    intro other
    rw [book_apply_deleted]
    split
    · rw [Book.toList_erase]
      exact List.eraseP_sublist
    · exact List.Sublist.refl _
  have notRemoved :
      ∀ other, ∀ r ∈ ((ledger.apply (.deleted id resource)).book other).toList, id ≠ r.id := by
    intro other r member same
    have old := (sublist other).subset member
    have elsewhere := (sound.owned other r old).2
    rw [← same, home, Option.some.injEq] at elsewhere
    subst elsewhere
    rw [book_apply_deleted, if_pos rfl, sound.toList_erase] at member
    simp [same] at member
  constructor
  case sorted =>
    intro other
    exact List.Pairwise.sublist (sublist other) (sound.sorted other)
  case owned =>
    intro other r member
    rw [homeOf?_apply_deleted, if_neg (notRemoved other r member)]
    exact sound.owned other r ((sublist other).subset member)
  case housed =>
    intro kept other keptHome
    rw [homeOf?_apply_deleted] at keptHome
    split at keptHome
    · cases keptHome
    · rename_i different
      obtain ⟨r, member, rfl⟩ := sound.housed kept other keptHome
      refine ⟨r, ?_, rfl⟩
      rw [book_apply_deleted]
      split
      · rw [sound.toList_erase, List.mem_filter]
        exact ⟨member, by simpa using Ne.symm different⟩
      · exact member
  case distinct =>
    intro other
    exact List.Pairwise.sublist (sublist other) (sound.distinct other)
  case valid =>
    intro other r member
    exact sound.valid other r ((sublist other).subset member)
  case apart =>
    intro other
    exact List.Pairwise.sublist (sublist other) (sound.apart other)
  case bounded =>
    intro other
    have shorter := (sublist other).length_le
    rw [Book.length_toList, Book.length_toList] at shorter
    exact Nat.le_trans shorter (sound.bounded other)

end Sound

end Ledger

end Reservations
