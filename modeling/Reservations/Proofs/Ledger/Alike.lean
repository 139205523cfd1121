import Reservations.Proofs.Ledger.Sound

namespace Reservations.Ledger

/-! ## Ledgers that answer alike

Two ledgers with the same reservations on each resource answer every question
alike, whatever the order of those that start together. Active ones cannot start
together, and only active ones keep others out. -/

/-- Both ledgers have the same books. A book that was never opened counts as an
empty one. -/
structure Same (left right : Ledger) : Prop where
  homes : ∀ id, left.homeOf? id = right.homeOf? id
  books : ∀ resource, left.book resource = right.book resource

/-- Both ledgers hold the same reservations on each resource. -/
structure Alike (left right : Ledger) : Prop where
  homes : ∀ id, left.homeOf? id = right.homeOf? id
  books : ∀ resource, (left.book resource).toList.Perm (right.book resource).toList

namespace Same

variable {left middle right : Ledger}

theorem refl (ledger : Ledger) : ledger.Same ledger :=
  ⟨fun _ => rfl, fun _ => rfl⟩

theorem symm (same : left.Same right) : right.Same left :=
  ⟨fun id => (same.homes id).symm, fun resource => (same.books resource).symm⟩

theorem trans (first : left.Same middle) (second : middle.Same right) : left.Same right :=
  ⟨fun id => (first.homes id).trans (second.homes id),
    fun resource => (first.books resource).trans (second.books resource)⟩

theorem openBook (ledger : Ledger) (resource : Ulid) :
    (ledger.openBook resource).Same ledger :=
  ⟨fun _ => rfl, ledger.book_openBook resource⟩

/-- An event does the same to both. -/
theorem apply (same : left.Same right) (event : Event) :
    (left.apply event).Same (right.apply event) := by
  constructor
  · intro id
    cases event with
    | created reservation =>
        rw [homeOf?_apply_created, homeOf?_apply_created, same.homes]
    | deleted removed resource =>
        rw [homeOf?_apply_deleted, homeOf?_apply_deleted, same.homes]
  · intro other
    rw [book_apply, book_apply, same.books]

theorem sound (same : left.Same right) (sound : right.Sound) : left.Sound where
  sorted resource := by
    rw [same.books]
    exact sound.sorted resource
  owned resource r member := by
    rw [same.books] at member
    rw [same.homes]
    exact sound.owned resource r member
  housed id resource home := by
    rw [same.homes] at home
    rw [same.books]
    exact sound.housed id resource home
  distinct resource := by
    rw [same.books]
    exact sound.distinct resource
  valid resource r member := by
    rw [same.books] at member
    exact sound.valid resource r member
  apart resource := by
    rw [same.books]
    exact sound.apart resource
  bounded resource := by
    rw [same.books]
    exact sound.bounded resource

theorem alike (same : left.Same right) : left.Alike right where
  homes := same.homes
  books resource := by rw [same.books]

end Same

/-! ### The books that hold something

A book that was opened but never written to shows in no list. -/

def filled (ledger : Ledger) : List (Ulid × Book) :=
  ledger.books.toList.filter fun pair => !pair.2.toList.isEmpty

theorem list_none_eq_filled (ledger : Ledger) :
    ledger.list none = ledger.filled.flatMap fun pair => pair.2.toList := by
  change ledger.books.toList.flatMap (fun pair => pair.2.toList) = _
  rw [filled]
  induction ledger.books.toList with
  | nil => rfl
  | cons first rest inductionHypothesis =>
      rw [List.flatMap_cons, List.filter_cons, inductionHypothesis]
      by_cases holds : (!first.2.toList.isEmpty) = true
      · rw [if_pos holds, List.flatMap_cons]
      · have nothing : first.2.toList = [] := by simpa using holds
        rw [if_neg holds, nothing, List.nil_append]

theorem mem_filled_iff (ledger : Ledger) (resource : Ulid) (book : Book) :
    (resource, book) ∈ ledger.filled ↔ ledger.book resource = book ∧ book.toList ≠ [] := by
  rw [filled, List.mem_filter, Std.TreeMap.mem_toList_iff_getElem?_eq_some]
  simp only [Bool.not_eq_true', List.isEmpty_eq_false_iff, Ledger.book]
  refine and_congr_left fun holds => ?_
  constructor
  · intro found
    rw [found, Option.getD_some]
  · intro same
    cases found : ledger.books[resource]? with
    | some other =>
        rw [found, Option.getD_some] at same
        rw [same]
    | none =>
        rw [found, Option.getD_none] at same
        subst same
        exact absurd rfl holds

theorem ordered_filled (ledger : Ledger) :
    ledger.filled.Pairwise fun earlier later => compare earlier.1 later.1 = .lt :=
  List.Pairwise.filter _ Std.TreeMap.ordered_keys_toList

theorem nodup_filled (ledger : Ledger) : ledger.filled.Nodup := by
  refine ledger.ordered_filled.imp ?_
  rintro earlier later before rfl
  rw [Std.ReflOrd.compare_self] at before
  cases before

namespace Same

variable {left right : Ledger}

theorem filled_eq (same : left.Same right) : left.filled = right.filled := by
  refine List.Perm.eq_of_pairwise ?_ left.ordered_filled right.ordered_filled ?_
  · intro earlier later _ _ before after
    rw [Std.OrientedOrd.eq_swap, after] at before
    cases before
  · rw [List.perm_ext_iff_of_nodup left.nodup_filled right.nodup_filled]
    rintro ⟨resource, book⟩
    rw [mem_filled_iff, mem_filled_iff, same.books]

/-- The lists are the same, entry by entry. -/
theorem list_eq (same : left.Same right) (resource? : Option Ulid) :
    left.list resource? = right.list resource? := by
  cases resource? with
  | none => rw [list_none_eq_filled, list_none_eq_filled, same.filled_eq]
  | some resource => rw [list_some, list_some, same.books]

end Same

/-! ### What sound ledgers answer -/

theorem get?_eq_bind (ledger : Ledger) (id : Ulid) :
    ledger.get? id =
      (ledger.homeOf? id).bind fun resource => (ledger.book resource).get? id := by
  simp only [get?, book, Option.bind_eq_bind]
  cases ledger.homeOf? id with
  | none => rfl
  | some resource =>
      simp only [Option.bind_some]
      cases ledger.books[resource]? with
      | none => simp [Book.get?, Book.empty]
      | some book => rfl

namespace Sound

variable {ledger : Ledger}

/-- A reservation is found by its identifier exactly when it stands in its
book. -/
theorem get?_eq_some_iff (sound : ledger.Sound) (id : Ulid) (r : Reservation) :
    ledger.get? id = some r ↔ r ∈ (ledger.book r.resource).toList ∧ r.id = id := by
  rw [get?_eq_bind, Option.bind_eq_some_iff]
  constructor
  · rintro ⟨resource, _, found⟩
    rw [Book.get?_eq_find?] at found
    have member := List.mem_of_find?_eq_some found
    obtain ⟨rfl, _⟩ := sound.owned resource r member
    exact ⟨member, by simpa using List.find?_some found⟩
  · rintro ⟨member, rfl⟩
    refine ⟨r.resource, (sound.owned r.resource r member).2, ?_⟩
    rw [Book.get?_eq_find?]
    cases found : (ledger.book r.resource).toList.find? (·.id = r.id) with
    | none =>
        have := List.find?_eq_none.mp found r member
        simp at this
    | some other =>
        have sameId : other.id = r.id := by simpa using List.find?_some found
        rw [sound.eq_of_id_eq (List.mem_of_find?_eq_some found) member sameId]

/-- Active reservations of one resource follow each other strictly. -/
theorem active_pairwise_lt (sound : ledger.Sound) (resource : Ulid) :
    ((ledger.book resource).toList.filter fun r => r.status.isActive).Pairwise
      fun earlier later => earlier.span.start < later.span.start := by
  have together :=
    ((sound.sorted resource).and (sound.apart resource)).filter fun r => r.status.isActive
  refine List.Pairwise.imp_of_mem ?_ together
  intro earlier later earlierMember laterMember both
  obtain ⟨earlierHeld, earlierActive⟩ := List.mem_filter.mp earlierMember
  obtain ⟨laterHeld, laterActive⟩ := List.mem_filter.mp laterMember
  have different :=
    Span.start_ne_of_not_overlaps
      (sound.valid resource earlier earlierHeld) (sound.valid resource later laterHeld)
      (both.2 earlierActive laterActive)
  exact Int64.lt_of_le_of_ne both.1 different

theorem firstBlocking_eq_active (sound : ledger.Sound) (resource : Ulid) (span : Span) :
    (ledger.book resource).firstBlocking span =
      ((ledger.book resource).toList.filter fun r => r.status.isActive).find?
        fun r => r.span.overlaps span := by
  rw [Book.firstBlocking_eq_find? (sound.sorted resource), List.find?_filter]
  congr 1
  funext r
  simp only [Reservation.blocks, Bool.decide_and, Bool.decide_eq_true]

end Sound

namespace Alike

variable {left middle right : Ledger}

theorem refl (ledger : Ledger) : ledger.Alike ledger :=
  (Same.refl ledger).alike

theorem symm (alike : left.Alike right) : right.Alike left :=
  ⟨fun id => (alike.homes id).symm, fun resource => (alike.books resource).symm⟩

theorem trans (first : left.Alike middle) (second : middle.Alike right) :
    left.Alike right :=
  ⟨fun id => (first.homes id).trans (second.homes id),
    fun resource => (first.books resource).trans (second.books resource)⟩

/-- For sound ledgers the books decide about the homes. -/
theorem of_books
    (leftSound : left.Sound) (rightSound : right.Sound)
    (books : ∀ resource, (left.book resource).toList.Perm (right.book resource).toList) :
    left.Alike right := by
  refine ⟨fun id => ?_, books⟩
  apply Option.ext
  intro resource
  rw [leftSound.homeOf?_eq_some_iff, rightSound.homeOf?_eq_some_iff]
  simp only [(books resource).mem_iff]

theorem size_eq (alike : left.Alike right) (resource : Ulid) :
    (left.book resource).size = (right.book resource).size := by
  rw [← Book.length_toList, ← Book.length_toList, (alike.books resource).length_eq]

theorem apply_created (alike : left.Alike right) (reservation : Reservation) :
    (left.apply (.created reservation)).Alike (right.apply (.created reservation)) := by
  constructor
  · intro id
    rw [homeOf?_apply_created, homeOf?_apply_created, alike.homes]
  · intro other
    rw [book_apply_created, book_apply_created]
    split
    · calc
        ((left.book other).insert reservation).toList.Perm
            (reservation :: (left.book other).toList) := Book.insert_perm _ _
        _ |>.Perm (reservation :: (right.book other).toList) := (alike.books other).cons _
        _ |>.Perm ((right.book other).insert reservation).toList := (Book.insert_perm _ _).symm
    · exact alike.books other

theorem apply_deleted
    (alike : left.Alike right) (leftSound : left.Sound) (rightSound : right.Sound)
    (id resource : Ulid) :
    (left.apply (.deleted id resource)).Alike (right.apply (.deleted id resource)) := by
  constructor
  · intro other
    rw [homeOf?_apply_deleted, homeOf?_apply_deleted, alike.homes]
  · intro other
    rw [book_apply_deleted, book_apply_deleted]
    split
    · rw [leftSound.toList_erase, rightSound.toList_erase]
      exact (alike.books other).filter _
    · exact alike.books other

/-- What one of them admits, the other does. -/
theorem admits (alike : left.Alike right) {reservation : Reservation}
    (admitted : left.Admits reservation) : right.Admits reservation where
  valid := admitted.valid
  fresh := by
    rw [← alike.homes]
    exact admitted.fresh
  room := by
    rw [← alike.size_eq]
    exact admitted.room
  free r member := admitted.free r ((alike.books _).mem_iff.mpr member)

theorem get?_eq
    (alike : left.Alike right) (leftSound : left.Sound) (rightSound : right.Sound)
    (id : Ulid) :
    left.get? id = right.get? id := by
  apply Option.ext
  intro r
  rw [leftSound.get?_eq_some_iff, rightSound.get?_eq_some_iff, (alike.books _).mem_iff]

theorem count_eq (alike : left.Alike right) : left.count = right.count := by
  have equiv : left.homes.Equiv right.homes :=
    Std.TreeMap.Equiv.of_forall_constGet?_eq alike.homes
  exact equiv.size_eq

theorem firstBlocking_eq
    (alike : left.Alike right) (leftSound : left.Sound) (rightSound : right.Sound)
    (resource : Ulid) (span : Span) :
    (left.book resource).firstBlocking span = (right.book resource).firstBlocking span := by
  rw [leftSound.firstBlocking_eq_active, rightSound.firstBlocking_eq_active]
  have active :=
    List.Perm.eq_of_pairwise
      (fun earlier later _ _ before after =>
        absurd (Int64.lt_trans before after) Int64.lt_irrefl)
      (leftSound.active_pairwise_lt resource) (rightSound.active_pairwise_lt resource)
      ((alike.books resource).filter _)
  rw [active]

theorem findOverlap?_eq
    (alike : left.Alike right) (leftSound : left.Sound) (rightSound : right.Sound)
    (resource : Ulid) (span : Span) :
    left.findOverlap? resource span = right.findOverlap? resource span := by
  rw [Ledger.findOverlap?_eq, Ledger.findOverlap?_eq,
    alike.firstBlocking_eq leftSound rightSound]

end Alike

end Reservations.Ledger
