import Reservations.Proofs.Ledger.Views

namespace Reservations

/-! ## Reservations that start together

The start decides where a reservation goes in its book, and among those that start
together it goes directly before the last. So adding the entries of a book again, in
their order, gives back their order but for the first of those that start together,
which ends up behind the others. -/

/-- Reservations of one resource that start together. -/
def Tied (left right : Reservation) : Prop :=
  left.resource = right.resource ∧ left.span.start = right.span.start

instance (left right : Reservation) : Decidable (Tied left right) :=
  inferInstanceAs (Decidable (_ ∧ _))

/-- A reservation waits for those that are tied to it to go by, and then the next one
waits. -/
def turnedBehind (first : Reservation) : List Reservation → List Reservation
  | [] => [first]
  | next :: rest =>
      if Tied first next then next :: turnedBehind first rest
      else first :: turnedBehind next rest

/-- The first of those that are tied is put behind the others. -/
def turned : List Reservation → List Reservation
  | [] => []
  | first :: rest => turnedBehind first rest

theorem turnedBehind_perm (first : Reservation) (rest : List Reservation) :
    (turnedBehind first rest).Perm (first :: rest) := by
  induction rest generalizing first with
  | nil => exact List.Perm.refl _
  | cons next rest inductionHypothesis =>
      rw [turnedBehind]
      split
      · exact ((inductionHypothesis first).cons next).trans (List.Perm.swap first next rest)
      · exact (inductionHypothesis next).cons first

theorem turned_perm (entries : List Reservation) : (turned entries).Perm entries := by
  cases entries with
  | nil => exact List.Perm.refl _
  | cons first rest => exact turnedBehind_perm first rest

theorem turnedBehind_eq_self
    {first : Reservation} {rest : List Reservation}
    (loose : (first :: rest).Pairwise fun left right => ¬ Tied left right) :
    turnedBehind first rest = first :: rest := by
  induction rest generalizing first with
  | nil => rfl
  | cons next rest inductionHypothesis =>
      obtain ⟨beside, others⟩ := List.pairwise_cons.mp loose
      have untied := beside next List.mem_cons_self
      rw [turnedBehind, if_neg untied, inductionHypothesis others]

/-- Where nothing is tied, everything keeps its place. -/
theorem turned_eq_self
    {entries : List Reservation}
    (loose : entries.Pairwise fun left right => ¬ Tied left right) :
    turned entries = entries := by
  cases entries with
  | nil => rfl
  | cons first rest => exact turnedBehind_eq_self loose

namespace Ledger.Ordered

variable {first next other : Reservation}

/-- What is tied to a later reservation is tied to all that lie between. -/
theorem tied_between
    (before : Ordered first next) (behind : Ordered next other) (tied : Tied first other) :
    Tied first next := by
  obtain ⟨together, start⟩ := tied
  have level : first.resource = next.resource := by
    rcases before with lower | ⟨same, _⟩
    · rcases behind with upper | ⟨same, _⟩
      · have apart := Std.TransCmp.lt_trans lower upper
        rw [together, Std.ReflOrd.compare_self] at apart
        cases apart
      · rw [together, same, Std.ReflOrd.compare_self] at lower
        cases lower
    · exact same
  rw [level] at together
  refine ⟨level, ?_⟩
  rcases before with lower | ⟨_, early⟩
  · rw [level, Std.ReflOrd.compare_self] at lower
    cases lower
  · rcases behind with upper | ⟨_, late⟩
    · rw [together, Std.ReflOrd.compare_self] at upper
      cases upper
    · rw [← start] at late
      exact Int64.le_antisymm early late

end Ledger.Ordered

theorem loose_of_turnedBehind_eq
    {first : Reservation} {rest : List Reservation} (distinct : (first :: rest).Nodup)
    (ordered : (first :: rest).Pairwise Ledger.Ordered)
    (kept : turnedBehind first rest = first :: rest) :
    (first :: rest).Pairwise fun left right => ¬ Tied left right := by
  induction rest generalizing first with
  | nil => exact List.pairwise_singleton _ first
  | cons next rest inductionHypothesis =>
      obtain ⟨absent, others⟩ := List.nodup_cons.mp distinct
      obtain ⟨before, sorted⟩ := List.pairwise_cons.mp ordered
      rw [turnedBehind] at kept
      by_cases tied : Tied first next
      · rw [if_pos tied] at kept
        have same : next = first := (List.cons.inj kept).1
        exact absurd (List.mem_cons.mpr (Or.inl same.symm)) absent
      · rw [if_neg tied] at kept
        have loose := inductionHypothesis others sorted (List.cons.inj kept).2
        refine List.pairwise_cons.mpr ⟨List.forall_mem_cons.mpr ⟨tied, ?_⟩, loose⟩
        -- In between stands the next one, which would be tied as well.
        intro other member both
        have early := before next List.mem_cons_self
        have late := (List.pairwise_cons.mp sorted).1 other member
        exact tied (early.tied_between late both)

/-- In an ordered list something changes its place as soon as any two reservations are
tied. -/
theorem turned_eq_self_iff
    {entries : List Reservation} (distinct : entries.Nodup)
    (ordered : entries.Pairwise Ledger.Ordered) :
    turned entries = entries ↔ entries.Pairwise fun left right => ¬ Tied left right := by
  refine ⟨fun kept => ?_, turned_eq_self⟩
  cases entries with
  | nil => exact List.Pairwise.nil
  | cons first rest => exact loose_of_turnedBehind_eq distinct ordered kept

theorem turnedBehind_append
    {first : Reservation} {rest back : List Reservation}
    (apart : ∀ left ∈ first :: rest, ∀ right ∈ back, ¬ Tied left right) :
    turnedBehind first (rest ++ back) = turnedBehind first rest ++ turned back := by
  induction rest generalizing first with
  | nil =>
      cases back with
      | nil => rfl
      | cons next others =>
          have untied := apart first List.mem_cons_self next List.mem_cons_self
          change turnedBehind first (next :: others) = first :: turnedBehind next others
          rw [turnedBehind, if_neg untied]
  | cons next rest inductionHypothesis =>
      obtain ⟨head, tail⟩ := List.forall_mem_cons.mp apart
      rw [List.cons_append, turnedBehind, turnedBehind]
      by_cases tied : Tied first next
      · have waiting : ∀ left ∈ first :: rest, ∀ right ∈ back, ¬ Tied left right :=
          List.forall_mem_cons.mpr
            ⟨head, fun left member => tail left (List.mem_cons_of_mem _ member)⟩
        rw [if_pos tied, if_pos tied, inductionHypothesis waiting, List.cons_append]
      · rw [if_neg tied, if_neg tied, inductionHypothesis tail, List.cons_append]

theorem turned_append
    {front back : List Reservation} (apart : ∀ left ∈ front, ∀ right ∈ back, ¬ Tied left right) :
    turned (front ++ back) = turned front ++ turned back := by
  cases front with
  | nil => rfl
  | cons first rest => exact turnedBehind_append apart

/-- Resource by resource nothing is tied to anything elsewhere. -/
theorem turned_flatMap
    {resources : List Ulid} {entries : Ulid → List Reservation}
    (distinct : resources.Pairwise fun left right => left ≠ right)
    (owned : ∀ resource, ∀ r ∈ entries resource, r.resource = resource) :
    turned (resources.flatMap entries) =
      resources.flatMap fun resource => turned (entries resource) := by
  induction resources with
  | nil => rfl
  | cons resource resources inductionHypothesis =>
      obtain ⟨different, others⟩ := List.pairwise_cons.mp distinct
      rw [List.flatMap_cons, List.flatMap_cons, turned_append, inductionHypothesis others]
      intro left inFront right inBack tied
      obtain ⟨other, member, inOther⟩ := List.mem_flatMap.mp inBack
      have same := tied.1
      rw [owned resource left inFront, owned other right inOther] at same
      exact different other member same

/-! ### Adding in the order of starts -/

namespace Book

/-- What starts no earlier than all others goes to the end, or directly before the last
when that one starts at the same time. -/
theorem toList_insert_of_last
    {book : Book} (sorted : book.Sorted) {front : List Reservation} {last r : Reservation}
    (split : book.toList = front ++ [last]) (late : last.span.start ≤ r.span.start) :
    (book.insert r).toList =
      if last.span.start = r.span.start then front ++ [r, last] else front ++ [last, r] := by
  have length : book.size = front.length + 1 := by
    rw [← length_toList, split, List.length_append, List.length_singleton]
  -- All entries pass the test of the search, so that it ends behind the last.
  have all : ∀ other ∈ book.toList, other.span.start ≤ r.span.start := by
    intro other member
    have ordered := sorted
    rw [Sorted, split, List.pairwise_append] at ordered
    rw [split, List.mem_append, List.mem_singleton] at member
    rcases member with earlier | rfl
    · exact Int64.le_trans (ordered.2.2 other earlier last List.mem_cons_self) late
    · exact late
  have upTo : partitionPoint book.entries (fun other => decide (other.span.start ≤ r.span.start)) =
      book.size := by
    have bound := partitionPoint_le_size book.entries
      fun other => decide (other.span.start ≤ r.span.start)
    have taken := take_partitionPoint (partitioned_start_le sorted r.span.start)
    have whole : book.toList.filter (fun other => decide (other.span.start ≤ r.span.start)) =
        book.toList :=
      List.filter_eq_self.mpr fun other member => decide_eq_true (all other member)
    have lengths := congrArg List.length (taken.trans whole)
    rw [List.length_take, length_toList] at lengths
    unfold size at *
    omega
  have atEnd : book.entries[book.size - 1]? = some last := by
    have read : book.toList[front.length]? = some last := by
      rw [split, List.getElem?_append_right (Nat.le_refl _), Nat.sub_self]
      rfl
    rw [length, Nat.add_sub_cancel, ← Array.getElem?_toList]
    exact read
  by_cases same : last.span.start = r.span.start
  · have place : book.insertionPoint r.span.start = front.length := by
      simp only [insertionPoint, upTo, atEnd, Option.any_some, same, decide_true, and_true]
      rw [if_pos (by omega)]
      omega
    rw [if_pos same, toList_insert_split, place, split]
    simp
  · have place : book.insertionPoint r.span.start = book.size := by
      simp [insertionPoint, upTo, atEnd, same]
    rw [if_neg same, toList_insert_split, place, ← length_toList, List.take_length,
      List.drop_length, split]
    simp

theorem toList_foldl_insert_behind
    {book : Book} (sorted : book.Sorted) {front : List Reservation} {last : Reservation}
    (split : book.toList = front ++ [last]) {entries : List Reservation}
    (owned : ∀ r ∈ entries, r.resource = last.resource)
    (ordered : (last :: entries).Pairwise fun left right => left.span.start ≤ right.span.start) :
    (entries.foldl insert book).toList = front ++ turnedBehind last entries := by
  -- On what is still to be added. The one at the end of the book is the one that waits.
  induction entries generalizing book front last with
  | nil => exact split
  | cons next entries inductionHypothesis =>
      rw [List.forall_mem_cons] at owned
      obtain ⟨later, rest⟩ := List.pairwise_cons.mp ordered
      rw [List.forall_mem_cons] at later
      have added := toList_insert_of_last sorted split later.1
      rw [List.foldl_cons, turnedBehind]
      by_cases same : last.span.start = next.span.start
      · rw [if_pos same] at added
        have grown : (book.insert next).toList = (front ++ [next]) ++ [last] := by simp [added]
        have behind : (last :: entries).Pairwise
            fun left right => left.span.start ≤ right.span.start :=
          List.pairwise_cons.mpr ⟨later.2, (List.pairwise_cons.mp rest).2⟩
        rw [inductionHypothesis (sorted.insert next) grown owned.2 behind,
          if_pos ⟨owned.1.symm, same⟩]
        simp
      · rw [if_neg same] at added
        have grown : (book.insert next).toList = (front ++ [last]) ++ [next] := by simp [added]
        have others : ∀ r ∈ entries, r.resource = next.resource := fun r member =>
          (owned.2 r member).trans owned.1.symm
        rw [inductionHypothesis (sorted.insert next) grown others rest,
          if_neg fun tied : Tied last next => same tied.2]
        simp

/-- Entries that are added in their order to an empty book are turned. -/
theorem toList_foldl_insert
    (resource : Ulid) {entries : List Reservation} (owned : ∀ r ∈ entries, r.resource = resource)
    (ordered : entries.Pairwise fun left right => left.span.start ≤ right.span.start) :
    (entries.foldl insert (empty resource)).toList = turned entries := by
  cases entries with
  | nil => rfl
  | cons first rest =>
      rw [List.forall_mem_cons] at owned
      have alone : ((empty resource).insert first).toList = [] ++ [first] := by
        rw [toList_insert_split]
        simp [empty, toList]
      exact toList_foldl_insert_behind ((sorted_empty resource).insert first) alone
        (fun r member => (owned.2 r member).trans owned.1.symm) ordered

end Book

namespace Ledger

theorem book_ofCreations (entries : List Reservation) (resource : Ulid) :
    (ofCreations entries).book resource =
      (entries.filter fun r => r.resource = resource).foldl Book.insert (Book.empty resource) := by
  induction entries using List.reverseRecOn with
  | nil => simp [ofCreations, applyAll]
  | append_singleton entries r inductionHypothesis =>
      rw [ofCreations_concat, book_apply_created, inductionHypothesis, List.filter_append]
      by_cases here : r.resource = resource
      · rw [if_pos here, List.filter_cons_of_pos (by simpa using here), List.foldl_append]
        rfl
      · rw [if_neg here, List.filter_cons_of_neg (by simpa using here), List.filter_nil,
          List.append_nil]

/-- Ledgers with reservations on the same resources go through them in the same order. -/
theorem resources_eq
    {left right : Ledger}
    (same : ∀ resource, left.list (some resource) ≠ [] ↔ right.list (some resource) ≠ []) :
    left.filled.map Prod.fst = right.filled.map Prod.fst := by
  have ordered : ∀ ledger : Ledger,
      (ledger.filled.map Prod.fst).Pairwise fun earlier later => compare earlier later = .lt :=
    fun ledger => List.pairwise_map.mpr ledger.ordered_filled
  have nodup : ∀ ledger : Ledger, (ledger.filled.map Prod.fst).Nodup := by
    intro ledger
    refine (ordered ledger).imp ?_
    rintro earlier later before rfl
    rw [Std.ReflOrd.compare_self] at before
    cases before
  refine List.Perm.eq_of_pairwise ?_ (ordered left) (ordered right) ?_
  · intro earlier later _ _ before after
    rw [Std.OrientedOrd.eq_swap, after] at before
    cases before
  · rw [List.perm_ext_iff_of_nodup (nodup left) (nodup right)]
    intro resource
    rw [mem_resources_iff, mem_resources_iff, same]

namespace Sound

variable {ledger : Ledger}

theorem owned_list (sound : ledger.Sound) :
    ∀ resource, ∀ r ∈ ledger.list (some resource), r.resource = resource := by
  intro resource r member
  rw [list_some] at member
  exact (sound.owned resource r member).1

/-- The creations of everything a sound ledger lists lead to the same lists, turned. -/
theorem list_ofCreations (sound : ledger.Sound) (resource? : Option Ulid) :
    (ofCreations (ledger.list none)).list resource? = turned (ledger.list resource?) := by
  have single : ∀ resource, (ofCreations (ledger.list none)).list (some resource) =
      turned (ledger.list (some resource)) := by
    intro resource
    rw [list_some, list_some, book_ofCreations, sound.filter_list_none]
    exact Book.toList_foldl_insert resource (fun r member => (sound.owned resource r member).1)
      (sound.sorted resource)
  cases resource? with
  | some resource => exact single resource
  | none =>
      have resources :
          (ofCreations (ledger.list none)).filled.map Prod.fst = ledger.filled.map Prod.fst := by
        refine resources_eq fun resource => not_congr ?_
        rw [single, List.eq_nil_iff_length_eq_zero, (turned_perm _).length_eq,
          List.eq_nil_iff_length_eq_zero]
      have distinct : (ledger.filled.map Prod.fst).Pairwise fun left right => left ≠ right := by
        rw [List.pairwise_map]
        refine ledger.ordered_filled.imp ?_
        intro left right before same
        rw [same, Std.ReflOrd.compare_self] at before
        cases before
      calc (ofCreations (ledger.list none)).list none
          _ = (ledger.filled.map Prod.fst).flatMap
                fun resource => (ofCreations (ledger.list none)).list (some resource) := by
              rw [list_none_eq_flatMap (ofCreations (ledger.list none)), resources]
          _ = (ledger.filled.map Prod.fst).flatMap
                fun resource => turned (ledger.list (some resource)) :=
              List.flatMap_congr fun resource _ => single resource
          _ = turned (ledger.list none) := by
              rw [ledger.list_none_eq_flatMap, turned_flatMap distinct sound.owned_list]

theorem turned_list_eq_iff (sound : ledger.Sound) (resource? : Option Ulid) :
    turned (ledger.list resource?) = ledger.list resource? ↔
      (ledger.list resource?).Pairwise fun left right => ¬ Tied left right := by
  have part : (ledger.list resource?).Sublist (ledger.list none) := by
    cases resource? with
    | none => exact List.Sublist.refl _
    | some resource =>
        rw [sound.viewsAgree.part resource]
        exact List.filter_sublist
  exact turned_eq_self_iff (sound.viewsAgree.distinct.sublist part)
    (sound.ordered_list_none.sublist part)

end Sound

end Ledger

end Reservations
