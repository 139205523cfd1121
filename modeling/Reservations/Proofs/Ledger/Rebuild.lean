import Mathlib.Data.List.Induction
import Reservations.Proofs.Ledger.Alike

namespace Reservations

/-! ## Rebuilding a ledger from what it holds

Compaction writes down one creation for each reservation. Applying the creations
from the start gives back the same reservations, and applying only some of them
still gives a sound ledger. -/

/-- Reservations that can stand in a sound ledger together. -/
structure Consistent (entries : List Reservation) : Prop where
  valid : ∀ r ∈ entries, r.span.flaw? = none
  together : entries.Pairwise fun left right =>
    left.id ≠ right.id ∧ (left.resource = right.resource → left.Apart right)
  bounded : ∀ resource : Ulid,
    (entries.filter fun r => r.resource = resource).length ≤ Limits.bookSize

theorem Consistent.sublist
    {some all : List Reservation} (consistent : Consistent all) (part : some.Sublist all) :
    Consistent some where
  valid r member := consistent.valid r (part.subset member)
  together := consistent.together.sublist part
  bounded resource :=
    Nat.le_trans (part.filter _).length_le (consistent.bounded resource)

theorem Consistent.perm
    {entries others : List Reservation} (consistent : Consistent entries)
    (rearranged : entries.Perm others) : Consistent others where
  valid r member := consistent.valid r (rearranged.mem_iff.mpr member)
  together := by
    refine rearranged.pairwise consistent.together ?_
    rintro left right ⟨different, apart⟩
    exact ⟨different.symm, fun same => (apart same.symm).symm⟩
  bounded resource := by
    rw [← (rearranged.filter _).length_eq]
    exact consistent.bounded resource

namespace Ledger

/-! ### The list of all reservations -/

theorem filter_flatMap_of_not_mem
    (pairs : List (Ulid × Book)) (resource : Ulid)
    (owned : ∀ pair ∈ pairs, ∀ r ∈ pair.2.toList, r.resource = pair.1)
    (absent : ∀ pair ∈ pairs, pair.1 ≠ resource) :
    (pairs.flatMap fun pair => pair.2.toList).filter (fun r => r.resource = resource) = [] := by
  rw [List.filter_eq_nil_iff]
  intro r member
  obtain ⟨pair, pairMember, inBook⟩ := List.mem_flatMap.mp member
  rw [owned pair pairMember r inBook]
  simpa using absent pair pairMember

theorem filter_flatMap_of_mem
    {pairs : List (Ulid × Book)} {resource : Ulid} {book : Book}
    (distinct : pairs.Pairwise fun left right => left.1 ≠ right.1)
    (owned : ∀ pair ∈ pairs, ∀ r ∈ pair.2.toList, r.resource = pair.1)
    (member : (resource, book) ∈ pairs) :
    (pairs.flatMap fun pair => pair.2.toList).filter (fun r => r.resource = resource) =
      book.toList := by
  obtain ⟨front, back, rfl⟩ := List.append_of_mem member
  rw [List.pairwise_append, List.pairwise_cons] at distinct
  obtain ⟨_, ⟨notBehind, _⟩, notBefore⟩ := distinct
  have before :=
    filter_flatMap_of_not_mem front resource
      (fun pair inFront => owned pair (List.mem_append_left _ inFront))
      (fun pair inFront => notBefore pair inFront _ List.mem_cons_self)
  have behind :=
    filter_flatMap_of_not_mem back resource
      (fun pair inBack =>
        owned pair (List.mem_append_right _ (List.mem_cons_of_mem _ inBack)))
      (fun pair inBack => (notBehind pair inBack).symm)
  have here : book.toList.filter (fun r => r.resource = resource) = book.toList := by
    rw [List.filter_eq_self]
    intro r inBook
    exact decide_eq_true (owned _ member r inBook)
  rw [List.flatMap_append, List.flatMap_cons, List.filter_append, List.filter_append,
    before, behind, here, List.nil_append, List.append_nil]

theorem book_eq_of_mem_books
    {ledger : Ledger} {resource : Ulid} {book : Book}
    (member : (resource, book) ∈ ledger.books.toList) :
    ledger.book resource = book := by
  rw [Std.TreeMap.mem_toList_iff_getElem?_eq_some] at member
  rw [Ledger.book, member, Option.getD_some]

theorem distinct_books (ledger : Ledger) :
    ledger.books.toList.Pairwise fun left right => left.1 ≠ right.1 := by
  refine Std.TreeMap.distinct_keys_toList.imp ?_
  intro left right different same
  exact different (by rw [same, Std.ReflOrd.compare_self])

namespace Sound

variable {ledger : Ledger}

theorem owned_books (sound : ledger.Sound) :
    ∀ pair ∈ ledger.books.toList, ∀ r ∈ pair.2.toList, r.resource = pair.1 := by
  rintro ⟨resource, book⟩ member r inBook
  rw [← book_eq_of_mem_books member] at inBook
  exact (sound.owned resource r inBook).1

/-- The list of all reservations holds the books one after the other. -/
theorem filter_list_none (sound : ledger.Sound) (resource : Ulid) :
    (ledger.list none).filter (fun r => r.resource = resource) =
      (ledger.book resource).toList := by
  cases found : ledger.books[resource]? with
  | some book =>
      have member := Std.TreeMap.mem_toList_iff_getElem?_eq_some.mpr found
      rw [book_eq_of_mem_books member]
      exact filter_flatMap_of_mem ledger.distinct_books sound.owned_books member
  | none =>
      rw [Ledger.book, found]
      refine filter_flatMap_of_not_mem _ resource sound.owned_books ?_
      rintro ⟨other, book⟩ member rfl
      rw [Std.TreeMap.mem_toList_iff_getElem?_eq_some, found] at member
      cases member

theorem mem_list_none_iff (sound : ledger.Sound) (r : Reservation) :
    r ∈ ledger.list none ↔ r ∈ (ledger.book r.resource).toList := by
  rw [← sound.filter_list_none, List.mem_filter]
  simp

/-- What a sound ledger lists can stand together. -/
theorem consistent_list_none (sound : ledger.Sound) : Consistent (ledger.list none) where
  valid r member := sound.valid r.resource r ((sound.mem_list_none_iff r).mp member)
  together := by
    rw [list, List.pairwise_flatMap]
    constructor
    · rintro ⟨resource, book⟩ member
      rw [← book_eq_of_mem_books member]
      refine ((sound.distinct resource).and (sound.apart resource)).imp ?_
      rintro left right ⟨different, apart⟩
      exact ⟨different, fun _ => apart⟩
    · refine List.Pairwise.imp_of_mem ?_ ledger.distinct_books
      rintro ⟨leftResource, leftBook⟩ ⟨rightResource, rightBook⟩ leftMember rightMember
        elsewhere left inLeft right inRight
      rw [← book_eq_of_mem_books leftMember] at inLeft
      rw [← book_eq_of_mem_books rightMember] at inRight
      obtain ⟨leftOwned, leftHome⟩ := sound.owned leftResource left inLeft
      obtain ⟨rightOwned, rightHome⟩ := sound.owned rightResource right inRight
      constructor
      · intro same
        rw [same, rightHome, Option.some.injEq] at leftHome
        exact elsewhere leftHome.symm
      · intro same
        rw [leftOwned, rightOwned] at same
        exact absurd same elsewhere
  bounded resource := by
    rw [sound.filter_list_none, Book.length_toList]
    exact sound.bounded resource

end Sound

/-! ### From creations back to books -/

/-- Each book holds the reservations of its resource, in some order. -/
def Holds (ledger : Ledger) (entries : List Reservation) : Prop :=
  ∀ resource, (ledger.book resource).toList.Perm
    (entries.filter fun r => r.resource = resource)

theorem Holds.apply_created
    {ledger : Ledger} {entries : List Reservation} (holds : ledger.Holds entries)
    (r : Reservation) :
    (ledger.apply (.created r)).Holds (entries ++ [r]) := by
  intro resource
  rw [book_apply_created, List.filter_append]
  split
  · rename_i here
    calc
      ((ledger.book resource).insert r).toList.Perm
          (r :: (ledger.book resource).toList) := Book.insert_perm _ _
      _ |>.Perm (r :: entries.filter fun r => r.resource = resource) :=
          (holds resource).cons r
      _ |>.Perm ((entries.filter fun r => r.resource = resource)
            ++ [r].filter fun r => r.resource = resource) := by
          rw [List.filter_cons_of_pos (by simpa using here), List.filter_nil]
          exact (List.perm_append_singleton r _).symm
  · rename_i elsewhere
    rw [List.filter_cons_of_neg (by simpa using elsewhere), List.filter_nil, List.append_nil]
    exact holds resource

/-- What is consistent with the reservations held is admitted. -/
theorem Sound.admits_of_consistent
    {ledger : Ledger} (sound : ledger.Sound) {entries : List Reservation}
    (holds : ledger.Holds entries) {r : Reservation} (consistent : Consistent (entries ++ [r])) :
    ledger.Admits r := by
  have together := consistent.together
  rw [List.pairwise_append] at together
  have beside : ∀ {resource : Ulid} {other : Reservation},
      other ∈ (ledger.book resource).toList → other ∈ entries ∧ other.resource = resource := by
    intro resource other member
    have listed := List.mem_filter.mp ((holds resource).mem_iff.mp member)
    exact ⟨listed.1, of_decide_eq_true listed.2⟩
  constructor
  case valid => exact consistent.valid r (by simp)
  case fresh =>
    rw [Option.eq_none_iff_forall_ne_some]
    intro resource home
    obtain ⟨other, member, same⟩ := sound.housed r.id resource home
    exact (together.2.2 other (beside member).1 r List.mem_cons_self).1 same
  case room =>
    have bound := consistent.bounded r.resource
    rw [List.filter_append, List.length_append, ← (holds r.resource).length_eq,
      Book.length_toList] at bound
    simp only [decide_true, List.filter_cons_of_pos, List.filter_nil,
      List.length_singleton] at bound
    exact bound
  case free =>
    intro other member
    have both := together.2.2 other (beside member).1 r List.mem_cons_self
    exact (both.2 (beside member).2).symm

/-- The ledger that creations alone lead to. -/
def ofCreations (entries : List Reservation) : Ledger :=
  empty.applyAll (entries.map Event.created)

theorem ofCreations_concat (entries : List Reservation) (r : Reservation) :
    ofCreations (entries ++ [r]) = (ofCreations entries).apply (.created r) := by
  simp [ofCreations, applyAll]

theorem sound_ofCreations
    {entries : List Reservation} (consistent : Consistent entries) :
    (ofCreations entries).Sound ∧ (ofCreations entries).Holds entries := by
  -- From the end, so that the last creation meets the ledger of those before it.
  induction entries using List.reverseRecOn with
  | nil =>
      refine ⟨sound_empty, fun resource => ?_⟩
      simp [ofCreations, applyAll, Book.empty, Book.toList]
  | append_singleton entries r inductionHypothesis =>
      obtain ⟨sound, holds⟩ :=
        inductionHypothesis (consistent.sublist (List.sublist_append_left entries [r]))
      have admits := sound.admits_of_consistent holds consistent
      rw [ofCreations_concat]
      exact ⟨sound.apply_created admits, holds.apply_created r⟩

/-- The creations of everything a sound ledger lists lead to the same
reservations. -/
theorem Sound.alike_ofCreations {ledger : Ledger} (sound : ledger.Sound) :
    (ofCreations (ledger.list none)).Alike ledger := by
  obtain ⟨rebuilt, holds⟩ := sound_ofCreations sound.consistent_list_none
  refine Alike.of_books rebuilt sound fun resource => ?_
  rw [← sound.filter_list_none]
  exact holds resource

end Ledger

end Reservations
