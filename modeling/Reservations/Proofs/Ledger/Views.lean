import Mathlib.Data.List.Nodup
import Reservations.Proofs.Ledger.Rebuild

namespace Reservations.Ledger

/-! ## The views of a ledger

Reservations can be asked for by identifier, by resource or all at once, and they can
be counted. Books and homes are kept apart from each other, so that these answers come
from different places. In a sound ledger they agree. -/

/-- One order for all reservations: by resource, then by start. -/
def Ordered (earlier later : Reservation) : Prop :=
  compare earlier.resource later.resource = .lt ∨
    earlier.resource = later.resource ∧ earlier.span.start ≤ later.span.start

/-- The lists say it all, and all the rest says the same as the lists. -/
structure ViewsAgree (ledger : Ledger) : Prop where
  /-- An identifier is in one book at most. -/
  alone : ∀ left right, ∀ r ∈ ledger.list (some left), ∀ s ∈ ledger.list (some right),
    r.id = s.id → left = right
  /-- It is in no book twice. -/
  once : ∀ resource, ((ledger.list (some resource)).map Reservation.id).Nodup
  indexed : ∀ id resource, ledger.homeOf? id = some resource ↔
    ∃ r ∈ ledger.list (some resource), r.id = id ∧ r.resource = resource
  found : ∀ id r, ledger.get? id = some r ↔ r ∈ ledger.list none ∧ r.id = id
  home : ∀ id, ledger.homeOf? id =
    ((ledger.list none).find? (·.id = id)).map Reservation.resource
  count : ledger.count = (ledger.list none).length
  size : ∀ resource, (ledger.book resource).size = (ledger.list (some resource)).length
  part : ∀ resource,
    ledger.list (some resource) = (ledger.list none).filter (·.resource = resource)
  sorted : ∀ resource, (ledger.list (some resource)).Pairwise
    fun earlier later => earlier.span.start ≤ later.span.start
  bounded : ∀ resource, (ledger.list (some resource)).length ≤ 100000
  /-- The list of all reservations goes through the resources that have some. -/
  joined : ∃ resources : List Ulid,
    resources.Pairwise (fun earlier later => compare earlier later = .lt) ∧
      (∀ resource, resource ∈ resources ↔ ledger.list (some resource) ≠ []) ∧
      ledger.list none = resources.flatMap fun resource => ledger.list (some resource)
  distinct : (ledger.list none).Nodup
  ordered : (ledger.list none).Pairwise Ordered

/-- The list of all reservations is made of the lists of the resources that have
some. -/
theorem list_none_eq_flatMap (ledger : Ledger) :
    ledger.list none =
      (ledger.filled.map Prod.fst).flatMap fun resource => ledger.list (some resource) := by
  rw [list_none_eq_filled, List.flatMap_map]
  refine List.flatMap_congr fun pair member => ?_
  rw [list_some, ((ledger.mem_filled_iff pair.1 pair.2).mp member).1]

theorem mem_resources_iff (ledger : Ledger) (resource : Ulid) :
    resource ∈ ledger.filled.map Prod.fst ↔ ledger.list (some resource) ≠ [] := by
  rw [list_some, List.mem_map]
  constructor
  · rintro ⟨⟨_, book⟩, member, rfl⟩
    obtain ⟨rfl, holds⟩ := (ledger.mem_filled_iff _ book).mp member
    exact holds
  · intro holds
    exact ⟨(resource, ledger.book resource), (ledger.mem_filled_iff _ _).mpr ⟨rfl, holds⟩, rfl⟩

namespace Sound

variable {ledger : Ledger}

/-- No identifier is listed twice. -/
theorem nodup_ids (sound : ledger.Sound) : ((ledger.list none).map Reservation.id).Nodup :=
  List.pairwise_map.mpr (sound.consistent_list_none.together.imp And.left)

/-- What is found under an identifier is what is listed with it. -/
theorem get?_eq_find? (sound : ledger.Sound) (id : Ulid) :
    ledger.get? id = (ledger.list none).find? (·.id = id) := by
  cases listed : (ledger.list none).find? (·.id = id) with
  | some r =>
      rw [sound.get?_eq_some_iff, ← sound.mem_list_none_iff]
      exact ⟨List.mem_of_find?_eq_some listed, by simpa using List.find?_some listed⟩
  | none =>
      rw [Option.eq_none_iff_forall_ne_some]
      intro r found
      obtain ⟨member, same⟩ := (sound.get?_eq_some_iff id r).mp found
      have other := List.find?_eq_none.mp listed r ((sound.mem_list_none_iff r).mpr member)
      simp [same] at other

theorem homeOf?_eq_find? (sound : ledger.Sound) (id : Ulid) :
    ledger.homeOf? id = ((ledger.list none).find? (·.id = id)).map Reservation.resource := by
  rw [← sound.get?_eq_find?]
  apply Option.ext
  intro resource
  rw [sound.homeOf?_eq_some_iff, Option.map_eq_some_iff]
  constructor
  · rintro ⟨r, member, rfl⟩
    obtain ⟨rfl, _⟩ := sound.owned resource r member
    exact ⟨r, (sound.get?_eq_some_iff r.id r).mpr ⟨member, rfl⟩, rfl⟩
  · rintro ⟨r, found, rfl⟩
    obtain ⟨member, same⟩ := (sound.get?_eq_some_iff id r).mp found
    exact ⟨r, member, same⟩

/-- There are as many homes as reservations: each identifier that has a home is listed,
and listed once. -/
theorem count_eq_length (sound : ledger.Sound) : ledger.count = (ledger.list none).length := by
  have members : ∀ id, id ∈ ledger.homes.keys ↔ id ∈ (ledger.list none).map Reservation.id := by
    intro id
    rw [Std.TreeMap.mem_keys, Std.TreeMap.mem_iff_isSome_getElem?, ← homeOf?,
      sound.homeOf?_eq_find?, Option.isSome_map, List.find?_isSome, List.mem_map]
    simp only [decide_eq_true_eq]
  have same := (List.perm_ext_iff_of_nodup Std.TreeMap.nodup_keys sound.nodup_ids).mpr members
  rw [count, ← Std.TreeMap.length_keys, same.length_eq, List.length_map]

theorem ordered_list_none (sound : ledger.Sound) : (ledger.list none).Pairwise Ordered := by
  rw [list_none_eq_filled, List.pairwise_flatMap]
  have owned : ∀ {resource : Ulid} {book : Book} {r : Reservation},
      (resource, book) ∈ ledger.filled → r ∈ book.toList → r.resource = resource := by
    intro resource book r member inBook
    obtain ⟨rfl, _⟩ := (ledger.mem_filled_iff resource book).mp member
    exact (sound.owned resource r inBook).1
  constructor
  · rintro ⟨resource, book⟩ member
    obtain ⟨rfl, _⟩ := (ledger.mem_filled_iff resource book).mp member
    refine List.Pairwise.imp_of_mem ?_ (sound.sorted resource)
    intro earlier later earlierMember laterMember before
    exact Or.inr ⟨(owned member earlierMember).trans (owned member laterMember).symm, before⟩
  · refine List.Pairwise.imp_of_mem ?_ ledger.ordered_filled
    rintro ⟨left, leftBook⟩ ⟨right, rightBook⟩ leftMember rightMember before
      earlier inLeft later inRight
    refine Or.inl ?_
    rw [owned leftMember inLeft, owned rightMember inRight]
    exact before

theorem viewsAgree (sound : ledger.Sound) : ledger.ViewsAgree := by
  constructor
  case alone =>
    intro left right r inLeft s inRight same
    rw [list_some] at inLeft inRight
    have leftHome := (sound.owned left r inLeft).2
    have rightHome := (sound.owned right s inRight).2
    rw [same, rightHome, Option.some.injEq] at leftHome
    exact leftHome.symm
  case once =>
    intro resource
    rw [list_some]
    exact List.pairwise_map.mpr (sound.distinct resource)
  case indexed =>
    intro id resource
    rw [sound.homeOf?_eq_some_iff, list_some]
    refine exists_congr fun r => and_congr_right fun member => ?_
    exact (and_iff_left (sound.owned resource r member).1).symm
  case found =>
    intro id r
    rw [sound.get?_eq_some_iff, sound.mem_list_none_iff]
  case home => exact sound.homeOf?_eq_find?
  case count => exact sound.count_eq_length
  case size =>
    intro resource
    rw [list_some, Book.length_toList]
  case part =>
    intro resource
    rw [list_some, sound.filter_list_none]
  case sorted =>
    intro resource
    rw [list_some]
    exact sound.sorted resource
  case bounded =>
    intro resource
    rw [list_some, Book.length_toList]
    exact sound.bounded resource
  case joined =>
    exact ⟨ledger.filled.map Prod.fst, List.pairwise_map.mpr ledger.ordered_filled,
      ledger.mem_resources_iff, ledger.list_none_eq_flatMap⟩
  case distinct => exact sound.nodup_ids.of_map _
  case ordered => exact sound.ordered_list_none

end Sound

end Reservations.Ledger
