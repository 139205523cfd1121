import Reservations.Proofs.Ledger.Alike
import Reservations.Store

namespace Reservations

/-! ## What the store decides

Whether a reservation is taken depends on the ledger alone, and so does whether
there is something to remove. The log only decides whether the change is made. -/

namespace Ledger

/-- An active reservation of the resource shares an instant with the span. -/
structure InTheWay
    (ledger : Ledger) (resource : Ulid) (span : Span) (r : Reservation) : Prop where
  listed : r ∈ ledger.list (some resource)
  active : r.status ≠ .cancelled
  shared : r.span.start < span.stop ∧ span.start < r.span.stop

theorem inTheWay_iff
    (ledger : Ledger) (resource : Ulid) (span : Span) (r : Reservation) :
    ledger.InTheWay resource span r ↔
      r ∈ (ledger.book resource).toList ∧ r.blocks span = true := by
  rw [Reservation.blocks_iff, Status.isActive_iff, Span.overlaps_iff, ← Ledger.list_some]
  constructor
  · rintro ⟨listed, active, shared⟩
    exact ⟨listed, active, shared⟩
  · rintro ⟨listed, active, shared⟩
    exact ⟨listed, active, shared⟩

/-- No two reservations in the way of a span start together. -/
theorem Sound.eq_of_inTheWay
    {ledger : Ledger} (sound : ledger.Sound) {resource : Ulid} {span : Span}
    {left right : Reservation}
    (leftInTheWay : ledger.InTheWay resource span left)
    (rightInTheWay : ledger.InTheWay resource span right)
    (same : left.span.start = right.span.start) :
    left = right := by
  rw [inTheWay_iff, Reservation.blocks_iff] at leftInTheWay rightInTheWay
  exact sound.eq_of_start_eq leftInTheWay.1 rightInTheWay.1 leftInTheWay.2.1 rightInTheWay.2.1 same

/-- The first reservation in the way is the one that starts first. -/
theorem Sound.firstBlocking_eq_some_iff
    {ledger : Ledger} (sound : ledger.Sound) (resource : Ulid) (span : Span)
    (first : Reservation) :
    (ledger.book resource).firstBlocking span = some first ↔
      ledger.InTheWay resource span first ∧
        ∀ other, ledger.InTheWay resource span other → first.span.start ≤ other.span.start := by
  have sorted := sound.sorted resource
  have foundFirst : ∀ r, (ledger.book resource).firstBlocking span = some r →
      ledger.InTheWay resource span r ∧
        ∀ other, ledger.InTheWay resource span other → r.span.start ≤ other.span.start := by
    intro r found
    obtain ⟨member, blocks, minimal⟩ := Book.firstBlocking_eq_some sorted found
    simp only [inTheWay_iff]
    exact ⟨⟨member, blocks⟩, fun other inTheWay => minimal other inTheWay.1 inTheWay.2⟩
  constructor
  · exact foundFirst first
  · rintro ⟨inTheWay, earliest⟩
    cases found : (ledger.book resource).firstBlocking span with
    | none =>
        obtain ⟨member, blocks⟩ := (inTheWay_iff _ _ _ _).mp inTheWay
        have clear := (Book.firstBlocking_eq_none_iff sorted _).mp found first member
        rw [blocks] at clear
        cases clear
    | some other =>
        obtain ⟨otherInTheWay, otherEarliest⟩ := foundFirst other found
        have together :=
          Int64.le_antisymm (otherEarliest first inTheWay) (earliest other otherInTheWay)
        rw [sound.eq_of_inTheWay otherInTheWay inTheWay together]

theorem Sound.firstBlocking_eq_none_iff
    {ledger : Ledger} (sound : ledger.Sound) (resource : Ulid) (span : Span) :
    (ledger.book resource).firstBlocking span = none ↔
      ∀ other, ¬ ledger.InTheWay resource span other := by
  rw [Book.firstBlocking_eq_none_iff (sound.sorted resource)]
  simp only [inTheWay_iff, not_and, Bool.not_eq_true]

/-- Why a ledger does not take a reservation, if it does not. -/
def refusal? (ledger : Ledger) (reservation : Reservation) : Option Refusal :=
  match reservation.span.flaw? with
  | some flaw => some (.invalid flaw)
  | none =>
      if (ledger.homeOf? reservation.id).isSome then some (.alreadyExists reservation.id)
      else
        let book := ledger.book reservation.resource
        if Limits.bookSize ≤ book.size then some (.invalid .bookFull)
        else if reservation.status.isActive then
          (book.firstBlocking reservation.span).map fun existing => .conflict existing.id
        else none

variable {ledger left right : Ledger}

/-- What is left to ask once a reservation is valid, new and has room. -/
theorem refusal?_of_passed
    {reservation : Reservation} (valid : reservation.span.flaw? = none)
    (fresh : ledger.homeOf? reservation.id = none)
    (room : (ledger.book reservation.resource).size < Limits.bookSize) :
    ledger.refusal? reservation =
      if reservation.status.isActive then
        ((ledger.book reservation.resource).firstBlocking reservation.span).map
          fun existing => .conflict existing.id
      else none := by
  have hasRoom := Nat.not_le.mpr room
  simp only [refusal?, valid, fresh, hasRoom, Option.isSome_none, Bool.false_eq_true, if_false]

theorem refusal?_eq_none_iff
    {reservation : Reservation} (sorted : (ledger.book reservation.resource).Sorted) :
    ledger.refusal? reservation = none ↔ ledger.Admits reservation := by
  constructor
  · intro accepted
    unfold refusal? at accepted
    split at accepted
    · cases accepted
    · rename_i valid
      split at accepted
      · cases accepted
      · rename_i fresh
        have unused : ledger.homeOf? reservation.id = none := by simpa using fresh
        simp only at accepted
        split at accepted
        · cases accepted
        · rename_i room
          refine ⟨valid, unused, Nat.lt_of_not_le room, ?_⟩
          intro r member active otherActive
          rw [if_pos active, Option.map_eq_none_iff, Book.firstBlocking_eq_none_iff sorted]
            at accepted
          have clear := accepted r member
          rw [Span.overlaps_comm]
          simpa [Reservation.blocks, otherActive] using clear
  · intro admits
    have unblocked :
        reservation.status.isActive = true →
          (ledger.book reservation.resource).firstBlocking reservation.span = none := by
      intro active
      rw [Book.firstBlocking_eq_none_iff sorted]
      intro r member
      cases otherActive : r.status.isActive with
      | false => simp [Reservation.blocks, otherActive]
      | true =>
          have apart := admits.free r member active otherActive
          rw [Span.overlaps_comm] at apart
          simp [Reservation.blocks, apart]
    rw [refusal?_of_passed admits.valid admits.fresh admits.room]
    split
    · rename_i active
      rw [unblocked active, Option.map_none]
    · rfl

/-- Adding and removing make a difference. -/
theorem Admits.not_same_apply {reservation : Reservation} (admits : ledger.Admits reservation) :
    ¬ (ledger.apply (.created reservation)).Same ledger := by
  intro same
  have home := same.homes reservation.id
  rw [homeOf?_apply_created, if_pos rfl, admits.fresh] at home
  cases home

theorem not_same_apply_deleted {id resource : Ulid} (home : ledger.homeOf? id = some resource) :
    ¬ (ledger.apply (.deleted id resource)).Same ledger := by
  intro same
  have away := same.homes id
  rw [homeOf?_apply_deleted, if_pos rfl, home] at away
  cases away

/-- A ledger knows nothing of storage. -/
theorem refusal?_ne_storage (reservation : Reservation) (fault : StorageFault) :
    ledger.refusal? reservation ≠ some (.storage fault) := by
  intro storage
  unfold refusal? at storage
  split at storage
  · cases storage
  · split at storage
    · cases storage
    · simp only at storage
      split at storage
      · cases storage
      · split at storage
        · obtain ⟨existing, _, conflict⟩ := Option.map_eq_some_iff.mp storage
          cases conflict
        · cases storage

/-- Ledgers that hold the same decide alike. -/
theorem Alike.refusal?_eq
    (alike : left.Alike right) (leftSound : left.Sound) (rightSound : right.Sound)
    (reservation : Reservation) :
    left.refusal? reservation = right.refusal? reservation := by
  simp only [refusal?, alike.homes, alike.size_eq,
    alike.firstBlocking_eq leftSound rightSound]

theorem Sound.get?_isSome_of_home
    (sound : ledger.Sound) {id resource : Ulid} (home : ledger.homeOf? id = some resource) :
    ∃ r, ledger.get? id = some r := by
  obtain ⟨r, member, same⟩ := sound.housed id resource home
  refine ⟨r, (sound.get?_eq_some_iff id r).mpr ⟨?_, same⟩⟩
  rw [(sound.owned resource r member).1]
  exact member

end Ledger

namespace Store

theorem persist_of_commit
    (ledger : Ledger) {journal next : Log.Journal} {event : Event}
    (committed : journal.commit [event] = (.ok (), next)) :
    persist ⟨ledger, journal⟩ event = (.ok (), ⟨ledger.apply event, next⟩) := by
  simp only [persist, committed]

theorem persist_of_fault
    (ledger : Ledger) {journal next : Log.Journal} {event : Event} {fault : StorageFault}
    (failed : journal.commit [event] = (.error fault, next)) :
    persist ⟨ledger, journal⟩ event = (.error (.storage fault), ⟨ledger, next⟩) := by
  simp only [persist, failed]

variable {store : Store} {journal : Log.Journal} {fault : StorageFault}

/-! ### Adding -/

section Insert

variable {reservation : Reservation}

/-- The ledger decides. A book may be opened on the way, and only a reservation
that is not refused is handed to the log. -/
theorem insert_eq (store : Store) (reservation : Reservation) :
    ∃ ledger : Ledger, ledger.Same store.ledger ∧
      store.insert reservation =
        match store.ledger.refusal? reservation with
        | some refusal => (.error refusal, ⟨ledger, store.journal⟩)
        | none =>
            match persist ⟨ledger, store.journal⟩ (.created reservation) with
            | (.ok (), store) => (.ok reservation, store)
            | (.error refusal, store) => (.error refusal, store) := by
  have opened := Ledger.Same.openBook store.ledger reservation.resource
  cases validity : reservation.span.flaw? with
  | some flaw =>
      refine ⟨store.ledger, Ledger.Same.refl _, ?_⟩
      simp only [insert, Ledger.refusal?, validity]
  | none =>
      by_cases used : (store.ledger.homeOf? reservation.id).isSome = true
      · refine ⟨store.ledger, Ledger.Same.refl _, ?_⟩
        simp only [insert, Ledger.refusal?, validity, used, if_true]
      · refine ⟨store.ledger.openBook reservation.resource, opened, ?_⟩
        by_cases full : Limits.bookSize ≤ (store.ledger.book reservation.resource).size
        · simp only [insert, Ledger.refusal?, validity, used, opened.books, full, if_true,
            Bool.false_eq_true, if_false]
        · by_cases active : reservation.status.isActive = true
          · simp only [insert, Ledger.refusal?, validity, used, opened.books, full, active,
              if_true, Bool.false_eq_true, if_false]
            cases (store.ledger.book reservation.resource).firstBlocking reservation.span with
            | some existing => rfl
            | none => rfl
          · cases persisted :
                persist ⟨store.ledger.openBook reservation.resource, store.journal⟩
                  (.created reservation) with
            | mk answer next =>
                cases answer with
                | ok done =>
                    simp only [insert, Ledger.refusal?, validity, used, opened.books, full,
                      active, persisted, Bool.false_eq_true, if_false]
                | error refusal =>
                    simp only [insert, Ledger.refusal?, validity, used, opened.books, full,
                      active, persisted, Bool.false_eq_true, if_false]

theorem insert_of_refused
    {refusal : Refusal} (refused : store.ledger.refusal? reservation = some refusal) :
    ∃ ledger : Ledger, ledger.Same store.ledger ∧
      store.insert reservation = (.error refusal, ⟨ledger, store.journal⟩) := by
  obtain ⟨ledger, same, decided⟩ := store.insert_eq reservation
  rw [refused] at decided
  exact ⟨ledger, same, decided⟩

theorem insert_of_commit
    (accepted : store.ledger.refusal? reservation = none)
    (committed : store.journal.commit [.created reservation] = (.ok (), journal)) :
    ∃ ledger : Ledger, ledger.Same store.ledger ∧
      store.insert reservation =
        (.ok reservation, ⟨ledger.apply (.created reservation), journal⟩) := by
  obtain ⟨ledger, same, decided⟩ := store.insert_eq reservation
  simp only [accepted, persist_of_commit ledger committed] at decided
  exact ⟨ledger, same, decided⟩

theorem insert_of_fault
    (accepted : store.ledger.refusal? reservation = none)
    (failed : store.journal.commit [.created reservation] = (.error fault, journal)) :
    ∃ ledger : Ledger, ledger.Same store.ledger ∧
      store.insert reservation = (.error (.storage fault), ⟨ledger, journal⟩) := by
  obtain ⟨ledger, same, decided⟩ := store.insert_eq reservation
  simp only [accepted, persist_of_fault ledger failed] at decided
  exact ⟨ledger, same, decided⟩

/-- What is acknowledged is what was to be added. -/
theorem insert_eq_ok {stored : Reservation} (inserted : (store.insert reservation).1 = .ok stored) :
    stored = reservation := by
  obtain ⟨ledger, _, decided⟩ := store.insert_eq reservation
  rw [decided] at inserted
  split at inserted
  · cases inserted
  · split at inserted
    · exact (Except.ok.inj inserted).symm
    · cases inserted

end Insert

/-! ### Removing -/

section Erase

variable {id resource : Ulid}

theorem erase_of_absent (absent : store.ledger.homeOf? id = none) :
    store.erase id = (.ok false, store) := by
  rw [erase, absent]

theorem erase_of_commit
    (sound : store.ledger.Sound) (home : store.ledger.homeOf? id = some resource)
    (committed : store.journal.commit [.deleted id resource] = (.ok (), journal)) :
    store.erase id = (.ok true, ⟨store.ledger.apply (.deleted id resource), journal⟩) := by
  obtain ⟨r, held⟩ := sound.get?_isSome_of_home home
  have persisted : store.persist (.deleted id resource) = _ :=
    persist_of_commit store.ledger committed
  simp only [erase, home, held, persisted]

theorem erase_of_fault
    (sound : store.ledger.Sound) (home : store.ledger.homeOf? id = some resource)
    (failed : store.journal.commit [.deleted id resource] = (.error fault, journal)) :
    store.erase id = (.error (.storage fault), ⟨store.ledger, journal⟩) := by
  obtain ⟨r, held⟩ := sound.get?_isSome_of_home home
  have persisted : store.persist (.deleted id resource) = _ :=
    persist_of_fault store.ledger failed
  simp only [erase, home, held, persisted]

end Erase

end Store

end Reservations
