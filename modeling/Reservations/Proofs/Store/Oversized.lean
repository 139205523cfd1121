import Reservations.Proofs.Log.Writing
import Reservations.Proofs.Store.Crash

namespace Reservations.Store

/-! ## Reservations that are too long for replay

The store takes texts of any length and the log writes them down, but replay stops at a
payload beyond its limit. So one such reservation keeps everything behind it from being
read. -/

/-- Whatever is acknowledged from now on is there when the store is opened again, on top
of what it holds. -/
def Lasts (store : Store) : Prop :=
  ∀ further : List Operation, (∀ operation ∈ further, operation.Writes Log.Readable) →
    ∃ answers later reopened, store.run further = .ok (answers, later) ∧
      later.reopen = .ok reopened ∧
      reopened.ledger.Alike (acknowledgedAll store.ledger further answers)

/-- The operation adds to the log, if anything, and its texts are of a length that can
be written down. -/
def Operation.Changes : Operation → Prop
  | insert reservation => reservation.customer.Addressable
  | erase _ => True
  | _ => False

/-- Whatever changes from now on, opening the store again leads to the same ledger. -/
def FallsBackTo (store : Store) (ledger : Ledger) : Prop :=
  ∀ further : List Operation, (∀ operation ∈ further, operation.Changes) →
    ∃ answers later reopened, store.run further = .ok (answers, later) ∧
      later.reopen = .ok reopened ∧ reopened.ledger = ledger

/-- Where both hold, what a store falls back to is what was acknowledged. -/
theorem FallsBackTo.meets
    {store : Store} {ledger : Ledger} (fallsBack : store.FallsBackTo ledger) (lasts : store.Lasts)
    {further : List Operation} (changes : ∀ operation ∈ further, operation.Changes)
    (writes : ∀ operation ∈ further, operation.Writes Log.Readable) :
    ∃ answers later, store.run further = .ok (answers, later) ∧
      ledger.Alike (acknowledgedAll store.ledger further answers) := by
  obtain ⟨answers, later, reopened, ran, opened, same⟩ := fallsBack further changes
  obtain ⟨_, _, again, alsoRan, alsoOpened, alike⟩ := lasts further writes
  rw [ran] at alsoRan
  cases alsoRan
  rw [opened] at alsoOpened
  cases alsoOpened
  rw [same] at alike
  exact ⟨answers, later, ran, alike⟩

namespace Durable

variable {store next : Store} {events : List Event} {r : Reservation}

theorem perform_changes
    (durable : store.Durable Event.Addressable events) {operation : Operation}
    (changes : operation.Changes) :
    ∃ answer next later, store.perform operation = .ok (answer, next) ∧
      next.Durable Event.Addressable later ∧ events <+: later := by
  cases operation with
  | insert reservation =>
      obtain ⟨answer, next, later, performed, settles, onward⟩ := durable.perform_insert changes
      exact ⟨answer, next, later, performed, settles.durable, onward⟩
  | erase id =>
      obtain ⟨answer, next, later, performed, settles, onward⟩ :=
        durable.perform_erase loggable_addressable id
      exact ⟨answer, next, later, performed, settles.durable, onward⟩
  | _ => exact absurd changes id

theorem run_changes
    (durable : store.Durable Event.Addressable events) {further : List Operation}
    (changes : ∀ operation ∈ further, operation.Changes) :
    ∃ answers next later, store.run further = .ok (answers, next) ∧
      next.Durable Event.Addressable later ∧ events <+: later := by
  -- On the changes, each of which leaves what was in the file before it.
  induction further generalizing store events with
  | nil => exact ⟨[], store, events, rfl, durable, List.prefix_refl events⟩
  | cons operation further inductionHypothesis =>
      rw [List.forall_mem_cons] at changes
      obtain ⟨answer, middle, between, performed, kept, first⟩ :=
        durable.perform_changes changes.1
      obtain ⟨answers, next, later, ran, still, rest⟩ := inductionHypothesis kept changes.2
      refine ⟨answer :: answers, next, later, ?_, still, List.IsPrefix.trans first rest⟩
      simp only [Store.run, performed, ran]

theorem fallsBack
    (durable : store.Durable Event.Addressable events)
    (lost : ¬ ∀ event ∈ events, Log.Readable event) :
    store.FallsBackTo (Ledger.empty.applyAll (Log.readableFront events)) := by
  intro further changes
  obtain ⟨answers, later, written, ran, kept, rest, split⟩ := durable.run_changes changes
  obtain ⟨reopened, opened, applied, _⟩ := kept.reopen loggable_addressable
  refine ⟨answers, later, reopened, ran, opened, ?_⟩
  rw [applied, ← split, Log.readableFront_append_of_lost lost]

theorem not_lasts_of_fallsBack
    (durable : store.Durable Event.Addressable events)
    (roomy : store.journal.tail.file.full = false) {id resource : Ulid}
    (home : store.ledger.homeOf? id = some resource) {ledger : Ledger}
    (fallsBack : store.FallsBackTo ledger) :
    ¬ store.Lasts := by
  intro lasts
  -- Removing the reservation would have to be as good as not removing it.
  have held : ledger.homeOf? id = some resource := by
    obtain ⟨_, _, ran, alike⟩ := fallsBack.meets lasts
      (List.forall_mem_nil Operation.Changes) (List.forall_mem_nil _)
    cases ran
    rw [alike.homes]
    exact home
  have removed : ledger.homeOf? id = none := by
    have changes : ∀ operation ∈ [Operation.erase id], operation.Changes := by
      simp [Operation.Changes]
    have writes : ∀ operation ∈ [Operation.erase id], operation.Writes Log.Readable := by
      simp [Operation.Writes]
    obtain ⟨_, _, ran, alike⟩ := fallsBack.meets lasts changes writes
    obtain ⟨next, erased, _⟩ := (durable.recorded roomy).erase_of_home trivial home
    simp only [Store.run, Store.perform, erased] at ran
    cases ran
    simp only [acknowledgedAll, Operation.acknowledged, home] at alike
    rw [alike.homes, Ledger.homeOf?_apply_deleted, if_pos rfl]
  rw [held] at removed
  cases removed

/-- A reservation that was acknowledged lasts just if everything in the log can be read,
the reservation itself included. -/
theorem lasts_iff_of_insert
    (durable : store.Durable Event.Addressable events) (addressable : r.customer.Addressable)
    (inserted : store.insert r = (.ok r, next)) :
    next.Lasts ↔ ∀ event ∈ events ++ [.created r], Log.Readable event := by
  obtain ⟨grown, roomy, applied⟩ := durable.of_insert addressable inserted
  constructor
  · intro lasts
    by_contra lost
    have home : next.ledger.homeOf? r.id = some r.resource := by
      rw [applied.homes, Ledger.homeOf?_apply_created, if_pos rfl]
    exact grown.not_lasts_of_fallsBack roomy home (grown.fallsBack lost) lasts
  · intro readable further writes
    exact (grown.of_kind readable).reopen_writes writes

end Durable

/-- Nothing asks for the length of an event before it is acknowledged. Its frame can be
read just if the payload is within the limit of replay. A reservation that is added lasts,
with all that is acknowledged behind it, just if this holds for it and for everything
before it in the log; otherwise opening the store again leads back to what can be read,
whatever else has changed. -/
theorem lasts_iff_readable
    {directory : Log.Directory} (fresh : Fresh directory) {operations : List Operation}
    (addressable : ∀ operation ∈ operations, operation.Writes Event.Addressable) :
    (∀ (journal written flushed : Log.Journal) (event : Event), event.Addressable →
      journal.append event = (.ok (), written) → written.flush = (.ok (), flushed) →
        Log.frameAt? flushed.tail.file.bytes journal.tail.stream.length =
          if Log.Readable event then some (event, (Log.encode event).length) else none) ∧
    ∃ answers store events, serve directory operations = .ok (answers, store) ∧
      store.journal.tail.file.bytes.data.toList = Log.frames events ∧
      ∀ r next, r.customer.Addressable → store.insert r = (.ok r, next) →
        next.journal.tail.file.bytes.data.toList = Log.frames (events ++ [.created r]) ∧
        (next.Lasts ↔ ∀ event ∈ events ++ [.created r], Log.Readable event) ∧
        ((¬ ∀ event ∈ events ++ [.created r], Log.Readable event) →
          next.FallsBackTo
            (Ledger.empty.applyAll (Log.readableFront (events ++ [.created r])))) := by
  constructor
  · intro journal written flushed event short appended settled
    exact Log.frameAt?_of_acknowledged short appended settled
  · obtain ⟨first, started, empty⟩ := start_of_fresh Event.Addressable fresh
    obtain ⟨answers, store, events, ran, durable, _⟩ := empty.run loggable_addressable addressable
    refine ⟨answers, store, events, ?_, durable.stored, ?_⟩
    · rw [serve, started]
      exact ran
    · intro r next short inserted
      obtain ⟨grown, _⟩ := durable.of_insert short inserted
      exact ⟨grown.stored, durable.lasts_iff_of_insert short inserted, grown.fallsBack⟩

/-- A name as long as the limit for the whole payload. -/
def oversized : Reservation where
  id := .ofNat 1
  resource := .ofNat 7
  span := ⟨946684800000, 946684860000⟩
  status := .confirmed
  customer := ⟨Log.letters 16777216, "ada@example.org"⟩
  createdAt := 0

def usual : Reservation where
  id := .ofNat 2
  resource := .ofNat 8
  span := ⟨946684800000, 946684890000⟩
  status := .pending
  customer := ⟨"Bob", "bob@example.org"⟩
  createdAt := 0

theorem addressable_oversized : oversized.customer.Addressable := by
  have name : oversized.customer.name.utf8ByteSize = 16777216 := Log.utf8ByteSize_letters _
  have email : oversized.customer.email.utf8ByteSize = 15 := by decide
  have size : UInt64.size = 18446744073709551616 := rfl
  constructor <;> omega

theorem not_readable_oversized : ¬ Log.Readable (.created oversized) := by
  have name : oversized.customer.name.utf8ByteSize = 16777216 := Log.utf8ByteSize_letters _
  have email : oversized.customer.email.utf8ByteSize = 15 := by decide
  rw [Log.Readable, Log.length_encode_created, name, email, Limits.payloadBytes]
  omega

theorem readable_usual : Log.Readable (.created usual) := by
  rw [Log.Readable, Log.length_encode_created]
  decide

theorem consistent_oversized : Consistent [usual, oversized] where
  valid := by
    simp only [List.forall_mem_cons, List.not_mem_nil, false_imp_iff, implies_true]
    decide
  together := by
    have elsewhere : usual.resource ≠ oversized.resource := by decide
    have other : usual.id ≠ oversized.id := by decide
    simp [elsewhere, other]
  bounded resource := by
    have few : [usual, oversized].length ≤ Limits.bookSize := by
      simp [Limits.bookSize]
    exact Nat.le_trans (List.length_filter_le _ _) few

/-- The frame of the long name is in the file and cannot be read, and the reservation
does not last. -/
theorem lasts_iff_readable_oversized :
    ∃ (written flushed : Log.Journal) (answers : List Answer) (store next : Store)
        (events : List Event),
      let journal : Log.Journal := ⟨⟨{}, .empty⟩, 0, .absent⟩
      journal.append (.created oversized) = (.ok (), written) ∧
      written.flush = (.ok (), flushed) ∧
      Log.frameAt? flushed.tail.file.bytes journal.tail.stream.length = none ∧
      serve {} [.insert usual] = .ok (answers, store) ∧
      store.journal.tail.file.bytes.data.toList = Log.frames events ∧
      store.insert oversized = (.ok oversized, next) ∧
      next.journal.tail.file.bytes.data.toList = Log.frames (events ++ [.created oversized]) ∧
      ¬ next.Lasts ∧
      next.FallsBackTo
        (Ledger.empty.applyAll (Log.readableFront (events ++ [.created oversized]))) := by
  have addressable : ∀ operation ∈ [Operation.insert usual],
      operation.Writes Event.Addressable := by
    simpa [Operation.Writes] using readable_usual.addressable
  obtain ⟨reading, answers, store, events, served, stored, lasting⟩ :=
    lasts_iff_readable (Or.inl rfl : Fresh {}) addressable
  let journal : Log.Journal := ⟨⟨{}, .empty⟩, 0, .absent⟩
  obtain ⟨written, appended, gains⟩ : ∃ written,
      journal.append (.created oversized) = (.ok (), written) ∧ _ :=
    Log.Journal.append_of_roomy rfl (.created oversized)
  have flushed := Log.Journal.flush_of_roomy gains.tail.roomy (gains.tail.stuck.trans rfl)
  have unread := reading journal written _ (.created oversized) addressable_oversized appended
    flushed
  rw [if_neg not_readable_oversized] at unread
  have all := consistent_oversized
  obtain ⟨_, again, recorded, exact, _⟩ := serve_insertions
    (all.sublist (List.sublist_append_left [usual] [oversized]))
    (by simpa using readable_usual.addressable)
  rw [List.map_singleton, served] at again
  cases again
  have accepted := recorded.accepted_of_consistent exact all
  obtain ⟨next, inserted, _⟩ := recorded.insert_of_accepted addressable_oversized accepted
  obtain ⟨grown, lasts, fallsBack⟩ := lasting oversized next addressable_oversized inserted
  have lost : ¬ ∀ event ∈ events ++ [.created oversized], Log.Readable event := fun readable =>
    not_readable_oversized (readable _ (by simp))
  exact ⟨written, _, _, store, next, events, appended, flushed, unread, served, stored, inserted,
    grown, fun kept => lost (lasts.mp kept), fallsBack lost⟩

/-- Both reservations are acknowledged. Opened again, the store holds neither. -/
theorem acknowledged_and_lost :
    ∃ answers store reopened,
      serve {} [.insert oversized, .insert usual] = .ok (answers, store) ∧
      answers = [.inserted (.ok oversized), .inserted (.ok usual)] ∧
      store.reopen = .ok reopened ∧
      reopened.ledger.get? oversized.id = none ∧
      reopened.ledger.get? usual.id = none := by
  have consistent : Consistent [oversized, usual] :=
    consistent_oversized.perm (List.Perm.swap _ _ _)
  obtain ⟨store, served, recorded, _⟩ := serve_insertions consistent
    (by simpa using ⟨addressable_oversized, readable_usual.addressable⟩)
  obtain ⟨reopened, opened, applied, _⟩ := recorded.reopen loggable_addressable
  have nothing : Log.readableFront ([oversized, usual].map Event.created) = [] :=
    Log.readableFront_append_unreadable (List.forall_mem_nil Log.Readable)
      not_readable_oversized _
  rw [nothing] at applied
  have empty : ∀ id, reopened.ledger.get? id = none := by
    intro id
    rw [applied]
    simp [Ledger.applyAll, Ledger.get?]
  exact ⟨_, store, reopened, served, rfl, opened, empty oversized.id, empty usual.id⟩

end Reservations.Store
