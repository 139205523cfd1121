import Reservations.Proofs.Ledger.Ties
import Reservations.Proofs.Store.Restart

namespace Reservations.Store

/-! ## The order behind a compaction

A compaction writes the reservations down in the order of the list, and opening the store
adds them in that order again. Which one of those that start together comes first is
decided anew, as it is whenever a reservation is added. -/

/-- Only a directory at the path of the spare file stands in the way. -/
theorem compact_of_ne_directory
    {store : Store} (clear : store.journal.spare ≠ .directory) :
    ∃ next, store.compact = (.ok (), next) := by
  obtain ⟨file, compacted, _⟩ :=
    Log.Journal.compact_of_ne_directory clear ((store.ledger.list none).map Event.created)
  exact ⟨⟨store.ledger, ⟨⟨file, .empty⟩, 0, .absent⟩⟩, by simp only [compact, compacted]⟩

theorem Recorded.list_reopen_compact
    {store compacted : Store} {events : List Event}
    (recorded : store.Recorded Log.Readable events)
    (succeeded : store.compact = (.ok (), compacted)) :
    ∃ reopened, compacted.reopen = .ok reopened ∧
      ∀ resource?, reopened.ledger.list resource? = turned (store.ledger.list resource?) := by
  rcases recorded.compact with ⟨refusal, failed⟩ | ⟨next, rewritten, _, rebuilt⟩
  · rw [failed] at succeeded
    cases succeeded
  · rw [rewritten] at succeeded
    cases succeeded
    obtain ⟨reopened, opened, applied, _⟩ := rebuilt.reopen loggable_readable
    -- What is applied is the list of before, as creations.
    rw [Log.readableFront_eq_self rebuilt.kind] at applied
    refine ⟨reopened, opened, fun resource? => ?_⟩
    rw [applied]
    exact recorded.history.sound.list_ofCreations resource?

/-- After every run that starts without a log or with an empty one, a compaction and
opening the store again put the first of the reservations of a resource that start
together behind the others, and change nothing else about any list. The lists stay as
they are just if they hold no two such reservations. -/
theorem list_of_compacted
    {directory : Log.Directory} (blank : Blank directory)
    {operations : List Operation} (modest : ∀ operation ∈ operations, operation.Modest) :
    ∃ answers store, serve directory operations = .ok (answers, store) ∧
      ∀ compacted, store.compact = (.ok (), compacted) →
        ∃ reopened, compacted.reopen = .ok reopened ∧
          ∀ resource?,
            reopened.ledger.list resource? = turned (store.ledger.list resource?) ∧
              (reopened.ledger.list resource? = store.ledger.list resource? ↔
                (store.ledger.list resource?).Pairwise fun left right => ¬ Tied left right) := by
  obtain ⟨answers, store, events, served, recorded, _⟩ :=
    serve_recorded loggable_readable blank fun operation member => (modest operation member).writes
  refine ⟨answers, store, served, fun compacted succeeded => ?_⟩
  obtain ⟨reopened, opened, lists⟩ := recorded.list_reopen_compact succeeded
  refine ⟨reopened, opened, fun resource? => ⟨lists resource?, ?_⟩⟩
  rw [lists resource?]
  exact recorded.history.sound.turned_list_eq_iff resource?

/-- Two reservations that start together, one of them cancelled. -/
def together : List Reservation :=
  [⟨.ofNat 1, .ofNat 7, ⟨946684800000, 946684860000⟩, .cancelled, ⟨"Ada", "ada@example.org"⟩, 0⟩,
    ⟨.ofNat 2, .ofNat 7, ⟨946684800000, 946684890000⟩, .pending, ⟨"Bob", "bob@example.org"⟩, 0⟩]

theorem consistent_together : Consistent together where
  valid := by decide
  together := by decide
  bounded resource := by
    have few : together.length ≤ Limits.bookSize := by decide
    exact Nat.le_trans (List.length_filter_le _ _) few

theorem readable_together : ∀ r ∈ together, Log.Readable (.created r) := by
  simp only [together, List.forall_mem_cons, List.not_mem_nil, false_imp_iff, implies_true,
    Log.Readable, Log.length_encode_created]
  decide

theorem list_of_compacted_together :
    ∃ answers store compacted reopened,
      serve {} (together.map .insert) = .ok (answers, store) ∧
      store.compact = (.ok (), compacted) ∧
      compacted.reopen = .ok reopened ∧
      ∀ resource?,
        reopened.ledger.list resource? = turned (store.ledger.list resource?) ∧
          (reopened.ledger.list resource? = store.ledger.list resource? ↔
            (store.ledger.list resource?).Pairwise fun left right => ¬ Tied left right) := by
  have modest : ∀ operation ∈ together.map Operation.insert, operation.Modest := by
    simp only [together, List.map_cons, List.map_nil, List.forall_mem_cons, List.not_mem_nil,
      false_imp_iff, implies_true, Operation.Modest]
    decide
  obtain ⟨answers, store, served, compacts⟩ :=
    list_of_compacted (Or.inl rfl : Blank {}) modest
  obtain ⟨_, again, _, _, spare⟩ := serve_insertions consistent_together readable_together
  rw [served] at again
  cases again
  obtain ⟨compacted, succeeded⟩ : ∃ next, store.compact = (.ok (), next) :=
    compact_of_ne_directory (by rw [spare]; exact Log.Node.noConfusion)
  obtain ⟨reopened, opened, lists⟩ := compacts compacted succeeded
  exact ⟨_, store, compacted, reopened, served, succeeded, opened, lists⟩

/-- The one that was added last is listed first, until the store is compacted and opened
again. -/
theorem compacted_and_swapped :
    ∃ answers store compacted reopened,
      serve {} (together.map .insert) = .ok (answers, store) ∧
      store.compact = (.ok (), compacted) ∧
      compacted.reopen = .ok reopened ∧
      store.ledger.list (some (.ofNat 7)) = together.reverse ∧
      reopened.ledger.list (some (.ofNat 7)) = together ∧
      reopened.ledger.list (some (.ofNat 7)) ≠ store.ledger.list (some (.ofNat 7)) := by
  obtain ⟨store, served, recorded, exact, spare⟩ :=
    serve_insertions consistent_together readable_together
  obtain ⟨compacted, succeeded⟩ : ∃ next, store.compact = (.ok (), next) :=
    compact_of_ne_directory (by rw [spare]; exact Log.Node.noConfusion)
  obtain ⟨reopened, opened, lists⟩ := recorded.list_reopen_compact succeeded
  have before : store.ledger.list (some (.ofNat 7)) = together.reverse := by
    calc store.ledger.list (some (.ofNat 7))
        _ = (Ledger.ofCreations together).list (some (.ofNat 7)) :=
            (Ledger.Same.list_eq exact _).symm
        _ = turned (together.filter fun r => r.resource = .ofNat 7) := by
            rw [Ledger.list_some, Ledger.book_ofCreations]
            exact Book.toList_foldl_insert (.ofNat 7) (by decide) (by decide)
        _ = together.reverse := by decide
  have after : reopened.ledger.list (some (.ofNat 7)) = together := by
    rw [lists, before]
    decide
  refine ⟨_, store, compacted, reopened, served, succeeded, opened, before, after, ?_⟩
  rw [before, after]
  decide

end Reservations.Store
