import Reservations.Proofs.Store.Run

namespace Reservations

/-! ## No double booking -/

/-- No two reservations of one resource that are not cancelled share an instant.
A span holds the instant it starts at, not the one it stops at. -/
def Ledger.ConflictFree (ledger : Ledger) : Prop :=
  ∀ resource, (ledger.list (some resource)).Pairwise fun left right =>
    left.status ≠ .cancelled → right.status ≠ .cancelled →
      ¬ (left.span.start < right.span.stop ∧ right.span.start < left.span.stop)

theorem Ledger.Sound.conflictFree {ledger : Ledger} (sound : ledger.Sound) :
    ledger.ConflictFree := by
  intro resource
  rw [Ledger.list_some]
  refine (sound.apart resource).imp ?_
  intro left right apart leftActive rightActive shared
  have overlap := (Span.overlaps_iff left.span right.span).mpr shared
  have disjoint :=
    apart ((Status.isActive_iff _).mpr leftActive) ((Status.isActive_iff _).mpr rightActive)
  rw [disjoint] at overlap
  cases overlap

namespace Store

/-- Every run that starts without a log or with an empty one goes through and
ends without a conflict, in the store and in what replaying its log gives. -/
theorem conflictFree_of_serve
    {directory : Log.Directory} (blank : Blank directory)
    {operations : List Operation}
    (addressable : ∀ operation ∈ operations, operation.Writes Event.Addressable) :
    ∃ answers store found, serve directory operations = .ok (answers, store) ∧
      store.ledger.ConflictFree ∧
      store.journal.close.replay = .ok found ∧
      (Ledger.empty.applyAll found.events).ConflictFree := by
  obtain ⟨answers, store, events, served, recorded, _⟩ :=
    serve_recorded loggable_addressable blank addressable
  have replayed :
      store.journal.close.replay = .ok (Log.replay store.journal.tail.drained.file.bytes) := by
    rw [Log.Journal.close_of_roomy recorded.roomy]
    rfl
  have bytes : store.journal.tail.drained.file.bytes.data.toList = Log.frames events := by
    rw [Log.Tail.bytes_drained, recorded.written]
  rw [Log.replay_frames recorded.kind bytes] at replayed
  refine ⟨answers, store, _, served, recorded.history.sound.conflictFree, replayed, ?_⟩
  have front := recorded.history.front (Log.readableFront_prefix events)
  exact front.sound.conflictFree

/-- One reservation is in the way of another, of which only the first is taken,
before and after a compaction. -/
theorem conflictFree_of_serve_two :
    ∃ answers store found,
      serve {} [
          .insert ⟨.ofNat 1, .ofNat 7, ⟨946684800000, 946684860000⟩, .confirmed,
            ⟨"Ada", "ada@example.org"⟩, 0⟩,
          .insert ⟨.ofNat 2, .ofNat 7, ⟨946684830000, 946684890000⟩, .pending,
            ⟨"Bob", "bob@example.org"⟩, 0⟩,
          .compact, .reopen] = .ok (answers, store) ∧
        store.ledger.ConflictFree ∧
        store.journal.close.replay = .ok found ∧
        (Ledger.empty.applyAll found.events).ConflictFree := by
  refine conflictFree_of_serve (Or.inl rfl) ?_
  simp only [List.forall_mem_cons, List.not_mem_nil, false_imp_iff, implies_true,
    Operation.Writes, Event.Addressable, Customer.Addressable]
  decide

end Store

end Reservations
