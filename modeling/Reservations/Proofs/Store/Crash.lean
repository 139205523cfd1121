import Reservations.Proofs.Ledger.Views
import Reservations.Proofs.Store.ConflictFree
import Reservations.Proofs.Store.Durable
import Reservations.Proofs.Store.Restart

namespace Reservations.Store

/-! ## Crashes

A crash leaves the front of a log, cut anywhere. The front of a compacted log is the
front of no history that the store went through, yet it is one of its own. -/

/-- What a store is opened on when its log was cut after some bytes. -/
def torn (file : Log.File) (room : Nat) (spare : Log.Node) : Log.Directory :=
  ⟨.file { file with bytes := file.bytes.extract 0 room }, spare⟩

/-- A store that opens on a torn log is rolled back to the events whose frames are
whole, and forgets the rest of the bytes. -/
theorem Durable.start_torn
    {store : Store} {events : List Event} (durable : store.Durable Log.Readable events)
    (room : Nat) (spare : Log.Node) :
    ∃ front opened, Log.LongestFront events room front ∧
      start (torn store.journal.tail.file room spare) = .ok opened ∧
      opened.ledger = Ledger.empty.applyAll front ∧
      opened.Durable Log.Readable front := by
  obtain ⟨cut, extracted⟩ : ∃ cut, store.journal.tail.file.bytes.extract 0 room = cut := ⟨_, rfl⟩
  have part : cut.data.toList = (Log.frames events).take room := by
    rw [← extracted, ← durable.stored]
    simp [List.extract_eq_take_drop]
  obtain ⟨front, longest, found⟩ := Log.replay_take_frames durable.kind part
  obtain ⟨rest, whole⟩ := longest.start
  have stored : (cut.extract 0 (Log.frames front).length).data.toList = Log.frames front := by
    simp only [ByteArray.data_extract, Array.toList_extract, List.extract_eq_take_drop,
      List.drop_zero, Nat.sub_zero, part, ← whole, Log.frames_append, List.take_take,
      Nat.min_eq_left longest.fits, List.take_left']
  -- The file is cut twice: by the crash, and to whole frames when it is opened.
  let kept : Log.File :=
    { store.journal.tail.file with bytes := cut.extract 0 (Log.frames front).length }
  refine ⟨front, ⟨Ledger.empty.applyAll front, ⟨⟨kept, .empty⟩, 0, spare⟩⟩, longest, ?_, rfl,
    durable.loose, stored, fun _ => rfl, ?_, durable.history.front longest.start⟩
  · simp only [start, torn, Log.Directory.recover, Log.Directory.replay, extracted, found]
    rfl
  · intro event member
    exact durable.kind event (longest.start.subset member)

/-- Whatever is acknowledged is there when the store is opened again, on top of what
was there before. -/
theorem Durable.reopen_writes
    {store : Store} {events : List Event} (durable : store.Durable Log.Readable events)
    {operations : List Operation}
    (writes : ∀ operation ∈ operations, operation.Writes Log.Readable) :
    ∃ answers later reopened, store.run operations = .ok (answers, later) ∧
      later.reopen = .ok reopened ∧
      reopened.ledger.Alike (acknowledgedAll store.ledger operations answers) := by
  obtain ⟨answers, later, written, ran, kept, acknowledged⟩ :=
    durable.run loggable_readable writes
  obtain ⟨reopened, opened, applied, _⟩ := kept.reopen loggable_readable
  refine ⟨answers, later, reopened, ran, opened, ?_⟩
  obtain ⟨_, alike⟩ :=
    acknowledged (fun _ readable => readable) durable.history.sound (Ledger.Alike.refl _)
  rw [applied, Log.readableFront_eq_self kept.kind]
  exact kept.history.alike.trans alike.symm

theorem Durable.reopen_run
    {store : Store} {events : List Event} (durable : store.Durable Log.Readable events)
    {operations : List Operation} (modest : ∀ operation ∈ operations, operation.Modest) :
    ∃ answers later reopened, store.run operations = .ok (answers, later) ∧
      later.reopen = .ok reopened ∧
      reopened.ledger.Alike (acknowledgedAll store.ledger operations answers) :=
  durable.reopen_writes fun operation member => (modest operation member).writes

/-- The log of every run holds whole frames. Cut anywhere, it is opened as the longest
front of them, without conflicts and with views that agree, and what is then
acknowledged is there after opening once more. -/
theorem start_torn_of_serve
    {directory : Log.Directory} (blank : Blank directory)
    {operations : List Operation} (modest : ∀ operation ∈ operations, operation.Modest) :
    ∃ answers store events, serve directory operations = .ok (answers, store) ∧
      store.journal.tail.file.bytes.data.toList = Log.frames events ∧
      (Ledger.empty.applyAll events).Alike store.ledger ∧
      ∀ room spare, ∃ front opened, Log.LongestFront events room front ∧
        start (torn store.journal.tail.file room spare) = .ok opened ∧
        opened.ledger = Ledger.empty.applyAll front ∧
        opened.journal.tail.file.bytes.data.toList = Log.frames front ∧
        opened.ledger.ConflictFree ∧
        opened.ledger.ViewsAgree ∧
        ∀ further : List Operation, (∀ operation ∈ further, operation.Modest) →
          ∃ answers later reopened, opened.run further = .ok (answers, later) ∧
            later.reopen = .ok reopened ∧
            reopened.ledger.Alike
              (acknowledgedAll (Ledger.empty.applyAll front) further answers) := by
  obtain ⟨first, started, durable⟩ := start_of_fresh Log.Readable blank.fresh
  obtain ⟨answers, store, events, ran, kept, _⟩ :=
    durable.run loggable_readable fun operation member => (modest operation member).writes
  have served : serve directory operations = .ok (answers, store) := by
    rw [serve, started]
    exact ran
  refine ⟨answers, store, events, served, kept.stored, kept.history.alike, ?_⟩
  intro room spare
  obtain ⟨front, opened, longest, start, applied, whole⟩ := kept.start_torn room spare
  refine ⟨front, opened, longest, start, applied, whole.stored,
    whole.history.sound.conflictFree, whole.history.sound.viewsAgree, ?_⟩
  intro further furtherModest
  rw [← applied]
  exact whole.reopen_run furtherModest

/-- A log of two creations, written by a compaction, and the removal behind them. -/
def threeFrames : List Operation :=
  [.insert ⟨.ofNat 1, .ofNat 7, ⟨946684800000, 946684860000⟩, .confirmed,
      ⟨"Ada", "ada@example.org"⟩, 0⟩,
    .insert ⟨.ofNat 2, .ofNat 8, ⟨946684800000, 946684890000⟩, .pending,
      ⟨"Bob", "bob@example.org"⟩, 0⟩,
    .compact, .erase (.ofNat 1)]

/-- Cut within the second frame, of 142 bytes each, it gives the first reservation back,
which is then removed once more. -/
theorem start_torn_of_serve_threeFrames :
    ∃ answers store events, serve {} threeFrames = .ok (answers, store) ∧
      store.journal.tail.file.bytes.data.toList = Log.frames events ∧
      (Ledger.empty.applyAll events).Alike store.ledger ∧
      ∃ front opened, Log.LongestFront events 200 front ∧
        start (torn store.journal.tail.file 200 .absent) = .ok opened ∧
        opened.ledger = Ledger.empty.applyAll front ∧
        opened.journal.tail.file.bytes.data.toList = Log.frames front ∧
        opened.ledger.ConflictFree ∧
        opened.ledger.ViewsAgree ∧
        ∃ answers later reopened, opened.run [.erase (.ofNat 1)] = .ok (answers, later) ∧
          later.reopen = .ok reopened ∧
          reopened.ledger.Alike
            (acknowledgedAll (Ledger.empty.applyAll front) [.erase (.ofNat 1)] answers) := by
  have modest : ∀ operation ∈ threeFrames, operation.Modest := by
    simp only [threeFrames, List.forall_mem_cons, List.not_mem_nil, false_imp_iff, implies_true,
      Operation.Modest]
    decide
  have further : ∀ operation ∈ [Operation.erase (.ofNat 1)], operation.Modest := by
    simp [Operation.Modest]
  obtain ⟨answers, store, events, served, stored, alike, cut⟩ :=
    start_torn_of_serve (Or.inl rfl : Blank {}) modest
  obtain ⟨front, opened, longest, started, applied, whole, free, agree, rest⟩ := cut 200 .absent
  exact ⟨answers, store, events, served, stored, alike, front, opened, longest, started, applied,
    whole, free, agree, rest _ further⟩

end Reservations.Store
