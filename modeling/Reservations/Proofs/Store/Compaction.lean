import Reservations.Proofs.Log.Compaction
import Reservations.Proofs.Store.Crash
import Reservations.Proofs.Store.Views

namespace Reservations.Store

/-! ## Compactions that are cut short

Until the spare file is renamed the log is the old one, and then it is the new one. Both
lead to the same reservations, although they hold different events. -/

/-- Compacts call by call, as far as calls are granted. -/
def compactWithin
    (store : Store) (fault : StorageFault) (granted : Nat) (calls : List Log.Call) :
    Except Refusal Unit × Store :=
  match store.journal.compactWithin fault granted calls with
  | (.ok (), journal) => (.ok (), { store with journal })
  | (.error fault, journal) => (.error (.storage fault), { store with journal })

/-- What a compaction of a store promises, of whose calls some are granted. -/
structure CompactsSafely
    (store : Store) (fault : StorageFault) (granted : Nat) (calls : List Log.Call) : Prop where
  /-- Cut short by a crash, it leaves a log with the same reservations, whatever stands
  at the path of the spare file. -/
  crash : ∀ spare, ∃ opened,
    start { (Log.follow fault granted calls store.journal.directory).2 with spare } =
        .ok opened ∧
      store.AnswersAlike opened
  /-- Cut short by a failure, it says so. -/
  refused : granted < calls.length →
    ∃ other next, store.compactWithin fault granted calls = (.error (.storage other), next)
  harmless : ∀ refusal next, store.compactWithin fault granted calls = (.error refusal, next) →
    next.ledger = store.ledger ∧ next.journal.tail = store.journal.tail ∧
      next.journal.appends = store.journal.appends
  complete : ∀ next, store.compactWithin fault granted calls = (.ok (), next) →
    next.ledger = store.ledger ∧
      next.journal.tail.pending = .empty ∧ next.journal.appends = 0 ∧
      ∃ live : List Reservation, live.Nodup ∧ (∀ r, r ∈ live ↔ store.get r.id = .ok r) ∧
        next.journal.tail.file.bytes.data.toList = Log.frames (live.map Event.created)
  /-- However it ends, what is acknowledged later is there on opening again. -/
  lasting : ∀ answer next, store.compactWithin fault granted calls = (answer, next) →
    ∀ further : List Operation, (∀ operation ∈ further, operation.Modest) →
      ∃ answers later reopened, next.run further = .ok (answers, later) ∧
        later.reopen = .ok reopened ∧
        reopened.ledger.Alike (acknowledgedAll next.ledger further answers)
  /-- It is the compaction of the store once all calls are granted. -/
  whole : calls.length ≤ granted → store.compact = store.compactWithin fault granted calls

section Frames

variable {file : Log.File} {events : List Event}

/-- A log of frames that can be read is opened as it is. -/
theorem start_of_frames
    (readable : ∀ event ∈ events, Log.Readable event)
    (stored : file.bytes.data.toList = Log.frames events) (spare : Log.Node) :
    start ⟨.file file, spare⟩ =
      .ok ⟨Ledger.empty.applyAll events, ⟨⟨file, .empty⟩, 0, spare⟩⟩ := by
  have found := Log.replay_frames_of_readable readable stored
  simp only [start, Log.Directory.recover, Log.Directory.replay, found,
    ByteArray.extract_zero_size]
  rfl

/-- Whatever history of its reservations the log holds, what is opened on it is a twin
of the store. -/
theorem Recorded.twins_start
    {store : Store} {earlier : List Event} (recorded : store.Recorded Log.Readable earlier)
    (roomy : file.full = false) (loose : file.stuck = false)
    (readable : ∀ event ∈ events, Log.Readable event)
    (stored : file.bytes.data.toList = Log.frames events)
    (history : store.ledger.History events) (spare : Log.Node) :
    ∃ opened, start ⟨.file file, spare⟩ = .ok opened ∧ store.Twins opened := by
  have replayed : Recorded Log.Readable
      ⟨Ledger.empty.applyAll events, ⟨⟨file, .empty⟩, 0, spare⟩⟩ events := by
    refine ⟨roomy, loose, ?_, readable, history.front (List.prefix_refl events)⟩
    rw [Log.Tail.stream_of_settled rfl, stored]
  exact ⟨_, start_of_frames readable stored spare, ⟨earlier, recorded⟩, ⟨events, replayed⟩,
    history.alike.symm⟩

end Frames

namespace Durable

variable {store : Store} {events : List Event} {fault : StorageFault} {granted : Nat}
  {calls : List Log.Call}

/-- A crash on the way leaves the old log or the new one. -/
theorem twins_follow
    (durable : store.Durable Log.Readable events)
    (roomy : store.journal.tail.file.full = false)
    (compacts : Log.Compacts ((store.ledger.list none).map Event.created) calls)
    (spare : Log.Node) :
    ∃ opened,
      start { (Log.follow fault granted calls store.journal.directory).2 with spare } =
          .ok opened ∧
        store.Twins opened := by
  have recorded := durable.recorded roomy
  by_cases stopped : granted < calls.length ∨ store.journal.spare = .directory
  · obtain ⟨other, node, followed⟩ : ∃ other node,
        Log.follow fault granted calls store.journal.directory =
          (.error other, ⟨store.journal.directory.log, node⟩) :=
      Log.follow_of_stopped compacts stopped
    rw [followed]
    exact recorded.twins_start roomy durable.loose durable.kind durable.stored durable.history
      spare
  · rw [not_or, Nat.not_lt] at stopped
    obtain ⟨bytes, followed, stored⟩ : ∃ bytes,
        Log.follow fault granted calls store.journal.directory =
          (.ok (), ⟨.file { bytes }, .absent⟩) ∧ _ :=
      Log.follow_of_granted compacts stopped.1 stopped.2
    rw [followed]
    exact recorded.twins_start rfl rfl (durable.history.kind_creations durable.kind) stored
      (Ledger.History.rebuilt durable.history.sound) spare

/-- A compaction that is stopped fails and touches the spare file at most. Any other one
succeeds and leaves one creation for each reservation. -/
theorem compactWithin_cases
    (durable : store.Durable Log.Readable events) (fault : StorageFault) (granted : Nat)
    (compacts : Log.Compacts ((store.ledger.list none).map Event.created) calls) :
    (∃ other node, store.compactWithin fault granted calls =
        (.error (.storage other), ⟨store.ledger, { store.journal with spare := node }⟩) ∧
      Durable Log.Readable ⟨store.ledger, { store.journal with spare := node }⟩ events) ∨
    calls.length ≤ granted ∧ ∃ bytes : ByteArray,
      store.compactWithin fault granted calls =
        (.ok (), ⟨store.ledger, ⟨⟨{ bytes }, .empty⟩, 0, .absent⟩⟩) ∧
      bytes.data.toList = Log.frames ((store.ledger.list none).map Event.created) ∧
      Durable Log.Readable ⟨store.ledger, ⟨⟨{ bytes }, .empty⟩, 0, .absent⟩⟩
        ((store.ledger.list none).map Event.created) := by
  by_cases stopped : granted < calls.length ∨ store.journal.spare = .directory
  · obtain ⟨other, node, failed⟩ : ∃ other node,
        store.journal.compactWithin fault granted calls =
          (.error other, { store.journal with spare := node }) :=
      Log.Journal.compactWithin_of_stopped compacts stopped
    refine Or.inl ⟨other, node, ?_, ?_⟩
    · rw [compactWithin, failed]
    · exact ⟨durable.loose, durable.stored, durable.settled, durable.kind, durable.history⟩
  · rw [not_or, Nat.not_lt] at stopped
    obtain ⟨bytes, compacted, stored⟩ : ∃ bytes,
        store.journal.compactWithin fault granted calls =
          (.ok (), ⟨⟨{ bytes }, .empty⟩, 0, .absent⟩) ∧ _ :=
      Log.Journal.compactWithin_of_granted compacts stopped.1 stopped.2
    refine Or.inr ⟨stopped.1, bytes, ?_, stored, ?_⟩
    · rw [compactWithin, compacted]
    · exact ⟨rfl, stored, fun _ => rfl, durable.history.kind_creations durable.kind,
        Ledger.History.rebuilt durable.history.sound⟩

theorem compactsSafely
    (durable : store.Durable Log.Readable events)
    (roomy : store.journal.tail.file.full = false) (fault : StorageFault) (granted : Nat)
    (compacts : Log.Compacts ((store.ledger.list none).map Event.created) calls) :
    store.CompactsSafely fault granted calls := by
  have ends := durable.compactWithin_cases fault granted compacts
  have agree := durable.history.sound.viewsAgree
  constructor
  case crash =>
    intro spare
    obtain ⟨opened, started, twins⟩ := durable.twins_follow roomy compacts spare
    exact ⟨opened, started, twins.answersAlike⟩
  case refused =>
    intro short
    rcases ends with ⟨other, node, failed, _⟩ | ⟨enough, _⟩
    · exact ⟨_, _, failed⟩
    · omega
  case harmless =>
    intro refusal next refused
    rcases ends with ⟨other, node, failed, _⟩ | ⟨_, bytes, compacted, _⟩
    · rw [failed] at refused
      cases refused
      exact ⟨rfl, rfl, rfl⟩
    · rw [compacted] at refused
      cases refused
  case complete =>
    intro next succeeded
    rcases ends with ⟨other, node, failed, _⟩ | ⟨_, bytes, compacted, stored, _⟩
    · rw [failed] at succeeded
      cases succeeded
    · rw [compacted] at succeeded
      cases succeeded
      refine ⟨rfl, rfl, rfl, store.ledger.list none, agree.distinct, fun r => ?_, stored⟩
      rw [get_eq_ok_iff agree]
      exact (and_iff_left rfl).symm
  case lasting =>
    intro answer next ended further modest
    rcases ends with ⟨other, node, failed, kept⟩ | ⟨_, bytes, compacted, _, rebuilt⟩
    · rw [failed] at ended
      cases ended
      exact kept.reopen_run modest
    · rw [compacted] at ended
      cases ended
      exact rebuilt.reopen_run modest
  case whole =>
    intro enough
    have same : store.journal.compact ((store.ledger.list none).map Event.created) =
        store.journal.compactWithin fault granted calls :=
      Log.Journal.compact_eq_compactWithin compacts enough
    cases ended : store.journal.compactWithin fault granted calls with
    | mk outcome journal =>
        rw [ended] at same
        cases outcome with
        | ok done => simp only [Store.compact, Store.compactWithin, same, ended]
        | error other => simp only [Store.compact, Store.compactWithin, same, ended]

end Durable

/-- After every run that starts without a log or with an empty one, a compaction can be
cut short anywhere, by a crash or by a failure, and nothing is lost. -/
theorem compactsSafely_of_serve
    {directory : Log.Directory} (blank : Blank directory)
    {operations : List Operation} (modest : ∀ operation ∈ operations, operation.Modest) :
    ∃ answers store, serve directory operations = .ok (answers, store) ∧
      ∀ fault granted calls,
        Log.Compacts ((store.ledger.list none).map Event.created) calls →
          store.CompactsSafely fault granted calls := by
  obtain ⟨answers, store, events, served, durable, roomy⟩ :=
    serve_durable loggable_readable blank fun operation member => (modest operation member).writes
  exact ⟨answers, store, served, fun fault granted calls compacts =>
    durable.compactsSafely roomy fault granted compacts⟩

/-- One reservation of two is left. All frames are written in one piece, but renaming the
file fails, or a crash comes before it and then a directory stands in its place. -/
theorem compactsSafely_of_serve_unrenamed :
    ∃ answers store other next opened,
      let creations := (store.ledger.list none).map Event.created
      let calls : List Log.Call := [.create, .append (Log.frames creations), .rename]
      serve {} threeFrames = .ok (answers, store) ∧
      Log.Compacts creations calls ∧
      store.CompactsSafely .noSpace 2 calls ∧
      store.compactWithin .noSpace 2 calls = (.error (.storage other), next) ∧
      next.ledger = store.ledger ∧
      next.journal.appends = store.journal.appends ∧
      start { (Log.follow .noSpace 2 calls store.journal.directory).2 with
        spare := .directory } = .ok opened ∧
      store.AnswersAlike opened := by
  have modest : ∀ operation ∈ threeFrames, operation.Modest := by
    simp only [threeFrames, List.forall_mem_cons, List.not_mem_nil, false_imp_iff, implies_true,
      Operation.Modest]
    decide
  obtain ⟨answers, store, served, safe⟩ :=
    compactsSafely_of_serve (Or.inl rfl : Blank {}) modest
  have compacts : Log.Compacts ((store.ledger.list none).map Event.created)
      [.create, .append (Log.frames ((store.ledger.list none).map Event.created)), .rename] :=
    ⟨[_], List.append_nil _, rfl⟩
  have safely := safe .noSpace 2 _ compacts
  obtain ⟨other, next, refused⟩ := safely.refused (Nat.lt_succ_self 2)
  obtain ⟨same, _, appends⟩ := safely.harmless _ next refused
  obtain ⟨opened, started, alike⟩ := safely.crash .directory
  exact ⟨answers, store, other, next, opened, served, compacts, safely, refused, same, appends,
    started, alike⟩

end Reservations.Store
