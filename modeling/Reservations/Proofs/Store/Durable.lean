import Reservations.Proofs.Log.Recovery
import Reservations.Proofs.Store.Run

namespace Reservations.Store

/-! ## What is on the disk

While the store runs, everything it acknowledged is in the file itself, not only in
the buffer before it. A file can fill up: from then on it takes nothing, whatever is
flushed, until a compaction puts another one in its place. -/

/-- The file holds the frames of a history of the ledger. The buffer holds something
only where the file is full. -/
structure Durable (Kind : Event → Prop) (store : Store) (events : List Event) : Prop where
  loose : store.journal.tail.file.stuck = false
  stored : store.journal.tail.file.bytes.data.toList = Log.frames events
  settled : store.journal.tail.file.full = false → store.journal.tail.pending = .empty
  kind : ∀ event ∈ events, Kind event
  history : store.ledger.History events

/-- The ledger with the change that is acknowledged by an answer, if one is. -/
def Operation.acknowledged : Operation → Answer → Ledger → Ledger
  | insert _, .inserted (.ok reservation), ledger => ledger.apply (.created reservation)
  | erase id, .erased (.ok true), ledger =>
      match ledger.homeOf? id with
      | some resource => ledger.apply (.deleted id resource)
      | none => ledger
  | _, _, ledger => ledger

/-- The ledger with all changes that are acknowledged, in order. -/
def acknowledgedAll (ledger : Ledger) : List Operation → List Answer → Ledger
  | operation :: operations, answer :: answers =>
      acknowledgedAll (operation.acknowledged answer ledger) operations answers
  | _, _ => ledger

/-- What an operation leaves behind: a file and a ledger that belong together, and in
the ledger what was acknowledged, if all that was acknowledged can be read back. -/
structure Settles (Kind : Event → Prop) (store : Store) (operation : Operation)
    (answer : Answer) (next : Store) (later : List Event) : Prop where
  durable : next.Durable Kind later
  acknowledged : (∀ event, Kind event → Log.Readable event) →
    ∀ {model : Ledger}, model.Sound → model.Alike store.ledger →
      (operation.acknowledged answer model).Sound ∧
        (operation.acknowledged answer model).Alike next.ledger

namespace Durable

variable {Kind : Event → Prop} {store : Store} {events : List Event}

theorem stream_eq
    (durable : store.Durable Kind events) (roomy : store.journal.tail.file.full = false) :
    store.journal.tail.stream = Log.frames events := by
  rw [Log.Tail.stream, durable.settled roomy, durable.stored]
  exact List.append_nil _

theorem recorded
    (durable : store.Durable Kind events) (roomy : store.journal.tail.file.full = false) :
    store.Recorded Kind events :=
  ⟨roomy, durable.loose, durable.stream_eq roomy, durable.kind, durable.history⟩

theorem of_kind
    {Other : Event → Prop} (durable : store.Durable Kind events)
    (other : ∀ event ∈ events, Other event) :
    store.Durable Other events :=
  ⟨durable.loose, durable.stored, durable.settled, other, durable.history⟩

theorem of_same
    (durable : store.Durable Kind events) {ledger : Ledger} (same : ledger.Same store.ledger) :
    Durable Kind ⟨ledger, store.journal⟩ events :=
  ⟨durable.loose, durable.stored, durable.settled, durable.kind, durable.history.of_same same⟩

/-- Nothing is acknowledged, and nothing happens to the reservations. -/
theorem settles_of_same
    {operation : Operation} {answer : Answer}
    (nothing : ∀ ledger, operation.acknowledged answer ledger = ledger)
    {next : Store} {later : List Event} (kept : next.Durable Kind later)
    (same : next.ledger.Same store.ledger) :
    Settles Kind store operation answer next later where
  durable := kept
  acknowledged _ model sound alike := by
    rw [nothing]
    exact ⟨sound, alike.trans same.symm.alike⟩

/-- An event is in the file, or is refused without a trace in the file. -/
theorem commit
    (durable : store.Durable Kind events) {event : Event} (kind : Kind event)
    {ledger : Ledger} (history : ledger.History (events ++ [event])) :
    (∃ journal, store.journal.commit [event] = (.ok (), journal) ∧
        Durable Kind ⟨ledger, journal⟩ (events ++ [event])) ∨
      ∃ journal, store.journal.commit [event] = (.error .noSpace, journal) ∧
        Durable Kind ⟨store.ledger, journal⟩ events := by
  cases full : store.journal.tail.file.full with
  | false =>
      -- Nothing was left in the buffer, so that the file gains this one frame.
      obtain ⟨journal, committed, gains, settled⟩ :=
        Log.Journal.commit_of_roomy full durable.loose [event]
      refine Or.inl ⟨journal, committed, gains.tail.stuck.trans durable.loose, ?_,
        fun _ => settled, ?_, history⟩
      · have stored := gains.tail.stream
        rw [durable.stream_eq full, Log.Tail.stream, settled, ← Log.frames_append] at stored
        simpa using stored
      · intro other member
        rcases List.mem_append.mp member with earlier | last
        · exact durable.kind other earlier
        · rw [List.mem_singleton.mp last]
          exact kind
  | true =>
      -- What stays in the buffer never gets to this file, which takes nothing any more.
      obtain ⟨journal, refused, unchanged, _⟩ := Log.Journal.commit_of_full full event
      refine Or.inr ⟨journal, refused, ?_, ?_, ?_, durable.kind, durable.history⟩
      · rw [unchanged]
        exact durable.loose
      · rw [unchanged]
        exact durable.stored
      · intro roomy
        rw [unchanged, full] at roomy
        cases roomy

/-- A reservation that is acknowledged is the last in the file, and there was room. -/
theorem of_insert
    (durable : store.Durable Kind events) {reservation : Reservation}
    (kind : Kind (.created reservation)) {next : Store}
    (inserted : store.insert reservation = (.ok reservation, next)) :
    next.Durable Kind (events ++ [.created reservation]) ∧
      next.journal.tail.file.full = false ∧
      next.ledger.Same (store.ledger.apply (.created reservation)) := by
  cases decision : store.ledger.refusal? reservation with
  | some refusal =>
      obtain ⟨_, _, answered⟩ := insert_of_refused decision
      rw [inserted] at answered
      cases answered
  | none =>
      have admits :=
        (Ledger.refusal?_eq_none_iff (durable.history.sound.sorted _)).mp decision
      rcases durable.commit kind (durable.history.created admits) with
        ⟨journal, committed, grown⟩ | ⟨journal, refused, _⟩
      · obtain ⟨ledger, same, answered⟩ := insert_of_commit decision committed
        rw [inserted] at answered
        cases answered
        have applied := same.apply (.created reservation)
        obtain ⟨gains, _⟩ := Log.Journal.gains_of_commit committed
        exact ⟨grown.of_same applied, gains.tail.roomy, applied⟩
      · obtain ⟨_, _, answered⟩ := insert_of_fault decision refused
        rw [inserted] at answered
        cases answered

/-- A reservation is acknowledged only if it is in the file. -/
theorem perform_insert
    (durable : store.Durable Kind events) {reservation : Reservation}
    (kind : Kind (.created reservation)) :
    ∃ answer next later, store.perform (.insert reservation) = .ok (answer, next) ∧
      Settles Kind store (.insert reservation) answer next later ∧ events <+: later := by
  cases decision : store.ledger.refusal? reservation with
  | some refusal =>
      obtain ⟨ledger, same, answered⟩ := insert_of_refused decision
      refine ⟨_, _, events, by rw [perform, answered], ?_, List.prefix_refl events⟩
      exact settles_of_same (fun _ => rfl) (durable.of_same same) same
  | none =>
      have admits :=
        (Ledger.refusal?_eq_none_iff (durable.history.sound.sorted _)).mp decision
      rcases durable.commit kind (durable.history.created admits) with
        ⟨journal, committed, grown⟩ | ⟨journal, refused, kept⟩
      · obtain ⟨ledger, same, answered⟩ := insert_of_commit decision committed
        have applied := same.apply (.created reservation)
        refine ⟨_, _, _, by rw [perform, answered], ⟨grown.of_same applied, ?_⟩,
          List.prefix_append events _⟩
        intro _ model sound alike
        have modelAdmits := alike.symm.admits admits
        exact ⟨sound.apply_created modelAdmits,
          (alike.apply_created reservation).trans applied.symm.alike⟩
      · obtain ⟨ledger, same, answered⟩ := insert_of_fault decision refused
        refine ⟨_, _, events, by rw [perform, answered], ?_, List.prefix_refl events⟩
        exact settles_of_same (fun _ => rfl) (kept.of_same same) same

theorem perform_erase
    (loggable : Loggable Kind) (durable : store.Durable Kind events) (id : Ulid) :
    ∃ answer next later, store.perform (.erase id) = .ok (answer, next) ∧
      Settles Kind store (.erase id) answer next later ∧ events <+: later := by
  have sound := durable.history.sound
  cases home : store.ledger.homeOf? id with
  | none =>
      have answered := erase_of_absent home
      refine ⟨_, store, events, by rw [perform, answered], ?_, List.prefix_refl events⟩
      exact settles_of_same (fun _ => rfl) durable (Ledger.Same.refl _)
  | some resource =>
      rcases durable.commit (loggable.deleted id resource) (durable.history.deleted home) with
        ⟨journal, committed, grown⟩ | ⟨journal, refused, kept⟩
      · have answered := erase_of_commit sound home committed
        refine ⟨_, _, _, by rw [perform, answered], ⟨grown, ?_⟩, List.prefix_append events _⟩
        intro _ model modelSound alike
        have modelHome : model.homeOf? id = some resource := by rw [alike.homes, home]
        simp only [Operation.acknowledged, modelHome]
        exact ⟨modelSound.apply_deleted modelHome,
          alike.apply_deleted modelSound sound id resource⟩
      · have answered := erase_of_fault sound home refused
        refine ⟨_, _, events, by rw [perform, answered], ?_, List.prefix_refl events⟩
        exact settles_of_same (fun _ => rfl) kept (Ledger.Same.refl _)

/-- A compaction fails without a trace or puts a file in place that is not full and
holds one creation for each reservation. -/
theorem compact (durable : store.Durable Kind events) :
    (∃ refusal, store.compact = (.error refusal, store)) ∨
      ∃ next, store.compact = (.ok (), next) ∧ next.ledger = store.ledger ∧
        next.Durable Kind ((store.ledger.list none).map Event.created) := by
  by_cases blocked : store.journal.spare = .directory
  · left
    refine ⟨.storage .isDirectory, ?_⟩
    simp only [Store.compact, Log.Journal.compact_of_directory blocked]
  · right
    obtain ⟨file, compacted, _, loose, bytes⟩ :=
      Log.Journal.compact_of_ne_directory blocked ((store.ledger.list none).map Event.created)
    refine ⟨⟨store.ledger, ⟨⟨file, .empty⟩, 0, .absent⟩⟩, ?_, rfl, loose, bytes, fun _ => rfl,
      durable.history.kind_creations durable.kind,
      Ledger.History.rebuilt durable.history.sound⟩
    simp only [Store.compact, compacted]

theorem compactIfNeeded (durable : store.Durable Kind events) (threshold : Nat) :
    store.compactIfNeeded threshold = (false, store) ∨
      ∃ next, store.compactIfNeeded threshold = (true, next) ∧ next.ledger = store.ledger ∧
        next.Durable Kind ((store.ledger.list none).map Event.created) :=
  compactIfNeeded_of_compact durable.compact threshold

/-- Closing leaves the file as it is: there is nothing in the buffer, or no room for
it. -/
theorem close_eq (durable : store.Durable Kind events) :
    store.journal.close = ⟨.file store.journal.tail.file, store.journal.spare⟩ := by
  cases full : store.journal.tail.file.full with
  | false =>
      rw [Log.Journal.close_of_roomy full, Log.Tail.drained, durable.settled full]
      simp
  | true => exact Log.Journal.close_of_full full

/-- Opening the store again gives the events that replay can read. -/
theorem reopen (loggable : Loggable Kind) (durable : store.Durable Kind events) :
    ∃ next, store.reopen = .ok next ∧
      next.ledger = Ledger.empty.applyAll (Log.readableFront events) ∧
        next.Durable Kind (Log.readableFront events) := by
  have addressable : ∀ event ∈ events, event.Addressable := fun event member =>
    loggable.addressable event (durable.kind event member)
  obtain ⟨kept, recovered, stored⟩ :=
    Log.recover_frames store.journal.spare addressable durable.stored
  refine ⟨⟨Ledger.empty.applyAll (Log.readableFront events),
    ⟨⟨{ store.journal.tail.file with bytes := kept }, .empty⟩, 0, store.journal.spare⟩⟩, ?_, rfl,
    durable.loose, stored, fun _ => rfl, ?_, ?_⟩
  · rw [Store.reopen, start, durable.close_eq, recovered]
    rfl
  · intro event member
    exact durable.kind event ((Log.readableFront_prefix events).subset member)
  · exact durable.history.front (Log.readableFront_prefix events)

theorem perform
    (loggable : Loggable Kind) (durable : store.Durable Kind events)
    {operation : Operation} (writes : operation.Writes Kind) :
    ∃ answer next later, store.perform operation = .ok (answer, next) ∧
      Settles Kind store operation answer next later := by
  have idle := Ledger.Same.refl store.ledger
  have kept : ∀ {next : Store}, next.ledger = store.ledger → next.ledger.Same store.ledger := by
    rintro next equal
    rwa [equal]
  cases operation with
  | insert reservation =>
      obtain ⟨answer, next, later, performed, settles, _⟩ := durable.perform_insert writes
      exact ⟨answer, next, later, performed, settles⟩
  | erase id =>
      obtain ⟨answer, next, later, performed, settles, _⟩ := durable.perform_erase loggable id
      exact ⟨answer, next, later, performed, settles⟩
  | compact =>
      rcases durable.compact with ⟨refusal, failed⟩ | ⟨next, compacted, equal, rebuilt⟩
      · refine ⟨_, store, events, by rw [Store.perform, failed], ?_⟩
        exact settles_of_same (fun _ => rfl) durable idle
      · exact ⟨_, next, _, by rw [Store.perform, compacted],
          settles_of_same (fun _ => rfl) rebuilt (kept equal)⟩
  | compactIfNeeded threshold =>
      rcases durable.compactIfNeeded threshold with unneeded | ⟨next, compacted, equal, rebuilt⟩
      · refine ⟨_, store, events, by rw [Store.perform, unneeded], ?_⟩
        exact settles_of_same (fun _ => rfl) durable idle
      · exact ⟨_, next, _, by rw [Store.perform, compacted],
          settles_of_same (fun _ => rfl) rebuilt (kept equal)⟩
  | reopen =>
      obtain ⟨next, reopened, applied, kept⟩ := durable.reopen loggable
      refine ⟨_, next, _, by rw [Store.perform, reopened], kept, ?_⟩
      intro readable model sound alike
      have all : ∀ event ∈ events, Log.Readable event := fun event member =>
        readable event (durable.kind event member)
      rw [applied, Log.readableFront_eq_self all]
      exact ⟨sound, alike.trans durable.history.alike.symm⟩
  | replaceSpare node =>
      refine ⟨_, _, events, rfl, ?_⟩
      exact settles_of_same (fun _ => rfl)
        ⟨durable.loose, durable.stored, durable.settled, durable.kind, durable.history⟩ idle

/-- By induction on the operations: what every one of them leaves behind adds up. -/
theorem run
    (loggable : Loggable Kind) (durable : store.Durable Kind events)
    {operations : List Operation} (writes : ∀ operation ∈ operations, operation.Writes Kind) :
    ∃ answers next later, store.run operations = .ok (answers, next) ∧
      next.Durable Kind later ∧
        ((∀ event, Kind event → Log.Readable event) →
          ∀ {model : Ledger}, model.Sound → model.Alike store.ledger →
            (acknowledgedAll model operations answers).Sound ∧
              (acknowledgedAll model operations answers).Alike next.ledger) := by
  induction operations generalizing store events with
  | nil => exact ⟨[], store, events, rfl, durable, fun _ _ sound alike => ⟨sound, alike⟩⟩
  | cons operation operations inductionHypothesis =>
      rw [List.forall_mem_cons] at writes
      obtain ⟨answer, middle, between, performed, settles⟩ :=
        durable.perform loggable writes.1
      obtain ⟨answers, next, later, ran, kept, rest⟩ :=
        inductionHypothesis settles.durable writes.2
      refine ⟨answer :: answers, next, later, ?_, kept, ?_⟩
      · simp only [Store.run, performed, ran]
      · intro readable model sound alike
        have first := settles.acknowledged readable sound alike
        exact rest readable first.1 first.2

end Durable

/-! ### From the start -/

/-- There is no log, or one without bytes. It may be full already. -/
def Fresh (directory : Log.Directory) : Prop :=
  directory.log = .absent ∨ ∃ full, directory.log = .file { full }

theorem Blank.fresh {directory : Log.Directory} (blank : Blank directory) : Fresh directory := by
  rcases blank with absent | empty
  · exact Or.inl absent
  · exact Or.inr ⟨false, empty⟩

theorem start_of_fresh
    (Kind : Event → Prop) {directory : Log.Directory} (fresh : Fresh directory) :
    ∃ store, start directory = .ok store ∧ store.Durable Kind [] := by
  have durable :
      ∀ full spare, Durable Kind ⟨Ledger.empty, ⟨⟨{ full }, .empty⟩, 0, spare⟩⟩ [] :=
    fun full spare =>
      ⟨rfl, rfl, fun _ => rfl, fun event member => absurd member List.not_mem_nil,
        Ledger.History.nil⟩
  obtain ⟨log, spare⟩ := directory
  rcases fresh with absent | ⟨full, empty⟩
  · obtain rfl : log = .absent := absent
    exact ⟨_, rfl, durable false spare⟩
  · obtain rfl : log = .file { full } := empty
    refine ⟨⟨Ledger.empty, ⟨⟨{ full }, .empty⟩, 0, spare⟩⟩, ?_, durable full spare⟩
    simp only [start, Log.Directory.recover, Log.Directory.replay, Log.replay_empty]
    rfl

/-- Every run where there is room goes through, and ends with room, and with everything
in the file. -/
theorem serve_durable
    {Kind : Event → Prop} (loggable : Loggable Kind)
    {directory : Log.Directory} (blank : Blank directory)
    {operations : List Operation} (writes : ∀ operation ∈ operations, operation.Writes Kind) :
    ∃ answers store events, serve directory operations = .ok (answers, store) ∧
      store.Durable Kind events ∧ store.journal.tail.file.full = false := by
  obtain ⟨first, started, fresh⟩ := start_of_fresh Kind blank.fresh
  obtain ⟨answers, store, events, ran, durable, _⟩ := fresh.run loggable writes
  have served : serve directory operations = .ok (answers, store) := by
    rw [serve, started]
    exact ran
  obtain ⟨_, other, _, again, recorded, _⟩ := serve_recorded loggable blank writes
  rw [served] at again
  cases again
  exact ⟨answers, store, events, served, durable, recorded.roomy⟩

end Reservations.Store
