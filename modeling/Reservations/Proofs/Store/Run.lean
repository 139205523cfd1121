import Reservations.Proofs.Ledger.History
import Reservations.Proofs.Log.Journal
import Reservations.Proofs.Store.Decision

namespace Reservations.Store

/-! ## Runs

Any sequence of operations on a store that starts from a log without events, and
what holds after each of them. -/

/-- What is asked of a store, and what others may do beside it. -/
inductive Operation where
  | insert (reservation : Reservation)
  | erase (id : Ulid)
  | compact
  | compactIfNeeded (threshold : Nat)
  | reopen
  /-- Others put something at the path of the spare file. A directory there
  makes compaction fail. -/
  | replaceSpare (node : Log.Node)

inductive Answer where
  | inserted (answer : Except Refusal Reservation)
  | erased (answer : Except Refusal Bool)
  | compacted (answer : Except Refusal Unit)
  | compactedIfNeeded (ran : Bool)
  | reopened
  | spareReplaced

/-- Whether an answer says that the log was compacted. -/
def Answer.compacts : Answer → Bool
  | compacted (.ok ()) => true
  | compactedIfNeeded ran => ran
  | _ => false

/-- Only opening the store again can fail as a whole. -/
def perform (store : Store) : Operation → Except StorageFault (Answer × Store)
  | .insert reservation =>
      let (answer, store) := store.insert reservation
      .ok (.inserted answer, store)
  | .erase id =>
      let (answer, store) := store.erase id
      .ok (.erased answer, store)
  | .compact =>
      let (answer, store) := store.compact
      .ok (.compacted answer, store)
  | .compactIfNeeded threshold =>
      let (ran, store) := store.compactIfNeeded threshold
      .ok (.compactedIfNeeded ran, store)
  | .reopen =>
      match store.reopen with
      | .ok store => .ok (.reopened, store)
      | .error fault => .error fault
  | .replaceSpare node =>
      .ok (.spareReplaced, { store with journal := { store.journal with spare := node } })

def run (store : Store) : List Operation → Except StorageFault (List Answer × Store)
  | [] => .ok ([], store)
  | operation :: operations =>
      match store.perform operation with
      | .error fault => .error fault
      | .ok (answer, store) =>
          match store.run operations with
          | .error fault => .error fault
          | .ok (answers, store) => .ok (answer :: answers, store)

/-- There is no log, or an empty one that can be written to. -/
def Blank (directory : Log.Directory) : Prop :=
  directory.log = .absent ∨ directory.log = .file {}

/-- Opens a store and runs operations on it. -/
def serve (directory : Log.Directory) (operations : List Operation) :
    Except StorageFault (List Answer × Store) :=
  match start directory with
  | .error fault => .error fault
  | .ok store => store.run operations

/-! ### What operations do to the ledger -/

/-- The ledger after an operation that no storage stands in the way of. -/
def Operation.effect : Operation → Ledger → Ledger
  | insert reservation, ledger =>
      if ledger.refusal? reservation = none then ledger.apply (.created reservation)
      else ledger
  | erase id, ledger =>
      match ledger.homeOf? id with
      | some resource => ledger.apply (.deleted id resource)
      | none => ledger
  | _, ledger => ledger

/-- The ledger after operations in order. -/
def effects (ledger : Ledger) (operations : List Operation) : Ledger :=
  operations.foldl (fun ledger operation => operation.effect ledger) ledger

section Effects

variable {left right : Ledger}

theorem sound_effect (operation : Operation) (sound : left.Sound) :
    (operation.effect left).Sound := by
  cases operation with
  | insert reservation =>
      rw [Operation.effect]
      split
      · rename_i accepted
        exact sound.apply_created ((Ledger.refusal?_eq_none_iff (sound.sorted _)).mp accepted)
      · exact sound
  | erase id =>
      rw [Operation.effect]
      split
      · rename_i resource home
        exact sound.apply_deleted home
      · exact sound
  | _ => exact sound

theorem alike_effect
    (operation : Operation) (alike : left.Alike right)
    (leftSound : left.Sound) (rightSound : right.Sound) :
    (operation.effect left).Alike (operation.effect right) := by
  cases operation with
  | insert reservation =>
      rw [Operation.effect, Operation.effect, alike.refusal?_eq leftSound rightSound]
      split
      · exact alike.apply_created reservation
      · exact alike
  | erase id =>
      rw [Operation.effect, Operation.effect, alike.homes]
      split
      · exact alike.apply_deleted leftSound rightSound _ _
      · exact alike
  | _ => exact alike

theorem alike_effects
    (operations : List Operation) (alike : left.Alike right)
    (leftSound : left.Sound) (rightSound : right.Sound) :
    (effects left operations).Alike (effects right operations) := by
  induction operations generalizing left right with
  | nil => exact alike
  | cons operation operations inductionHypothesis =>
      exact inductionHypothesis (alike_effect operation alike leftSound rightSound)
        (sound_effect operation leftSound) (sound_effect operation rightSound)

end Effects

/-! ### What holds between operations -/

/-- The log can be written to and holds the frames of a history of the ledger,
all of whose events are of some kind. -/
structure Recorded (Kind : Event → Prop) (store : Store) (events : List Event) : Prop where
  roomy : store.journal.tail.file.full = false
  loose : store.journal.tail.file.stuck = false
  written : store.journal.tail.stream = Log.frames events
  kind : ∀ event ∈ events, Kind event
  history : store.ledger.History events

/-- The log replayed from the start gives the very books of the ledger, with
every reservation at its place. -/
def Exact (store : Store) (events : List Event) : Prop :=
  (Ledger.empty.applyAll events).Same store.ledger

/-- A kind of events that the log can hold: no text is too long for memory, and
removals are always of this kind. -/
structure Loggable (Kind : Event → Prop) : Prop where
  addressable : ∀ event, Kind event → event.Addressable
  deleted : ∀ id resource, Kind (.deleted id resource)

theorem loggable_addressable : Loggable Event.Addressable :=
  ⟨fun _ addressable => addressable, fun _ _ => trivial⟩

theorem loggable_readable : Loggable Log.Readable :=
  ⟨fun _ readable => readable.addressable, Log.readable_deleted⟩

/-- The operation brings no event of another kind into the log. -/
def Operation.Writes (Kind : Event → Prop) : Operation → Prop
  | insert reservation => Kind (.created reservation)
  | _ => True

/-- A store that is opened again holds what replay can read of everything that
was written to its log. -/
theorem reopen_of_stream
    {store : Store} {events : List Event}
    (roomy : store.journal.tail.file.full = false)
    (addressable : ∀ event ∈ events, event.Addressable)
    (written : store.journal.tail.stream = Log.frames events) :
    ∃ journal : Log.Journal,
      store.reopen = .ok ⟨Ledger.empty.applyAll (Log.readableFront events), journal⟩ ∧
        journal.tail.file.full = false ∧
        journal.tail.file.stuck = store.journal.tail.file.stuck ∧
        journal.tail.stream = Log.frames (Log.readableFront events) := by
  obtain ⟨directory, journal, recovered, opened, kept⟩ :=
    Log.reopen_frames roomy addressable written
  refine ⟨journal, ?_, kept⟩
  rw [reopen, start, recovered]
  simp only [Except.bind, bind, opened]
  rfl

/-- A compaction that is not needed, or that fails, changes nothing. -/
theorem compactIfNeeded_of_compact
    {store : Store} {Good : Store → Prop}
    (compacts : (∃ refusal, store.compact = (.error refusal, store)) ∨
      ∃ next, store.compact = (.ok (), next) ∧ Good next)
    (threshold : Nat) :
    store.compactIfNeeded threshold = (false, store) ∨
      ∃ next, store.compactIfNeeded threshold = (true, next) ∧ Good next := by
  by_cases few : store.journal.appends < threshold
  · left
    rw [compactIfNeeded, if_pos few]
  · rw [compactIfNeeded, if_neg few]
    rcases compacts with ⟨refusal, failed⟩ | ⟨next, compacted, good⟩
    · left
      rw [failed]
    · right
      exact ⟨next, by rw [compacted], good⟩

namespace Recorded

variable {Kind : Event → Prop} {store : Store} {events : List Event}

/-- A history that grows together with the log. -/
theorem commit
    (recorded : store.Recorded Kind events) {event : Event} (kind : Kind event)
    {ledger : Ledger} (history : ledger.History (events ++ [event])) :
    ∃ journal, store.journal.commit [event] = (.ok (), journal) ∧
      Recorded Kind ⟨ledger, journal⟩ (events ++ [event]) := by
  obtain ⟨journal, committed, gains, _⟩ :=
    Log.Journal.commit_of_roomy recorded.roomy recorded.loose [event]
  refine ⟨journal, committed, gains.tail.roomy, gains.tail.stuck.trans recorded.loose,
    ?_, ?_, history⟩
  · rw [gains.tail.stream, recorded.written, Log.frames_append]
  · intro other member
    rcases List.mem_append.mp member with earlier | last
    · exact recorded.kind other earlier
    · rw [List.mem_singleton.mp last]
      exact kind

theorem of_same
    (recorded : store.Recorded Kind events) {ledger : Ledger}
    (same : ledger.Same store.ledger) :
    Recorded Kind ⟨ledger, store.journal⟩ events :=
  ⟨recorded.roomy, recorded.loose, recorded.written, recorded.kind,
    recorded.history.of_same same⟩

theorem insert_of_refused
    (recorded : store.Recorded Kind events) {reservation : Reservation} {refusal : Refusal}
    (refused : store.ledger.refusal? reservation = some refusal) :
    ∃ next, store.insert reservation = (.error refusal, next) ∧
      next.Recorded Kind events ∧ next.ledger.Same store.ledger ∧
        next.journal = store.journal := by
  obtain ⟨ledger, same, decided⟩ := Store.insert_of_refused refused
  exact ⟨_, decided, recorded.of_same same, same, rfl⟩

theorem insert_of_accepted
    (recorded : store.Recorded Kind events) {reservation : Reservation}
    (kind : Kind (.created reservation))
    (accepted : store.ledger.refusal? reservation = none) :
    ∃ next, store.insert reservation = (.ok reservation, next) ∧
      next.Recorded Kind (events ++ [.created reservation]) ∧
        next.ledger.Same (store.ledger.apply (.created reservation)) := by
  have admits :=
    (Ledger.refusal?_eq_none_iff (recorded.history.sound.sorted _)).mp accepted
  have history := recorded.history.created admits
  obtain ⟨journal, committed, grown⟩ := recorded.commit kind history
  obtain ⟨ledger, same, decided⟩ := Store.insert_of_commit accepted committed
  have applied := same.apply (.created reservation)
  exact ⟨_, decided, grown.of_same applied, applied⟩

/-- Whatever its texts are, a reservation that is not refused is acknowledged. -/
theorem insert_answer (recorded : store.Recorded Kind events) (reservation : Reservation) :
    (store.insert reservation).1 =
      match store.ledger.refusal? reservation with
      | some refusal => .error refusal
      | none => .ok reservation := by
  cases decision : store.ledger.refusal? reservation with
  | some refusal =>
      obtain ⟨_, _, decided⟩ := Store.insert_of_refused decision
      rw [decided]
  | none =>
      obtain ⟨_, committed, _⟩ :=
        Log.Journal.commit_of_roomy recorded.roomy recorded.loose [.created reservation]
      obtain ⟨_, _, decided⟩ := Store.insert_of_commit decision committed
      rw [decided]

theorem erase_of_home
    (recorded : store.Recorded Kind events) {id resource : Ulid}
    (kind : Kind (.deleted id resource)) (home : store.ledger.homeOf? id = some resource) :
    ∃ next, store.erase id = (.ok true, next) ∧
      next.Recorded Kind (events ++ [.deleted id resource]) ∧
        next.ledger = store.ledger.apply (.deleted id resource) := by
  have history := recorded.history.deleted home
  obtain ⟨journal, committed, grown⟩ := recorded.commit kind history
  exact ⟨_, Store.erase_of_commit recorded.history.sound home committed, grown, rfl⟩

/-- A file with one creation for each reservation is as good a log of the ledger. -/
theorem rewritten
    (recorded : store.Recorded Kind events) {file : Log.File} (roomy : file.full = false)
    (loose : file.stuck = false)
    (bytes : file.bytes.data.toList =
      Log.frames ((store.ledger.list none).map Event.created)) :
    Recorded Kind ⟨store.ledger, ⟨⟨file, .empty⟩, 0, .absent⟩⟩
      ((store.ledger.list none).map Event.created) := by
  refine ⟨roomy, loose, ?_, recorded.history.kind_creations recorded.kind,
    Ledger.History.rebuilt recorded.history.sound⟩
  rw [Log.Tail.stream_of_settled rfl, bytes]

/-- A compaction fails without a trace or leaves one creation for each
reservation. -/
theorem compact (recorded : store.Recorded Kind events) :
    (∃ refusal, store.compact = (.error refusal, store)) ∨
      ∃ next, store.compact = (.ok (), next) ∧ next.ledger = store.ledger ∧
        next.Recorded Kind ((store.ledger.list none).map Event.created) := by
  by_cases blocked : store.journal.spare = .directory
  · left
    refine ⟨.storage .isDirectory, ?_⟩
    simp only [Store.compact, Log.Journal.compact_of_directory blocked]
  · right
    obtain ⟨file, compacted, roomy, loose, bytes⟩ :=
      Log.Journal.compact_of_ne_directory blocked ((store.ledger.list none).map Event.created)
    refine ⟨⟨store.ledger, ⟨⟨file, .empty⟩, 0, .absent⟩⟩, ?_, rfl,
      recorded.rewritten roomy loose bytes⟩
    simp only [Store.compact, compacted]

theorem compactIfNeeded (recorded : store.Recorded Kind events) (threshold : Nat) :
    store.compactIfNeeded threshold = (false, store) ∨
      ∃ next, store.compactIfNeeded threshold = (true, next) ∧ next.ledger = store.ledger ∧
        next.Recorded Kind ((store.ledger.list none).map Event.created) :=
  compactIfNeeded_of_compact recorded.compact threshold

/-- Opening the store again gives the events that replay can read. -/
theorem reopen (loggable : Loggable Kind) (recorded : store.Recorded Kind events) :
    ∃ next, store.reopen = .ok next ∧
      next.ledger = Ledger.empty.applyAll (Log.readableFront events) ∧
        next.Recorded Kind (Log.readableFront events) := by
  have addressable : ∀ event ∈ events, event.Addressable := fun event member =>
    loggable.addressable event (recorded.kind event member)
  obtain ⟨journal, reopened, roomy, stuck, written⟩ :=
    reopen_of_stream recorded.roomy addressable recorded.written
  refine ⟨_, reopened, rfl, roomy, stuck.trans recorded.loose, written, ?_, ?_⟩
  · intro event member
    exact recorded.kind event ((Log.readableFront_prefix events).subset member)
  · exact recorded.history.front (Log.readableFront_prefix events)

end Recorded

/-! ### Steps and runs -/

/-- Where operations lead that have some effect on the ledger: the log and the
ledger belong together again. Only a compaction loses the places of reservations
that start together, and only an unreadable event is lost on opening again. -/
structure Leads (Kind : Event → Prop) (store : Store) (events : List Event)
    (expected : Ledger) (compacted : Bool) (next : Store) (later : List Event) : Prop where
  recorded : next.Recorded Kind later
  exact : compacted = false → store.Exact events → next.Exact later
  expected : (∀ event, Kind event → Log.Readable event) → next.ledger.Alike expected

namespace Recorded

variable {Kind : Event → Prop} {store : Store} {events : List Event}

theorem leads_nowhere
    (recorded : store.Recorded Kind events) (compacted : Bool) :
    Leads Kind store events store.ledger compacted store events :=
  ⟨recorded, fun _ exact => exact, fun _ => Ledger.Alike.refl _⟩

theorem perform_insert
    (recorded : store.Recorded Kind events) {reservation : Reservation}
    (kind : Kind (.created reservation)) :
    ∃ answer next later, store.perform (.insert reservation) = .ok (answer, next) ∧
      Leads Kind store events ((Operation.insert reservation).effect store.ledger)
        answer.compacts next later := by
  cases decision : store.ledger.refusal? reservation with
  | some refusal =>
      obtain ⟨next, answered, kept, same, _⟩ := recorded.insert_of_refused decision
      refine ⟨_, next, events, by rw [perform, answered], kept, ?_, ?_⟩
      · intro _ exact
        exact Ledger.Same.trans exact same.symm
      · intro _
        rw [Operation.effect, decision, if_neg (by simp)]
        exact same.alike
  | none =>
      obtain ⟨next, answered, grown, same⟩ := recorded.insert_of_accepted kind decision
      refine ⟨_, next, _, by rw [perform, answered], grown, ?_, ?_⟩
      · intro _ exact
        rw [Exact, Ledger.applyAll_concat]
        exact (Ledger.Same.apply exact _).trans same.symm
      · intro _
        rw [Operation.effect, if_pos decision]
        exact same.alike

theorem perform_erase
    (loggable : Loggable Kind) (recorded : store.Recorded Kind events) (id : Ulid) :
    ∃ answer next later, store.perform (.erase id) = .ok (answer, next) ∧
      Leads Kind store events ((Operation.erase id).effect store.ledger)
        answer.compacts next later := by
  cases home : store.ledger.homeOf? id with
  | none =>
      have answered := erase_of_absent home
      refine ⟨_, store, events, by rw [perform, answered], ?_⟩
      rw [Operation.effect, home]
      exact recorded.leads_nowhere _
  | some resource =>
      obtain ⟨next, answered, grown, applied⟩ :=
        recorded.erase_of_home (loggable.deleted id resource) home
      refine ⟨_, next, _, by rw [perform, answered], grown, ?_, ?_⟩
      · intro _ exact
        rw [Exact, Ledger.applyAll_concat, applied]
        exact Ledger.Same.apply exact _
      · intro _
        rw [Operation.effect, home, applied]
        exact Ledger.Alike.refl _

theorem perform_reopen (loggable : Loggable Kind) (recorded : store.Recorded Kind events) :
    ∃ answer next later, store.perform .reopen = .ok (answer, next) ∧
      Leads Kind store events store.ledger answer.compacts next later := by
  obtain ⟨next, reopened, applied, kept⟩ := recorded.reopen loggable
  refine ⟨_, next, _, by rw [perform, reopened], kept, ?_, ?_⟩
  · intro _ _
    rw [Exact, applied]
    exact Ledger.Same.refl _
  · intro readable
    have all : ∀ event ∈ events, Log.Readable event := fun event member =>
      readable event (recorded.kind event member)
    rw [applied, Log.readableFront_eq_self all]
    exact recorded.history.alike

theorem perform
    (loggable : Loggable Kind) (recorded : store.Recorded Kind events)
    {operation : Operation} (writes : operation.Writes Kind) :
    ∃ answer next later, store.perform operation = .ok (answer, next) ∧
      Leads Kind store events (operation.effect store.ledger) answer.compacts next later := by
  cases operation with
  | insert reservation => exact recorded.perform_insert writes
  | erase id => exact recorded.perform_erase loggable id
  | compact =>
      rcases recorded.compact with ⟨refusal, failed⟩ | ⟨next, compacted, unchanged, rebuilt⟩
      · exact ⟨_, store, events, by rw [Store.perform, failed], recorded.leads_nowhere _⟩
      · refine ⟨_, next, _, by rw [Store.perform, compacted], rebuilt, ?_, ?_⟩
        · intro uncompacted
          cases uncompacted
        · intro _
          rw [unchanged]
          exact Ledger.Alike.refl _
  | compactIfNeeded threshold =>
      rcases recorded.compactIfNeeded threshold with
        skipped | ⟨next, compacted, unchanged, rebuilt⟩
      · exact ⟨_, store, events, by rw [Store.perform, skipped], recorded.leads_nowhere _⟩
      · refine ⟨_, next, _, by rw [Store.perform, compacted], rebuilt, ?_, ?_⟩
        · intro uncompacted
          cases uncompacted
        · intro _
          rw [unchanged]
          exact Ledger.Alike.refl _
  | reopen => exact recorded.perform_reopen loggable
  | replaceSpare node =>
      refine ⟨_, _, events, rfl, ?_, fun _ exact => exact, fun _ => Ledger.Alike.refl _⟩
      exact ⟨recorded.roomy, recorded.loose, recorded.written, recorded.kind, recorded.history⟩

theorem run
    (loggable : Loggable Kind) (recorded : store.Recorded Kind events)
    {operations : List Operation} (writes : ∀ operation ∈ operations, operation.Writes Kind) :
    ∃ answers next later, store.run operations = .ok (answers, next) ∧
      Leads Kind store events (effects store.ledger operations)
        (answers.any Answer.compacts) next later := by
  induction operations generalizing store events with
  | nil => exact ⟨[], store, events, rfl, recorded.leads_nowhere _⟩
  | cons operation operations inductionHypothesis =>
      rw [List.forall_mem_cons] at writes
      obtain ⟨answer, middle, between, performed, first⟩ := recorded.perform loggable writes.1
      obtain ⟨answers, next, later, ran, rest⟩ := inductionHypothesis first.recorded writes.2
      refine ⟨answer :: answers, next, later, ?_, rest.recorded, ?_, ?_⟩
      · simp only [Store.run, performed, ran]
      · intro uncompacted exact
        rw [List.any_cons, Bool.or_eq_false_iff] at uncompacted
        exact rest.exact uncompacted.2 (first.exact uncompacted.1 exact)
      · intro readable
        have further :=
          alike_effects operations (first.expected readable) first.recorded.history.sound
            (sound_effect operation recorded.history.sound)
        exact (rest.expected readable).trans further

end Recorded

/-! ### Adding what can stand together -/

/-- The spare file is no matter of adding either. -/
theorem spare_insert (store : Store) (reservation : Reservation) :
    (store.insert reservation).2.journal.spare = store.journal.spare := by
  obtain ⟨ledger, _, decided⟩ := store.insert_eq reservation
  have committed := store.journal.spare_commit [.created reservation]
  rw [decided]
  cases store.ledger.refusal? reservation with
  | some refusal => rfl
  | none =>
      cases written : store.journal.commit [.created reservation] with
      | mk outcome next =>
          rw [written] at committed
          cases outcome with
          | ok done => simpa only [persist_of_commit ledger written] using committed
          | error fault => simpa only [persist_of_fault ledger written] using committed

/-- What is consistent with the reservations added before is not refused. -/
theorem Recorded.accepted_of_consistent
    {Kind : Event → Prop} {store : Store} {earlier : List Reservation} {r : Reservation}
    (recorded : store.Recorded Kind (earlier.map Event.created))
    (exact : store.Exact (earlier.map Event.created)) (consistent : Consistent (earlier ++ [r])) :
    store.ledger.refusal? r = none := by
  obtain ⟨sound, holds⟩ :=
    Ledger.sound_ofCreations (consistent.sublist (List.sublist_append_left earlier [r]))
  have admits : store.ledger.Admits r :=
    (Ledger.Same.alike exact).admits (sound.admits_of_consistent holds consistent)
  exact (Ledger.refusal?_eq_none_iff (recorded.history.sound.sorted _)).mpr admits

/-- Reservations that are consistent with those added before are added one by one. -/
theorem Recorded.run_insertions
    {Kind : Event → Prop} {store : Store} {earlier entries : List Reservation}
    (recorded : store.Recorded Kind (earlier.map Event.created))
    (exact : store.Exact (earlier.map Event.created))
    (consistent : Consistent (earlier ++ entries)) (kind : ∀ r ∈ entries, Kind (.created r)) :
    ∃ next, store.run (entries.map .insert) =
        .ok (entries.map fun r => .inserted (.ok r), next) ∧
      next.Recorded Kind ((earlier ++ entries).map Event.created) ∧
      next.Exact ((earlier ++ entries).map Event.created) ∧
      next.journal.spare = store.journal.spare := by
  induction entries generalizing store earlier with
  | nil =>
      rw [List.append_nil]
      exact ⟨store, rfl, recorded, exact, rfl⟩
  | cons r entries inductionHypothesis =>
      rw [List.forall_mem_cons] at kind
      have split : earlier ++ r :: entries = (earlier ++ [r]) ++ entries := by simp
      rw [split] at consistent
      have upTo := consistent.sublist (List.sublist_append_left (earlier ++ [r]) entries)
      have accepted := recorded.accepted_of_consistent exact upTo
      obtain ⟨middle, inserted, grown, same⟩ := recorded.insert_of_accepted kind.1 accepted
      have spare := store.spare_insert r
      rw [inserted] at spare
      have grownTo : earlier.map Event.created ++ [.created r] =
          (earlier ++ [r]).map Event.created := by simp
      have still : middle.Exact ((earlier ++ [r]).map Event.created) := by
        rw [Exact, ← grownTo, Ledger.applyAll_concat]
        exact (Ledger.Same.apply exact _).trans same.symm
      rw [grownTo] at grown
      obtain ⟨next, ran, whole, exactly, kept⟩ :=
        inductionHypothesis grown still consistent kind.2
      rw [split]
      refine ⟨next, ?_, whole, exactly, kept.trans spare⟩
      simp only [List.map_cons, Store.run, Store.perform, inserted, ran]

/-- Where there is no log yet, a store starts without events. -/
theorem start_of_blank
    (Kind : Event → Prop) {directory : Log.Directory} (blank : Blank directory) :
    ∃ store, start directory = .ok store ∧ store.Recorded Kind [] ∧ store.Exact [] := by
  have recorded :
      ∀ spare, Recorded Kind ⟨Ledger.empty, ⟨⟨{}, .empty⟩, 0, spare⟩⟩ [] := fun spare =>
    ⟨rfl, rfl, rfl, fun event member => absurd member List.not_mem_nil, Ledger.History.nil⟩
  obtain ⟨log, spare⟩ := directory
  rcases blank with absent | empty
  · obtain rfl : log = .absent := absent
    exact ⟨_, rfl, recorded spare, Ledger.Same.refl _⟩
  · obtain rfl : log = .file {} := empty
    refine ⟨⟨Ledger.empty, ⟨⟨{}, .empty⟩, 0, spare⟩⟩, ?_, recorded spare, Ledger.Same.refl _⟩
    simp only [start, Log.Directory.recover, Log.Directory.replay, Log.replay_empty]
    rfl

/-- What can stand together can be added from there, in any order. -/
theorem serve_insertions
    {Kind : Event → Prop} {entries : List Reservation} (consistent : Consistent entries)
    (kind : ∀ r ∈ entries, Kind (.created r)) :
    ∃ store, serve {} (entries.map .insert) =
        .ok (entries.map fun r => .inserted (.ok r), store) ∧
      store.Recorded Kind (entries.map Event.created) ∧
      store.Exact (entries.map Event.created) ∧ store.journal.spare = .absent := by
  obtain ⟨first, started, recorded, exact⟩ := start_of_blank Kind (Or.inl rfl : Blank {})
  have nothing : ([] : List Reservation).map Event.created = [] := rfl
  rw [← nothing] at recorded exact
  obtain ⟨store, ran, grown, exactly, spare⟩ := recorded.run_insertions exact consistent kind
  have absent : first.journal.spare = .absent := by
    cases started
    rfl
  refine ⟨store, ?_, grown, exactly, spare.trans absent⟩
  rw [serve, started]
  exact ran

/-- Every run from there goes through, and ends with a log and a ledger that
belong together. -/
theorem serve_recorded
    {Kind : Event → Prop} (loggable : Loggable Kind)
    {directory : Log.Directory} (blank : Blank directory)
    {operations : List Operation} (writes : ∀ operation ∈ operations, operation.Writes Kind) :
    ∃ answers store events, serve directory operations = .ok (answers, store) ∧
      store.Recorded Kind events ∧
        (answers.any Answer.compacts = false → store.Exact events) := by
  obtain ⟨first, started, recorded, exact⟩ := start_of_blank Kind blank
  obtain ⟨answers, store, events, ran, leads⟩ := recorded.run loggable writes
  refine ⟨answers, store, events, ?_, leads.recorded, ?_⟩
  · rw [serve, started]
    exact ran
  · intro uncompacted
    exact leads.exact uncompacted exact

end Reservations.Store
