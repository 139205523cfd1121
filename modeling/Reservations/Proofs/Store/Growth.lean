import Reservations.Proofs.Log.Queue
import Reservations.Proofs.Store.Outcome
import Reservations.Proofs.Store.Oversized

namespace Reservations.Store

/-! ## How long the log gets

Compacting at a threshold of appends keeps the log short while it stays open. Opening it
again forgets the appends that were counted, but not their frames, so that each opening
leaves room for almost as many frames once more. -/

/-- What has become of the log since it was last compacted, or else since the beginning. -/
structure Tally where
  /-- How many reservations there were then. -/
  live : Nat := 0
  /-- How many changes were acknowledged since then. -/
  changes : Nat := 0
  /-- How often the store was opened again since then. -/
  openings : Nat := 0
  deriving DecidableEq, Repr

/-- Whether an answer says that a reservation was added or removed. -/
def Answer.changes : Answer → Bool
  | inserted (.ok _) => true
  | erased (.ok removed) => removed
  | _ => false

def Answer.reopens : Answer → Bool
  | reopened => true
  | _ => false

/-- The tally after an operation on a store was answered. -/
def Tally.after (tally : Tally) (store : Store) (answer : Answer) : Tally :=
  if answer.compacts then ⟨store.ledger.count, 0, 0⟩
  else
    ⟨tally.live, tally.changes + answer.changes.toNat, tally.openings + answer.reopens.toNat⟩

def watch (store : Store) (tally : Tally) :
    List Operation → Except StorageFault (Tally × Store)
  | [] => .ok (tally, store)
  | operation :: operations =>
      match store.perform operation with
      | .error fault => .error fault
      | .ok (answer, next) => next.watch (tally.after store answer) operations

/-- Opens a store, runs operations on it and keeps the tally. -/
def watchFrom (directory : Log.Directory) (operations : List Operation) :
    Except StorageFault (Tally × Store) :=
  match start directory with
  | .error fault => .error fault
  | .ok store => store.watch {} operations

/-- After each operation it is asked whether the log is to be compacted. -/
def regularly (threshold : Nat) (operations : List Operation) : List Operation :=
  operations.flatMap fun operation => [operation, .compactIfNeeded threshold]

/-- The operation adds, removes or opens the store again. -/
def Operation.Ordinary (Kind : Event → Prop) : Operation → Prop
  | insert reservation => Kind (.created reservation)
  | erase _ => True
  | reopen => True
  | _ => False

theorem watch_append (store : Store) (tally : Tally) (front back : List Operation) :
    store.watch tally (front ++ back) =
      match store.watch tally front with
      | .error fault => .error fault
      | .ok (tally, store) => store.watch tally back := by
  induction front generalizing store tally with
  | nil => rfl
  | cons operation front inductionHypothesis =>
      rw [List.cons_append, watch, watch]
      cases store.perform operation with
      | error fault => rfl
      | ok result => exact inductionHypothesis result.2 (tally.after store result.1)

/-- The count of appends begins when the log is opened. -/
theorem journal_of_start {directory : Log.Directory} {store : Store}
    (started : start directory = .ok store) :
    store.journal.appends = 0 ∧ store.journal.spare = directory.spare := by
  obtain ⟨log, spare⟩ := directory
  cases log with
  | absent =>
      cases started
      exact ⟨rfl, rfl⟩
  | file file =>
      cases started
      exact ⟨rfl, rfl⟩
  | directory => cases started

/-! ### Frames and the tally -/

/-- The log holds a frame for each reservation that the last compaction left and for each
change since then, but for what is too long to be read again. At most so many changes as
given come before each opening. -/
structure Counts (Kind : Event → Prop) (most : Nat) (tally : Tally) (store : Store)
    (events : List Event) : Prop where
  durable : store.Durable Kind events
  roomy : store.journal.tail.file.full = false
  clear : store.journal.spare ≠ .directory
  frames : events.length ≤ tally.live + tally.changes
  exact : (∀ event, Kind event → Log.Readable event) →
    events.length = tally.live + tally.changes
  changes : tally.changes ≤ tally.openings * most + store.journal.appends

namespace Counts

variable {Kind : Event → Prop} {most : Nat} {tally : Tally} {store next : Store}
  {events : List Event} {answer : Answer}

theorem healthy (counts : Counts Kind most tally store events) : store.journal.Healthy :=
  ⟨counts.roomy, counts.durable.loose⟩

theorem of_idle
    (counts : Counts Kind most tally store events) (durable : next.Durable Kind events)
    (journal : next.journal = store.journal) : Counts Kind most tally next events := by
  obtain ⟨ledger, _⟩ := next
  subst journal
  exact ⟨durable, counts.roomy, counts.clear, counts.frames, counts.exact, counts.changes⟩

/-- One more frame, one more change and one more append. -/
theorem of_change
    (counts : Counts Kind most tally store events) {ledger : Ledger} {event : Event}
    (durable : Durable Kind ⟨ledger, store.journal.committed [event]⟩ (events ++ [event])) :
    Counts Kind most ⟨tally.live, tally.changes + 1, tally.openings⟩
      ⟨ledger, store.journal.committed [event]⟩ (events ++ [event]) where
  durable := durable
  roomy := counts.roomy
  clear := counts.clear
  frames := by
    rw [List.length_append]
    exact Nat.succ_le_succ counts.frames
  exact readable := by
    rw [List.length_append, counts.exact readable]
    exact Nat.add_assoc _ _ _
  changes := Nat.succ_le_succ counts.changes

theorem insert_of_accepted
    (counts : Counts Kind most tally store events) {reservation : Reservation}
    (kind : Kind (.created reservation)) (accepted : store.ledger.refusal? reservation = none) :
    ∃ ledger, store.insert reservation =
        (.ok reservation, ⟨ledger, store.journal.committed [.created reservation]⟩) ∧
      ledger.Same (store.ledger.apply (.created reservation)) ∧
      Counts Kind most ⟨tally.live, tally.changes + 1, tally.openings⟩
        ⟨ledger, store.journal.committed [.created reservation]⟩
        (events ++ [.created reservation]) := by
  have committed := Log.Journal.commit_eq counts.healthy [.created reservation]
  obtain ⟨ledger, _, inserted⟩ := insert_of_commit accepted committed
  obtain ⟨durable, _, same⟩ := counts.durable.of_insert kind inserted
  exact ⟨_, inserted, same, counts.of_change durable⟩

theorem erase_of_home (loggable : Loggable Kind)
    (counts : Counts Kind most tally store events) {id resource : Ulid}
    (home : store.ledger.homeOf? id = some resource) :
    store.erase id =
        (.ok true, ⟨store.ledger.apply (.deleted id resource),
          store.journal.committed [.deleted id resource]⟩) ∧
      Counts Kind most ⟨tally.live, tally.changes + 1, tally.openings⟩
        ⟨store.ledger.apply (.deleted id resource), store.journal.committed [.deleted id resource]⟩
        (events ++ [.deleted id resource]) := by
  have committed := Log.Journal.commit_eq counts.healthy [.deleted id resource]
  refine ⟨erase_of_commit counts.durable.history.sound home committed, counts.of_change ?_⟩
  rcases counts.durable.commit (loggable.deleted id resource)
      (counts.durable.history.deleted home) with
    ⟨journal, again, durable⟩ | ⟨journal, refused, _⟩
  · rw [committed] at again
    cases again
    exact durable
  · rw [committed] at refused
    cases refused

/-- Opening the store again starts the count of appends anew. -/
theorem reopen (loggable : Loggable Kind) (counts : Counts Kind most tally store events)
    (few : store.journal.appends ≤ most) :
    ∃ next, store.reopen = .ok next ∧ next.journal.appends = 0 ∧
      next.ledger = Ledger.empty.applyAll (Log.readableFront events) ∧
      Counts Kind most ⟨tally.live, tally.changes, tally.openings + 1⟩ next
        (Log.readableFront events) := by
  obtain ⟨next, reopened, applied, durable⟩ := counts.durable.reopen loggable
  obtain ⟨_, again, _, recorded⟩ := (counts.durable.recorded counts.roomy).reopen loggable
  rw [reopened] at again
  cases again
  obtain ⟨uncounted, spare⟩ := journal_of_start reopened
  refine ⟨next, reopened, uncounted, applied, durable, recorded.roomy, ?_, ?_, ?_, ?_⟩
  · rw [spare]
    exact counts.clear
  · exact (Log.readableFront_prefix events).length_le.trans counts.frames
  · intro readable
    rw [Log.readableFront_eq_self fun event member =>
      readable event (counts.durable.kind event member)]
    exact counts.exact readable
  · calc tally.changes
      _ ≤ tally.openings * most + store.journal.appends := counts.changes
      _ ≤ tally.openings * most + most := Nat.add_le_add_left few _
      _ = (tally.openings + 1) * most + next.journal.appends := by
          rw [uncounted, Nat.succ_mul, Nat.add_zero]

/-- A compaction leaves a frame for each reservation there is. -/
theorem compact (counts : Counts Kind most tally store events) :
    ∃ next, store.compact = (.ok (), next) ∧ next.journal.appends = 0 ∧
      Counts Kind most ⟨store.ledger.count, 0, 0⟩ next
        ((store.ledger.list none).map Event.created) := by
  let creations := (store.ledger.list none).map Event.created
  obtain ⟨file, compacted, roomy, _⟩ :=
    Log.Journal.compact_of_ne_directory counts.clear creations
  have succeeded : store.compact = (.ok (), ⟨store.ledger, ⟨⟨file, .empty⟩, 0, .absent⟩⟩) := by
    simp only [Store.compact, creations, compacted]
  have length : creations.length = store.ledger.count := by
    rw [List.length_map, counts.durable.history.sound.count_eq_length]
  rcases counts.durable.compact with ⟨_, failed⟩ | ⟨next, again, _, rebuilt⟩
  · rw [succeeded] at failed
    cases failed
  · rw [succeeded] at again
    cases again
    exact ⟨_, succeeded, rfl, rebuilt, roomy, Log.Node.noConfusion, Nat.le_of_eq length,
      fun _ => length, Nat.zero_le _⟩

/-! ### One operation, and asking for a compaction -/

theorem perform
    (loggable : Loggable Kind) (counts : Counts Kind most tally store events)
    (few : store.journal.appends ≤ most) {operation : Operation}
    (ordinary : operation.Ordinary Kind) :
    ∃ answer next later, store.perform operation = .ok (answer, next) ∧
      next.journal.appends ≤ most + 1 ∧
      Counts Kind most (tally.after store answer) next later := by
  cases operation with
  | insert reservation =>
      cases decision : store.ledger.refusal? reservation with
      | some refusal =>
          obtain ⟨ledger, same, refused⟩ := insert_of_refused decision
          have kept := counts.of_idle (counts.durable.of_same same) rfl
          exact ⟨.inserted (.error refusal), ⟨ledger, store.journal⟩, events,
            by rw [Store.perform, refused], Nat.le_succ_of_le few, kept⟩
      | none =>
          obtain ⟨_, added, _, grown⟩ := counts.insert_of_accepted ordinary decision
          exact ⟨.inserted (.ok reservation), _, _, by rw [Store.perform, added],
            Nat.succ_le_succ few, grown⟩
  | erase id =>
      cases home : store.ledger.homeOf? id with
      | none =>
          exact ⟨.erased (.ok false), store, events, by rw [Store.perform, erase_of_absent home],
            Nat.le_succ_of_le few, counts⟩
      | some resource =>
          obtain ⟨removed, grown⟩ := counts.erase_of_home loggable home
          exact ⟨.erased (.ok true), _, _, by rw [Store.perform, removed],
            Nat.succ_le_succ few, grown⟩
  | reopen =>
      obtain ⟨next, reopened, uncounted, _, kept⟩ := counts.reopen loggable few
      refine ⟨.reopened, next, _, by rw [Store.perform, reopened], ?_, kept⟩
      rw [uncounted]
      exact Nat.zero_le _
  | _ => exact ordinary.elim

theorem perform_compactIfNeeded (counts : Counts Kind most tally store events) :
    ∃ answer next later, store.perform (.compactIfNeeded (most + 1)) = .ok (answer, next) ∧
      next.journal.appends ≤ most ∧
      Counts Kind most (tally.after store answer) next later := by
  by_cases below : store.journal.appends < most + 1
  · refine ⟨.compactedIfNeeded false, store, events, ?_, Nat.le_of_lt_succ below, counts⟩
    simp only [Store.perform, compactIfNeeded, below, if_true]
  · obtain ⟨next, compacted, uncounted, kept⟩ := counts.compact
    refine ⟨.compactedIfNeeded true, next, _, ?_, ?_, kept⟩
    · simp only [Store.perform, compactIfNeeded, below, if_false, compacted]
    · rw [uncounted]
      exact Nat.zero_le _

theorem watch_regularly
    (loggable : Loggable Kind) (counts : Counts Kind most tally store events)
    (few : store.journal.appends ≤ most) {operations moment : List Operation}
    (ordinary : ∀ operation ∈ operations, operation.Ordinary Kind)
    (within : moment <+: regularly (most + 1) operations) :
    ∃ final next later, store.watch tally moment = .ok (final, next) ∧
      next.journal.appends ≤ most + 1 ∧ Counts Kind most final next later := by
  -- On the operations. The run may be broken off before or behind each of them.
  induction operations generalizing store tally events moment with
  | nil =>
      obtain rfl := List.prefix_nil.mp within
      exact ⟨tally, store, events, rfl, Nat.le_succ_of_le few, counts⟩
  | cons operation operations inductionHypothesis =>
      rw [List.forall_mem_cons] at ordinary
      obtain ⟨answer, middle, between, performed, fewer, kept⟩ :=
        counts.perform loggable few ordinary.1
      have unfolded : regularly (most + 1) (operation :: operations) =
          operation :: .compactIfNeeded (most + 1) :: regularly (most + 1) operations := rfl
      rw [unfolded, List.prefix_cons_iff] at within
      rcases within with rfl | ⟨rest, rfl, within⟩
      · exact ⟨tally, store, events, rfl, Nat.le_succ_of_le few, counts⟩
      · rw [watch, performed]
        rw [List.prefix_cons_iff] at within
        rcases within with rfl | ⟨rest, rfl, within⟩
        · exact ⟨_, middle, between, rfl, fewer, kept⟩
        · obtain ⟨_, next, later, asked, few, still⟩ := kept.perform_compactIfNeeded
          simp only [watch, asked]
          exact inductionHypothesis still few ordinary.2 within

end Counts

/-! ### From the start -/

theorem watchFrom_append (directory : Log.Directory) (front back : List Operation) :
    watchFrom directory (front ++ back) =
      match watchFrom directory front with
      | .error fault => .error fault
      | .ok (tally, store) => store.watch tally back := by
  rw [watchFrom, watchFrom]
  cases start directory with
  | error fault => rfl
  | ok store => exact watch_append store {} front back

theorem counts_of_blank
    (Kind : Event → Prop) (most : Nat) {directory : Log.Directory} (blank : Blank directory)
    (clear : directory.spare ≠ .directory) :
    ∃ store, start directory = .ok store ∧ store.journal.appends = 0 ∧
      store.ledger.Alike Ledger.empty ∧ Counts Kind most {} store [] := by
  obtain ⟨store, started, durable⟩ := start_of_fresh Kind blank.fresh
  obtain ⟨_, again, recorded, exact⟩ := start_of_blank Kind blank
  rw [started] at again
  cases again
  obtain ⟨uncounted, spare⟩ := journal_of_start started
  refine ⟨store, started, uncounted, exact.symm.alike, durable, recorded.roomy, ?_, Nat.le_refl 0,
    fun _ => rfl, Nat.zero_le _⟩
  rw [spare]
  exact clear

theorem watchFrom_regularly
    {Kind : Event → Prop} (loggable : Loggable Kind) {directory : Log.Directory}
    (blank : Blank directory) (clear : directory.spare ≠ .directory) {most : Nat}
    {operations moment : List Operation}
    (ordinary : ∀ operation ∈ operations, operation.Ordinary Kind)
    (within : moment <+: regularly (most + 1) operations) :
    ∃ tally store events, watchFrom directory moment = .ok (tally, store) ∧
      Counts Kind most tally store events ∧
      tally.changes ≤ tally.openings * most + (most + 1) := by
  obtain ⟨first, started, uncounted, _, counts⟩ := counts_of_blank Kind most blank clear
  have few : first.journal.appends ≤ most := by
    rw [uncounted]
    exact Nat.zero_le most
  obtain ⟨tally, store, events, watched, atMost, kept⟩ :=
    counts.watch_regularly loggable few ordinary within
  refine ⟨tally, store, events, ?_, kept, kept.changes.trans (Nat.add_le_add_left atMost _)⟩
  rw [watchFrom, started]
  exact watched

/-! ### A log that is opened again and again

Each time just before it would have been compacted. -/

/-- Adds a reservation, or removes it if it is there. -/
def turn (r : Reservation) (present : Bool) : Operation :=
  if present then .erase r.id else .insert r

def turnEvent (r : Reservation) (present : Bool) : Event :=
  if present then .deleted r.id r.resource else .created r

/-- There was no compaction yet, there were as many changes as can be before each opening,
and some more since the last. All of them are about one reservation. -/
structure Worn (r : Reservation) (most openings appends : Nat) (present : Bool) (store : Store)
    (events : List Event) : Prop where
  counts :
    Counts Log.Readable most ⟨0, openings * most + appends, openings⟩ store events
  appends : store.journal.appends = appends
  holds : store.ledger.Alike (if present then Ledger.empty.apply (.created r) else Ledger.empty)

namespace Worn

variable {r : Reservation} {most openings appends : Nat} {present : Bool} {store : Store}
  {events : List Event}

theorem turn
    (admits : Ledger.empty.Admits r) (readable : Log.Readable (.created r))
    (worn : Worn r most openings appends present store events) :
    ∃ next, store.watch ⟨0, openings * most + appends, openings⟩ [Store.turn r present] =
        .ok (⟨0, openings * most + (appends + 1), openings⟩, next) ∧
      Worn r most openings (appends + 1) (!present) next (events ++ [turnEvent r present]) := by
  have sound := worn.counts.durable.history.sound
  have holds := worn.holds
  cases present with
  | false =>
      have accepted := (Ledger.refusal?_eq_none_iff (sound.sorted _)).mpr
        (Ledger.Alike.admits holds.symm admits)
      obtain ⟨ledger, inserted, same, grown⟩ := worn.counts.insert_of_accepted readable accepted
      refine ⟨⟨ledger, store.journal.committed [.created r]⟩, ?_, grown,
        congrArg Nat.succ worn.appends, same.alike.trans (holds.apply_created r)⟩
      simp only [watch, Store.turn, Store.perform, inserted, Bool.false_eq_true, if_false]
      rfl
  | true =>
      have emptySound := Ledger.sound_empty
      have home : store.ledger.homeOf? r.id = some r.resource := by
        rw [holds.homes, if_pos rfl, Ledger.homeOf?_apply_created, if_pos rfl]
      obtain ⟨erased, grown⟩ := worn.counts.erase_of_home loggable_readable home
      refine ⟨_, ?_, grown, congrArg Nat.succ worn.appends, ?_⟩
      · simp only [watch, Store.turn, Store.perform, erased, if_true]
        rfl
      · exact (holds.apply_deleted sound (emptySound.apply_created admits) r.id r.resource).trans
          (emptySound.same_apply_deleted_created admits).alike

theorem spared
    (worn : Worn r most openings appends present store events) (few : appends ≤ most)
    (tally : Tally) :
    store.watch tally [.compactIfNeeded (most + 1)] = .ok (tally, store) := by
  have below : store.journal.appends < most + 1 := by
    rw [worn.appends]
    exact Nat.lt_succ_of_le few
  simp only [watch, perform, compactIfNeeded, below, if_true]
  rfl

theorem reopen (worn : Worn r most openings most present store events) :
    ∃ next, store.watch ⟨0, openings * most + most, openings⟩ [.reopen] =
        .ok (⟨0, (openings + 1) * most + 0, openings + 1⟩, next) ∧
      Worn r most (openings + 1) 0 present next events := by
  obtain ⟨next, reopened, uncounted, applied, kept⟩ :=
    worn.counts.reopen loggable_readable (Nat.le_of_eq worn.appends)
  rw [Log.readableFront_eq_self worn.counts.durable.kind] at applied kept
  have same : (openings + 1) * most + 0 = openings * most + most := Nat.succ_mul openings most
  rw [same]
  refine ⟨next, ?_, ?_, uncounted, ?_⟩
  · simp only [watch, perform, reopened]
    rfl
  · rw [same]
    exact kept
  · rw [applied]
    exact worn.counts.durable.history.alike.trans worn.holds

end Worn

theorem regularly_concat (threshold : Nat) (operations : List Operation) (last : Operation) :
    regularly threshold (operations ++ [last]) =
      (regularly threshold operations ++ [last]) ++ [.compactIfNeeded threshold] := by
  simp [regularly]

theorem ordinary_concat {Kind : Event → Prop} {operations : List Operation} {last : Operation}
    (ordinary : ∀ operation ∈ operations, operation.Ordinary Kind) (also : last.Ordinary Kind) :
    ∀ operation ∈ operations ++ [last], operation.Ordinary Kind := by
  rw [List.forall_mem_append, List.forall_mem_singleton]
  exact ⟨ordinary, also⟩

theorem ordinary_turn {r : Reservation} (readable : Log.Readable (.created r)) (present : Bool) :
    (turn r present).Ordinary Log.Readable := by
  cases present with
  | false => exact readable
  | true => exact trivial

/-- Some operations lead to such a log. -/
def Wears (directory : Log.Directory) (r : Reservation) (most openings appends : Nat) : Prop :=
  ∃ operations present store events,
    (∀ operation ∈ operations, operation.Ordinary Log.Readable) ∧
    watchFrom directory (regularly (most + 1) operations) =
      .ok (⟨0, openings * most + appends, openings⟩, store) ∧
    Worn r most openings appends present store events

namespace Wears

variable {directory : Log.Directory} {r : Reservation} {most openings appends : Nat}

theorem start
    (blank : Blank directory) (clear : directory.spare ≠ .directory) (r : Reservation)
    (most : Nat) : Wears directory r most 0 0 := by
  obtain ⟨store, started, uncounted, alike, counts⟩ :=
    counts_of_blank Log.Readable most blank clear
  rw [Wears, Nat.zero_mul]
  refine ⟨[], false, store, [], List.forall_mem_nil _, ?_, ?_, uncounted, alike⟩
  · rw [watchFrom, started]
    rfl
  · rw [Nat.zero_mul]
    exact counts

theorem turn
    (admits : Ledger.empty.Admits r) (readable : Log.Readable (.created r))
    (wears : Wears directory r most openings appends) (few : appends < most) :
    Wears directory r most openings (appends + 1) := by
  obtain ⟨operations, present, store, events, ordinary, watched, worn⟩ := wears
  obtain ⟨next, changed, grown⟩ := worn.turn admits readable
  refine ⟨_, _, next, _, ordinary_concat ordinary (ordinary_turn readable present), ?_, grown⟩
  simp only [regularly_concat, watchFrom_append, watched, changed]
  exact grown.spared few _

theorem reopen (wears : Wears directory r most openings most) :
    Wears directory r most (openings + 1) 0 := by
  obtain ⟨operations, present, store, events, ordinary, watched, worn⟩ := wears
  obtain ⟨next, reopened, kept⟩ := worn.reopen
  have also : Operation.reopen.Ordinary Log.Readable := trivial
  refine ⟨_, present, next, _, ordinary_concat ordinary also, ?_, kept⟩
  simp only [regularly_concat, watchFrom_append, watched, reopened]
  exact kept.spared (Nat.zero_le most) _

theorem fill
    (admits : Ledger.empty.Admits r) (readable : Log.Readable (.created r))
    (wears : Wears directory r most openings 0) (few : appends ≤ most) :
    Wears directory r most openings appends := by
  induction appends with
  | zero => exact wears
  | succ appends inductionHypothesis =>
      exact (inductionHypothesis (Nat.le_of_succ_le few)).turn admits readable few

theorem of_blank
    (admits : Ledger.empty.Admits r) (readable : Log.Readable (.created r))
    (blank : Blank directory) (clear : directory.spare ≠ .directory) (most openings : Nat) :
    Wears directory r most openings most := by
  induction openings with
  | zero => exact (start blank clear r most).fill admits readable (Nat.le_refl most)
  | succ openings inductionHypothesis =>
      exact inductionHypothesis.reopen.fill admits readable (Nat.le_refl most)

end Wears

theorem admits_usual : Ledger.empty.Admits usual where
  valid := by decide
  fresh := Ledger.homeOf?_empty _
  room := by
    rw [Ledger.book_empty]
    decide
  free r member := by simp [Book.empty, Book.toList] at member

/-- Whenever a run is broken off that asks after each operation whether the log is to be
compacted, the log holds a frame for each reservation that the last compaction left and for
each change since then that can be read. There were at most as many changes as the
threshold, and at most one less than that for each opening since then. However often the
store is opened, there can be as many. -/
theorem frames_of_regularly
    {directory : Log.Directory} (blank : Blank directory) (clear : directory.spare ≠ .directory)
    {threshold : Nat} (positive : 0 < threshold) :
    (∀ operations moment : List Operation,
      (∀ operation ∈ operations, operation.Ordinary Event.Addressable) →
      moment <+: regularly threshold operations →
      ∃ tally store events, watchFrom directory moment = .ok (tally, store) ∧
        store.journal.tail.file.bytes.data.toList = Log.frames events ∧
        events.length ≤ tally.live + tally.changes ∧
        ((∀ operation ∈ operations, operation.Ordinary Log.Readable) →
          events.length = tally.live + tally.changes) ∧
        tally.changes ≤ tally.openings * (threshold - 1) + threshold) ∧
    ∀ openings, ∃ operations moment tally store events,
      (∀ operation ∈ operations, operation.Ordinary Log.Readable) ∧
      moment <+: regularly threshold operations ∧
      watchFrom directory moment = .ok (tally, store) ∧
      store.journal.tail.file.bytes.data.toList = Log.frames events ∧
      tally.live = 0 ∧ tally.openings = openings ∧
      events.length = openings * (threshold - 1) + threshold := by
  obtain ⟨most, rfl⟩ := Nat.exists_eq_succ_of_ne_zero (Nat.ne_of_gt positive)
  constructor
  · intro operations moment ordinary within
    by_cases readable : ∀ operation ∈ operations, operation.Ordinary Log.Readable
    · obtain ⟨tally, store, events, watched, counts, few⟩ :=
        watchFrom_regularly loggable_readable blank clear readable within
      exact ⟨tally, store, events, watched, counts.durable.stored, counts.frames,
        fun _ => counts.exact fun _ readable => readable, few⟩
    · obtain ⟨tally, store, events, watched, counts, few⟩ :=
        watchFrom_regularly loggable_addressable blank clear ordinary within
      exact ⟨tally, store, events, watched, counts.durable.stored, counts.frames,
        fun all => absurd all readable, few⟩
  · intro openings
    obtain ⟨operations, present, store, events, ordinary, watched, worn⟩ :=
      Wears.of_blank admits_usual readable_usual blank clear most openings
    obtain ⟨next, changed, grown⟩ := worn.turn admits_usual readable_usual
    have whole : regularly (most + 1) operations ++ [turn usual present] <+:
        regularly (most + 1) (operations ++ [turn usual present]) := by
      rw [regularly_concat]
      exact List.prefix_append _ _
    refine ⟨_, _, ⟨0, openings * most + (most + 1), openings⟩, next, _,
      ordinary_concat ordinary (ordinary_turn readable_usual present), whole, ?_,
      grown.counts.durable.stored, rfl, rfl, ?_⟩
    · rw [watchFrom_append, watched]
      exact changed
    · rw [grown.counts.exact fun _ readable => readable]
      exact Nat.zero_add _

/-- Three changes, and an opening between each two. -/
def reopening : List Operation :=
  [.insert usual, .reopen, .erase usual.id, .reopen, .insert usual]

theorem ordinary_reopening : ∀ operation ∈ reopening, operation.Ordinary Log.Readable := by
  simp [reopening, Operation.Ordinary, readable_usual]

theorem frames_of_regularly_reopening :
    (∃ tally store events, watchFrom {} (regularly 2 reopening) = .ok (tally, store) ∧
      store.journal.tail.file.bytes.data.toList = Log.frames events ∧
      events.length = tally.live + tally.changes ∧
      tally.changes ≤ tally.openings * (2 - 1) + 2) ∧
    ∃ operations moment tally store events,
      (∀ operation ∈ operations, operation.Ordinary Log.Readable) ∧
      moment <+: regularly 2 operations ∧
      watchFrom {} moment = .ok (tally, store) ∧
      store.journal.tail.file.bytes.data.toList = Log.frames events ∧
      tally.live = 0 ∧ tally.openings = 2 ∧ events.length = 2 * (2 - 1) + 2 := by
  obtain ⟨bounded, attained⟩ :=
    frames_of_regularly (Or.inl rfl : Blank {}) Log.Node.noConfusion (by decide : 0 < 2)
  have addressable : ∀ operation ∈ reopening, operation.Ordinary Event.Addressable := by
    simp [reopening, Operation.Ordinary, readable_usual.addressable]
  obtain ⟨tally, store, events, watched, stored, _, exact, few⟩ :=
    bounded reopening _ addressable (List.prefix_refl _)
  exact ⟨⟨tally, store, events, watched, stored, exact ordinary_reopening, few⟩, attained 2⟩

/-- Nothing was there at first, the log was never compacted, and it holds more frames than
the threshold of two. -/
theorem frames_beyond_threshold :
    ∃ store, watchFrom {} (regularly 2 reopening) = .ok (⟨0, 3, 2⟩, store) ∧
      store.journal.tail.file.bytes.data.toList =
        Log.frames [.created usual, .deleted usual.id usual.resource, .created usual] ∧
      ¬ [Event.created usual, .deleted usual.id usual.resource, .created usual].length ≤ 0 + 2 := by
  obtain ⟨first, started, uncounted, alike, counts⟩ :=
    counts_of_blank Log.Readable 1 (Or.inl rfl : Blank {}) Log.Node.noConfusion
  have fresh : Worn usual 1 0 0 false first [] := ⟨counts, uncounted, alike⟩
  obtain ⟨second, inserted, holding⟩ := fresh.turn admits_usual readable_usual
  obtain ⟨third, reopened, still⟩ := holding.reopen
  obtain ⟨fourth, erased, without⟩ := still.turn admits_usual readable_usual
  obtain ⟨fifth, again, gone⟩ := without.reopen
  obtain ⟨last, back, full⟩ := gone.turn admits_usual readable_usual
  refine ⟨last, ?_, full.counts.durable.stored, by decide⟩
  let check := [Operation.compactIfNeeded (1 + 1)]
  have steps : regularly 2 reopening =
      [turn usual false] ++ (check ++ ([.reopen] ++ (check ++ ([turn usual !false] ++ (check ++
        ([.reopen] ++ (check ++ ([turn usual !!false] ++ check)))))))) := rfl
  have nothing : ({} : Tally) = ⟨0, 0 * 1 + 0, 0⟩ := rfl
  rw [watchFrom, started, steps, nothing]
  simp only [watch_append, check, inserted, holding.spared (Nat.le_refl 1), reopened,
    still.spared (Nat.zero_le 1), erased, without.spared (Nat.le_refl 1), again,
    gone.spared (Nat.zero_le 1), back, full.spared (Nat.le_refl 1)]

end Reservations.Store
