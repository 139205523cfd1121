import Reservations.Proofs.Store.Run

namespace Reservations.Store

/-! ## Failing flushes

A change whose flush fails is refused, but its frame stays in the buffer of the
open log and goes to the file with the next flush that succeeds, or on closing.
So what opening the store again gives is what was tried, not what was
acknowledged. -/

/-- The store while flushing its log fails or succeeds. -/
def stick (store : Store) (stuck : Bool) : Store :=
  { store with journal := { store.journal with tail := { store.journal.tail with
      file := { store.journal.tail.file with stuck } } } }

/-- A change together with whether its flush fails, or a restart. -/
inductive Exchange where
  | insert (stuck : Bool) (reservation : Reservation)
  | erase (stuck : Bool) (id : Ulid)
  | reopen

/-- What comes of an exchange. A change that is tried is written to the log as
an event, and acknowledged or refused for the sake of storage. -/
inductive Outcome where
  | untried
  | tried (event : Event) (acknowledged : Bool)
  | reopened
  deriving DecidableEq

def exchange (store : Store) : Exchange → Except StorageFault (Outcome × Store)
  | .insert stuck reservation =>
      match (store.stick stuck).insert reservation with
      | (.ok _, next) => .ok (.tried (.created reservation) true, next)
      | (.error (.storage _), next) => .ok (.tried (.created reservation) false, next)
      | (.error _, next) => .ok (.untried, next)
  | .erase stuck id =>
      let resource := (store.ledger.homeOf? id).getD id
      match (store.stick stuck).erase id with
      | (.ok true, next) => .ok (.tried (.deleted id resource) true, next)
      | (.error (.storage _), next) => .ok (.tried (.deleted id resource) false, next)
      | (_, next) => .ok (.untried, next)
  | .reopen =>
      match store.reopen with
      | .ok next => .ok (.reopened, next)
      | .error fault => .error fault

def converse (store : Store) : List Exchange → Except StorageFault (List Outcome × Store)
  | [] => .ok ([], store)
  | first :: rest =>
      match store.exchange first with
      | .error fault => .error fault
      | .ok (outcome, next) =>
          match next.converse rest with
          | .error fault => .error fault
          | .ok (outcomes, last) => .ok (outcome :: outcomes, last)

def Outcome.acknowledged : Outcome → List Event
  | untried => []
  | tried event true => [event]
  | tried _ false => []
  | reopened => []

/-- The events of all changes that were acknowledged. -/
def acknowledged (outcomes : List Outcome) : List Event :=
  outcomes.flatMap Outcome.acknowledged

/-- The running store and the store that is opened again hold what these events
lead to, and nothing else. -/
def Reflects (store : Store) (events : List Event) : Prop :=
  store.ledger.Same (Ledger.empty.applyAll events) ∧
    ∃ reopened, store.reopen = .ok reopened ∧
      reopened.ledger.Same (Ledger.empty.applyAll events)

/-- Every change was acknowledged exactly if its event can be read back, along
with all that were written since the log was opened. With payloads within the
limit this says that no change was refused. -/
def Faithful : Bool → List Outcome → Prop
  | _, [] => True
  | intact, .untried :: rest => Faithful intact rest
  | intact, .tried event acknowledged :: rest =>
      acknowledged = (intact && decide (Log.Readable event)) ∧
        Faithful (intact && decide (Log.Readable event)) rest
  | _, .reopened :: rest => Faithful true rest

theorem faithful_of_readable
    {outcomes : List Outcome}
    (readable : ∀ event acked, .tried event acked ∈ outcomes → Log.Readable event) :
    Faithful true outcomes ↔ ∀ event acked, .tried event acked ∈ outcomes → acked = true := by
  induction outcomes with
  | nil => simp [Faithful]
  | cons outcome outcomes inductionHypothesis =>
      have rest := inductionHypothesis fun event acked member =>
        readable event acked (List.mem_cons_of_mem _ member)
      cases outcome with
      | untried => simp [Faithful, rest]
      | reopened => simp [Faithful, rest]
      | tried first answer =>
          have fits := readable first answer List.mem_cons_self
          simp only [Faithful, fits, decide_true, Bool.and_self, rest, List.mem_cons,
            Outcome.tried.injEq]
          constructor
          · rintro ⟨answered, others⟩ event acked (⟨rfl, rfl⟩ | member)
            · exact answered
            · exact others event acked member
          · intro all
            exact ⟨all first answer (Or.inl ⟨rfl, rfl⟩),
              fun event acked member => all event acked (Or.inr member)⟩

def Exchange.Addressable : Exchange → Prop
  | insert _ reservation => reservation.customer.Addressable
  | _ => True

/-- Closing leaves a file behind, so a store can always be opened again. -/
theorem reopen_total (store : Store) : ∃ next, store.reopen = .ok next := by
  cases recovered : store.journal.close.recover with
  | error fault => cases recovered
  | ok result =>
      obtain ⟨events, directory⟩ := result
      have opened : ∃ journal, directory.openJournal = .ok journal := by
        cases recovered
        exact ⟨_, rfl⟩
      obtain ⟨journal, opened⟩ := opened
      refine ⟨⟨Ledger.empty.applyAll events, journal⟩, ?_⟩
      rw [reopen, start, recovered]
      simp only [Except.bind, bind, opened]
      rfl

theorem exchange_total (store : Store) (exchange : Exchange) :
    ∃ outcome next, store.exchange exchange = .ok (outcome, next) := by
  cases exchange with
  | insert stuck reservation =>
      rw [Store.exchange]
      split
      · exact ⟨_, _, rfl⟩
      · exact ⟨_, _, rfl⟩
      · exact ⟨_, _, rfl⟩
  | erase stuck id =>
      simp only [Store.exchange]
      split
      · exact ⟨_, _, rfl⟩
      · exact ⟨_, _, rfl⟩
      · exact ⟨_, _, rfl⟩
  | reopen =>
      obtain ⟨next, reopened⟩ := store.reopen_total
      exact ⟨.reopened, next, by rw [Store.exchange, reopened]⟩

theorem converse_total (store : Store) (exchanges : List Exchange) :
    ∃ outcomes last, store.converse exchanges = .ok (outcomes, last) := by
  induction exchanges generalizing store with
  | nil => exact ⟨[], store, rfl⟩
  | cons first rest inductionHypothesis =>
      obtain ⟨outcome, next, exchanged⟩ := store.exchange_total first
      obtain ⟨outcomes, last, ran⟩ := inductionHypothesis next
      exact ⟨outcome :: outcomes, last, by simp only [converse, exchanged, ran]⟩

/-! ### What holds between exchanges -/

/-- The log holds the events that the ledger reflects and, behind them, others
that can never be read, because the first of them cannot. -/
structure Kept (store : Store) (events lost : List Event) : Prop where
  roomy : store.journal.tail.file.full = false
  written : store.journal.tail.stream = Log.frames (events ++ lost)
  addressable : ∀ event ∈ events ++ lost, event.Addressable
  readable : ∀ event ∈ events, Log.Readable event
  barred : ∀ event rest, lost = event :: rest → ¬ Log.Readable event
  same : store.ledger.Same (Ledger.empty.applyAll events)
  sound : store.ledger.Sound

/-- A change that makes a difference was written behind what a store kept. -/
structure Tries (store : Store) (events lost : List Event) (event : Event)
    (acknowledged : Bool) (next : Store) : Prop where
  roomy : next.journal.tail.file.full = false
  written : next.journal.tail.stream = Log.frames (events ++ lost ++ [event])
  addressable : event.Addressable
  same : next.ledger.Same (if acknowledged then store.ledger.apply event else store.ledger)
  sound : (store.ledger.apply event).Sound
  different : ¬ (store.ledger.apply event).Same store.ledger

namespace Kept

variable {store : Store} {events lost : List Event}

theorem readableFront_eq (kept : store.Kept events lost) :
    Log.readableFront (events ++ lost) = events := by
  cases form : lost with
  | nil => rw [List.append_nil, Log.readableFront_eq_self kept.readable]
  | cons event rest =>
      exact Log.readableFront_append_unreadable kept.readable (kept.barred event rest form) rest

/-- Opening the store again loses what cannot be read and nothing else. -/
theorem reopen (kept : store.Kept events lost) :
    ∃ next, store.reopen = .ok next ∧ next.Kept events [] ∧
      next.ledger = Ledger.empty.applyAll events := by
  obtain ⟨journal, reopened, roomy, _, written⟩ :=
    reopen_of_stream kept.roomy kept.addressable kept.written
  rw [kept.readableFront_eq] at reopened written
  refine ⟨_, reopened, ⟨roomy, ?_, ?_, kept.readable, ?_, Ledger.Same.refl _, ?_⟩, rfl⟩
  · rw [written, List.append_nil]
  · intro event member
    rw [List.append_nil] at member
    exact kept.addressable event (List.mem_append_left _ member)
  · intro event rest impossible
    cases impossible
  · exact kept.same.symm.sound kept.sound

theorem reflects (kept : store.Kept events lost) : store.Reflects events := by
  obtain ⟨next, reopened, _, applied⟩ := kept.reopen
  refine ⟨kept.same, next, reopened, ?_⟩
  rw [applied]
  exact Ledger.Same.refl _

end Kept

namespace Tries

variable {store next : Store} {events lost : List Event} {event : Event} {acked : Bool}

/-- The event is read back exactly if nothing is lost before it and its payload
is within the limit. -/
theorem readableFront_eq (kept : store.Kept events lost) (event : Event) :
    Log.readableFront (events ++ lost ++ [event]) =
      if lost.isEmpty && decide (Log.Readable event) then events ++ [event] else events := by
  cases form : lost with
  | nil =>
      rw [List.append_nil]
      by_cases readable : Log.Readable event
      · have all : ∀ other ∈ events ++ [event], Log.Readable other := by
          intro other member
          rcases List.mem_append.mp member with earlier | last
          · exact kept.readable other earlier
          · rw [List.mem_singleton.mp last]
            exact readable
        simp [Log.readableFront_eq_self all, readable]
      · simp [Log.readableFront_append_unreadable kept.readable readable, readable]
  | cons first rest =>
      have unreadable := kept.barred first rest form
      rw [List.append_assoc, List.cons_append,
        Log.readableFront_append_unreadable kept.readable unreadable]
      rfl

theorem addressable_append
    (tries : store.Tries events lost event acked next) (kept : store.Kept events lost) :
    ∀ other ∈ events ++ lost ++ [event], other.Addressable := by
  intro other member
  rcases List.mem_append.mp member with earlier | last
  · exact kept.addressable other earlier
  · rw [List.mem_singleton.mp last]
    exact tries.addressable

/-- An acknowledged event that can be read back joins those that are
reflected. -/
theorem kept_of_readable
    (tries : store.Tries events [] event true next) (kept : store.Kept events [])
    (readable : Log.Readable event) :
    next.Kept (events ++ [event]) [] where
  roomy := tries.roomy
  written := by
    rw [tries.written]
    simp
  addressable other member := by
    rw [List.append_nil] at member
    refine tries.addressable_append kept other ?_
    rwa [List.append_nil]
  readable other member := by
    rcases List.mem_append.mp member with earlier | last
    · exact kept.readable other earlier
    · rw [List.mem_singleton.mp last]
      exact readable
  barred first rest impossible := by cases impossible
  same := by
    rw [Ledger.applyAll_concat]
    exact tries.same.trans (kept.same.apply event)
  sound := tries.same.sound tries.sound

/-- A refused event that cannot be read back joins those that are lost. -/
theorem kept_of_lost
    (tries : store.Tries events lost event false next) (kept : store.Kept events lost)
    (behind : lost = [] → ¬ Log.Readable event) :
    next.Kept events (lost ++ [event]) where
  roomy := tries.roomy
  written := by rw [tries.written, List.append_assoc]
  addressable other member := by
    rw [← List.append_assoc] at member
    exact tries.addressable_append kept other member
  readable := kept.readable
  barred first rest form := by
    cases lost with
    | nil =>
        obtain ⟨rfl, _⟩ := List.cons.inj form
        exact behind rfl
    | cons head tail =>
        obtain ⟨rfl, _⟩ := List.cons.inj form
        exact kept.barred head tail rfl
  same := tries.same.trans kept.same
  sound := tries.same.sound kept.sound

/-- A change is answered as the log will have it. -/
theorem kept_of_eq
    (tries : store.Tries events lost event acked next) (kept : store.Kept events lost)
    (answered : acked = (lost.isEmpty && decide (Log.Readable event))) :
    ∃ left, next.Kept (events ++ (Outcome.tried event acked).acknowledged) left ∧
      left.isEmpty = (lost.isEmpty && decide (Log.Readable event)) := by
  rw [← answered]
  cases acked with
  | true =>
      obtain ⟨empty, readable⟩ := Bool.and_eq_true_iff.mp answered.symm
      obtain rfl := List.isEmpty_iff.mp empty
      exact ⟨[], tries.kept_of_readable kept (of_decide_eq_true readable), rfl⟩
  | false =>
      refine ⟨lost ++ [event], ?_, ?_⟩
      · rw [Outcome.acknowledged, List.append_nil]
        refine tries.kept_of_lost kept ?_
        rintro rfl readable
        simp [readable] at answered
      · cases lost <;> rfl

/-- Opening the store again reflects the event if it can be read back, however
it was answered. -/
theorem reopen
    (tries : store.Tries events lost event acked next) (kept : store.Kept events lost) :
    ∃ reopened, next.reopen = .ok reopened ∧
      reopened.ledger = Ledger.empty.applyAll
        (if lost.isEmpty && decide (Log.Readable event) then events ++ [event] else events) := by
  obtain ⟨journal, reopened, _⟩ :=
    reopen_of_stream tries.roomy (tries.addressable_append kept) tries.written
  rw [readableFront_eq kept] at reopened
  exact ⟨_, reopened, rfl⟩

/-- A change that the log will have another way than it was answered shows as
soon as the store is opened again. -/
theorem not_reflects
    (tries : store.Tries events lost event acked next) (kept : store.Kept events lost)
    (other : acked ≠ (lost.isEmpty && decide (Log.Readable event))) :
    ¬ next.Reflects (events ++ (Outcome.tried event acked).acknowledged) := by
  rintro ⟨_, reopened, opened, reflected⟩
  obtain ⟨_, replayed, applied⟩ := tries.reopen kept
  rw [opened] at replayed
  obtain rfl := Except.ok.inj replayed
  rw [applied] at reflected
  have before := kept.same
  have after := kept.same.apply event
  rw [← Ledger.applyAll_concat] at after
  cases readBack : (lost.isEmpty && decide (Log.Readable event)) with
  | true =>
      rw [readBack] at other reflected
      obtain rfl : acked = false := by simpa using other
      rw [Outcome.acknowledged, List.append_nil] at reflected
      exact tries.different ((after.trans reflected).trans before.symm)
  | false =>
      rw [readBack] at other reflected
      obtain rfl : acked = true := by simpa using other
      exact tries.different ((after.trans reflected.symm).trans before.symm)

end Tries

/-! ### One exchange -/

namespace Kept

variable {store : Store} {events lost : List Event}

theorem stick (kept : store.Kept events lost) (stuck : Bool) :
    (store.stick stuck).Kept events lost :=
  ⟨kept.roomy, kept.written, kept.addressable, kept.readable, kept.barred, kept.same, kept.sound⟩

/-- A flush that fails may have got some of the buffer to the file, or all of it. What was
written stays the same, so that nothing that follows depends on how far it got. -/
theorem spilled (kept : store.Kept events lost) (count : Nat) :
    Kept ⟨store.ledger, { store.journal with tail := store.journal.tail.spilled count }⟩
      events lost :=
  ⟨kept.roomy, (Log.Tail.stream_spilled _ count).trans kept.written, kept.addressable,
    kept.readable, kept.barred, kept.same, kept.sound⟩

theorem of_same
    (kept : store.Kept events lost) {ledger : Ledger} (same : ledger.Same store.ledger) :
    Kept ⟨ledger, store.journal⟩ events lost :=
  ⟨kept.roomy, kept.written, kept.addressable, kept.readable, kept.barred,
    same.trans kept.same, same.sound kept.sound⟩

/-- Writing an event succeeds or fails as flushing does, and leaves its frame
behind either way. -/
theorem commit (kept : store.Kept events lost) (stuck : Bool) (event : Event) :
    ∃ journal : Log.Journal,
      (store.stick stuck).journal.commit [event] =
          (if stuck then .error .noSpace else .ok (), journal) ∧
        journal.tail.file.full = false ∧
        journal.tail.stream = Log.frames (events ++ lost ++ [event]) := by
  have grown :
      ∀ journal : Log.Journal, (store.stick stuck).journal.Gains journal [event] →
        journal.tail.file.full = false ∧
          journal.tail.stream = Log.frames (events ++ lost ++ [event]) := by
    intro journal gains
    refine ⟨gains.tail.roomy, ?_⟩
    rw [gains.tail.stream, (kept.stick stuck).written, ← Log.frames_append]
  cases stuck with
  | true =>
      obtain ⟨journal, failed, gains⟩ :=
        Log.Journal.commit_of_stuck (kept.stick true).roomy rfl [event]
      exact ⟨journal, failed, grown journal gains⟩
  | false =>
      obtain ⟨journal, committed, gains, _⟩ :=
        Log.Journal.commit_of_roomy (kept.stick false).roomy rfl [event]
      exact ⟨journal, committed, grown journal gains⟩

theorem exchange_insert_of_refused
    (kept : store.Kept events lost) (stuck : Bool)
    {reservation : Reservation} {refusal : Refusal}
    (refused : store.ledger.refusal? reservation = some refusal) :
    ∃ next, store.exchange (.insert stuck reservation) = .ok (.untried, next) ∧
      next.Kept events lost := by
  have decision : (store.stick stuck).ledger.refusal? reservation = some refusal := refused
  obtain ⟨ledger, same, answered⟩ := insert_of_refused decision
  refine ⟨_, ?_, (kept.stick stuck).of_same same⟩
  cases refusal with
  | storage fault => exact absurd refused (Ledger.refusal?_ne_storage reservation fault)
  | _ => simp only [exchange, answered]

/-- A reservation that is not refused is tried, and acknowledged if flushing
does not fail. -/
theorem exchange_insert_of_admits
    (kept : store.Kept events lost) (stuck : Bool) {reservation : Reservation}
    (addressable : reservation.customer.Addressable) (admits : store.ledger.Admits reservation) :
    ∃ next,
      store.exchange (.insert stuck reservation) =
          .ok (.tried (.created reservation) (!stuck), next) ∧
        store.Tries events lost (.created reservation) (!stuck) next := by
  have decision : (store.stick stuck).ledger.refusal? reservation = none :=
    (Ledger.refusal?_eq_none_iff (kept.sound.sorted _)).mpr admits
  have sound := kept.sound.apply_created admits
  obtain ⟨journal, committed, roomy, written⟩ := kept.commit stuck (.created reservation)
  cases stuck with
  | true =>
      obtain ⟨ledger, same, answered⟩ := insert_of_fault decision committed
      refine ⟨⟨ledger, journal⟩, ?_, roomy, written, addressable, same, sound, ?_⟩
      · simp only [exchange, answered]
        rfl
      · exact admits.not_same_apply
  | false =>
      obtain ⟨ledger, same, answered⟩ := insert_of_commit decision committed
      have applied := same.apply (.created reservation)
      refine ⟨⟨_, journal⟩, ?_, roomy, written, addressable, applied, sound, ?_⟩
      · simp only [exchange, answered]
        rfl
      · exact admits.not_same_apply

theorem exchange_erase_of_home
    (kept : store.Kept events lost) (stuck : Bool) {id resource : Ulid}
    (home : store.ledger.homeOf? id = some resource) :
    ∃ next,
      store.exchange (.erase stuck id) = .ok (.tried (.deleted id resource) (!stuck), next) ∧
        store.Tries events lost (.deleted id resource) (!stuck) next := by
  have sound := kept.sound.apply_deleted home
  obtain ⟨journal, committed, roomy, written⟩ := kept.commit stuck (.deleted id resource)
  cases stuck with
  | true =>
      have answered := erase_of_fault (kept.stick true).sound home committed
      refine ⟨⟨_, journal⟩, ?_, roomy, written, trivial, Ledger.Same.refl _, sound, ?_⟩
      · simp only [exchange, answered, home]
        rfl
      · exact Ledger.not_same_apply_deleted home
  | false =>
      have answered := erase_of_commit (kept.stick false).sound home committed
      refine ⟨⟨_, journal⟩, ?_, roomy, written, trivial, Ledger.Same.refl _, sound, ?_⟩
      · simp only [exchange, answered, home]
        rfl
      · exact Ledger.not_same_apply_deleted home

/-- An exchange writes nothing, opens the store again, or tries a change. -/
theorem exchange
    (kept : store.Kept events lost) {exchange : Exchange} (addressable : exchange.Addressable) :
    ∃ outcome next, store.exchange exchange = .ok (outcome, next) ∧
      (outcome = .untried ∧ next.Kept events lost ∨
        outcome = .reopened ∧ next.Kept events [] ∨
          ∃ event acked, outcome = .tried event acked ∧
            store.Tries events lost event acked next) := by
  cases exchange with
  | insert stuck reservation =>
      cases decision : store.ledger.refusal? reservation with
      | some refusal =>
          obtain ⟨next, exchanged, still⟩ := kept.exchange_insert_of_refused stuck decision
          exact ⟨.untried, next, exchanged, Or.inl ⟨rfl, still⟩⟩
      | none =>
          have admits := (Ledger.refusal?_eq_none_iff (kept.sound.sorted _)).mp decision
          obtain ⟨next, exchanged, tries⟩ :=
            kept.exchange_insert_of_admits stuck addressable admits
          exact ⟨_, next, exchanged, Or.inr (Or.inr ⟨_, _, rfl, tries⟩)⟩
  | erase stuck id =>
      cases home : store.ledger.homeOf? id with
      | none =>
          have answered : (store.stick stuck).erase id = _ := erase_of_absent home
          refine ⟨.untried, store.stick stuck, ?_, Or.inl ⟨rfl, kept.stick stuck⟩⟩
          simp only [Store.exchange, answered]
      | some resource =>
          obtain ⟨next, exchanged, tries⟩ := kept.exchange_erase_of_home stuck home
          exact ⟨_, next, exchanged, Or.inr (Or.inr ⟨_, _, rfl, tries⟩)⟩
  | reopen =>
      obtain ⟨next, reopened, fresh, _⟩ := kept.reopen
      refine ⟨.reopened, next, ?_, Or.inr (Or.inl ⟨rfl, fresh⟩)⟩
      rw [Store.exchange, reopened]

end Kept

/-! ### Whole conversations -/

/-- Wherever the conversation breaks off, the store reflects what was
acknowledged until then behind earlier events, and nothing else. -/
def ReflectsThroughout
    (store : Store) (events : List Event) (exchanges : List Exchange) : Prop :=
  ∀ front, front <+: exchanges → ∀ outcomes last, store.converse front = .ok (outcomes, last) →
    last.Reflects (events ++ acknowledged outcomes)

theorem reflectsThroughout_nil
    {store : Store} {events : List Event} (reflects : store.Reflects events) :
    store.ReflectsThroughout events [] := by
  intro front start outcomes last ran
  obtain rfl := List.prefix_nil.mp start
  obtain ⟨rfl, rfl⟩ : [] = outcomes ∧ store = last := by simpa [converse] using ran
  simpa [acknowledged] using reflects

theorem reflectsThroughout_cons
    {store next : Store} {events : List Event} {first : Exchange} {outcome : Outcome}
    (reflects : store.Reflects events)
    (exchanged : store.exchange first = .ok (outcome, next)) (rest : List Exchange) :
    store.ReflectsThroughout events (first :: rest) ↔
      next.ReflectsThroughout (events ++ outcome.acknowledged) rest := by
  constructor
  · intro throughout front start outcomes last ran
    have longer : first :: front <+: first :: rest := (List.prefix_cons_inj first).mpr start
    have whole : store.converse (first :: front) = .ok (outcome :: outcomes, last) := by
      simp only [converse, exchanged, ran]
    have reflected := throughout _ longer _ _ whole
    rwa [acknowledged, List.flatMap_cons, ← List.append_assoc] at reflected
  · intro throughout front start outcomes last ran
    rcases List.prefix_cons_iff.mp start with rfl | ⟨front, rfl, shorter⟩
    · exact reflectsThroughout_nil reflects [] (List.prefix_refl []) outcomes last ran
    · cases remaining : next.converse front with
      | error fault =>
          simp only [converse, exchanged, remaining] at ran
          cases ran
      | ok result =>
          obtain ⟨others, final⟩ := result
          simp only [converse, exchanged, remaining] at ran
          obtain ⟨rfl, rfl⟩ : outcome :: others = outcomes ∧ final = last := by
            simpa using ran
          have reflected := throughout front shorter others final remaining
          rwa [List.append_assoc] at reflected

namespace Kept

variable {store : Store} {events lost : List Event}

/-- By induction on the exchanges: as long as every change was answered as the
log will have it, the store keeps what was acknowledged, and the first one that
was not shows at once. -/
theorem converse
    (kept : store.Kept events lost) {exchanges : List Exchange}
    (addressable : ∀ exchange ∈ exchanges, exchange.Addressable) :
    ∃ outcomes last, store.converse exchanges = .ok (outcomes, last) ∧
      (store.ReflectsThroughout events exchanges ↔ Faithful lost.isEmpty outcomes) := by
  induction exchanges generalizing store events lost with
  | nil =>
      refine ⟨[], store, rfl, ?_⟩
      exact iff_of_true (reflectsThroughout_nil kept.reflects) trivial
  | cons first rest inductionHypothesis =>
      rw [List.forall_mem_cons] at addressable
      obtain ⟨outcome, next, exchanged, cases⟩ := kept.exchange addressable.1
      have split := reflectsThroughout_cons kept.reflects exchanged rest
      rcases cases with ⟨rfl, same⟩ | ⟨rfl, fresh⟩ | ⟨event, acked, rfl, tries⟩
      · obtain ⟨outcomes, last, ran, settled⟩ := inductionHypothesis same addressable.2
        refine ⟨.untried :: outcomes, last, by simp only [Store.converse, exchanged, ran], ?_⟩
        rw [split, Outcome.acknowledged, List.append_nil, settled, Faithful]
      · obtain ⟨outcomes, last, ran, settled⟩ := inductionHypothesis fresh addressable.2
        refine ⟨.reopened :: outcomes, last, by simp only [Store.converse, exchanged, ran], ?_⟩
        rw [split, Outcome.acknowledged, List.append_nil, settled, Faithful]
        rfl
      -- The first wrong answer decides. What follows it only has to go through.
      · by_cases answered : acked = (lost.isEmpty && decide (Log.Readable event))
        · obtain ⟨left, still, emptiness⟩ := tries.kept_of_eq kept answered
          obtain ⟨outcomes, last, ran, settled⟩ := inductionHypothesis still addressable.2
          refine ⟨.tried event acked :: outcomes, last, ?_, ?_⟩
          · simp only [Store.converse, exchanged, ran]
          · rw [split, settled, Faithful, emptiness, and_iff_right answered]
        · obtain ⟨outcomes, last, ran⟩ := next.converse_total rest
          refine ⟨.tried event acked :: outcomes, last, ?_, iff_of_false ?_ ?_⟩
          · simp only [Store.converse, exchanged, ran]
          · rw [split]
            intro throughout
            have reflected := throughout [] (List.nil_prefix) [] next rfl
            rw [acknowledged, List.flatMap_nil, List.append_nil] at reflected
            exact tries.not_reflects kept answered reflected
          · rw [Faithful]
            exact fun faithful => answered faithful.1

end Kept

theorem Recorded.kept
    {store : Store} {events : List Event} (recorded : store.Recorded Log.Readable events)
    (exact : store.Exact events) :
    store.Kept events [] where
  roomy := recorded.roomy
  written := by rw [List.append_nil, recorded.written]
  addressable event member := by
    rw [List.append_nil] at member
    exact (recorded.kind event member).addressable
  readable := recorded.kind
  barred event rest impossible := by cases impossible
  same := Ledger.Same.symm exact
  sound := recorded.history.sound

/-- Opens a store where there is no log yet and runs exchanges on it. -/
def converseFrom (directory : Log.Directory) (exchanges : List Exchange) :
    Except StorageFault (List Outcome × Store) :=
  match start directory with
  | .error fault => .error fault
  | .ok store => store.converse exchanges

theorem kept_of_blank {directory : Log.Directory} (blank : Blank directory) :
    ∃ store, start directory = .ok store ∧ store.Kept [] [] ∧
      store.ledger.Same Ledger.empty := by
  obtain ⟨store, started, recorded, exact⟩ := start_of_blank Log.Readable blank
  exact ⟨store, started, recorded.kept exact, Ledger.Same.symm exact⟩

/-- A refused change leaves no trace and an acknowledged one lasts, in the
running store and on opening it again, at every point of a conversation exactly
if every change in it was acknowledged just in case its event can be read
back. -/
theorem reflects_iff_faithful
    {directory : Log.Directory} (blank : Blank directory) {exchanges : List Exchange}
    (addressable : ∀ exchange ∈ exchanges, exchange.Addressable) :
    ∃ outcomes last, converseFrom directory exchanges = .ok (outcomes, last) ∧
      ((∀ front, front <+: exchanges → ∀ outcomes last,
          converseFrom directory front = .ok (outcomes, last) →
            last.Reflects (acknowledged outcomes)) ↔
        Faithful true outcomes) := by
  obtain ⟨store, started, kept, _⟩ := kept_of_blank blank
  obtain ⟨outcomes, last, ran, settled⟩ := kept.converse addressable
  refine ⟨outcomes, last, ?_, ?_⟩
  · rw [converseFrom, started]
    exact ran
  · simp only [converseFrom, started]
    exact settled

/-- The first minute of the first day that may be booked. -/
def firstMinute : Reservation where
  id := .ofNat 1
  resource := .ofNat 7
  span := ⟨946684800000, 946684860000⟩
  status := .confirmed
  customer := ⟨"Ada", "ada@example.org"⟩
  createdAt := 0

/-- An insertion whose flush fails, and the same one again. -/
theorem reflects_iff_faithful_retry :
    ∃ outcomes last,
      converseFrom {} [.insert true firstMinute, .insert false firstMinute] =
          .ok (outcomes, last) ∧
        ((∀ front, front <+: [.insert true firstMinute, .insert false firstMinute] →
            ∀ outcomes last, converseFrom {} front = .ok (outcomes, last) →
              last.Reflects (acknowledged outcomes)) ↔
          Faithful true outcomes) := by
  refine reflects_iff_faithful (Or.inl rfl) ?_
  simp only [List.forall_mem_cons, List.not_mem_nil, false_imp_iff, implies_true,
    Exchange.Addressable, Customer.Addressable]
  decide

/-- A reservation that was refused because flushing failed is there as soon as
the store is opened again. -/
theorem Kept.exchange_refused
    {store : Store} {events : List Event} (kept : store.Kept events [])
    {reservation : Reservation} (admits : store.ledger.Admits reservation)
    (readable : Log.Readable (.created reservation)) :
    ∃ next reopened,
      store.exchange (.insert true reservation) =
          .ok (.tried (.created reservation) false, next) ∧
        next.reopen = .ok reopened ∧
        reopened.ledger.get? reservation.id = some reservation := by
  obtain ⟨next, exchanged, tries⟩ :=
    kept.exchange_insert_of_admits true readable.addressable admits
  obtain ⟨reopened, opened, applied⟩ := tries.reopen kept
  refine ⟨next, reopened, exchanged, opened, ?_⟩
  rw [List.isEmpty_nil, decide_eq_true readable, Bool.and_self, if_pos rfl,
    Ledger.applyAll_concat] at applied
  have sound : reopened.ledger.Sound := by
    rw [applied]
    exact (kept.same.apply _).symm.sound tries.sound
  rw [sound.get?_eq_some_iff, applied, Ledger.book_apply_created, if_pos rfl]
  exact ⟨(Book.mem_toList_insert _ _ _).mpr (Or.inl rfl), rfl⟩

/-- The first reservation of all is refused, and is there. -/
theorem refused_and_there :
    ∃ refused reopened,
      converseFrom {} [.insert true firstMinute] =
          .ok ([.tried (.created firstMinute) false], refused) ∧
        refused.reopen = .ok reopened ∧
        reopened.ledger.get? firstMinute.id = some firstMinute := by
  have blank : Blank {} := Or.inl rfl
  obtain ⟨store, started, kept, nothing⟩ := kept_of_blank blank
  have admits : store.ledger.Admits firstMinute := by
    constructor
    case valid => decide
    case fresh => rw [nothing.homes, Ledger.homeOf?_empty]
    case room =>
      rw [nothing.books, Ledger.book_empty]
      decide
    case free =>
      intro r member
      rw [nothing.books, Ledger.book_empty] at member
      exact absurd member List.not_mem_nil
  have readable : Log.Readable (.created firstMinute) := by
    rw [Log.Readable, Log.length_encode_created]
    decide
  obtain ⟨next, reopened, exchanged, opened, there⟩ := kept.exchange_refused admits readable
  refine ⟨next, reopened, ?_, opened, there⟩
  simp only [converseFrom, started, converse, exchanged]

end Reservations.Store
