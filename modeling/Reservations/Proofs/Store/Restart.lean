import Reservations.Proofs.Store.Run

namespace Reservations.Store

/-! ## Restarting

What the store holds in memory is what its log gives back. -/

/-- The texts of an added reservation are as short as requests have them. -/
def Operation.Modest : Operation → Prop
  | insert reservation =>
      reservation.customer.name.utf8ByteSize ≤ Limits.nameBytes ∧
        reservation.customer.email.utf8ByteSize ≤ Limits.emailBytes
  | _ => True

theorem Operation.Modest.writes {operation : Operation} (modest : operation.Modest) :
    operation.Writes Log.Readable := by
  cases operation with
  | insert reservation =>
      obtain ⟨name, email⟩ := modest
      rw [Limits.nameBytes] at name
      rw [Limits.emailBytes] at email
      rw [Writes, Log.Readable, Log.length_encode_created, Limits.payloadBytes]
      omega
  | _ => trivial

/-- Two stores give the same answers. The lists of one are those of the other in
some order of those that start together. -/
structure AnswersAlike (left right : Store) : Prop where
  get : ∀ id, left.get id = right.get id
  found : ∀ id, left.ledger.get? id = right.ledger.get? id
  home : ∀ id, left.ledger.homeOf? id = right.ledger.homeOf? id
  count : left.ledger.count = right.ledger.count
  overlap : ∀ resource span,
    left.ledger.findOverlap? resource span = right.ledger.findOverlap? resource span
  taken : ∀ resource span,
    left.ledger.existsOverlap resource span = right.ledger.existsOverlap resource span
  decision : ∀ reservation, (left.insert reservation).1 = (right.insert reservation).1
  rearranged : ∀ resource,
    (left.ledger.list (some resource)).Perm (right.ledger.list (some resource))
  ordered : ∀ resource, (right.ledger.list (some resource)).Pairwise
    fun earlier later => earlier.span.start ≤ later.span.start

/-- Two stores that hold the same reservations, each with a log of its own. -/
structure Twins (left right : Store) : Prop where
  leftRecorded : ∃ events, left.Recorded Log.Readable events
  rightRecorded : ∃ events, right.Recorded Log.Readable events
  alike : left.ledger.Alike right.ledger

namespace Twins

variable {left right : Store}

theorem answersAlike (twins : left.Twins right) : left.AnswersAlike right := by
  obtain ⟨leftEvents, leftRecorded⟩ := twins.leftRecorded
  obtain ⟨rightEvents, rightRecorded⟩ := twins.rightRecorded
  have leftSound := leftRecorded.history.sound
  have rightSound := rightRecorded.history.sound
  have found := twins.alike.get?_eq leftSound rightSound
  constructor
  case get =>
    intro id
    rw [Store.get, Store.get, found]
  case found => exact found
  case home => exact twins.alike.homes
  case count => exact twins.alike.count_eq
  case overlap => exact twins.alike.findOverlap?_eq leftSound rightSound
  case taken =>
    intro resource span
    rw [Ledger.existsOverlap, Ledger.existsOverlap,
      twins.alike.findOverlap?_eq leftSound rightSound]
  case decision =>
    intro reservation
    rw [leftRecorded.insert_answer, rightRecorded.insert_answer,
      twins.alike.refusal?_eq leftSound rightSound]
  case rearranged =>
    intro resource
    rw [Ledger.list_some, Ledger.list_some]
    exact twins.alike.books resource
  case ordered =>
    intro resource
    rw [Ledger.list_some]
    exact rightSound.sorted resource

/-- Twins that are used alike stay twins, whether either of them is compacted or
not. -/
theorem run
    (twins : left.Twins right) {operations : List Operation}
    (modest : ∀ operation ∈ operations, operation.Modest) :
    ∃ leftAnswers leftNext rightAnswers rightNext,
      left.run operations = .ok (leftAnswers, leftNext) ∧
        right.run operations = .ok (rightAnswers, rightNext) ∧ leftNext.Twins rightNext := by
  have writes : ∀ operation ∈ operations, operation.Writes Log.Readable :=
    fun operation member => (modest operation member).writes
  obtain ⟨leftEvents, leftRecorded⟩ := twins.leftRecorded
  obtain ⟨rightEvents, rightRecorded⟩ := twins.rightRecorded
  obtain ⟨leftAnswers, leftNext, leftLater, leftRan, leftLeads⟩ :=
    leftRecorded.run loggable_readable writes
  obtain ⟨rightAnswers, rightNext, rightLater, rightRan, rightLeads⟩ :=
    rightRecorded.run loggable_readable writes
  refine ⟨leftAnswers, leftNext, rightAnswers, rightNext, leftRan, rightRan,
    ⟨leftLater, leftLeads.recorded⟩, ⟨rightLater, rightLeads.recorded⟩, ?_⟩
  have expected :=
    alike_effects operations twins.alike leftRecorded.history.sound rightRecorded.history.sound
  have leftAlike := leftLeads.expected fun _ readable => readable
  have rightAlike := rightLeads.expected fun _ readable => readable
  exact (leftAlike.trans expected).trans rightAlike.symm

end Twins

/-- A store that is opened again is a twin of what it was. -/
theorem Recorded.twins_reopen
    {store : Store} {events : List Event} (recorded : store.Recorded Log.Readable events) :
    ∃ reopened, store.reopen = .ok reopened ∧ store.Twins reopened ∧
      reopened.ledger = Ledger.empty.applyAll events := by
  obtain ⟨reopened, opened, applied, kept⟩ := recorded.reopen loggable_readable
  rw [Log.readableFront_eq_self recorded.kind] at applied kept
  refine ⟨reopened, opened, ⟨⟨events, recorded⟩, ⟨events, kept⟩, ?_⟩, applied⟩
  rw [applied]
  exact recorded.history.alike.symm

/-- After every run that starts without a log or with an empty one, opening the
store again changes no answer, then and after any further operations. Without a
compaction on the way it does not even change the order of the lists. -/
theorem answersAlike_reopen
    {directory : Log.Directory} (blank : Blank directory)
    {operations : List Operation} (modest : ∀ operation ∈ operations, operation.Modest) :
    ∃ answers store reopened, serve directory operations = .ok (answers, store) ∧
      store.reopen = .ok reopened ∧
      store.AnswersAlike reopened ∧
      (∀ further : List Operation, (∀ operation ∈ further, operation.Modest) →
        ∃ leftAnswers left rightAnswers right, store.run further = .ok (leftAnswers, left) ∧
          reopened.run further = .ok (rightAnswers, right) ∧ left.AnswersAlike right) ∧
      (answers.any Answer.compacts = false →
        ∀ resource?, reopened.ledger.list resource? = store.ledger.list resource?) := by
  obtain ⟨answers, store, events, served, recorded, exact⟩ :=
    serve_recorded loggable_readable blank fun operation member => (modest operation member).writes
  obtain ⟨reopened, opened, twins, applied⟩ := recorded.twins_reopen
  refine ⟨answers, store, reopened, served, opened, twins.answersAlike, ?_, ?_⟩
  · intro further furtherModest
    obtain ⟨leftAnswers, left, rightAnswers, right, leftRan, rightRan, still⟩ :=
      twins.run furtherModest
    exact ⟨leftAnswers, left, rightAnswers, right, leftRan, rightRan, still.answersAlike⟩
  · intro uncompacted resource?
    rw [applied]
    exact Ledger.Same.list_eq (exact uncompacted) resource?

/-- Two reservations start together, one of them cancelled, and the log is
compacted before the store is opened again. -/
theorem answersAlike_reopen_two :
    ∃ answers store reopened,
      serve {} [
          .insert ⟨.ofNat 1, .ofNat 7, ⟨946684800000, 946684860000⟩, .cancelled,
            ⟨"Ada", "ada@example.org"⟩, 0⟩,
          .insert ⟨.ofNat 2, .ofNat 7, ⟨946684800000, 946684890000⟩, .pending,
            ⟨"Bob", "bob@example.org"⟩, 0⟩,
          .compact] = .ok (answers, store) ∧
      store.reopen = .ok reopened ∧
      store.AnswersAlike reopened ∧
      (∀ further : List Operation, (∀ operation ∈ further, operation.Modest) →
        ∃ leftAnswers left rightAnswers right, store.run further = .ok (leftAnswers, left) ∧
          reopened.run further = .ok (rightAnswers, right) ∧ left.AnswersAlike right) ∧
      (answers.any Answer.compacts = false →
        ∀ resource?, reopened.ledger.list resource? = store.ledger.list resource?) := by
  refine answersAlike_reopen (Or.inl rfl) ?_
  simp only [List.forall_mem_cons, List.not_mem_nil, false_imp_iff, implies_true,
    Operation.Modest]
  decide

end Reservations.Store
