import Reservations.Proofs.Store.Outcome
import Reservations.Proofs.Store.Restart

namespace Reservations

/-! ## Independent changes

What is asked about one reservation on one resource does not depend on what happens to
another reservation on another resource. So two such changes can be made in either order,
and a log that holds them in one order says the same as one that holds them in the other. -/

/-- A change of the set of reservations that a store is asked for. -/
inductive Mutation where
  | insert (reservation : Reservation)
  | erase (id : Ulid)

namespace Mutation

/-- The identifier that a change is about. -/
def id : Mutation → Ulid
  | insert reservation => reservation.id
  | erase id => id

def operation : Mutation → Store.Operation
  | insert reservation => .insert reservation
  | erase id => .erase id

end Mutation

/-- The identifier that an event is about. -/
def Event.id : Event → Ulid
  | created reservation => reservation.id
  | deleted id _ => id

namespace Ledger

/-- The resource that a change is about. Removing what is held nowhere is about none. -/
def concern? (ledger : Ledger) : Mutation → Option Ulid
  | .insert reservation => some reservation.resource
  | .erase id => ledger.homeOf? id

/-- The event that comes of a change, if any does. -/
def event? (ledger : Ledger) : Mutation → Option Event
  | .insert reservation =>
      if ledger.refusal? reservation = none then some (.created reservation) else none
  | .erase id => (ledger.homeOf? id).map (.deleted id)

/-- The answer to a change when no storage stands in its way. -/
def answer (ledger : Ledger) : Mutation → Store.Answer
  | .insert reservation =>
      .inserted <|
        match ledger.refusal? reservation with
        | some refusal => .error refusal
        | none => .ok reservation
  | .erase id => .erased (.ok (ledger.homeOf? id).isSome)

/-- Two changes are about different reservations, and about no resource both. -/
structure Independent (ledger : Ledger) (first second : Mutation) : Prop where
  ids : first.id ≠ second.id
  resources : ∀ resource,
    ledger.concern? first = some resource → ledger.concern? second ≠ some resource

variable {ledger : Ledger} {first second mutation : Mutation} {event other : Event}

theorem Independent.symm (independent : ledger.Independent first second) :
    ledger.Independent second first where
  ids := independent.ids.symm
  resources resource left right := independent.resources resource right left

/-- An event is about what its change is about. -/
theorem event?_eq_some (brought : ledger.event? mutation = some event) :
    event.id = mutation.id ∧ ledger.concern? mutation = some event.resource := by
  cases mutation with
  | insert reservation =>
      simp only [event?, Option.ite_none_right_eq_some, Option.some.injEq] at brought
      obtain ⟨_, rfl⟩ := brought
      exact ⟨rfl, rfl⟩
  | erase id =>
      obtain ⟨resource, home, rfl⟩ := Option.map_eq_some_iff.mp brought
      exact ⟨rfl, home⟩

/-! ### Events about something else -/

theorem homeOf?_apply_of_ne {id : Ulid} (elsewhere : event.id ≠ id) :
    (ledger.apply event).homeOf? id = ledger.homeOf? id := by
  cases event with
  | created reservation =>
      rw [homeOf?_apply_created]
      exact if_neg elsewhere
  | deleted removed resource =>
      rw [homeOf?_apply_deleted]
      exact if_neg elsewhere

theorem book_apply_of_ne {resource : Ulid} (elsewhere : event.resource ≠ resource) :
    (ledger.apply event).book resource = ledger.book resource := by
  rw [book_apply, if_neg elsewhere]

/-- What is decided about a reservation depends on its identifier and its book alone. -/
theorem refusal?_apply_of_ne {reservation : Reservation}
    (otherId : event.id ≠ reservation.id) (otherBook : event.resource ≠ reservation.resource) :
    (ledger.apply event).refusal? reservation = ledger.refusal? reservation := by
  simp only [refusal?, homeOf?_apply_of_ne otherId, book_apply_of_ne otherBook]

section Elsewhere

variable (otherId : event.id ≠ mutation.id)
  (otherResource : ledger.concern? mutation ≠ some event.resource)
include otherId otherResource

theorem event?_apply : (ledger.apply event).event? mutation = ledger.event? mutation := by
  cases mutation with
  | insert reservation =>
      have otherBook : event.resource ≠ reservation.resource := fun same =>
        otherResource (congrArg some same.symm)
      simp only [event?, refusal?_apply_of_ne otherId otherBook]
  | erase id =>
      have home : (ledger.apply event).homeOf? id = ledger.homeOf? id := homeOf?_apply_of_ne otherId
      rw [event?, event?, home]

theorem answer_apply : (ledger.apply event).answer mutation = ledger.answer mutation := by
  cases mutation with
  | insert reservation =>
      have otherBook : event.resource ≠ reservation.resource := fun same =>
        otherResource (congrArg some same.symm)
      simp only [answer, refusal?_apply_of_ne otherId otherBook]
  | erase id =>
      have home : (ledger.apply event).homeOf? id = ledger.homeOf? id := homeOf?_apply_of_ne otherId
      rw [answer, answer, home]

end Elsewhere

/-- Events about different reservations on different resources can change places. -/
theorem same_apply_swap (ledger : Ledger)
    (ids : event.id ≠ other.id) (resources : event.resource ≠ other.resource) :
    ((ledger.apply event).apply other).Same ((ledger.apply other).apply event) := by
  constructor
  · intro id
    by_cases here : event.id = id
    · subst here
      rw [homeOf?_apply_of_ne ids.symm]
      cases event <;>
        simp only [homeOf?_apply_created, homeOf?_apply_deleted, Event.id, if_true]
    · have unmoved : ((ledger.apply other).apply event).homeOf? id =
          (ledger.apply other).homeOf? id := homeOf?_apply_of_ne here
      rw [unmoved]
      cases other <;>
        simp only [homeOf?_apply_created, homeOf?_apply_deleted, homeOf?_apply_of_ne here]
  · intro resource
    by_cases here : event.resource = resource
    · subst here
      rw [book_apply_of_ne resources.symm, book_apply, book_apply _ event,
        book_apply_of_ne resources.symm]
    · have unmoved : ((ledger.apply other).apply event).book resource =
          (ledger.apply other).book resource := book_apply_of_ne here
      rw [unmoved, book_apply _ other, book_apply _ other, book_apply_of_ne here]

/-- The same where one of them, or either, did not come about. -/
theorem same_applyAll_swap (ledger : Ledger) {left right : Option Event}
    (apart : ∀ event ∈ left, ∀ other ∈ right,
      event.id ≠ other.id ∧ event.resource ≠ other.resource) :
    (ledger.applyAll (left.toList ++ right.toList)).Same
      (ledger.applyAll (right.toList ++ left.toList)) := by
  cases left with
  | none =>
      rw [Option.toList_none, List.nil_append, List.append_nil]
      exact Same.refl _
  | some event =>
      cases right with
      | none =>
          rw [Option.toList_none, List.nil_append, List.append_nil]
          exact Same.refl _
      | some other =>
          obtain ⟨ids, resources⟩ := apart event rfl other rfl
          exact ledger.same_apply_swap ids resources

namespace Independent

variable (independent : ledger.Independent first second)
include independent

theorem apart_of_event? :
    ∀ event ∈ ledger.event? first, ∀ other ∈ ledger.event? second,
      event.id ≠ other.id ∧ event.resource ≠ other.resource := by
  intro event brought other otherBrought
  obtain ⟨id, resource⟩ := event?_eq_some brought
  obtain ⟨otherId, otherResource⟩ := event?_eq_some otherBrought
  refine ⟨?_, fun same => ?_⟩
  · rw [id, otherId]
    exact independent.ids
  · rw [← same] at otherResource
    exact independent.resources _ resource otherResource

/-- The second change is answered, and comes to the same, as if the first were not made. -/
theorem second_eq :
    (ledger.applyAll (ledger.event? first).toList).event? second = ledger.event? second ∧
      (ledger.applyAll (ledger.event? first).toList).answer second = ledger.answer second := by
  cases brought : ledger.event? first with
  | none => exact ⟨rfl, rfl⟩
  | some event =>
      obtain ⟨id, resource⟩ := event?_eq_some brought
      have otherId : event.id ≠ second.id := by
        rw [id]
        exact independent.ids
      have otherResource := independent.resources _ resource
      exact ⟨event?_apply otherId otherResource, answer_apply otherId otherResource⟩

end Independent

namespace Same

variable {left right : Ledger} (same : left.Same right)
include same

theorem refusal?_eq (reservation : Reservation) :
    left.refusal? reservation = right.refusal? reservation := by
  simp only [refusal?, same.homes, same.books]

theorem event?_eq (mutation : Mutation) : left.event? mutation = right.event? mutation := by
  cases mutation with
  | insert reservation => rw [event?, event?, same.refusal?_eq]
  | erase id => rw [event?, event?, same.homes]

theorem answer_eq (mutation : Mutation) : left.answer mutation = right.answer mutation := by
  cases mutation with
  | insert reservation => rw [answer, answer, same.refusal?_eq]
  | erase id => rw [answer, answer, same.homes]

theorem applyAll (events : List Event) : (left.applyAll events).Same (right.applyAll events) := by
  induction events generalizing left right with
  | nil => exact same
  | cons event events inductionHypothesis => exact inductionHypothesis (same.apply event)

end Same

end Ledger

namespace Store

/-- Two changes can be made in either order: each of them is answered the same, and no
question tells the stores apart that they lead to, neither then nor after opening them
again. -/
def Commute (store : Store) (first second : Mutation) : Prop :=
  ∃ firstAnswer secondAnswer left right leftOpened rightOpened,
    store.run [first.operation, second.operation] = .ok ([firstAnswer, secondAnswer], left) ∧
      store.run [second.operation, first.operation] =
        .ok ([secondAnswer, firstAnswer], right) ∧
      left.ReadsLike right ∧
      left.reopen = .ok leftOpened ∧
      right.reopen = .ok rightOpened ∧
      leftOpened.ReadsLike rightOpened

/-- A change is answered, and shows nowhere but on the resource that it is about. -/
def Confines (store : Store) (mutation : Mutation) : Prop :=
  ∃ answer next, store.perform mutation.operation = .ok (answer, next) ∧
    ∀ other, store.ledger.concern? mutation ≠ some other →
      next.ledger.list (some other) = store.ledger.list (some other) ∧
        ∀ span, next.ledger.findOverlap? other span = store.ledger.findOverlap? other span

namespace Recorded

variable {Kind : Event → Prop} {store : Store} {events : List Event}

/-- A change brings the event that the ledger calls for, to the log and to the ledger. -/
theorem perform_mutation
    (recorded : store.Recorded Kind events) (mutation : Mutation)
    (kind : ∀ event ∈ store.ledger.event? mutation, Kind event) :
    ∃ next, store.perform mutation.operation = .ok (store.ledger.answer mutation, next) ∧
      next.Recorded Kind (events ++ (store.ledger.event? mutation).toList) ∧
      next.ledger.Same (store.ledger.applyAll (store.ledger.event? mutation).toList) := by
  cases mutation with
  | insert reservation =>
      cases decision : store.ledger.refusal? reservation with
      | some refusal =>
          have quiet : store.ledger.event? (.insert reservation) = none :=
            if_neg (by rw [decision]; exact Option.some_ne_none _)
          obtain ⟨next, answered, kept, same, _⟩ := recorded.insert_of_refused decision
          refine ⟨next, ?_, ?_, ?_⟩
          · simp only [Mutation.operation, Store.perform, answered, Ledger.answer, decision]
          · rw [quiet, Option.toList_none, List.append_nil]
            exact kept
          · rw [quiet]
            exact same
      | none =>
          have brought : store.ledger.event? (.insert reservation) =
              some (.created reservation) := if_pos decision
          obtain ⟨next, answered, grown, same⟩ :=
            recorded.insert_of_accepted (kind _ brought) decision
          refine ⟨next, ?_, ?_, ?_⟩
          · simp only [Mutation.operation, Store.perform, answered, Ledger.answer, decision]
          · rw [brought]
            exact grown
          · rw [brought]
            exact same
  | erase id =>
      cases home : store.ledger.homeOf? id with
      | none =>
          have quiet : store.ledger.event? (.erase id) = none := by
            rw [Ledger.event?, home, Option.map_none]
          refine ⟨store, ?_, ?_, ?_⟩
          · simp only [Mutation.operation, Store.perform, erase_of_absent home, Ledger.answer,
              home, Option.isSome_none]
          · rw [quiet, Option.toList_none, List.append_nil]
            exact recorded
          · rw [quiet]
            exact Ledger.Same.refl _
      | some resource =>
          have brought : store.ledger.event? (.erase id) = some (.deleted id resource) := by
            rw [Ledger.event?, home, Option.map_some]
          obtain ⟨next, answered, grown, applied⟩ :=
            recorded.erase_of_home (kind _ brought) home
          refine ⟨next, ?_, ?_, ?_⟩
          · simp only [Mutation.operation, Store.perform, answered, Ledger.answer, home,
              Option.isSome_some]
          · rw [brought]
            exact grown
          · rw [brought, applied]
            exact Ledger.Same.refl _

/-- Two independent changes, in one order. -/
theorem run_both
    (recorded : store.Recorded Kind events) {first second : Mutation}
    (independent : store.ledger.Independent first second)
    (firstKind : ∀ event ∈ store.ledger.event? first, Kind event)
    (secondKind : ∀ event ∈ store.ledger.event? second, Kind event) :
    let brought := (store.ledger.event? first).toList ++ (store.ledger.event? second).toList
    ∃ next, store.run [first.operation, second.operation] =
        .ok ([store.ledger.answer first, store.ledger.answer second], next) ∧
      next.Recorded Kind (events ++ brought) ∧
      next.ledger.Same (store.ledger.applyAll brought) := by
  obtain ⟨middle, firstDone, middleRecorded, middleSame⟩ :=
    recorded.perform_mutation first firstKind
  obtain ⟨sameEvent, sameAnswer⟩ := independent.second_eq
  rw [← middleSame.event?_eq] at sameEvent
  rw [← middleSame.answer_eq] at sameAnswer
  obtain ⟨next, secondDone, nextRecorded, nextSame⟩ :=
    middleRecorded.perform_mutation second (sameEvent ▸ secondKind)
  rw [sameAnswer] at secondDone
  rw [sameEvent, List.append_assoc] at nextRecorded
  rw [sameEvent] at nextSame
  refine ⟨next, ?_, nextRecorded, ?_⟩
  · simp only [Store.run, firstDone, secondDone]
  · rw [Ledger.applyAll_append]
    exact nextSame.trans (middleSame.applyAll _)

theorem commute
    (recorded : store.Recorded Log.Readable events) {first second : Mutation}
    (independent : store.ledger.Independent first second)
    (firstKind : ∀ event ∈ store.ledger.event? first, Log.Readable event)
    (secondKind : ∀ event ∈ store.ledger.event? second, Log.Readable event) :
    store.Commute first second := by
  obtain ⟨left, leftRan, leftRecorded, leftSame⟩ :=
    recorded.run_both independent firstKind secondKind
  obtain ⟨right, rightRan, rightRecorded, rightSame⟩ :=
    recorded.run_both independent.symm secondKind firstKind
  obtain ⟨leftOpened, leftOpens, _, leftApplied⟩ := leftRecorded.twins_reopen
  obtain ⟨rightOpened, rightOpens, _, rightApplied⟩ := rightRecorded.twins_reopen
  have apart := independent.apart_of_event?
  have swapped := store.ledger.same_applyAll_swap apart
  -- The two logs end in the same events in different orders, behind the same front.
  have replayed := (Ledger.empty.applyAll events).same_applyAll_swap apart
  rw [← Ledger.applyAll_append, ← Ledger.applyAll_append, ← leftApplied, ← rightApplied]
    at replayed
  exact ⟨_, _, left, right, leftOpened, rightOpened, leftRan, rightRan,
    readsLike_of_same ((leftSame.trans swapped).trans rightSame.symm), leftOpens, rightOpens,
    readsLike_of_same replayed⟩

theorem confines (recorded : store.Recorded Kind events) (mutation : Mutation) :
    store.Confines mutation := by
  obtain ⟨next, performed, _, same⟩ :=
    recorded.anyKind.perform_mutation mutation fun _ _ => trivial
  refine ⟨_, next, performed, fun other elsewhere => ?_⟩
  have book : next.ledger.book other = store.ledger.book other := by
    rw [same.books]
    cases brought : store.ledger.event? mutation with
    | none => rfl
    | some event =>
        refine Ledger.book_apply_of_ne fun here => elsewhere ?_
        rw [← here]
        exact (Ledger.event?_eq_some brought).2
  constructor
  · rw [Ledger.list_some, Ledger.list_some, book]
  · intro span
    rw [Ledger.findOverlap?_eq, Ledger.findOverlap?_eq, book]

end Recorded

/-- What a modest change brings can be read back. -/
theorem Operation.Modest.readable_of_event?
    {mutation : Mutation} (modest : mutation.operation.Modest) (ledger : Ledger) :
    ∀ event ∈ ledger.event? mutation, Log.Readable event := by
  intro event brought
  cases mutation with
  | insert reservation =>
      simp only [Ledger.event?, Option.mem_def, Option.ite_none_right_eq_some,
        Option.some.injEq] at brought
      obtain ⟨_, rfl⟩ := brought
      exact modest.writes
  | erase id =>
      obtain ⟨resource, _, rfl⟩ := Option.map_eq_some_iff.mp brought
      exact Log.readable_deleted id resource

/-- In every state that a run from no log or an empty one leads to, two changes that are
about different reservations and different resources can be made in either order, whether
they are refused or not, and one change never shows on another resource. -/
theorem commute_of_serve
    {directory : Log.Directory} (blank : Blank directory)
    {operations : List Operation} (modest : ∀ operation ∈ operations, operation.Modest) :
    ∃ answers store, serve directory operations = .ok (answers, store) ∧
      (∀ first second : Mutation, first.operation.Modest → second.operation.Modest →
        store.ledger.Independent first second → store.Commute first second) ∧
      ∀ mutation, store.Confines mutation := by
  obtain ⟨answers, store, events, served, recorded, _⟩ :=
    serve_recorded loggable_readable blank fun operation member => (modest operation member).writes
  refine ⟨answers, store, served, ?_, recorded.confines⟩
  intro first second firstModest secondModest independent
  exact recorded.commute independent (firstModest.readable_of_event? _)
    (secondModest.readable_of_event? _)

/-- Two reservations on two resources. -/
def asunder : List Reservation :=
  [⟨.ofNat 1, .ofNat 7, ⟨946684800000, 946684860000⟩, .confirmed, ⟨"Ada", "ada@example.org"⟩, 0⟩,
    ⟨.ofNat 2, .ofNat 8, ⟨946684800000, 946684860000⟩, .pending, ⟨"Bob", "bob@example.org"⟩, 0⟩]

theorem consistent_asunder : Consistent asunder where
  valid := by decide
  together := by decide
  bounded resource := by
    have few : asunder.length ≤ Limits.bookSize := by decide
    exact Nat.le_trans (List.length_filter_le _ _) few

theorem readable_asunder : ∀ r ∈ asunder, Log.Readable (.created r) := by
  simp only [asunder, List.forall_mem_cons, List.not_mem_nil, false_imp_iff, implies_true,
    Log.Readable, Log.length_encode_created]
  decide

/-- A third reservation gets into the way of the first and is refused, while the second is
removed. -/
theorem commute_of_serve_asunder :
    let late : Reservation :=
      ⟨.ofNat 3, .ofNat 7, ⟨946684830000, 946684890000⟩, .pending, ⟨"Cyd", "cyd@example.org"⟩, 0⟩
    ∃ answers store, serve {} (asunder.map .insert) = .ok (answers, store) ∧
      store.ledger.Independent (.insert late) (.erase (.ofNat 2)) ∧
      store.Commute (.insert late) (.erase (.ofNat 2)) ∧
      store.Confines (.erase (.ofNat 2)) := by
  intro late
  have modest : ∀ operation ∈ asunder.map Operation.insert, operation.Modest := by
    simp only [asunder, List.map_cons, List.map_nil, List.forall_mem_cons, List.not_mem_nil,
      false_imp_iff, implies_true, Operation.Modest]
    decide
  obtain ⟨answers, store, served, commute, confines⟩ :=
    commute_of_serve (Or.inl rfl : Blank {}) modest
  obtain ⟨_, again, _, exact, _⟩ := serve_insertions consistent_asunder readable_asunder
  rw [served] at again
  cases again
  have home : store.ledger.homeOf? (.ofNat 2) = some (.ofNat 8) := by
    rw [← Ledger.Same.homes exact]
    simp [asunder, Ledger.applyAll, Ledger.homeOf?_apply_created]
  have independent : store.ledger.Independent (.insert late) (.erase (.ofNat 2)) := by
    refine ⟨by decide, ?_⟩
    rintro resource ⟨⟩ there
    rw [Ledger.concern?, home] at there
    exact absurd there (by decide)
  have lateModest : (Mutation.insert late).operation.Modest := by
    simp only [late, Mutation.operation, Operation.Modest]
    decide
  exact ⟨_, store, served, independent,
    commute _ _ lateModest trivial independent, confines _⟩

end Store

end Reservations
