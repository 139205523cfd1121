import Reservations.Proofs.Store.Run

namespace Reservations

/-! ## Refused operations

Nothing that can be asked of a store tells whether operations were refused
before. No invariant is needed for this: it holds in any state of the store and
of its storage, and so from one refusal to the next. -/

namespace Ledger

/-- Opening a book adds an empty one where there was none. -/
theorem getElem?_openBook_cases (ledger : Ledger) (resource other : Ulid) :
    (ledger.openBook resource).books[other]? = ledger.books[other]? ∨
      resource = other ∧ ledger.books[other]? = none ∧
        (ledger.openBook resource).books[other]? = some (Book.empty other) := by
  simp only [openBook, Std.TreeMap.getElem?_alter, Std.LawfulEqOrd.compare_eq_iff_eq]
  by_cases here : resource = other
  · subst here
    rw [if_pos rfl]
    cases ledger.books[resource]? with
    | none => exact Or.inr ⟨rfl, rfl, rfl⟩
    | some book => exact Or.inl rfl
  · exact Or.inl (if_neg here)

/-- Only a book that was opened before holds anything. -/
theorem getElem?_openBook_of_book_ne
    {ledger : Ledger} {resource : Ulid} (filled : ledger.book resource ≠ Book.empty resource)
    (other : Ulid) :
    (ledger.openBook resource).books[other]? = ledger.books[other]? := by
  rcases ledger.getElem?_openBook_cases resource other with same | ⟨rfl, unopened, _⟩
  · exact same
  · refine absurd ?_ filled
    rw [book, unopened, Option.getD_none]

end Ledger

namespace Store

/-- No question tells the stores apart. Lists are the same entry by entry. -/
structure ReadsLike (left right : Store) : Prop where
  get : ∀ id, left.get id = right.get id
  found : ∀ id, left.ledger.get? id = right.ledger.get? id
  listed : ∀ resource?, left.ledger.list resource? = right.ledger.list resource?
  count : left.ledger.count = right.ledger.count
  home : ∀ id, left.ledger.homeOf? id = right.ledger.homeOf? id
  overlap : ∀ resource span,
    left.ledger.findOverlap? resource span = right.ledger.findOverlap? resource span
  taken : ∀ resource span,
    left.ledger.existsOverlap resource span = right.ledger.existsOverlap resource span

theorem readsLike_of_same {left right : Store} (same : left.ledger.Same right.ledger) :
    left.ReadsLike right := by
  have found : ∀ id, left.ledger.get? id = right.ledger.get? id := by
    intro id
    rw [Ledger.get?_eq_bind, Ledger.get?_eq_bind, same.homes]
    simp only [same.books]
  have overlap : ∀ resource span,
      left.ledger.findOverlap? resource span = right.ledger.findOverlap? resource span := by
    intro resource span
    rw [Ledger.findOverlap?_eq, Ledger.findOverlap?_eq, same.books]
  constructor
  case get =>
    intro id
    rw [get, get, found]
  case found => exact found
  case listed => exact same.list_eq
  case count => exact same.alike.count_eq
  case home => exact same.homes
  case overlap => exact overlap
  case taken =>
    intro resource span
    rw [Ledger.existsOverlap, Ledger.existsOverlap, overlap]

/-- Why an operation was refused, if it was. -/
def Answer.refusal? : Answer → Option Refusal
  | inserted (.error refusal) => some refusal
  | erased (.error refusal) => some refusal
  | compacted (.error refusal) => some refusal
  | _ => none

/-- An operation and the answer to it. -/
abbrev Exchanged := Operation × Answer

/-- Storage failed when a reservation of the resource was to be added. -/
def Spoiled (resource : Ulid) (exchanges : List Exchanged) : Prop :=
  ∃ reservation fault, reservation.resource = resource ∧
    (.insert reservation, .inserted (.error (.storage fault))) ∈ exchanges

/-- Nothing came of some operations. At most, an empty book was opened for a
resource, and the log was touched, but both only where storage failed. -/
structure Unnoticed (exchanges : List Exchanged) (store next : Store) : Prop where
  ledger : next.ledger.Same store.ledger
  books : ∀ resource, next.ledger.books[resource]? = store.ledger.books[resource]? ∨
    Spoiled resource exchanges ∧ store.ledger.books[resource]? = none ∧
      next.ledger.books[resource]? = some (Book.empty resource)
  log : (∀ exchange ∈ exchanges, ∀ fault, exchange.2.refusal? ≠ some (.storage fault)) →
    next.journal = store.journal

namespace Unnoticed

variable {store middle next : Store} {exchanges earlier later : List Exchanged}

theorem refl (exchanges : List Exchanged) (store : Store) : Unnoticed exchanges store store :=
  ⟨Ledger.Same.refl _, fun _ => Or.inl rfl, fun _ => rfl⟩

theorem trans
    (first : Unnoticed earlier store middle) (second : Unnoticed later middle next) :
    Unnoticed (earlier ++ later) store next := by
  constructor
  case ledger => exact second.ledger.trans first.ledger
  case books =>
    intro resource
    rcases first.books resource with unopened | ⟨⟨reservation, fault, here, member⟩, _, opened⟩
    · rcases second.books resource with still | ⟨⟨reservation, fault, here, member⟩, change⟩
      · exact Or.inl (still.trans unopened)
      · rw [unopened] at change
        exact Or.inr ⟨⟨reservation, fault, here, List.mem_append_right _ member⟩, change⟩
    · have spoiled : Spoiled resource (earlier ++ later) :=
        ⟨reservation, fault, here, List.mem_append_left _ member⟩
      rcases second.books resource with still | ⟨_, absent, _⟩
      · exact Or.inr ⟨spoiled, ‹_›, still.trans opened⟩
      · rw [opened] at absent
        cases absent
  case log =>
    intro sound
    have before := first.log fun exchange member => sound exchange (List.mem_append_left _ member)
    have after := second.log fun exchange member => sound exchange (List.mem_append_right _ member)
    exact after.trans before

theorem readsLike (unnoticed : Unnoticed exchanges store next) : next.ReadsLike store :=
  readsLike_of_same unnoticed.ledger

end Unnoticed

/-! ### One refusal -/

section Step

variable {store next : Store} {refusal : Refusal}

theorem persist_error
    {event : Event} (refused : store.persist event = (.error refusal, next)) :
    (∃ fault, refusal = .storage fault) ∧ next.ledger = store.ledger := by
  unfold persist at refused
  split at refused
  · cases refused
  · cases refused
    exact ⟨⟨_, rfl⟩, rfl⟩

/-- The book of the resource is opened before it is looked into. If that is what
speaks against the reservation, it was open already. -/
theorem unnoticed_of_insert
    {reservation : Reservation} (refused : store.insert reservation = (.error refusal, next)) :
    Unnoticed [(.insert reservation, .inserted (.error refusal))] store next := by
  have opened := Ledger.Same.openBook store.ledger reservation.resource
  have decided :
      store.ledger.book reservation.resource ≠ Book.empty reservation.resource →
        Unnoticed [(.insert reservation, .inserted (.error refusal))] store
          ⟨store.ledger.openBook reservation.resource, store.journal⟩ := fun filled =>
    ⟨opened, fun other => Or.inl (Ledger.getElem?_openBook_of_book_ne filled other), fun _ => rfl⟩
  unfold insert at refused
  split at refused
  case h_1 =>
    cases refused
    exact Unnoticed.refl _ _
  case h_2 =>
    split at refused
    case isTrue =>
      cases refused
      exact Unnoticed.refl _ _
    case isFalse =>
      simp only [opened.books] at refused
      split at refused
      case isTrue full =>
        cases refused
        refine decided fun nothing => ?_
        rw [nothing] at full
        exact absurd full (by simp [Book.empty, Book.size, Limits.bookSize])
      case isFalse =>
        split at refused
        case h_1 existing blocking =>
          cases refused
          refine decided fun nothing => ?_
          rw [nothing, Book.firstBlocking_empty, ite_self] at blocking
          cases blocking
        case h_2 =>
          split at refused
          case h_1 => cases refused
          case h_2 cause last persisted =>
            cases refused
            obtain ⟨⟨fault, rfl⟩, unchanged⟩ := persist_error persisted
            constructor
            case ledger =>
              rw [unchanged]
              exact opened
            case books =>
              intro resource
              rw [unchanged]
              rcases store.ledger.getElem?_openBook_cases reservation.resource resource with
                same | ⟨here, fresh⟩
              · exact Or.inl same
              · exact Or.inr ⟨⟨reservation, fault, here, List.mem_singleton_self _⟩, fresh⟩
            case log =>
              intro healthy
              exact absurd rfl (healthy _ (List.mem_singleton_self _) fault)

/-- Only storage stands in the way of removing and compacting. -/
theorem unnoticed_of_storage
    {operation : Operation} {answer : Answer} {fault : StorageFault}
    (storage : answer.refusal? = some (.storage fault))
    (unchanged : next.ledger = store.ledger) :
    Unnoticed [(operation, answer)] store next := by
  constructor
  case ledger =>
    rw [unchanged]
    exact Ledger.Same.refl _
  case books =>
    intro resource
    rw [unchanged]
    exact Or.inl rfl
  case log =>
    intro healthy
    exact absurd storage (healthy _ (List.mem_singleton_self _) fault)

theorem unnoticed_of_erase
    {id : Ulid} (refused : store.erase id = (.error refusal, next)) :
    Unnoticed [(.erase id, .erased (.error refusal))] store next := by
  unfold erase at refused
  split at refused
  case h_1 => cases refused
  case h_2 =>
    split at refused
    case h_1 => cases refused
    case h_2 =>
      split at refused
      case h_1 => cases refused
      case h_2 cause last persisted =>
        cases refused
        obtain ⟨⟨fault, rfl⟩, unchanged⟩ := persist_error persisted
        exact unnoticed_of_storage rfl unchanged

theorem unnoticed_of_compact (refused : store.compact = (.error refusal, next)) :
    Unnoticed [(.compact, .compacted (.error refusal))] store next := by
  simp only [compact] at refused
  split at refused
  case h_1 => cases refused
  case h_2 =>
    cases refused
    exact unnoticed_of_storage rfl rfl

theorem unnoticed_of_perform
    {operation : Operation} {answer : Answer}
    (performed : store.perform operation = .ok (answer, next))
    (refused : answer.refusal? = some refusal) :
    Unnoticed [(operation, answer)] store next := by
  cases operation with
  | insert reservation =>
      cases decided : store.insert reservation with
      | mk result last =>
          rw [perform, decided] at performed
          cases performed
          cases result with
          | ok _ => cases refused
          | error _ => exact unnoticed_of_insert decided
  | erase id =>
      cases decided : store.erase id with
      | mk result last =>
          rw [perform, decided] at performed
          cases performed
          cases result with
          | ok _ => cases refused
          | error _ => exact unnoticed_of_erase decided
  | compact =>
      cases decided : store.compact with
      | mk result last =>
          rw [perform, decided] at performed
          cases performed
          cases result with
          | ok _ => cases refused
          | error _ => exact unnoticed_of_compact decided
  | compactIfNeeded threshold =>
      cases performed
      cases refused
  | reopen =>
      rw [perform] at performed
      split at performed
      · cases performed
        cases refused
      · cases performed
  | replaceSpare node =>
      cases performed
      cases refused

end Step

/-! ### Refusals in a row -/

/-- Whatever state the store and its storage are in, operations that are all refused, one
after the other, change no answer to any question. -/
theorem unnoticed_of_refused
    {store next : Store} {operations : List Operation} {answers : List Answer}
    (ran : store.run operations = .ok (answers, next))
    (refused : ∀ answer ∈ answers, answer.refusal?.isSome = true) :
    next.ReadsLike store ∧ Unnoticed (operations.zip answers) store next := by
  suffices unnoticed : Unnoticed (operations.zip answers) store next from
    ⟨unnoticed.readsLike, unnoticed⟩
  induction operations generalizing store answers with
  | nil =>
      cases ran
      exact Unnoticed.refl _ _
  | cons operation operations inductionHypothesis =>
      rw [run] at ran
      split at ran
      case h_1 => cases ran
      case h_2 answer middle performed =>
        split at ran
        case h_1 => cases ran
        case h_2 rest last continued =>
          cases ran
          rw [List.forall_mem_cons] at refused
          obtain ⟨refusal, first⟩ := Option.isSome_iff_exists.mp refused.1
          exact (unnoticed_of_perform performed first).trans
            (inductionHypothesis continued refused.2)

/-- The log is full and the spare file is a directory. A reservation is refused for that
reason, and so is the same one again and a compaction. Between them, one is refused whose
span is empty. -/
theorem unnoticed_of_refused_full :
    let reservation : Reservation :=
      ⟨.ofNat 1, .ofNat 7, ⟨946684800000, 946684860000⟩, .confirmed, ⟨"Ada", "ada@example.org"⟩, 0⟩
    let operations : List Operation := [
      .insert reservation,
      .insert { reservation with span := ⟨946684800000, 946684800000⟩ },
      .insert reservation,
      .compact]
    ∃ store answers next,
      start ⟨.file { full := true }, .directory⟩ = .ok store ∧
      store.run operations = .ok (answers, next) ∧
      answers.map Answer.refusal? = [
        some (.storage .noSpace), some (.invalid .emptySpan), some (.storage .noSpace),
        some (.storage .isDirectory)] ∧
      next.ReadsLike store ∧ Unnoticed (operations.zip answers) store next := by
  intro reservation operations
  let store : Store := ⟨Ledger.empty, ⟨⟨{ full := true }, .empty⟩, 0, .directory⟩⟩
  have started : start ⟨.file { full := true }, .directory⟩ = .ok store := by
    simp only [start, Log.Directory.recover, Log.Directory.replay, Log.replay_empty]
    rfl
  have refusals :
      (store.run operations).toOption.map (fun result => result.1.map Answer.refusal?) = some [
        some (.storage .noSpace), some (.invalid .emptySpan), some (.storage .noSpace),
        some (.storage .isDirectory)] := by
    decide +kernel
  cases ran : store.run operations with
  | error fault =>
      rw [ran] at refusals
      cases refusals
  | ok result =>
      obtain ⟨answers, next⟩ := result
      rw [ran] at refusals
      have given : answers.map Answer.refusal? = _ := Option.some.inj refusals
      refine ⟨store, answers, next, started, ran, given, unnoticed_of_refused ran ?_⟩
      intro answer member
      have reason := List.mem_map_of_mem (f := Answer.refusal?) member
      rw [given] at reason
      simp only [List.mem_cons, List.not_mem_nil, or_false] at reason
      rcases reason with reason | reason | reason | reason <;> rw [reason, Option.isSome_some]

end Store

end Reservations
