import Reservations.Proofs.Ledger.Views
import Reservations.Proofs.Store.Durable

namespace Reservations.Store

/-! ## The views of a store agree

Whatever is asked of the store, and whenever the storage gives out on the way. -/

/-- What happens in a run: an operation, or the file of the log fills up. -/
inductive Turn where
  | ask (operation : Operation)
  | fill

/-- From now on the log takes no byte more, until it is replaced. -/
def fill (store : Store) : Store :=
  { store with journal.tail.file.full := true }

/-- Takes turns in order. -/
def play (store : Store) : List Turn → Except StorageFault Store
  | [] => .ok store
  | .fill :: turns => store.fill.play turns
  | .ask operation :: turns =>
      match store.perform operation with
      | .ok (_, store) => store.play turns
      | .error fault => .error fault

/-- The turn brings no event of another kind into the log. -/
def Turn.Writes (Kind : Event → Prop) : Turn → Prop
  | ask operation => operation.Writes Kind
  | fill => True

namespace Durable

variable {Kind : Event → Prop} {store : Store} {events : List Event}

theorem fill (durable : store.Durable Kind events) : store.fill.Durable Kind events :=
  ⟨durable.loose, durable.stored, fun roomy => Bool.noConfusion roomy, durable.kind,
    durable.history⟩

theorem play
    (loggable : Loggable Kind) (durable : store.Durable Kind events)
    {turns : List Turn} (writes : ∀ turn ∈ turns, turn.Writes Kind) :
    ∃ next later, store.play turns = .ok next ∧ next.Durable Kind later := by
  induction turns generalizing store events with
  | nil => exact ⟨store, events, rfl, durable⟩
  | cons turn turns inductionHypothesis =>
      rw [List.forall_mem_cons] at writes
      cases turn with
      | fill => exact inductionHypothesis durable.fill writes.2
      | ask operation =>
          obtain ⟨answer, middle, between, performed, settles⟩ :=
            durable.perform loggable writes.1
          obtain ⟨next, later, played, kept⟩ := inductionHypothesis settles.durable writes.2
          refine ⟨next, later, ?_, kept⟩
          simp only [Store.play, performed, played]

theorem viewsAgree (durable : store.Durable Kind events) : store.ledger.ViewsAgree :=
  durable.history.sound.viewsAgree

end Durable

/-- What is given for an identifier is what is listed with it. -/
theorem get_eq_ok_iff
    {store : Store} (agree : store.ledger.ViewsAgree) (id : Ulid) (r : Reservation) :
    store.get id = .ok r ↔ r ∈ store.ledger.list none ∧ r.id = id := by
  rw [← agree.found, get]
  cases store.ledger.get? id with
  | some other => simp
  | none => simp

/-- Every run that starts without a log or with an empty one goes through, whether the
log is full from the start, fills up on the way or not at all, and then the lists, the
index, the answers about single reservations and the count say the same. -/
theorem viewsAgree_of_play
    {directory : Log.Directory} (fresh : Fresh directory)
    {turns : List Turn} (addressable : ∀ turn ∈ turns, turn.Writes Event.Addressable) :
    ∃ first store, start directory = .ok first ∧ first.play turns = .ok store ∧
      store.ledger.ViewsAgree ∧
      ∀ id r, store.get id = .ok r ↔ r ∈ store.ledger.list none ∧ r.id = id := by
  obtain ⟨first, started, durable⟩ := start_of_fresh Event.Addressable fresh
  obtain ⟨store, events, played, kept⟩ := durable.play loggable_addressable addressable
  exact ⟨first, store, started, played, kept.viewsAgree, get_eq_ok_iff kept.viewsAgree⟩

/-- A full log refuses a reservation twice. A compaction replaces it, the same
reservation is taken, and when the new file fills up too it cannot be removed. -/
theorem viewsAgree_of_play_full :
    let reservation : Reservation :=
      ⟨.ofNat 1, .ofNat 7, ⟨946684800000, 946684860000⟩, .confirmed, ⟨"Ada", "ada@example.org"⟩, 0⟩
    ∃ first store,
      start ⟨.file { full := true }, .absent⟩ = .ok first ∧
      first.play [
          .ask (.insert reservation), .ask (.insert reservation), .ask .reopen,
          .ask .compact, .ask (.insert reservation), .ask (.insert reservation),
          .fill, .ask (.erase (.ofNat 1)), .ask .reopen] = .ok store ∧
      store.ledger.ViewsAgree ∧
      ∀ id r, store.get id = .ok r ↔ r ∈ store.ledger.list none ∧ r.id = id := by
  refine viewsAgree_of_play (Or.inr ⟨true, rfl⟩) ?_
  simp only [List.forall_mem_cons, List.not_mem_nil, false_imp_iff, implies_true,
    Turn.Writes, Operation.Writes, Event.Addressable, Customer.Addressable]
  decide

end Reservations.Store
