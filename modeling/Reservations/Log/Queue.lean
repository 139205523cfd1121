import Reservations.Log.Journal

namespace Reservations.Log

/-! ## Orders to the log

Orders to the log stand in a line. An append that is taken draws along the
appends behind it that have arrived by then, so that one write to the disk
serves them all. -/

/-- What the log can be told to do. -/
inductive Order where
  | append (event : Event)
  /-- Replaces the log by the frames of events. -/
  | compact (events : List Event)
  | countAppends
  deriving DecidableEq, Repr

/-- The answer to an order. -/
inductive Reply where
  | done (outcome : Outcome)
  | counted (appends : Nat)
  deriving Repr

/-- An order and who is to get the answer. -/
structure Posting where
  receiver : Nat
  order : Order
  deriving DecidableEq, Repr

/-- An append and who is to get the answer. -/
structure Addition where
  receiver : Nat
  event : Event
  deriving DecidableEq, Repr

/-- An append as an order like any other. -/
def Addition.posting (addition : Addition) : Posting :=
  ⟨addition.receiver, .append addition.event⟩

/-- An order in the line. It is prompt if it has arrived when the orders before
it have been taken. -/
structure Arrival where
  posting : Posting
  prompt : Bool
  deriving DecidableEq, Repr

/-- An answer, and the log at the moment it is sent. -/
structure Sending where
  receiver : Nat
  reply : Reply
  log : Journal

/-- What is drawn along with an append. -/
structure Drawn where
  /-- The appends that follow promptly. -/
  additions : List Addition
  /-- The prompt order of another kind that ends them, if one does. -/
  ending : Option Posting
  /-- The line behind. -/
  rest : List Arrival

/-- What a line gives to an append before it. -/
def drawn : List Arrival → Drawn
  | ⟨⟨receiver, .append event⟩, true⟩ :: line =>
      let found := drawn line
      { found with additions := ⟨receiver, event⟩ :: found.additions }
  | ⟨posting, true⟩ :: line => ⟨[], some posting, line⟩
  | line => ⟨[], none, line⟩

theorem drawn_rest_length (line : List Arrival) :
    (drawn line).rest.length ≤ line.length := by
  fun_induction drawn line with
  | case1 receiver event line found inductionHypothesis =>
      exact Nat.le_succ_of_le inductionHypothesis
  | case2 posting line _ => exact Nat.le_succ _
  | case3 line _ _ => exact Nat.le_refl _

/-- Nothing in a line is lost or moved when an append draws from it. -/
theorem drawn_postings (line : List Arrival) :
    (drawn line).additions.map Addition.posting ++ (drawn line).ending.toList
        ++ (drawn line).rest.map Arrival.posting =
      line.map Arrival.posting := by
  fun_induction drawn line with
  | case1 receiver event line found inductionHypothesis =>
      simpa [Addition.posting] using inductionHypothesis
  | case2 posting line _ => rfl
  | case3 line _ _ => rfl

namespace Journal

/-- Carries out one order on its own. -/
def serve (journal : Journal) (posting : Posting) : Sending × Journal :=
  match posting.order with
  | .append event =>
      let (outcome, journal) := journal.commit [event]
      (⟨posting.receiver, .done outcome, journal⟩, journal)
  | .compact events =>
      let (outcome, journal) := journal.compact events
      (⟨posting.receiver, .done outcome, journal⟩, journal)
  | .countAppends => (⟨posting.receiver, .counted journal.appends, journal⟩, journal)

/-- Carries out orders one after the other. -/
def serveAll (journal : Journal) : List Posting → List Sending × Journal
  | [] => ([], journal)
  | posting :: postings =>
      let (sending, journal) := journal.serve posting
      let (sendings, journal) := journal.serveAll postings
      (sending :: sendings, journal)

/-- Carries out appends with one commit. They share its outcome. -/
def serveBatch (journal : Journal) (additions : List Addition) : List Sending × Journal :=
  let (outcome, journal) := journal.commit (additions.map Addition.event)
  (additions.map fun addition => ⟨addition.receiver, .done outcome, journal⟩, journal)

/-- Carries out a line of orders. Appends that are drawn along share one commit,
and the order that ends them comes directly after it. -/
def serveLine (journal : Journal) : List Arrival → List Sending × Journal
  | [] => ([], journal)
  | ⟨⟨receiver, .append event⟩, _⟩ :: line =>
      have : (drawn line).rest.length ≤ line.length := drawn_rest_length line
      let (shared, journal) := journal.serveBatch (⟨receiver, event⟩ :: (drawn line).additions)
      let (ended, journal) := journal.serveAll (drawn line).ending.toList
      let (later, journal) := journal.serveLine (drawn line).rest
      (shared ++ ended ++ later, journal)
  | ⟨posting, _⟩ :: line =>
      let (first, journal) := journal.serve posting
      let (later, journal) := journal.serveLine line
      (first :: later, journal)
termination_by line => line.length

end Journal

end Reservations.Log
