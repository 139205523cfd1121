import Reservations.Proofs.Desk
import Reservations.Proofs.Ledger.Views
import Reservations.Proofs.Message

namespace Reservations

/-! ## Rows as handles

A client gets a row for every booking it makes, and asks about the reservation by the
texts in that row later on, whatever it or others have done in the meantime. -/

/-- A request without a flaw has no text that is too long for the log. -/
theorem Request.addressable_customer
    {request : Request} {now : Instant} (flawless : request.firstFlaw? now = none) :
    request.customer.Addressable := by
  have passes := flaw?_customer flawless
  unfold Customer.flaw? at passes
  have few : Limits.nameBytes < UInt64.size ∧ Limits.emailBytes < UInt64.size := by decide
  split at passes
  · cases passes
  · split at passes
    · cases passes
    · split at passes
      · cases passes
      · split at passes
        · cases passes
        · rw [Customer.Addressable]
          omega

/-! ### What a command does to the reservations -/

namespace Desk

/-- Storage works, and the log holds a history of the ledger. -/
structure Healthy (desk : Desk) : Prop where
  calm : desk.outage = none
  recorded : ∃ events, desk.store.Recorded Event.Addressable events

/-- What a command comes to, and what it makes of the reservations. Only a booking adds
one, under the next identifier, and only a removal takes one away. -/
inductive Alters (desk : Desk) : Command → Outcome → Ledger → Prop
  | nothing {command : Command} {outcome : Outcome} {ledger : Ledger} :
      ledger.Same desk.store.ledger →
      (∀ request, command = .book request → ∃ refusal, outcome = .refused refusal) →
      (∀ id, command = .remove id → desk.store.ledger.homeOf? id = none ∧ outcome = .removed 0) →
      Alters desk command outcome ledger
  | added {request : Request} {r : Reservation} {ledger : Ledger} :
      r.id = .ofNat (desk.issued + 1) →
      desk.store.ledger.Admits r →
      ledger.Same (desk.store.ledger.apply (.created r)) →
      Alters desk (.book request) (.rows [r.row]) ledger
  | removed {id resource : Ulid} {ledger : Ledger} :
      desk.store.ledger.homeOf? id = some resource →
      ledger.Same (desk.store.ledger.apply (.deleted id resource)) →
      Alters desk (.remove id) (.removed 1) ledger

namespace Healthy

variable {desk : Desk}

theorem sound (healthy : desk.Healthy) : desk.store.ledger.Sound := by
  obtain ⟨events, recorded⟩ := healthy.recorded
  exact recorded.history.sound

theorem place
    (healthy : desk.Healthy) {request : Request} (flawless : request.firstFlaw? desk.now = none) :
    (∃ refusal next, desk.place request request.bounds = (.error refusal, next) ∧
      next.Healthy ∧ next.store.ledger.Same desk.store.ledger) ∨
    ∃ r next, desk.place request request.bounds = (.ok r, next) ∧ next.Healthy ∧
      r.id = .ofNat (desk.issued + 1) ∧ desk.store.ledger.Admits r ∧
      next.store.ledger.Same (desk.store.ledger.apply (.created r)) := by
  obtain ⟨events, recorded⟩ := healthy.recorded
  have calm := healthy.calm
  cases decision : desk.store.ledger.refusal?
      (pending request request.bounds (.ofNat (desk.issued + 1)) desk.now) with
  | some refusal =>
      obtain ⟨store, inserted, kept, same, _⟩ := recorded.insert_of_refused decision
      refine Or.inl ⟨refusal, { desk with issued := desk.issued + 1, store := store }, ?_,
        ⟨calm, events, kept⟩, same⟩
      simp only [Desk.place, calm, inserted]
  | none =>
      have kind : Event.Addressable
          (.created (pending request request.bounds (.ofNat (desk.issued + 1)) desk.now)) :=
        Request.addressable_customer flawless
      have admits := (Ledger.refusal?_eq_none_iff (healthy.sound.sorted _)).mp decision
      obtain ⟨store, inserted, grown, same⟩ := recorded.insert_of_accepted kind decision
      refine Or.inr ⟨_, { desk with issued := desk.issued + 1, store := store }, ?_,
        ⟨calm, _, grown⟩, rfl, admits, same⟩
      simp only [Desk.place, calm, inserted]

theorem carryOut_book (healthy : desk.Healthy) (request : Request) :
    (desk.carryOut (.book request)).2.Healthy ∧
      desk.Alters (.book request) (desk.carryOut (.book request)).1
        (desk.carryOut (.book request)).2.store.ledger := by
  rw [carryOut]
  rcases desk.create_cases request with
    ⟨refusal, next, refused, store, outage⟩ | ⟨_, flawless, _, _, placed⟩
  · rw [refused]
    refine ⟨⟨outage.trans healthy.calm, ?_⟩, .nothing ?_ ?_ ?_⟩
    · rw [store]
      exact healthy.recorded
    · rw [store]
      exact Ledger.Same.refl _
    · exact fun _ _ => ⟨refusal, rfl⟩
    · intro id impossible
      cases impossible
  · have asked : Healthy { desk with lookups := desk.lookups + 1 } :=
      ⟨healthy.calm, healthy.recorded⟩
    rw [placed]
    rcases asked.place flawless with
      ⟨refusal, next, refused, kept, same⟩ | ⟨r, next, taken, kept, id, admits, same⟩
    · rw [refused]
      refine ⟨kept, .nothing same (fun _ _ => ⟨refusal, rfl⟩) ?_⟩
      intro id impossible
      cases impossible
    · rw [taken]
      exact ⟨kept, .added id admits same⟩

theorem carryOut_remove (healthy : desk.Healthy) (id : Ulid) :
    (desk.carryOut (.remove id)).2.Healthy ∧
      desk.Alters (.remove id) (desk.carryOut (.remove id)).1
        (desk.carryOut (.remove id)).2.store.ledger := by
  have calm := healthy.calm
  cases home : desk.store.ledger.homeOf? id with
  | none =>
      simp only [carryOut, delete, calm, Store.erase_of_absent home]
      refine ⟨⟨rfl, healthy.recorded⟩, .nothing (Ledger.Same.refl _) ?_ ?_⟩
      · intro request impossible
        cases impossible
      · intro other same
        cases same
        exact ⟨home, rfl⟩
  | some resource =>
      obtain ⟨events, recorded⟩ := healthy.recorded
      obtain ⟨store, erased, shrunk, applied⟩ := recorded.erase_of_home trivial home
      simp only [carryOut, delete, calm, erased]
      refine ⟨⟨rfl, _, shrunk⟩, .removed home ?_⟩
      rw [applied]
      exact Ledger.Same.refl _

/-- Asking changes nothing. -/
theorem carryOut_asking
    (healthy : desk.Healthy) {command : Command} (unchanged : (desk.carryOut command).2 = desk)
    (asks : ∀ request id, command ≠ .book request ∧ command ≠ .remove id) :
    (desk.carryOut command).2.Healthy ∧
      desk.Alters command (desk.carryOut command).1 (desk.carryOut command).2.store.ledger := by
  rw [unchanged]
  refine ⟨healthy, .nothing (Ledger.Same.refl _) ?_ ?_⟩
  · exact fun request books => absurd books (asks request default).1
  · exact fun id removes => absurd removes (asks default id).2

theorem carryOut (healthy : desk.Healthy) (command : Command) :
    (desk.carryOut command).2.Healthy ∧
      desk.Alters command (desk.carryOut command).1 (desk.carryOut command).2.store.ledger := by
  cases command with
  | book request => exact healthy.carryOut_book request
  | remove id => exact healthy.carryOut_remove id
  | find id =>
      refine healthy.carryOut_asking ?_ fun _ _ => ⟨Command.noConfusion, Command.noConfusion⟩
      rw [Desk.carryOut]
      split <;> rfl
  | list resource? =>
      refine healthy.carryOut_asking ?_ fun _ _ => ⟨Command.noConfusion, Command.noConfusion⟩
      rw [Desk.carryOut]
      split <;> rfl

end Healthy

namespace Alters

variable {desk : Desk} {command : Command} {outcome : Outcome} {ledger : Ledger}

/-- A reservation stays where it is until it is removed itself. -/
theorem keeps
    (alters : desk.Alters command outcome ledger) (sound : desk.store.ledger.Sound)
    {r : Reservation} (spared : command ≠ .remove r.id)
    (held : r ∈ (desk.store.ledger.book r.resource).toList) :
    r ∈ (ledger.book r.resource).toList := by
  cases alters with
  | nothing same _ _ =>
      rw [same.books]
      exact held
  | added id admits same =>
      rw [same.books, Ledger.book_apply_created]
      split
      · exact (Book.mem_toList_insert _ _ _).mpr (Or.inr held)
      · exact held
  | removed home same =>
      rw [same.books, Ledger.book_apply_deleted]
      split
      · rw [sound.toList_erase, List.mem_filter]
        refine ⟨held, decide_eq_true fun same => spared ?_⟩
        rw [same]
      · exact held

/-- An identifier that is not held is not, until it is given out. -/
theorem keepsAway
    (alters : desk.Alters command outcome ledger) {id : Ulid}
    (undrawn : ∀ request, command = .book request → Ulid.ofNat (desk.issued + 1) ≠ id)
    (away : desk.store.ledger.homeOf? id = none) :
    ledger.homeOf? id = none := by
  cases alters with
  | nothing same _ _ =>
      rw [same.homes]
      exact away
  | added drawn admits same =>
      rw [same.homes, Ledger.homeOf?_apply_created, drawn, if_neg (undrawn _ rfl)]
      exact away
  | removed home same =>
      rw [same.homes, Ledger.homeOf?_apply_deleted]
      split
      · rfl
      · exact away

theorem takesAway {id : Ulid} (alters : desk.Alters (.remove id) outcome ledger) :
    ledger.homeOf? id = none := by
  cases alters with
  | nothing same _ away =>
      rw [same.homes]
      exact (away id rfl).1
  | removed home same => rw [same.homes, Ledger.homeOf?_apply_deleted, if_pos rfl]

theorem holds
    {request : Request} {rows : List (List String)}
    (alters : desk.Alters (.book request) (.rows rows) ledger) :
    ∃ r : Reservation, rows = [r.row] ∧ r ∈ (ledger.book r.resource).toList := by
  cases alters with
  | nothing _ refused _ =>
      obtain ⟨refusal, impossible⟩ := refused request rfl
      cases impossible
  | @added _ r _ _ _ same =>
      refine ⟨r, rfl, ?_⟩
      rw [same.books, Ledger.book_apply_created, if_pos rfl]
      exact (Book.mem_toList_insert _ _ _).mpr (Or.inl rfl)

end Alters

end Desk

/-! ### Turns -/

/-- What a statement comes upon: the clock, what the catalog answers, and how many
identifiers were given out before, here or elsewhere. -/
structure Circumstances where
  now : Instant
  answers : Catalog.Answers
  issued : Nat

/-- What happens while a client is connected. -/
inductive Turn where
  | send (message : Message) (circumstances : Circumstances)
  /-- The log is compacted in the background, if it is long enough. -/
  | compact (threshold : Nat)

namespace Turn

/-- The command that is carried out, if any is. -/
def command? : Turn → Option Command
  | send message _ => message.command?
  | compact _ => none

/-- The identifier that a booking gets if it is made. -/
def drawn? : Turn → Option Ulid
  | send message circumstances =>
      match message.command? with
      | some (.book _) => some (.ofNat (circumstances.issued + 1))
      | _ => none
  | compact _ => none

end Turn

namespace Desk

/-- The desk as a statement comes upon it. -/
def under (desk : Desk) (circumstances : Circumstances) : Desk :=
  { desk with
    now := circumstances.now
    answers := circumstances.answers
    issued := circumstances.issued }

/-- What a client gets in a turn, and the desk after it. -/
def attend (desk : Desk) : Turn → Option Outcome × Desk
  | .send message circumstances => (desk.under circumstances).answer message
  | .compact threshold =>
      (none, { desk with store := (desk.store.compactIfNeeded threshold).2 })

/-- The desk after some turns. -/
def after (desk : Desk) (turns : List Turn) : Desk :=
  turns.foldl (fun desk turn => (desk.attend turn).2) desk

theorem after_append (desk : Desk) (earlier later : List Turn) :
    desk.after (earlier ++ later) = (desk.after earlier).after later :=
  List.foldl_append

namespace Healthy

variable {desk : Desk}

theorem under (healthy : desk.Healthy) (circumstances : Circumstances) :
    (desk.under circumstances).Healthy :=
  ⟨healthy.calm, healthy.recorded⟩

/-- Only the command of a turn does anything to the reservations. -/
theorem attend (healthy : desk.Healthy) (turn : Turn) :
    (desk.attend turn).2.Healthy ∧
      ((turn.command? = none ∧ (desk.attend turn).2.store.ledger = desk.store.ledger) ∨
        ∃ (before : Desk) (command : Command) (outcome : Outcome),
          before.store = desk.store ∧ turn.command? = some command ∧
          (desk.attend turn).1 = some outcome ∧
          (∀ request, command = .book request →
            turn.drawn? = some (.ofNat (before.issued + 1))) ∧
          before.Alters command outcome (desk.attend turn).2.store.ledger) := by
  cases turn with
  | send message circumstances =>
      have ready := healthy.under circumstances
      cases gives : message.command? with
      | none =>
          rw [Desk.attend, (desk.under circumstances).answer_of_none gives]
          exact ⟨ready, Or.inl ⟨gives, rfl⟩⟩
      | some command =>
          obtain ⟨still, alters⟩ := ready.carryOut command
          rw [Desk.attend, (desk.under circumstances).answer_of_command gives]
          refine ⟨still, Or.inr ⟨desk.under circumstances, command, _, rfl, gives, rfl, ?_, alters⟩⟩
          rintro request rfl
          simp only [Turn.drawn?, gives]
          rfl
  | compact threshold =>
      obtain ⟨events, recorded⟩ := healthy.recorded
      rcases recorded.compactIfNeeded threshold with skipped | ⟨next, compacted, kept, rebuilt⟩
      · rw [Desk.attend, skipped]
        exact ⟨healthy, Or.inl ⟨rfl, rfl⟩⟩
      · rw [Desk.attend, compacted]
        exact ⟨⟨healthy.calm, _, rebuilt⟩, Or.inl ⟨rfl, kept⟩⟩

variable {turn : Turn} {turns : List Turn}

theorem attend_keeps
    (healthy : desk.Healthy) {r : Reservation} (spared : turn.command? ≠ some (.remove r.id))
    (held : r ∈ (desk.store.ledger.book r.resource).toList) :
    r ∈ ((desk.attend turn).2.store.ledger.book r.resource).toList := by
  rcases (healthy.attend turn).2 with
    ⟨_, unchanged⟩ | ⟨before, command, outcome, store, gives, _, _, alters⟩
  · rw [unchanged]
    exact held
  · rw [gives, ne_eq, Option.some.injEq] at spared
    rw [← store] at held
    have sound : before.store.ledger.Sound := by
      rw [store]
      exact healthy.sound
    exact alters.keeps sound spared held

theorem attend_keepsAway
    (healthy : desk.Healthy) {id : Ulid} (undrawn : turn.drawn? ≠ some id)
    (away : desk.store.ledger.homeOf? id = none) :
    (desk.attend turn).2.store.ledger.homeOf? id = none := by
  rcases (healthy.attend turn).2 with
    ⟨_, unchanged⟩ | ⟨before, command, outcome, store, _, _, drawn, alters⟩
  · rw [unchanged]
    exact away
  · rw [← store] at away
    refine alters.keepsAway (fun request books same => undrawn ?_) away
    rw [drawn request books, same]

theorem attend_takesAway
    (healthy : desk.Healthy) {id : Ulid} (removes : turn.command? = some (.remove id)) :
    (desk.attend turn).2.store.ledger.homeOf? id = none := by
  rcases (healthy.attend turn).2 with
    ⟨idle, _⟩ | ⟨before, command, outcome, _, gives, _, _, alters⟩
  · rw [removes] at idle
    cases idle
  · rw [removes] at gives
    cases gives
    exact alters.takesAway

/-! ### Sessions -/

theorem after (healthy : desk.Healthy) (turns : List Turn) : (desk.after turns).Healthy := by
  induction turns generalizing desk with
  | nil => exact healthy
  | cons turn turns inductionHypothesis => exact inductionHypothesis (healthy.attend turn).1

theorem after_keeps
    (healthy : desk.Healthy) {r : Reservation}
    (spared : ∀ turn ∈ turns, turn.command? ≠ some (.remove r.id))
    (held : r ∈ (desk.store.ledger.book r.resource).toList) :
    r ∈ ((desk.after turns).store.ledger.book r.resource).toList := by
  induction turns generalizing desk with
  | nil => exact held
  | cons turn turns inductionHypothesis =>
      rw [List.forall_mem_cons] at spared
      exact inductionHypothesis (healthy.attend turn).1 spared.2
        (healthy.attend_keeps spared.1 held)

theorem after_keepsAway
    (healthy : desk.Healthy) {id : Ulid} (undrawn : ∀ turn ∈ turns, turn.drawn? ≠ some id)
    (away : desk.store.ledger.homeOf? id = none) :
    (desk.after turns).store.ledger.homeOf? id = none := by
  induction turns generalizing desk with
  | nil => exact away
  | cons turn turns inductionHypothesis =>
      rw [List.forall_mem_cons] at undrawn
      exact inductionHypothesis (healthy.attend turn).1 undrawn.2
        (healthy.attend_keepsAway undrawn.1 away)

/-- What is removed in a turn is away until its identifier is given out again. -/
theorem after_takesAway
    (healthy : desk.Healthy) {id : Ulid} (removes : turn.command? = some (.remove id))
    (undrawn : ∀ turn ∈ turns, turn.drawn? ≠ some id) :
    (desk.after (turn :: turns)).store.ledger.homeOf? id = none :=
  (healthy.attend turn).1.after_keepsAway undrawn (healthy.attend_takesAway removes)

end Healthy

/-! ### What a client is told -/

/-- What is told about a reservation that is there once or not at all: by its identifier, in
the list of all reservations, in the list of its resource and on its removal. -/
structure Shows (desk : Desk) (r : Reservation) (copies : Nat) : Prop where
  found : ∀ manner : Manner, (desk.answer (manner.finding r.id.toText)).1 =
    some (.rows (List.replicate copies r.row))
  listed : ∀ manner : Manner, ∃ rows,
    (desk.answer manner.listingAll).1 = some (.rows rows) ∧ rows.count r.row = copies
  shelved : ∀ manner : Manner, ∃ rows,
    (desk.answer (manner.listing r.resource.toText)).1 = some (.rows rows) ∧
      rows.count r.row = copies
  removable : ∀ manner : Manner, (desk.answer (manner.removal r.id.toText)).1 =
    some (.removed copies)

end Desk

/-- The first column tells rows apart. -/
theorem Reservation.id_eq_of_row_eq {left right : Reservation} (same : left.row = right.row) :
    left.id = right.id :=
  Ulid.toText_inj (List.cons.inj same).1

/-- A reservation is in a list without repeated identifiers as often as its row is among
the rows. -/
theorem Reservation.count_row_of_mem
    {entries : List Reservation} (nodup : (entries.map Reservation.id).Nodup)
    {r : Reservation} (member : r ∈ entries) :
    (entries.map Reservation.row).count r.row = 1 := by
  refine List.count_eq_one_of_mem ?_ (List.mem_map_of_mem member)
  rw [List.Nodup, List.pairwise_map] at nodup ⊢
  exact nodup.imp fun different same => different (id_eq_of_row_eq same)

theorem Reservation.count_row_of_not_mem
    {entries : List Reservation} {r : Reservation} (away : ∀ s ∈ entries, s.id ≠ r.id) :
    (entries.map Reservation.row).count r.row = 0 := by
  rw [List.count_eq_zero, List.mem_map]
  rintro ⟨s, member, same⟩
  exact away s member (id_eq_of_row_eq same)

namespace Desk

namespace Healthy

variable {desk : Desk}

/-- Answers to the four questions, as the ledger gives them. -/
theorem answer_finding (healthy : desk.Healthy) (manner : Manner) (id : Ulid) :
    (desk.answer (manner.finding id.toText)).1 =
      some (.rows ((desk.store.ledger.get? id).toList.map Reservation.row)) := by
  rw [desk.answer_of_command (manner.command?_finding id)]
  simp only [Desk.carryOut, get, call, healthy.calm]
  cases desk.store.ledger.get? id <;> rfl

theorem answer_listing (healthy : desk.Healthy)
    {message : Message} {resource? : Option Ulid} (gives : message.command? = some (.list resource?)) :
    (desk.answer message).1 =
      some (.rows ((desk.store.ledger.list resource?).map Reservation.row)) := by
  rw [desk.answer_of_command gives]
  simp only [Desk.carryOut, list, call, healthy.calm]

theorem answer_removal (healthy : desk.Healthy) (manner : Manner) (id : Ulid) :
    (desk.answer (manner.removal id.toText)).1 =
      some (.removed (if (desk.store.ledger.homeOf? id).isSome then 1 else 0)) := by
  rw [desk.answer_of_command (manner.command?_removal id)]
  obtain ⟨_, alters⟩ := healthy.carryOut_remove id
  generalize (desk.carryOut (.remove id)).1 = outcome at alters
  cases alters with
  | nothing _ _ away =>
      obtain ⟨home, rfl⟩ := away id rfl
      rw [home]
      rfl
  | removed home _ =>
      rw [home]
      rfl

theorem shows_of_held
    (healthy : desk.Healthy) {r : Reservation}
    (held : r ∈ (desk.store.ledger.book r.resource).toList) : desk.Shows r 1 := by
  have sound := healthy.sound
  have there := (sound.get?_eq_some_iff r.id r).mpr ⟨held, rfl⟩
  have home := (sound.owned r.resource r held).2
  constructor
  case found =>
    intro manner
    rw [healthy.answer_finding, there]
    rfl
  case listed =>
    intro manner
    refine ⟨_, healthy.answer_listing manner.command?_listingAll, ?_⟩
    exact Reservation.count_row_of_mem sound.nodup_ids ((sound.mem_list_none_iff r).mpr held)
  case shelved =>
    intro manner
    refine ⟨_, healthy.answer_listing (manner.command?_listing r.resource), ?_⟩
    rw [Ledger.list_some]
    exact Reservation.count_row_of_mem (List.pairwise_map.mpr (sound.distinct r.resource)) held
  case removable =>
    intro manner
    rw [healthy.answer_removal, home]
    rfl

theorem shows_of_away
    (healthy : desk.Healthy) {r : Reservation}
    (away : desk.store.ledger.homeOf? r.id = none) : desk.Shows r 0 := by
  have sound := healthy.sound
  have elsewhere : ∀ resource, ∀ s ∈ (desk.store.ledger.book resource).toList, s.id ≠ r.id := by
    intro resource s member same
    have home := (sound.owned resource s member).2
    rw [same, away] at home
    cases home
  have nowhere : desk.store.ledger.get? r.id = none := by
    rw [Ledger.get?, away]
    rfl
  constructor
  case found =>
    intro manner
    rw [healthy.answer_finding, nowhere]
    rfl
  case listed =>
    intro manner
    refine ⟨_, healthy.answer_listing manner.command?_listingAll, ?_⟩
    exact Reservation.count_row_of_not_mem fun s member =>
      elsewhere s.resource s ((sound.mem_list_none_iff s).mp member)
  case shelved =>
    intro manner
    refine ⟨_, healthy.answer_listing (manner.command?_listing r.resource), ?_⟩
    rw [Ledger.list_some]
    exact Reservation.count_row_of_not_mem (elsewhere r.resource)
  case removable =>
    intro manner
    rw [healthy.answer_removal, away]
    rfl

/-- A booking that brings rows brings the row of a reservation that is held from then on. -/
theorem attend_books
    (healthy : desk.Healthy) {turn : Turn} {request : Request} {rows : List (List String)}
    (books : turn.command? = some (.book request))
    (answered : (desk.attend turn).1 = some (.rows rows)) :
    ∃ r : Reservation, rows = [r.row] ∧
      r ∈ ((desk.attend turn).2.store.ledger.book r.resource).toList := by
  rcases (healthy.attend turn).2 with
    ⟨idle, _⟩ | ⟨before, command, outcome, _, gives, told, _, alters⟩
  · rw [books] at idle
    cases idle
  · rw [books] at gives
    rw [answered] at told
    cases gives
    cases told
    exact alters.holds

end Healthy

/-- Whatever a store has been through, the row of a booking stands for its reservation for
the rest of the session: it is told about once until it is removed, and then not at all,
until its identifier is given out again. -/
theorem shows_of_serve
    {directory : Log.Directory} (blank : Store.Blank directory)
    {operations : List Store.Operation}
    (addressable : ∀ operation ∈ operations, operation.Writes Event.Addressable)
    {replies : List Store.Answer} {desk : Desk}
    (served : Store.serve directory operations = .ok (replies, desk.store))
    (calm : desk.outage = none)
    {before : List Turn} {booking : Turn} {request : Request} {rows : List (List String)}
    (books : booking.command? = some (.book request))
    (answered : ((desk.after before).attend booking).1 = some (.rows rows)) :
    ∃ r : Reservation, rows = [r.row] ∧
      (∀ later : List Turn, (∀ turn ∈ later, turn.command? ≠ some (.remove r.id)) →
        (desk.after (before ++ booking :: later)).Shows r 1) ∧
      ∀ (later : List Turn) (removal : Turn) (rest : List Turn),
        removal.command? = some (.remove r.id) →
        (∀ turn ∈ rest, turn.drawn? ≠ some r.id) →
        (desk.after (before ++ booking :: (later ++ removal :: rest))).Shows r 0 := by
  obtain ⟨_, store, events, through, recorded, _⟩ :=
    Store.serve_recorded Store.loggable_addressable blank addressable
  rw [served] at through
  have same : desk.store = store := (Prod.mk.inj (Except.ok.inj through)).2
  rw [← same] at recorded
  have healthy : desk.Healthy := ⟨calm, events, recorded⟩
  have ready := healthy.after before
  have booked := (ready.attend booking).1
  have split : ∀ later, desk.after (before ++ booking :: later) =
      ((desk.after before).attend booking).2.after later := fun later =>
    desk.after_append before (booking :: later)
  obtain ⟨r, row, held⟩ := ready.attend_books books answered
  refine ⟨r, row, fun later spared => ?_, fun later removal rest removes undrawn => ?_⟩
  · rw [split]
    exact (booked.after later).shows_of_held (booked.after_keeps spared held)
  · have midway := booked.after later
    rw [split, after_append]
    exact (midway.after (removal :: rest)).shows_of_away (midway.after_takesAway removes undrawn)

/-- The first booking at a desk. -/
theorem shows_of_serve_first :
    let desk : Desk := { store := ⟨Ledger.empty, ⟨⟨{}, .empty⟩, 0, .absent⟩⟩, now := 0 }
    let circumstances : Circumstances :=
      ⟨1748736000000, { otherwise := .description ⟨none, true, none⟩ }, 0⟩
    let message : Message := .prepared Command.bookingText
      ([some (Ulid.ofNat 7).toText, some "Ada", some "ada@example.org",
        some (integerText 1748772000000), some (integerText 1748775600000)].map .ofText?)
    let booking : Turn := .send message circumstances
    let row := [(Ulid.ofNat 1).toText, (Ulid.ofNat 7).toText, "Ada", "ada@example.org",
      integerText 1748772000000, integerText 1748775600000, "PENDING", integerText 1748736000000]
    Store.serve {} [] = .ok ([], desk.store) ∧
      (desk.attend booking).1 = some (.rows [row]) ∧
      ∃ r : Reservation, [row] = [r.row] ∧
        (∀ later : List Turn, (∀ turn ∈ later, turn.command? ≠ some (.remove r.id)) →
          (desk.after ([] ++ booking :: later)).Shows r 1) ∧
        ∀ (later : List Turn) (removal : Turn) (rest : List Turn),
          removal.command? = some (.remove r.id) →
          (∀ turn ∈ rest, turn.drawn? ≠ some r.id) →
          (desk.after ([] ++ booking :: (later ++ removal :: rest))).Shows r 0 := by
  intro desk circumstances message booking row
  let request : Request :=
    ⟨.ofNat 7, ⟨"Ada", "ada@example.org"⟩, some 1748772000000, some 1748775600000⟩
  have gives : message.command? = some (.book request) := by
    have read := Command.ofText_booking (Ulid.ofNat 7).toText (some "Ada")
      (some "ada@example.org") (some 1748772000000) (some 1748775600000)
    simp only [Command.idOfText_toText, Option.map_some] at read
    simp only [message, Message.command?, read]
    rfl
  have told : ((desk.under circumstances).carryOut (.book request)).1 = .rows [row] := by
    decide +kernel
  have answered : ((desk.after []).attend booking).1 = some (.rows [row]) := by
    have given := (desk.under circumstances).answer_of_command gives
    exact (congrArg Prod.fst given).trans (congrArg some told)
  have blank : Store.Blank {} := Or.inl rfl
  have served : Store.serve {} [] = .ok ([], desk.store) := rfl
  exact ⟨served, answered,
    shows_of_serve blank (fun _ member => absurd member List.not_mem_nil) served rfl gives
      answered⟩

end Desk

end Reservations
