import Reservations.Proofs.Ledger.Views
import Reservations.Proofs.Request
import Reservations.Proofs.Store.Refused

namespace Reservations

/-! ## What comes of adding and removing

A reservation that is to be added gets exactly one answer, which can be told from the lists
alone. Removing it again leaves no trace of it. -/

/-- A span that a reservation may have. -/
structure Span.WellFormed (span : Span) : Prop where
  ordered : span.start.toInt < span.stop.toInt
  early : 946684800000 ≤ span.start.toInt
  late : span.stop.toInt ≤ 4102444800000
  short : span.stop.toInt - span.start.toInt ≤ 2678400000

/-- What may be wrong with a span, in the order in which it is looked at. -/
def Span.checks (span : Span) : List (Bool × Flaw) :=
  [(span.stop.toInt ≤ span.start.toInt, .emptySpan),
    (span.start.toInt < 946684800000 || 4102444800000 < span.stop.toInt, .outOfRange),
    (2678400000 < span.stop.toInt - span.start.toInt, .tooLong)]

theorem Span.flaw?_eq_firstOf (span : Span) : span.flaw? = Request.firstOf span.checks := by
  simp only [checks, Request.firstOf, decide_eq_true_eq, Bool.or_eq_true]
  by_cases empty : span.stop ≤ span.start
  · rw [flaw?, if_pos empty, if_pos (Int64.le_iff_toInt_le.mp empty)]
  · have ordered : span.start < span.stop := Int64.not_le.mp empty
    rw [flaw?_of_lt ordered, if_neg (mt Int64.le_iff_toInt_le.mpr empty)]

theorem Span.wellFormed_iff (span : Span) : span.WellFormed ↔ span.flaw? = none := by
  rw [flaw?_eq_firstOf]
  simp only [checks, Request.firstOf, decide_eq_true_eq, Bool.or_eq_true]
  constructor
  · rintro ⟨ordered, early, late, short⟩
    rw [if_neg (by omega), if_neg (by omega), if_neg (by omega)]
  · intro clear
    split at clear
    · cases clear
    · split at clear
      · cases clear
      · split at clear
        · cases clear
        · constructor <;> omega

namespace Ledger

/-- Some reservation has the identifier. -/
def Live (ledger : Ledger) (id : Ulid) : Prop :=
  ∃ r ∈ ledger.list none, r.id = id

/-- How a ledger answers to a reservation. The first thing that is wrong with it decides. -/
inductive Verdict (ledger : Ledger) (reservation : Reservation) :
    Except Refusal Reservation → Prop
  | misshapen {flaw : Flaw} (bad : ¬ reservation.span.WellFormed)
      (first : Request.firstOf reservation.span.checks = some flaw) :
      Verdict ledger reservation (.error (.invalid flaw))
  | known (good : reservation.span.WellFormed) (live : ledger.Live reservation.id) :
      Verdict ledger reservation (.error (.alreadyExists reservation.id))
  | full (good : reservation.span.WellFormed) (fresh : ¬ ledger.Live reservation.id)
      (full : 100000 ≤ (ledger.list (some reservation.resource)).length) :
      Verdict ledger reservation (.error (.invalid .bookFull))
  | taken {first : Reservation} (good : reservation.span.WellFormed)
      (fresh : ¬ ledger.Live reservation.id)
      (room : (ledger.list (some reservation.resource)).length < 100000)
      (active : reservation.status ≠ .cancelled)
      (inTheWay : ledger.InTheWay reservation.resource reservation.span first)
      (earliest : ∀ other, ledger.InTheWay reservation.resource reservation.span other →
        other = first ∨ first.span.start < other.span.start)
      (named : ledger.findOverlap? reservation.resource reservation.span = some first.id) :
      Verdict ledger reservation (.error (.conflict first.id))
  | free (good : reservation.span.WellFormed) (fresh : ¬ ledger.Live reservation.id)
      (room : (ledger.list (some reservation.resource)).length < 100000)
      (clear : reservation.status ≠ .cancelled →
        ∀ other, ¬ ledger.InTheWay reservation.resource reservation.span other) :
      Verdict ledger reservation (.ok reservation)

/-- A ledger has one more reservation than before, and nothing else is different. -/
structure Adds (ledger next : Ledger) (reservation : Reservation) : Prop where
  place : ∃ front back,
    ledger.list (some reservation.resource) = front ++ back ∧
      next.list (some reservation.resource) = front ++ reservation :: back
  others : ∀ resource, resource ≠ reservation.resource →
    next.list (some resource) = ledger.list (some resource)
  whole : (next.list none).Perm (reservation :: ledger.list none)
  found : ∀ id, next.get? id = if id = reservation.id then some reservation else ledger.get? id
  home : ∀ id,
    next.homeOf? id = if id = reservation.id then some reservation.resource
      else ledger.homeOf? id
  overlaps : ∀ resource, resource ≠ reservation.resource → ∀ span,
    next.findOverlap? resource span = ledger.findOverlap? resource span
  count : next.count = ledger.count + 1

namespace Sound

variable {ledger : Ledger} (sound : ledger.Sound) {reservation : Reservation}

theorem size_eq (ledger : Ledger) (resource : Ulid) :
    (ledger.book resource).size = (ledger.list (some resource)).length := by
  rw [list_some, Book.length_toList]

include sound

theorem live_iff (id : Ulid) : ledger.Live id ↔ ∃ resource, ledger.homeOf? id = some resource := by
  rw [← Option.isSome_iff_exists, sound.homeOf?_eq_find?, Option.isSome_map, List.find?_isSome,
    Live]
  simp only [decide_eq_true_eq]

theorem not_live_iff (id : Ulid) : ¬ ledger.Live id ↔ ledger.homeOf? id = none := by
  rw [sound.live_iff, ← Option.isSome_iff_exists, Option.not_isSome_iff_eq_none]

/-- The answer that the checks of the store come to. -/
theorem verdict_refusal? (reservation : Reservation) :
    ledger.Verdict reservation <|
      match ledger.refusal? reservation with
      | some refusal => .error refusal
      | none => .ok reservation := by
  cases flaw : reservation.span.flaw? with
  | some flaw =>
      simp only [refusal?, flaw]
      refine .misshapen ?_ ?_
      · rw [Span.wellFormed_iff, flaw]
        exact Option.some_ne_none _
      · rw [← Span.flaw?_eq_firstOf, flaw]
  | none =>
      have good := (Span.wellFormed_iff _).mpr flaw
      cases home : ledger.homeOf? reservation.id with
      | some resource =>
          simp only [refusal?, flaw, home, Option.isSome_some, if_true]
          exact .known good ((sound.live_iff _).mpr ⟨resource, home⟩)
      | none =>
          have fresh := (sound.not_live_iff _).mpr home
          by_cases full : Limits.bookSize ≤ (ledger.book reservation.resource).size
          · simp only [refusal?, flaw, home, full, Option.isSome_none, if_true, if_false,
              Bool.false_eq_true]
            rw [size_eq] at full
            exact .full good fresh full
          · have room := Nat.not_le.mp full
            rw [refusal?_of_passed flaw home room]
            rw [size_eq] at room
            by_cases active : reservation.status.isActive = true
            · rw [if_pos active]
              cases found :
                  (ledger.book reservation.resource).firstBlocking reservation.span with
              | none =>
                  exact .free good fresh room fun _ =>
                    (sound.firstBlocking_eq_none_iff _ _).mp found
              | some first =>
                  obtain ⟨inTheWay, earliest⟩ := (sound.firstBlocking_eq_some_iff _ _ _).mp found
                  refine .taken good fresh room ((Status.isActive_iff _).mp active) inTheWay ?_ ?_
                  · intro other otherInTheWay
                    by_cases together : first.span.start = other.span.start
                    · exact Or.inl (sound.eq_of_inTheWay otherInTheWay inTheWay together.symm)
                    · exact Or.inr (Int64.lt_of_le_of_ne (earliest other otherInTheWay) together)
                  · rw [findOverlap?_eq, found, Option.map_some]
            · rw [if_neg active]
              exact .free good fresh room fun standing =>
                absurd ((Status.isActive_iff _).mpr standing) active

theorem refusal?_of_verdict
    {answer : Except Refusal Reservation} (verdict : ledger.Verdict reservation answer) :
    answer =
      match ledger.refusal? reservation with
      | some refusal => .error refusal
      | none => .ok reservation := by
  cases verdict with
  | misshapen bad first =>
      rw [← Span.flaw?_eq_firstOf] at first
      simp only [refusal?, first]
  | known good live =>
      obtain ⟨resource, home⟩ := (sound.live_iff _).mp live
      rw [Span.wellFormed_iff] at good
      simp only [refusal?, good, home, Option.isSome_some, if_true]
  | full good fresh full =>
      rw [Span.wellFormed_iff] at good
      rw [sound.not_live_iff] at fresh
      rw [← size_eq] at full
      simp only [refusal?, good, fresh, Limits.bookSize, full, Option.isSome_none, if_true,
        if_false, Bool.false_eq_true]
  | @taken first good fresh room active inTheWay earliest named =>
      have found : (ledger.book reservation.resource).firstBlocking reservation.span =
          some first := by
        rw [sound.firstBlocking_eq_some_iff]
        refine ⟨inTheWay, fun other otherInTheWay => ?_⟩
        rcases earliest other otherInTheWay with rfl | later
        · exact Int64.le_refl _
        · exact Int64.le_of_lt later
      rw [← size_eq] at room
      rw [refusal?_of_passed ((Span.wellFormed_iff _).mp good) ((sound.not_live_iff _).mp fresh)
        room, if_pos ((Status.isActive_iff _).mpr active), found, Option.map_some]
  | free good fresh room clear =>
      rw [← size_eq] at room
      rw [refusal?_of_passed ((Span.wellFormed_iff _).mp good) ((sound.not_live_iff _).mp fresh)
        room]
      by_cases active : reservation.status.isActive = true
      · have found :=
          (sound.firstBlocking_eq_none_iff _ _).mpr (clear ((Status.isActive_iff _).mp active))
        rw [if_pos active, found, Option.map_none]
      · rw [if_neg active]

theorem verdict_iff (reservation : Reservation) (answer : Except Refusal Reservation) :
    ledger.Verdict reservation answer ↔
      answer =
        match ledger.refusal? reservation with
        | some refusal => .error refusal
        | none => .ok reservation := by
  constructor
  · exact sound.refusal?_of_verdict
  · rintro rfl
    exact sound.verdict_refusal? reservation

/-! ### Added and removed -/

section Added

variable (admits : ledger.Admits reservation) {next : Ledger}
  (same : next.Same (ledger.apply (.created reservation)))

include admits same

theorem list_none_of_same : (next.list none).Perm (reservation :: ledger.list none) := by
  have nextSound := same.sound (sound.apply_created admits)
  have absent : reservation ∉ ledger.list none := by
    intro listed
    exact (sound.not_live_iff _).mpr admits.fresh ⟨reservation, listed, rfl⟩
  have nodup : (reservation :: ledger.list none).Nodup :=
    List.nodup_cons.mpr ⟨absent, sound.viewsAgree.distinct⟩
  rw [List.perm_ext_iff_of_nodup nextSound.viewsAgree.distinct nodup]
  intro r
  rw [List.mem_cons, nextSound.mem_list_none_iff, sound.mem_list_none_iff, same.books,
    book_apply_created]
  split
  · exact Book.mem_toList_insert _ _ _
  · rename_i elsewhere
    have different : r ≠ reservation := by
      rintro rfl
      exact elsewhere rfl
    exact (or_iff_right different).symm

theorem get?_of_same (id : Ulid) :
    next.get? id = if id = reservation.id then some reservation else ledger.get? id := by
  have nextSound := same.sound (sound.apply_created admits)
  have whole := sound.list_none_of_same admits same
  apply Option.ext
  intro r
  rw [nextSound.viewsAgree.found, whole.mem_iff, List.mem_cons]
  by_cases here : id = reservation.id
  · subst here
    rw [if_pos rfl, Option.some.injEq]
    constructor
    · rintro ⟨rfl | listed, sameId⟩
      · rfl
      · exact absurd ⟨r, listed, sameId⟩ ((sound.not_live_iff _).mpr admits.fresh)
    · rintro rfl
      exact ⟨Or.inl rfl, rfl⟩
  · rw [if_neg here, sound.viewsAgree.found]
    refine and_congr_left fun sameId => or_iff_right ?_
    rintro rfl
    exact here sameId.symm

theorem adds_of_same : ledger.Adds next reservation := by
  have nextSound := same.sound (sound.apply_created admits)
  have whole := sound.list_none_of_same admits same
  have book : ∀ resource, next.list (some resource) =
      if reservation.resource = resource then
        ((ledger.book resource).insert reservation).toList
      else ledger.list (some resource) := by
    intro resource
    rw [list_some, list_some, same.books, book_apply_created]
    split <;> rfl
  constructor
  case place =>
    have inserted := Book.toList_insert_split (ledger.book reservation.resource) reservation
    refine ⟨_, _, ?_, (book _).trans ((if_pos rfl).trans inserted)⟩
    rw [list_some, List.take_append_drop]
  case others =>
    intro resource different
    rw [book, if_neg (Ne.symm different)]
  case whole => exact whole
  case found => exact sound.get?_of_same admits same
  case home =>
    intro id
    rw [same.homes, homeOf?_apply_created]
    simp only [eq_comm]
  case overlaps =>
    intro resource different span
    rw [findOverlap?_eq, findOverlap?_eq, same.books, book_apply_created,
      if_neg (Ne.symm different)]
  case count =>
    rw [nextSound.count_eq_length, sound.count_eq_length, whole.length_eq, List.length_cons]

end Added

theorem same_apply_deleted_created (admits : ledger.Admits reservation) :
    ((ledger.apply (.created reservation)).apply
      (.deleted reservation.id reservation.resource)).Same ledger := by
  constructor
  · intro id
    rw [homeOf?_apply_deleted, homeOf?_apply_created]
    by_cases here : reservation.id = id
    · rw [if_pos here, ← here, admits.fresh]
    · rw [if_neg here, if_neg here]
  · intro resource
    rw [book_apply_deleted, book_apply_created]
    by_cases here : reservation.resource = resource
    · have fresh : ∀ r ∈ (ledger.book resource).toList, r.id ≠ reservation.id := by
        intro r member same
        have home := (sound.owned resource r member).2
        rw [same, admits.fresh] at home
        cases home
      rw [if_pos here, if_pos here, Book.erase_insert fresh]
    · rw [if_neg here, if_neg here]

/-- What was in the way of a reservation on its own makes room for it by being removed. -/
theorem admits_of_removed
    {removed resource : Ulid} (home : ledger.homeOf? removed = some resource)
    (valid : reservation.span.flaw? = none) (fresh : ledger.homeOf? reservation.id = none)
    (room : (ledger.book reservation.resource).size < Limits.bookSize)
    (alone : ∀ other, ledger.InTheWay reservation.resource reservation.span other →
      other.id = removed) :
    (ledger.apply (.deleted removed resource)).Admits reservation := by
  have fewer : ((ledger.apply (.deleted removed resource)).book reservation.resource).toList.Sublist
      (ledger.book reservation.resource).toList := by
    rw [book_apply_deleted]
    split
    · rw [Book.toList_erase]
      exact List.eraseP_sublist
    · exact List.Sublist.refl _
  have after := sound.apply_deleted home
  constructor
  case valid => exact valid
  case fresh =>
    rw [homeOf?_apply_deleted, fresh]
    exact ite_self _
  case room =>
    have shorter := fewer.length_le
    rw [Book.length_toList, Book.length_toList] at shorter
    exact Nat.lt_of_le_of_lt shorter room
  case free =>
    intro r member active otherActive
    by_contra overlaps
    rw [Bool.not_eq_false, Span.overlaps_comm] at overlaps
    have inTheWay : ledger.InTheWay reservation.resource reservation.span r :=
      (inTheWay_iff _ _ _ _).mpr ⟨fewer.subset member, (Reservation.blocks_iff _ _).mpr
        ⟨otherActive, overlaps⟩⟩
    -- It would be the one that was removed, which has no home any more.
    have away := (after.owned _ r member).2
    rw [homeOf?_apply_deleted, if_pos (alone r inTheWay).symm] at away
    cases away

end Sound

end Ledger

namespace Store

/-- A log of any events can be written to. -/
theorem Recorded.anyKind
    {Kind : Event → Prop} {store : Store} {events : List Event}
    (recorded : store.Recorded Kind events) : store.Recorded (fun _ => True) events :=
  ⟨recorded.roomy, recorded.loose, recorded.written, fun _ _ => trivial, recorded.history⟩

/-- What comes of adding a reservation: the answer is the one that the ledger gives, a refusal
changes nothing, and what was added can be removed without a trace. Where only one reservation
was in the way, it can be removed to make room. -/
structure Inserts (store : Store) (reservation : Reservation)
    (answer : Except Refusal Reservation) (next : Store) : Prop where
  verdict : ∀ other, store.ledger.Verdict reservation other ↔ other = answer
  refused : ∀ refusal, answer = .error refusal → next.ReadsLike store
  added : ∀ stored, answer = .ok stored → store.ledger.Adds next.ledger stored
  undone : ∀ stored, answer = .ok stored →
    ∃ last, next.erase stored.id = (.ok true, last) ∧ last.ReadsLike store
  freed : ∀ id, answer = .error (.conflict id) →
    (∀ other, store.ledger.InTheWay reservation.resource reservation.span other →
      other.id = id) →
    ∃ middle last, next.erase id = (.ok true, middle) ∧
      middle.insert reservation = (.ok reservation, last)

namespace Recorded

variable {Kind : Event → Prop} {store : Store} {events : List Event}

theorem erase_live (recorded : store.Recorded Kind events) (id : Ulid) :
    ∃ live, (store.erase id).1 = .ok live ∧ (live = true ↔ store.ledger.Live id) := by
  have sound := recorded.history.sound
  cases home : store.ledger.homeOf? id with
  | none =>
      refine ⟨false, by rw [erase_of_absent home], ?_⟩
      have dead := (sound.not_live_iff id).mpr home
      exact iff_of_false Bool.false_ne_true dead
  | some resource =>
      obtain ⟨next, erased, _⟩ := recorded.anyKind.erase_of_home trivial home
      exact ⟨true, by rw [erased], iff_of_true rfl ((sound.live_iff id).mpr ⟨resource, home⟩)⟩

theorem inserts_of_refused
    (recorded : store.Recorded Kind events) {reservation : Reservation} {refusal : Refusal}
    (refused : store.ledger.refusal? reservation = some refusal) :
    ∃ next, store.insert reservation = (.error refusal, next) ∧
      store.Inserts reservation (.error refusal) next := by
  have sound := recorded.history.sound
  have verdict := sound.verdict_iff reservation
  simp only [refused] at verdict
  obtain ⟨next, answered, kept, same, _⟩ := recorded.anyKind.insert_of_refused refused
  refine ⟨next, answered, verdict, fun _ _ => readsLike_of_same same, nofun, nofun, ?_⟩
  rintro id ⟨⟩ alone
  -- Only the last check can have refused: all others have passed.
  have taken := (verdict (.error (.conflict id))).mpr rfl
  cases taken with
  | @taken first good fresh room active inTheWay earliest named =>
      have home : store.ledger.homeOf? first.id = some reservation.resource := by
        obtain ⟨member, _⟩ := (Ledger.inTheWay_iff _ _ _ _).mp inTheWay
        exact (sound.owned _ first member).2
      rw [← Ledger.Sound.size_eq] at room
      have roomMade := sound.admits_of_removed home ((Span.wellFormed_iff _).mp good)
        ((sound.not_live_iff _).mp fresh) room alone
      have removedAlike := (same.apply (.deleted first.id reservation.resource)).alike
      have admits := removedAlike.symm.admits roomMade
      rw [← same.homes] at home
      obtain ⟨middle, erased, shrunk, applied⟩ := kept.erase_of_home trivial home
      rw [← applied] at admits
      have accepted := (Ledger.refusal?_eq_none_iff
        (shrunk.history.sound.sorted reservation.resource)).mpr admits
      obtain ⟨last, inserted, _⟩ := shrunk.insert_of_accepted trivial accepted
      exact ⟨middle, last, erased, inserted⟩

theorem inserts_of_accepted
    (recorded : store.Recorded Kind events) {reservation : Reservation}
    (accepted : store.ledger.refusal? reservation = none) :
    ∃ next, store.insert reservation = (.ok reservation, next) ∧
      store.Inserts reservation (.ok reservation) next := by
  have sound := recorded.history.sound
  have verdict := sound.verdict_iff reservation
  simp only [accepted] at verdict
  have admits := (Ledger.refusal?_eq_none_iff (sound.sorted reservation.resource)).mp accepted
  obtain ⟨next, answered, grown, same⟩ := recorded.anyKind.insert_of_accepted trivial accepted
  refine ⟨next, answered, verdict, ?_, ?_, ?_, ?_⟩
  · rintro refusal ⟨⟩
  · rintro stored ⟨⟩
    exact sound.adds_of_same admits same
  · rintro stored ⟨⟩
    have home : next.ledger.homeOf? reservation.id = some reservation.resource := by
      rw [same.homes, Ledger.homeOf?_apply_created, if_pos rfl]
    obtain ⟨last, erased, _, applied⟩ := grown.erase_of_home trivial home
    refine ⟨last, erased, readsLike_of_same ?_⟩
    rw [applied]
    exact (same.apply _).trans (sound.same_apply_deleted_created admits)
  · rintro id ⟨⟩

end Recorded

/-- In every state that a run from no log or an empty one leads to: whatever is to be added gets
the one answer that the lists call for, and can be taken out again without a trace, and
removing succeeds exactly where there is something to remove. -/
theorem inserts_of_serve
    {directory : Log.Directory} (blank : Blank directory)
    {operations : List Operation}
    (addressable : ∀ operation ∈ operations, operation.Writes Event.Addressable) :
    ∃ answers store, serve directory operations = .ok (answers, store) ∧
      (∀ reservation, ∃ answer next, store.insert reservation = (answer, next) ∧
        store.Inserts reservation answer next) ∧
      ∀ id, ∃ live, (store.erase id).1 = .ok live ∧ (live = true ↔ store.ledger.Live id) := by
  obtain ⟨answers, store, events, served, recorded, _⟩ :=
    serve_recorded loggable_addressable blank addressable
  refine ⟨answers, store, served, fun reservation => ?_, recorded.erase_live⟩
  cases decision : store.ledger.refusal? reservation with
  | some refusal => exact ⟨_, recorded.inserts_of_refused decision⟩
  | none => exact ⟨_, recorded.inserts_of_accepted decision⟩

/-- After three reservations, one of them cancelled and one removed, and a compaction. -/
theorem inserts_of_serve_three :
    ∃ answers store,
      serve {} [
          .insert ⟨.ofNat 1, .ofNat 7, ⟨946684800000, 946684860000⟩, .confirmed,
            ⟨"Ada", "ada@example.org"⟩, 0⟩,
          .insert ⟨.ofNat 2, .ofNat 7, ⟨946684800000, 946684890000⟩, .cancelled,
            ⟨"Bob", "bob@example.org"⟩, 0⟩,
          .insert ⟨.ofNat 3, .ofNat 7, ⟨946684860000, 946684890000⟩, .pending,
            ⟨"Cyd", "cyd@example.org"⟩, 0⟩,
          .erase (.ofNat 1), .compact, .reopen] = .ok (answers, store) ∧
      (∀ reservation, ∃ answer next, store.insert reservation = (answer, next) ∧
        store.Inserts reservation answer next) ∧
      ∀ id, ∃ live, (store.erase id).1 = .ok live ∧ (live = true ↔ store.ledger.Live id) := by
  refine inserts_of_serve (Or.inl rfl) ?_
  simp only [List.forall_mem_cons, List.not_mem_nil, false_imp_iff, implies_true,
    Operation.Writes, Event.Addressable, Customer.Addressable]
  decide

end Store

end Reservations
