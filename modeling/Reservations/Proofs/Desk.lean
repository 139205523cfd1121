import Reservations.Desk
import Reservations.Proofs.Catalog.Snapshot
import Reservations.Proofs.Request
import Reservations.Proofs.Store.Run

namespace Reservations

/-! ## The decision about a booking -/

/-- The period and the span share an instant. -/
def Catalog.Period.Meets (period : Catalog.Period) (span : Span) : Prop :=
  period.start.epochMilli < span.stop.toInt ∧ span.start.toInt < period.stop.epochMilli

theorem Catalog.Period.overlaps_toSpan_iff (period : Catalog.Period) (span : Span) :
    period.toSpan.overlaps span = true ↔ period.Meets span := by
  rw [Span.overlaps_iff, Int64.lt_iff_toInt_lt, Int64.lt_iff_toInt_lt, toSpan,
    Calendar.DateTime.toInt_ofInt_epochMilli, Calendar.DateTime.toInt_ofInt_epochMilli, Meets]

/-- The first window in the way is that of the first period in the way. -/
theorem Catalog.firstIntersecting_eq_some_iff
    (periods : List Catalog.Period) (span window : Span) :
    firstIntersecting (periods.map Catalog.Period.toSpan) span = some window ↔
      ∃ front period back, periods = front ++ period :: back ∧
        (∀ earlier ∈ front, ¬ earlier.Meets span) ∧ period.Meets span ∧
          window = period.toSpan := by
  rw [firstIntersecting, List.find?_map, Option.map_eq_some_iff]
  constructor
  · rintro ⟨period, found, rfl⟩
    obtain ⟨overlaps, front, back, split, passed⟩ := List.find?_eq_some_iff_append.mp found
    refine ⟨front, period, back, split, ?_, (period.overlaps_toSpan_iff span).mp overlaps, rfl⟩
    intro earlier member meets
    have overlap := (earlier.overlaps_toSpan_iff span).mpr meets
    have clear := passed earlier member
    simp [overlap] at clear
  · rintro ⟨front, period, back, split, passed, meets, rfl⟩
    refine ⟨period, List.find?_eq_some_iff_append.mpr ⟨?_, front, back, split, ?_⟩, rfl⟩
    · exact (period.overlaps_toSpan_iff span).mpr meets
    · intro earlier member
      have clear := mt (earlier.overlaps_toSpan_iff span).mp (passed earlier member)
      simpa using clear

namespace Desk

/-- The checks of a booking. -/
inductive Stage where
  | request
  | conflict
  | lookup
  | inactive
  | window
  | room
  deriving DecidableEq

/-- The place of a check in their order. -/
def Stage.place : Stage → Nat
  | request => 0
  | conflict => 1
  | lookup => 2
  | inactive => 3
  | window => 4
  | room => 5

/-- What a check has against a request. -/
inductive Objects (desk : Desk) (request : Request) : Stage → Refusal → Prop
  | request (flaw : Flaw) :
      request.firstFlaw? desk.now = some flaw →
      Objects desk request .request (.invalid flaw)
  | conflict (r : Reservation) :
      desk.store.ledger.InTheWay request.resource request.bounds r →
      (∀ other, desk.store.ledger.InTheWay request.resource request.bounds other →
        r.span.start ≤ other.span.start) →
      Objects desk request .conflict (.conflict r.id)
  | lookup (cause : Catalog.LookupFailure) :
      Catalog.LookupFails (desk.answers.about request.resource) cause →
      Objects desk request .lookup (.unavailable (.lookup cause))
  | inactive (resource : Catalog.Resource) :
      desk.answers.about request.resource = .description resource →
      resource.active = false →
      Objects desk request .inactive (.unavailable .inactive)
  | window (resource : Catalog.Resource) (front back : List Catalog.Period)
      (period : Catalog.Period) :
      desk.answers.about request.resource = .description resource →
      resource.periods.getD [] = front ++ period :: back →
      (∀ earlier ∈ front, ¬ earlier.Meets request.bounds) →
      period.Meets request.bounds →
      Objects desk request .window (.unavailable (.window period.toSpan))
  | room :
      100000 ≤ (desk.store.ledger.list (some request.resource)).length →
      Objects desk request .room (.invalid .bookFull)

/-- A request was decided by the first check that has something against it, and
granted just if none has. The catalog was asked once or not at all, only a
granted request left something in the store, and the duration that was looked at
is the exact one. -/
structure Decided (desk : Desk) (request : Request)
    (result : Except Refusal Reservation) (next : Desk) : Prop where
  refused : ∀ refusal, result = .error refusal ↔
    ∃ stage, desk.Objects request stage refusal ∧
      ∀ earlier other, earlier.place < stage.place → ¬ desk.Objects request earlier other
  granted : ∀ r, result = .ok r ↔
    (∀ stage refusal, ¬ desk.Objects request stage refusal) ∧
      r = ⟨.ofNat (desk.issued + 1), request.resource, request.bounds, .pending,
        request.customer, desk.now⟩
  asked : (∀ refusal, ¬ desk.Objects request .request refusal ∧
      ¬ desk.Objects request .conflict refusal) →
    next.lookups = desk.lookups + 1
  unasked : ∀ refusal, desk.Objects request .request refusal ∨
      desk.Objects request .conflict refusal →
    next.lookups = desk.lookups
  unchanged : ∀ refusal, result = .error refusal →
    next.store.journal = desk.store.journal ∧
      next.store.ledger.Same desk.store.ledger
  stored : ∀ r, result = .ok r →
    next.store.ledger.Same (desk.store.ledger.apply (.created r))
  exact : request.bounds.start < request.bounds.stop →
    Limits.earliest ≤ request.bounds.start →
    request.bounds.duration.toInt =
      request.bounds.stop.toInt - request.bounds.start.toInt

/-! ### The checks as the code makes them -/

/-- What a check has against a request, if it has anything. -/
def objection? (desk : Desk) (request : Request) : Stage → Option Refusal
  | .request => (request.firstFlaw? desk.now).map .invalid
  | .conflict =>
      (desk.store.ledger.findOverlap? request.resource request.bounds).map .conflict
  | .lookup =>
      match (desk.answers.about request.resource).snapshot with
      | .error cause => some (.unavailable (.lookup cause))
      | .ok _ => none
  | .inactive =>
      match desk.answers.about request.resource with
      | .description resource => if resource.active then none else some (.unavailable .inactive)
      | _ => none
  | .window =>
      match desk.answers.about request.resource with
      | .description resource =>
          (firstIntersecting ((resource.periods.getD []).map Catalog.Period.toSpan)
            request.bounds).map fun window => .unavailable (.window window)
      | _ => none
  | .room =>
      if Limits.bookSize ≤ (desk.store.ledger.book request.resource).size then
        some (.invalid .bookFull)
      else none

section Checks

variable {desk : Desk} {request : Request} {refusal : Refusal}

theorem objects_request_iff :
    desk.Objects request .request refusal ↔
      desk.objection? request .request = some refusal := by
  rw [objection?, Option.map_eq_some_iff]
  constructor
  · rintro ⟨flaw, found⟩
    exact ⟨flaw, found, rfl⟩
  · rintro ⟨flaw, found, rfl⟩
    exact .request flaw found

theorem objects_conflict_iff (sound : desk.store.ledger.Sound) :
    desk.Objects request .conflict refusal ↔
      desk.objection? request .conflict = some refusal := by
  rw [objection?, Ledger.findOverlap?_eq, Option.map_map, Option.map_eq_some_iff]
  constructor
  · rintro ⟨⟩
    rename_i r inTheWay earliest
    exact ⟨r, (sound.firstBlocking_eq_some_iff _ _ _).mpr ⟨inTheWay, earliest⟩, rfl⟩
  · rintro ⟨first, found, rfl⟩
    obtain ⟨inTheWay, earliest⟩ := (sound.firstBlocking_eq_some_iff _ _ _).mp found
    exact .conflict first inTheWay earliest

theorem objects_lookup_iff :
    desk.Objects request .lookup refusal ↔
      desk.objection? request .lookup = some refusal := by
  rw [objection?]
  constructor
  · rintro ⟨⟩
    rename_i cause fails
    rw [fails.snapshot_eq]
  · intro objected
    split at objected
    · rename_i cause failed
      obtain rfl := Option.some.inj objected
      exact .lookup cause ((Catalog.Answer.snapshot_eq_error_iff _ _).mp failed)
    · cases objected

theorem objects_inactive_iff :
    desk.Objects request .inactive refusal ↔
      desk.objection? request .inactive = some refusal := by
  rw [objection?]
  constructor
  · rintro ⟨⟩
    rename_i resource described inactive
    simp only [described, inactive, Bool.false_eq_true, if_false]
  · intro objected
    split at objected
    · rename_i resource described
      split at objected
      · cases objected
      · rename_i inactive
        obtain rfl := Option.some.inj objected
        exact .inactive resource described (by simpa using inactive)
    · cases objected

theorem objects_window_iff :
    desk.Objects request .window refusal ↔
      desk.objection? request .window = some refusal := by
  rw [objection?]
  constructor
  · rintro ⟨⟩
    rename_i resource front back period described split earlier meets
    have first :=
      (Catalog.firstIntersecting_eq_some_iff (resource.periods.getD []) request.bounds _).mpr
        ⟨front, period, back, split, earlier, meets, rfl⟩
    simp only [described, first, Option.map_some]
  · intro objected
    split at objected
    · rename_i resource described
      obtain ⟨window, found, rfl⟩ := Option.map_eq_some_iff.mp objected
      obtain ⟨front, period, back, split, earlier, meets, rfl⟩ :=
        (Catalog.firstIntersecting_eq_some_iff _ _ _).mp found
      exact .window resource front back period described split earlier meets
    · cases objected

theorem objects_room_iff :
    desk.Objects request .room refusal ↔
      desk.objection? request .room = some refusal := by
  rw [objection?]
  constructor
  · rintro ⟨⟩
    rename_i full
    rw [Ledger.list_some, Book.length_toList] at full
    exact if_pos full
  · intro objected
    split at objected
    · rename_i full
      obtain rfl := Option.some.inj objected
      refine .room ?_
      rw [Ledger.list_some, Book.length_toList]
      exact full
    · cases objected

theorem objects_iff (sound : desk.store.ledger.Sound) (stage : Stage) :
    desk.Objects request stage refusal ↔ desk.objection? request stage = some refusal := by
  cases stage with
  | request => exact objects_request_iff
  | conflict => exact objects_conflict_iff sound
  | lookup => exact objects_lookup_iff
  | inactive => exact objects_inactive_iff
  | window => exact objects_window_iff
  | room => exact objects_room_iff

theorem not_objects (sound : desk.store.ledger.Sound) {stage : Stage}
    (clear : desk.objection? request stage = none) :
    ¬ desk.Objects request stage refusal := by
  rw [objects_iff sound, clear]
  exact Option.some_ne_none _ ∘ Eq.symm

end Checks

theorem Stage.place_inj {left right : Stage} (same : left.place = right.place) :
    left = right := by
  cases left <;> cases right <;> first | rfl | cases same

namespace Decided

variable {desk next : Desk} {request : Request}

/-- The first check that objects decides. -/
theorem of_refused
    (sound : desk.store.ledger.Sound) {stage : Stage} {refusal : Refusal}
    (objected : desk.objection? request stage = some refusal)
    (first : ∀ earlier : Stage, earlier.place < stage.place →
      desk.objection? request earlier = none)
    (lookups : next.lookups = if stage.place < 2 then desk.lookups else desk.lookups + 1)
    (journal : next.store.journal = desk.store.journal)
    (same : next.store.ledger.Same desk.store.ledger) :
    Decided desk request (.error refusal) next where
  refused other := by
    constructor
    · intro equal
      obtain rfl := Except.error.inj equal
      exact ⟨stage, (objects_iff sound stage).mpr objected,
        fun earlier _ before => not_objects sound (first earlier before)⟩
    · rintro ⟨otherStage, objects, earliest⟩
      rcases Nat.lt_trichotomy otherStage.place stage.place with before | level | behind
      · exact absurd objects (not_objects sound (first otherStage before))
      · obtain rfl := Stage.place_inj level
        rw [objects_iff sound, objected] at objects
        rw [Option.some.inj objects]
      · exact absurd ((objects_iff sound stage).mpr objected) (earliest stage refusal behind)
  granted r := by
    constructor
    · intro impossible
      cases impossible
    · rintro ⟨clear, _⟩
      exact absurd ((objects_iff sound stage).mpr objected) (clear stage refusal)
  asked clear := by
    have late : ¬ stage.place < 2 := by
      intro early
      have objects := (objects_iff sound stage).mpr objected
      cases stage with
      | request => exact (clear refusal).1 objects
      | conflict => exact (clear refusal).2 objects
      | _ => simp [Stage.place] at early
    rw [lookups, if_neg late]
  unasked other objects := by
    have early : stage.place < 2 := by
      by_cases early : stage.place < 2
      · exact early
      · rcases objects with atRequest | atConflict
        · have order : Stage.request.place = 0 := rfl
          have clear := first .request (by omega)
          exact absurd atRequest (not_objects sound clear)
        · have order : Stage.conflict.place = 1 := rfl
          have clear := first .conflict (by omega)
          exact absurd atConflict (not_objects sound clear)
    rw [lookups, if_pos early]
  unchanged _ _ := ⟨journal, same⟩
  stored r impossible := by cases impossible
  exact ordered early := Span.toInt_duration ordered early

/-- Where no check objects, the request is granted. -/
theorem of_granted
    (sound : desk.store.ledger.Sound)
    (clear : ∀ stage, desk.objection? request stage = none)
    (lookups : next.lookups = desk.lookups + 1)
    (stored : next.store.ledger.Same (desk.store.ledger.apply (.created
      (pending request request.bounds (.ofNat (desk.issued + 1)) desk.now)))) :
    Decided desk request
      (.ok (pending request request.bounds (.ofNat (desk.issued + 1)) desk.now)) next where
  refused refusal := by
    constructor
    · intro impossible
      cases impossible
    · rintro ⟨stage, objects, _⟩
      exact absurd objects (not_objects sound (clear stage))
  granted r := by
    constructor
    · intro equal
      exact ⟨fun stage _ => not_objects sound (clear stage), (Except.ok.inj equal).symm⟩
    · rintro ⟨_, rfl⟩
      rfl
  asked _ := lookups
  unasked refusal objects := by
    rcases objects with atRequest | atConflict
    · exact absurd atRequest (not_objects sound (clear .request))
    · exact absurd atConflict (not_objects sound (clear .conflict))
  unchanged refusal impossible := by cases impossible
  stored r equal := by
    obtain rfl := Except.ok.inj equal
    exact stored
  exact ordered early := Span.toInt_duration ordered early

end Decided

/-! ### The decision -/

section Decision

variable {Kind : Event → Prop} {events : List Event} {desk : Desk}

/-- What the other checks have let through the store only refuses for want of
room. -/
theorem refusal?_pending
    {request : Request}
    (unused : desk.store.ledger.homeOf? (.ofNat (desk.issued + 1)) = none)
    (first : ∀ earlier : Stage, earlier.place < 5 → desk.objection? request earlier = none) :
    desk.store.ledger.refusal?
        (pending request request.bounds (.ofNat (desk.issued + 1)) desk.now) =
      desk.objection? request .room := by
  have atRequest : (request.firstFlaw? desk.now).map Refusal.invalid = none :=
    first .request (by decide)
  have atConflict :
      (desk.store.ledger.findOverlap? request.resource request.bounds).map Refusal.conflict =
        none :=
    first .conflict (by decide)
  have valid := Request.flaw?_bounds (Option.map_eq_none_iff.mp atRequest)
  have free :
      (desk.store.ledger.book request.resource).firstBlocking request.bounds = none := by
    rw [Option.map_eq_none_iff, Ledger.findOverlap?_eq, Option.map_eq_none_iff] at atConflict
    exact atConflict
  have room : desk.objection? request .room =
      if Limits.bookSize ≤ (desk.store.ledger.book request.resource).size then
        some (.invalid .bookFull)
      else none := rfl
  simp only [Ledger.refusal?, pending, valid, unused, free, room, Option.isSome_none,
    Bool.false_eq_true, if_false, Option.map_none, ite_self]

theorem decided_place
    (recorded : desk.store.Recorded Kind events) (calm : desk.outage = none)
    (unused : desk.store.ledger.homeOf? (.ofNat (desk.issued + 1)) = none) {request : Request}
    (first : ∀ earlier : Stage, earlier.place < 5 → desk.objection? request earlier = none) :
    Decided desk request
      ({ desk with lookups := desk.lookups + 1 }.place request request.bounds).1
      ({ desk with lookups := desk.lookups + 1 }.place request request.bounds).2 := by
  have sound := recorded.history.sound
  have decision := refusal?_pending unused first
  cases room : desk.objection? request .room with
  | some refusal =>
      rw [room] at decision
      obtain ⟨ledger, same, answered⟩ := Store.insert_of_refused decision
      simp only [place, calm, answered]
      exact .of_refused sound room first rfl rfl same
  | none =>
      rw [room] at decision
      obtain ⟨journal, committed, _⟩ :=
        Log.Journal.commit_of_roomy recorded.roomy recorded.loose
          [.created (pending request request.bounds (.ofNat (desk.issued + 1)) desk.now)]
      obtain ⟨ledger, same, answered⟩ := Store.insert_of_commit decision committed
      simp only [place, calm, answered]
      have clear : ∀ stage, desk.objection? request stage = none := by
        intro stage
        cases stage with
        | room => exact room
        | _ => exact first _ (by decide)
      exact .of_granted sound clear rfl (same.apply (.created
        (pending request request.bounds (.ofNat (desk.issued + 1)) desk.now)))

/-- The catalog is asked about what the first two checks let through. -/
theorem create_of_clear
    {request : Request} (calm : desk.outage = none)
    (flawless : request.firstFlaw? desk.now = none)
    (free : desk.store.ledger.findOverlap? request.resource request.bounds = none) :
    desk.create request =
      match (desk.answers.about request.resource).snapshot with
      | .error cause =>
          (.error (.unavailable (.lookup cause)), { desk with lookups := desk.lookups + 1 })
      | .ok snapshot =>
          match obstacle? snapshot request.bounds with
          | some reason =>
              (.error (.unavailable reason), { desk with lookups := desk.lookups + 1 })
          | none => { desk with lookups := desk.lookups + 1 }.place request request.bounds := by
  simp only [create, Request.span_eq, flawless, call, calm, free, fetch]
  cases (desk.answers.about request.resource).snapshot with
  | error cause => rfl
  | ok snapshot => rfl

/-- A request is refused before anything is changed, or handed on to the store. -/
theorem create_cases (desk : Desk) (request : Request) :
    (∃ refusal next, desk.create request = (.error refusal, next) ∧
      next.store = desk.store ∧ next.outage = desk.outage) ∨
    ∃ snapshot, request.firstFlaw? desk.now = none ∧
      (desk.answers.about request.resource).snapshot = .ok snapshot ∧
      obstacle? snapshot request.bounds = none ∧
      desk.create request =
        { desk with lookups := desk.lookups + 1 }.place request request.bounds := by
  cases flawed : request.firstFlaw? desk.now with
  | some flaw =>
      exact Or.inl ⟨.invalid flaw, desk, by simp only [create, Request.span_eq, flawed], rfl, rfl⟩
  | none =>
      cases called :
          desk.call (desk.store.ledger.findOverlap? request.resource request.bounds) with
      | error refusal =>
          refine Or.inl ⟨refusal, desk, ?_, rfl, rfl⟩
          simp only [create, Request.span_eq, flawed, called]
      | ok taken? =>
          cases taken? with
          | some existing =>
              refine Or.inl ⟨.conflict existing, desk, ?_, rfl, rfl⟩
              simp only [create, Request.span_eq, flawed, called]
          | none =>
              cases looked : (desk.answers.about request.resource).snapshot with
              | error cause =>
                  refine Or.inl ⟨.unavailable (.lookup cause),
                    { desk with lookups := desk.lookups + 1 }, ?_, rfl, rfl⟩
                  simp only [create, Request.span_eq, flawed, called, fetch, looked]
              | ok snapshot =>
                  cases obstructed : obstacle? snapshot request.bounds with
                  | some reason =>
                      refine Or.inl ⟨.unavailable reason,
                        { desk with lookups := desk.lookups + 1 }, ?_, rfl, rfl⟩
                      simp only [create, Request.span_eq, flawed, called, fetch, looked, obstructed]
                  | none =>
                      refine Or.inr ⟨snapshot, rfl, rfl, obstructed, ?_⟩
                      simp only [create, Request.span_eq, flawed, called, fetch, looked, obstructed]

/-- The decision about a resource that the catalog describes. -/
theorem decided_described
    (recorded : desk.store.Recorded Kind events) (calm : desk.outage = none)
    (unused : desk.store.ledger.homeOf? (.ofNat (desk.issued + 1)) = none) {request : Request}
    (flawless : request.firstFlaw? desk.now = none)
    (free : desk.store.ledger.findOverlap? request.resource request.bounds = none)
    {resource : Catalog.Resource}
    (described : desk.answers.about request.resource = .description resource)
    (usable : resource.Usable) :
    Decided desk request (desk.create request).1 (desk.create request).2 := by
  have sound := recorded.history.sound
  have unchanged := Ledger.Same.refl desk.store.ledger
  have snapshot := usable.snapshot_eq
  have decision := create_of_clear calm flawless free
  simp only [described, Catalog.Answer.snapshot, snapshot] at decision
  have early : ∀ stage : Stage, stage.place < 3 → desk.objection? request stage = none := by
    intro stage before
    cases stage with
    | request => rw [objection?, flawless, Option.map_none]
    | conflict => rw [objection?, free, Option.map_none]
    | lookup => simp only [objection?, described, Catalog.Answer.snapshot, snapshot]
    | _ => simp [Stage.place] at before
  cases active : resource.active with
  | false =>
      have objected : desk.objection? request .inactive = some (.unavailable .inactive) := by
        simp only [objection?, described, active, Bool.false_eq_true, if_false]
      rw [active, obstacle?, if_neg Bool.false_ne_true] at decision
      rw [decision]
      exact .of_refused sound objected early rfl rfl unchanged
  | true =>
      have atInactive : desk.objection? request .inactive = none := by
        simp only [objection?, described, active, if_true]
      rw [active, obstacle?, if_pos rfl] at decision
      cases window : firstIntersecting ((resource.periods.getD []).map Catalog.Period.toSpan)
          request.bounds with
      | some found =>
          have objected :
              desk.objection? request .window = some (.unavailable (.window found)) := by
            simp only [objection?, described, window, Option.map_some]
          rw [window, Option.map_some] at decision
          rw [decision]
          refine .of_refused sound objected ?_ rfl rfl unchanged
          intro earlier before
          cases earlier with
          | inactive => exact atInactive
          | window => exact absurd before (Nat.lt_irrefl _)
          | room => simp [Stage.place] at before
          | _ => exact early _ (by decide)
      | none =>
          have atWindow : desk.objection? request .window = none := by
            simp only [objection?, described, window, Option.map_none]
          rw [window, Option.map_none] at decision
          rw [decision]
          refine decided_place recorded calm unused ?_
          intro earlier before
          cases earlier with
          | inactive => exact atInactive
          | window => exact atWindow
          | room => exact absurd before (Nat.lt_irrefl _)
          | _ => exact early _ (by decide)

theorem decided_create
    (recorded : desk.store.Recorded Kind events) (calm : desk.outage = none)
    (unused : desk.store.ledger.homeOf? (.ofNat (desk.issued + 1)) = none)
    (request : Request) :
    Decided desk request (desk.create request).1 (desk.create request).2 := by
  have sound := recorded.history.sound
  have unchanged := Ledger.Same.refl desk.store.ledger
  cases flawed : request.firstFlaw? desk.now with
  | some flaw =>
      have objected : desk.objection? request .request = some (.invalid flaw) := by
        rw [objection?, flawed, Option.map_some]
      simp only [create, Request.span_eq, flawed]
      refine .of_refused sound objected ?_ rfl rfl unchanged
      intro earlier before
      exact absurd before (Nat.not_lt_zero _)
  | none =>
      have atRequest : desk.objection? request .request = none := by
        rw [objection?, flawed, Option.map_none]
      cases taken : desk.store.ledger.findOverlap? request.resource request.bounds with
      | some existing =>
          have objected : desk.objection? request .conflict = some (.conflict existing) := by
            rw [objection?, taken, Option.map_some]
          simp only [create, Request.span_eq, flawed, call, calm, taken]
          refine .of_refused sound objected ?_ rfl rfl unchanged
          intro earlier before
          cases earlier with
          | request => exact atRequest
          | _ => simp [Stage.place] at before
      | none =>
          cases looked : (desk.answers.about request.resource).snapshot with
          | error cause =>
              have objected :
                  desk.objection? request .lookup = some (.unavailable (.lookup cause)) := by
                simp only [objection?, looked]
              have decision := create_of_clear calm flawed taken
              rw [looked] at decision
              rw [decision]
              refine .of_refused sound objected ?_ rfl rfl unchanged
              intro earlier before
              cases earlier with
              | request => exact atRequest
              | conflict => rw [objection?, taken, Option.map_none]
              | _ => simp [Stage.place] at before
          | ok snapshot =>
              obtain ⟨resource, described, usable, _⟩ :=
                (Catalog.Answer.snapshot_eq_ok_iff _ _).mp looked
              exact decided_described recorded calm unused flawed taken described usable

end Decision

/-- Whatever the store has been through, at any time and for any answers of the
catalog, a booking is decided by the first check that has something against
it. -/
theorem decided_create_of_serve
    {directory : Log.Directory} (blank : Store.Blank directory)
    {operations : List Store.Operation}
    (addressable : ∀ operation ∈ operations, operation.Writes Event.Addressable)
    {replies : List Store.Answer} {desk : Desk}
    (served : Store.serve directory operations = .ok (replies, desk.store))
    (calm : desk.outage = none)
    (unused : desk.store.ledger.homeOf? (.ofNat (desk.issued + 1)) = none)
    (request : Request) :
    Decided desk request (desk.create request).1 (desk.create request).2 := by
  obtain ⟨otherReplies, store, events, through, recorded, _⟩ :=
    Store.serve_recorded Store.loggable_addressable blank addressable
  rw [served] at through
  have same : desk.store = store := (Prod.mk.inj (Except.ok.inj through)).2
  rw [← same] at recorded
  exact decided_create recorded calm unused request

/-- A wish for a time of which the second half is taken. -/
theorem decided_create_of_serve_taken :
    ∃ replies desk,
      Store.serve {} [
          .insert ⟨.ofNat 9, .ofNat 7, ⟨946684830000, 946684890000⟩, .confirmed,
            ⟨"Ada", "ada@example.org"⟩, 0⟩] = .ok (replies, desk.store) ∧
        (desk.create ⟨.ofNat 7, ⟨"Bob", "bob@example.org"⟩,
            some 946684800000, some 946684860000⟩).1 = .error (.conflict (.ofNat 9)) ∧
        Decided desk
          ⟨.ofNat 7, ⟨"Bob", "bob@example.org"⟩, some 946684800000, some 946684860000⟩
          (desk.create ⟨.ofNat 7, ⟨"Bob", "bob@example.org"⟩,
            some 946684800000, some 946684860000⟩).1
          (desk.create ⟨.ofNat 7, ⟨"Bob", "bob@example.org"⟩,
            some 946684800000, some 946684860000⟩).2 := by
  have blank : Store.Blank {} := Or.inl rfl
  have addressable :
      ∀ operation ∈ [Store.Operation.insert ⟨.ofNat 9, .ofNat 7,
          ⟨946684830000, 946684890000⟩, .confirmed, ⟨"Ada", "ada@example.org"⟩, 0⟩],
        operation.Writes Event.Addressable := by
    simp only [List.forall_mem_cons, List.not_mem_nil, false_imp_iff, implies_true,
      Store.Operation.Writes, Event.Addressable, Customer.Addressable]
    decide
  exact ⟨_, ⟨_, 0, { otherwise := .description ⟨none, true, none⟩ }, none, 0, 0⟩, rfl,
    by decide +kernel,
    decided_create_of_serve blank addressable rfl rfl (by decide +kernel) _⟩

end Desk

end Reservations
