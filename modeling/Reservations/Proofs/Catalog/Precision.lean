import Reservations.Proofs.Desk

namespace Reservations

/-! ## Periods at the precision of the catalog

The catalog gives the bounds of a period to the nanosecond, the desk rounds both down
to whole milliseconds. Nothing is lost at the start of a period. At its end up to a
millisecond is, and a booking that starts just there is not kept out. -/

/-- The nanoseconds between the Unix epoch and a date-time read as UTC. -/
def Calendar.DateTime.epochNano (moment : Calendar.DateTime) : Int :=
  moment.epochSecond * 1000000000 + moment.nano

/-- Milliseconds are nanoseconds rounded down. -/
theorem Calendar.DateTime.epochMilli_bounds_nano (moment : Calendar.DateTime) :
    moment.epochMilli * 1000000 ≤ moment.epochNano ∧
      moment.epochNano < (moment.epochMilli + 1) * 1000000 := by
  unfold epochMilli epochNano
  omega

namespace Catalog.Period

/-- Some instant lies in the period and in the span, on a millisecond or between two. -/
def Shares (period : Period) (span : Span) : Prop :=
  ∃ instant : Int,
    (period.start.epochNano ≤ instant ∧ instant < period.stop.epochNano) ∧
      span.start.toInt * 1000000 ≤ instant ∧ instant < span.stop.toInt * 1000000

/-- The period goes on beyond an instant, but not into the next millisecond. -/
def StopsWithin (period : Period) (instant : Instant) : Prop :=
  instant.toInt * 1000000 < period.stop.epochNano ∧
    period.stop.epochNano < (instant.toInt + 1) * 1000000

instance (period : Period) (instant : Instant) : Decidable (period.StopsWithin instant) :=
  inferInstanceAs (Decidable (_ ∧ _))

variable {period : Period} {span : Span}

/-- Each of the two begins before the other stops. -/
theorem shares_iff (increasing : period.Increasing) (nonempty : span.start < span.stop) :
    period.Shares span ↔
      period.start.epochNano < span.stop.toInt * 1000000 ∧
        span.start.toInt * 1000000 < period.stop.epochNano := by
  have first := period.start.epochMilli_bounds_nano
  have last := period.stop.epochMilli_bounds_nano
  unfold Increasing at increasing
  rw [Int64.lt_iff_toInt_lt] at nonempty
  constructor
  · rintro ⟨instant, ⟨_, _⟩, _, _⟩
    omega
  · rintro ⟨startsBefore, startsBehind⟩
    -- The later of the two starts lies in both.
    refine ⟨max period.start.epochNano (span.start.toInt * 1000000), ?_⟩
    omega

/-- What they share is seen in whole milliseconds, unless it is the end of the period. -/
theorem meets_iff_shares (increasing : period.Increasing) (nonempty : span.start < span.stop) :
    period.Meets span ↔ period.Shares span ∧ ¬ period.StopsWithin span.start := by
  have first := period.start.epochMilli_bounds_nano
  have last := period.stop.epochMilli_bounds_nano
  rw [shares_iff increasing nonempty, Meets, StopsWithin]
  omega

end Catalog.Period

theorem Catalog.Resource.snapshot_eq_ok
    {resource : Catalog.Resource} {snapshot : Catalog.Snapshot}
    (accepted : resource.snapshot = .ok snapshot) :
    resource.Usable ∧
      snapshot = ⟨resource.active, (resource.periods.getD []).map Catalog.Period.toSpan⟩ := by
  rcases resource.usable_or_fails with usable | ⟨cause, fails⟩
  · rw [usable.snapshot_eq] at accepted
    exact ⟨usable, (Except.ok.inj accepted).symm⟩
  · have failed : resource.snapshot = .error cause := fails.snapshot_eq
    rw [failed] at accepted
    cases accepted

/-- The windows of a snapshot keep out what shares an instant with a period, unless it
starts in the last millisecond of the period. -/
theorem Catalog.firstIntersecting_ne_none_iff
    {resource : Catalog.Resource} {snapshot : Catalog.Snapshot}
    (accepted : resource.snapshot = .ok snapshot)
    {span : Span} (nonempty : span.start < span.stop) :
    firstIntersecting snapshot.windows span ≠ none ↔
      ∃ period ∈ resource.periods.getD [],
        period.Shares span ∧ ¬ period.StopsWithin span.start := by
  obtain ⟨usable, rfl⟩ := Resource.snapshot_eq_ok accepted
  rw [firstIntersecting, ← Option.isSome_iff_ne_none, List.find?_isSome]
  simp only [List.mem_map, exists_exists_and_eq_and]
  refine exists_congr fun period => and_congr_right fun member => ?_
  rw [period.overlaps_toSpan_iff,
    Period.meets_iff_shares (usable.increasing period member) nonempty]

namespace Desk

variable {desk : Desk} {request : Request}

theorem obstacle?_eq_none_iff (snapshot : Catalog.Snapshot) (span : Span) :
    obstacle? snapshot span = none ↔
      snapshot.active = true ∧ firstIntersecting snapshot.windows span = none := by
  unfold obstacle?
  by_cases active : snapshot.active = true
  · rw [if_pos active, Option.map_eq_none_iff]
    exact (and_iff_right active).symm
  · rw [if_neg active]
    exact iff_of_false (Option.some_ne_none _) fun clear => active clear.1

theorem place_eq_ok
    {span : Span} {r : Reservation} (placed : (desk.place request span).1 = .ok r) :
    r.span = span := by
  simp only [place] at placed
  split at placed
  · cases placed
  · rw [Store.insert_eq_ok placed]
    rfl

/-- A request that was granted has passed every check. -/
theorem create_eq_ok
    {r : Reservation} (granted : (desk.create request).1 = .ok r) :
    r.span = request.bounds ∧ request.firstFlaw? desk.now = none ∧
      ∃ snapshot, (desk.answers.about request.resource).snapshot = .ok snapshot ∧
        obstacle? snapshot request.bounds = none := by
  rcases desk.create_cases request with
    ⟨refusal, next, refused, _⟩ | ⟨snapshot, flawless, looked, clear, placed⟩
  · rw [refused] at granted
    cases granted
  · rw [placed] at granted
    exact ⟨place_eq_ok granted, flawless, snapshot, looked, clear⟩

/-- What becomes of a request for a resource that cannot be reserved in some periods. It
is kept out of them, but for the last millisecond in which they stop. -/
structure KeepsOut (desk : Desk) (request : Request)
    (resource : Catalog.Resource) (snapshot : Catalog.Snapshot) : Prop where
  found : ∀ span : Span, span.start < span.stop →
    (firstIntersecting snapshot.windows span ≠ none ↔
      ∃ period ∈ resource.periods.getD [],
        period.Shares span ∧ ¬ period.StopsWithin span.start)
  refused : desk.outage = none → request.firstFlaw? desk.now = none →
    desk.store.ledger.findOverlap? request.resource request.bounds = none →
    (∃ period ∈ resource.periods.getD [],
      period.Shares request.bounds ∧ ¬ period.StopsWithin request.bounds.start) →
    ∃ reason, (desk.create request).1 = .error (.unavailable reason)
  passed : desk.outage = none → request.firstFlaw? desk.now = none →
    desk.store.ledger.findOverlap? request.resource request.bounds = none →
    resource.active = true →
    (∀ period ∈ resource.periods.getD [],
      period.Shares request.bounds → period.StopsWithin request.bounds.start) →
    desk.create request =
      { desk with lookups := desk.lookups + 1 }.place request request.bounds
  accepted : ∀ r, (desk.create request).1 = .ok r →
    ∀ period ∈ resource.periods.getD [],
      period.Shares r.span → period.StopsWithin r.span.start

theorem create_keepsOut
    {resource : Catalog.Resource} {snapshot : Catalog.Snapshot}
    (described : desk.answers.about request.resource = .description resource)
    (accepted : resource.snapshot = .ok snapshot) :
    desk.KeepsOut request resource snapshot := by
  have looked : (desk.answers.about request.resource).snapshot = .ok snapshot := by
    rw [described]
    exact accepted
  have active := (Catalog.Resource.snapshot_eq_ok accepted).2
  have found : ∀ span : Span, span.start < span.stop →
      (firstIntersecting snapshot.windows span ≠ none ↔
        ∃ period ∈ resource.periods.getD [],
          period.Shares span ∧ ¬ period.StopsWithin span.start) :=
    fun span nonempty => Catalog.firstIntersecting_ne_none_iff accepted nonempty
  have unobstructed : request.firstFlaw? desk.now = none →
      (firstIntersecting snapshot.windows request.bounds = none ↔
        ∀ period ∈ resource.periods.getD [],
          period.Shares request.bounds → period.StopsWithin request.bounds.start) := by
    intro flawless
    have nonempty := Span.start_lt_stop_of_flaw?_eq_none (Request.flaw?_bounds flawless)
    have iff := not_congr (found request.bounds nonempty)
    push Not at iff
    exact iff
  constructor
  case found => exact found
  case refused =>
    intro calm flawless free shared
    have decision := create_of_clear calm flawless free
    simp only [looked] at decision
    cases obstructed : obstacle? snapshot request.bounds with
    | some reason =>
        rw [obstructed] at decision
        rw [decision]
        exact ⟨reason, rfl⟩
    | none =>
        obtain ⟨period, member, shares, goesOn⟩ := shared
        have clear := ((obstacle?_eq_none_iff _ _).mp obstructed).2
        exact absurd ((unobstructed flawless).mp clear period member shares) goesOn
  case passed =>
    intro calm flawless free bookable clear
    have decision := create_of_clear calm flawless free
    have nothing : obstacle? snapshot request.bounds = none := by
      rw [obstacle?_eq_none_iff, unobstructed flawless, active]
      exact ⟨bookable, clear⟩
    simp only [looked, nothing] at decision
    exact decision
  case accepted =>
    intro r granted
    obtain ⟨bounds, flawless, other, otherLooked, nothing⟩ := create_eq_ok granted
    rw [looked] at otherLooked
    obtain rfl := Except.ok.inj otherLooked
    rw [bounds, ← unobstructed flawless]
    exact ((obstacle?_eq_none_iff _ _).mp nothing).2

/-- Closed from nine to half a millisecond past ten. -/
def closedPastTen : Catalog.Resource :=
  let day : Calendar.Date :=
    ⟨2025, 6, 1, by decide, by decide, by decide, by decide, by decide, by decide⟩
  ⟨none, true, some [
    ⟨⟨day, 9, 0, 0, 0, by decide, by decide, by decide, by decide⟩,
      ⟨day, 10, 0, 0, 500000, by decide, by decide, by decide, by decide⟩⟩]⟩

/-- A desk without reservations, at midnight of that day. -/
def unusedDesk : Desk where
  store := ⟨Ledger.empty, ⟨⟨{}, .empty⟩, 0, .absent⟩⟩
  now := 1748736000000
  answers := { otherwise := .description closedPastTen }

/-- A wish for the hour from ten. -/
def fromTen : Request :=
  ⟨.ofNat 7, ⟨"Ada", "ada@example.org"⟩, some 1748772000000, some 1748775600000⟩

/-- A wish for the half hour before ten is refused. -/
theorem create_keepsOut_beforeTen :
    let request := { fromTen with start := some 1748770200000, stop := some 1748772000000 }
    Store.start {} = .ok unusedDesk.store ∧
      unusedDesk.answers.about request.resource = .description closedPastTen ∧
      closedPastTen.snapshot = .ok ⟨true, [⟨1748768400000, 1748772000000⟩]⟩ ∧
      (unusedDesk.create request).1 =
        .error (.unavailable (.window ⟨1748768400000, 1748772000000⟩)) ∧
      unusedDesk.KeepsOut request closedPastTen ⟨true, [⟨1748768400000, 1748772000000⟩]⟩ :=
  ⟨rfl, rfl, by decide +kernel, by decide +kernel, create_keepsOut rfl (by decide +kernel)⟩

/-- What the catalog answers. -/
def closedPastTenBody : String :=
  "\x7b\"active\":true,\"unavailablePeriods\":[\x7b\"startTime\":\"2025-06-01T09:00:00\",\"endTime\":\"2025-06-01T10:00:00.0005\"\x7d]\x7d"

/-- The hour from ten is booked, although the resource is still closed when it begins. -/
theorem accepted_in_period :
    Catalog.decode? closedPastTenBody.toUTF8.data.toList = some closedPastTen ∧
      closedPastTen.snapshot = .ok ⟨true, [⟨1748768400000, 1748772000000⟩]⟩ ∧
      (∃ period ∈ closedPastTen.periods.getD [], period.Shares fromTen.bounds) ∧
      firstIntersecting [⟨1748768400000, 1748772000000⟩] fromTen.bounds = none ∧
      Store.start {} = .ok unusedDesk.store ∧
      unusedDesk.answers.about fromTen.resource = .description closedPastTen ∧
      (unusedDesk.create fromTen).1 =
        .ok ⟨.ofNat 1, .ofNat 7, fromTen.bounds, .pending, fromTen.customer, 1748736000000⟩ := by
  have shared : ∃ period ∈ closedPastTen.periods.getD [], period.Shares fromTen.bounds := by
    refine ⟨_, List.mem_singleton_self _, 1748772000000000000, ?_⟩
    decide +kernel
  exact ⟨by decide +kernel, by decide +kernel, shared, by decide +kernel, rfl, rfl,
    by decide +kernel⟩

end Desk

end Reservations
