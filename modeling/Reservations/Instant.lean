namespace Reservations

/-! ## Instants and spans -/

/-- A point in time, in milliseconds since the Unix epoch. -/
abbrev Instant := Int64

/-- The half-open interval from `start` up to, and not including, `stop`. -/
structure Span where
  start : Instant
  stop : Instant
  deriving DecidableEq, Repr, Inhabited

namespace Span

/-- Two spans overlap when each starts before the other stops. Spans that only
touch do not overlap. -/
def overlaps (left right : Span) : Bool :=
  decide (left.start < right.stop) && decide (right.start < left.stop)

/-- The span between two bounds, when the first lies before the second. -/
def of? (start stop : Instant) : Option Span :=
  if start < stop then some ⟨start, stop⟩ else none

/-- How many milliseconds a span lasts. -/
def duration (span : Span) : Int64 :=
  span.stop - span.start

theorem overlaps_comm (left right : Span) :
    left.overlaps right = right.overlaps left := by
  simp only [overlaps, Bool.and_comm]

theorem overlaps_iff (left right : Span) :
    left.overlaps right = true ↔
      left.start < right.stop ∧ right.start < left.stop := by
  simp only [overlaps, Bool.and_eq_true, decide_eq_true_eq]

theorem of?_eq_some_iff (start stop : Instant) (span : Span) :
    of? start stop = some span ↔
      start < stop ∧ span = ⟨start, stop⟩ := by
  unfold of?
  by_cases ordered : start < stop
  · simp [ordered, eq_comm]
  · simp [ordered]

end Span

/-- The first window of a list that overlaps a span. The windows need not be
in any order. -/
def firstIntersecting (windows : List Span) (span : Span) : Option Span :=
  windows.find? fun window => window.overlaps span

/-- Whether some window of a list overlaps a span. -/
def intersects (windows : List Span) (span : Span) : Bool :=
  (firstIntersecting windows span).isSome

end Reservations
