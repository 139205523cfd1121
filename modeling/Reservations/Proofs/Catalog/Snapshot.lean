import Reservations.Catalog.Answer
import Reservations.Proofs.Calendar.Range

namespace Reservations.Catalog

/-! ## What a look-up comes to -/

/-- The period stops at a later millisecond than it starts. -/
def Period.Increasing (period : Period) : Prop :=
  period.start.epochMilli < period.stop.epochMilli

/-- The period in whole milliseconds. -/
def Period.toSpan (period : Period) : Span :=
  ⟨Int64.ofInt period.start.epochMilli, Int64.ofInt period.stop.epochMilli⟩

/-- Why a look-up gives nothing to decide with. A description fails for the
number of its periods, or for the first that does not increase. -/
inductive LookupFails : Answer → LookupFailure → Prop
  | never : LookupFails .never .timeout
  | failure (cause : LookupFailure) : LookupFails (.failure cause) cause
  | tooManyPeriods (resource : Resource) :
      10000 < (resource.periods.getD []).length →
      LookupFails (.description resource) (.malformed .tooManyPeriods)
  | emptyPeriod (resource : Resource) (front back : List Period) (period : Period) :
      (resource.periods.getD []).length ≤ 10000 →
      resource.periods.getD [] = front ++ period :: back →
      (∀ earlier ∈ front, earlier.Increasing) →
      ¬ period.Increasing →
      LookupFails (.description resource) (.malformed (.emptyPeriod period.start period.stop))

/-- A description that can be decided with. -/
structure Resource.Usable (resource : Resource) : Prop where
  few : (resource.periods.getD []).length ≤ 10000
  increasing : ∀ period ∈ resource.periods.getD [], period.Increasing

theorem Period.lt_iff_increasing (period : Period) :
    Int64.ofInt period.start.epochMilli < Int64.ofInt period.stop.epochMilli ↔
      period.Increasing := by
  rw [Int64.lt_iff_toInt_lt, Calendar.DateTime.toInt_ofInt_epochMilli,
    Calendar.DateTime.toInt_ofInt_epochMilli, Increasing]

theorem Period.window_of_increasing {period : Period} (increasing : period.Increasing) :
    period.window = .ok period.toSpan := by
  have spanned : period.span? = some period.toSpan := by
    rw [span?, Span.of?, if_pos (period.lt_iff_increasing.mpr increasing)]
    rfl
  unfold window
  rw [spanned]

theorem Period.window_of_not_increasing {period : Period} (flat : ¬ period.Increasing) :
    period.window = .error (.malformed (.emptyPeriod period.start period.stop)) := by
  have spanned : period.span? = none := by
    rw [span?, Span.of?, if_neg (mt period.lt_iff_increasing.mp flat)]
  unfold window
  rw [spanned]

theorem windowsOf_of_increasing
    {periods : List Period} (increasing : ∀ period ∈ periods, period.Increasing) :
    windowsOf periods = .ok (periods.map Period.toSpan) := by
  induction periods with
  | nil => rfl
  | cons period periods inductionHypothesis =>
      rw [List.forall_mem_cons] at increasing
      have rest := inductionHypothesis increasing.2
      rw [windowsOf] at rest
      rw [windowsOf, List.mapM_cons, Period.window_of_increasing increasing.1, rest]
      rfl

theorem windowsOf_of_not_increasing
    {front : List Period} {period : Period} (back : List Period)
    (increasing : ∀ earlier ∈ front, earlier.Increasing) (flat : ¬ period.Increasing) :
    windowsOf (front ++ period :: back) =
      .error (.malformed (.emptyPeriod period.start period.stop)) := by
  induction front with
  | nil =>
      rw [List.nil_append, windowsOf, List.mapM_cons, Period.window_of_not_increasing flat]
      rfl
  | cons first front inductionHypothesis =>
      rw [List.forall_mem_cons] at increasing
      have rest := inductionHypothesis increasing.2
      rw [windowsOf] at rest
      rw [windowsOf, List.cons_append, List.mapM_cons,
        Period.window_of_increasing increasing.1, rest]
      rfl

/-- Either all periods increase or there is a first that does not. -/
theorem increasing_or_first (periods : List Period) :
    (∀ period ∈ periods, period.Increasing) ∨
      ∃ front period back, periods = front ++ period :: back ∧
        (∀ earlier ∈ front, earlier.Increasing) ∧ ¬ period.Increasing := by
  induction periods with
  | nil => exact Or.inl fun period member => absurd member List.not_mem_nil
  | cons first rest inductionHypothesis =>
      by_cases increasing : first.Increasing
      · rcases inductionHypothesis with all | ⟨front, period, back, rfl, earlier, flat⟩
        · exact Or.inl (List.forall_mem_cons.mpr ⟨increasing, all⟩)
        · exact Or.inr ⟨first :: front, period, back, rfl,
            List.forall_mem_cons.mpr ⟨increasing, earlier⟩, flat⟩
      · exact Or.inr ⟨[], first, rest, rfl,
          fun earlier member => absurd member List.not_mem_nil, increasing⟩

/-- A description is usable or makes the look-up fail. -/
theorem Resource.usable_or_fails (resource : Resource) :
    resource.Usable ∨ ∃ cause, LookupFails (.description resource) cause := by
  by_cases few : (resource.periods.getD []).length ≤ 10000
  · rcases increasing_or_first (resource.periods.getD []) with
      all | ⟨front, period, back, split, earlier, flat⟩
    · exact Or.inl ⟨few, all⟩
    · exact Or.inr ⟨_, .emptyPeriod resource front back period few split earlier flat⟩
  · exact Or.inr ⟨_, .tooManyPeriods resource (Nat.lt_of_not_le few)⟩

theorem Resource.Usable.snapshot_eq {resource : Resource} (usable : resource.Usable) :
    resource.snapshot =
      .ok ⟨resource.active, (resource.periods.getD []).map Period.toSpan⟩ := by
  have few := usable.few
  simp only [snapshot, Limits.periods, Nat.not_lt.mpr few, if_false,
    windowsOf_of_increasing usable.increasing]

theorem LookupFails.snapshot_eq
    {answer : Answer} {cause : LookupFailure} (fails : LookupFails answer cause) :
    answer.snapshot = .error cause := by
  cases fails with
  | never => rfl
  | failure cause => rfl
  | tooManyPeriods resource many =>
      simp only [Answer.snapshot, Resource.snapshot, Limits.periods, many, if_true]
  | emptyPeriod resource front back period few split earlier flat =>
      have bad := windowsOf_of_not_increasing back earlier flat
      rw [← split] at bad
      simp only [Answer.snapshot, Resource.snapshot, Limits.periods, Nat.not_lt.mpr few, if_false,
        bad]

/-- A look-up fails for one reason alone, and gives a snapshot just where it
does not fail. -/
theorem Answer.snapshot_eq_error_iff (answer : Answer) (cause : LookupFailure) :
    answer.snapshot = .error cause ↔ LookupFails answer cause := by
  constructor
  · intro failed
    cases answer with
    | never =>
        cases failed
        exact .never
    | failure other =>
        obtain rfl := Except.error.inj failed
        exact .failure other
    | description resource =>
        rcases resource.usable_or_fails with usable | ⟨other, fails⟩
        · rw [Answer.snapshot, usable.snapshot_eq] at failed
          cases failed
        · rw [fails.snapshot_eq] at failed
          obtain rfl := Except.error.inj failed
          exact fails
  · exact LookupFails.snapshot_eq

theorem Answer.snapshot_eq_ok_iff (answer : Answer) (snapshot : Snapshot) :
    answer.snapshot = .ok snapshot ↔
      ∃ resource, answer = .description resource ∧ resource.Usable ∧
        snapshot = ⟨resource.active, (resource.periods.getD []).map Period.toSpan⟩ := by
  constructor
  · intro found
    cases answer with
    | never => cases found
    | failure other => cases found
    | description resource =>
        rcases resource.usable_or_fails with usable | ⟨other, fails⟩
        · rw [Answer.snapshot, usable.snapshot_eq] at found
          obtain rfl := Except.ok.inj found
          exact ⟨resource, rfl, usable, rfl⟩
        · rw [fails.snapshot_eq] at found
          cases found
  · rintro ⟨resource, rfl, usable, rfl⟩
    exact usable.snapshot_eq

end Reservations.Catalog
