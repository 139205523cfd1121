import Reservations.Request

namespace Reservations

/-! ## The checks of a request

Each check is stated with exact integers. That they decide as the code does says
that no subtraction of instants goes wrong, whatever the bounds and the clock
are. -/

/-- Between valid bounds the duration is the difference. -/
theorem Span.toInt_duration
    {span : Span} (ordered : span.start < span.stop) (early : Limits.earliest ≤ span.start) :
    span.duration.toInt = span.stop.toInt - span.start.toInt := by
  have positive : (0 : Int64) ≤ Limits.earliest := by decide
  exact Int64.toInt_sub_of_le _ _ (Int64.le_trans positive early) (Int64.le_of_lt ordered)

/-- The flaws of a span that is not empty. -/
theorem Span.flaw?_of_lt {span : Span} (ordered : span.start < span.stop) :
    span.flaw? =
      if span.start.toInt < 946684800000 ∨ 4102444800000 < span.stop.toInt then
        some .outOfRange
      else if 2678400000 < span.stop.toInt - span.start.toInt then some .tooLong
      else none := by
  have earliest : Limits.earliest.toInt = 946684800000 := by decide
  have latest : Limits.latest.toInt = 4102444800000 := by decide
  have longest : Limits.longest.toInt = 2678400000 := by decide
  rw [flaw?, if_neg (Int64.not_le.mpr ordered)]
  simp only [Int64.lt_iff_toInt_lt, earliest, latest, longest]
  by_cases outside : span.start.toInt < 946684800000 ∨ 4102444800000 < span.stop.toInt
  · rw [if_pos outside, if_pos outside]
  · have early : Limits.earliest ≤ span.start := by
      rw [Int64.le_iff_toInt_le, earliest]
      omega
    rw [if_neg outside, if_neg outside, toInt_duration ordered early]

namespace Request

/-- The bounds that a request asks for. A missing one stands for the epoch. -/
def bounds (request : Request) : Span :=
  ⟨request.start.getD 0, request.stop.getD 0⟩

/-- The flaw of the first check that fails. -/
def firstOf : List (Bool × Flaw) → Option Flaw
  | [] => none
  | (fails, flaw) :: rest => if fails then some flaw else firstOf rest

/-- What may be wrong with a customer, in the order in which it is looked at. -/
def customerChecks (customer : Customer) : List (Bool × Flaw) :=
  [((Text.trim customer.name.toList).isEmpty, .nameMissing),
    ((Text.trim customer.email.toList).isEmpty, .emailMissing),
    (256 < customer.name.utf8ByteSize, .nameTooLong),
    (320 < customer.email.utf8ByteSize, .emailTooLong),
    (!looksLikeEmail customer.email, .emailInvalid)]

/-- What may be wrong with the bounds of a request at a time. -/
def boundChecks (start stop now : Int) : List (Bool × Flaw) :=
  [(stop ≤ start, .stopNotAfterStart),
    (start < 946684800000 || 4102444800000 < stop, .outOfRange),
    (2678400000 < stop - start, .tooLong),
    (start ≤ now, .startNotInFuture)]

/-- The first thing that is wrong with a request, if there is anything. -/
def firstFlaw? (request : Request) (now : Instant) : Option Flaw :=
  firstOf <|
    (request.start.isNone, .startMissing) :: (request.stop.isNone, .stopMissing) ::
      boundChecks request.bounds.start.toInt request.bounds.stop.toInt now.toInt
        ++ customerChecks request.customer

theorem firstOf_cons (fails : Bool) (flaw : Flaw) (rest : List (Bool × Flaw)) :
    firstOf ((fails, flaw) :: rest) = if fails then some flaw else firstOf rest :=
  rfl

theorem firstOf_customerChecks (customer : Customer) :
    firstOf (customerChecks customer) = customer.flaw? := by
  simp only [customerChecks, firstOf, Customer.flaw?, decide_eq_true_eq]
  rfl

theorem firstOf_boundChecks (start stop now : Instant) (rest : List (Bool × Flaw)) :
    firstOf (boundChecks start.toInt stop.toInt now.toInt ++ rest) =
      if stop ≤ start then some .stopNotAfterStart
      else
        match Span.flaw? ⟨start, stop⟩ with
        | some flaw => some flaw
        | none => if start ≤ now then some .startNotInFuture else firstOf rest := by
  simp only [boundChecks, List.cons_append, List.nil_append, firstOf_cons, decide_eq_true_eq,
    ← Int64.le_iff_toInt_le, Bool.or_eq_true]
  by_cases empty : stop ≤ start
  · rw [if_pos empty, if_pos empty]
  · have ordered : (Span.mk start stop).start < (Span.mk start stop).stop :=
      Int64.not_le.mp empty
    rw [if_neg empty, if_neg empty, Span.flaw?_of_lt ordered]
    by_cases outside : start.toInt < 946684800000 ∨ 4102444800000 < stop.toInt
    · rw [if_pos outside, if_pos outside]
    · rw [if_neg outside, if_neg outside]
      by_cases long : 2678400000 < stop.toInt - start.toInt
      · rw [if_pos long, if_pos long]
      · rw [if_neg long, if_neg long]

theorem span_eq (request : Request) (now : Instant) :
    request.span now =
      match request.firstFlaw? now with
      | some flaw => .error flaw
      | none => .ok request.bounds := by
  obtain ⟨resource, customer, start?, stop?⟩ := request
  cases start? with
  | none => rfl
  | some start =>
      cases stop? with
      | none => rfl
      | some stop =>
          simp only [span, firstFlaw?, bounds, Option.getD_some, Option.isNone_some,
            List.cons_append, firstOf_cons, Bool.false_eq_true, if_false, firstOf_boundChecks,
            firstOf_customerChecks]
          by_cases empty : stop ≤ start
          · simp only [if_pos empty]
          · simp only [if_neg empty]
            cases Span.flaw? ⟨start, stop⟩ with
            | some flaw => rfl
            | none =>
                cases customer.flaw? with
                | some flaw =>
                    by_cases past : start ≤ now
                    · simp only [if_pos past]
                    · simp only [if_neg past]
                | none =>
                    by_cases past : start ≤ now
                    · simp only [if_pos past]
                    · simp only [if_neg past]

/-- A request without a flaw asks for a span that the store accepts too. -/
theorem flaw?_bounds
    {request : Request} {now : Instant} (passes : request.firstFlaw? now = none) :
    request.bounds.flaw? = none := by
  simp only [firstFlaw?, List.cons_append, firstOf_cons] at passes
  split at passes
  · cases passes
  · split at passes
    · cases passes
    · rw [firstOf_boundChecks] at passes
      split at passes
      · cases passes
      · cases flaw : request.bounds.flaw? with
        | none => rfl
        | some other =>
            have found : Span.flaw? ⟨request.bounds.start, request.bounds.stop⟩ = some other := flaw
            rw [found] at passes
            cases passes

/-- And nothing is wrong with its customer. -/
theorem flaw?_customer
    {request : Request} {now : Instant} (passes : request.firstFlaw? now = none) :
    request.customer.flaw? = none := by
  simp only [firstFlaw?, List.cons_append, firstOf_cons] at passes
  split at passes
  · cases passes
  · split at passes
    · cases passes
    · rw [firstOf_boundChecks, firstOf_customerChecks] at passes
      split at passes
      · cases passes
      · split at passes
        · cases passes
        · split at passes
          · cases passes
          · exact passes

end Request

end Reservations
