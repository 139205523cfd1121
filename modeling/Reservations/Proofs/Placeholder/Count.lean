import Reservations.Proofs.Placeholder.Occurrence

namespace Reservations

/-! ## How many parameters a statement is said to have

The number that is reported is the highest behind any dollar sign. Quotes are not looked at,
so it is too high where the highest number stands between them. -/

/-- A number is the highest of some numbers, or zero where there are none. -/
def IsHighest (numbers : Nat → Prop) (highest : Nat) : Prop :=
  (∀ number, numbers number → number ≤ highest) ∧ (highest = 0 ∨ numbers highest)

theorem isHighest_foldl_max (numbers : List Nat) :
    IsHighest (· ∈ numbers) (numbers.foldl max 0) := by
  rw [List.foldl_max, Nat.zero_max]
  cases greatest : numbers.max? with
  | none =>
      obtain rfl := List.max?_eq_none_iff.mp greatest
      exact ⟨fun _ => nofun, Or.inl rfl⟩
  | some highest =>
      obtain ⟨member, bounds⟩ := List.max?_eq_some_iff.mp greatest
      exact ⟨bounds, Or.inr member⟩

/-- An occurrence begins with the first character of a text, or behind it. -/
theorem exists_number_cons_iff {c : Char} {text : List Char} {number : Nat} :
    (∃ place : Occurrence (c :: text), place.number? = some number) ↔
      leadingNumber? (c :: text) = some number ∨
        ∃ place : Occurrence text, place.number? = some number := by
  constructor
  · rintro ⟨⟨before, digits, after, whole, numeral, ends⟩, denoted⟩
    cases before with
    | nil =>
        obtain ⟨rfl, rfl⟩ := List.cons.inj whole
        refine Or.inl ?_
        rw [leadingNumber?, takeWhile_isDigit_append numeral ends]
        exact denoted
    | cons first before =>
        exact Or.inr ⟨⟨before, digits, after, (List.cons.inj whole).2, numeral, ends⟩, denoted⟩
  · rintro (leads | ⟨⟨before, digits, after, whole, numeral, ends⟩, denoted⟩)
    · unfold leadingNumber? at leads
      split at leads
      · rename_i dollar
        obtain ⟨rfl, rfl⟩ := List.cons.inj dollar
        exact ⟨occurrenceAt [] text, leads⟩
      · cases leads
    · exact ⟨⟨c :: before, digits, after, congrArg (c :: ·) whole, numeral, ends⟩, denoted⟩

/-- Numbers are looked for behind every dollar sign. -/
theorem mem_placeNumbers_iff {text : List Char} {number : Nat} :
    number ∈ placeNumbers text ↔ ∃ place : Occurrence text, place.number? = some number := by
  induction text with
  | nil =>
      refine iff_of_false List.not_mem_nil ?_
      rintro ⟨⟨before, digits, after, whole, _, _⟩, _⟩
      exact List.append_ne_nil_of_right_ne_nil before (List.cons_ne_nil _ _) whole
  | cons c text inductionHypothesis =>
      rw [placeNumbers, List.mem_append, Option.mem_toList, inductionHypothesis,
        exists_number_cons_iff]

/-- Some occurrence of a number is filled as soon as there are enough values. -/
def Substitutes (statement : String) (number : Nat) : Prop :=
  ∃ length, ∀ values : List Parameter, length ≤ values.length →
    ∃ place : Occurrence statement.toList, place.number? = some number ∧ place.IsFilled values

/-- A number is substituted where it stands outside quotes. -/
theorem substitutes_iff {statement : String} {number : Nat} :
    Substitutes statement number ↔
      1 ≤ number ∧ ∃ place : Occurrence statement.toList,
        place.number? = some number ∧ place.isQuoted = false := by
  constructor
  · rintro ⟨length, filled⟩
    obtain ⟨place, denoted, isFilled⟩ := filled (List.replicate length none) (by simp)
    obtain ⟨unquoted, other, denotedToo, positive, _⟩ := Occurrence.isFilled_iff.mp isFilled
    obtain rfl := Option.some.inj (denoted.symm.trans denotedToo)
    exact ⟨positive, place, denoted, unquoted⟩
  · rintro ⟨positive, place, denoted, unquoted⟩
    exact ⟨number, fun values enough =>
      ⟨place, denoted, Occurrence.isFilled_iff.mpr ⟨unquoted, number, denoted, positive, enough⟩⟩⟩

theorem isHighest_parameterCount (statement : String) :
    IsHighest (fun number => ∃ place : Occurrence statement.toList, place.number? = some number)
      (parameterCount statement) := by
  have highest := isHighest_foldl_max (placeNumbers statement.toList)
  simp only [mem_placeNumbers_iff] at highest
  exact highest

theorem Substitutes.le_parameterCount
    {statement : String} {number : Nat} (substituted : Substitutes statement number) :
    number ≤ parameterCount statement := by
  obtain ⟨_, place, denoted, _⟩ := substitutes_iff.mp substituted
  exact (isHighest_parameterCount statement).1 number ⟨place, denoted⟩

/-- The number of parameters is the highest behind any dollar sign, quoted or not. It is never
below the highest that is substituted, and the same exactly if no higher number is quoted. -/
theorem isHighest_parameterCount_iff (statement : String) :
    IsHighest (fun number => ∃ place : Occurrence statement.toList, place.number? = some number)
        (parameterCount statement) ∧
      (∀ number, Substitutes statement number → number ≤ parameterCount statement) ∧
      (IsHighest (Substitutes statement) (parameterCount statement) ↔
        ∀ place : Occurrence statement.toList, place.isQuoted = true →
          ∀ number, place.number? = some number →
            number = 0 ∨ ∃ higher, number ≤ higher ∧ Substitutes statement higher) := by
  obtain ⟨bounds, reached⟩ := isHighest_parameterCount statement
  refine ⟨⟨bounds, reached⟩, fun _ => Substitutes.le_parameterCount, ?_⟩
  constructor
  · rintro ⟨_, nothing | substituted⟩ place _ number denoted
    · have below := bounds number ⟨place, denoted⟩
      exact Or.inl (Nat.le_zero.mp (nothing ▸ below))
    · exact Or.inr ⟨_, bounds number ⟨place, denoted⟩, substituted⟩
  · intro overtaken
    refine ⟨fun _ => Substitutes.le_parameterCount, ?_⟩
    obtain nothing | ⟨place, denoted⟩ := reached
    · exact Or.inl nothing
    · cases quoted : place.isQuoted with
      | false =>
          rcases Nat.eq_zero_or_pos (parameterCount statement) with nothing | positive
          · exact Or.inl nothing
          · exact Or.inr (substitutes_iff.mpr ⟨positive, place, denoted, quoted⟩)
      | true =>
          refine (overtaken place quoted _ denoted).imp_right ?_
          rintro ⟨higher, above, substituted⟩
          rwa [Nat.le_antisymm above substituted.le_parameterCount]

/-- A place between quotes is counted, and no value is ever written there. -/
theorem counted_and_quoted :
    parameterCount "SELECT * FROM reservations WHERE id = '$1'" = 1 ∧
      ¬ IsHighest (Substitutes "SELECT * FROM reservations WHERE id = '$1'")
        (parameterCount "SELECT * FROM reservations WHERE id = '$1'") := by
  generalize spelling : "SELECT * FROM reservations WHERE id = '$1'" = statement
  have count : parameterCount statement = 1 := by
    rw [← spelling]
    decide +kernel
  have kept : (cut statement.toList).all (fun part => part matches .kept _) = true := by
    rw [← spelling]
    decide +kernel
  refine ⟨count, ?_⟩
  rintro ⟨_, nothing | substituted⟩
  · omega
  · obtain ⟨_, place, _, unquoted⟩ := substitutes_iff.mp substituted
    rw [place.cut_eq unquoted, List.all_append, List.all_cons, Bool.and_eq_true] at kept
    exact Bool.false_ne_true (Bool.and_eq_true_iff.mp kept.2).1

end Reservations
