import Mathlib.Data.List.TakeWhile
import Reservations.Proofs.Placeholder
import Reservations.Proofs.Text.Integer

namespace Reservations

/-! ## Where places stand

A statement is cut at its dollar signs and nowhere else. The place at one of them is filled
where an even number of single quotes stands before it, whatever these quotes are for. -/

/-- Whether single quotes are open at the end of a text: it holds an odd number of them. -/
def opensQuotes (text : List Char) : Bool :=
  text.count '\'' % 2 = 1

theorem opensQuotes_append (front back : List Char) :
    opensQuotes (front ++ back) = (opensQuotes front ^^ opensQuotes back) := by
  simp only [opensQuotes, List.count_append]
  rcases Nat.mod_two_eq_zero_or_one (front.count '\'') with even | odd
  · simp [Nat.add_mod, even]
  · rcases Nat.mod_two_eq_zero_or_one (back.count '\'') with evenBack | oddBack
    · simp [Nat.add_mod, odd, evenBack]
    · simp [Nat.add_mod, odd, oddBack]

theorem opensQuotes_cons_quote (text : List Char) :
    opensQuotes ('\'' :: text) = !opensQuotes text := by
  have split : '\'' :: text = ['\''] ++ text := rfl
  rw [split, opensQuotes_append]
  exact Bool.true_xor _

theorem opensQuotes_cons_of_ne {c : Char} (other : c ≠ '\'') (text : List Char) :
    opensQuotes (c :: text) = opensQuotes text := by
  rw [opensQuotes, opensQuotes, List.count_cons_of_ne other]

theorem opensQuotes_of_not_mem {text : List Char} (free : '\'' ∉ text) :
    opensQuotes text = false := by
  rw [opensQuotes, List.count_eq_zero.mpr free]
  rfl

/-- No digits go on past a dollar sign. -/
theorem takeWhile_isDigit_append_dollar (front rest : List Char) :
    (front ++ '$' :: rest).takeWhile Text.isDigit = front.takeWhile Text.isDigit := by
  have stops : ('$' :: rest).takeWhile Text.isDigit = [] :=
    List.takeWhile_cons_of_neg (by decide)
  rw [List.takeWhile_append, stops, List.append_nil]
  split
  · rename_i all
    exact ((List.takeWhile_prefix _).eq_of_length all).symm
  · rfl

/-- Digits hold no quotes. -/
theorem opensQuotes_drop_digits (text : List Char) :
    opensQuotes (text.drop (text.takeWhile Text.isDigit).length) = opensQuotes text := by
  have free : '\'' ∉ text.takeWhile Text.isDigit := fun member =>
    absurd (List.mem_takeWhile_imp member) (by decide)
  have behind : (text.takeWhile Text.isDigit ++ text.dropWhile Text.isDigit).drop
      (text.takeWhile Text.isDigit).length = text.dropWhile Text.isDigit :=
    List.drop_left
  have split := opensQuotes_append (text.takeWhile Text.isDigit) (text.dropWhile Text.isDigit)
  rw [opensQuotes_of_not_mem free, Bool.false_xor] at split
  rw [List.takeWhile_append_dropWhile] at behind split
  rw [behind, split]

/-- How a front is cut does not depend on what comes behind the next dollar sign. By induction
on the front, where the digits that are already taken lie in it. -/
theorem cutFrom_append_dollar
    {taken : Nat} {front : List Char} (inside : taken ≤ front.length)
    (quoted : Bool) (rest : List Char) :
    cutFrom taken quoted (front ++ '$' :: rest) =
      cutFrom taken quoted front ++
        cutFrom 0 (quoted ^^ opensQuotes (front.drop taken)) ('$' :: rest) := by
  induction front generalizing taken quoted with
  | nil =>
      obtain rfl : taken = 0 := Nat.le_zero.mp inside
      cases quoted <;> rfl
  | cons c front inductionHypothesis =>
      cases taken with
      | succ taken =>
          rw [List.cons_append, cutFrom, cutFrom, List.drop_succ_cons,
            inductionHypothesis (Nat.le_of_succ_le_succ inside)]
      | zero =>
          rw [List.cons_append, List.drop_zero]
          by_cases quote : c = '\''
          · subst quote
            rw [cutFrom, if_pos rfl, cutFrom, if_pos rfl, List.cons_append,
              inductionHypothesis (Nat.zero_le _), List.drop_zero, opensQuotes_cons_quote]
            cases quoted <;> cases opensQuotes front <;> rfl
          · rw [cutFrom, if_neg quote, cutFrom, if_neg quote, opensQuotes_cons_of_ne quote]
            by_cases place : c = '$' ∧ quoted = false
            · have length := (List.takeWhile_prefix Text.isDigit (l := front)).length_le
              rw [if_pos place, if_pos place]
              simp only [takeWhile_isDigit_append_dollar]
              rw [inductionHypothesis length, opensQuotes_drop_digits, List.cons_append]
            · rw [if_neg place, if_neg place, List.cons_append,
                inductionHypothesis (Nat.zero_le _), List.drop_zero]

/-! ### Occurrences -/

/-- A dollar sign in a text, with all the digits behind it. -/
structure Occurrence (text : List Char) where
  before : List Char
  digits : List Char
  after : List Char
  whole : before ++ '$' :: (digits ++ after) = text
  numeral : digits.all Text.isDigit = true
  ends : after.head?.any Text.isDigit = false

/-- A part of a statement stands behind some text. -/
def StandsBehind (parts : List Segment) (before : List Char) (part : Segment) : Prop :=
  ∃ front back, parts = front ++ part :: back ∧ front.flatMap Segment.text = before

theorem standsBehind_cons_iff
    {first part : Segment} {parts : List Segment} {before : List Char} :
    StandsBehind (first :: parts) before part ↔
      before = [] ∧ first = part ∨
        ∃ rest, first.text ++ rest = before ∧ StandsBehind parts rest part := by
  constructor
  · rintro ⟨front, back, split, rfl⟩
    cases front with
    | nil => exact Or.inl ⟨rfl, (List.cons.inj split).1⟩
    | cons other front =>
        obtain ⟨rfl, rfl⟩ := List.cons.inj split
        exact Or.inr ⟨_, rfl, front, back, rfl, rfl⟩
  · rintro (⟨rfl, rfl⟩ | ⟨rest, rfl, front, back, rfl, rfl⟩)
    · exact ⟨[], parts, rfl, rfl⟩
    · exact ⟨first :: front, back, rfl, rfl⟩

theorem Segment.text_ne_nil (part : Segment) : part.text ≠ [] := by
  cases part <;> exact List.cons_ne_nil _ _

/-- Every part has a text, so only one stands in each place. -/
theorem StandsBehind.unique
    {parts : List Segment} {before : List Char} {part other : Segment}
    (stands : StandsBehind parts before part) (standsToo : StandsBehind parts before other) :
    part = other := by
  induction parts generalizing before with
  | nil =>
      obtain ⟨front, back, split, _⟩ := stands
      exact absurd split.symm (List.append_ne_nil_of_right_ne_nil front (List.cons_ne_nil _ _))
  | cons first parts inductionHypothesis =>
      have some (rest : List Char) : first.text ++ rest ≠ [] :=
        List.append_ne_nil_of_left_ne_nil first.text_ne_nil rest
      rcases standsBehind_cons_iff.mp stands with ⟨rfl, rfl⟩ | ⟨rest, rfl, behind⟩
      · rcases standsBehind_cons_iff.mp standsToo with ⟨_, same⟩ | ⟨rest, nothing, _⟩
        · exact same
        · exact absurd nothing (some rest)
      · rcases standsBehind_cons_iff.mp standsToo with ⟨nothing, _⟩ | ⟨otherRest, same, behindToo⟩
        · exact absurd nothing (some rest)
        · obtain rfl := List.append_cancel_left same
          exact inductionHypothesis behind behindToo

namespace Occurrence

variable {text : List Char}

/-- Whether an occurrence lies in a stretch between single quotes. -/
def isQuoted (place : Occurrence text) : Bool :=
  opensQuotes place.before

/-- The number behind the dollar sign, if there is one. -/
def number? (place : Occurrence text) : Option Nat :=
  placeNumber? place.digits

theorem cut_before (place : Occurrence text) :
    cut text = cut place.before ++
      cutFrom 0 place.isQuoted ('$' :: (place.digits ++ place.after)) := by
  have split := cutFrom_append_dollar (Nat.zero_le place.before.length) false
    (place.digits ++ place.after)
  rwa [place.whole, List.drop_zero, Bool.false_xor] at split

/-- Outside quotes the statement is cut on either side of a place. -/
theorem cut_eq (place : Occurrence text) (unquoted : place.isQuoted = false) :
    cut text = cut place.before ++ .place place.digits :: cut place.after := by
  rw [place.cut_before, unquoted, cutFrom_place place.numeral place.ends]
  rfl

/-- Between quotes a dollar sign is a character like any other. -/
theorem standsBehind_of_isQuoted (place : Occurrence text) (quoted : place.isQuoted = true) :
    StandsBehind (cut text) place.before (.kept '$') := by
  refine ⟨cut place.before, cutFrom 0 true (place.digits ++ place.after), ?_, flatMap_text_cut _⟩
  rw [place.cut_before, quoted]
  rfl

/-- An occurrence is a place of the statement exactly outside quotes. -/
theorem standsBehind_iff (place : Occurrence text) :
    StandsBehind (cut text) place.before (.place place.digits) ↔ place.isQuoted = false := by
  constructor
  · intro stands
    rw [← Bool.not_eq_true]
    intro quoted
    exact Segment.noConfusion (stands.unique (place.standsBehind_of_isQuoted quoted))
  · intro unquoted
    exact ⟨_, _, place.cut_eq unquoted, flatMap_text_cut _⟩

end Occurrence

/-- All the digits behind a dollar sign. -/
def occurrenceAt (before rest : List Char) : Occurrence (before ++ '$' :: rest) where
  before
  digits := rest.takeWhile Text.isDigit
  after := rest.dropWhile Text.isDigit
  whole := by rw [List.takeWhile_append_dropWhile]
  numeral := List.all_takeWhile
  ends := by
    cases split : rest.dropWhile Text.isDigit with
    | nil => rfl
    | cons c others =>
        have nonempty : rest.dropWhile Text.isDigit ≠ [] := by
          rw [split]
          exact List.cons_ne_nil _ _
        simpa [split] using List.head_dropWhile_not Text.isDigit nonempty

/-- The places of a statement are occurrences in its text. -/
theorem exists_occurrence_of_standsBehind
    {text before digits : List Char} (stands : StandsBehind (cut text) before (.place digits)) :
    ∃ place : Occurrence text,
      place.before = before ∧ place.digits = digits ∧ place.isQuoted = false := by
  obtain ⟨front, back, split, rfl⟩ := stands
  have whole := flatMap_text_cut text
  rw [split, List.flatMap_append, List.flatMap_cons, Segment.text, List.cons_append] at whole
  generalize digits ++ back.flatMap Segment.text = others at whole
  subst whole
  let place := occurrenceAt (front.flatMap Segment.text) others
  have stands : StandsBehind (cut _) place.before (.place digits) := ⟨front, back, split, rfl⟩
  cases quoted : place.isQuoted with
  | true =>
      have kept := place.standsBehind_of_isQuoted quoted
      exact Segment.noConfusion (stands.unique kept)
  | false =>
      have same := (place.standsBehind_iff.mpr quoted).unique stands
      exact ⟨place, rfl, Segment.place.inj same, quoted⟩

/-! ### Numbers of places -/

theorem placeNumber?_eq_some_iff
    {digits : List Char} (numeral : digits.all Text.isDigit = true) {number : Nat} :
    placeNumber? digits = some number ↔
      digits ≠ [] ∧ Nat.ofDigitChars 10 digits 0 = number ∧ number < Text.bound64 :=
  Text.readNat?_eq_some_iff (by decide) (List.all_eq_true.mp numeral)

/-- The values are counted from one. -/
theorem parameter?_eq_some_iff {values : List Parameter} {digits : List Char} {value : Parameter} :
    parameter? values digits = some value ↔
      ∃ index, placeNumber? digits = some (index + 1) ∧ values[index]? = some value := by
  unfold parameter?
  split
  · rename_i index number
    simp [number]
  · rename_i none
    simpa using fun index number => absurd number (none index)

namespace Occurrence

variable {text : List Char}

/-- Whether a value is written in the place of an occurrence. -/
def IsFilled (place : Occurrence text) (values : List Parameter) : Prop :=
  StandsBehind (cut text) place.before (.place place.digits) ∧
    (parameter? values place.digits).isSome

/-- A place is filled where it lies outside quotes and counts to a value. -/
theorem isFilled_iff {place : Occurrence text} {values : List Parameter} :
    place.IsFilled values ↔
      place.isQuoted = false ∧ ∃ number, place.number? = some number ∧
        1 ≤ number ∧ number ≤ values.length := by
  rw [IsFilled, standsBehind_iff, and_congr_right_iff]
  intro _
  rw [Option.isSome_iff_exists]
  constructor
  · rintro ⟨value, found⟩
    obtain ⟨index, number, listed⟩ := parameter?_eq_some_iff.mp found
    exact ⟨index + 1, number, Nat.le_add_left _ _, (List.getElem?_eq_some_iff.mp listed).1⟩
  · rintro ⟨number, denoted, positive, within⟩
    obtain ⟨index, rfl⟩ := Nat.exists_eq_add_of_le' positive
    exact ⟨values[index], parameter?_eq_some_iff.mpr ⟨index, denoted, List.getElem?_eq_getElem _⟩⟩

end Occurrence

end Reservations
