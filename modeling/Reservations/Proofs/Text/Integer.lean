import Mathlib.Data.List.Induction
import Mathlib.Tactic.IntervalCases
import Reservations.Calendar.Timestamp
import Reservations.Session

namespace Reservations

namespace Text

/-! ## Reading integers back from their texts -/

theorem le_ofDigitChars (digits : List Char) (total : Nat) :
    total ≤ Nat.ofDigitChars 10 digits total := by
  rw [Nat.ofDigitChars_eq_ofDigitChars_zero]
  calc
    total ≤ Nat.pow 10 digits.length * total := Nat.le_mul_of_pos_left _ (Nat.pow_pos (by decide))
    _ ≤ _ := Nat.le_add_right _ _

/-- Digits are read as what they denote, as long as it lies within the limit. What is
read on the way is never larger. -/
theorem readDigitsWithin_of_le
    {limit : Nat} (beyond : IntegerFault) {digits : List Char} {total : Nat}
    (all : ∀ c ∈ digits, isDigit c = true)
    (within : Nat.ofDigitChars 10 digits total ≤ limit) :
    readDigitsWithin limit beyond total digits = .ok (Nat.ofDigitChars 10 digits total) := by
  induction digits generalizing total with
  | nil => rfl
  | cons c digits inductionHypothesis =>
      rw [List.forall_mem_cons] at all
      rw [Nat.ofDigitChars_cons, Nat.mul_comm] at within ⊢
      have small := Nat.le_trans (le_ofDigitChars digits _) within
      rw [readDigitsWithin, if_pos all.1, ← inductionHypothesis all.2 within]
      exact if_pos small

theorem readDigitsWithin_of_lt
    {limit : Nat} (beyond : IntegerFault) {digits : List Char} {total : Nat}
    (all : ∀ c ∈ digits, isDigit c = true) (small : total ≤ limit)
    (large : limit < Nat.ofDigitChars 10 digits total) :
    readDigitsWithin limit beyond total digits = .error beyond := by
  induction digits generalizing total with
  | nil => exact absurd small (Nat.not_le.mpr large)
  | cons c digits inductionHypothesis =>
      rw [List.forall_mem_cons] at all
      rw [Nat.ofDigitChars_cons, Nat.mul_comm] at large
      rw [readDigitsWithin, if_pos all.1]
      by_cases next : total * 10 + (c.toNat - 48) ≤ limit
      · exact (if_pos next).trans (inductionHypothesis all.2 next large)
      · exact if_neg next

theorem isDigit_of_mem_toDigits {value : Nat} {c : Char} (member : c ∈ Nat.toDigits 10 value) :
    isDigit c = true :=
  Nat.isDigit_of_mem_toDigits (by decide) (by decide) member

theorem readDigitsWithin_toDigits
    {limit value : Nat} (beyond : IntegerFault) (within : value ≤ limit) :
    readDigitsWithin limit beyond 0 (Nat.toDigits 10 value) = .ok value := by
  have denoted : Nat.ofDigitChars 10 (Nat.toDigits 10 value) 0 = value :=
    Nat.ofDigitChars_ten_toDigits
  rw [readDigitsWithin_of_le beyond (fun _ => isDigit_of_mem_toDigits), denoted]
  rwa [denoted]

/-- A digit that comes first is no sign. -/
theorem readInteger_cons_of_isDigit
    {least greatest : Int} {first : Char} {rest : List Char} (digit : isDigit first = true) :
    readInteger least greatest (first :: rest) =
      (readDigitsWithin greatest.toNat .tooLarge 0 (first :: rest)).map Int.ofNat := by
  unfold readInteger
  split <;> simp_all [isDigit]

/-- Digits stand for themselves. -/
theorem readInteger_of_isDigit
    {least greatest : Int} {digits : List Char} (nonempty : digits ≠ [])
    (all : ∀ c ∈ digits, isDigit c = true) :
    readInteger least greatest digits =
      (readDigitsWithin greatest.toNat .tooLarge 0 digits).map Int.ofNat := by
  cases digits with
  | nil => exact absurd rfl nonempty
  | cons first rest => exact readInteger_cons_of_isDigit (all first List.mem_cons_self)

theorem readInteger_toDigits
    {least greatest : Int} {value : Nat} (within : (value : Int) ≤ greatest) :
    readInteger least greatest (Nat.toDigits 10 value) = .ok value := by
  have digits : readDigitsWithin greatest.toNat .tooLarge 0 (Nat.toDigits 10 value) = .ok value :=
    readDigitsWithin_toDigits _ (by omega)
  rw [readInteger_of_isDigit Nat.toDigits_ne_nil fun _ => isDigit_of_mem_toDigits, digits]
  rfl

theorem readInteger_minus
    {least greatest : Int} {value : Nat} (negative : least < 0)
    (within : least ≤ -(value : Int)) :
    readInteger least greatest ('-' :: Nat.toDigits 10 value) = .ok (-(value : Int)) := by
  have digits : readDigitsWithin least.natAbs .tooSmall 0 (Nat.toDigits 10 value) = .ok value :=
    readDigitsWithin_toDigits _ (by omega)
  cases written : Nat.toDigits 10 value with
  | nil => exact absurd written Nat.toDigits_ne_nil
  | cons first rest =>
      rw [written] at digits
      simp only [readInteger, negative, if_true, digits]
      rfl

/-- Digits are read as the number that they denote, if it lies below the bound. -/
theorem readNat?_eq_some_iff
    {bound : Nat} (positive : 0 < bound) {digits : List Char}
    (all : ∀ c ∈ digits, isDigit c = true) {number : Nat} :
    readNat? bound digits = some number ↔
      digits ≠ [] ∧ Nat.ofDigitChars 10 digits 0 = number ∧ number < bound := by
  have greatest : ((bound : Int) - 1).toNat = bound - 1 := by omega
  cases digits with
  | nil => simp [readNat?, readInteger, Except.toOption]
  | cons first rest =>
      have nonempty : first :: rest ≠ [] := List.cons_ne_nil _ _
      rw [readNat?, readInteger_of_isDigit nonempty all, greatest]
      by_cases within : Nat.ofDigitChars 10 (first :: rest) 0 ≤ bound - 1
      · rw [readDigitsWithin_of_le _ all within]
        change some (Nat.ofDigitChars 10 (first :: rest) 0) = some number ↔ _
        rw [Option.some.injEq]
        exact ⟨fun same => ⟨nonempty, same, by omega⟩, fun denoted => denoted.2.1⟩
      · rw [readDigitsWithin_of_lt _ all (Nat.zero_le _) (Nat.not_le.mp within)]
        refine iff_of_false nofun ?_
        rintro ⟨_, same, below⟩
        omega

/-! ### Texts that are no integer -/

theorem readDigitsWithin_of_stray {limit total : Nat} {beyond : IntegerFault} {cs : List Char}
    (stray : ∃ c ∈ cs, isDigit c = false) :
    ∃ fault, readDigitsWithin limit beyond total cs = .error fault := by
  induction cs generalizing total with
  | nil =>
      obtain ⟨c, member, _⟩ := stray
      cases member
  | cons c cs inductionHypothesis =>
      rw [readDigitsWithin]
      split
      case isTrue digit =>
        dsimp only
        split
        · obtain ⟨other, member, noDigit⟩ := stray
          rcases List.mem_cons.mp member with rfl | later
          · rw [digit] at noDigit
            cases noDigit
          · exact inductionHypothesis ⟨other, later, noDigit⟩
        · exact ⟨beyond, rfl⟩
      case isFalse => exact ⟨_, rfl⟩

/-- What begins with a digit and holds something else is no integer. -/
theorem readInt64_of_stray {first : Char} {cs : List Char} (digit : isDigit first = true)
    (stray : ∃ c ∈ cs, isDigit c = false) : ∃ fault, readInt64 (first :: cs) = .error fault := by
  obtain ⟨c, member, noDigit⟩ := stray
  have inside : ∃ c ∈ first :: cs, isDigit c = false :=
    ⟨c, List.mem_cons_of_mem first member, noDigit⟩
  obtain ⟨fault, refused⟩ := readDigitsWithin_of_stray inside
  refine ⟨fault, ?_⟩
  rw [readInt64, readInteger_cons_of_isDigit digit, refused]
  rfl

/-! ### Leading zeros -/

theorem code_of_isDigit {c : Char} (digit : isDigit c = true) : 48 ≤ c.toNat ∧ c.toNat ≤ 57 := by
  simp only [isDigit, Bool.and_eq_true, decide_eq_true_eq, Char.le_def] at digit
  exact digit

theorem digitChar_of_isDigit {c : Char} (digit : isDigit c = true) :
    Nat.digitChar (c.toNat - 48) = c := by
  have code := code_of_isDigit digit
  rw [← Char.ofNat_toNat c]
  generalize c.toNat = n at code ⊢
  obtain ⟨low, high⟩ := code
  interval_cases n <;> rfl

/-- Digits that denote nothing are zeros. -/
theorem eq_zeros_of_ofDigitChars_eq_zero
    {digits : List Char} (all : ∀ c ∈ digits, isDigit c = true)
    (nothing : Nat.ofDigitChars 10 digits 0 = 0) : digits = List.replicate digits.length '0' := by
  induction digits with
  | nil => rfl
  | cons c digits inductionHypothesis =>
      rw [List.forall_mem_cons] at all
      rw [Nat.ofDigitChars_cons] at nothing
      have first : c.toNat - 48 ≤ 0 := by
        rw [← nothing, Nat.mul_zero, Nat.zero_add]
        exact le_ofDigitChars digits _
      have zero : c = '0' := by
        rw [← digitChar_of_isDigit all.1, Nat.le_zero.mp first]
        rfl
      subst zero
      rw [List.length_cons, List.replicate_succ, ← inductionHypothesis all.2 nothing]

theorem ofDigitChars_zeros_append (zeros : Nat) (digits : List Char) :
    Nat.ofDigitChars 10 (List.replicate zeros '0' ++ digits) 0 = Nat.ofDigitChars 10 digits 0 := by
  induction zeros with
  | zero => rfl
  | succ zeros inductionHypothesis => exact inductionHypothesis

/-- Digits that denote a number are its own behind some zeros. By induction from the last
digit. -/
theorem exists_zeros_append_toDigits
    {digits : List Char} (all : ∀ c ∈ digits, isDigit c = true)
    (positive : 0 < Nat.ofDigitChars 10 digits 0) :
    ∃ zeros, digits =
      List.replicate zeros '0' ++ Nat.toDigits 10 (Nat.ofDigitChars 10 digits 0) := by
  induction digits using List.reverseRecOn with
  | nil => cases positive
  | append_singleton front last inductionHypothesis =>
      rw [List.forall_mem_append, List.forall_mem_singleton] at all
      obtain ⟨frontDigits, lastDigit⟩ := all
      have code := code_of_isDigit lastDigit
      have small : last.toNat - 48 < 10 := by omega
      have own : Nat.toDigits 10 (last.toNat - 48) = [last] := by
        rw [Nat.toDigits_of_lt_base small, digitChar_of_isDigit lastDigit]
      have value : Nat.ofDigitChars 10 (front ++ [last]) 0 =
          10 * Nat.ofDigitChars 10 front 0 + (last.toNat - 48) := by
        rw [Nat.ofDigitChars_append]
        rfl
      rw [value]
      rcases Nat.eq_zero_or_pos (Nat.ofDigitChars 10 front 0) with nothing | something
      · refine ⟨front.length, ?_⟩
        rw [nothing, Nat.mul_zero, Nat.zero_add, own,
          ← eq_zeros_of_ofDigitChars_eq_zero frontDigits nothing]
      · obtain ⟨zeros, written⟩ := inductionHypothesis frontDigits something
        refine ⟨zeros, ?_⟩
        rw [← Nat.toDigits_append_toDigits (by decide) something small, own,
          ← List.append_assoc, ← written]

/-! ### Integers of 64 bits -/

/-- The digits of an integer, behind a minus sign where it is negative. -/
theorem toList_integerText (value : Int64) :
    (integerText value).toList =
      if value < 0 then '-' :: Nat.toDigits 10 value.toInt.natAbs
      else Nat.toDigits 10 value.toInt.natAbs := by
  have sign : value.toInt < 0 ↔ value < 0 := by
    rw [Int64.lt_iff_toInt_lt]
    rfl
  simp only [integerText, decimalText, countText, sign]
  split
  · simp
  · simp

theorem readInt64_integerText (value : Int64) :
    readInt64 (integerText value).toList = .ok value := by
  have least := value.minValue_le_toInt
  have greatest := value.toInt_le
  rw [readInt64, toList_integerText]
  split
  · rename_i negative
    have below : value.toInt < 0 := Int64.lt_iff_toInt_lt.mp negative
    have same : -(value.toInt.natAbs : Int) = value.toInt := by omega
    rw [readInteger_minus (by decide) (by rw [same]; exact least), same]
    exact congrArg Except.ok value.ofInt_toInt
  · rename_i natural
    have above : 0 ≤ value.toInt := Int64.le_iff_toInt_le.mp (Int64.not_lt.mp natural)
    have same : (value.toInt.natAbs : Int) = value.toInt := by omega
    rw [readInteger_toDigits (by rw [same]; exact greatest), same]
    exact congrArg Except.ok value.ofInt_toInt

/-! ### Texts without blanks -/

theorem dropWhile_isBlank
    {cs : List Char} (solid : ∀ c ∈ cs, isBlank c = false) : cs.dropWhile isBlank = cs := by
  cases cs with
  | nil => rfl
  | cons c cs => exact trimStart_of_not_isBlank (solid c List.mem_cons_self)

theorem trim_of_solid {cs : List Char} (solid : ∀ c ∈ cs, isBlank c = false) : trim cs = cs := by
  have reversed : ∀ c ∈ cs.reverse, isBlank c = false := fun c member =>
    solid c (List.mem_reverse.mp member)
  rw [trim, trimStart, dropWhile_isBlank solid, trimEnd, dropWhile_isBlank reversed,
    List.reverse_reverse]

theorem isBlank_of_isDigit {c : Char} (digit : isDigit c = true) : isBlank c = false := by
  have code := code_of_isDigit digit
  simp only [isBlank, inRuns, blankRuns, List.any_cons, List.any_nil]
  simp
  omega

/-- No integer is written with a blank. -/
theorem trim_integerText (value : Int64) :
    trim (integerText value).toList = (integerText value).toList := by
  have solid : ∀ c ∈ Nat.toDigits 10 value.toInt.natAbs, isBlank c = false :=
    fun _ member => isBlank_of_isDigit (isDigit_of_mem_toDigits member)
  apply trim_of_solid
  rw [toList_integerText]
  split
  · rw [List.forall_mem_cons]
    exact ⟨by decide, solid⟩
  · exact solid

end Text

/-- The decimal text of an instant is read as that instant. -/
theorem Calendar.readInstant_integerText (instant : Instant) :
    readInstant (integerText instant) = .ok instant := by
  simp only [readInstant, Text.trim_integerText, instantOf?, Text.readInt64_integerText]
  rfl

end Reservations
