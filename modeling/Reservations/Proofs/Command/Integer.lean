import Reservations.Proofs.Text.Integer

namespace Reservations.Command

/-! ## Integers under minus signs

Digits have no sign of their own, so what is read before any minus sign is not negative.
Hence the least integer of 64 bits, the only one that has no negative, is never read. -/

open Sql

/-- Digits under any number of minus signs, and the integer that is written so. -/
inductive Signed : Expr → Int → Prop
  | digits (written : String) (long : Bool) :
      written.toList ≠ [] →
      (∀ c ∈ written.toList, Text.isDigit c = true) →
      Signed (.literal (.number written long)) (Nat.ofDigitChars 10 written.toList 0)
  | minus (operand : Expr) (value : Int) :
      Signed operand value →
      Signed (.unary .minus operand) (-value)

/-- Reading the expression negates this integer on the way. -/
inductive Negates : Expr → Int64 → Prop
  | outermost (operand : Expr) (negated : Int64) :
      integerOf operand = .ok negated →
      Negates (.unary .minus operand) negated
  | within (operand : Expr) (negated : Int64) :
      Negates operand negated →
      Negates (.unary .minus operand) negated

theorem toInt_ofInt_of_natAbs_lt {value : Int} (small : value.natAbs < 2 ^ 63) :
    (Int64.ofInt value).toInt = value := by
  apply Int64.toInt_ofInt_of_le
  · omega
  · omega

theorem integerOf_digits
    {written : String} (long : Bool) (nonempty : written.toList ≠ [])
    (all : ∀ c ∈ written.toList, Text.isDigit c = true) :
    integerOf (.literal (.number written long)) =
      if Nat.ofDigitChars 10 written.toList 0 < 2 ^ 63 then
        .ok (Int64.ofInt (Nat.ofDigitChars 10 written.toList 0))
      else .error (.badInteger .tooLarge) := by
  have greatest : Int64.maxValue.toInt.toNat = 2 ^ 63 - 1 := by decide
  rw [integerOf, Text.readInt64, Text.readInteger_of_isDigit nonempty all, greatest]
  by_cases small : Nat.ofDigitChars 10 written.toList 0 < 2 ^ 63
  · rw [if_pos small, Text.readDigitsWithin_of_le _ all (Nat.le_sub_one_of_lt small)]
    rfl
  · have large : 2 ^ 63 - 1 < Nat.ofDigitChars 10 written.toList 0 := by omega
    rw [if_neg small, Text.readDigitsWithin_of_lt _ all (Nat.zero_le _) large]
    rfl

namespace Signed

variable {expr : Expr} {value : Int}

/-- By induction on the minus signs. What is read lies in a range that is symmetric, so
one more sign does not lead out of it. -/
theorem integerOf_eq (signed : Signed expr value) :
    integerOf expr =
      if value.natAbs < 2 ^ 63 then .ok (Int64.ofInt value)
      else .error (.badInteger .tooLarge) := by
  induction signed with
  | digits written long nonempty all =>
      rw [integerOf_digits long nonempty all, Int.natAbs_natCast]
  | minus operand value _ inductionHypothesis =>
      rw [integerOf, inductionHypothesis, Int.natAbs_neg]
      by_cases small : value.natAbs < 2 ^ 63
      · rw [if_pos small, if_pos small, Int64.ofInt_neg]
        rfl
      · rw [if_neg small, if_neg small]
        rfl

theorem eq_ofInt_of_ok (signed : Signed expr value) {read : Int64}
    (success : integerOf expr = .ok read) :
    value.natAbs < 2 ^ 63 ∧ read = Int64.ofInt value := by
  rw [signed.integerOf_eq] at success
  by_cases small : value.natAbs < 2 ^ 63
  · rw [if_pos small] at success
    exact ⟨small, (Except.ok.inj success).symm⟩
  · rw [if_neg small] at success
    cases success

theorem toInt_of_ok (signed : Signed expr value) {read : Int64}
    (success : integerOf expr = .ok read) : read.toInt = value := by
  obtain ⟨small, rfl⟩ := signed.eq_ofInt_of_ok success
  exact toInt_ofInt_of_natAbs_lt small

theorem toInt_neg_of_negates {negated : Int64} (negates : Negates expr negated) :
    ∀ value, Signed expr value → (-negated).toInt = -negated.toInt := by
  induction negates with
  | outermost operand negated success =>
      intro value signed
      cases signed with
      | minus _ inner signed =>
          obtain ⟨small, rfl⟩ := signed.eq_ofInt_of_ok success
          have opposite : (-inner).natAbs < 2 ^ 63 := by
            rw [Int.natAbs_neg]
            exact small
          rw [← Int64.ofInt_neg, toInt_ofInt_of_natAbs_lt small,
            toInt_ofInt_of_natAbs_lt opposite]
  | within operand negated _ inductionHypothesis =>
      intro value signed
      cases signed with
      | minus _ inner signed => exact inductionHypothesis inner signed

/-- As a bound, a number under minus signs is what it is read as. -/
theorem instantOf_eq (signed : Signed expr value) :
    instantOf expr = (integerOf expr).map some := by
  cases signed with
  | digits written long _ _ => rfl
  | minus operand value _ => rfl

end Signed

theorem instantOf_integerText (read : Int64) :
    instantOf (.literal (.text (Reservations.integerText read))) = .ok (some read) := by
  rw [instantOf, instantOfText, Calendar.readInstant_integerText]
  rfl

/-- Digits under minus signs are read as the integer that is written so, or refused where
it is beyond the greatest one of 64 bits in either direction. No negation on the way
overflows, and the decimal text of what is read gives the same bound. -/
theorem integerOf_of_signed {expr : Expr} {value : Int} (signed : Signed expr value) :
    (integerOf expr =
      if value.natAbs < 2 ^ 63 then .ok (Int64.ofInt value)
      else .error (.badInteger .tooLarge)) ∧
    (∀ read, integerOf expr = .ok read →
      read.toInt = value ∧ instantOf expr = .ok (some read) ∧
        instantOf (.literal (.text (Reservations.integerText read))) = .ok (some read)) ∧
    ∀ negated, Negates expr negated → (-negated).toInt = -negated.toInt := by
  refine ⟨signed.integerOf_eq, ?_, ?_⟩
  · intro read success
    have bound : instantOf expr = .ok (some read) := by
      rw [signed.instantOf_eq, success]
      rfl
    exact ⟨signed.toInt_of_ok success, bound, instantOf_integerText read⟩
  · intro negated negates
    exact Signed.toInt_neg_of_negates negates value signed

/-- The least integer that is read, with a sign in front of it. -/
theorem integerOf_of_signed_least :
    let digits : Expr := .literal (.number "009223372036854775807" false)
    let least : Expr := .unary .minus digits
    Signed (.unary .minus least) 9223372036854775807 ∧
      integerOf least = .ok (-9223372036854775807) ∧
      Negates (.unary .minus least) (-9223372036854775807) ∧
      (-(-9223372036854775807 : Int64)).toInt = -(-9223372036854775807 : Int64).toInt ∧
      instantOf (.unary .minus least) = .ok (some 9223372036854775807) ∧
      instantOf (.literal (.text (Reservations.integerText 9223372036854775807))) =
        .ok (some 9223372036854775807) := by
  intro digits least
  have signed : Signed (.unary .minus least) 9223372036854775807 :=
    .minus least (-9223372036854775807)
      (.minus digits 9223372036854775807 (.digits "009223372036854775807" false
        (by decide) (List.all_eq_true.mp (by decide))))
  obtain ⟨read, bounds, exact⟩ := integerOf_of_signed signed
  have inner : integerOf least = .ok (-9223372036854775807) := by rfl
  have negates : Negates (.unary .minus least) (-9223372036854775807) :=
    .outermost least _ inner
  obtain ⟨_, bound, quoted⟩ := bounds 9223372036854775807 (by rw [read]; rfl)
  exact ⟨signed, inner, negates, exact _ negates, bound, quoted⟩

end Reservations.Command
