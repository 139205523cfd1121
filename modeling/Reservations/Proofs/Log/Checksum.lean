import Reservations.Log.Checksum
import Reservations.Log.Codec

namespace Reservations.Log

/-! ## What the checksum tells apart

Division of remainders is additive in exclusive or, and no remainder but zero leaves
zero. Up to four bytes are taken in as one word, so that no change to four adjacent
bytes goes unnoticed, wherever they stand. -/

/-! ### Remainders -/

theorem toNat_and_one (word : UInt32) : (word &&& 1).toNat = word.toNat % 2 := by
  rw [UInt32.toNat_and]
  exact Nat.and_one_is_mod _

theorem toNat_shiftRight_one (word : UInt32) : (word >>> 1).toNat = word.toNat / 2 := by
  rw [UInt32.toNat_shiftRight]
  exact Nat.shiftRight_eq_div_pow _ 1

theorem shiftBit_xor (left right : UInt32) :
    shiftBit (left ^^^ right) = shiftBit left ^^^ shiftBit right := by
  have low : ∀ word : UInt32, word &&& 1 = if word.toBitVec.getLsbD 0 then 1 else 0 := by
    intro word
    apply UInt32.toBitVec_inj.mp
    rw [UInt32.toBitVec_and]
    change word.toBitVec &&& 1#32 = _
    rw [BitVec.and_one_eq_setWidth_ofBool_getLsbD]
    cases word.toBitVec.getLsbD 0 <;> rfl
  have halved : (left ^^^ right) >>> 1 = left >>> 1 ^^^ right >>> 1 := by
    apply UInt32.toBitVec_inj.mp
    simp [BitVec.ushiftRight_xor_distrib]
  have cancel : left >>> 1 ^^^ polynomial ^^^ (right >>> 1 ^^^ polynomial) =
      left >>> 1 ^^^ right >>> 1 := by
    rw [UInt32.xor_comm (right >>> 1), UInt32.xor_assoc, ← UInt32.xor_assoc polynomial,
      UInt32.xor_self, UInt32.zero_xor]
  simp only [shiftBit, low, UInt32.toBitVec_xor, BitVec.getLsbD_xor, halved]
  cases left.toBitVec.getLsbD 0 <;> cases right.toBitVec.getLsbD 0
  · rfl
  · exact UInt32.xor_assoc _ _ _
  · simp [UInt32.xor_assoc, UInt32.xor_comm polynomial]
  · exact cancel.symm

/-- The lowest bit of a remainder that leaves zero is zero, since the polynomial has its
highest bit set. -/
theorem eq_zero_of_shiftBit {remainder : UInt32} (nothing : shiftBit remainder = 0) :
    remainder = 0 := by
  have low := toNat_and_one remainder
  have halved := toNat_shiftRight_one remainder
  have small := remainder.toNat_lt
  rw [shiftBit] at nothing
  apply UInt32.toNat_inj.mp
  by_cases odd : remainder &&& 1 = 1
  · rw [if_pos odd, UInt32.xor_eq_zero_iff] at nothing
    rw [nothing] at halved
    have high : polynomial.toNat = 0xEDB88320 := rfl
    omega
  · rw [if_neg odd] at nothing
    rw [nothing] at halved
    have even : (remainder &&& 1).toNat ≠ 1 := fun one => odd (UInt32.toNat_inj.mp one)
    have zero : (0 : UInt32).toNat = 0 := rfl
    omega

theorem shiftBits_xor (count : Nat) (left right : UInt32) :
    shiftBits count (left ^^^ right) = shiftBits count left ^^^ shiftBits count right := by
  induction count generalizing left right with
  | zero => rfl
  | succ count inductionHypothesis =>
      rw [shiftBits, shiftBit_xor, inductionHypothesis]
      rfl

theorem eq_zero_of_shiftBits {count : Nat} {remainder : UInt32}
    (nothing : shiftBits count remainder = 0) : remainder = 0 := by
  induction count generalizing remainder with
  | zero => exact nothing
  | succ count inductionHypothesis => exact eq_zero_of_shiftBit (inductionHypothesis nothing)

theorem shiftBits_inj {count : Nat} {left right : UInt32} :
    shiftBits count left = shiftBits count right ↔ left = right := by
  constructor
  · intro same
    rw [← UInt32.xor_eq_zero_iff, ← shiftBits_xor] at same
    exact UInt32.xor_eq_zero_iff.mp (eq_zero_of_shiftBits same)
  · exact congrArg _

theorem shiftBits_add (first second : Nat) (remainder : UInt32) :
    shiftBits (first + second) remainder = shiftBits second (shiftBits first remainder) := by
  induction first generalizing remainder with
  | zero => rw [Nat.zero_add, shiftBits]
  | succ first inductionHypothesis =>
      rw [Nat.succ_add, shiftBits, shiftBits, inductionHypothesis]

theorem shiftBit_double {value : Nat} (fits : 2 * value < UInt32.size) :
    shiftBit (UInt32.ofNat (2 * value)) = UInt32.ofNat value := by
  have even : UInt32.ofNat (2 * value) &&& 1 ≠ 1 := by
    intro one
    have low := congrArg UInt32.toNat one
    rw [toNat_and_one, UInt32.toNat_ofNat_of_lt' fits, Nat.mul_mod_right] at low
    cases low
  rw [shiftBit, if_neg even]
  apply UInt32.toNat_inj.mp
  rw [toNat_shiftRight_one, UInt32.toNat_ofNat_of_lt' fits,
    UInt32.toNat_ofNat_of_lt' (by omega), Nat.mul_div_cancel_left value Nat.two_pos]

/-- Zeros at the low end are divided out without a trace. -/
theorem shiftBits_shiftLeft {count value : Nat} (fits : value <<< count < UInt32.size) :
    shiftBits count (UInt32.ofNat (value <<< count)) = UInt32.ofNat value := by
  induction count with
  | zero => rfl
  | succ count inductionHypothesis =>
      rw [Nat.shiftLeft_succ] at fits ⊢
      rw [shiftBits, shiftBit_double fits]
      exact inductionHypothesis (by omega)

/-! ### Bytes -/

theorem takeByte_inj {left right : UInt32} {byte : UInt8} :
    takeByte left byte = takeByte right byte ↔ left = right := by
  rw [takeByte, takeByte, shiftBits_inj, UInt32.xor_left_inj]

/-- What follows never makes up for a difference. -/
theorem foldl_takeByte_inj (bytes : List UInt8) {left right : UInt32} :
    bytes.foldl takeByte left = bytes.foldl takeByte right ↔ left = right := by
  induction bytes generalizing left right with
  | nil => rfl
  | cons byte bytes inductionHypothesis =>
      rw [List.foldl_cons, List.foldl_cons, inductionHypothesis, takeByte_inj]

theorem natOfBytes_lt (bytes : List UInt8) : natOfBytes bytes < Nat.pow 256 bytes.length := by
  induction bytes with
  | nil => exact Nat.one_pos
  | cons byte bytes inductionHypothesis =>
      have small := byte.toNat_lt
      change byte.toNat + 256 * natOfBytes bytes < Nat.pow 256 bytes.length * 256
      omega

theorem natOfBytes_inj {left right : List UInt8} (sameLength : left.length = right.length) :
    natOfBytes left = natOfBytes right ↔ left = right := by
  refine ⟨fun same => ?_, congrArg natOfBytes⟩
  induction left generalizing right with
  | nil => exact (List.eq_nil_of_length_eq_zero sameLength.symm).symm
  | cons first left inductionHypothesis =>
      cases right with
      | nil => cases sameLength
      | cons second right =>
          have small := first.toNat_lt
          have alsoSmall := second.toNat_lt
          rw [natOfBytes, natOfBytes] at same
          rw [inductionHypothesis (Nat.succ.inj sameLength) (by omega),
            UInt8.toNat_inj.mp (by omega : first.toNat = second.toNat)]

theorem xor_ofNat (byte : UInt8) {value : Nat} (fits : byte.toNat + 256 * value < UInt32.size) :
    byte.toUInt32 ^^^ UInt32.ofNat (value <<< 8) = UInt32.ofNat (byte.toNat + 256 * value) := by
  have small := byte.toNat_lt
  have shifted : value <<< 8 = 2 ^ 8 * value := by omega
  apply UInt32.toNat_inj.mp
  rw [shifted, UInt32.toNat_xor, UInt8.toNat_toUInt32, UInt32.toNat_ofNat_of_lt' fits,
    UInt32.toNat_ofNat_of_lt' (by omega), Nat.add_comm byte.toNat]
  change byte.toNat ^^^ 2 ^ 8 * value = 2 ^ 8 * value + byte.toNat
  apply Nat.eq_of_testBit_eq
  intro place
  rw [Nat.testBit_xor, Nat.testBit_two_pow_mul_add value small, Nat.testBit_two_pow_mul]
  by_cases below : place < 8
  · simp [below, Nat.not_le.mpr below]
  · have zero : byte.toNat.testBit place = false :=
      Nat.testBit_lt_two_pow (Nat.lt_of_lt_of_le small (Nat.pow_le_pow_right Nat.two_pos
        (Nat.le_of_not_lt below)))
    simp [below, zero, Nat.not_lt.mp below]

/-- Up to four bytes are taken in as one word. -/
theorem foldl_takeByte {bytes : List UInt8} (short : bytes.length ≤ 4) (remainder : UInt32) :
    bytes.foldl takeByte remainder =
      shiftBits (8 * bytes.length) (remainder ^^^ UInt32.ofNat (natOfBytes bytes)) := by
  induction bytes generalizing remainder with
  | nil => exact UInt32.xor_zero.symm
  | cons byte bytes inductionHypothesis =>
      rw [List.length_cons] at short
      have small : natOfBytes bytes < 2 ^ 24 :=
        Nat.lt_of_lt_of_le (natOfBytes_lt bytes)
          (Nat.pow_le_pow_right (by decide : 0 < 256) (by omega : bytes.length ≤ 3))
      have fits : byte.toNat + 256 * natOfBytes bytes < UInt32.size := by
        have size : UInt32.size = 2 ^ 32 := rfl
        have low := byte.toNat_lt
        omega
      have behind : shiftBits 8 (UInt32.ofNat (natOfBytes bytes <<< 8)) =
          UInt32.ofNat (natOfBytes bytes) := shiftBits_shiftLeft (by omega)
      have length : 8 * (byte :: bytes).length = 8 + 8 * bytes.length := by
        rw [List.length_cons]
        omega
      rw [List.foldl_cons, inductionHypothesis (by omega), takeByte, ← behind, ← shiftBits_xor,
        ← shiftBits_add, length, UInt32.xor_assoc, xor_ofNat byte fits, natOfBytes]

/-- Four bytes, or fewer, leave a remainder that no other bytes in their place leave. -/
theorem foldl_takeByte_bytes_inj
    {left right : List UInt8} (sameLength : left.length = right.length) (short : left.length ≤ 4)
    (remainder : UInt32) :
    left.foldl takeByte remainder = right.foldl takeByte remainder ↔ left = right := by
  have alsoShort : right.length ≤ 4 := by omega
  have word : ∀ {bytes : List UInt8}, bytes.length ≤ 4 → natOfBytes bytes < UInt32.size :=
    fun {bytes} few => Nat.lt_of_lt_of_le (natOfBytes_lt bytes)
      (Nat.pow_le_pow_right (by decide : 0 < 256) few)
  rw [foldl_takeByte short, foldl_takeByte alsoShort, sameLength, shiftBits_inj,
    UInt32.xor_right_inj, ← UInt32.toNat_inj, UInt32.toNat_ofNat_of_lt' (word short),
    UInt32.toNat_ofNat_of_lt' (word alsoShort), natOfBytes_inj sameLength]

/-- Bytes that differ in at most four adjacent places, and nowhere else, have different
checksums. -/
theorem checksum_inj_of_burst
    {left right : List UInt8} (sameLength : left.length = right.length) (short : left.length ≤ 4)
    (front back : List UInt8) :
    checksum (front ++ left ++ back) = checksum (front ++ right ++ back) ↔ left = right := by
  rw [checksum, checksum, UInt32.xor_left_inj]
  simp only [List.foldl_append]
  rw [foldl_takeByte_inj, foldl_takeByte_bytes_inj sameLength short]

end Reservations.Log
