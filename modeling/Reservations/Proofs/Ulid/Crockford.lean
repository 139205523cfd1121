import Mathlib.Data.Option.Basic
import Reservations.Ulid.Crockford

namespace Reservations

/-- What is read back item by item is read back as a whole. -/
theorem mapM_map_eq_some
    {α β : Type} {read : β → Option α} {write : α → β} {items : List α}
    (readBack : ∀ item ∈ items, read (write item) = some item) :
    (items.map write).mapM read = some items := by
  induction items with
  | nil => rfl
  | cons item items inductionHypothesis =>
      rw [List.forall_mem_cons] at readBack
      rw [List.map_cons, List.mapM_cons, readBack.1, inductionHypothesis readBack.2]
      rfl

theorem Text.lt_of_mem_toDigits
    {base count value digit : Nat} (positive : 0 < base)
    (member : digit ∈ toDigits base count value) :
    digit < base := by
  induction count generalizing value with
  | zero => simp [toDigits] at member
  | succ count inductionHypothesis =>
      rw [toDigits, List.mem_append, List.mem_singleton] at member
      rcases member with earlier | rfl
      · exact inductionHypothesis earlier
      · exact Nat.mod_lt _ positive

namespace Ulid

/-! ## Reading identifiers back from their texts -/

theorem digitValue?_digitChar {value : Nat} (small : value < 32) :
    digitValue? (digitChar value) = some value := by
  have all : ∀ v : Fin 32, digitValue? (digitChar v) = some v.val := by decide
  exact all ⟨value, small⟩

theorem utf8Size_digitChar {value : Nat} (small : value < 32) :
    (digitChar value).utf8Size = 1 := by
  have all : ∀ v : Fin 32, (digitChar v).utf8Size = 1 := by decide
  exact all ⟨value, small⟩

theorem ofCrockford?_toText (id : Ulid) :
    ofCrockford? id.toText.toList = some id := by
  have small : ∀ digit ∈ Text.toDigits 32 26 id.toNat, digit < 32 :=
    fun digit member => Text.lt_of_mem_toDigits (by decide) member
  have fits : id.toNat < Nat.pow 32 26 :=
    Nat.lt_trans id.toNat_lt (by decide)
  have read : ((Text.toDigits 32 26 id.toNat).map digitChar).mapM digitValue? =
      some (Text.toDigits 32 26 id.toNat) :=
    mapM_map_eq_some fun digit member => digitValue?_digitChar (small digit member)
  have long : ((Text.toDigits 32 26 id.toNat).map digitChar).length = 26 := by
    rw [List.length_map, Text.length_toDigits]
  rw [ofCrockford?, toText, String.toList_ofList, (Option.guard_eq_some' ()).mpr long, read]
  simp [Text.ofDigits_toDigits, Nat.mod_eq_of_lt fits, ofNat_toNat]

/-- The text of an identifier has one byte for each of its characters. -/
theorem utf8ByteSize_toText (id : Ulid) : id.toText.utf8ByteSize = 26 := by
  have ascii :
      ∀ digits : List Nat, (∀ digit ∈ digits, digit < 32) →
        (String.ofList (digits.map digitChar)).utf8ByteSize = digits.length := by
    intro digits small
    rw [← String.size_toByteArray, String.toByteArray_ofList]
    induction digits with
    | nil => rfl
    | cons digit digits inductionHypothesis =>
        rw [List.forall_mem_cons] at small
        rw [List.map_cons, List.utf8Encode_cons, List.utf8Encode_singleton,
          ByteArray.size_append, inductionHypothesis small.2]
        simp [utf8Size_digitChar small.1, Nat.add_comm]
  rw [toText, ascii _ fun digit member => Text.lt_of_mem_toDigits (by decide) member,
    Text.length_toDigits]

end Ulid

end Reservations
