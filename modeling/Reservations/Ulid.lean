namespace Reservations

/-! ## Identifiers -/

/-- A 128-bit identifier of a reservation or of a resource. -/
structure Ulid where
  bits : BitVec 128
  deriving DecidableEq, Repr, Inhabited, Hashable

namespace Ulid

/-- The identifier whose value is a number modulo 2 to the 128th. -/
def ofNat (value : Nat) : Ulid :=
  ⟨BitVec.ofNat 128 value⟩

/-- The value of an identifier as a number. -/
def toNat (id : Ulid) : Nat :=
  id.bits.toNat

/-- How many identifiers there are: 2 to the 128th. -/
def total : Nat := 340282366920938463463374607431768211456

theorem toNat_lt (id : Ulid) : id.toNat < total :=
  id.bits.isLt

theorem ofNat_toNat (id : Ulid) : ofNat id.toNat = id := by
  simp [ofNat, toNat]

theorem toNat_ofNat (value : Nat) :
    (ofNat value).toNat = value % total := by
  simp [ofNat, toNat, total]

theorem toNat_inj {left right : Ulid} :
    left.toNat = right.toNat ↔ left = right := by
  constructor
  · intro equality
    rw [← ofNat_toNat left, ← ofNat_toNat right, equality]
  · rintro rfl
    rfl

/-- Identifiers are ordered as numbers. -/
instance : Ord Ulid :=
  ⟨fun left right => compare left.toNat right.toNat⟩

theorem compare_eq (left right : Ulid) :
    compare left right = compare left.toNat right.toNat :=
  rfl

instance : Std.TransOrd Ulid where
  eq_swap {left right} := by
    simp only [compare_eq]
    exact Std.OrientedCmp.eq_swap
  isLE_trans {_ _ _} first second := by
    simp only [compare_eq] at *
    exact Std.TransCmp.isLE_trans first second

instance : Std.LawfulEqOrd Ulid where
  eq_of_compare {left right} equality := by
    simp only [compare_eq] at equality
    exact toNat_inj.1 (Std.LawfulEqCmp.eq_of_compare equality)

end Ulid

end Reservations
