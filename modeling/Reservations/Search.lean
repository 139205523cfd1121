namespace Reservations

/-! ## Binary search -/

variable {α : Type}

/-- The first index from `low` up to `high` whose element fails a test, when
all elements before it pass and none after it does. -/
def partitionFrom
    (items : Array α) (test : α → Bool)
    (low high : Nat) (bound : high ≤ items.size) : Nat :=
  if gap : low < high then
    let middle := (low + high) / 2
    have inside : middle < items.size := by omega
    if test items[middle] then
      partitionFrom items test (middle + 1) high bound
    else
      partitionFrom items test low middle (by omega)
  else low
termination_by high - low

/-- How many elements at the front of a partitioned array pass a test. -/
def partitionPoint (items : Array α) (test : α → Bool) : Nat :=
  partitionFrom items test 0 items.size (Nat.le_refl _)

theorem partitionFrom_bounds
    (items : Array α) (test : α → Bool)
    (low high : Nat) (bound : high ≤ items.size)
    (ordered : low ≤ high) :
    low ≤ partitionFrom items test low high bound ∧
      partitionFrom items test low high bound ≤ high := by
  fun_induction partitionFrom items test low high bound with
  | case1 low high bound gap middle _ _ inductionHypothesis =>
      have := inductionHypothesis (by omega)
      omega
  | case2 low high bound gap middle _ _ inductionHypothesis =>
      have := inductionHypothesis (by omega)
      omega
  | case3 low high bound gap => omega

theorem partitionPoint_le_size (items : Array α) (test : α → Bool) :
    partitionPoint items test ≤ items.size :=
  (partitionFrom_bounds items test 0 items.size (Nat.le_refl _) (Nat.zero_le _)).2

end Reservations
