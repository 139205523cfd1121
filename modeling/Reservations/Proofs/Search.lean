import Reservations.Search

namespace Reservations

/-! ## What binary search finds -/

variable {α : Type}

/-- Every element that passes a test stands before every element that fails
it. -/
def Partitioned (items : Array α) (test : α → Bool) : Prop :=
  ∀ (early late : Nat) (ordered : early ≤ late) (inside : late < items.size),
    test items[late] = true → test items[early] = true

theorem partitioned_of_pairwise
    {items : Array α} {test : α → Bool}
    (pairwise : items.toList.Pairwise fun earlier later =>
      test later = true → test earlier = true) :
    Partitioned items test := by
  intro early late ordered inside passes
  rcases Nat.lt_or_eq_of_le ordered with before | rfl
  · exact List.pairwise_iff_getElem.mp pairwise early late
      (Nat.lt_trans before inside) inside before passes
  · exact passes

/-- What lies below the interval passes, what lies above it fails, and the
search shrinks the interval to the point between them. -/
theorem partitionFrom_spec
    {items : Array α} {test : α → Bool}
    (partitioned : Partitioned items test)
    (low high : Nat) (bound : high ≤ items.size)
    (ordered : low ≤ high)
    (below : ∀ (i : Nat) (inside : i < items.size), i < low → test items[i] = true)
    (above : ∀ (i : Nat) (inside : i < items.size), high ≤ i → test items[i] = false)
    (i : Nat) (inside : i < items.size) :
    test items[i] = true ↔ i < partitionFrom items test low high bound := by
  fun_induction partitionFrom items test low high bound with
  | case1 low high bound gap middle middleInside passes inductionHypothesis =>
      refine inductionHypothesis (by omega) (fun j jInside before => ?_) above
      exact partitioned j middle (by omega) middleInside passes
  | case2 low high bound gap middle middleInside fails inductionHypothesis =>
      refine inductionHypothesis (by omega) below (fun j jInside after => ?_)
      rw [Bool.eq_false_iff]
      intro passes
      exact fails (partitioned middle j after jInside passes)
  | case3 low high bound gap =>
      constructor
      · intro passes
        by_cases before : i < low
        · exact before
        · have := above i inside (by omega)
          simp [passes] at this
      · exact below i inside

theorem lt_partitionPoint_iff
    {items : Array α} {test : α → Bool}
    (partitioned : Partitioned items test)
    (i : Nat) (inside : i < items.size) :
    i < partitionPoint items test ↔ test items[i] = true := by
  have spec :=
    partitionFrom_spec partitioned 0 items.size (Nat.le_refl _) (Nat.zero_le _)
      (fun _ _ before => absurd before (Nat.not_lt_zero _))
      (fun _ jInside after => absurd jInside (Nat.not_lt.mpr after))
      i inside
  exact spec.symm

/-- The elements before the partition point are those that pass. -/
theorem take_partitionPoint
    {items : Array α} {test : α → Bool}
    (partitioned : Partitioned items test) :
    items.toList.take (partitionPoint items test) = items.toList.filter test := by
  have front :
      (items.toList.take (partitionPoint items test)).filter test =
        items.toList.take (partitionPoint items test) := by
    rw [List.filter_eq_self]
    intro item member
    obtain ⟨i, inside, rfl⟩ := List.mem_take_iff_getElem.mp member
    have before := Nat.lt_min.mp inside
    exact (lt_partitionPoint_iff partitioned i before.2).mp before.1
  have back :
      (items.toList.drop (partitionPoint items test)).filter test = [] := by
    rw [List.filter_eq_nil_iff]
    intro item member
    obtain ⟨i, inside, rfl⟩ := List.mem_drop_iff_getElem.mp member
    intro passes
    have := (lt_partitionPoint_iff partitioned (partitionPoint items test + i)
      (by simpa [Nat.add_comm] using inside)).mpr passes
    omega
  calc
    items.toList.take (partitionPoint items test)
        = (items.toList.take (partitionPoint items test)
            ++ items.toList.drop (partitionPoint items test)).filter test := by
          rw [List.filter_append, front, back, List.append_nil]
    _ = items.toList.filter test := by
          rw [List.take_append_drop]

end Reservations
