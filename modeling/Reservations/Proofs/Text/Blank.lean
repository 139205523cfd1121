import Mathlib.Data.List.TakeWhile
import Reservations.Text.Blank

namespace Reservations.Text

/-! ## Blanks around a text -/

section Surrounded

variable {before after : List Char} (blankBefore : ∀ c ∈ before, isBlank c = true)
  (blankAfter : ∀ c ∈ after, isBlank c = true)

include blankAfter in
theorem trimEnd_append (cs : List Char) : trimEnd (cs ++ after) = trimEnd cs := by
  have blank : ∀ c ∈ after.reverse, isBlank c = true := fun c member =>
    blankAfter c (List.mem_reverse.mp member)
  rw [trimEnd, List.reverse_append, List.dropWhile_append_of_pos blank, trimEnd]

include blankBefore blankAfter in
/-- Blanks around a text make no difference. -/
theorem trim_surrounded (cs : List Char) : trim (before ++ cs ++ after) = trim cs := by
  rw [trim, trimStart, List.append_assoc, List.dropWhile_append_of_pos blankBefore,
    List.dropWhile_append, trim, trimStart]
  split
  case isTrue nothing =>
    rw [List.isEmpty_iff] at nothing
    rw [nothing, List.dropWhile_eq_nil_iff.mpr blankAfter]
  case isFalse something => rw [trimEnd_append blankAfter]

end Surrounded

/-- There is a last character, and it is no blank. -/
def EndsSolid (cs : List Char) : Prop :=
  ∃ c ∈ cs.getLast?, isBlank c = false

theorem EndsSolid.append (front : List Char) {cs : List Char} (ends : EndsSolid cs) :
    EndsSolid (front ++ cs) := by
  obtain ⟨c, last, solid⟩ := ends
  refine ⟨c, ?_, solid⟩
  rw [List.getLast?_append, Option.mem_def.mp last]
  rfl

theorem EndsSolid.cons (first : Char) {cs : List Char} (ends : EndsSolid cs) :
    EndsSolid (first :: cs) :=
  ends.append [first]

/-- A text that neither begins nor ends with a blank is left as it is. -/
theorem trim_of_endsSolid {cs : List Char} (starts : trimStart cs = cs) (ends : EndsSolid cs) :
    trim cs = cs := by
  obtain ⟨c, last, solid⟩ := ends
  obtain ⟨front, rfl⟩ := List.getLast?_eq_some_iff.mp last
  rw [trim, starts, trimEnd, List.reverse_append, List.reverse_singleton, List.singleton_append,
    ← trimStart, trimStart_of_not_isBlank solid, List.reverse_cons, List.reverse_reverse]

end Reservations.Text
