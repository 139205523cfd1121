namespace Reservations.Text

/-! ## Runs of characters -/

/-- The first and the last code point of a run. -/
abbrev Run := Nat × Nat

/-- Whether a character lies in one of some runs. -/
def inRuns (runs : List Run) (c : Char) : Bool :=
  runs.any fun run => run.1 ≤ c.toNat && c.toNat ≤ run.2

end Reservations.Text
