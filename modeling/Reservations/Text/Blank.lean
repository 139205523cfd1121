import Reservations.Text.Run

namespace Reservations.Text

/-! ## Blank characters

A character is blank when it has the Unicode property `White_Space`. -/

/-- The first and last code points of the runs of blank characters. -/
def blankRuns : List Run :=
  [(0x09, 0x0d), (0x20, 0x20), (0x85, 0x85), (0xa0, 0xa0), (0x1680, 0x1680),
    (0x2000, 0x200a), (0x2028, 0x2029), (0x202f, 0x202f), (0x205f, 0x205f),
    (0x3000, 0x3000)]

/-- Whether a character has the property `White_Space`. -/
def isBlank (c : Char) : Bool :=
  inRuns blankRuns c

/-- A text without the blank characters it begins with. -/
def trimStart (cs : List Char) : List Char :=
  cs.dropWhile isBlank

/-- A text without the blank characters it ends with. -/
def trimEnd (cs : List Char) : List Char :=
  (cs.reverse.dropWhile isBlank).reverse

/-- A text without the blank characters around it. -/
def trim (cs : List Char) : List Char :=
  trimEnd (trimStart cs)

/-- Every character that core takes for white space is blank. -/
theorem isBlank_of_isWhitespace
    {c : Char}
    (white : c.isWhitespace = true) :
    isBlank c = true := by
  simp only [Char.isWhitespace, Bool.or_eq_true, decide_eq_true_eq] at white
  rcases white with ((rfl | rfl) | rfl) | rfl <;> decide

theorem trimStart_of_not_isBlank
    {c : Char} {cs : List Char}
    (solid : isBlank c = false) :
    trimStart (c :: cs) = c :: cs := by
  simp [trimStart, solid]

end Reservations.Text
