import Reservations.Text.CaseTable

namespace Reservations.Text

/-! ## Upper and lower case

The case mappings of Unicode for whole texts. They agree with the mappings of
core on ASCII. -/

/-- The image of a code point under the run that holds it. -/
def shift? (runs : List CaseRun) (code : Nat) : Option Nat :=
  (runs.find? fun (first, last, step, _) =>
    first ≤ code && code ≤ last && (code - first) % step = 0).map
      fun (_, _, _, offset) => (code + offset).toNat

/-- The upper case of a character, which may have several characters. -/
def upperChar (c : Char) : List Char :=
  if c.toNat < 128 then [c.toUpper]
  else
    match upperSequences.lookup c.toNat with
    | some codes => codes.map Char.ofNat
    | none => [((shift? upperRuns c.toNat).map Char.ofNat).getD c]

/-- The upper case of a text. -/
def upper (cs : List Char) : List Char :=
  cs.flatMap upperChar

/-- The lower case of a character that stands alone. -/
def lowerChar (c : Char) : List Char :=
  if c.toNat < 128 then [c.toLower]
  else if c.toNat = 0x130 then ['i', Char.ofNat 0x307]
  else [((shift? lowerRuns c.toNat).map Char.ofNat).getD c]

/-- Whether the first character that counts has a case. -/
def startsCased (cs : List Char) : Bool :=
  ((cs.dropWhile (inRuns caseIgnorableRuns)).head?.map (inRuns casedRuns)).getD false

/-- The lower case of what follows some characters, which are given last first.
A capital sigma that ends a word has a form of its own. -/
def lowerAfter : (before : List Char) → List Char → List Char
  | _, [] => []
  | before, c :: cs =>
      (if c.toNat = 0x3a3 then
        [Char.ofNat (if startsCased before && !startsCased cs then 0x3c2 else 0x3c3)]
      else lowerChar c) ++ lowerAfter (c :: before) cs

/-- The lower case of a text. -/
def lower (cs : List Char) : List Char :=
  lowerAfter [] cs

theorem upperChar_of_ascii
    {c : Char}
    (ascii : c.toNat < 128) :
    upperChar c = [c.toUpper] := by
  simp [upperChar, ascii]

theorem lowerChar_of_ascii
    {c : Char}
    (ascii : c.toNat < 128) :
    lowerChar c = [c.toLower] := by
  simp [lowerChar, ascii]

end Reservations.Text
