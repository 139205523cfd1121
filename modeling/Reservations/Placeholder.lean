import Reservations.Text.Integer
import Reservations.Text.Quoted
import Reservations.Text.Utf8

namespace Reservations

/-! ## Placeholders

A statement may hold places for values, which are a dollar sign and a number.
The values are written into the statement as literals before it is read. -/

/-- A part of a statement. -/
inductive Segment where
  | kept (c : Char)
  /-- A dollar sign and the digits after it, outside single quotes. -/
  | place (digits : List Char)
  deriving DecidableEq, Repr

/-- A part of a statement as it is written there. -/
def Segment.text : Segment → List Char
  | kept c => [c]
  | place digits => '$' :: digits

/-- Cuts a statement into parts. The count says how many digits of a place are
already taken, and the flag whether single quotes are open. -/
def cutFrom : (taken : Nat) → (quoted : Bool) → List Char → List Segment
  | _, _, [] => []
  | taken + 1, quoted, _ :: cs => cutFrom taken quoted cs
  | 0, quoted, c :: cs =>
      if c = '\'' then .kept c :: cutFrom 0 (!quoted) cs
      else if c = '$' ∧ quoted = false then
        let digits := cs.takeWhile Text.isDigit
        .place digits :: cutFrom digits.length quoted cs
      else .kept c :: cutFrom 0 quoted cs

/-- Cuts a statement into parts. -/
def cut (cs : List Char) : List Segment :=
  cutFrom 0 false cs

/-- The number that the digits of a place denote. -/
def placeNumber? (digits : List Char) : Option Nat :=
  Text.readNat? Text.bound64 digits

/-- A value for a place: the bytes of a text, or none for a null. -/
abbrev Parameter := Option (List UInt8)

/-- A value as a literal. -/
def Parameter.render : Parameter → List Char
  | none => "NULL".toList
  | some bytes => '\'' :: Text.doubled '\'' (Text.ofBytes bytes).toList ++ ['\'']

/-- The value for a place among values that are counted from one. -/
def parameter? (parameters : List Parameter) (digits : List Char) : Option Parameter :=
  match placeNumber? digits with
  | some (index + 1) => parameters[index]?
  | _ => none

/-- A part of a statement with its value written in, if there is one for it. -/
def Segment.fill (parameters : List Parameter) : Segment → List Char
  | kept c => [c]
  | place digits =>
      match parameter? parameters digits with
      | some parameter => parameter.render
      | none => '$' :: digits

/-- A statement with values written into its places. -/
def inlineParameters (statement : String) (parameters : List Parameter) : String :=
  String.ofList ((cut statement.toList).flatMap (Segment.fill parameters))

/-- The number after a dollar sign that a text begins with. -/
def leadingNumber? : List Char → Option Nat
  | '$' :: cs => placeNumber? (cs.takeWhile Text.isDigit)
  | _ => none

/-- The numbers after the dollar signs of a text, quoted or not. -/
def placeNumbers : List Char → List Nat
  | [] => []
  | c :: cs => (leadingNumber? (c :: cs)).toList ++ placeNumbers cs

/-- How many parameters a statement is said to have: the highest number after a
dollar sign, quoted or not. -/
def parameterCount (statement : String) : Nat :=
  (placeNumbers statement.toList).foldl max 0

/-- The parts of a text make it up. -/
theorem flatMap_text_cutFrom
    (taken : Nat) (quoted : Bool) (cs : List Char) :
    (cutFrom taken quoted cs).flatMap Segment.text = cs.drop taken := by
  induction cs generalizing taken quoted with
  | nil => simp [cutFrom]
  | cons c cs inductionHypothesis =>
      cases taken with
      | succ taken => simp [cutFrom, inductionHypothesis]
      | zero =>
          unfold cutFrom
          split
          · simp [Segment.text, inductionHypothesis]
          · split
            · rename_i dollar
              have tail :
                  cs.drop (cs.takeWhile Text.isDigit).length = cs.dropWhile Text.isDigit := by
                have whole :
                    (cs.takeWhile Text.isDigit ++ cs.dropWhile Text.isDigit).drop
                      (cs.takeWhile Text.isDigit).length = cs.dropWhile Text.isDigit :=
                  List.drop_left
                rwa [List.takeWhile_append_dropWhile] at whole
              simp [Segment.text, inductionHypothesis, tail, dollar.1]
            · simp [Segment.text, inductionHypothesis]

/-- A statement is made up of its parts. -/
theorem flatMap_text_cut (cs : List Char) :
    (cut cs).flatMap Segment.text = cs := by
  simp [cut, flatMap_text_cutFrom]

end Reservations
