import Reservations.Proofs.Sql.Step

namespace Reservations.Sql

/-! ## Where tokens stand

A text that has tokens is made up of pieces, one after the other: each of them is a token as
it is written, or a gap between tokens. -/

/-- A piece of a text, with its token if it is no gap. -/
structure Piece where
  chars : List Char
  token? : Option Token
  deriving DecidableEq

/-- The pieces of a text, in no more steps than it has characters. -/
def piecesFrom? : (steps : Nat) → (afterWord : Bool) → List Char → Option (List Piece)
  | _, _, [] => some []
  | 0, _, _ :: _ => none
  | steps + 1, afterWord, c :: cs => do
      let (token?, rest) ← step? afterWord c cs
      let others ← piecesFrom? steps (token?.any Token.isWord) rest
      return ⟨(c :: cs).take ((c :: cs).length - rest.length), token?⟩ :: others

/-- The pieces of a text. -/
def pieces? (cs : List Char) : Option (List Piece) :=
  piecesFrom? cs.length false cs

theorem scanOnto?_eq_map_piecesFrom?
    (steps : Nat) (afterWord : Bool) (found : List Token) (cs : List Char) :
    scanOnto? steps afterWord found cs =
      (piecesFrom? steps afterWord cs).map fun pieces =>
        found.reverse ++ pieces.filterMap Piece.token? := by
  induction steps generalizing afterWord found cs with
  | zero =>
      cases cs with
      | nil => simp [scanOnto?, piecesFrom?]
      | cons c cs => rfl
  | succ steps inductionHypothesis =>
      cases cs with
      | nil => simp [scanOnto?, piecesFrom?]
      | cons c cs =>
          rw [scanOnto?, piecesFrom?]
          rcases step? afterWord c cs with _ | ⟨_ | token, rest⟩
          · rfl
          · refine (inductionHypothesis false found rest).trans ?_
            simp only [Option.bind_eq_bind, Option.bind_some, Option.any_none]
            cases piecesFrom? steps false rest <;> rfl
          · refine (inductionHypothesis token.isWord (token :: found) rest).trans ?_
            simp only [Option.bind_eq_bind, Option.bind_some, Option.any_some, List.reverse_cons,
              List.append_assoc, List.singleton_append]
            cases piecesFrom? steps token.isWord rest <;> rfl

/-- The tokens of a text are those of its pieces. -/
theorem scan?_eq_map_pieces? (cs : List Char) :
    scan? cs = (pieces? cs).map (List.filterMap Piece.token?) :=
  scanOnto?_eq_map_piecesFrom? cs.length false [] cs

/-- The text of some pieces. -/
def textOf (pieces : List Piece) : List Char :=
  pieces.flatMap Piece.chars

/-- Each piece is what one step takes from the front of the text that is left. -/
def AreTaken : List Piece → Prop
  | [] => True
  | piece :: others =>
      Takes (piece.chars ++ textOf others) piece.token? (textOf others) ∧ AreTaken others

theorem areTaken_of_piecesFrom?
    {steps : Nat} {afterWord : Bool} {cs : List Char} {pieces : List Piece}
    (found : piecesFrom? steps afterWord cs = some pieces) :
    textOf pieces = cs ∧ AreTaken pieces := by
  induction steps generalizing afterWord cs pieces with
  | zero =>
      cases cs with
      | nil =>
          obtain rfl := Option.some.inj found
          exact ⟨rfl, trivial⟩
      | cons c cs => cases found
  | succ steps inductionHypothesis =>
      cases cs with
      | nil =>
          obtain rfl := Option.some.inj found
          exact ⟨rfl, trivial⟩
      | cons c cs =>
          obtain ⟨⟨token?, rest⟩, taken, found⟩ := Option.bind_eq_some_iff.mp found
          obtain ⟨others, behind, same⟩ := Option.bind_eq_some_iff.mp found
          obtain rfl := Option.some.inj same
          obtain ⟨rfl, areTaken⟩ := inductionHypothesis behind
          have takes := Takes.of_step? taken
          have whole : (c :: cs).take ((c :: cs).length - (textOf others).length) ++
              textOf others = c :: cs :=
            List.suffix_iff_eq_append.mp takes.suffix
          refine ⟨whole, ?_, areTaken⟩
          rw [whole]
          exact takes

theorem AreTaken.takes
    {front back : List Piece} {piece : Piece} (taken : AreTaken (front ++ piece :: back)) :
    Takes (piece.chars ++ textOf back) piece.token? (textOf back) := by
  induction front with
  | nil => exact taken.1
  | cons first front inductionHypothesis => exact inductionHypothesis taken.2

/-- Every character of a text stands in one of its pieces. -/
theorem exists_piece
    {pieces : List Piece} {before rest : List Char} {c : Char}
    (split : before ++ c :: rest = textOf pieces) :
    ∃ front piece back inner outer, pieces = front ++ piece :: back ∧
      piece.chars = inner ++ c :: outer ∧ before = textOf front ++ inner ∧
        rest = outer ++ textOf back := by
  induction pieces generalizing before with
  | nil => exact absurd split (List.append_ne_nil_of_right_ne_nil _ (List.cons_ne_nil _ _))
  | cons piece pieces inductionHypothesis =>
      rw [textOf, List.flatMap_cons] at split
      have later {inner : List Char} (chars : before = piece.chars ++ inner)
          (same : inner ++ c :: rest = textOf pieces) :
          ∃ front found back inner outer, piece :: pieces = front ++ found :: back ∧
            found.chars = inner ++ c :: outer ∧ before = textOf front ++ inner ∧
              rest = outer ++ textOf back := by
        obtain ⟨front, found, back, inner, outer, rfl, written, rfl, rfl⟩ :=
          inductionHypothesis same
        exact ⟨piece :: front, found, back, inner, outer, rfl, written, by simp [textOf, chars],
          rfl⟩
      rcases List.append_eq_append_iff.mp split with ⟨behind, chars, same⟩ | ⟨inner, chars, same⟩
      · cases behind with
        | nil => exact later (by rw [chars, List.append_nil, List.append_nil]) same
        | cons d outer =>
            obtain ⟨rfl, rfl⟩ := List.cons.inj same
            exact ⟨[], piece, pieces, before, outer, rfl, chars, rfl, rfl⟩
      · exact later chars same.symm

end Reservations.Sql
