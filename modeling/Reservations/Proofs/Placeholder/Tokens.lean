import Reservations.Proofs.Placeholder.Occurrence
import Reservations.Proofs.Sql.Trace

namespace Reservations

/-! ## Places and tokens

Places are looked for before a statement is read as tokens, and only single quotes are heeded
then. Still they are the placeholders among the tokens, where nothing but string literals holds
a stray quote or a dollar sign that begins no placeholder. -/

open Sql

/-! ### Texts without places -/

/-- Whether a part is a character that is kept. -/
def Segment.isKept : Segment → Bool
  | kept _ => true
  | place _ => false

/-- Whether a text closes the quotes that it opens, and has dollar signs only between them. -/
def isClosed (text : List Char) : Bool :=
  !opensQuotes text && (cut text).all Segment.isKept

/-- A dollar sign in such a text stands between quotes. -/
theorem opensQuotes_of_isClosed
    {text before after : List Char} (closed : isClosed text = true)
    (split : before ++ '$' :: after = text) :
    opensQuotes before = true := by
  subst split
  by_contra unquoted
  rw [Bool.not_eq_true] at unquoted
  obtain ⟨front, back, split, _⟩ := (occurrenceAt before after).standsBehind_iff.mpr unquoted
  rw [isClosed, Bool.and_eq_true, split, List.all_append, List.all_cons] at closed
  simp [Segment.isKept] at closed

/-- All of a doubled text is kept between quotes. -/
theorem cutFrom_doubled (value rest : List Char) :
    cutFrom 0 true (Text.doubled '\'' value ++ rest) =
      (Text.doubled '\'' value).map .kept ++ cutFrom 0 true rest := by
  induction value with
  | nil => rfl
  | cons c value inductionHypothesis =>
      rw [Text.doubled]
      split
      · rw [List.cons_append, List.cons_append, cutFrom, if_pos rfl, cutFrom, if_pos rfl,
          Bool.not_true, Bool.not_false, inductionHypothesis]
        rfl
      · next other =>
          rw [List.cons_append, cutFrom, if_neg other, if_neg (by simp), inductionHypothesis]
          rfl

theorem opensQuotes_doubled (value : List Char) :
    opensQuotes (Text.doubled '\'' value) = false := by
  induction value with
  | nil => rfl
  | cons c value inductionHypothesis =>
      rw [Text.doubled]
      split
      · rw [opensQuotes_cons_quote, opensQuotes_cons_quote, inductionHypothesis]
        rfl
      · next other => rw [opensQuotes_cons_of_ne other, inductionHypothesis]

theorem isClosed_quoted (value : List Char) :
    isClosed ('\'' :: (Text.doubled '\'' value ++ ['\''])) = true := by
  have kept : cut ('\'' :: (Text.doubled '\'' value ++ ['\''])) =
      .kept '\'' :: ((Text.doubled '\'' value).map .kept ++ [.kept '\'']) := by
    rw [cut, cutFrom, if_pos rfl, Bool.not_false, cutFrom_doubled]
    rfl
  have closes : opensQuotes ('\'' :: (Text.doubled '\'' value ++ ['\''])) = false := by
    rw [opensQuotes_cons_quote, opensQuotes_append, opensQuotes_doubled]
    rfl
  rw [isClosed, closes, kept]
  simp [Segment.isKept]

/-- A letter before a text makes no difference to it. -/
theorem isClosed_cons
    {c : Char} (starts : startsName c = true) (text : List Char) :
    isClosed (c :: text) = isClosed text := by
  have unquoted : c ≠ '\'' := by
    rintro rfl
    exact absurd starts (by decide)
  have unplaced : c ≠ '$' := by
    rintro rfl
    exact absurd starts (by decide)
  rw [isClosed, isClosed, opensQuotes_cons_of_ne unquoted, cut, cutFrom, if_neg unquoted,
    if_neg fun place => unplaced place.1]
  rfl

namespace Sql

/-! ### Plain pieces -/

/-- Whether a literal is a text between single quotes, without escapes in it. -/
def Literal.isString : Literal → Bool
  | .text _ | .national _ | .bits _ => true
  | _ => false

/-- Whether a literal is a placeholder that is a number. -/
def Literal.isNumbered : Literal → Bool
  | .placeholder name => (name.toList.drop 1).all Text.isDigit
  | _ => false

/-- Whether a piece is a string literal or a placeholder that is a number, or any other one with
no stray quotes and no stray dollar signs in it. -/
def Piece.isPlain (piece : Piece) : Bool :=
  match piece.token? with
  | some (.literal value) => value.isString || value.isNumbered || isClosed piece.chars
  | _ => isClosed piece.chars

theorem Takes.isClosed_of_isString
    {chars rest : List Char} {value : Literal}
    (takes : Takes (chars ++ rest) (some (.literal value)) rest)
    (string : value.isString = true) :
    isClosed chars = true := by
  have quoted (value : List Char) :
      '\'' :: (Text.doubled '\'' value ++ '\'' :: rest) =
        '\'' :: (Text.doubled '\'' value ++ ['\'']) ++ rest := by
    simp
  generalize whole : chars ++ rest = cs at takes
  cases takes with
  | text value =>
      rw [quoted, List.append_left_inj] at whole
      rw [whole, isClosed_quoted]
  | bits starts value | national starts value =>
      rw [quoted, ← List.cons_append, List.append_left_inj] at whole
      rw [whole, isClosed_cons starts, isClosed_quoted]
  | placeholder => cases string
  | literal other =>
      cases value with
      | text | national | bits => cases other
      | _ => cases string
  | sign known => cases known

theorem Takes.chars_of_placeholder
    {chars rest : List Char} {name : String}
    (takes : Takes (chars ++ rest) (some (.literal (.placeholder name))) rest) :
    ∃ tag, chars = '$' :: tag ∧ name = String.ofList chars ∧
      rest.head?.any Text.isAlphanumeric = false := by
  generalize whole : chars ++ rest = cs at takes
  cases takes with
  | placeholder tag ends =>
      rw [← List.cons_append, List.append_left_inj] at whole
      exact ⟨tag, whole, by rw [whole], ends⟩
  | literal other => cases other
  | sign known => cases known

end Sql

/-! ### Placeholders -/

theorem Text.isAlphanumeric_of_isDigit {c : Char} (digit : Text.isDigit c = true) :
    Text.isAlphanumeric c = true := by
  have code := Text.code_of_isDigit digit
  have ascii : c.toNat < 128 := by omega
  rw [Text.isAlphanumeric, if_pos ascii, Char.isAlphanum, Bool.or_eq_true]
  exact Or.inr digit

/-- A placeholder among the tokens stands behind the same text, with the same digits. -/
def Occurrence.IsRead {text : List Char} (place : Occurrence text) (pieces : List Piece) : Prop :=
  ∃ front piece back, pieces = front ++ piece :: back ∧ textOf front = place.before ∧
    piece.token? = some (.literal (.placeholder (String.ofList ('$' :: place.digits))))

section Plain

variable {pieces : List Piece} (taken : AreTaken pieces)
  (plain : ∀ piece ∈ pieces, piece.isPlain = true)

include taken plain

/-- A piece is a placeholder that is a number, or it has no dollar signs outside quotes. -/
theorem isPlain_cases
    {front back : List Piece} {piece : Piece} (split : pieces = front ++ piece :: back) :
    isClosed piece.chars = true ∨
      ∃ digits, piece.chars = '$' :: digits ∧ digits.all Text.isDigit = true ∧
        piece.token? = some (.literal (.placeholder (String.ofList piece.chars))) ∧
          (textOf back).head?.any Text.isDigit = false := by
  subst split
  have takes := taken.takes
  have isPlain := plain piece (by simp)
  rw [Piece.isPlain] at isPlain
  split at isPlain
  · next value token =>
      rw [token] at takes
      rw [Bool.or_eq_true, Bool.or_eq_true] at isPlain
      rcases isPlain with (string | numbered) | closed
      · exact Or.inl (takes.isClosed_of_isString string)
      · cases value with
        | placeholder name =>
            obtain ⟨tag, chars, rfl, ends⟩ := takes.chars_of_placeholder
            rw [Literal.isNumbered, String.toList_ofList, chars] at numbered
            refine Or.inr ⟨tag, chars, numbered, token, ?_⟩
            cases behind : textOf back with
            | nil => rfl
            | cons c rest =>
                rw [behind] at ends
                exact Bool.eq_false_iff.mpr fun digit =>
                  Bool.eq_false_iff.mp ends (Text.isAlphanumeric_of_isDigit digit)
        | _ => cases numbered
      · exact Or.inl closed
  · exact Or.inl isPlain

/-- No quotes are open between pieces. -/
theorem opensQuotes_textOf
    {front back : List Piece} (split : pieces = front ++ back) :
    opensQuotes (textOf front) = false := by
  induction front using List.reverseRecOn generalizing back with
  | nil => rfl
  | append_singleton front piece inductionHypothesis =>
      rw [List.append_assoc, List.singleton_append] at split
      have whole : textOf (front ++ [piece]) = textOf front ++ piece.chars := by simp [textOf]
      rw [whole, opensQuotes_append, inductionHypothesis split, Bool.false_xor]
      rcases isPlain_cases taken plain split with closed | ⟨digits, chars, numeral, _⟩
      · rw [isClosed, Bool.and_eq_true, Bool.not_eq_true'] at closed
        exact closed.1
      · have free : '\'' ∉ piece.chars := by
          rw [chars, List.mem_cons]
          rintro (same | member)
          · exact absurd same (by decide)
          · exact absurd (List.all_eq_true.mp numeral _ member) (by decide)
        exact opensQuotes_of_not_mem free

/-- Outside quotes stand the placeholders among the tokens and nothing else. -/
theorem isRead_iff {text : List Char} (written : textOf pieces = text) (place : Occurrence text) :
    place.IsRead pieces ↔ place.isQuoted = false := by
  constructor
  · rintro ⟨front, piece, back, split, before, _⟩
    rw [Occurrence.isQuoted, ← before]
    exact opensQuotes_textOf taken plain split
  · intro unquoted
    obtain ⟨front, piece, back, inner, outer, split, chars, before, rest⟩ :=
      exists_piece (place.whole.trans written.symm)
    -- Only quotes in the piece of the dollar sign itself could be open there.
    have inside : opensQuotes inner = false := by
      rw [Occurrence.isQuoted, before, opensQuotes_append, opensQuotes_textOf taken plain split,
        Bool.false_xor] at unquoted
      exact unquoted
    rcases isPlain_cases taken plain split with closed | ⟨digits, same, numeral, token, ends⟩
    · exact absurd (opensQuotes_of_isClosed closed chars.symm) (inside ▸ Bool.false_ne_true)
    · rw [same] at chars
      cases inner with
      | cons c inner =>
          obtain ⟨_, more⟩ := List.cons.inj chars
          have member : '$' ∈ digits := by simp [more]
          exact absurd (List.all_eq_true.mp numeral _ member) (by decide)
      | nil =>
          obtain ⟨_, rfl⟩ := List.cons.inj chars
          -- The placeholder ends where the digits do: no letter or digit follows it.
          have digits := congrArg (List.takeWhile Text.isDigit) rest
          rw [takeWhile_isDigit_append place.numeral place.ends,
            takeWhile_isDigit_append numeral ends] at digits
          refine ⟨front, piece, back, split, ?_, ?_⟩
          · rw [before, List.append_nil]
          · rw [token, same, digits]

end Plain

/-- Values are written into the placeholders among the tokens of a statement that count to one of
them, and nowhere else. -/
def FillsPlaceholders (statement : String) (pieces : List Piece) : Prop :=
  ∀ (place : Occurrence statement.toList) (values : List Parameter),
    place.IsFilled values ↔
      place.IsRead pieces ∧
        ∃ number, place.number? = some number ∧ 1 ≤ number ∧ number ≤ values.length

/-- For that the placeholders have to be the dollar signs outside single quotes. They are, where
nothing but string literals has stray quotes and stray dollar signs in it. -/
theorem fillsPlaceholders_iff
    {statement : String} {pieces : List Piece} (found : pieces? statement.toList = some pieces) :
    textOf pieces = statement.toList ∧
      scan? statement.toList = some (pieces.filterMap Piece.token?) ∧
      (FillsPlaceholders statement pieces ↔
        ∀ (place : Occurrence statement.toList) (number : Nat),
          place.number? = some number → 1 ≤ number →
            (place.IsRead pieces ↔ place.isQuoted = false)) ∧
      ((∀ piece ∈ pieces, piece.isPlain = true) → FillsPlaceholders statement pieces) := by
  obtain ⟨whole, taken⟩ := areTaken_of_piecesFrom? found
  refine ⟨whole, by rw [scan?_eq_map_pieces?, found, Option.map_some], ⟨?exact, ?enough⟩, ?plain⟩
  case exact =>
    -- With enough values every positive number counts to one of them.
    intro fills place number denoted positive
    have inside : ∃ other, place.number? = some other ∧ 1 ≤ other ∧
        other ≤ (List.replicate number (none : Parameter)).length :=
      ⟨number, denoted, positive, by simp⟩
    have filled := fills place (List.replicate number none)
    rw [Occurrence.isFilled_iff, and_iff_left inside, and_iff_left inside] at filled
    exact filled.symm
  case enough =>
    intro same place values
    rw [Occurrence.isFilled_iff, and_congr_left_iff]
    rintro ⟨number, denoted, positive, _⟩
    exact (same place number denoted positive).symm
  case plain =>
    intro plain place values
    rw [Occurrence.isFilled_iff, isRead_iff taken plain whole]

/-- A booking with a quote and a dollar sign in a string literal. -/
def quotedBooking : String :=
  "INSERT INTO reservations (resource_id, customer_name) VALUES ($1, N'it''s $2')"

theorem fillsPlaceholders_quotedBooking :
    ∃ pieces, pieces? quotedBooking.toList = some pieces ∧
      FillsPlaceholders quotedBooking pieces := by
  have isPlain : (pieces? quotedBooking.toList).any (·.all Piece.isPlain) = true := by
    decide +kernel
  cases found : pieces? quotedBooking.toList with
  | none =>
      rw [found] at isPlain
      cases isPlain
  | some pieces =>
      rw [found] at isPlain
      have plain := List.all_eq_true.mp isPlain
      exact ⟨pieces, rfl, (fillsPlaceholders_iff found).2.2.2 plain⟩

/-- A selection with a quote in a comment. -/
def remarkedFilter : String :=
  "SELECT * FROM reservations -- it's all\nWHERE id = $1"

/-- The placeholder of a selection. -/
def filterPlace : Occurrence remarkedFilter.toList where
  before := "SELECT * FROM reservations -- it's all\nWHERE id = ".toList
  digits := ['1']
  after := []
  whole := by decide +kernel
  numeral := rfl
  ends := rfl

/-- Nothing is written into a placeholder behind a comment with a quote in it. -/
theorem not_fillsPlaceholders_behind_comment :
    ∃ pieces, pieces? remarkedFilter.toList = some pieces ∧ filterPlace.IsRead pieces ∧
      filterPlace.number? = some 1 ∧ (∀ values, ¬filterPlace.IsFilled values) ∧
        ¬FillsPlaceholders remarkedFilter pieces := by
  let front := ((pieces? remarkedFilter.toList).getD []).dropLast
  let piece : Piece := ⟨['$', '1'], some (.literal (.placeholder "$1"))⟩
  have found : pieces? remarkedFilter.toList = some (front ++ [piece]) := by decide +kernel
  have before : textOf front = filterPlace.before := by decide +kernel
  have quoted : filterPlace.isQuoted = true := by decide +kernel
  have number : filterPlace.number? = some 1 := by decide +kernel
  have read : filterPlace.IsRead (front ++ [piece]) := ⟨front, piece, [], rfl, before, rfl⟩
  have empty (values : List Parameter) : ¬filterPlace.IsFilled values := by
    intro filled
    exact Bool.false_ne_true ((Occurrence.isFilled_iff.mp filled).1.symm.trans quoted)
  refine ⟨_, found, read, number, empty, ?_⟩
  intro fills
  exact empty [none] ((fills filterPlace [none]).mpr ⟨read, 1, number, Nat.le_refl 1, Nat.le_refl 1⟩)

end Reservations
