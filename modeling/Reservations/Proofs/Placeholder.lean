import Reservations.Placeholder
import Reservations.Proofs.Log.Codec
import Reservations.Proofs.Sql.Scan

namespace Reservations

/-! ## Writing values into places

A statement is stretches of text with places between them. What is written into a place
is never looked at again. -/

/-- A stretch of a statement with neither quotes nor dollar signs, and the digits of the
place behind it. -/
structure Stretch where
  text : List Char
  digits : List Char

namespace Stretch

/-- A stretch as it is written. -/
def chars (stretch : Stretch) : List Char :=
  stretch.text ++ '$' :: stretch.digits

/-- Nothing in the text opens quotes or another place, and it does not go on with the
digits of the place before it. -/
def isPlain (text : List Char) : Bool :=
  text.all (fun c => c ≠ '\'' && c ≠ '$') && !text.head?.any Text.isDigit

/-- A stretch with its value written into its place. -/
def filled (parameters : List Parameter) (stretch : Stretch) : List Char :=
  stretch.text ++ (Segment.place stretch.digits).fill parameters

end Stretch

theorem cutFrom_plain
    {text : List Char} (plain : text.all (fun c => c ≠ '\'' && c ≠ '$') = true)
    (rest : List Char) :
    cutFrom 0 false (text ++ rest) = text.map .kept ++ cutFrom 0 false rest := by
  induction text with
  | nil => rfl
  | cons c text inductionHypothesis =>
      simp only [List.all_cons, Bool.and_eq_true, decide_eq_true_eq] at plain
      obtain ⟨⟨unquoted, unplaced⟩, others⟩ := plain
      rw [List.cons_append, cutFrom, if_neg unquoted, if_neg fun place => unplaced place.1]
      rw [inductionHypothesis (by simpa using others)]
      rfl

/-- The digits of a place are left out behind it. -/
theorem cutFrom_taken (taken : Nat) (quoted : Bool) (cs : List Char) :
    cutFrom taken quoted cs = cutFrom 0 quoted (cs.drop taken) := by
  induction taken generalizing cs with
  | zero => rfl
  | succ taken inductionHypothesis =>
      cases cs with
      | nil => rfl
      | cons c cs => rw [cutFrom, inductionHypothesis, List.drop_succ_cons]

/-- Digits are taken up to the first character that is none. -/
theorem takeWhile_isDigit_append
    {digits rest : List Char} (numeral : digits.all Text.isDigit = true)
    (ends : rest.head?.any Text.isDigit = false) :
    (digits ++ rest).takeWhile Text.isDigit = digits := by
  rw [List.all_eq_true] at numeral
  have stops : rest.takeWhile Text.isDigit = [] := by
    cases rest with
    | nil => rfl
    | cons c rest =>
        rw [List.takeWhile_cons_of_neg]
        simpa using ends
  rw [List.takeWhile_append_of_pos numeral, stops, List.append_nil]

theorem cutFrom_place
    {digits rest : List Char} (numeral : digits.all Text.isDigit = true)
    (ends : rest.head?.any Text.isDigit = false) :
    cutFrom 0 false ('$' :: (digits ++ rest)) = .place digits :: cutFrom 0 false rest := by
  have behind : (digits ++ rest).drop digits.length = rest := List.drop_left
  simp only [cutFrom, takeWhile_isDigit_append numeral ends, cutFrom_taken digits.length, behind]
  rfl

theorem fill_kept (parameters : List Parameter) (text : List Char) :
    (text.map Segment.kept).flatMap (Segment.fill parameters) = text := by
  induction text with
  | nil => rfl
  | cons c text inductionHypothesis =>
      rw [List.map_cons, List.flatMap_cons, inductionHypothesis]
      rfl

/-- Whether some stretches and what follows them can be told apart. -/
def arePlain : List Stretch → List Char → Bool
  | [], last => Stretch.isPlain last
  | stretch :: stretches, last =>
      Stretch.isPlain stretch.text && stretch.digits.all Text.isDigit && arePlain stretches last

/-- No place goes on with the digits of what follows it. -/
theorem head?_of_arePlain
    {stretches : List Stretch} {last : List Char} (plain : arePlain stretches last = true) :
    (stretches.flatMap Stretch.chars ++ last).head?.any Text.isDigit = false := by
  cases stretches with
  | nil =>
      simp only [arePlain, Stretch.isPlain, Bool.and_eq_true, Bool.not_eq_true'] at plain
      exact plain.2
  | cons stretch stretches =>
      simp only [arePlain, Stretch.isPlain, Bool.and_eq_true, Bool.not_eq_true'] at plain
      obtain ⟨⟨⟨_, first⟩, _⟩, _⟩ := plain
      rw [List.flatMap_cons, Stretch.chars]
      cases text : stretch.text with
      | nil => rfl
      | cons c rest =>
          rw [text] at first
          exact first

/-- By induction on the stretches: each place is filled, and everything else is kept. -/
theorem fill_cut
    {stretches : List Stretch} {last : List Char} (plain : arePlain stretches last = true)
    (parameters : List Parameter) :
    (cut (stretches.flatMap Stretch.chars ++ last)).flatMap (Segment.fill parameters) =
      stretches.flatMap (Stretch.filled parameters) ++ last := by
  rw [cut]
  induction stretches with
  | nil =>
      simp only [arePlain, Stretch.isPlain, Bool.and_eq_true] at plain
      have kept := cutFrom_plain plain.1 []
      rw [List.append_nil] at kept
      rw [List.flatMap_nil, List.nil_append, kept, List.flatMap_append, fill_kept]
      exact List.append_nil last
  | cons stretch stretches inductionHypothesis =>
      have parts := plain
      simp only [arePlain, Stretch.isPlain, Bool.and_eq_true] at parts
      obtain ⟨⟨⟨text, _⟩, numeral⟩, others⟩ := parts
      -- The text of the stretch is kept, its place is taken with all its digits, and what
      -- follows starts anew.
      have split : (stretch :: stretches).flatMap Stretch.chars ++ last =
          stretch.text ++ '$' :: (stretch.digits ++ (stretches.flatMap Stretch.chars ++ last)) := by
        simp [Stretch.chars]
      rw [split, cutFrom_plain text, cutFrom_place numeral (head?_of_arePlain others),
        List.flatMap_append, fill_kept, List.flatMap_cons, inductionHypothesis others]
      simp [Stretch.filled]

/-- A statement with its places filled. -/
theorem toList_inlineParameters
    {statement : String} {stretches : List Stretch} {last : List Char}
    (split : statement.toList = stretches.flatMap Stretch.chars ++ last)
    (plain : arePlain stretches last = true) (parameters : List Parameter) :
    (inlineParameters statement parameters).toList =
      stretches.flatMap (Stretch.filled parameters) ++ last := by
  rw [inlineParameters, String.toList_ofList, split, fill_cut plain]

/-! ### Values as literals -/

/-- The value of a text, or a null. -/
def Parameter.ofText? (text? : Option String) : Parameter :=
  text?.map Log.bytesOfString

/-- A text is written out between quotes, and nothing of it can be taken for the end. -/
theorem Parameter.render_ofText? (text? : Option String) :
    (ofText? text?).render = (Sql.Lexeme.value text?).chars := by
  cases text? with
  | none => rfl
  | some text =>
      have read : Text.ofBytes (Log.bytesOfString text) = text := by
        rw [Text.ofBytes, Log.fromUTF8?_bytesOfString]
      simp only [ofText?, Option.map_some, render, read]
      rfl

/-- A statement that ends with its only place. -/
theorem toList_inlineParameters_single
    {statement : String} {text : List Char} (split : statement.toList = text ++ ['$', '1'])
    (plain : Stretch.isPlain text = true) (value : Option String) :
    (inlineParameters statement [.ofText? value]).toList =
      text ++ (Sql.Lexeme.value value).chars := by
  have whole : statement.toList = [⟨text, ['1']⟩].flatMap Stretch.chars ++ [] := by
    rw [split]
    simp [Stretch.chars]
  have apart : arePlain [⟨text, ['1']⟩] [] = true := by
    simp only [arePlain, plain]
    rfl
  have place : (Segment.place ['1']).fill [.ofText? value] = (Parameter.ofText? value).render := rfl
  rw [toList_inlineParameters whole apart]
  simp only [List.flatMap_cons, List.flatMap_nil, Stretch.filled, place, Parameter.render_ofText?,
    List.append_nil]

end Reservations
