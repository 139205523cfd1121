import Mathlib.Data.List.Forall2
import Reservations.Proofs.Sql.Statement

namespace Reservations.Sql

/-! ## Texts of statements

A text of statements about reservations, with semicolons between them, is read as these
statements and nothing else. -/

/-- A phrase with a spelling of its keywords. -/
structure SpelledPhrase where
  phrase : Phrase
  spelled : Keyword → String

namespace SpelledPhrase

def tokens (written : SpelledPhrase) (rest : List Token) : List Token :=
  written.phrase.tokens written.spelled rest

/-- A statement that a phrase is read as. -/
def IsReadAs (written : SpelledPhrase) (statement : Statement) : Prop :=
  ∃ source, written.phrase.statement source = statement

/-- The tokens of some phrases, with a semicolon before each. -/
def behindSemicolons (rest : List Token) : List SpelledPhrase → List Token
  | [] => rest
  | written :: others => .mark .semicolon :: written.tokens (behindSemicolons rest others)

theorem length_lt_length_tokens (written : SpelledPhrase) (rest : List Token) :
    rest.length + 1 < (written.tokens rest).length := by
  obtain ⟨phrase, spelled⟩ := written
  cases phrase with
  | insertion table columns value values =>
      cases columns <;>
        simp [tokens, Phrase.tokens, columnTokens, Grammar.rowTokens] <;> omega
  | _ => simp [tokens, Phrase.tokens]

theorem length_le_length_behindSemicolons (rest : List Token) (others : List SpelledPhrase) :
    others.length ≤ (behindSemicolons rest others).length := by
  induction others with
  | nil => exact Nat.zero_le _
  | cons written others inductionHypothesis =>
      have length := length_lt_length_tokens written (behindSemicolons rest others)
      rw [behindSemicolons, List.length_cons, List.length_cons]
      omega

end SpelledPhrase

section Reading

variable {written : SpelledPhrase} (plain : written.phrase.IsPlain) {rest : List Token}
  (ends : EndsStatement rest) (token : Token) (limit : List Token)

include plain ends

theorem statementsOnto_first :
    ∃ statement, written.IsReadAs statement ∧
      statementsOnto (token :: limit) [] (written.tokens rest) =
        statementsOnto limit [statement] rest := by
  obtain ⟨phrase, spelled⟩ := written
  obtain ⟨source, reads⟩ := Grammar.statement_phrase 44 plain spelled ends
  refine ⟨_, ⟨source, rfl⟩, ?_⟩
  cases phrase
  all_goals
    refine (Parse.run_bind rfl).trans ((Parse.run_bind rfl).trans ?_)
    exact Parse.run_bind reads

/-- Any other statement stands behind a semicolon. -/
theorem statementsOnto_next (found : List Statement) :
    ∃ statement, written.IsReadAs statement ∧
      statementsOnto (token :: limit) found (.mark .semicolon :: written.tokens rest) =
        statementsOnto limit (statement :: found) rest := by
  obtain ⟨phrase, spelled⟩ := written
  obtain ⟨source, reads⟩ := Grammar.statement_phrase 44 plain spelled ends
  refine ⟨_, ⟨source, rfl⟩, ?_⟩
  cases phrase <;> cases found
  all_goals
    refine (Parse.run_bind rfl).trans ((Parse.run_bind rfl).trans ?_)
    exact Parse.run_bind reads

end Reading

/-- Nothing comes at the end of a text, or a last semicolon. -/
def EndsText (rest : List Token) : Prop :=
  rest = [] ∨ rest = [.mark .semicolon]

section Text

open SpelledPhrase (behindSemicolons)

variable {others : List SpelledPhrase} {rest : List Token} (ends : EndsText rest)

include ends

theorem endsStatement_behindSemicolons : EndsStatement (behindSemicolons rest others) := by
  cases others with
  | cons written others => exact Or.inr ⟨_, rfl⟩
  | nil =>
      rcases ends with rfl | rfl
      · exact Or.inl rfl
      · exact Or.inr ⟨[], rfl⟩

/-- By induction on the phrases: each of them is read behind its semicolon. -/
theorem statementsOnto_behindSemicolons
    (plain : ∀ written ∈ others, written.phrase.IsPlain)
    (found : List Statement) (limit : List Token) (enough : others.length < limit.length) :
    ∃ statements, List.Forall₂ SpelledPhrase.IsReadAs others statements ∧
      statementsOnto limit found (behindSemicolons rest others) =
        .ok (found.reverse ++ statements, []) := by
  induction others generalizing found limit with
  | nil =>
      cases limit with
      | nil => cases enough
      | cons token limit =>
          refine ⟨[], .nil, ?_⟩
          rw [List.append_nil]
          rcases ends with rfl | rfl <;> rfl
  | cons written others inductionHypothesis =>
      cases limit with
      | nil => cases enough
      | cons token limit =>
          obtain ⟨now, later⟩ := List.forall_mem_cons.mp plain
          obtain ⟨statement, readAs, one⟩ := statementsOnto_next now
            (endsStatement_behindSemicolons ends) token limit found
          obtain ⟨statements, readsAs, more⟩ := inductionHypothesis later (statement :: found)
            limit (Nat.lt_of_succ_lt_succ enough)
          rw [List.reverse_cons, List.append_assoc] at more
          exact ⟨statement :: statements, .cons readAs readsAs, one.trans more⟩

end Text

/-- A text that consists of phrases, with semicolons between them and perhaps one at the end. -/
structure IsTextOf (first : SpelledPhrase) (others : List SpelledPhrase) (text : String) :
    Prop where
  plain : ∀ written ∈ first :: others, written.phrase.IsPlain
  scanned : ∃ rest, EndsText rest ∧
    scan? text.toList = some (first.tokens (SpelledPhrase.behindSemicolons rest others))

/-- The statements of such a text are what its phrases are read as. -/
theorem statements?_of_isTextOf
    {first : SpelledPhrase} {others : List SpelledPhrase} {text : String}
    (consists : IsTextOf first others text) :
    ∃ statements, statements? text = some statements ∧
      List.Forall₂ SpelledPhrase.IsReadAs (first :: others) statements := by
  obtain ⟨plain, rest, ends, scanned⟩ := consists
  obtain ⟨now, later⟩ := List.forall_mem_cons.mp plain
  have many := SpelledPhrase.length_le_length_behindSemicolons rest others
  have most := first.length_lt_length_tokens (SpelledPhrase.behindSemicolons rest others)
  generalize tokens : first.tokens (SpelledPhrase.behindSemicolons rest others) = all
    at scanned most
  obtain _ | ⟨token, limit⟩ := all
  · cases most
  have enough : others.length < limit.length := by
    rw [List.length_cons] at most
    omega
  obtain ⟨statement, readAs, one⟩ := statementsOnto_first now
    (endsStatement_behindSemicolons ends) token limit
  obtain ⟨statements, readsAs, more⟩ := statementsOnto_behindSemicolons ends later [statement]
    limit enough
  rw [tokens] at one
  refine ⟨statement :: statements, ?_, .cons readAs readsAs⟩
  simp only [statements?, scanned, Option.bind_eq_bind, Option.bind_some, one, more]
  rfl

/-! ### As lexemes -/

/-- The table of reservations. -/
def reservationsTable : Name :=
  .word "reservations" none

/-- The columns that an insertion gives values to. -/
def bookedNames : List Name :=
  [.word "resource_id" none, .word "customer_name" none, .word "customer_email" none,
    .word "start" (some .START), .quoted "end"]

/-- An insertion of a row into these columns. -/
def bookingPhrase (value : Option String) (values : List (Option String)) : Phrase :=
  .insertion reservationsTable bookedNames (.ofText? value) (values.map .ofText?)

/-- The keywords of the statements about reservations in upper case. -/
def capitals : Keyword → String
  | .INSERT => "INSERT"
  | .INTO => "INTO"
  | .VALUES => "VALUES"
  | .SELECT => "SELECT"
  | .FROM => "FROM"
  | .WHERE => "WHERE"
  | .DELETE => "DELETE"
  | _ => ""

/-- The words of the statements about reservations, and the keywords that they are. -/
theorem wordToken_words :
    wordToken "INSERT" = .word "INSERT" (some .INSERT) ∧
    wordToken "INTO" = .word "INTO" (some .INTO) ∧
    wordToken "VALUES" = .word "VALUES" (some .VALUES) ∧
    wordToken "DELETE" = .word "DELETE" (some .DELETE) ∧
    wordToken "SELECT" = .word "SELECT" (some .SELECT) ∧
    wordToken "FROM" = .word "FROM" (some .FROM) ∧
    wordToken "WHERE" = .word "WHERE" (some .WHERE) ∧
    wordToken "reservations" = .word "reservations" none ∧
    wordToken "resource_id" = .word "resource_id" none ∧
    wordToken "customer_name" = .word "customer_name" none ∧
    wordToken "customer_email" = .word "customer_email" none ∧
    wordToken "start" = .word "start" (some .START) ∧
    wordToken "id" = .word "id" (some .idle) := by
  decide +kernel

/-- An insertion up to its values. -/
def insertionHead : List Lexeme :=
  [.word "INSERT", .blank, .word "INTO", .blank, .word "reservations", .blank, .mark .openParen,
    .word "resource_id", .mark .comma, .blank, .word "customer_name", .mark .comma, .blank,
    .word "customer_email", .mark .comma, .blank, .word "start", .mark .comma, .blank,
    .quoted "end", .mark .closeParen, .blank, .word "VALUES", .blank, .mark .openParen]

/-- An insertion behind its first value. -/
def insertionTail (values : List (Option String)) : List Lexeme :=
  (values.flatMap fun value => [.mark .comma, .blank, .value value]) ++ [.mark .closeParen]

/-- An insertion of a row. -/
def insertionLexemes (value : Option String) (values : List (Option String)) : List Lexeme :=
  insertionHead ++ .value value :: insertionTail values

theorem areApart_insertionTail (value : Option String) (values : List (Option String)) :
    areApart (.value value :: insertionTail values) = true := by
  induction values generalizing value with
  | nil => rfl
  | cons next values inductionHypothesis => exact inductionHypothesis next

theorem areApart_insertionLexemes (value : Option String) (values : List (Option String)) :
    areApart (insertionLexemes value values) = true :=
  areApart_append (by decide) (areApart_insertionTail value values) rfl

theorem tokens_insertionTail (values : List (Option String)) :
    tokens (insertionTail values) =
      behindCommas ((values.map Value.ofText?).map Value.tokens) ++ [.mark .closeParen] := by
  induction values with
  | nil => rfl
  | cons value values inductionHypothesis =>
      cases value <;> exact congrArg (Token.mark .comma :: _ :: ·) inductionHypothesis

theorem tokens_insertionLexemes (value : Option String) (values : List (Option String)) :
    tokens (insertionLexemes value values) =
      (bookingPhrase value values).tokens capitals [] := by
  have head : tokens insertionHead =
      wordToken "INSERT" :: wordToken "INTO" :: wordToken "reservations" :: .mark .openParen ::
        wordToken "resource_id" :: .mark .comma :: wordToken "customer_name" :: .mark .comma ::
        wordToken "customer_email" :: .mark .comma :: wordToken "start" :: .mark .comma ::
        .quoted "end" :: .mark .closeParen :: wordToken "VALUES" :: [.mark .openParen] :=
    rfl
  have row : tokens (.value value :: insertionTail values) =
      (Value.ofText? value).tokens ++ tokens (insertionTail values) := by
    cases value <;> rfl
  rw [insertionLexemes, tokens_append, head, row, tokens_insertionTail]
  simp only [wordToken_words]
  rfl

/-- A statement that begins in some way and asks for reservations by the value of a column,
up to that value. -/
def filterHead (first : List Lexeme) (column : String) : List Lexeme :=
  first ++ [.blank, .word "FROM", .blank, .word "reservations", .blank, .word "WHERE", .blank,
    .word column, .blank, .operator '=', .blank]

/-- A statement about the reservations with a value in a column. -/
def filterLexemes (first : List Lexeme) (column text : String) : List Lexeme :=
  filterHead first column ++ [.value (some text)]

theorem areApart_filterLexemes
    {first : List Lexeme} {column : String} (apart : areApart (filterHead first column) = true)
    (text : String) :
    areApart (filterLexemes first column text) = true := by
  have blank : (filterHead first column).getLast? = some .blank := by
    simp [filterHead]
  exact areApart_append apart rfl (by rw [blank]; rfl)

theorem tokens_filterLexemes (first : List Lexeme) (column text : String) :
    tokens (filterLexemes first column text) =
      tokens first ++ [wordToken "FROM", wordToken "reservations", wordToken "WHERE",
        wordToken column, .operator "=", .literal (.text text)] := by
  rw [filterLexemes, filterHead, List.append_assoc, tokens_append]
  rfl

section Filters

variable {column : String} {keyword : Option Keyword}
  (named : wordToken column = .word column keyword) (text : String)

include named

theorem tokens_deletionLexemes :
    tokens (filterLexemes [.word "DELETE"] column text) =
      (Phrase.deletion reservationsTable (.word column keyword) text).tokens capitals [] := by
  have first : tokens [.word "DELETE"] = [wordToken "DELETE"] := rfl
  rw [tokens_filterLexemes, first, named]
  simp only [wordToken_words]
  rfl

theorem tokens_selectionLexemes :
    tokens (filterLexemes [.word "SELECT", .blank, .operator '*'] column text) =
      (Phrase.filtered reservationsTable (.word column keyword) text).tokens capitals [] := by
  have first : tokens [.word "SELECT", .blank, .operator '*'] =
      [wordToken "SELECT", .operator (String.singleton '*')] :=
    rfl
  rw [tokens_filterLexemes, first, named]
  simp only [wordToken_words]
  rfl

end Filters

end Reservations.Sql
