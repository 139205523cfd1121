import Reservations.Proofs.Binding
import Reservations.Proofs.Command.Shape
import Reservations.Proofs.Sql.Text

namespace Reservations.Command

open Sql

/-! ## What a command leaves out

A command accounts for the shape of the first statement of its text, and the shape accounts
for all of a phrase. What a text holds besides is dropped. -/

/-- The shape of the first statement of a text. -/
def shapeOf? (text : String) : Option Shape := do
  let statements ← statements? text
  shape? (← statements.head?)

/-- A text is a command as far as the shape of its first statement says one. -/
theorem ofText_eq_ok_iff {text : String} {command : Command} :
    ofText text = .ok command ↔
      ∃ shape, shapeOf? text = some shape ∧ shape.Says YieldedBy command := by
  rw [ofText, shapeOf?]
  rcases statements? text with _ | _ | ⟨statement, others⟩
  · simp
  · simp
  · exact ofStatement_eq_ok_iff

namespace Shape

/-- All that a phrase is made of, but for the spelling of its keywords. -/
def ofPhrase : Phrase → Shape
  | .insertion table columns value values =>
      .insertion table.ident (columns.map Name.ident) ((value :: values).map Value.expr)
  | .selection table => .selection table.ident
  | .filtered table column text => .filtered table.ident column.ident text
  | .deletion table column text => .deletion table.ident column.ident text

/-- No column of an insertion is named twice. -/
def NamesOnce : Shape → Prop
  | insertion _ columns _ => (columnKeys columns).Nodup
  | _ => True

/-- The same columns of an insertion with the same values, in some other order. -/
inductive Reorders : Shape → Shape → Prop
  | insertion {table other : Ident} {columns others : List Ident} {values otherValues : List Expr}
      (named : key other = key table) (full : (columnKeys others).length = otherValues.length)
      (reordered : ((columnKeys columns).zip values).Perm ((columnKeys others).zip otherValues)) :
      Reorders (insertion table columns values) (insertion other others otherValues)

variable {shape other : Shape} {command : Command}

theorem Says.of_row
    {row weaker : List String → List Expr → Request → Prop} (said : shape.Says row command)
    (once : shape.NamesOnce)
    (weakens : ∀ {columns values request}, columns.Nodup → row columns values request →
      weaker columns values request) :
    shape.Says weaker command := by
  cases said with
  | book named filled => exact .book named (weakens once filled)
  | list named => exact .list named
  | find named compared read => exact .find named compared read
  | listOf named compared read => exact .listOf named compared read
  | remove named compared read => exact .remove named compared read

/-- Nothing is lost as long as no column is named twice. -/
theorem says_iff_of_namesOnce (once : shape.NamesOnce) :
    shape.Says YieldedBy command ↔ shape.Says HoldsRow command := by
  constructor
  · intro said
    exact said.of_row once fun distinct => (yieldedBy_iff_of_once distinct).mp
  · intro said
    exact said.of_row once fun distinct => (yieldedBy_iff_of_once distinct).mpr

theorem Says.of_reorders
    (said : shape.Says HoldsRow command) (reorders : shape.Reorders other) :
    other.Says HoldsRow command := by
  cases reorders with
  | insertion named full reordered =>
      cases said with
      | book namedTable filled =>
          exact .book (named.trans namedTable) (filled.of_perm full reordered)

theorem NamesOnce.of_reorders
    (once : shape.NamesOnce) (said : shape.Says HoldsRow command)
    (reorders : shape.Reorders other) : other.NamesOnce := by
  cases reorders with
  | insertion _ full reordered =>
      cases said with
      | book _ filled =>
          have keys := reordered.map Prod.fst
          rw [List.map_fst_zip (Nat.le_of_eq filled.full),
            List.map_fst_zip (Nat.le_of_eq full)] at keys
          exact keys.nodup once

theorem shape?_statement (phrase : Phrase) (source : String) :
    shape? (phrase.statement source) = some (ofPhrase phrase) := by
  cases phrase <;> rfl

theorem map_shape?_of_isReadAs
    {written : List SpelledPhrase} {statements : List Statement}
    (readsAs : List.Forall₂ SpelledPhrase.IsReadAs written statements) :
    statements.map shape? = written.map fun spelled => some (ofPhrase spelled.phrase) := by
  induction readsAs with
  | nil => rfl
  | cons readAs _ inductionHypothesis =>
      obtain ⟨source, rfl⟩ := readAs
      rw [List.map_cons, List.map_cons, shape?_statement, inductionHypothesis]

end Shape

/-- What a command has to do with the text it is read from. -/
structure ReadFrom
    (text : String) (statement : Statement) (others : List Statement) (shape : Shape)
    (command : Command) : Prop where
  /-- The text is well formed as a whole, and its first statement has a shape. -/
  read : statements? text = some (statement :: others)
  shaped : shape? statement = some shape
  /-- The command is what the shape says, where the last value of a column counts. -/
  said : shape.Says YieldedBy command
  /-- If no column is named twice, it holds all values, in whatever order they stand. -/
  whole : shape.NamesOnce → shape.Says HoldsRow command
  reordered : shape.NamesOnce → ∀ other reordered, shapeOf? other = some reordered →
    shape.Reorders reordered → ofText other = .ok command
  /-- A phrase that is all there is in the text is all in the shape. Any others behind it are
  the other statements. -/
  phrases : ∀ first more, IsTextOf first more text →
    shape = .ofPhrase first.phrase ∧
      others.map shape? = more.map fun spelled => some (.ofPhrase spelled.phrase)
  /-- What else there is in the text makes no difference. -/
  dropped : ∀ other, shapeOf? other = some shape → ofText other = .ok command

/-- A text is accepted for the shape of its first statement alone. The command accounts for that
shape, and for the whole text if it is a single phrase without a column that is named twice. -/
theorem ofText_eq_ok_iff_readFrom {text : String} {command : Command} :
    ofText text = .ok command ↔
      ∃ statement others shape, ReadFrom text statement others shape command := by
  constructor
  · intro accepted
    obtain ⟨shape, found, said⟩ := ofText_eq_ok_iff.mp accepted
    obtain ⟨statements, read, first⟩ := Option.bind_eq_some_iff.mp found
    obtain ⟨statement, head, shaped⟩ := Option.bind_eq_some_iff.mp first
    obtain ⟨others, rfl⟩ := List.head?_eq_some_iff.mp head
    refine ⟨statement, others, shape, read, shaped, said, ?whole, ?reordered, ?phrases, ?dropped⟩
    case whole =>
      intro once
      exact (Shape.says_iff_of_namesOnce once).mp said
    case reordered =>
      intro once other reordered otherShape reorders
      have whole := (Shape.says_iff_of_namesOnce once).mp said
      have otherOnce := once.of_reorders whole reorders
      have otherSaid := (Shape.says_iff_of_namesOnce otherOnce).mpr (whole.of_reorders reorders)
      exact ofText_eq_ok_iff.mpr ⟨reordered, otherShape, otherSaid⟩
    case phrases =>
      intro first more consists
      obtain ⟨statements, readOther, readsAs⟩ := statements?_of_isTextOf consists
      rw [read, Option.some.injEq] at readOther
      subst readOther
      have shapes := Shape.map_shape?_of_isReadAs readsAs
      rw [List.map_cons, List.map_cons, shaped, List.cons.injEq, Option.some.injEq] at shapes
      exact shapes
    case dropped =>
      intro other otherShape
      exact ofText_eq_ok_iff.mpr ⟨shape, otherShape, said⟩
  · rintro ⟨statement, others, shape, read, shaped, said, _⟩
    refine ofText_eq_ok_iff.mpr ⟨shape, ?_, said⟩
    rw [shapeOf?, read]
    exact shaped

/-! ### Two statements in one text -/

/-- A removal in capital letters. -/
def spelledRemoval (text : String) : SpelledPhrase :=
  ⟨.deletion reservationsTable (.word "id" (some .idle)) text, capitals⟩

/-- Two removals with a semicolon between them. -/
def removalsLexemes (first second : String) : List Lexeme :=
  filterLexemes [.word "DELETE"] "id" first ++ .mark .semicolon :: .blank ::
    filterLexemes [.word "DELETE"] "id" second

theorem isTextOf_removals
    {text first second : String} (chars : text.toList = written (removalsLexemes first second)) :
    IsTextOf (spelledRemoval first) [spelledRemoval second] text := by
  have plain : ∀ text, (spelledRemoval text).phrase.IsPlain :=
    fun _ => ⟨isPlain_reservationsTable, .idle "id"⟩
  have id : wordToken "id" = .word "id" (some .idle) := by simp only [wordToken_words]
  have apart : areApart (removalsLexemes first second) = true := by
    have last : areApart (filterLexemes [.word "DELETE"] "id" second) = true :=
      areApart_filterLexemes (by decide) second
    have behind : areApart (.value (some first) :: .mark .semicolon :: .blank ::
        filterLexemes [.word "DELETE"] "id" second) = true :=
      last
    rw [removalsLexemes, filterLexemes, List.append_assoc]
    exact areApart_append (by decide) behind (by decide)
  refine ⟨?_, [], .inl rfl, ?_⟩
  · simp [plain]
  · have separator : tokens (.mark .semicolon :: .blank ::
        filterLexemes [.word "DELETE"] "id" second) =
          .mark .semicolon :: tokens (filterLexemes [.word "DELETE"] "id" second) :=
      rfl
    rw [chars, scan?_written apart, removalsLexemes, tokens_append, separator,
      tokens_deletionLexemes id, tokens_deletionLexemes id]
    rfl

/-- The second of two removals is dropped. -/
theorem removes_first_of_two :
    ∃ first second,
      statements? ("DELETE FROM reservations WHERE id = '00000000000000000000000001'; " ++
          "DELETE FROM reservations WHERE id = '00000000000000000000000002'") =
        some [first, second] ∧
      ofText ("DELETE FROM reservations WHERE id = '00000000000000000000000001'; " ++
          "DELETE FROM reservations WHERE id = '00000000000000000000000002'") =
        .ok (remove (.ofNat 1)) ∧
      ofStatement second = .ok (remove (.ofNat 2)) := by
  generalize spelling : "DELETE FROM reservations WHERE id = '00000000000000000000000001'; " ++
    "DELETE FROM reservations WHERE id = '00000000000000000000000002'" = text
  have chars : text.toList =
      written (removalsLexemes "00000000000000000000000001" "00000000000000000000000002") := by
    rw [← spelling]
    simp [removalsLexemes, filterLexemes, filterHead, written, Lexeme.chars, Mark.text,
      Text.doubled]
  obtain ⟨statements, read, readsAs⟩ := statements?_of_isTextOf (isTextOf_removals chars)
  obtain _ | ⟨⟨firstSource, rfl⟩, _ | ⟨⟨secondSource, rfl⟩, ⟨⟩⟩⟩ := readsAs
  refine ⟨_, _, read, ?_, ?_⟩
  · have one : idOfText "00000000000000000000000001" = .ok (.ofNat 1) := by decide +kernel
    rw [ofText, read]
    exact (ofStatement_removal _ firstSource).trans (by rw [one]; rfl)
  · have two : idOfText "00000000000000000000000002" = .ok (.ofNat 2) := by decide +kernel
    exact (ofStatement_removal _ secondSource).trans (by rw [two]; rfl)

end Reservations.Command
