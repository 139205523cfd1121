import Reservations.Proofs.Sql.Statement
import Reservations.Proofs.Sql.Step

namespace Reservations.Sql

/-! ## How statements begin

A selection, an insertion and a deletion are told apart by their first word. Nothing but
semicolons comes before the first statement of a text. -/

namespace Parse

variable {α β : Type}

/-- Two rules one after the other succeed where both of them do. -/
theorem run_bind_eq_ok_iff
    {rule : Parse α} {next : α → Parse β} {tokens rest : List Token} {value : β} :
    (rule >>= next) tokens = .ok (value, rest) ↔
      ∃ found middle,
        rule tokens = .ok (found, middle) ∧ next found middle = .ok (value, rest) := by
  change (rule tokens >>= fun found => next found.1 found.2) = _ ↔ _
  rcases rule tokens with fault | ⟨found, middle⟩
  · simp [bind, Except.bind]
  · simp [bind, Except.bind]

theorem run_map_eq_ok_iff
    {rule : Parse α} {change : α → β} {tokens rest : List Token} {value : β} :
    (change <$> rule) tokens = .ok (value, rest) ↔
      ∃ found, rule tokens = .ok (found, rest) ∧ change found = value := by
  change (rule tokens >>= fun found => .ok (change found.1, found.2)) = _ ↔ _
  rcases rule tokens with fault | ⟨found, middle⟩
  · simp [bind, Except.bind]
  · simp [bind, Except.bind, and_comm]

/-- Whatever a rule reads has some property. -/
def Yields (rule : Parse α) (property : α → Prop) : Prop :=
  ∀ (tokens rest : List Token) (value : α), rule tokens = .ok (value, rest) → property value

namespace Yields

variable {rule : Parse α} {property : α → Prop}

theorem of_read (property : α → Prop) {tokens rest : List Token} {value : α}
    (read : rule tokens = .ok (value, rest)) (yields : Yields rule property) : property value :=
  yields tokens rest value read

theorem pure {value : α} (holds : property value) : Yields (pure value) property := by
  intro tokens rest value' read
  obtain ⟨rfl, _⟩ := Prod.mk.inj (Except.ok.inj read)
  exact holds

/-- What is read first bears on it only through what is read next. -/
theorem bind {next : β → Parse α} {first : Parse β}
    (yields : ∀ found, Yields (next found) property) :
    Yields (first >>= next) property := by
  intro tokens rest value read
  obtain ⟨found, middle, _, read⟩ := run_bind_eq_ok_iff.mp read
  exact yields found middle rest value read

theorem fail : Yields (Parse.fail : Parse α) property := by
  intro tokens rest value read
  cases read

theorem ite {condition : Prop} [Decidable condition] {other : Parse α}
    (yes : Yields rule property) (no : Yields other property) :
    Yields (if condition then rule else other) property := by
  split
  · exact yes
  · exact no

end Yields

theorem after?_of_ne
    {wanted : Keyword} {tokens : List Token}
    (other : tokens.head?.bind Token.keyword? ≠ some wanted) (rule : Parse α) :
    after? [wanted] rule tokens = .ok (none, tokens) := by
  have missing : keywords [wanted] tokens = .ok (false, tokens) := by
    cases tokens with
    | nil => rfl
    | cons token tokens => simpa [keywords] using other
  exact run_bind missing

end Parse

/-- Whether a query is a selection, and not put together of others. -/
def Query.isSelection (query : Query) : Bool :=
  query.body matches .select ..

/-- The words that a statement of some kind begins with, if it is one about rows. -/
def Statement.openers : Statement → List Keyword
  | .query asked => if asked.isSelection then [.SELECT, .WITH] else []
  | .insert .. => [.INSERT]
  | .delete .. => [.DELETE]
  | .other => []

open Parse

namespace Grammar

variable {g : Grammar} {tokens rest : List Token} {query : Query}

theorem isSelection_values : Yields g.values (·.isSelection = false) :=
  .bind fun _ => .pure rfl

theorem isSelection_wholeTable : Yields wholeTable (·.isSelection = false) := by
  refine .bind fun first => ?_
  split
  · exact .bind fun _ => .bind fun _ => .bind fun _ => .pure rfl
  · exact .fail
  · exact .bind fun _ => .bind fun _ => .pure rfl
  · exact .fail

/-- Of the simplest queries only those that begin with the word for it are selections. -/
theorem keyword?_of_simpleQuery
    (read : g.simpleQuery tokens = .ok (query, rest)) (selects : query.isSelection = true) :
    tokens.head?.bind Token.keyword? = some .SELECT := by
  by_contra other
  refine Bool.false_ne_true (Eq.trans (Eq.symm ?_) selects)
  rw [simpleQuery] at read
  obtain ⟨first, middle, peeked, read⟩ := run_bind_eq_ok_iff.mp read
  obtain ⟨rfl, rfl⟩ := Prod.mk.inj (Except.ok.inj peeked)
  rw [if_neg other] at read
  refine Yields.of_read (fun query => query.isSelection = false) read (.bind fun next => ?_)
  refine .ite (.bind fun _ => .pure rfl) (.bind fun values => .ite isSelection_values ?_)
  exact .bind fun table => .ite isSelection_wholeTable .fail

/-- Queries with a word between them are no selection. -/
theorem combined_eq
    {part : Parse Query} {words : List Keyword}
    (read : combined part words tokens = .ok (query, rest)) (selects : query.isSelection = true) :
    ∃ middle, part tokens = .ok (query, middle) := by
  obtain ⟨first, middle, one, read⟩ := run_bind_eq_ok_iff.mp read
  obtain ⟨others, _, _, read⟩ := run_bind_eq_ok_iff.mp read
  split at read
  · obtain ⟨rfl, _⟩ := Prod.mk.inj (Except.ok.inj read)
    exact ⟨middle, one⟩
  · obtain ⟨rfl, _⟩ := Prod.mk.inj (Except.ok.inj read)
    cases selects

/-- A selection may have named queries before it. -/
theorem keyword?_of_fullQuery
    {change : Parse String} (read : g.fullQuery change tokens = .ok (query, rest))
    (selects : query.isSelection = true) :
    tokens.head?.bind Token.keyword? = some .SELECT ∨
      tokens.head?.bind Token.keyword? = some .WITH := by
  by_cases named : tokens.head?.bind Token.keyword? = some .WITH
  · exact Or.inr named
  refine Or.inl ?_
  obtain ⟨names, middle, unnamed, behind⟩ := run_bind_eq_ok_iff.mp read
  rw [after?_of_ne named] at unnamed
  obtain ⟨rfl, rfl⟩ := Prod.mk.inj (Except.ok.inj unnamed)
  obtain ⟨next, middle, peeked, chosen⟩ := run_bind_eq_ok_iff.mp behind
  obtain ⟨_, rfl⟩ := Prod.mk.inj (Except.ok.inj peeked)
  have unchanged (done : (do return ⟨.other, (none : Option String).getD "" ++ (← change)⟩ :
      Parse Query) tokens = .ok (query, rest)) : False := by
    refine Bool.false_ne_true (Eq.trans (Eq.symm ?_) selects)
    exact Yields.of_read (fun query => query.isSelection = false) done (.bind fun _ => .pure rfl)
  split at chosen
  · exact (unchanged chosen).elim
  · exact (unchanged chosen).elim
  · exact (unchanged chosen).elim
  · exact (unchanged chosen).elim
  · obtain ⟨body, _, one, clauses⟩ := run_bind_eq_ok_iff.mp chosen
    have kept : query.body = body.body := by
      refine Yields.of_read (fun query : Query => query.body = body.body) clauses ?_
      exact .bind fun _ => .bind fun _ => .bind fun _ => .bind fun _ => .bind fun _ => .pure rfl
    have selected : body.isSelection = true := by rwa [Query.isSelection, ← kept]
    -- Queries are combined twice: with `INTERSECT` between them, and with the other words around.
    obtain ⟨_, one⟩ := combined_eq one selected
    obtain ⟨_, one⟩ := combined_eq one selected
    exact keyword?_of_simpleQuery one selected

/-- An insertion into a directory is none into a table. -/
theorem openers_insertion :
    Yields g.insertion fun statement => statement.1.openers ⊆ [.INSERT] := by
  refine .bind fun conflict => .bind fun overwrite => .bind fun into => .bind fun isLocal =>
    .bind fun directory => .ite (.bind fun _ => .pure (List.nil_subset _)) ?_
  refine .bind fun word => .bind fun table => .bind fun short => .bind fun defaults => ?_
  refine .ite ?_ ?_
  · exact .bind fun _ => .bind fun _ => .bind fun _ => .pure (List.Subset.refl _)
  · refine .bind fun columns => .bind fun source => .bind fun _ => ?_
    exact .bind fun _ => .bind fun _ => .pure (List.Subset.refl _)

theorem openers_deletion :
    Yields g.deletion fun statement => statement.1.openers ⊆ [.DELETE] := by
  refine .bind fun direct => .ite ?_ ?_
  · refine .bind fun _ => .bind fun _ => .bind fun _ => .bind fun _ => .bind fun _ => ?_
    exact .bind fun _ => .bind fun _ => .pure (List.Subset.refl _)
  · refine .bind fun _ => .bind fun _ => .bind fun _ => .bind fun _ => .bind fun _ => ?_
    refine .bind fun _ => .bind fun _ => .bind fun _ => .bind fun _ => ?_
    exact .pure (List.Subset.refl _)

/-- A statement about rows begins with a word for its kind. -/
theorem keyword?_of_statement
    {depth : Nat} {statement : Statement}
    (read : (atDepth (depth + 2)).1.statement tokens = .ok (statement, rest))
    (kept : statement.openers ≠ []) :
    ∃ keyword ∈ statement.openers, tokens.head?.bind Token.keyword? = some keyword := by
  have queried (asked : (Statement.query <$> (atDepth (depth + 1)).1.query) tokens =
      .ok (statement, rest)) :
      ∃ keyword ∈ statement.openers, tokens.head?.bind Token.keyword? = some keyword := by
    obtain ⟨query, found, rfl⟩ := run_map_eq_ok_iff.mp asked
    have selects : query.isSelection = true := by
      by_contra other
      exact kept (if_neg other)
    rw [Statement.openers, if_pos selects]
    rcases keyword?_of_fullQuery found selects with first | first
    · exact ⟨_, List.mem_cons_self, first⟩
    · exact ⟨_, List.mem_cons_of_mem _ List.mem_cons_self, first⟩
  have worded {word : Keyword} (subset : statement.openers ⊆ [word]) :
      word ∈ statement.openers := by
    obtain ⟨first, member⟩ := List.exists_mem_of_ne_nil _ kept
    rwa [← List.mem_singleton.mp (subset member)]
  obtain ⟨all, _, got, read⟩ := run_bind_eq_ok_iff.mp (show
    (atDepth (depth + 1)).1.anyStatement tokens = .ok (statement, rest) from read)
  obtain ⟨same, rfl⟩ := Prod.mk.inj (Except.ok.inj got)
  split at read
  · exact queried read
  · subst same
    split at read
    · exact queried read
    · exact queried read
    · exact queried read
    · obtain ⟨_, _, _, read⟩ := run_bind_eq_ok_iff.mp read
      obtain ⟨_, inserted, rfl⟩ := run_map_eq_ok_iff.mp read
      exact ⟨_, worded (openers_insertion _ _ _ inserted), rfl⟩
    · obtain ⟨_, _, _, read⟩ := run_bind_eq_ok_iff.mp read
      obtain ⟨_, deleted, rfl⟩ := run_map_eq_ok_iff.mp read
      exact ⟨_, worded (openers_deletion _ _ _ deleted), rfl⟩
    · refine absurd (Yields.of_read (fun statement => statement.openers = []) read ?_) kept
      exact .bind fun _ => .bind fun _ => .pure rfl
  · cases read

end Grammar

/-! ### The first statement of a text -/

/-- Nothing is passed over before a statement but semicolons. -/
theorem statementsOnto_eq_ok
    {limit tokens rest : List Token} {found statements : List Statement}
    (read : statementsOnto limit found tokens = .ok (statements, rest)) :
    ∃ more, statements = found.reverse ++ more := by
  induction limit generalizing found tokens with
  | nil =>
      obtain ⟨rfl, _⟩ := Prod.mk.inj (Except.ok.inj read)
      exact ⟨[], (List.append_nil _).symm⟩
  | cons token limit inductionHypothesis =>
      obtain ⟨between, _, _, read⟩ := run_bind_eq_ok_iff.mp read
      obtain ⟨next, _, _, read⟩ := run_bind_eq_ok_iff.mp read
      split at read
      · obtain ⟨rfl, _⟩ := Prod.mk.inj (Except.ok.inj read)
        exact ⟨[], (List.append_nil _).symm⟩
      · split at read
        · obtain ⟨statement, _, _, read⟩ := run_bind_eq_ok_iff.mp read
          obtain ⟨more, same⟩ := inductionHypothesis read
          rw [List.reverse_cons, List.append_assoc] at same
          exact ⟨_, same⟩
        · split at read
          · obtain ⟨rfl, _⟩ := Prod.mk.inj (Except.ok.inj read)
            exact ⟨[], (List.append_nil _).symm⟩
          · cases read

/-- The first statement stands at the start, or there is a semicolon. -/
theorem first_of_statements?
    {text : String} {first : Statement} {others : List Statement}
    (found : statements? text = some (first :: others)) (kept : first.openers ≠ []) :
    ∃ token tokens, scan? text.toList = some (token :: tokens) ∧
      (token = .mark .semicolon ∨
        ∃ keyword ∈ first.openers, token.keyword? = some keyword) := by
  obtain ⟨tokens, scanned, found⟩ := Option.bind_eq_some_iff.mp found
  obtain ⟨⟨statements, rest⟩, read, same⟩ := Option.bind_eq_some_iff.mp found
  obtain rfl : statements = first :: others := Option.some.inj same
  replace read : statementsOnto tokens [] tokens = .ok (first :: others, rest) := by
    revert read
    cases statementsOnto tokens [] tokens <;> simp [Except.toOption]
  cases tokens with
  | nil => cases read
  | cons token tokens =>
      refine ⟨token, tokens, scanned, ?_⟩
      by_cases semicolon : token = .mark .semicolon
      · exact Or.inl semicolon
      refine Or.inr ?_
      have unmarked : mark .semicolon (token :: tokens) = .ok (false, token :: tokens) :=
        if_neg fun same => semicolon (Option.some.inj same)
      have nothing : Parse.many (do
          if ← mark .semicolon then return some () else return none) (token :: tokens) =
            .ok ([], token :: tokens) := by
        refine (run_bind rfl).trans ?_
        rw [manyOnto]
        exact (run_bind ((run_bind unmarked).trans rfl)).trans rfl
      obtain ⟨_, _, between, read⟩ := run_bind_eq_ok_iff.mp read
      rw [nothing] at between
      obtain ⟨rfl, rfl⟩ := Prod.mk.inj (Except.ok.inj between)
      obtain ⟨next, _, peeked, read⟩ := run_bind_eq_ok_iff.mp read
      obtain ⟨rfl, rfl⟩ := Prod.mk.inj (Except.ok.inj peeked)
      obtain ⟨statement, _, one, read⟩ := run_bind_eq_ok_iff.mp read
      obtain ⟨more, same⟩ := statementsOnto_eq_ok read
      obtain ⟨rfl, _⟩ := List.cons.inj same
      exact Grammar.keyword?_of_statement one kept

/-! ### The first token of a text -/

/-- Whether a text begins with a comment. -/
def opensComment : List Char → Bool
  | '-' :: '-' :: _ | '/' :: '*' :: _ => true
  | _ => false

theorem scanOnto?_eq_some
    {steps : Nat} {afterWord : Bool} {found tokens : List Token} {cs : List Char}
    (scanned : scanOnto? steps afterWord found cs = some tokens) :
    ∃ more, tokens = found.reverse ++ more := by
  induction steps generalizing afterWord found cs with
  | zero =>
      cases cs with
      | nil => exact ⟨[], by rw [← Option.some.inj scanned, List.append_nil]⟩
      | cons c cs => cases scanned
  | succ steps inductionHypothesis =>
      cases cs with
      | nil => exact ⟨[], by rw [← Option.some.inj scanned, List.append_nil]⟩
      | cons c cs =>
          rw [scanOnto?] at scanned
          split at scanned
          · cases scanned
          · exact inductionHypothesis scanned
          · next token rest _ =>
              obtain ⟨more, rfl⟩ := inductionHypothesis scanned
              exact ⟨token :: more, by simp⟩

/-- Nothing but blanks stands before the first token, where there is no comment. By induction on
the steps, each of which passes over one blank. -/
theorem first_of_scanOnto?
    {steps : Nat} {afterWord : Bool} {cs : List Char} {token : Token} {tokens : List Token}
    (scanned : scanOnto? steps afterWord [] cs = some (token :: tokens)) :
    opensComment (cs.dropWhile isSpace) = true ∨
      ∃ rest, Takes (cs.dropWhile isSpace) (some token) rest := by
  induction steps generalizing afterWord cs with
  | zero => cases cs <;> cases scanned
  | succ steps inductionHypothesis =>
      cases cs with
      | nil => cases scanned
      | cons c cs =>
          rw [scanOnto?] at scanned
          split at scanned
          · cases scanned
          · next rest found =>
              cases Takes.of_step? found with
              | blank space =>
                  rw [List.dropWhile_cons_of_pos space]
                  exact inductionHypothesis scanned
              | line | comment => exact Or.inl rfl
          · next next rest found =>
              obtain ⟨more, same⟩ := scanOnto?_eq_some scanned
              obtain ⟨rfl, _⟩ := List.cons.inj same
              have solid : ¬isSpace c = true := by
                intro space
                rw [step?_space space] at found
                cases found
              rw [List.dropWhile_cons_of_neg solid]
              exact Or.inr ⟨rest, Takes.of_step? found⟩

/-- A keyword is a word at the front of a text. -/
theorem Takes.keyword?
    {cs rest : List Char} {token : Token} {keyword : Keyword}
    (takes : Takes cs (some token) rest) (known : token.keyword? = some keyword) :
    ∃ c more, cs = c :: more ∧ startsName c = true ∧
      Keyword.ofWord? (cs.takeWhile continuesName) = some keyword := by
  cases takes with
  | @word c more starts =>
      refine ⟨c, more, rfl, starts, ?_⟩
      have continues : continuesName c = true := by simp [continuesName, starts]
      rw [List.takeWhile_cons_of_pos continues]
      rw [readWord, List.span_eq_takeWhile_dropWhile] at known
      exact known
  | sign other =>
      cases token with
      | word => cases other
      | _ => cases known
  | _ => cases known

/-- A semicolon is written as one. -/
theorem Takes.semicolon
    {cs rest : List Char} (takes : Takes cs (some (.mark .semicolon)) rest) :
    ∃ more, cs = ';' :: more := by
  cases takes with
  | @mark c _ _ known =>
      unfold markOf? at known
      split at known
      all_goals cases known
      exact ⟨_, rfl⟩
  | sign other => cases other

end Reservations.Sql
