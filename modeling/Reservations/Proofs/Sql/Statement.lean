import Reservations.Proofs.Sql.Values

namespace Reservations.Sql

/-! ## The statements about reservations

An insertion of one row of values, a selection, perhaps by the value of a column, and a
deletion by one. They are read the same way whatever the names and values are. -/

/-- A name as it stands in a statement. -/
inductive Name where
  | word (text : String) (keyword : Option Keyword)
  | quoted (text : String)

namespace Name

def token : Name → Token
  | word text keyword => .word text keyword
  | quoted text => .quoted text

def ident : Name → Ident
  | word text _ => ⟨text, none⟩
  | quoted text => ⟨text, some '"'⟩

/-- A name that is no keyword that any rule looks for. -/
inductive IsPlain : Name → Prop
  | word (text : String) : IsPlain (word text none)
  | idle (text : String) : IsPlain (word text (some .idle))
  | quoted (text : String) : IsPlain (quoted text)

end Name

/-- What a statement about reservations is made of. -/
inductive Phrase where
  /-- There is at least one value. -/
  | insertion (table : Name) (columns : List Name) (value : Value) (values : List Value)
  | selection (table : Name)
  | filtered (table column : Name) (text : String)
  | deletion (table column : Name) (text : String)

/-- The tokens of names in parentheses, if there are any, and what follows them. -/
def columnTokens : List Name → List Token → List Token
  | [], rest => rest
  | name :: names, rest =>
      Grammar.rowTokens [name.token] (names.map fun name => [name.token]) rest

namespace Phrase

/-- A keyword in a spelling of its own. -/
def keywordToken (spelled : Keyword → String) (keyword : Keyword) : Token :=
  .word (spelled keyword) (some keyword)

/-- The tokens of a phrase, and what follows them. -/
def tokens (spelled : Keyword → String) (rest : List Token) : Phrase → List Token
  | insertion table columns value values =>
      keywordToken spelled .INSERT :: keywordToken spelled .INTO :: table.token ::
        columnTokens columns (keywordToken spelled .VALUES ::
          Grammar.rowTokens value.tokens (values.map Value.tokens) rest)
  | selection table =>
      keywordToken spelled .SELECT :: .operator "*" :: keywordToken spelled .FROM ::
        table.token :: rest
  | filtered table column text =>
      keywordToken spelled .SELECT :: .operator "*" :: keywordToken spelled .FROM ::
        table.token :: keywordToken spelled .WHERE :: column.token :: .operator "=" ::
          .literal (.text text) :: rest
  | deletion table column text =>
      keywordToken spelled .DELETE :: keywordToken spelled .FROM :: table.token ::
        keywordToken spelled .WHERE :: column.token :: .operator "=" ::
          .literal (.text text) :: rest

/-- The filter by the value of a column. -/
def filter (column : Name) (text : String) : Expr :=
  .binary (.name [column.ident]) "=" (.literal (.text text))

/-- The statement that a phrase is read as. Queries are kept with their normal form. -/
def statement (source : String) : Phrase → Statement
  | insertion table columns value values =>
      .insert [table.ident] (columns.map Name.ident)
        (some ⟨.values [(value :: values).map Value.expr], source⟩)
  | selection table => .query ⟨.select [.table [table.ident]] none, source⟩
  | filtered table column text =>
      .query ⟨.select [.table [table.ident]] (some (filter column text)), source⟩
  | deletion table column text => .delete [.table [table.ident]] (some (filter column text))

/-- The names of a phrase are read as names. A column in parentheses may be any word but one
that begins a query. -/
def IsPlain : Phrase → Prop
  | insertion table columns _ _ =>
      table.IsPlain ∧ ∀ column ∈ columns, column.token.keyword? ≠ some .SELECT
  | selection table => table.IsPlain
  | filtered table column _ | deletion table column _ => table.IsPlain ∧ column.IsPlain

end Phrase

theorem Parse.run_after
    {α : Type} {rule : Parse α} {tokens rest : List Token} {value : α}
    (reads : rule tokens = .ok (value, rest)) (word : String) (keyword : Keyword) :
    Parse.after? [keyword] rule (.word word (some keyword) :: tokens) = .ok (some value, rest) := by
  have found : Parse.keywords [keyword] (.word word (some keyword) :: tokens) =
      .ok (true, tokens) := by
    simp [Parse.keywords, Token.keyword?]
  exact (Parse.run_bind found).trans (Parse.run_map reads)

namespace Grammar

variable {g : Grammar}

/-! ### Names, tables and filters -/

theorem readsItems_ident :
    Parse.ident.ReadsItems (fun name : Name => [name.token]) Name.ident := by
  intro name rest _
  cases name <;> rfl

/-- The columns that an insertion names are read, unless the first of them is taken for the
beginning of a query. -/
theorem insertionColumns_names
    {names : List Name} (selectless : ∀ name ∈ names, name.token.keyword? ≠ some .SELECT)
    (word : String) (rest : List Token) :
    g.insertionColumns (columnTokens names (.word word (some .VALUES) :: rest)) =
      .ok ((names.map Name.ident, ""), .word word (some .VALUES) :: rest) := by
  cases names with
  | nil => rfl
  | cons name names =>
      have read := Parse.parens_behindCommas readsItems_ident name names
        (.word word (some .VALUES) :: rest)
      have fresh := selectless name List.mem_cons_self
      refine (Parse.run_bind rfl).trans ?_
      generalize tokens : columnTokens (name :: names) (.word word (some .VALUES) :: rest) = all
      split
      · rw [columnTokens, rowTokens, List.cons_append, List.cons.injEq, List.cons.injEq] at tokens
        rw [tokens.2.1] at fresh
        exact absurd rfl fresh
      · rw [← tokens]
        exact (Parse.run_bind read).trans rfl
      · rename_i other
        exact absurd tokens.symm (other _)

theorem insertion_columns
    {into word : String} {table : Name} (plain : table.IsPlain) {names : List Name}
    (selectless : ∀ name ∈ names, name.token.keyword? ≠ some .SELECT)
    {more rest : List Token} {source : Query} (ends : EndsStatement rest)
    (reads : g.query (.word word (some .VALUES) :: more) = .ok (source, rest)) :
    ∃ text, g.insertion (.word into (some .INTO) :: table.token ::
        columnTokens names (.word word (some .VALUES) :: more)) =
      .ok ((.insert [table.ident] (names.map Name.ident) (some source), text), rest) := by
  have columns := insertionColumns_names (g := g) selectless word more
  rcases ends with rfl | ⟨others, rfl⟩ <;> cases plain <;> cases names
  all_goals
    apply Exists.intro
    unfold insertion
    iterate 9 refine (Parse.run_bind rfl).trans ?_
    refine (Parse.run_bind columns).trans ?_
    exact (Parse.run_bind reads).trans rfl

theorem sources_where
    (g : Grammar) {table : Name} (plain : table.IsPlain) (word : String) (rest : List Token) :
    ∃ text, g.sources (table.token :: .word word (some .WHERE) :: rest) =
      .ok ([⟨⟨.table [table.ident], text⟩, [], false⟩], .word word (some .WHERE) :: rest) := by
  cases plain <;> exact ⟨_, rfl⟩

theorem sources_end
    (g : Grammar) {table : Name} (plain : table.IsPlain) {rest : List Token}
    (ends : EndsStatement rest) :
    ∃ text, g.sources (table.token :: rest) =
      .ok ([⟨⟨.table [table.ident], text⟩, [], false⟩], rest) := by
  rcases ends with rfl | ⟨others, rfl⟩ <;> cases plain <;> exact ⟨_, rfl⟩

/-- A value behind an operator is one level further in. -/
theorem anyExpr_equation
    (depth : Nat) {column : Name} (plain : column.IsPlain) (text : String) {rest : List Token}
    (ends : EndsStatement rest) :
    (atDepth (depth + 3)).1.anyExpr
        (column.token :: .operator "=" :: .literal (.text text) :: rest) =
      .ok (.binary (.name [column.ident]) "=" (.literal (.text text)), rest) := by
  rcases ends with rfl | ⟨others, rfl⟩ <;> cases plain <;> rfl

section Filter

variable {table : Name} (plain : table.IsPlain) {more rest : List Token} {filter : Expr}
  (ends : EndsStatement rest) (reads : g.anyExpr more = .ok (filter, rest))

include plain ends reads

theorem deletion_filter (first second : String) :
    ∃ text, g.deletion (.word first (some .FROM) :: table.token ::
        .word second (some .WHERE) :: more) =
      .ok ((.delete [.table [table.ident]] (some filter), text), rest) := by
  obtain ⟨source, sources⟩ := sources_where g plain second more
  rcases ends with rfl | ⟨others, rfl⟩
  all_goals
    apply Exists.intro
    unfold deletion
    iterate 2 refine (Parse.run_bind rfl).trans ?_
    refine (Parse.run_bind sources).trans ?_
    refine (Parse.run_bind rfl).trans ?_
    exact (Parse.run_bind (Parse.run_after reads second .WHERE)).trans rfl

theorem selection_filter (word first second : String) :
    ∃ text, g.selection (.word word (some .SELECT) :: .operator "*" ::
        .word first (some .FROM) :: table.token :: .word second (some .WHERE) :: more) =
      .ok (⟨.select [.table [table.ident]] (some filter), text⟩, rest) := by
  obtain ⟨source, sources⟩ := sources_where g plain second more
  rcases ends with rfl | ⟨others, rfl⟩
  all_goals
    apply Exists.intro
    unfold selection
    iterate 6 refine (Parse.run_bind rfl).trans ?_
    refine (Parse.run_bind (Parse.run_after sources first .FROM)).trans ?_
    refine (Parse.run_bind rfl).trans ?_
    exact (Parse.run_bind (Parse.run_after reads second .WHERE)).trans rfl

end Filter

theorem selection_all
    {table : Name} (plain : table.IsPlain) {rest : List Token} (ends : EndsStatement rest)
    (word first : String) :
    ∃ text, g.selection (.word word (some .SELECT) :: .operator "*" ::
        .word first (some .FROM) :: table.token :: rest) =
      .ok (⟨.select [.table [table.ident]] none, text⟩, rest) := by
  obtain ⟨source, sources⟩ := sources_end g plain ends
  rcases ends with rfl | ⟨others, rfl⟩
  all_goals
    apply Exists.intro
    unfold selection
    iterate 6 refine (Parse.run_bind rfl).trans ?_
    exact (Parse.run_bind (Parse.run_after sources first .FROM)).trans rfl

theorem fullQuery_selection
    {word : String} {more rest : List Token} {query : Query} (ends : EndsStatement rest)
    (selected : g.selection (.word word (some .SELECT) :: more) = .ok (query, rest))
    (change : Parse String) :
    ∃ text, g.fullQuery change (.word word (some .SELECT) :: more) =
      .ok (⟨query.body, text⟩, rest) := by
  have simple : g.simpleQuery (.word word (some .SELECT) :: more) = .ok (query, rest) := selected
  exact fullQuery_of_simpleQuery (Or.inl rfl) ends simple change

/-! ### Statements under a bound on nesting -/

theorem readsItems_atDepth (depth : Nat) :
    (atDepth (depth + 2)).1.anyExpr.ReadsItems Value.tokens Value.expr := by
  refine readsItems_value (g := (atDepth (depth + 1)).1) ?_ Strength.none
  intro digits long rest ends
  exact expression_literal (atDepth depth).1 Strength.product (.number digits long) ends

/-! One level of nesting is taken off at a time: the rules of the next one stay closed. -/

theorem query_atDepth (depth : Nat) :
    (atDepth (depth + 1)).1.query =
      (atDepth depth).1.fullQuery (atDepth depth).1.change :=
  rfl

theorem statement_insert
    {depth : Nat} {tokens rest : List Token} {statement : Statement} {text : String}
    (reads : (atDepth depth).1.insertion tokens = .ok ((statement, text), rest)) (word : String) :
    (atDepth (depth + 1)).1.statement (.word word (some .INSERT) :: tokens) =
      .ok (statement, rest) :=
  Parse.run_map reads

theorem statement_delete
    {depth : Nat} {tokens rest : List Token} {statement : Statement} {text : String}
    (reads : (atDepth depth).1.deletion tokens = .ok ((statement, text), rest)) (word : String) :
    (atDepth (depth + 1)).1.statement (.word word (some .DELETE) :: tokens) =
      .ok (statement, rest) :=
  Parse.run_map reads

theorem statement_select
    {depth : Nat} {word : String} {tokens rest : List Token} {query : Query}
    (reads : (atDepth depth).1.query (.word word (some .SELECT) :: tokens) = .ok (query, rest)) :
    (atDepth (depth + 1)).1.statement (.word word (some .SELECT) :: tokens) =
      .ok (.query query, rest) :=
  Parse.run_map reads

/-- Six levels are enough: a statement, its query, a filter, its value. -/
theorem statement_phrase
    (depth : Nat) {phrase : Phrase} (plain : phrase.IsPlain) (spelled : Keyword → String)
    {rest : List Token} (ends : EndsStatement rest) :
    ∃ source, (atDepth (depth + 6)).1.statement (phrase.tokens spelled rest) =
      .ok (phrase.statement source, rest) := by
  cases phrase with
  | insertion table columns value values =>
      obtain ⟨plainTable, selectless⟩ := plain
      obtain ⟨source, reads⟩ := fullQuery_row (readsItems_atDepth (depth + 2))
        (atDepth (depth + 4)).1.change (spelled .VALUES) value values ends
      rw [← query_atDepth] at reads
      obtain ⟨_, inserted⟩ := insertion_columns plainTable selectless ends reads
      exact ⟨source, statement_insert inserted (spelled .INSERT)⟩
  | selection table =>
      obtain ⟨text, selected⟩ := selection_all (g := (atDepth (depth + 4)).1) plain ends
        (spelled .SELECT) (spelled .FROM)
      obtain ⟨source, reads⟩ := fullQuery_selection ends selected
        (atDepth (depth + 4)).1.change
      rw [← query_atDepth] at reads
      exact ⟨source, statement_select reads⟩
  | filtered table column text =>
      obtain ⟨plainTable, plainColumn⟩ := plain
      have filter := anyExpr_equation (depth + 1) plainColumn text ends
      obtain ⟨text, selected⟩ := selection_filter plainTable ends filter
        (spelled .SELECT) (spelled .FROM) (spelled .WHERE)
      obtain ⟨source, reads⟩ := fullQuery_selection ends selected
        (atDepth (depth + 4)).1.change
      rw [← query_atDepth] at reads
      exact ⟨source, statement_select reads⟩
  | deletion table column text =>
      obtain ⟨plainTable, plainColumn⟩ := plain
      have filter := anyExpr_equation (depth + 2) plainColumn text ends
      obtain ⟨_, deleted⟩ := deletion_filter plainTable ends filter (spelled .FROM)
        (spelled .WHERE)
      exact ⟨"", statement_delete deleted (spelled .DELETE)⟩

end Grammar

end Reservations.Sql
