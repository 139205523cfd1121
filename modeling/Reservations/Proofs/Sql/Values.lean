import Reservations.Proofs.Sql.Scan
import Reservations.Sql.Statement

namespace Reservations.Sql

/-! ## Reading values

A value is a text, a null or a number, perhaps with a sign. Wherever one may stand it is
read as what it is: no rule looks into a text. -/

/-- A value as it stands in a row. -/
inductive Value where
  | text (value : String)
  /-- A null, in whatever case its word is written. -/
  | null (word : String)
  | number (digits : String) (long : Bool)
  | negative (digits : String) (long : Bool)

namespace Value

/-- The tokens of a value. -/
def tokens : Value → List Token
  | text value => [.literal (.text value)]
  | null word => [.word word (some .NULL)]
  | number digits long => [.literal (.number digits long)]
  | negative digits long => [.operator "-", .literal (.number digits long)]

/-- The expression that a value is. -/
def expr : Value → Expr
  | text value => .literal (.text value)
  | null _ => .literal .null
  | number digits long => .literal (.number digits long)
  | negative digits long => .unary .minus (.literal (.number digits long))

/-- The value of a text, or a null. -/
def ofText? : Option String → Value
  | none => .null "NULL"
  | some value => .text value

end Value

/-- A comma or a closing parenthesis comes next, or nothing. -/
def EndsValue : List Token → Prop
  | [] | .mark .comma :: _ | .mark .closeParen :: _ => True
  | _ => False

/-- Nothing comes next, or a semicolon. -/
def EndsStatement (rest : List Token) : Prop :=
  rest = [] ∨ ∃ others, rest = .mark .semicolon :: others

/-- Items with a comma before each. -/
def behindCommas (items : List (List Token)) : List Token :=
  items.flatMap (.mark .comma :: ·)

theorem length_le_length_behindCommas (items : List (List Token)) :
    items.length ≤ (behindCommas items).length := by
  induction items with
  | nil => exact Nat.le_refl 0
  | cons item items inductionHypothesis =>
      have length : (behindCommas (item :: items)).length =
          item.length + 1 + (behindCommas items).length :=
        List.length_append
      rw [length, List.length_cons]
      omega

namespace Parse

variable {α β : Type}

/-- A rule goes on from where the one before it has stopped. -/
theorem run_bind
    {rule : Parse α} {next : α → Parse β} {tokens rest : List Token} {value : α}
    (reads : rule tokens = .ok (value, rest)) :
    (rule >>= next) tokens = next value rest := by
  change (rule tokens >>= fun found => next found.1 found.2) = _
  rw [reads]
  rfl

theorem run_map
    {rule : Parse α} {change : α → β} {tokens rest : List Token} {value : α}
    (reads : rule tokens = .ok (value, rest)) :
    (change <$> rule) tokens = .ok (change value, rest) := by
  change (rule tokens >>= fun found => .ok (change found.1, found.2)) = _
  rw [reads]
  rfl

/-- Reads one more thing of a list, if a comma comes next. -/
def another? (rule : Parse α) : Parse (Option α) := do
  if ← mark .comma then some <$> rule else return none

/-- A rule reads items that are written in some way. -/
def ReadsItems (rule : Parse α) (write : β → List Token) (read : β → α) : Prop :=
  ∀ item rest, EndsValue rest → rule (write item ++ rest) = .ok (read item, rest)

section Commas

variable {rule : Parse α} {write : β → List Token} {read : β → α}
  (reads : rule.ReadsItems write read)

include reads

/-- By induction on the items: each of them is read behind its comma. -/
theorem manyOnto_behindCommas
    (items : List β) (rest : List Token) (found : List α)
    (limit : List Token) (enough : items.length < limit.length) :
    manyOnto (another? rule) limit found
        (behindCommas (items.map write) ++ .mark .closeParen :: rest) =
      .ok (found.reverse ++ items.map read, .mark .closeParen :: rest) := by
  induction items generalizing found limit with
  | nil =>
      cases limit with
      | nil => cases enough
      | cons token limit =>
          rw [List.map_nil, List.map_nil, List.append_nil]
          rfl
  | cons item items inductionHypothesis =>
      cases limit with
      | nil => cases enough
      | cons token limit =>
          have ends : EndsValue (behindCommas (items.map write) ++ .mark .closeParen :: rest) := by
            cases items <;> trivial
          have one : another? rule (.mark .comma :: (write item ++
                (behindCommas (items.map write) ++ .mark .closeParen :: rest))) =
              .ok (some (read item), behindCommas (items.map write) ++ .mark .closeParen :: rest) :=
            run_map (reads item _ ends)
          have others :=
            inductionHypothesis (read item :: found) limit (Nat.lt_of_succ_lt_succ enough)
          have split : behindCommas ((item :: items).map write) ++ .mark .closeParen :: rest =
              .mark .comma :: (write item ++
                (behindCommas (items.map write) ++ .mark .closeParen :: rest)) := by
            simp [behindCommas]
          rw [List.reverse_cons, List.append_assoc] at others
          rw [split]
          exact (run_bind one).trans others

/-- Items with commas between them are read one after the other. -/
theorem list_behindCommas (item : β) (items : List β) (rest : List Token) :
    list rule (write item ++ (behindCommas (items.map write) ++ .mark .closeParen :: rest)) =
      .ok (read item :: items.map read, .mark .closeParen :: rest) := by
  have ends : EndsValue (behindCommas (items.map write) ++ .mark .closeParen :: rest) := by
    cases items <;> trivial
  have enough : items.length <
      (behindCommas (items.map write) ++ Token.mark .closeParen :: rest).length := by
    have commas := length_le_length_behindCommas (items.map write)
    rw [List.length_map] at commas
    rw [List.length_append, List.length_cons]
    omega
  have others := manyOnto_behindCommas reads items rest [] _ enough
  exact (run_bind (reads item _ ends)).trans (run_bind others)

/-- So are items in parentheses. -/
theorem parens_behindCommas (item : β) (items : List β) (rest : List Token) :
    parens (list rule) (.mark .openParen :: (write item ++
        (behindCommas (items.map write) ++ .mark .closeParen :: rest))) =
      .ok (read item :: items.map read, rest) :=
  (run_bind rfl).trans ((run_bind (list_behindCommas reads item items rest)).trans rfl)

end Commas

end Parse

namespace Grammar

/-- The tokens of items in parentheses. -/
def rowTokens (item : List Token) (items : List (List Token)) (rest : List Token) : List Token :=
  .mark .openParen :: (item ++ (behindCommas items ++ .mark .closeParen :: rest))

variable (g : Grammar)

/-- What is read of a single token does not depend on how deeply values may be nested, nor
on how strongly the operators before it bind. -/
theorem expression_literal
    (above : Nat) (literal : Literal) {rest : List Token} (ends : EndsValue rest) :
    g.expression above (.literal literal :: rest) = .ok (.literal literal, rest) := by
  obtain ⟨columnar, _⟩ := g
  unfold EndsValue at ends
  split at ends
  · cases columnar <;> rfl
  · cases columnar <;> rfl
  · cases columnar <;> rfl
  · cases ends

theorem expression_null
    (above : Nat) (word : String) {rest : List Token} (ends : EndsValue rest) :
    g.expression above (.word word (some .NULL) :: rest) = .ok (.literal .null, rest) := by
  obtain ⟨columnar, _⟩ := g
  unfold EndsValue at ends
  split at ends
  · cases columnar <;> rfl
  · cases columnar <;> rfl
  · cases columnar <;> rfl
  · cases ends

/-- The number behind a sign is one level further in. -/
theorem expression_negative
    {g : Grammar} {number : Literal} {rest : List Token} (ends : EndsValue rest)
    (inner : g.expr Strength.product (.literal number :: rest) = .ok (.literal number, rest))
    (above : Nat) :
    g.expression above (.operator "-" :: .literal number :: rest) =
      .ok (.unary .minus (.literal number), rest) := by
  have untyped : ∀ limit, g.untyped (g.operand limit) (.operator "-" :: .literal number :: rest) =
      .ok (⟨.unary .minus (.literal number), true⟩, rest) := by
    intro limit
    refine (Parse.run_bind rfl).trans ?_
    refine (Parse.run_bind rfl).trans ?_
    exact (Parse.run_bind ((Parse.run_bind inner).trans rfl)).trans rfl
  have operand :
      g.operand (.operator "-" :: .literal number :: rest)
          (.operator "-" :: .literal number :: rest) =
        .ok (.unary .minus (.literal number), rest) := by
    refine (Parse.run_bind rfl).trans ?_
    refine (Parse.run_bind (untyped _)).trans ?_
    obtain ⟨columnar, _⟩ := g
    unfold EndsValue at ends
    split at ends
    · cases columnar <;> rfl
    · cases columnar <;> rfl
    · cases columnar <;> rfl
    · cases ends
  refine (Parse.run_bind rfl).trans ?_
  refine (Parse.run_bind operand).trans ?_
  obtain ⟨columnar, _⟩ := g
  unfold EndsValue at ends
  split at ends
  · cases columnar <;> rfl
  · cases columnar <;> rfl
  · cases columnar <;> rfl
  · cases ends

/-- A rule for expressions reads the numbers behind signs. -/
theorem readsItems_value
    {g : Grammar}
    (numbers : ∀ digits long rest, EndsValue rest →
      g.expr Strength.product (.literal (.number digits long) :: rest) =
        .ok (.literal (.number digits long), rest))
    (above : Nat) :
    (g.expression above).ReadsItems Value.tokens Value.expr := by
  intro value rest ends
  cases value with
  | text value => exact expression_literal g above _ ends
  | null word => exact expression_null g above word ends
  | number digits long => exact expression_literal g above _ ends
  | negative digits long => exact expression_negative ends (numbers digits long rest ends) above

/-! ### Rows -/

/-- The simplest part of a query is the whole query where nothing comes next. -/
theorem fullQuery_of_simpleQuery
    {g : Grammar} {word : String} {keyword : Keyword} {more rest : List Token} {query : Query}
    (first : keyword = .SELECT ∨ keyword = .VALUES) (ends : EndsStatement rest)
    (simple : g.simpleQuery (.word word (some keyword) :: more) = .ok (query, rest))
    (change : Parse String) :
    ∃ text, g.fullQuery change (.word word (some keyword) :: more) =
      .ok (⟨query.body, text⟩, rest) := by
  have body : g.queryBody (.word word (some keyword) :: more) = .ok (query, rest) := by
    rcases ends with rfl | ⟨others, rfl⟩
    · exact (Parse.run_bind ((Parse.run_bind simple).trans rfl)).trans rfl
    · exact (Parse.run_bind ((Parse.run_bind simple).trans rfl)).trans rfl
  rcases first with rfl | rfl <;> rcases ends with rfl | ⟨others, rfl⟩
  all_goals
    exact ⟨_, (Parse.run_bind rfl).trans ((Parse.run_bind rfl).trans
      ((Parse.run_bind body).trans rfl))⟩

section Rows

variable {β : Type} {write : β → List Token} {read : β → Expr} {g : Grammar}
  (reads : g.anyExpr.ReadsItems write read)

include reads

theorem row_items (item : β) (items : List β) (rest : List Token) :
    g.row (rowTokens (write item) (items.map write) rest) =
      .ok ((false, (item :: items).map read), rest) :=
  (Parse.run_bind rfl).trans
    ((Parse.run_bind (Parse.parens_behindCommas reads item items rest)).trans rfl)

/-- A single row of values at the end of a text is a query. -/
theorem values_row (item : β) (items : List β) {rest : List Token} (ends : EndsStatement rest) :
    ∃ text, g.values (rowTokens (write item) (items.map write) rest) =
      .ok (⟨.values [(item :: items).map read], text⟩, rest) := by
  have row := row_items reads item items rest
  rcases ends with rfl | ⟨others, rfl⟩
  · exact ⟨_, (Parse.run_bind ((Parse.run_bind row).trans rfl)).trans rfl⟩
  · exact ⟨_, (Parse.run_bind ((Parse.run_bind row).trans rfl)).trans rfl⟩

theorem fullQuery_row
    (change : Parse String) (word : String) (item : β) (items : List β)
    {rest : List Token} (ends : EndsStatement rest) :
    ∃ text, g.fullQuery change (.word word (some .VALUES) ::
        rowTokens (write item) (items.map write) rest) =
      .ok (⟨.values [(item :: items).map read], text⟩, rest) := by
  obtain ⟨text, values⟩ := values_row reads item items ends
  have simple : g.simpleQuery (.word word (some .VALUES) ::
        rowTokens (write item) (items.map write) rest) =
      .ok (⟨.values [(item :: items).map read], text⟩, rest) :=
    values
  exact fullQuery_of_simpleQuery (Or.inr rfl) ends simple change

end Rows

end Grammar

end Reservations.Sql
