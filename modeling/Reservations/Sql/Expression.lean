import Reservations.Sql.Operand

namespace Reservations.Sql.Grammar

/-! ## Expressions

An expression is an operand, the steps taken from it into its parts, and the
operators after it that bind strongly enough. -/

open Parse

variable (g : Grammar)

/-! ### Steps into parts -/

/-- What the steps from an operand have led to: its text, and the names passed
if there was nothing else on the way. -/
structure Path where
  text : String
  names : Option ObjectName
  steps : Nat

/-- Takes a step to a part that has a name. -/
def Path.toName (path : Path) (names : ObjectName) : Path where
  text := path.text ++ "." ++ names.render
  names := path.names.map (· ++ names)
  steps := path.steps + 1

/-- Takes a step to another part. -/
def Path.toOther (path : Path) (text : String) : Path where
  text := path.text ++ text
  names := none
  steps := path.steps + 1

/-- Whether the next token is a colon, which is then read. -/
def colon : Parse Bool := do
  match ← get with
  | .colon _ :: rest =>
      set rest
      return true
  | _ => return false

/-- Reads an element or a range of elements after an opening bracket. -/
def subscript : Parse String := do
  let fromStart ← colon
  let low ← if fromStart then pure "" else g.exprText
  if ← mark .closeBracket then
    return if fromStart then "[:]" else "[" ++ low ++ "]"
  else
    unless fromStart do
      unless ← colon do
        fail
    if ← mark .closeBracket then return "[" ++ low ++ ":]"
    else
      let high ← g.exprText
      if ← mark .closeBracket then return "[" ++ low ++ ":" ++ high ++ "]"
      else
        unless ← colon do
          fail
        if ← mark .closeBracket then return "[" ++ low ++ ":" ++ high ++ "]"
        else
          let stride ← g.exprText
          expectMark .closeBracket
          return "[" ++ low ++ ":" ++ high ++ ":" ++ stride ++ "]"

/-- Reads the steps from an operand into its parts, of which some tokens bound
the number. The flag of the result says whether they end with all the parts. -/
def walk : (limit : List Token) → Path → Parse (Path × Bool)
  | [], path => return (path, false)
  | _ :: limit, path => do
      if ← mark .period then
        match ← peek? with
        | some (.operator "*") =>
            let _ ← next
            return (path, true)
        | some (.literal (.text text)) =>
            let _ ← next
            walk limit (path.toName [⟨text, some '\''⟩])
        | _ =>
            match ← g.expr Strength.period with
            | .name names => walk limit (path.toName names)
            | part => walk limit (path.toOther ("." ++ part.render))
      else if ← mark .openBracket then
        walk limit (path.toOther (← g.subscript))
      else return (path, false)

/-- Reads the steps from an operand into its parts. -/
def parts (root : Expr) : Parse Expr := do
  let names :=
    match root with
    | .name [name] => some [name]
    | _ => none
  let (path, all) ← g.walk (← get) ⟨root.render, names, 0⟩
  if all then
    if path.names.isSome then return .other (path.text ++ ".*") else fail
  else if path.steps = 0 then return root
  else return (path.names.map Expr.name).getD (.other path.text)

/-! ### Operators between operands -/

/-- The operators that compare. -/
def comparisons : List String :=
  [":=", "=", "==", "<", "<=", "<>", "!=", ">", ">=", "<=>", "~", "~*", "!~", "!~*", "~~",
    "~~*", "!~~", "!~~*"]

/-- The operators that no operand stands before. -/
def neverInfix : List String :=
  ["=>", "!!", "@-@", "|/", "||/"]

/-- How strongly an operator binds. -/
def strengthOf (operator : String) : Nat :=
  if operator = "::" then Strength.cast
  else if operator = "^" then Strength.power
  else if ["*", "/", "%"].contains operator then Strength.product
  else if ["+", "-"].contains operator then Strength.sum
  else if comparisons.contains operator then Strength.comparison
  else if neverInfix.contains operator then Strength.none
  else Strength.other

/-- The keywords that may stand before a range or a pattern. -/
def ranges : List Keyword :=
  [.IN, .BETWEEN, .LIKE, .ILIKE, .SIMILAR, .REGEXP, .RLIKE, .MATCH]

/-- How strongly what comes next binds to the operand before it. In the
definition of a column, `NOT NULL` and a collation do not belong to it. -/
def nextStrength (columnar : Bool) : List Token → Nat
  | .word _ (some word) :: rest =>
      match word with
      | .OR => Strength.disjunction
      | .AND => Strength.conjunction
      | .XOR => Strength.exclusion
      | .IS | .NOTNULL => Strength.check
      | .OVERLAPS | .OPERATOR | .MEMBER => Strength.range
      | .COLLATE => if columnar then Strength.none else Strength.collation
      | .DIV => Strength.product
      | .AT =>
          if (rest.take 2).map Token.keyword? = [some .TIME, some .ZONE] then
            Strength.timeZone
          else Strength.none
      | .NOT =>
          match rest.head?.bind Token.keyword? with
          | some .NULL => if columnar then Strength.none else Strength.check
          | some word => if (.MEMBER :: ranges).contains word then Strength.range else Strength.none
          | none => Strength.none
      | word => if ranges.contains word then Strength.range else Strength.none
  | .operator text :: _ => strengthOf text
  | .atSign _ :: _ => Strength.other
  | .mark .openBracket :: _ => Strength.cast - 10
  | _ => Strength.none

/-- An operator as it is written in normal form. -/
def normalOperator (text : String) : String :=
  if text = "==" then "=" else if text = "!=" then "<>" else text

/-- Reads the character that takes the meaning off the next one in a
pattern. -/
def escapeClause : Parse String := do
  return (← after? [.ESCAPE] literal).elim "" fun value => " ESCAPE " ++ value.render

/-- Reads the right side of an operator. -/
def rightSide (left : Expr) (operator : String) (strength : Nat) : Parse Expr := do
  match ← oneOf? [.ANY, .ALL, .SOME] with
  | none => return .binary left operator (← g.expr strength)
  | some word =>
      let tokens ← get
      expectMark .openParen
      let values ←
        match ← peekKeyword? with
        | some .SELECT | some .WITH =>
            set tokens
            g.expr strength
        | _ =>
            let values ← g.expr strength
            expectMark .closeParen
            pure values
      let enclosed :=
        match values with
        | .subquery text => Expr.subquery text
        | values => .nested values
      if (comparisons.erase ":=").contains operator && operator ≠ "<=>" then
        return .other (left.render ++ " " ++ operator ++ " " ++ word.text ++ enclosed.render)
      else fail

/-- Reads the name of an operator that is given with its schema. -/
def qualifiedOperator : Parse String := parens do
  let part : Parse String := Token.text <$> next
  let first ← part
  let others ← many (do if ← mark .period then some <$> part else return none)
  return "OPERATOR(" ++ ".".intercalate (first :: others) ++ ")"

/-- Reads the values that an operand is looked for in. -/
def membership (left word : String) : Parse Expr := do
  if ← keyword .UNNEST then
    return .other (left ++ word ++ "IN UNNEST(" ++ (← parens g.exprText) ++ ")")
  else
    expectMark .openParen
    let values ←
      match ← attempt g.query with
      | some query => pure query.text
      | none => g.exprsText
    expectMark .closeParen
    return .other (left ++ word ++ "IN (" ++ values ++ ")")

/-- Reads a range, a list or a pattern after an operand. -/
def rangeOrPattern (left : String) : Parse Expr := do
  let negated ← keyword .NOT
  let word := if negated then " NOT " else " "
  let pattern (name : String) (any : Bool) : Parse Expr := do
    let any ← if any then keyword .ANY else pure false
    let value ← g.expr Strength.range
    let escape ← escapeClause
    return .other (left ++ word ++ name ++ (if any then "ANY " else "") ++ value.render ++ escape)
  let regular ← keyword .REGEXP
  let regularLike ← keyword .RLIKE
  let null ← if g.columnar then pure false else keyword .NULL
  if regular || regularLike then
    let value ← g.expr Strength.range
    return .other (left ++ word ++ (if regular then "REGEXP " else "RLIKE ") ++ value.render)
  else if negated && null then return .other (left ++ " IS NOT NULL")
  else
    match ← oneOf? [.IN, .BETWEEN, .LIKE, .ILIKE, .SIMILAR] with
    | some .IN => g.membership left word
    | some .BETWEEN =>
        let low ← g.expr Strength.range
        expect [.AND]
        let high ← g.expr Strength.range
        return .other (left ++ word ++ "BETWEEN " ++ low.render ++ " AND " ++ high.render)
    | some .LIKE => pattern "LIKE " true
    | some .ILIKE => pattern "ILIKE " true
    | some .SIMILAR =>
        expect [.TO]
        pattern "SIMILAR TO " false
    | _ => fail

/-- The tests after `IS`, longer ones first. -/
def checks : List (List Keyword) :=
  [[.NULL], [.NOT, .NULL], [.TRUE], [.NOT, .TRUE], [.FALSE], [.NOT, .FALSE], [.UNKNOWN],
    [.NOT, .UNKNOWN]]

/-- Reads the first of some sequences of keywords that comes next. -/
def firstOf? : List (List Keyword) → Parse (Option (List Keyword))
  | [] => return none
  | words :: others => do
      if ← keywords words then return some words else firstOf? others

/-- Keywords with blanks between them. -/
def wordsText (words : List Keyword) : String :=
  " ".intercalate (words.map Keyword.text)

/-- Reads a test after `IS`. -/
def check (left : String) : Parse Expr := do
  match ← firstOf? checks with
  | some words => return .other (left ++ " IS " ++ wordsText words)
  | none =>
      match ← firstOf? [[.DISTINCT, .FROM], [.NOT, .DISTINCT, .FROM]] with
      | some words =>
          return .other (left ++ " IS " ++ wordsText words ++ " " ++ (← g.exprText))
      | none =>
          let negated ← keyword .NOT
          let form ← oneOf? [.NFC, .NFD, .NFKC, .NFKD]
          expect [.NORMALIZED]
          return .other (left ++ " IS " ++ (if negated then "NOT " else "")
            ++ (form.elim "" fun word => word.text ++ " ") ++ "NORMALIZED")

/-- Reads the operator after an operand, and what belongs to it. -/
def extend (left : Expr) (strength : Nat) : Parse Expr := do
  let tokens ← get
  match ← next with
  | .operator "::" => return .other (left.render ++ "::" ++ (← g.dataType).text)
  | .atSign _ => g.rightSide left "@" strength
  | .operator "!" => return .other (left.render ++ "!")
  | .operator text => g.rightSide left (normalOperator text) strength
  | .word _ (some word) =>
      match word with
      | .AND | .OR | .XOR | .OVERLAPS => g.rightSide left word.text strength
      | .OPERATOR => g.rightSide left (← qualifiedOperator) strength
      | .IS => g.check left.render
      | .NOTNULL => return .other (left.render ++ " IS NOT NULL")
      | .AT =>
          expect [.TIME, .ZONE]
          return .other (left.render ++ " AT TIME ZONE " ++ (← g.expr strength).render)
      | .MEMBER =>
          expect [.OF]
          return .other (left.render ++ " MEMBER OF(" ++ (← parens g.exprText) ++ ")")
      | _ =>
          set tokens
          g.rangeOrPattern left.render
  | _ => fail

/-- Reads the operators after an operand that bind more strongly than a given
one. Some tokens bound their number. -/
def operators (above : Nat) : (limit : List Token) → Expr → Parse Expr
  | [], left => return left
  | _ :: limit, left => do
      let strength := nextStrength g.columnar (← get)
      if strength ≤ above then return left
      else operators above limit (← g.extend left strength)

/-- Reads an expression up to the first operator that does not bind more
strongly than a given one. -/
def expression (above : Nat) : Parse Expr := do
  let tokens ← get
  let first ← g.operand tokens
  let left ← g.parts first
  g.operators above tokens left

end Reservations.Sql.Grammar
