import Reservations.Sql.Expression

namespace Reservations.Sql.Grammar

/-! ## What a statement reads from -/

open Parse

variable (g : Grammar)

/-! ### Aliases -/

/-- The keywords that are no alias for anything without `AS`. -/
def neverAliases : List Keyword :=
  [.WITH, .EXPLAIN, .ANALYZE, .SELECT, .WHERE, .GROUP, .SORT, .HAVING, .ORDER, .TOP, .LATERAL,
    .VIEW, .LIMIT, .OFFSET, .FETCH, .UNION, .EXCEPT, .INTERSECT, .MINUS, .CLUSTER,
    .DISTRIBUTE, .RETURNING, .FROM, .END]

/-- The keywords that are no alias for a column without `AS`. -/
def neverColumnAliases : List Keyword :=
  neverAliases ++ [.EXCLUDE, .INTO]

/-- The keywords that are no alias for a relation without `AS`. -/
def neverTableAliases : List Keyword :=
  neverAliases ++
    [.PIVOT, .UNPIVOT, .ON, .JOIN, .INNER, .CROSS, .FULL, .LEFT, .RIGHT, .NATURAL, .USING,
      .ASOF, .MATCH_CONDITION, .GLOBAL, .ANTI, .SEMI, .OUTER, .SET, .QUALIFY, .WINDOW, .FOR,
      .PARTITION, .PREWHERE, .SETTINGS, .FORMAT, .START, .CONNECT, .MATCH_RECOGNIZE, .SAMPLE,
      .TABLESAMPLE, .OPEN]

/-- Reads an alias, if one comes next. -/
def aliasName? (never : List Keyword) : Parse (Option Ident) := do
  if ← keyword .AS then some <$> ident
  else
    match ← peek? with
    | some (.word _ (some word)) => if never.contains word then return none else some <$> ident
    | some (.word ..) | some (.quoted _) | some (.literal (.text _)) => some <$> ident
    | _ => return none

/-- Reads the names that an alias gives to columns, with their types, if they
come next. -/
def aliasColumns : Parse String := do
  if (← peek?) = some (.mark .openParen) then
    let columns ← parens <| list do
      let name ← ident
      let type ← attempt g.dataType
      return name.render ++ type.elim "" fun type => " " ++ type.text
    return " (" ++ commaText columns ++ ")"
  else return ""

/-- Reads an alias for a relation as text, if one comes next. -/
def tableAlias : Parse String := do
  match ← aliasName? neverTableAliases with
  | some name => return " AS " ++ name.render ++ (← g.aliasColumns)
  | none => return ""

/-! ### Relations and joins -/

/-- A relation with its normal form. -/
structure Source where
  relation : Relation
  text : String

/-- A relation with the relations joined to it. -/
structure Joined where
  source : Source
  joins : List String
  /-- Whether the relation is itself a join in parentheses. -/
  nested : Bool

/-- A joined relation in normal form. -/
def Joined.text (joined : Joined) : String :=
  joined.source.text ++ String.join joined.joins

/-- Reads what the rows of a join have in common. -/
def joinConstraint : Parse String := do
  if ← keyword .ON then return " ON " ++ (← g.exprText)
  else if ← keyword .USING then
    let columns ← parens (list objectName)
    return " USING(" ++ commaText (columns.map ObjectName.render) ++ ")"
  else return ""

/-- Reads the rest of a kind of join up to the word `JOIN`. -/
def joinKind? (natural : Bool) : Parse (Option String) := do
  match ← peekKeyword? with
  | some .JOIN =>
      expect [.JOIN]
      return some "JOIN"
  | some .INNER =>
      expect [.INNER, .JOIN]
      return some "INNER JOIN"
  | some .FULL =>
      expect [.FULL]
      let _ ← keyword .OUTER
      expect [.JOIN]
      return some "FULL JOIN"
  | some .ANTI =>
      expect [.ANTI, .JOIN]
      return some "ANTI JOIN"
  | some .SEMI =>
      expect [.SEMI, .JOIN]
      return some "SEMI JOIN"
  | some .LEFT | some .RIGHT =>
      let side := (← expectOneOf [.LEFT, .RIGHT]).text
      match ← oneOf? [.OUTER, .SEMI, .ANTI, .JOIN] with
      | some .JOIN => return some (side ++ " JOIN")
      | some word =>
          expect [.JOIN]
          return some (side ++ " " ++ word.text ++ " JOIN")
      | none => fail
  | some .OUTER => fail
  | some .STRAIGHT_JOIN =>
      expect [.STRAIGHT_JOIN]
      return some "STRAIGHT_JOIN"
  | _ => if natural then fail else return none

/-- Reads a relation joined to the ones before it, if one comes next. The rule
for the relation is given. A straight join is written the same way whether it is
natural or not. -/
def join? (source : Parse Source) : Parse (Option String) := do
  let globally := if ← keyword .GLOBAL then " GLOBAL" else ""
  if ← keyword .CROSS then
    if ← keyword .JOIN then
      return some (globally ++ " CROSS JOIN " ++ (← source).text)
    else
      expect [.APPLY]
      return some (globally ++ " CROSS APPLY " ++ (← source).text)
  else if ← keywords [.OUTER, .APPLY] then
    return some (globally ++ " OUTER APPLY " ++ (← source).text)
  else if ← keywords [.ASOF, .JOIN] then
    let relation ← source
    expect [.MATCH_CONDITION]
    let condition ← parens g.exprText
    return some (globally ++ " ASOF JOIN " ++ relation.text
      ++ " MATCH_CONDITION (" ++ condition ++ ")" ++ (← g.joinConstraint))
  else
    let natural ← keyword .NATURAL
    match ← joinKind? natural with
    | none => return none
    | some kind =>
        let relation ← source
        let constraint ← if natural then pure "" else g.joinConstraint
        let naturally := if natural && kind ≠ "STRAIGHT_JOIN" then " NATURAL " else " "
        return some (globally ++ naturally ++ kind ++ " " ++ relation.text ++ constraint)

/-- Reads a relation with the relations joined to it. -/
def joined (source : Parse (Source × Bool)) : Parse Joined := do
  let (first, nested) ← source
  let others ← many (g.join? (Prod.fst <$> source))
  return ⟨first, others, nested⟩

/-! ### Tables -/

/-- Reads a sample of a table, if one comes next. -/
def sample : Parse String := do
  match ← oneOf? [.TABLESAMPLE, .SAMPLE] with
  | none => return ""
  | some word =>
      let method ← oneOf? [.BERNOULLI, .ROW, .SYSTEM, .BLOCK]
      let grouped ← mark .openParen
      let bucket ← if grouped then keyword .BUCKET else pure false
      let (amount, bucket) ←
        if bucket then do
          let number ← numberLiteral
          expect [.OUT, .OF]
          let total ← numberLiteral
          let key ← after? [.ON] g.exprText
          pure ("", " (BUCKET " ++ number.render ++ " OUT OF " ++ total.render
            ++ key.elim "" (" ON " ++ ·) ++ ")")
        else do
          let value ←
            match ← attempt g.exprText with
            | some text => pure text
            | none =>
                match ← next with
                | .word text _ | .quoted text => pure text
                | _ => fail
          let unit ← oneOf? [.ROWS, .PERCENT]
          let text := value ++ unit.elim "" fun word => " " ++ word.text
          pure (if grouped then " (" ++ text ++ ")" else " " ++ text, "")
      if grouped then expectMark .closeParen
      let seed ←
        match ← oneOf? [.REPEATABLE, .SEED] with
        | some word => pure (" " ++ word.text ++ " (" ++ (← parens numberLiteral).render ++ ")")
        | none => pure ""
      let offset ← after? [.OFFSET] g.exprText
      return " " ++ word.text ++ (method.elim "" fun word => " " ++ word.text)
        ++ amount ++ seed ++ bucket ++ offset.elim "" (" OFFSET " ++ ·)

/-- Reads an expression with a name for it, if it has one. -/
def namedExpr : Parse String := do
  let value ← g.exprText
  let name ← after? [.AS] ident
  return value ++ name.elim "" fun name => " AS " ++ name.render

/-- Reads the rule for an operand of any kind. -/
def anyOperand : Parse Expr := do
  g.operand (← get)

/-- Reads the call of a function with a name for its result. -/
def namedCall : Parse String := do
  match ← next with
  | .word text _ | .quoted text =>
      let value ← g.call g.anyOperand text
      let name ← after? [.AS] ident
      return value ++ name.elim "" fun name => " AS " ++ name.render
  | _ => fail

/-- Reads how the rows of a table are turned into columns. -/
def pivot : Parse String := do
  let body ← parens do
    let calls ← list g.namedCall
    expect [.FOR]
    let columns ←
      if (← peek?) = some (.mark .openParen) then
        parens (list (Expr.render <$> g.expr Strength.range))
      else pure [(← g.expr Strength.range).render]
    expect [.IN]
    let values ← parens do
      if ← keyword .ANY then
        let order ← after? [.ORDER, .BY] g.orderItems
        return "ANY" ++ order.elim "" (" ORDER BY " ++ ·)
      else
        match ← peekKeyword? with
        | some .SELECT | some .WITH => return (← g.query).text
        | _ => return commaText (← list g.namedExpr)
    let default ← after? [.DEFAULT, .ON, .NULL] (parens g.exprText)
    let column :=
      match columns with
      | [column] => column
      | columns => "(" ++ commaText columns ++ ")"
    return commaText calls ++ " FOR " ++ column ++ " IN (" ++ values ++ ")"
      ++ default.elim "" fun value => " DEFAULT ON NULL (" ++ value ++ ")"
  return " PIVOT(" ++ body ++ ")" ++ (← g.tableAlias)

/-- Reads how the columns of a table are turned into rows. -/
def unpivot : Parse String := do
  let nulls ←
    match ← oneOf? [.INCLUDE, .EXCLUDE] with
    | some word =>
        expect [.NULLS]
        pure (" " ++ word.text ++ " NULLS ")
    | none => pure ""
  let body ← parens do
    let value ← g.exprText
    expect [.FOR]
    let name ← ident
    expect [.IN]
    let columns ← parens (list g.namedExpr)
    return value ++ " FOR " ++ name.render ++ " IN (" ++ commaText columns ++ ")"
  return " UNPIVOT" ++ nulls ++ "(" ++ body ++ ")" ++ (← g.tableAlias)

/-- Reads the turns between rows and columns after a table, if there are any. -/
def turns : Parse (List String) :=
  many do
    match ← oneOf? [.PIVOT, .UNPIVOT] with
    | some .PIVOT => some <$> g.pivot
    | some _ => some <$> g.unpivot
    | none => return none

/-- A relation with the turns after it. -/
def Source.turned (source : Source) (turns : List String) : Source :=
  if turns.isEmpty then source else ⟨.other, source.text ++ String.join turns⟩

/-- Reads a table by its name, which may have arguments. -/
def table : Parse Source := do
  let name ← objectName
  let values ←
    if (← peek?) = some (.mark .openParen) then
      let values ← parens (listUnless .closeParen g.argument)
      pure ("(" ++ commaText values ++ ")")
    else pure ""
  let ordinality ← if ← keywords [.WITH, .ORDINALITY] then pure " WITH ORDINALITY" else pure ""
  let aliased ← g.tableAlias
  let hints ←
    match ← get with
    | .word _ (some .WITH) :: .mark .openParen :: _ => do
        expect [.WITH]
        pure (" WITH (" ++ (← parens g.exprsText) ++ ")")
    | _ => pure ""
  let sample ← g.sample
  let source : Source :=
    ⟨.table name, name.render ++ values ++ ordinality ++ aliased ++ hints ++ sample⟩
  return source.turned (← g.turns)

/-! ### Tables made of other things -/

/-- Reads a query in parentheses with its alias, after the opening one. -/
def derived : Parse String := do
  let query ← g.query
  expectMark .closeParen
  return "(" ++ query.text ++ ")" ++ (← g.tableAlias)

/-- Reads the elements of arrays as a relation. -/
def unnested : Parse String := do
  let arrays ← parens g.exprsText
  let ordinality ← if ← keywords [.WITH, .ORDINALITY] then pure " WITH ORDINALITY" else pure ""
  let aliased ← g.tableAlias
  let offset ←
    if ← keyword .WITH <&&> keyword .OFFSET then
      let name ← aliasName? neverColumnAliases
      pure (" WITH OFFSET" ++ name.elim "" fun name => " AS " ++ name.render)
    else pure ""
  return "UNNEST(" ++ arrays ++ ")" ++ ordinality ++ aliased ++ offset

/-- Reads what a column has where there is no value for it. -/
def absence? : Parse (Option (String × Keyword)) := do
  let value ←
    match ← oneOf? [.NULL, .ERROR, .DEFAULT] with
    | some .DEFAULT => pure (some ("DEFAULT " ++ (← literal).render))
    | some word => pure (some word.text)
    | none => pure none
  match value with
  | some text =>
      expect [.ON]
      return some (text, ← expectOneOf [.EMPTY, .ERROR])
  | none => return none

/-- Reads a column of a table made of a document. Some tokens bound how deeply
columns are nested in each other. -/
def documentColumn : (limit : List Token) → Parse String
  | [] => fail
  | _ :: limit => do
      if ← keyword .NESTED then
        optional [.PATH]
        let path ← literal
        expect [.COLUMNS]
        let columns ← parens (list (documentColumn limit))
        return "NESTED PATH " ++ path.render ++ " COLUMNS (" ++ commaText columns ++ ")"
      else
        let name ← ident
        if ← keyword .FOR then
          expect [.ORDINALITY]
          return name.render ++ " FOR ORDINALITY"
        else
          let type ← g.dataType
          let tested ← keyword .EXISTS
          expect [.PATH]
          let path ← literal
          let absences ← many absence?
          let onWord (word : Keyword) : String :=
            ((absences.reverse.find? fun absence => absence.2 = word).map fun absence =>
              " " ++ absence.1 ++ " ON " ++ word.text).getD ""
          return name.render ++ " " ++ type.text ++ (if tested then " EXISTS" else "") ++ " PATH "
            ++ path.render ++ onWord .EMPTY ++ onWord .ERROR

/-- Reads a table made of a document, after its opening parenthesis. -/
def documentTable : Parse String := do
  let value ← g.exprText
  expectMark .comma
  let path ← literal
  expect [.COLUMNS]
  let columns ← parens (list (do g.documentColumn (← get)))
  expectMark .closeParen
  return "JSON_TABLE(" ++ value ++ ", " ++ path.render ++ " COLUMNS(" ++ commaText columns ++ "))"
    ++ (← g.tableAlias)

/-- Reads a table made of an open document, after its opening parenthesis. -/
def openDocument : Parse String := do
  let value ← g.exprText
  let path ← if ← mark .comma then some <$> literal else pure none
  expectMark .closeParen
  let columns ← after? [.WITH] <| parens <| list do
    let name ← ident
    let type ← g.dataType
    let path ←
      match ← peek? with
      | some (.literal (.text text)) =>
          let _ ← next
          pure (" " ++ DataType.labelText text)
      | _ => pure ""
    let whole ← if ← keyword .AS then
      expect [.JSON]
      pure " AS JSON"
    else pure ""
    return name.render ++ " " ++ type.text ++ path ++ whole
  return "OPENJSON(" ++ value ++ path.elim "" (fun path => ", " ++ path.render) ++ ")"
    ++ columns.elim "" (fun columns => " WITH (" ++ commaText columns ++ ")") ++ (← g.tableAlias)

/-- Reads a value that is passed to a table made of a marked-up text. -/
def passedValue : Parse String := do
  let byValue ← if ← keyword .BY then keyword .VALUE else pure false
  let value ← g.namedExpr
  return (if byValue then "BY VALUE " else "") ++ value

/-- Reads a column of a table made of a marked-up text. -/
def markupColumn : Parse String := do
  let name ← ident
  if ← keyword .FOR then
    expect [.ORDINALITY]
    return name.render ++ " FOR ORDINALITY"
  else
    let type ← g.dataType
    let path ← after? [.PATH] g.exprText
    let default ← after? [.DEFAULT] g.exprText
    let filled ← keywords [.NOT, .NULL]
    unless filled do
      optional [.NULL]
    return name.render ++ " " ++ type.text ++ path.elim "" (" PATH " ++ ·)
      ++ default.elim "" (" DEFAULT " ++ ·) ++ (if filled then " NOT NULL" else "")

/-- Reads a table made of a marked-up text, after its opening parenthesis. -/
def markupTable : Parse String := do
  let spaces ← after? [.XMLNAMESPACES] do
    let found ← parens <| list do
      let place ← g.exprText
      expect [.AS]
      return place ++ " AS " ++ (← ident).render
    expectMark .comma
    return "XMLNAMESPACES(" ++ commaText found ++ "), "
  let rows ← g.exprText
  let passed ← after? [.PASSING] (list g.passedValue)
  expect [.COLUMNS]
  let columns ← list g.markupColumn
  expectMark .closeParen
  return "XMLTABLE(" ++ spaces.getD "" ++ rows
    ++ passed.elim "" (fun values => " PASSING " ++ commaText values)
    ++ " COLUMNS " ++ commaText columns ++ ")" ++ (← g.tableAlias)

/-- Reads a table that a function with a keyword for a name makes, if one comes
next. -/
def madeTable? : Parse (Option String) := do
  match ← get with
  | .word _ (some word) :: .mark .openParen :: rest =>
      let made (rule : Parse String) : Parse (Option String) := do
        set rest
        some <$> rule
      match word with
      | .JSON_TABLE => made g.documentTable
      | .OPENJSON => made g.openDocument
      | .XMLTABLE => made g.markupTable
      | _ => return none
  | _ => return none

/-- Reads a relation, and whether it is a join in parentheses. Some tokens bound
how deeply joins are nested in each other. -/
def source : (limit : List Token) → Parse (Source × Bool)
  | [] => fail
  | _ :: limit => do
      if ← keyword .LATERAL then
        if ← mark .openParen then
          return (⟨.other, "LATERAL " ++ (← g.derived)⟩, false)
        else
          let name ← objectName
          let values ← parens (listUnless .closeParen g.argument)
          return (⟨.other, "LATERAL " ++ name.render ++ "(" ++ commaText values ++ ")"
            ++ (← g.tableAlias)⟩, false)
      else if ← keyword .TABLE then
        let values ← parens g.exprText
        return (⟨.other, "TABLE(" ++ values ++ ")" ++ (← g.tableAlias)⟩, false)
      else if ← mark .openParen then
        match ← attempt g.derived with
        | some text =>
            let found : Source := ⟨.other, text⟩
            return (found.turned (← g.turns), false)
        | none =>
            let inner ← g.joined (source limit)
            if inner.joins.isEmpty && !inner.nested then fail
            else
              expectMark .closeParen
              return (⟨.other, "(" ++ inner.text ++ ")" ++ (← g.tableAlias)⟩, true)
      else if ← keyword .UNNEST then return (⟨.other, ← g.unnested⟩, false)
      else
        match ← g.madeTable? with
        | some text => return (⟨.other, text⟩, false)
        | none => return (← g.table, false)

/-- Reads the relations that a statement reads from. -/
def sources : Parse (List Joined) := do
  let tokens ← get
  list (g.joined (g.source tokens))

end Reservations.Sql.Grammar
