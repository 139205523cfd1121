import Reservations.Sql.Query

namespace Reservations.Sql.Grammar

/-! ## Statements that change rows

They can stand in the place of a query, so they are read with their normal
form. -/

open Parse

variable (g : Grammar)

/-! ### Parts -/

/-- Reads the names of columns in parentheses. -/
def columnNames : Parse (List Ident) :=
  parens (list ident)

/-- Names of columns in parentheses. -/
def columnsText (columns : List Ident) : String :=
  tupleText (columns.map Ident.render)

/-- Reads the value that a column is given. -/
def assignment : Parse String := do
  let target ←
    if (← peek?) = some (.mark .openParen) then
      pure (tupleText ((← parens (list objectName)).map ObjectName.render))
    else pure (← objectName).render
  expectToken (.operator "=")
  return target ++ " = " ++ (← g.exprText)

/-- Reads the values that columns are given. -/
def assignments : Parse String := do
  return commaText (← list g.assignment)

/-- Reads what becomes of a row that is there already, where the word `OR` asks
for it. It may be left out before `REPLACE`. -/
def conflictClause : Parse String := do
  for word in [Keyword.REPLACE, .ROLLBACK, .ABORT, .FAIL, .IGNORE] do
    if ← keywords [.OR, word] then
      return " OR " ++ word.text
  return if ← keyword .REPLACE then " OR REPLACE" else ""

/-- Reads what becomes of a row that is there already. -/
def onConflict : Parse String := do
  if ← keyword .CONFLICT then
    let target ←
      if ← keywords [.ON, .CONSTRAINT] then pure (" ON CONSTRAINT " ++ (← objectName).render)
      else if (← peek?) = some (.mark .openParen) then pure (columnsText (← columnNames))
      else pure ""
    expect [.DO]
    if ← keyword .NOTHING then return " ON CONFLICT" ++ target ++ " DO NOTHING"
    else
      expect [.UPDATE, .SET]
      let changes ← g.assignments
      let filter ← after? [.WHERE] g.exprText
      return " ON CONFLICT" ++ target ++ " DO UPDATE SET " ++ changes ++ clause "WHERE" filter
  else
    expect [.DUPLICATE, .KEY, .UPDATE]
    return " ON DUPLICATE KEY UPDATE " ++ (← g.assignments)

/-- Reads which columns of the changed rows are wanted. -/
def returning : Parse String := do
  return clause "RETURNING" (← after? [.RETURNING] (commaText <$> list g.selectItem))

/-- Relations with commas between them. -/
def sourcesText (relations : List Joined) : String :=
  commaText (relations.map Joined.text)

/-! ### Insertions -/

/-- The ways to store the rows of a table in files. -/
def fileFormats : List Keyword :=
  [.AVRO, .JSONFILE, .ORC, .PARQUET, .RCFILE, .SEQUENCEFILE, .TEXTFILE]

/-- Reads the rest of an insertion into a directory. -/
def directoryInsertion (manner : String) : Parse String := do
  let path ← label
  let format ← after? [.STORED, .AS] (expectOneOf fileFormats)
  let query ← g.query
  return "INSERT" ++ manner ++ " DIRECTORY " ++ (Token.literal (.text path)).text
    ++ clause "STORED AS" (format.map Keyword.text) ++ " " ++ query.text

/-- Reads where the rows of an insertion go. -/
def insertionPartition : Parse String := do
  match ← after? [.PARTITION] (parens g.exprsText) with
  | some columns => return "PARTITION (" ++ columns ++ ") "
  | none => return ""

/-- Reads the columns that an insertion gives values to, if it names them, and where its
rows go. -/
def insertionColumns : Parse (List Ident × String) := do
  match ← get with
  | .mark .openParen :: .word _ (some .SELECT) :: _ => return ([], "")
  | .mark .openParen :: _ => do
      let columns ← columnNames
      return (columns, ← g.insertionPartition)
  | _ => return ([], ← g.insertionPartition)

/-- Reads the rest of an insertion, with its normal form. -/
def insertion : Parse (Statement × String) := do
  let conflict ← conflictClause
  let overwrite ← keyword .OVERWRITE
  let into ← keyword .INTO
  let isLocal ← keyword .LOCAL
  let replacing := if overwrite then " OVERWRITE" else ""
  if ← keyword .DIRECTORY then
    return (.other, ← g.directoryInsertion (replacing ++ if isLocal then " LOCAL" else ""))
  else
    let word ← keyword .TABLE
    let table ← objectName
    let short ← after? [.AS] ident
    let (columns, source, body) ←
      if ← keywords [.DEFAULT, .VALUES] then pure ([], none, "DEFAULT VALUES")
      else
        let (columns, place) ← g.insertionColumns
        let source ← g.query
        let names := if columns.isEmpty then "" else columnsText columns ++ " "
        pure (columns, some source, names ++ place ++ source.text)
    let conflicts ← after? [.ON] g.onConflict
    let wanted ← g.returning
    let start :=
      if conflict.isEmpty then
        replacing ++ (if into then " INTO" else "") ++ if word then " TABLE" else ""
      else conflict ++ " INTO"
    return (.insert table columns source,
      "INSERT" ++ start ++ " " ++ table.render ++ clause "AS" (short.map Ident.render) ++ " "
        ++ body ++ conflicts.getD "" ++ wanted)

/-! ### Deletions and updates -/

/-- Reads the rest of a deletion, with its normal form. -/
def deletion : Parse (Statement × String) := do
  let tables ←
    if ← keyword .FROM then pure ""
    else do
      let tables ← objectNames
      expect [.FROM]
      pure (" " ++ commaText (tables.map ObjectName.render))
  let relations ← g.sources
  let others ← after? [.USING] g.sources
  let filter ← after? [.WHERE] g.anyExpr
  let wanted ← g.returning
  let order ← after? [.ORDER, .BY] g.orderItems
  let limit ← after? [.LIMIT] g.limit
  return (.delete (relations.map fun joined => joined.source.relation) filter,
    "DELETE" ++ tables ++ " FROM " ++ sourcesText relations
      ++ clause "USING" (others.map sourcesText) ++ clause "WHERE" (filter.map Expr.render)
      ++ wanted ++ clause "ORDER BY" order ++ clause "LIMIT" limit.join)

/-- Reads the rest of an update as text. -/
def update : Parse String := do
  let conflict ← conflictClause
  let table ← g.joined (g.source (← get))
  let before ← after? [.FROM] g.sources
  expect [.SET]
  let changes ← g.assignments
  let after ← if before.isNone then after? [.FROM] g.sources else pure none
  let filter ← after? [.WHERE] g.exprText
  let wanted ← g.returning
  let limit ← after? [.LIMIT] g.exprText
  return "UPDATE" ++ conflict ++ " " ++ table.text ++ clause "FROM" (before.map sourcesText)
    ++ " SET " ++ changes ++ clause "FROM" (after.map sourcesText) ++ clause "WHERE" filter
    ++ wanted ++ clause "LIMIT" limit

/-! ### Merges -/

/-- Reads what a merge does with the rows of one kind. A row without a match in
the target can only be inserted, and no other row can. -/
def mergeAction : Parse String := do
  let missing ← keyword .NOT
  expect [.MATCHED]
  let bySource ← if missing then keywords [.BY, .SOURCE] else pure false
  let byTarget ← if missing && !bySource then keywords [.BY, .TARGET] else pure false
  let condition ← after? [.AND] g.exprText
  expect [.THEN]
  let insertable := missing && !bySource
  let action ←
    match ← expectOneOf [.UPDATE, .INSERT, .DELETE] with
    | .INSERT =>
        unless insertable do
          fail
        let columns ←
          if (← peek?) = some (.mark .openParen) then
            pure (columnsText (← columnNames) ++ " ")
          else pure ""
        expect [.VALUES]
        pure ("INSERT " ++ columns ++ (← g.values).text)
    | word =>
        if insertable then fail
        if word = .DELETE then pure "DELETE"
        else
          expect [.SET]
          pure ("UPDATE SET " ++ (← g.assignments))
  return "WHEN " ++ (if missing then "NOT " else "") ++ "MATCHED"
    ++ (if bySource then " BY SOURCE" else if byTarget then " BY TARGET" else "")
    ++ clause "AND" condition ++ " THEN " ++ action

/-- Reads the rest of a merge as text. -/
def merge : Parse String := do
  let into ← if ← keyword .INTO then pure " INTO" else pure ""
  let (target, _) ← g.source (← get)
  expect [.USING]
  let (source, _) ← g.source (← get)
  expect [.ON]
  let condition ← g.exprText
  let actions ← many (after? [.WHEN] g.mergeAction)
  let wanted ←
    match ← oneOf? [.OUTPUT, .RETURNING] with
    | none => pure ""
    | some word =>
        let items ← list g.selectItem
        let into ← if word = .OUTPUT then after? [.INTO] destination else pure none
        pure (" " ++ word.text ++ " " ++ commaText items ++ clause "INTO" into)
  return "MERGE" ++ into ++ " " ++ target.text ++ " USING " ++ source.text ++ " ON " ++ condition
    ++ " " ++ " ".intercalate actions ++ wanted

/-- Reads a statement that changes rows, as text. -/
def change : Parse String := do
  match ← expectOneOf [.INSERT, .DELETE, .UPDATE, .MERGE] with
  | .INSERT => Prod.snd <$> g.insertion
  | .DELETE => Prod.snd <$> g.deletion
  | .UPDATE => g.update
  | _ => g.merge

end Reservations.Sql.Grammar
