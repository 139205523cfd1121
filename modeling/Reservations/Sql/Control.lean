import Reservations.Sql.Connection

namespace Reservations.Sql.Grammar

/-! ## Statements of other kinds

Nothing is kept of these statements, but they have to be well formed. -/

open Parse

variable (g : Grammar)

/-! ### Prepared statements and cursors -/

/-- Reads the rest of a declaration of a cursor. -/
def cursor : Parse Unit := do
  discard ident
  optional [.BINARY]
  optionalOf [.INSENSITIVE, .ASENSITIVE]
  unless ← keyword .SCROLL do
    optional [.NO, .SCROLL]
  expect [.CURSOR]
  if (← oneOf? [.WITH, .WITHOUT]).isSome then
    expect [.HOLD]
  expect [.FOR]
  discard g.query

/-- Reads the rest of a fetch from a cursor. -/
def fetchRows : Parse Unit := do
  match ← oneOf?
      [.NEXT, .PRIOR, .FIRST, .LAST, .ALL, .ABSOLUTE, .RELATIVE, .FORWARD, .BACKWARD] with
  | some .FORWARD | some .BACKWARD =>
      unless ← keyword .ALL do
        discard numberLiteral
  | some .ABSOLUTE | some .RELATIVE | none => discard numberLiteral
  | some _ => return ()
  discard <| expectOneOf [.FROM, .IN]
  discard ident
  discard <| after? [.INTO] objectName

/-- Reads the rest of an execution of a prepared statement. -/
def execution : Parse Unit := do
  discard objectName
  match ← get with
  | .mark .openParen :: _ => discard <| parens (listUnless .closeParen g.anyExpr)
  | [] | .mark .semicolon :: _ => pure ()
  | first :: _ =>
      unless first.keyword?.any [Keyword.USING, .OUTPUT, .DEFAULT].contains do
        discard <| list g.anyExpr
  discard <| after? [.INTO] idents
  discard <| after? [.USING] (list g.namedExpr)
  optional [.OUTPUT]
  optional [.DEFAULT]

/-! ### Explanations -/

/-- The words that begin an explanation. -/
def explaining : List Keyword := [.EXPLAIN, .DESCRIBE, .DESC]

/-- Reads how an explanation is made. -/
def explanationOption : Parse Unit := do
  discard ident
  match ← peek? with
  | some (.mark .comma) | some (.mark .closeParen) => return ()
  | _ => discard g.anyExpr

/-- Reads the rest of an explanation that begins with a given word. An
explanation cannot be explained. -/
def explanation (first : Keyword) : Parse Unit := do
  if first = .EXPLAIN && (← peek?) = some (.mark .openParen) then
    discard <| parens (list g.explanationOption)
  else
    if (← firstOf? [[.QUERY, .PLAN], [.ESTIMATE]]).isNone then
      optional [.ANALYZE]
      optional [.VERBOSE]
      if ← keyword .FORMAT then
        optionalEquals
        discard <| expectOneOf [.TEXT, .GRAPHVIZ, .JSON]
  let inner ← peekKeyword?
  if (← attempt g.statement).isSome then
    if inner.any explaining.contains then fail
  else
    optionalOf [.EXTENDED, .FORMATTED]
    discard objectName

/-! ### Upkeep of tables -/

/-- Reads what is found out about a table, if it comes next. -/
def analysisPart? : Parse (Option Unit) := do
  match ← oneOf? [.PARTITION, .FOR, .CACHE, .NOSCAN, .COMPUTE] with
  | none => return none
  | some .PARTITION => present g.partValues
  | some .FOR =>
      expect [.COLUMNS]
      present (attempt idents)
  | some .CACHE => present (expect [.METADATA])
  | some .COMPUTE => present (expect [.STATISTICS])
  | some _ => return some ()

/-- Reads the rest of an analysis of a table. -/
def analysis : Parse Unit := do
  optional [.TABLE]
  discard objectName
  discard <| many g.analysisPart?

/-- Reads the rest of a cleaning of tables. -/
def cleaning : Parse Unit := do
  optional [.FULL]
  optional [.SORT, .ONLY]
  optional [.DELETE, .ONLY]
  optional [.REINDEX]
  optional [.RECLUSTER]
  if (← attempt objectName).isSome then
    if ← keyword .TO then
      discard literal
      expect [.PERCENT]
    optional [.BOOST]

/-- Reads the rest of a repair of the parts of a table. -/
def repair : Parse Unit := do
  optional [.REPAIR]
  expect [.TABLE]
  discard objectName
  discard <| attempt do
    optionalOf [.ADD, .DROP, .SYNC]
    expect [.PARTITIONS]

/-- Reads the rest of a statement that keeps a table in memory. -/
def cached : Parse Unit := do
  unless ← keyword .TABLE do
    discard objectName
    expect [.TABLE]
  discard objectName
  discard <| g.settingsAfter .OPTIONS
  match ← peek? with
  | none => return ()
  | some first =>
      unless first.isWord do
        fail
      optional [.AS]
      discard g.query

/-! ### Messages and engines -/

/-- Reads the rest of a message of a given severity. -/
def severeMessage : Parse Unit := do
  parens do
    let parts ← list g.anyExpr
    if parts.length < 3 then fail
  discard <| after? [.WITH] (list (expectOneOf [.LOG, .NOWAIT, .SETERROR]))

/-- Reads a message that stops a program. -/
def raised : Parse Unit := do
  if ← keywords [.USING, .MESSAGE] then
    expectToken (.operator "=")
    discard g.anyExpr
  else discard <| attempt g.anyExpr

/-- Reads a value that an engine's setting is given. -/
def pragmaValue : Parse Unit := do
  match ← literal with
  | .text _ | .doubleQuoted _ | .number .. | .placeholder _ => return ()
  | _ => fail

/-- Reads the rest of a change of a setting of an engine. -/
def pragma : Parse Unit := do
  discard objectName
  if (← peek?) = some (.mark .openParen) then
    parens pragmaValue
  else if ← token (.operator "=") then pragmaValue

/-- Reads the rest of a comment on a thing. -/
def remark : Parse Unit := do
  ifExists
  expect [.ON]
  discard <| expectOneOf [.COLUMN, .TABLE, .EXTENSION, .SCHEMA, .DATABASE, .USER, .ROLE]
  discard objectName
  expect [.IS]
  unless ← keyword .NULL do
    discard label

/-! ### All of them -/

/-- The statements that do something with tables or rows, by their first
words. -/
def tableStatement (first : Keyword) : Parse Unit := do
  match first with
  | .ANALYZE => g.analysis
  | .TRUNCATE => g.truncate
  | .MSCK => repair
  | .CREATE => g.create
  | .CACHE => g.cached
  | .UNCACHE =>
      expect [.TABLE]
      ifExists
      discard objectName
  | .DROP => g.drop
  | .ALTER => g.alter
  | .UPDATE => discard g.update
  | .MERGE => discard g.merge
  | .COPY => g.copied
  | .UNLOAD => g.unload
  | .EXPORT => g.exported
  | .RENAME =>
      expect [.TABLE]
      discard <| list do
        discard objectName
        expect [.TO]
        objectName
  | .VACUUM => cleaning
  | .COMMENT => remark
  | _ => fail

/-- The statements that do something with a session, by their first words. -/
def sessionStatement (first : Keyword) : Parse Unit := do
  match first with
  | .KILL =>
      optionalOf [.CONNECTION, .QUERY]
      discard natural
  | .DISCARD => discard <| expectOneOf [.ALL, .PLANS, .SEQUENCES, .TEMP, .TEMPORARY]
  | .DECLARE => g.cursor
  | .FETCH => fetchRows
  | .OPEN | .CLOSE | .SAVEPOINT | .LISTEN | .LOAD => discard ident
  | .SET => g.sessionSetting
  | .SHOW => g.shown
  | .USE => discard objectName
  | .START =>
      expect [.TRANSACTION]
      transactionModes
  | .BEGIN =>
      optionalOf [.TRANSACTION, .WORK]
      transactionModes
  | .COMMIT | .END => chained
  | .ROLLBACK =>
      chained
      discard <| after? [.TO] do
        optional [.SAVEPOINT]
        ident
  | .RELEASE =>
      optional [.SAVEPOINT]
      discard ident
  | .DEALLOCATE =>
      optional [.PREPARE]
      discard ident
  | .EXECUTE | .EXEC => g.execution
  | .PREPARE =>
      discard ident
      if (← peek?) = some (.mark .openParen) then
        discard <| parens (list g.dataType)
      expect [.AS]
      discard g.statement
  | .UNLISTEN =>
      unless ← token (.operator "*") do
        discard ident
  | .NOTIFY =>
      discard ident
      if ← mark .comma then discard label
  | .PRAGMA => pragma
  | .ATTACH =>
      optional [.DATABASE]
      discard g.anyExpr
      expect [.AS]
      discard ident
  | first => g.tableStatement first

/-- The statements of other kinds, by their first words. -/
def control (first : Keyword) : Parse Unit := do
  match first with
  | .EXPLAIN | .DESCRIBE | .DESC => g.explanation first
  | .CASE => g.caseStatement
  | .IF => g.ifStatement
  | .WHILE => g.whileStatement
  | .RAISE => g.raised
  | .RAISERROR => g.severeMessage
  | .GRANT => g.grant
  | .DENY => g.deny
  | .REVOKE => g.revoke
  | .CALL =>
      let name ← objectName
      if (← peek?) = some (.mark .openParen) then
        discard <| g.call g.anyOperand name.render
  | .ASSERT =>
      discard g.anyExpr
      discard <| after? [.AS] g.anyExpr
  | .RETURN => discard <| attempt g.anyExpr
  | .PRINT => discard g.anyExpr
  | first => g.sessionStatement first

end Reservations.Sql.Grammar
