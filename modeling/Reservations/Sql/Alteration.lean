import Reservations.Sql.Definition

namespace Reservations.Sql.Grammar

/-! ## Statements that change or remove what is defined

Nothing is kept of these statements, but they have to be well formed. -/

open Parse

variable (g : Grammar)

/-- Reads what becomes of the things that depend on another one. -/
def dependents : Parse Unit := optionalOf [.CASCADE, .RESTRICT]

/-! ### Removals -/

/-- Reads the rest of a removal of things of most kinds. A role takes nothing
with it. -/
def dropNamed (kind : Keyword) : Parse Unit := do
  ifExists
  discard objectNames
  let cascade ← keyword .CASCADE
  let restrict ← keyword .RESTRICT
  let purge ← keyword .PURGE
  if cascade && restrict then fail
  if kind = .ROLE && (cascade || restrict || purge) then fail
  discard <| after? [.ON] objectName

/-- Reads the rest of a removal of things. -/
def drop : Parse Unit := do
  if ← keywords [.MATERIALIZED, .VIEW] then dropNamed .VIEW
  else
    match ← expectOneOf
        [.TABLE, .VIEW, .INDEX, .ROLE, .SCHEMA, .DATABASE, .SEQUENCE, .STAGE, .TYPE, .USER,
          .STREAM, .FUNCTION, .POLICY, .CONNECTOR, .DOMAIN, .PROCEDURE, .SECRET, .TRIGGER,
          .EXTENSION] with
    | .FUNCTION | .PROCEDURE =>
        ifExists
        discard <| list g.functionName
        dependents
    | .POLICY =>
        ifExists
        discard ident
        expect [.ON]
        discard objectName
        dependents
    | .CONNECTOR =>
        ifExists
        discard ident
    | .DOMAIN =>
        ifExists
        discard objectName
        dependents
    | .SECRET =>
        ifExists
        discard ident
        discard <| after? [.FROM] passName
    | .TRIGGER =>
        ifExists
        discard objectName
        discard <| after? [.ON] objectName
        dependents
    | .EXTENSION =>
        ifExists
        discard idents
        dependents
    | kind => dropNamed kind

/-- Reads the rest of an emptying of tables. -/
def truncate : Parse Unit := do
  optional [.TABLE]
  discard <| list do
    optional [.ONLY]
    objectName
  discard <| after? [.PARTITION] (parens (list g.anyExpr))
  unless ← keywords [.RESTART, .IDENTITY] do
    optional [.CONTINUE, .IDENTITY]
  dependents
  onCluster

/-! ### Changes of tables -/

/-- Reads values that pick out a part of a table. -/
def partValues : Parse Unit :=
  discard <| parens (list g.anyExpr)

/-- Reads the type that a column gets. -/
def columnRetyping : Parse Unit := do
  discard g.dataType
  discard <| after? [.USING] g.anyExpr

/-- Reads a change of a column. -/
def columnChange : Parse Unit := do
  match ← firstOf?
      [[.SET, .NOT, .NULL], [.DROP, .NOT, .NULL], [.SET, .DEFAULT], [.DROP, .DEFAULT],
        [.SET, .DATA, .TYPE], [.TYPE], [.ADD, .GENERATED]] with
  | none => fail
  | some [.SET, .DEFAULT] => discard g.anyExpr
  | some [.SET, .DATA, .TYPE] | some [.TYPE] => g.columnRetyping
  | some [.ADD, .GENERATED] =>
      unless ← keyword .ALWAYS do
        optional [.BY, .DEFAULT]
      expect [.AS, .IDENTITY]
      discard sequenceOptions
  | some _ => return ()

/-- Reads what a table gets. -/
def tableAddition : Parse Unit := do
  if (← g.tableRule?).isSome then optional [.NOT, .VALID]
  else
    ifNotExists
    let parts ← many (after? [.PARTITION] g.partValues)
    if parts.isEmpty then
      optional [.COLUMN]
      ifNotExists
      discard g.columnDefinition

/-- Reads what a table loses. -/
def tableRemoval : Parse Unit := do
  match ← firstOf?
      [[.IF, .EXISTS, .PARTITION], [.PARTITION], [.CONSTRAINT], [.PRIMARY, .KEY],
        [.FOREIGN, .KEY], [.INDEX]] with
  | some [.IF, .EXISTS, .PARTITION] | some [.PARTITION] => g.partValues
  | some [.PRIMARY, .KEY] => dependents
  | some [.FOREIGN, .KEY] =>
      discard ident
      dependents
  | some [.INDEX] => discard ident
  | some _ =>
      ifExists
      discard ident
      dependents
  | none =>
      optional [.PROJECTION]
      unless ← keywords [.CLUSTERING, .KEY] do
        optional [.COLUMN]
        ifExists
        discard ident
        dependents

/-- Reads the rest of a renaming of a table or of a part of it. -/
def tableRenaming : Parse Unit := do
  if (← oneOf? [.TO, .AS]).isSome then discard objectName
  else
    unless ← keyword .CONSTRAINT do
      optional [.COLUMN]
    discard ident
    expect [.TO]
    discard ident

/-- Reads the definition of a column that takes the place of another one. -/
def columnReplacement : Parse Unit := do
  discard ident
  discard g.dataType
  discard <| many g.columnRule?

/-- Reads which rules and triggers of a table are heeded. -/
def tableSwitch (manners : List Keyword) : Parse Unit := do
  unless ← keywords [.ROW, .LEVEL, .SECURITY] do
    optionalOf manners
    discard <| expectOneOf [.RULE, .TRIGGER]
    discard ident

/-- The words that begin a change of what a table is, which nothing can stand
before. -/
def outrightChanges : List Keyword :=
  [.ADD, .RENAME, .DISABLE, .ENABLE]

/-- The words that begin another change of a table. -/
def tableChanges : List (List Keyword) :=
  [[.DROP], [.PARTITION], [.CHANGE], [.MODIFY], [.ALTER], [.SWAP], [.OWNER, .TO], [.CLUSTER, .BY],
    [.SUSPEND, .RECLUSTER], [.RESUME, .RECLUSTER], [.AUTO_INCREMENT], [.REPLICA, .IDENTITY],
    [.VALIDATE, .CONSTRAINT], [.SET, .TBLPROPERTIES], [.SET]]

/-- Reads a change of a table that begins with a word of its own. -/
def plainTableChange : Parse Unit := do
  match (← firstOf? tableChanges).bind List.head? with
  | some .DROP => g.tableRemoval
  | some .PARTITION =>
      g.partValues
      expect [.RENAME, .TO, .PARTITION]
      g.partValues
  | some .CHANGE =>
      optional [.COLUMN]
      discard ident
      g.columnReplacement
  | some .MODIFY =>
      optional [.COLUMN]
      g.columnReplacement
  | some .ALTER =>
      optional [.COLUMN]
      discard ident
      g.columnChange
  | some .SWAP =>
      expect [.WITH]
      discard objectName
  | some .CLUSTER => g.partValues
  | some .SUSPEND | some .RESUME => return ()
  | some .AUTO_INCREMENT =>
      optionalEquals
      discard numberLiteral
  | some .REPLICA =>
      unless (← oneOf? [.NONE, .FULL, .DEFAULT]).isSome do
        expect [.USING, .INDEX]
        discard ident
  | some .SET => discard <| parens (list g.setting)
  | some _ => discard ident
  | none => if (← changeManner?).isNone then fail

/-- Reads a change of a table. What a projection is spared or given may stand
before most of them. -/
def tableChange : Parse Unit := do
  match ← oneOf? outrightChanges with
  | some .ADD => g.tableAddition
  | some .RENAME => tableRenaming
  | some .DISABLE => tableSwitch []
  | some _ => tableSwitch [.ALWAYS, .REPLICA]
  | none =>
      optional [.CLEAR, .PROJECTION]
      optional [.MATERIALIZE, .PROJECTION]
      g.plainTableChange

/-- Reads the rest of a change of a table. -/
def tableChangeList : Parse Unit := do
  ifExists
  optional [.ONLY]
  discard objectName
  onCluster
  discard <| list g.tableChange
  if (← firstOf? [[.LOCATION], [.SET, .LOCATION]]).isSome then
    discard ident

/-! ### Changes of other things -/

/-- Reads the rest of a change of a schema. -/
def schemaChange : Parse Unit := do
  ifExists
  discard objectName
  match ← firstOf?
      [[.SET, .OPTIONS], [.SET, .DEFAULT, .COLLATE], [.ADD, .REPLICA], [.DROP, .REPLICA],
        [.RENAME, .TO], [.OWNER, .TO]] with
  | none => fail
  | some [.SET, .OPTIONS] => discard <| parens (listUnless .closeParen g.setting)
  | some [.SET, .DEFAULT, .COLLATE] => discard g.anyExpr
  | some [.ADD, .REPLICA] =>
      discard ident
      discard <| g.settingsAfter .OPTIONS
  | some [.RENAME, .TO] => discard objectName
  | some _ => discard ident

/-- Reads the rest of a change of a view. -/
def viewChange : Parse Unit := do
  discard objectName
  if (← peek?) = some (.mark .openParen) then
    discard columnNames
  discard <| g.settingsAfter .WITH
  expect [.AS]
  discard g.query

/-- Reads the rest of a change of a type. -/
def typeChange : Parse Unit := do
  discard objectName
  match ← firstOf? [[.RENAME, .TO], [.RENAME, .VALUE], [.ADD, .VALUE]] with
  | none => fail
  | some [.RENAME, .TO] => discard ident
  | some [.RENAME, .VALUE] =>
      discard ident
      expect [.TO]
      discard ident
  | some _ =>
      ifNotExists
      discard ident
      if (← oneOf? [.BEFORE, .AFTER]).isSome then
        discard ident

/-- Reads the rest of a change of a connector. -/
def connectorChange : Parse Unit := do
  discard ident
  expect [.SET]
  discard <| after? [.DCPROPERTIES] (parens (list g.setting))
  discard <| after? [.URL] label
  if ← keyword .OWNER then
    discard <| expectOneOf [.USER, .ROLE]
    discard ident

/-- Reads the rest of a change of a role. -/
def roleChange : Parse Unit := do
  discard ident
  discard <| after? [.IN, .DATABASE] passObjectName
  match ← oneOf? [.RENAME, .SET, .RESET] with
  | some .RENAME =>
      expect [.TO]
      discard ident
  | some .SET =>
      discard objectName
      unless ← keywords [.FROM, .CURRENT] do
        unless ← token (.operator "=") do
          expect [.TO]
        unless ← keyword .DEFAULT do
          discard g.anyExpr
  | some _ =>
      unless ← keyword .ALL do
        discard objectName
  | none =>
      optional [.WITH]
      if (← many (return (← attempt roleProperty?).join)).isEmpty then fail

/-- Reads the rest of a change of a definition. -/
def alter : Parse Unit := do
  match ← expectOneOf
      [.VIEW, .TYPE, .TABLE, .INDEX, .ROLE, .POLICY, .CONNECTOR, .ICEBERG, .SCHEMA] with
  | .VIEW => g.viewChange
  | .TYPE => typeChange
  | .TABLE => g.tableChangeList
  | .ROLE => g.roleChange
  | .POLICY => g.policyChange
  | .CONNECTOR => g.connectorChange
  | .SCHEMA => g.schemaChange
  | .ICEBERG =>
      expect [.TABLE]
      g.tableChangeList
  | _ =>
      discard objectName
      expect [.RENAME, .TO]
      discard objectName

end Reservations.Sql.Grammar
