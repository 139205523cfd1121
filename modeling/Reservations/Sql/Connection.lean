import Reservations.Sql.Copying

namespace Reservations.Sql.Grammar

/-! ## Statements about a connection

They begin and end transactions, change settings and show what there is. Nothing
is kept of these statements, but they have to be well formed. -/

open Parse

variable (g : Grammar)

/-! ### Transactions -/

/-- The properties of a transaction. -/
def transactionModeWords : List (List Keyword) :=
  [[.ISOLATION, .LEVEL, .READ, .UNCOMMITTED], [.ISOLATION, .LEVEL, .READ, .COMMITTED],
    [.ISOLATION, .LEVEL, .REPEATABLE, .READ], [.ISOLATION, .LEVEL, .SERIALIZABLE],
    [.ISOLATION, .LEVEL, .SNAPSHOT], [.READ, .ONLY], [.READ, .WRITE]]

/-- Reads properties of a transaction, which may have commas between them. -/
def transactionModes : Parse Unit := do
  if (← firstOf? transactionModeWords).isSome then
    discard <| many do
      let comma ← mark .comma
      let found ← firstOf? transactionModeWords
      if comma && found.isNone then fail
      return found

/-- Reads the rest of the end of a transaction. -/
def chained : Parse Unit := do
  optionalOf [.TRANSACTION, .WORK]
  if ← keyword .AND then
    optional [.NO]
    expect [.CHAIN]

/-! ### Settings -/

/-- Reads the values that a setting is given, which can be queries. -/
def settingValues : Parse Unit :=
  discard <| list do
    match ← peekKeyword? with
    | some .SELECT | some .WITH => discard g.query
    | _ => discard g.anyExpr

/-- Reads whether values come next for a setting. -/
def assigned : Parse Bool := do
  if ← token (.operator "=") then return true else keyword .TO

/-- Reads the rest of a change of the encoding of texts. -/
def encodingChange : Parse Unit := do
  unless ← keyword .DEFAULT do
    discard ident
    discard <| after? [.COLLATE] label

/-- Reads the rest of a change of a setting behind what it is changed for. -/
def settingChange : Parse Unit := do
  match ← firstOf?
      [[.TIME, .ZONE], [.TIMEZONE], [.NAMES], [.CHARACTERISTICS], [.TRANSACTION]] with
  | some [.TIME, .ZONE] | some [.TIMEZONE] =>
      if ← assigned then g.settingValues else discard g.anyExpr
  | some [.NAMES] => encodingChange
  | some [.CHARACTERISTICS] =>
      expect [.AS, .TRANSACTION]
      transactionModes
  | some _ => if ← keyword .SNAPSHOT then discard literal else transactionModes
  | none =>
      discard objectName
      unless ← assigned do
        fail
      g.settingValues

/-- Reads the rest of a change of a setting. -/
def sessionSetting : Parse Unit := do
  let isVariable ← keyword .HIVEVAR
  if isVariable then
    unless ← colon do
      fail
  else optionalOf [.SESSION, .LOCAL, .GLOBAL]
  let role ← attempt do
    expect [.ROLE]
    discard ident
  if role.isNone then g.settingChange

/-! ### Shown things -/

/-- Reads which of some things are shown. -/
def shownFilter : Parse Unit := do
  match ← oneOf? [.LIKE, .ILIKE, .WHERE] with
  | some .WHERE => discard g.anyExpr
  | some _ => discard label
  | none => discard <| attempt label

/-- Reads where the shown things are. -/
def shownIn : Parse Unit := do
  if (← oneOf? [.FROM, .IN]).isSome then
    match ← oneOf? [.ACCOUNT, .DATABASE, .SCHEMA, .TABLE, .VIEW] with
    | none =>
        discard objectName
        if (← oneOf? [.FROM, .IN]).isSome then
          discard ident
    | some kind =>
        let tokens ← get
        let stops := (tokens.take 2).map Token.keyword?
        let ended := stops = [some .STARTS, some .WITH] || stops.head? = some (some .LIMIT)
        unless (kind = .DATABASE || kind = .SCHEMA) && ended do
          discard <| attempt objectName

/-- Reads which of some things that are kept somewhere are shown. -/
def shownOptions : Parse Unit := do
  shownIn
  g.shownFilter
  discard <| after? [.STARTS, .WITH] literal
  discard <| after? [.LIMIT] g.limit
  discard <| after? [.FROM] literal

/-- Reads everything up to an equals sign. -/
def anything : Parse Unit :=
  modify (List.dropWhile fun token => token ≠ .operator "=")

/-- Reads the rest of a statement that shows something. -/
def shown : Parse Unit := do
  optional [.TERSE]
  let extended ← keyword .EXTENDED
  let full ← keyword .FULL
  optional [.SESSION]
  optional [.GLOBAL]
  let external ← keyword .EXTERNAL
  match ← firstOf?
      [[.COLUMNS], [.FIELDS], [.TABLES], [.MATERIALIZED, .VIEWS], [.VIEWS], [.FUNCTIONS]] with
  | some [.TABLES] =>
      unless external do
        optional [.HISTORY]
      g.shownOptions
  | some [.FUNCTIONS] => g.shownFilter
  | some _ => g.shownOptions
  | none =>
      if extended || full then fail
      match ← firstOf? [[.CREATE], [.COLLATION]] with
      | some [.CREATE] =>
          discard <| expectOneOf [.TABLE, .TRIGGER, .FUNCTION, .PROCEDURE, .EVENT, .VIEW]
          discard objectName
      | some _ => g.shownFilter
      | none =>
          optional [.VARIABLES]
          optional [.STATUS]
          match ← firstOf? [[.DATABASES], [.SCHEMAS], [.CHARACTER, .SET], [.CHARSET]] with
          | none => anything
          | some [.DATABASES] | some [.SCHEMAS] =>
              optional [.HISTORY]
              g.shownOptions
          | some _ => g.shownFilter

end Reservations.Sql.Grammar
