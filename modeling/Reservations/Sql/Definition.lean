import Reservations.Sql.Routine

namespace Reservations.Sql.Grammar

/-! ## Statements that define things

Nothing is kept of these statements, but they have to be well formed. -/

open Parse

variable (g : Grammar)

/-! ### Views and indexes -/

/-- Reads how a view is made and whose rights it has. -/
def viewManner : Parse Unit := do
  if ← keyword .ALGORITHM then
    expectToken (.operator "=")
    discard <| expectOneOf [.UNDEFINED, .MERGE, .TEMPTABLE]
  if ← keyword .DEFINER then
    expectToken (.operator "=")
    discard objectName
  discard <| after? [.SQL, .SECURITY] (expectOneOf [.DEFINER, .INVOKER])

/-- Reads a column of a view, of which the type is not said. -/
def viewColumn : Parse Unit := do
  discard ident
  discard <| many g.columnRule?

/-- The words that begin a definition of a view. -/
def viewWords : List (List Keyword) :=
  [[.SECURE, .MATERIALIZED, .VIEW], [.SECURE, .VIEW], [.MATERIALIZED, .VIEW], [.VIEW]]

/-- Reads the rest of a definition of a view. That it may exist already is said
before its name or after it. -/
def newView : Parse Unit := do
  let cautious ← keywords [.IF, .NOT, .EXISTS]
  discard objectName
  unless cautious do
    ifNotExists
  if (← peek?) = some (.mark .openParen) then
    discard <| parens (listUnless .closeParen g.viewColumn)
  discard <| g.settingsAfter .WITH
  if ← keyword .CLUSTER then
    expect [.BY]
    if (← peek?) = some (.mark .openParen) then
      discard columnNames
  expect [.AS]
  discard g.query

/-- Reads the rest of a definition of an index. -/
def newIndex : Parse Unit := do
  optional [.CONCURRENTLY]
  let cautious ← keywords [.IF, .NOT, .EXISTS]
  let nameless ← if cautious then pure false else keyword .ON
  unless nameless do
    discard objectName
    expect [.ON]
  discard objectName
  indexKind
  g.indexItems
  discard <| after? [.INCLUDE] columnNames
  nullsDistinct
  discard <| after? [.WITH] (parens (list g.anyExpr))
  discard <| after? [.WHERE] g.anyExpr
  indexOptions
  discard <| many changeManner?

/-! ### Types and domains -/

/-- Reads the parts of a type behind the parenthesis that opens them. A comma may
stand behind the last one. Some tokens bound their number. -/
def typeParts : (limit : List Token) → Parse Unit
  | [] => fail
  | _ :: limit => do
      discard ident
      discard g.dataType
      discard <| after? [.COLLATE] objectName
      let comma ← mark .comma
      unless ← mark .closeParen do
        if comma then typeParts limit else fail

/-- Reads the rest of a definition of a type. -/
def newType : Parse Unit := do
  discard objectName
  expect [.AS]
  if ← keyword .ENUM then discard <| parens (listUnless .closeParen ident)
  else if ← mark .openParen then
    unless ← mark .closeParen do
      g.typeParts (← get)

/-- Reads the rest of a definition of a domain. -/
def newDomain : Parse Unit := do
  discard objectName
  expect [.AS]
  discard g.dataType
  discard <| after? [.COLLATE] ident
  discard <| after? [.DEFAULT] g.anyExpr
  discard <| many g.tableRule?

/-- Reads the rest of a definition of a sequence. -/
def newSequence : Parse Unit := do
  ifNotExists
  discard objectName
  discard <| after? [.AS] g.dataType
  discard sequenceSettings
  discard <| after? [.OWNED, .BY] do
    unless ← keyword .NONE do
      discard objectName

/-! ### Roles and users -/

/-- Reads a password, of which there may be none. -/
def password : Parse Unit :=
  discard literal

/-- Reads a property of a role that may change, if one comes next. A property
and the absence of it are one kind. -/
def roleProperty? : Parse (Option Keyword) := do
  match ← oneOf?
      [.LOGIN, .NOLOGIN, .INHERIT, .NOINHERIT, .BYPASSRLS, .NOBYPASSRLS, .CREATEDB, .NOCREATEDB,
        .CREATEROLE, .NOCREATEROLE, .SUPERUSER, .NOSUPERUSER, .REPLICATION, .NOREPLICATION,
        .PASSWORD, .CONNECTION, .VALID] with
  | none => return none
  | some .NOLOGIN => return some .LOGIN
  | some .NOINHERIT => return some .INHERIT
  | some .NOBYPASSRLS => return some .BYPASSRLS
  | some .NOCREATEDB => return some .CREATEDB
  | some .NOCREATEROLE => return some .CREATEROLE
  | some .NOSUPERUSER => return some .SUPERUSER
  | some .NOREPLICATION => return some .REPLICATION
  | some .PASSWORD =>
      password
      return some .PASSWORD
  | some .CONNECTION =>
      expect [.LIMIT]
      discard numberLiteral
      return some .CONNECTION
  | some .VALID =>
      expect [.UNTIL]
      discard literal
      return some .VALID
  | found => return found

/-- Reads which roles a role belongs to or has in it, if that comes next. -/
def roleMembers? : Parse (Option Keyword) := do
  match ← oneOf? [.IN, .ROLE, .ADMIN, .USER] with
  | none => return none
  | some word =>
      let kind ← if word = .IN then expectOneOf [.ROLE, .GROUP] else pure word
      discard idents
      return some (if word = .IN && kind = .ROLE then .IN else kind)

/-- Reads the rest of a definition of roles. Each property is given once at
most. -/
def newRoles : Parse Unit := do
  ifNotExists
  discard objectNames
  optional [.WITH]
  let found ← many do
    match ← roleProperty? with
    | some kind => return some kind
    | none => roleMembers?
  unless found.Nodup do
    fail

/-- Reads what a property of a user is. -/
def userValue : Parse Unit := do
  match ← next with
  | .literal (.text _) | .literal (.number ..) | .word .. | .quoted _ => return ()
  | _ => fail

/-- Reads properties of a user up to the end of the text, the parenthesis that
closes them or one of some words. Some tokens bound their number. -/
def userProperties (enclosed : Bool) (stops : List Keyword) : (limit : List Token) → Parse Unit
  | [] => return ()
  | _ :: limit => do
      match ← get with
      | [] => return ()
      | .mark .closeParen :: rest =>
          unless enclosed do
            fail
          set rest
      | .mark .comma :: rest =>
          set rest
          userProperties enclosed stops limit
      | first :: rest =>
          unless first.isWord do
            fail
          unless first.keyword?.any stops.contains do
            set rest
            expectToken (.operator "=")
            userValue
            userProperties enclosed stops limit

/-- Reads the rest of a definition of a user. -/
def newUser : Parse Unit := do
  ifNotExists
  discard ident
  userProperties false [.WITH, .TAG] (← get)
  optional [.WITH]
  if ← keyword .TAG then
    expectMark .openParen
    userProperties true [] (← get)

/-- Reads the rest of a definition of a secret. Its name, and the name of where it
is kept, are passed over whatever they are. -/
def newSecret : Parse Unit := do
  ifNotExists
  let opened : Parse Bool := return (← peek?) = some (.mark .openParen)
  unless ← opened do
    let placed ← keyword .IN
    let named ← passName
    unless (placed && named) || (← opened) do
      discard <| after? [.IN] passName
  discard <| parens do
    expect [.TYPE]
    discard ident
    if ← mark .comma then
      discard <| list do
        discard ident
        discard ident

/-! ### Places and connections -/

/-- Reads the rest of a definition of a schema. -/
def newSchema : Parse Unit := do
  ifNotExists
  if ← keyword .AUTHORIZATION then discard ident
  else
    discard objectName
    discard <| after? [.AUTHORIZATION] ident
  discard <| after? [.DEFAULT, .COLLATE] g.anyExpr
  discard <| g.settingsAfter .WITH
  discard <| g.settingsAfter .OPTIONS
  discard <| after? [.CLONE] objectName

/-- Reads the rest of a definition of a database. -/
def newDatabase : Parse Unit := do
  ifNotExists
  discard objectName
  discard <| many do
    if (← oneOf? [.LOCATION, .MANAGEDLOCATION]).isSome then present label else return none
  discard <| after? [.CLONE] objectName

/-- Reads the rest of a definition of an extension. -/
def newExtension : Parse Unit := do
  ifNotExists
  discard ident
  if ← keyword .WITH then
    discard <| after? [.SCHEMA] ident
    discard <| after? [.VERSION] ident
    optional [.CASCADE]

/-- Reads the rest of a definition of a connector. -/
def newConnector : Parse Unit := do
  ifNotExists
  discard ident
  discard <| after? [.TYPE] label
  discard <| after? [.URL] label
  if ← keyword .COMMENT then
    optionalEquals
    discard description
  discard <| after? [.WITH, .DCPROPERTIES] (parens (list g.setting))

/-- Reads the rest of a definition of a server. -/
def newServer : Parse Unit := do
  ifNotExists
  discard objectName
  discard <| after? [.TYPE] ident
  discard <| after? [.VERSION] ident
  expect [.FOREIGN, .DATA, .WRAPPER]
  discard objectName
  discard <| after? [.OPTIONS] <| parens <| list do
    discard ident
    discard ident

/-! ### Other tables -/

/-- Reads the rest of a definition of a table in files. -/
def newExternalTable : Parse Unit := do
  expect [.TABLE]
  ifNotExists
  discard objectName
  g.tableItems
  discard <| after? [.PARTITIONED, .BY] (parens (list g.columnDefinition))
  g.fileLayout
  discard <| g.settingsAfter .TBLPROPERTIES

/-- Reads the rest of a definition of a table that a module makes. -/
def newVirtualTable : Parse Unit := do
  expect [.TABLE]
  ifNotExists
  discard objectName
  expect [.USING]
  discard ident
  if (← peek?) = some (.mark .openParen) then
    discard columnNames

/-! ### All of them -/

/-- Reads the rest of a definition of something that cannot be replaced. -/
def createOnly : Parse Unit := do
  if ← keywords [.UNIQUE, .INDEX] then g.newIndex
  else
    match ← expectOneOf
        [.EXTENSION, .INDEX, .VIRTUAL, .SCHEMA, .DATABASE, .ROLE, .SEQUENCE, .TYPE, .PROCEDURE,
          .CONNECTOR, .SERVER] with
    | .EXTENSION => newExtension
    | .INDEX => g.newIndex
    | .VIRTUAL => newVirtualTable
    | .SCHEMA => g.newSchema
    | .DATABASE => newDatabase
    | .ROLE => newRoles
    | .SEQUENCE => g.newSequence
    | .TYPE => g.newType
    | .PROCEDURE => g.newProcedure
    | .CONNECTOR => g.newConnector
    | _ => newServer

/-- Reads the rest of a definition. Only some things can be replaced. -/
def create : Parse Unit := do
  let replaced ← keywords [.OR, .REPLACE]
  optional [.OR, .ALTER]
  for word in [Keyword.LOCAL, .GLOBAL, .TRANSIENT] do
    optional [word]
  optionalOf [.TEMP, .TEMPORARY]
  viewManner
  if ← keyword .TABLE then g.newTable
  else if (← firstOf? viewWords).isSome then g.newView
  else if (← firstOf? [[.TRIGGER], [.CONSTRAINT, .TRIGGER]]).isSome then g.newTrigger
  else
    match ← oneOf? [.POLICY, .EXTERNAL, .FUNCTION, .DOMAIN, .SECRET, .USER] with
    | some .POLICY => g.newPolicy
    | some .EXTERNAL => g.newExternalTable
    | some .FUNCTION => g.newFunction
    | some .DOMAIN => g.newDomain
    | some .SECRET => newSecret
    | some _ => newUser
    | none => if replaced then fail else g.createOnly

end Reservations.Sql.Grammar
