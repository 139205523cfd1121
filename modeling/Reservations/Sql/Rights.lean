import Reservations.Sql.Alteration

namespace Reservations.Sql.Grammar

/-! ## Statements about rights

Nothing is kept of these statements, but they have to be well formed. -/

open Parse

variable (g : Grammar)

/-! ### Rights -/

/-- The rights of more than one word that nothing follows. -/
def wordyRights : List (List Keyword) :=
  [[.IMPORTED, .PRIVILEGES], [.ADD, .SEARCH, .OPTIMIZATION], [.ATTACH, .LISTING],
    [.ATTACH, .POLICY], [.BIND, .SERVICE, .ENDPOINT], [.EVOLVE, .SCHEMA], [.IMPORT, .SHARE],
    [.MANAGE, .VERSIONS], [.MANAGE, .RELEASES], [.OVERRIDE, .SHARE, .RESTRICTIONS],
    [.PURCHASE, .DATA, .EXCHANGE, .LISTING], [.RESOLVE, .ALL], [.READ, .SESSION]]

/-- The rights of one word that nothing follows. -/
def plainRights : List Keyword :=
  [.APPLYBUDGET, .AUDIT, .CONNECT, .DELETE, .FAILOVER, .OPERATE, .READ, .REPLICATE, .TEMPORARY,
    .TRIGGER, .TRUNCATE, .USAGE, .OWNERSHIP, .DROP]

/-- What the right to make things can be for. -/
def creatable : List (List Keyword) :=
  [[.APPLICATION, .PACKAGE], [.COMPUTE, .POOL], [.DATA, .EXCHANGE, .LISTING],
    [.EXTERNAL, .VOLUME], [.FAILOVER, .GROUP], [.NETWORK, .POLICY], [.ORGANIZATION, .LISTING],
    [.REPLICATION, .GROUP], [.ACCOUNT], [.APPLICATION], [.DATABASE], [.INTEGRATION], [.ROLE],
    [.SCHEMA], [.SHARE], [.USER], [.WAREHOUSE]]

/-- What the right to apply things can be for. -/
def applicable : List (List Keyword) :=
  [[.AGGREGATION, .POLICY], [.AUTHENTICATION, .POLICY], [.JOIN, .POLICY], [.MASKING, .POLICY],
    [.PACKAGES, .POLICY], [.PASSWORD, .POLICY], [.PROJECTION, .POLICY], [.ROW, .ACCESS, .POLICY],
    [.SESSION, .POLICY], [.TAG]]

/-- What the right to run things can be for. -/
def executable : List (List Keyword) :=
  [[.DATA, .METRIC, .FUNCTION], [.MANAGED, .ALERT], [.MANAGED, .TASK], [.TASK]]

/-- What the right to manage things can be for. -/
def manageable : List (List Keyword) :=
  [[.ACCOUNT, .SUPPORT, .CASES], [.EVENT, .SHARING], [.GRANTS], [.LISTING, .AUTO, .FULFILLMENT],
    [.ORGANIZATION, .SUPPORT, .CASES], [.USER, .SUPPORT, .CASES], [.WAREHOUSES]]

/-- What the right to change things can be for. -/
def modifiable : List (List Keyword) :=
  [[.LOG, .LEVEL], [.TRACE, .LEVEL], [.SESSION, .LOG, .LEVEL], [.SESSION, .TRACE, .LEVEL]]

/-- What the right to watch things can be for. -/
def watchable : List (List Keyword) :=
  [[.EXECUTION], [.SECURITY], [.USAGE]]

/-- Reads a right. Some are for certain things, and some can be confined to
columns. -/
def privilege : Parse Unit := do
  if (← firstOf? wordyRights).isSome then return ()
  else if ← keywords [.DATABASE, .ROLE] then discard objectName
  else
    match ← oneOf?
        [.APPLY, .CREATE, .EXEC, .EXECUTE, .INSERT, .MANAGE, .MODIFY, .MONITOR, .REFERENCES,
          .ROLE, .SELECT, .UPDATE] with
    | none => discard <| expectOneOf plainRights
    | some .APPLY => discard <| phrase applicable
    | some .CREATE => discard <| firstOf? creatable
    | some .EXEC | some .EXECUTE => discard <| firstOf? executable
    | some .MANAGE => discard <| phrase manageable
    | some .MODIFY => discard <| firstOf? modifiable
    | some .MONITOR => discard <| firstOf? watchable
    | some .ROLE => discard objectName
    | some _ =>
        if (← peek?) = some (.mark .openParen) then
          discard columnNames

/-! ### What rights are for -/

/-- The words before places of which all things of a kind are meant, or before
names of things. -/
def namedSubjects : List (List Keyword) :=
  [[.ALL, .TABLES, .IN, .SCHEMA], [.ALL, .EXTERNAL, .TABLES, .IN, .SCHEMA],
    [.ALL, .VIEWS, .IN, .SCHEMA], [.ALL, .MATERIALIZED, .VIEWS, .IN, .SCHEMA],
    [.ALL, .FUNCTIONS, .IN, .SCHEMA], [.FUTURE, .SCHEMAS, .IN, .DATABASE],
    [.FUTURE, .TABLES, .IN, .SCHEMA], [.FUTURE, .EXTERNAL, .TABLES, .IN, .SCHEMA],
    [.FUTURE, .VIEWS, .IN, .SCHEMA], [.FUTURE, .MATERIALIZED, .VIEWS, .IN, .SCHEMA],
    [.ALL, .SEQUENCES, .IN, .SCHEMA], [.FUTURE, .SEQUENCES, .IN, .SCHEMA],
    [.RESOURCE, .MONITOR], [.COMPUTE, .POOL], [.FAILOVER, .GROUP], [.REPLICATION, .GROUP],
    [.EXTERNAL, .VOLUME]]

/-- Reads the name of what a right is for. An asterisk stands for any part of
it. -/
def subject : Parse Unit := do
  let part : Parse Unit := do
    unless ← token (.operator "*") do
      discard ident
  part
  discard <| many do
    if ← mark .period then present part else return none

/-- Reads what rights are for. -/
def subjects : Parse Unit := do
  if (← firstOf? namedSubjects).isSome then discard objectNames
  else
    let kind ← oneOf?
      [.SEQUENCE, .DATABASE, .SCHEMA, .TABLE, .VIEW, .WAREHOUSE, .INTEGRATION, .USER, .CONNECTION,
        .PROCEDURE, .FUNCTION]
    discard <| list subject
    if (kind = some .PROCEDURE || kind = some .FUNCTION)
        && (← peek?) = some (.mark .openParen) then
      discard <| parens (listUnless .closeParen g.dataType)

/-- Reads rights and what they are for, and gives whether that is said. -/
def privileges : Parse Bool := do
  if ← keyword .ALL then optional [.PRIVILEGES]
  else discard <| list privilege
  return (← after? [.ON] g.subjects).isSome

/-! ### Who has rights -/

/-- Reads those who are given rights or lose them. The kind of one is that of the
one before where it is not said, and the public has no name. -/
def granteesAfter : (limit : List Token) → (isPublic : Bool) → Parse Unit
  | [], _ => fail
  | _ :: limit, before => do
      let isPublic ←
        match ← firstOf?
            [[.ROLE], [.USER], [.SHARE], [.GROUP], [.PUBLIC], [.DATABASE, .ROLE],
              [.APPLICATION, .ROLE], [.APPLICATION]] with
        | none => pure before
        | some words => pure (words = [.PUBLIC])
      unless isPublic do
        discard objectName
        if ← Grammar.colon then
          discard ident
      if ← mark .comma then granteesAfter limit isPublic

/-- Reads those who are given rights or lose them. -/
def grantees : Parse Unit := do
  granteesAfter (← get) false

/-- Reads who gives rights or takes them. -/
def grantor : Parse Unit :=
  discard <| after? [.GRANTED, .BY] ident

/-! ### Statements -/

/-- Reads the rest of a statement that gives rights. -/
def grant : Parse Unit := do
  discard g.privileges
  expect [.TO]
  grantees
  optional [.WITH, .GRANT, .OPTION]
  unless ← keywords [.COPY, .CURRENT, .GRANTS] do
    optional [.REVOKE, .CURRENT, .GRANTS]
  discard <| after? [.AS] ident
  grantor

/-- Reads the rest of a statement that forbids something. -/
def deny : Parse Unit := do
  unless ← g.privileges do
    fail
  expect [.TO]
  grantees
  dependents
  discard <| after? [.AS] ident

/-- Reads the rest of a statement that takes rights back. -/
def revoke : Parse Unit := do
  discard g.privileges
  expect [.FROM]
  grantees
  grantor
  dependents

end Reservations.Sql.Grammar
