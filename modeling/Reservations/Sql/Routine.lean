import Reservations.Sql.Table

namespace Reservations.Sql.Grammar

/-! ## Statements that define what is done by name or on its own

Functions and procedures are done by name. Triggers and policies are done with
the changes that they watch. Nothing is kept of these statements. -/

open Parse

variable (g : Grammar)

/-! ### Statements in statements -/

/-- Reads statements, each with a semicolon behind it, up to one of some
words. -/
def statements (stops : List Keyword) : Parse Unit :=
  discard <| many do
    match ← peek? with
    | none => return none
    | some token =>
        if token.keyword?.any stops.contains then return none
        else
          discard g.statement
          present (expectMark .semicolon)

/-- Reads statements up to one of some words. The words `BEGIN` and `END` may
enclose them. -/
def block (stops : List Keyword) : Parse Unit := do
  if ← keyword .BEGIN then
    g.statements stops
    expect [.END]
  else g.statements stops

/-- Reads a condition and the statements that it is for. -/
def conditionalBlock (stops : List Keyword) : Parse Unit := do
  discard g.anyExpr
  expect [.THEN]
  g.block stops

/-- Reads the statements for the case that no condition holds. -/
def elseBlock : Parse Unit := do
  if ← keyword .ELSE then g.block [.END]

/-- Reads the rest of a choice by cases. -/
def caseStatement : Parse Unit := do
  unless (← peekKeyword?) = some .WHEN do
    discard g.anyExpr
  expect [.WHEN]
  g.conditionalBlock [.WHEN, .ELSE, .END]
  discard <| many (after? [.WHEN] (g.conditionalBlock [.WHEN, .ELSE, .END]))
  g.elseBlock
  expect [.END]
  optional [.CASE]

/-- Reads the rest of a choice by conditions. -/
def ifStatement : Parse Unit := do
  g.conditionalBlock [.ELSE, .ELSEIF, .END]
  discard <| many (after? [.ELSEIF] (g.conditionalBlock [.ELSEIF, .ELSE, .END]))
  g.elseBlock
  expect [.END, .IF]

/-- Reads the rest of a loop. -/
def whileStatement : Parse Unit := do
  discard g.anyExpr
  g.block [.END]

/-! ### Functions -/

/-- The value that an argument has where none is given. -/
def argumentDefault : Parse Unit := do
  if ← keyword .DEFAULT <||> token (.operator "=") then
    discard g.anyExpr

/-- Reads an argument of a function: a type, which may have a name before it. The
name is read as a type too, and has to be a word. -/
def functionArgument : Parse Unit := do
  optionalOf [.IN, .OUT, .INOUT]
  let before ← get
  discard g.dataType
  let after ← get
  let last := before[before.length - after.length - 1]?
  let named := (← attempt g.dataType).isSome
  if named && !last.any Token.isWord then fail
  g.argumentDefault

/-- Reads the name of a function and the arguments that tell it from others. -/
def functionName : Parse Unit := do
  discard objectName
  if (← peek?) = some (.mark .openParen) then
    discard <| parens (listUnless .closeParen g.functionArgument)

/-- What is said of a function. -/
inductive FunctionPart where
  | body
  | language
  | behavior
  | nulls
  | parallel
  deriving DecidableEq, Repr

/-- Reads what a function does as text. -/
def functionBody : Parse Unit := do
  match ← get with
  | .literal (.dollar ..) :: _ => discard next
  | _ => discard label

/-- Reads a property of a function, if one comes next. -/
def functionPart? : Parse (Option FunctionPart) := do
  let onNulls ← firstOf? [[.CALLED, .ON, .NULL, .INPUT], [.RETURNS, .NULL, .ON, .NULL, .INPUT]]
  if onNulls.isSome then return some .nulls
  else
    match ← oneOf?
        [.AS, .LANGUAGE, .IMMUTABLE, .STABLE, .VOLATILE, .STRICT, .PARALLEL, .RETURN] with
    | none => return none
    | some .AS =>
        functionBody
        return some .body
    | some .LANGUAGE =>
        discard ident
        return some .language
    | some .STRICT => return some .nulls
    | some .PARALLEL =>
        discard <| expectOneOf [.UNSAFE, .RESTRICTED, .SAFE]
        return some .parallel
    | some .RETURN =>
        discard g.anyExpr
        return some .body
    | some _ => return some .behavior

/-- Reads the rest of a definition of a function. Each property is given once at
most. -/
def newFunction : Parse Unit := do
  discard objectName
  discard <| parens (listUnless .closeParen g.functionArgument)
  discard <| after? [.RETURNS] g.dataType
  let found ← many g.functionPart?
  unless found.Nodup do
    fail

/-! ### Procedures -/

/-- Reads an argument of a procedure. -/
def procedureArgument : Parse Unit := do
  optionalOf [.IN, .OUT, .INOUT]
  discard ident
  discard g.dataType

/-- Reads the arguments of a procedure behind the parenthesis that opens them. A
comma may stand behind the last one. Some tokens bound their number. -/
def procedureArguments : (limit : List Token) → Parse Unit
  | [] => fail
  | _ :: limit => do
      if (← peek?).any Token.isWord then
        g.procedureArgument
      let comma ← mark .comma
      unless ← mark .closeParen do
        if comma then procedureArguments limit else fail

/-- Reads the rest of a definition of a procedure. -/
def newProcedure : Parse Unit := do
  discard objectName
  if ← mark .openParen then
    unless ← mark .closeParen do
      g.procedureArguments (← get)
  discard <| after? [.LANGUAGE] ident
  expect [.AS]
  g.block [.END]

/-! ### Triggers -/

/-- Reads a change that a trigger watches. -/
def triggerEvent : Parse Unit := do
  match ← expectOneOf [.INSERT, .UPDATE, .DELETE, .TRUNCATE] with
  | .UPDATE => discard <| after? [.OF] idents
  | _ => return ()

/-- Reads a name for the rows before or after a change, if one comes next. -/
def changedRows? : Parse (Option Unit) := do
  if (← oneOf? [.OLD, .NEW]).isSome then
    after? [.TABLE] do
      optional [.AS]
      discard objectName
  else return none

/-- Reads the rest of a definition of a trigger, which does what a function does
or some statements. -/
def newTrigger : Parse Unit := do
  discard objectName
  unless ← keywords [.INSTEAD, .OF] do
    optionalOf [.FOR, .AFTER, .BEFORE]
  triggerEvent
  discard <| many (after? [.OR] triggerEvent)
  expect [.ON]
  discard objectName
  discard <| after? [.FROM] passObjectName
  discard checkTime
  if ← keyword .REFERENCING then
    discard <| many changedRows?
  expect [.FOR]
  optional [.EACH]
  discard <| expectOneOf [.ROW, .STATEMENT]
  discard <| after? [.WHEN] g.anyExpr
  if ← keyword .EXECUTE then
    discard <| expectOneOf [.FUNCTION, .PROCEDURE]
    g.functionName
  else g.block [.END]

/-! ### Policies -/

/-- Reads whom a policy binds and what it asks of rows. -/
def policyTerms : Parse Unit := do
  discard <| after? [.TO] idents
  discard <| after? [.USING] (parens g.anyExpr)
  discard <| after? [.WITH, .CHECK] (parens g.anyExpr)

/-- Reads the rest of a definition of a policy. -/
def newPolicy : Parse Unit := do
  discard ident
  expect [.ON]
  discard objectName
  discard <| after? [.AS] (expectOneOf [.PERMISSIVE, .RESTRICTIVE])
  discard <| after? [.FOR] (expectOneOf [.ALL, .SELECT, .INSERT, .UPDATE, .DELETE])
  g.policyTerms

/-- Reads the rest of a change of a policy. -/
def policyChange : Parse Unit := do
  discard ident
  expect [.ON]
  discard objectName
  if ← keyword .RENAME then
    expect [.TO]
    discard ident
  else g.policyTerms

end Reservations.Sql.Grammar
