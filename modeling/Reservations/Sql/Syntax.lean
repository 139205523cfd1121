import Reservations.Sql.Literal

namespace Reservations.Sql

/-! ## Statements as trees

A tree keeps apart what a booking command can be read from. Everything else is
kept as its text in normal form, or, for whole statements of other kinds, not
at all. -/

/-- A name, with the quotes that it was written in, if any. -/
structure Ident where
  text : String
  quote : Option Char
  deriving DecidableEq, Repr, Inhabited

/-- A name as it is written. -/
def Ident.render (ident : Ident) : String :=
  match ident.quote with
  | none => ident.text
  | some quote => Literal.enclose quote ident.text

/-- A name with periods between its parts. -/
abbrev ObjectName := List Ident

/-- A name with its parts as they are written. -/
def ObjectName.render (name : ObjectName) : String :=
  ".".intercalate (name.map Ident.render)

/-- An operator with one operand after it. -/
inductive UnaryOp where
  | minus
  | plus
  | negation
  | symbol (text : String)
  deriving DecidableEq, Repr

/-- The operators that a blank separates from their operand. -/
def UnaryOp.spaced : List String :=
  ["#", "@-@", "@@", "?-", "?|"]

/-- An operator as it is written before its operand. -/
def UnaryOp.render : UnaryOp → String
  | minus => "-"
  | plus => "+"
  | negation => "NOT "
  | symbol text => if UnaryOp.spaced.contains text then text ++ " " else text

/-- An expression. -/
inductive Expr where
  | name (parts : ObjectName)
  | literal (value : Literal)
  | nested (inner : Expr)
  /-- A query in parentheses. -/
  | subquery (text : String)
  | unary (operator : UnaryOp) (operand : Expr)
  | binary (left : Expr) (operator : String) (right : Expr)
  | other (text : String)
  deriving DecidableEq, Repr, Inhabited

/-- An expression in normal form. -/
def Expr.render : Expr → String
  | name parts => parts.render
  | literal value => value.render
  | nested inner => "(" ++ inner.render ++ ")"
  | subquery text => "(" ++ text ++ ")"
  | unary operator operand => operator.render ++ operand.render
  | binary left operator right => left.render ++ " " ++ operator ++ " " ++ right.render
  | other text => text

/-- What a statement reads from: a table, which may have arguments, or anything
else, such as a query or a join in parentheses. -/
inductive Relation where
  | table (name : ObjectName)
  | other
  deriving DecidableEq, Repr, Inhabited

/-- What a query is made of. Only the relations that the `FROM` clause lists
are kept, without the relations joined to them. -/
inductive QueryBody where
  | select (relations : List Relation) (filter : Option Expr)
  | values (rows : List (List Expr))
  | other
  deriving DecidableEq, Repr, Inhabited

/-- A query with its normal form. -/
structure Query where
  body : QueryBody
  text : String
  deriving DecidableEq, Repr, Inhabited

/-- A statement. An insertion without a source takes default values. -/
inductive Statement where
  | query (query : Query)
  | insert (table : ObjectName) (columns : List Ident) (source : Option Query)
  | delete (relations : List Relation) (filter : Option Expr)
  | other
  deriving DecidableEq, Repr, Inhabited

end Reservations.Sql
