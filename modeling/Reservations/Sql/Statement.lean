import Reservations.Sql.Control
import Reservations.Sql.Scan

namespace Reservations.Sql

/-! ## Statements -/

namespace Grammar

open Parse

/-- Reads a statement, given the rules for what it contains. -/
def anyStatement (g : Grammar) : Parse Statement := do
  match ← get with
  | .mark .openParen :: _ => .query <$> g.query
  | .word _ (some first) :: rest =>
      match first with
      | .SELECT | .WITH | .VALUES => .query <$> g.query
      | .INSERT =>
          set rest
          Prod.fst <$> g.insertion
      | .DELETE =>
          set rest
          Prod.fst <$> g.deletion
      | first =>
          set rest
          g.control first
          return .other
  | _ => fail

/-- The rules where nothing more may be nested. Every rule fails. -/
def exhausted (columnar : Bool) : Grammar where
  columnar
  expr := fun _ => throw .tooDeep
  columnExpr := throw .tooDeep
  query := throw .tooDeep
  statement := throw .tooDeep
  column := throw .tooDeep

/-- The rules one level above given ones, which are those outside and those
inside of definitions of columns. -/
def above (plain columnar : Grammar) (inColumn : Bool) (column : Parse String) : Grammar :=
  let inner := if inColumn then columnar else plain
  { columnar := inColumn
    expr := inner.expression
    columnExpr := columnar.expression Strength.none
    query := inner.fullQuery inner.change
    statement := inner.anyStatement
    column }

/-- The rules at a given depth of nesting, outside and inside of definitions of
columns. -/
def atDepth : (depth : Nat) → Grammar × Grammar
  | 0 => (exhausted false, exhausted true)
  | depth + 1 =>
      let (plain, columnar) := atDepth depth
      let column := (above plain columnar false plain.columnDefinition).columnDefinition
      (above plain columnar false column, above plain columnar true column)

end Grammar

/-- How deeply expressions, queries and statements may be nested. -/
def deepest : Nat := 50

/-- Reads the statements of a text, with semicolons between them, behind those
already read, which are in reverse. Some tokens bound their number. What follows
the word `END` after a statement is passed over. -/
def statementsOnto : (limit : List Token) → (found : List Statement) → Parse (List Statement)
  | [], found => return found.reverse
  | _ :: limit, found => do
      let between ← Parse.many do
        if ← Parse.mark .semicolon then return some () else return none
      match ← Parse.peek? with
      | none => return found.reverse
      | some first =>
          if found.isEmpty || !between.isEmpty then
            let statement ← (Grammar.atDepth deepest).1.statement
            statementsOnto limit (statement :: found)
          else if first.keyword? = some .END then return found.reverse
          else Parse.fail

/-- The statements of a text, if it is well formed. -/
def statements? (text : String) : Option (List Statement) := do
  let tokens ← scan? text.toList
  let (found, _) ← (statementsOnto tokens [] tokens).toOption
  return found

end Reservations.Sql
