import Reservations.Calendar.Timestamp
import Reservations.Request
import Reservations.Sql.Statement
import Reservations.Ulid.Uuid

namespace Reservations

/-! ## Commands

The few statements that say something about reservations, and what they say. -/

/-- What a client asks for. -/
inductive Command where
  | book (request : Request)
  | find (id : Ulid)
  /-- Lists the reservations of one resource, or of all. -/
  | list (resource? : Option Ulid)
  | remove (id : Ulid)
  deriving DecidableEq, Repr

/-- The name that a kind of command is counted under. -/
def Command.label : Command → String
  | book _ => "insert_reservation"
  | find _ => "select_reservation"
  | list _ => "select_reservations"
  | remove _ => "delete_reservation"

/-- Why a text is no command. -/
inductive CommandFault where
  /-- The text is no statement at all. -/
  | malformed
  | noRelation
  | notATable
  | noValues
  | notValues
  | badId (text : String)
  | badInstant (text : String)
  | badInteger (fault : Text.IntegerFault)
  | notAText (found : Sql.Literal)
  | notANumber (found : Sql.Literal)
  /-- An expression stands where a literal is wanted. -/
  | notALiteral
  | empty
  | otherStatement
  | otherQuery
  | manyRows
  | otherFilter (filter : Sql.Expr)
  | unknownTable (name : String)
  | unknownColumn (name : String)
  | wrongCount (wanted found : Nat)
  | missingColumn
  | missingFilter
  deriving DecidableEq, Repr

namespace CommandFault

/-- What kind of fault it is. -/
def kind : CommandFault → String
  | malformed | noRelation | notATable | noValues | notValues | badId _ | badInstant _
  | badInteger _ | notAText _ | notANumber _ | notALiteral => "Parse"
  | empty => "Empty"
  | otherStatement | otherQuery | manyRows | otherFilter _ => "Unsupported"
  | unknownTable _ => "UnknownTable"
  | unknownColumn _ => "UnknownColumn"
  | wrongCount .. => "WrongArity"
  | missingColumn => "MissingColumn"
  | missingFilter => "MissingFilter"

/-- The wording of a fault, where it has one of its own. -/
def message? : CommandFault → Option String
  | malformed | notALiteral | otherStatement => none
  | noRelation => "parse error: SELECT without FROM"
  | notATable => "parse error: complex table expression"
  | noValues => "parse error: no VALUES"
  | notValues => "parse error: expected VALUES"
  | badId text => s!"parse error: bad id: {text}"
  | badInstant text => s!"parse error: bad timestamp: {text}"
  | badInteger fault => s!"parse error: bad i64: {fault.message}"
  | notAText found => s!"parse error: expected string, got {found.shown}"
  | notANumber found => s!"parse error: expected number, got {found.shown}"
  | empty => "empty query"
  | otherQuery => "unsupported: non-SELECT query"
  | manyRows => "unsupported: multi-row INSERT"
  | otherFilter filter => s!"unsupported: WHERE {filter.render}"
  | unknownTable name => s!"unknown table: {name}"
  | unknownColumn name => s!"unknown column: {name}"
  | wrongCount wanted found =>
      s!"reservations: expected {Text.countText wanted} values, got {Text.countText found}"
  | missingColumn => "missing column: resource_id"
  | missingFilter => "missing filter: id"

/-- The SQL state that every fault is reported with. -/
def sqlState (_ : CommandFault) : String :=
  "42601"

end CommandFault

namespace Command

open Sql

/-! ### Values -/

/-- The lower case of a name. -/
def key (name : Ident) : String :=
  String.ofList (Text.lower name.text.toList)

/-- The identifier that a text denotes. -/
def idOfText (text : String) : Except CommandFault Ulid :=
  match Ulid.ofText? text with
  | some id => .ok id
  | none => .error (.badId text)

/-- The instant that a text denotes. -/
def instantOfText (text : String) : Except CommandFault Instant :=
  match Calendar.readInstant text with
  | .ok instant => .ok instant
  | .error rest => .error (.badInstant rest)

/-- The identifier that an expression denotes. -/
def idOf : Expr → Except CommandFault Ulid
  | .literal (.text text) => idOfText text
  | .literal found => .error (.notAText found)
  | _ => .error .notALiteral

/-- The text that an expression denotes. A null stands for the empty one. -/
def textOf : Expr → Except CommandFault String
  | .literal (.text text) => .ok text
  | .literal .null => .ok ""
  | .literal found => .error (.notAText found)
  | _ => .error .notALiteral

/-- The integer that an expression denotes: a number with minus signs. -/
def integerOf : Expr → Except CommandFault Int64
  | .literal (.number digits _) => (Text.readInt64 digits.toList).mapError .badInteger
  | .literal found => .error (.notANumber found)
  | .unary .minus operand => (integerOf operand).map Int64.neg
  | _ => .error .notALiteral

/-- The instant that an expression denotes: none where it is a null, and else
milliseconds or the text of a timestamp. -/
def instantOf : Expr → Except CommandFault (Option Instant)
  | .literal .null => .ok none
  | .literal (.text text) => (instantOfText text).map some
  | expr => (integerOf expr).map some

/-! ### Tables and filters -/

/-- The name of the only table. -/
def tableName : String := "reservations"

/-- Checks that the last part of a name is the table's. -/
def checkTable (name : ObjectName) : Except CommandFault Unit :=
  match name.getLast? with
  | none => .error .notATable
  | some last => if key last = tableName then .ok () else .error (.unknownTable (key last))

/-- Checks that a relation is the table. -/
def checkRelation : Relation → Except CommandFault Unit
  | .table name => checkTable name
  | .other => .error .notATable

/-- The columns that can be filtered by. -/
inductive FilterColumn where
  | id
  | resource
  deriving DecidableEq, Repr

/-- The column that an expression names, if rows can be filtered by it. -/
def filterColumn? : Expr → Option FilterColumn
  | .name parts =>
      match parts.getLast? with
      | none => none
      | some last =>
          if key last = "id" then some .id
          else if key last = "resource_id" then some .resource
          else none
  | _ => none

/-- The column that a filter compares, and with what, if it is an equation for
a column. -/
def equation? : Expr → Option (FilterColumn × Expr)
  | .binary left operator right =>
      if operator = "=" then (filterColumn? left).map (·, right) else none
  | .nested inner => equation? inner
  | _ => none

/-! ### Statements -/

/-- The columns of an insertion that names none. -/
def insertColumns : List String :=
  ["resource_id", "customer_name", "customer_email", "start", "end"]

/-- What the columns of an insertion have said so far. -/
structure Draft where
  resource : Option Ulid := none
  name : String := ""
  email : String := ""
  start : Option Instant := none
  stop : Option Instant := none
  deriving DecidableEq, Repr

/-- A draft with the value of one more column, which replaces an earlier one. -/
def Draft.set (draft : Draft) (column : String) (value : Expr) :
    Except CommandFault Draft := do
  if column = "resource_id" then return { draft with resource := some (← idOf value) }
  else if column = "customer_name" then return { draft with name := ← textOf value }
  else if column = "customer_email" then return { draft with email := ← textOf value }
  else if column = "start" then return { draft with start := ← instantOf value }
  else if column = "end" then return { draft with stop := ← instantOf value }
  else throw (.unknownColumn column)

/-- The request of a finished draft. -/
def Draft.request (draft : Draft) : Except CommandFault Request :=
  match draft.resource with
  | none => .error .missingColumn
  | some resource =>
      .ok
        { resource := resource
          customer := { name := draft.name, email := draft.email }
          start := draft.start
          stop := draft.stop }

/-- The request that a row of values makes for some columns. -/
def requestOf (columns : List String) (values : List Expr) : Except CommandFault Request := do
  if columns.length ≠ values.length then
    throw (.wrongCount columns.length values.length)
  let draft ← (columns.zip values).foldlM (fun draft entry => draft.set entry.1 entry.2)
    ({} : Draft)
  draft.request

/-- The command of an insertion. -/
def ofInsertion (table : ObjectName) (columns : List Ident) (source : Option Query) :
    Except CommandFault Command := do
  checkTable table
  match source.map Query.body with
  | none => throw .noValues
  | some (.values [row]) =>
      let columns := if columns.isEmpty then insertColumns else columns.map key
      return .book (← requestOf columns row)
  | some (.values _) => throw .manyRows
  | some _ => throw .notValues

/-- The command of a deletion. -/
def ofDeletion (relations : List Relation) (filter : Option Expr) :
    Except CommandFault Command := do
  match relations with
  | [] => throw .notATable
  | first :: _ =>
      checkRelation first
      match filter.bind equation? with
      | some (.id, value) => return .remove (← idOf value)
      | _ => throw .missingFilter

/-- The command of a query. -/
def ofQuery (query : Query) : Except CommandFault Command := do
  match query.body with
  | .select [] _ => throw .noRelation
  | .select (first :: _) filter =>
      checkRelation first
      match filter with
      | none => return .list none
      | some filter =>
          match equation? filter with
          | some (.id, value) => return .find (← idOf value)
          | some (.resource, value) => return .list (some (← idOf value))
          | none => throw (.otherFilter filter)
  | _ => throw .otherQuery

/-- The command of a statement. -/
def ofStatement : Statement → Except CommandFault Command
  | .query query => ofQuery query
  | .insert table columns source => ofInsertion table columns source
  | .delete relations filter => ofDeletion relations filter
  | .other => .error .otherStatement

/-- The command of a text: that of its first statement. All its statements must
be well formed. -/
def ofText (text : String) : Except CommandFault Command :=
  match statements? text with
  | none => .error .malformed
  | some [] => .error .empty
  | some (first :: _) => ofStatement first

end Command

end Reservations
