import Reservations.Command
import Reservations.Desk
import Reservations.Placeholder

namespace Reservations

/-! ## Sessions

A client sends statements, either as they are or prepared with values for their
places, and gets rows, a count or a refusal for each. -/

/-- The type of a column. -/
inductive ColumnType where
  | varchar
  | int8
  deriving DecidableEq, Repr

/-- The number that clients know a type by. -/
def ColumnType.oid : ColumnType → Nat
  | varchar => 1043
  | int8 => 20

/-- A column of the rows of reservations. -/
structure Column where
  name : String
  type : ColumnType
  deriving DecidableEq, Repr

/-- The columns of the rows of reservations. -/
def reservationColumns : List Column :=
  [⟨"id", .varchar⟩, ⟨"resource_id", .varchar⟩, ⟨"customer_name", .varchar⟩,
    ⟨"customer_email", .varchar⟩, ⟨"start", .int8⟩, ⟨"end", .int8⟩, ⟨"status", .varchar⟩,
    ⟨"created_at", .int8⟩]

/-- An integer in decimal. -/
def integerText (value : Int64) : String :=
  Text.decimalText value.toInt

/-- The row of a reservation. -/
def Reservation.row (reservation : Reservation) : List String :=
  [reservation.id.toText, reservation.resource.toText, reservation.customer.name,
    reservation.customer.email, integerText reservation.span.start,
    integerText reservation.span.stop, reservation.status.word,
    integerText reservation.createdAt]

/-- What comes of a statement. -/
inductive Outcome where
  | rows (found : List (List String))
  | removed (count : Nat)
  | refused (refusal : Refusal)
  | misread (fault : CommandFault)
  deriving DecidableEq, Repr

/-- The tag that ends an outcome, if it is no refusal. -/
def Outcome.tag? : Outcome → Option String
  | rows found => some ("SELECT " ++ Text.countText found.length)
  | removed count => some ("DELETE " ++ Text.countText count)
  | refused _ | misread _ => none

/-- The SQL state and the wording of a refusal. Some have no wording of their own. -/
def Outcome.failure? : Outcome → Option (String × Option String)
  | rows _ | removed _ => none
  | refused refusal => some (refusal.sqlState, refusal.message?)
  | misread fault => some (fault.sqlState, fault.message?)

namespace Desk

/-- Carries out a command. -/
def carryOut (desk : Desk) : Command → Outcome × Desk
  | .book request =>
      match desk.create request with
      | (.ok reservation, desk) => (.rows [reservation.row], desk)
      | (.error refusal, desk) => (.refused refusal, desk)
  | .find id =>
      match desk.get id with
      | .ok reservation => (.rows [reservation.row], desk)
      | .error (.notFound _) => (.rows [], desk)
      | .error refusal => (.refused refusal, desk)
  | .list resource? =>
      match desk.list resource? with
      | .ok reservations => (.rows (reservations.map Reservation.row), desk)
      | .error refusal => (.refused refusal, desk)
  | .remove id =>
      match desk.delete id with
      | (.ok found, desk) => (.removed (if found then 1 else 0), desk)
      | (.error refusal, desk) => (.refused refusal, desk)

/-- Carries out the command of a text. -/
def execute (desk : Desk) (text : String) : Outcome × Desk :=
  match Command.ofText text with
  | .ok command => desk.carryOut command
  | .error fault => (.misread fault, desk)

/-- Carries out the command of a text with values for its places. -/
def executeWith (desk : Desk) (text : String) (parameters : List Parameter) : Outcome × Desk :=
  desk.execute (inlineParameters text parameters)

end Desk

/-- Whether a statement is said to answer with rows: it begins with one of the
words for the statements that do. -/
def returnsRows (statement : String) : Bool :=
  let head := Text.upper (Text.trimStart statement.toList)
  "SELECT".toList.isPrefixOf head || "INSERT".toList.isPrefixOf head

/-- The columns that a statement is said to answer with. -/
def describedColumns (statement : String) : List Column :=
  if returnsRows statement then reservationColumns else []

/-- Whether a statement sent as it is holds nothing to carry out: nothing but
blanks and at most one semicolon. -/
def isIdle (statement : String) : Bool :=
  let rest := Text.trim statement.toList
  rest.isEmpty || rest = [';']

/-- What a client gets for a statement that it sends as it is: nothing for an
idle one. -/
def Desk.query (desk : Desk) (statement : String) : Option Outcome × Desk :=
  if isIdle statement then (none, desk)
  else
    let (outcome, desk) := desk.execute statement
    (some outcome, desk)

end Reservations
