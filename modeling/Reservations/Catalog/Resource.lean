import Reservations.Calendar.Pattern
import Reservations.Catalog.Failure
import Reservations.Instant
import Reservations.Json.Text
import Reservations.Json.Value

namespace Reservations.Catalog

/-! ## What the catalog says about a resource -/

/-- A period in which a resource cannot be reserved, at the precision that the
catalog gives it, in UTC. -/
structure Period where
  start : Calendar.DateTime
  stop : Calendar.DateTime
  deriving DecidableEq, Repr

/-- The description of a resource. -/
structure Resource where
  name : Option String
  active : Bool
  periods : Option (List Period)
  deriving DecidableEq, Repr

/-- What counts for a decision about a reservation. -/
structure Snapshot where
  active : Bool
  windows : List Span
  deriving DecidableEq, Repr, Inhabited

/-- A period in whole milliseconds, rounded down at both ends, unless nothing
is left of it. -/
def Period.span? (period : Period) : Option Span :=
  Span.of? (Int64.ofInt period.start.epochMilli) (Int64.ofInt period.stop.epochMilli)

/-- The span of a period, without which the period is unusable. -/
def Period.window (period : Period) : Except LookupFailure Span :=
  match period.span? with
  | some span => .ok span
  | none => .error (.malformed (.emptyPeriod period.start period.stop))

/-- The spans of periods. The first unusable period makes all of them
unusable. -/
def windowsOf (periods : List Period) : Except LookupFailure (List Span) :=
  periods.mapM Period.window

/-- The snapshot of a description. -/
def Resource.snapshot (resource : Resource) : Except LookupFailure Snapshot :=
  let periods := resource.periods.getD []
  if Limits.periods < periods.length then .error (.malformed .tooManyPeriods)
  else
    match windowsOf periods with
    | .ok windows => .ok ⟨resource.active, windows⟩
    | .error failure => .error failure

/-! ## Reading descriptions

A structure is an object, in which known names must not repeat and other names
do not matter, or an array with its fields in order. -/

open Json (Value)

/-- A value that may be null or missing. -/
def optional? {α : Type} (read : Value → Option α) : Option Value → Option (Option α)
  | none => some none
  | some .null => some none
  | some value => (read value).map some

/-- The text that a value is. -/
def text? : Value → Option String
  | .text written => Json.textOf? written
  | _ => none

/-- The truth value that a value is. -/
def bool? : Value → Option Bool
  | .bool value => some value
  | _ => none

/-- The date-time that a value is. -/
def dateTime? (value : Value) : Option Calendar.DateTime := do
  let text ← text? value
  Calendar.parse? Calendar.loosePattern text.toList

/-- The members of an object with their names resolved. -/
def named? (members : List (List UInt8 × Value)) : Option (List (String × Value)) :=
  members.mapM fun (name, value) => (Json.textOf? name).map (·, value)

/-- The value of a name. Fails when the name repeats. -/
def member? (members : List (String × Value)) (name : String) :
    Option (Option Value) :=
  match members.filter fun member => member.1 = name with
  | [] => some none
  | [member] => some (some member.2)
  | _ => none

/-- The period that a value describes. -/
def period? : Value → Option Period
  | .object members => do
      let members ← named? members
      let start ← dateTime? (← (← member? members "startTime"))
      let stop ← dateTime? (← (← member? members "endTime"))
      some ⟨start, stop⟩
  | .array [start, stop] => do
      some ⟨← dateTime? start, ← dateTime? stop⟩
  | _ => none

/-- The periods that a value lists. -/
def periods? : Value → Option (List Period)
  | .array items => items.mapM period?
  | _ => none

/-- The resource that three fields describe, of which the first and the last
may be missing. -/
def resourceOfFields? (name active periods : Option Value) : Option Resource := do
  let name ← optional? text? name
  let active ← bool? (← active)
  let periods ← optional? periods? periods
  some ⟨name, active, periods⟩

/-- The resource that a value describes. -/
def resource? : Value → Option Resource
  | .object members => do
      let members ← named? members
      resourceOfFields? (← member? members "name") (← member? members "active")
        (← member? members "unavailablePeriods")
  | .array [name, active] => resourceOfFields? (some name) (some active) none
  | .array [name, active, periods] =>
      resourceOfFields? (some name) (some active) (some periods)
  | _ => none

/-- The resource that the body of an answer describes. -/
def decode? (body : List UInt8) : Option Resource := do
  resource? (← Json.parse? body)

end Reservations.Catalog
