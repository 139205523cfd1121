import Reservations.Calendar.Printer
import Reservations.Limits

namespace Reservations.Catalog

/-! ## Failed look-ups -/

/-- Why the body of a catalog answer cannot be used. -/
inductive Malformation where
  /-- The body does not describe a resource. The decoder says so in its own words. -/
  | undecodable
  | tooManyPeriods
  /-- A period that does not stop at a later millisecond than it starts. -/
  | emptyPeriod (start stop : Calendar.DateTime)
  /-- The body has at least this many bytes, which is beyond the limit. -/
  | oversized (bytes : Nat)
  | other (detail : String)
  deriving DecidableEq, Repr

/-- The wording of a malformation, where it has one of its own. -/
def Malformation.message? : Malformation → Option String
  | undecodable => none
  | tooManyPeriods => some "too many unavailable periods"
  | emptyPeriod start stop =>
      some s!"unavailable period {start.toText} .. {stop.toText} is empty or inverted"
  | oversized bytes =>
      some s!"body of at least {bytes} bytes exceeds {Limits.bodyBytes}"
  | other detail => some detail

/-- Why a look-up gave no usable answer. -/
inductive LookupFailure where
  | notFound
  | timeout
  | status (code : Nat)
  /-- What went wrong on the way is told in words of the transport, where they are known. -/
  | transport (detail? : Option String)
  | malformed (cause : Malformation)
  deriving DecidableEq, Repr

namespace LookupFailure

/-- The short name of a failure. -/
def label : LookupFailure → String
  | notFound => "not_found"
  | timeout => "timeout"
  | status _ => "status"
  | transport _ => "transport"
  | malformed _ => "malformed"

/-- The wording of a failure, unless it depends on words that are not known. -/
def message? : LookupFailure → Option String
  | notFound => some "resource not found in catalog"
  | timeout => some "catalog timed out"
  | status code => some s!"catalog responded with status {code}"
  | transport detail? => detail?.map fun detail => s!"catalog unreachable: {detail}"
  | malformed cause => cause.message?.map fun detail => s!"malformed catalog response: {detail}"

end LookupFailure

end Reservations.Catalog
