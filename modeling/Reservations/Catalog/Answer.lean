import Reservations.Catalog.Resource
import Reservations.Ulid

namespace Reservations.Catalog

/-! ## Answers of the catalog -/

/-- What comes of asking the catalog about a resource. -/
inductive Answer where
  | description (resource : Resource)
  | failure (cause : LookupFailure)
  /-- No answer ever comes. -/
  | never
  deriving DecidableEq, Repr

/-- The snapshot that an answer gives. Waiting for an answer ends in a
timeout. -/
def Answer.snapshot : Answer → Except LookupFailure Snapshot
  | description resource => resource.snapshot
  | failure cause => .error cause
  | never => .error .timeout

/-- The answers that a catalog has for some resources, and the one for all
others. -/
structure Answers where
  known : List (Ulid × Answer) := []
  otherwise : Answer := .failure .notFound
  deriving Repr

namespace Answers

/-- The answer about a resource. -/
def about (answers : Answers) (resource : Ulid) : Answer :=
  (answers.known.lookup resource).getD answers.otherwise

/-- Changes the answer about one resource, or about all that have no answer of
their own. -/
def set (answers : Answers) (resource? : Option Ulid) (answer : Answer) : Answers :=
  match resource? with
  | some resource => { answers with known := (resource, answer) :: answers.known }
  | none => { answers with otherwise := answer }

end Answers

end Reservations.Catalog
