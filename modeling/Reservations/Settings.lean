import Reservations.Text.Blank
import Reservations.Text.Integer

namespace Reservations

/-! ## Settings of the server -/

/-- What the server is started with. -/
structure Settings where
  listenPort : Nat
  bind : String
  dataDir : String
  maxConnections : Nat
  /-- How many appends make the log worth compacting. -/
  compactThreshold : Nat
  /-- Where metrics are served, if they are. -/
  metricsPort : Option Nat
  /-- The address of the catalog, without slashes at its end. -/
  catalogUrl : String
  catalogTimeoutMs : Nat
  deriving DecidableEq, Repr

/-- A text without the slashes it ends with. -/
def dropSlashes (cs : List Char) : List Char :=
  (cs.reverse.dropWhile (· = '/')).reverse

/-- The path of a name inside a directory. -/
def pathIn (directory name : String) : String :=
  if directory.isEmpty ∨ directory.toList.getLast? = some '/' then directory ++ name
  else directory ++ "/" ++ name

namespace Settings

/-- The value of a variable as a number below a bound. A value that is not one
counts as unset. -/
def number? (vars : String → Option String) (name : String) (bound : Nat) :
    Option Nat :=
  (vars name).bind fun value => Text.readNat? bound (Text.trim value.toList)

/-- The settings that variables ask for, with defaults for those unset. -/
def ofVars (vars : String → Option String) : Settings :=
  { listenPort := (number? vars "SLOTBOOK_PORT" Text.bound16).getD 5433
    bind := (vars "SLOTBOOK_BIND").getD "0.0.0.0"
    dataDir := (vars "SLOTBOOK_DATA_DIR").getD "./data"
    maxConnections := (number? vars "SLOTBOOK_MAX_CONNECTIONS" Text.bound64).getD 256
    compactThreshold := (number? vars "SLOTBOOK_COMPACT_THRESHOLD" Text.bound64).getD 1000
    metricsPort := number? vars "SLOTBOOK_METRICS_PORT" Text.bound16
    catalogUrl :=
      String.ofList <| dropSlashes <|
        ((vars "SLOTBOOK_CATALOG_URL").getD "http://localhost:8081").toList
    catalogTimeoutMs :=
      (number? vars "SLOTBOOK_CATALOG_TIMEOUT_MS" Text.bound64).getD 2000 }

/-- The address that the server listens on. -/
def listenAddress (settings : Settings) : String :=
  s!"{settings.bind}:{settings.listenPort}"

/-- The path of the log. -/
def logPath (settings : Settings) : String :=
  pathIn settings.dataDir "reservations.wal"

end Settings

end Reservations
