import Reservations.Proofs.Book.Changes
import Reservations.Proofs.Calendar.Spelling
import Reservations.Proofs.Catalog.Address
import Reservations.Proofs.Catalog.Framing
import Reservations.Proofs.Catalog.Members
import Reservations.Proofs.Catalog.Precision
import Reservations.Proofs.Command.Integer
import Reservations.Proofs.Command.Reading
import Reservations.Proofs.Description
import Reservations.Proofs.LockTable
import Reservations.Proofs.Log.Corruption
import Reservations.Proofs.Placeholder.Count
import Reservations.Proofs.Placeholder.Template
import Reservations.Proofs.Placeholder.Tokens
import Reservations.Proofs.Session
import Reservations.Proofs.Store.Compaction
import Reservations.Proofs.Store.Failure
import Reservations.Proofs.Store.Growth
import Reservations.Proofs.Store.Refused
import Reservations.Proofs.Store.Ties
import Reservations.Proofs.Store.Unopened
import Reservations.Settings
