import Reservations.Log.Frame
import Reservations.Refusal

namespace Reservations.Log

/-! ## Files and the open log -/

/-- A file. Writing to a full one fails. Flushing to a stuck one fails and leaves
what was to be flushed in the buffer. Flushes that fail after some of it, or all of
it, has reached the file are left out here. -/
structure File where
  bytes : ByteArray := .empty
  full : Bool := false
  stuck : Bool := false

/-- What stands at a path. -/
inductive Node where
  | absent
  | file (file : File)
  | directory

/-- Whether a write succeeded. -/
abbrev Outcome := Except StorageFault Unit

namespace File

/-- Adds bytes at the end. -/
def append (file : File) (chunk : ByteArray) : Outcome × File :=
  if file.full && !chunk.isEmpty then (.error .noSpace, file)
  else (.ok (), { file with bytes := file.bytes ++ chunk })

end File

/-- A file that is open for appending through a buffer. -/
structure Tail where
  file : File
  pending : ByteArray := .empty

namespace Tail

/-- How many bytes the buffer holds. -/
def capacity : Nat := 8192

/-- Writes the buffer out. What cannot be written stays in it. -/
def drain (tail : Tail) : Outcome × Tail :=
  let (outcome, file) := tail.file.append tail.pending
  match outcome with
  | .ok () => (.ok (), ⟨file, .empty⟩)
  | .error fault => (.error fault, ⟨file, tail.pending⟩)

/-- Adds a chunk that the buffer has room for, or that is larger than any
buffer. -/
def place (tail : Tail) (chunk : ByteArray) : Outcome × Tail :=
  if capacity ≤ chunk.size then
    let (outcome, file) := tail.file.append chunk
    (outcome, { tail with file })
  else (.ok (), { tail with pending := tail.pending ++ chunk })

/-- Adds a chunk through the buffer, which is written out first where it has
too little room. -/
def write (tail : Tail) (chunk : ByteArray) : Outcome × Tail :=
  if capacity - tail.pending.size < chunk.size then
    match tail.drain with
    | (.ok (), tail) => tail.place chunk
    | (.error fault, tail) => (.error fault, tail)
  else tail.place chunk

/-- Adds chunks in order, up to the first that cannot be added. -/
def writeAll (tail : Tail) : List (List UInt8) → Outcome × Tail
  | [] => (.ok (), tail)
  | chunk :: chunks =>
      match tail.write ⟨chunk.toArray⟩ with
      | (.ok (), tail) => tail.writeAll chunks
      | (.error fault, tail) => (.error fault, tail)

/-- Adds the frame of an event. -/
def writeFrame (tail : Tail) (event : Event) : Outcome × Tail :=
  tail.writeAll (frameParts event)

/-- Adds the frames of events in order, up to the first that cannot be added. -/
def writeFrames (tail : Tail) : List Event → Outcome × Tail
  | [] => (.ok (), tail)
  | event :: events =>
      match tail.writeFrame event with
      | (.ok (), tail) => tail.writeFrames events
      | (.error fault, tail) => (.error fault, tail)

end Tail

/-- What stands at the path of the log and at the path of the spare file that
compaction writes. -/
structure Directory where
  log : Node := .absent
  spare : Node := .absent

/-- The log while it is open. -/
structure Journal where
  tail : Tail
  /-- How many frames were added since the log was opened or compacted. -/
  appends : Nat
  spare : Node

namespace Directory

/-- Reads the log. A missing one is empty. -/
def replay (directory : Directory) : Except StorageFault Replay :=
  match directory.log with
  | .absent => .ok ⟨[], 0⟩
  | .file file => .ok (Log.replay file.bytes)
  | .directory => .error .isDirectory

/-- Reads the log and cuts off what lies behind its intact front. -/
def recover (directory : Directory) :
    Except StorageFault (List Event × Directory) :=
  match directory.replay with
  | .error fault => .error fault
  | .ok found =>
      match directory.log with
      | .file file =>
          let kept := { file with bytes := file.bytes.extract 0 found.validLength }
          .ok (found.events, { directory with log := .file kept })
      | _ => .ok (found.events, directory)

/-- Opens the log for appending. A missing one is made. -/
def openJournal (directory : Directory) : Except StorageFault Journal :=
  match directory.log with
  | .absent => .ok ⟨⟨{}, .empty⟩, 0, directory.spare⟩
  | .file file => .ok ⟨⟨file, .empty⟩, 0, directory.spare⟩
  | .directory => .error .isDirectory

end Directory

/-- Writes a fresh spare file with the frames of events. -/
def writeSpare (spare : Node) (events : List Event) : Outcome × Node :=
  match spare with
  | .directory => (.error .isDirectory, .directory)
  | _ =>
      match (Tail.mk {} .empty).writeFrames events with
      | (.ok (), tail) =>
          let (outcome, tail) := tail.drain
          (outcome, .file tail.file)
      | (.error fault, tail) => (.error fault, .file tail.file)

namespace Journal

/-- Adds the frame of an event to the buffer. -/
def append (journal : Journal) (event : Event) : Outcome × Journal :=
  match journal.tail.writeFrame event with
  | (.ok (), tail) => (.ok (), { journal with tail, appends := journal.appends + 1 })
  | (.error fault, tail) => (.error fault, { journal with tail })

/-- Adds the frames of events in order, up to the first that cannot be added. -/
def appendAll (journal : Journal) : List Event → Outcome × Journal
  | [] => (.ok (), journal)
  | event :: events =>
      match journal.append event with
      | (.ok (), journal) => journal.appendAll events
      | (.error fault, journal) => (.error fault, journal)

/-- Writes the buffer out, unless the file is stuck. -/
def flush (journal : Journal) : Outcome × Journal :=
  if journal.tail.file.stuck then (.error .noSpace, journal)
  else
    let (outcome, tail) := journal.tail.drain
    (outcome, { journal with tail })

/-- Adds a batch of events and writes the buffer out, even after a frame could
not be added. The first fault counts. -/
def commit (journal : Journal) (events : List Event) : Outcome × Journal :=
  let (appended, journal) := journal.appendAll events
  let (flushed, journal) := journal.flush
  (match appended with
    | .ok () => flushed
    | .error fault => .error fault,
    journal)

/-- Closes the log, which writes the buffer out if it can. -/
def close (journal : Journal) : Directory :=
  ⟨.file journal.tail.drain.2.file, journal.spare⟩

end Journal

/-- An open log, and the file at its path where that is another one than the log is
written to. -/
structure Handle where
  journal : Journal
  successor : Option File := none

namespace Handle

/-- Puts the spare file in the place of the log and opens it. Frames that are
still in the buffer go to the replaced file. If the new file cannot be opened,
the replaced one is written to as before. -/
def swap (handle : Handle) (opening : Outcome) : Outcome × Handle :=
  match handle.journal.spare with
  | .absent => (.error .missing, handle)
  | .directory => (.error .notDirectory, handle)
  | .file file =>
      match opening with
      | .ok () => (.ok (), { journal := ⟨⟨file, .empty⟩, 0, .absent⟩ })
      | .error fault =>
          (.error fault, ⟨{ handle.journal with spare := .absent }, some file⟩)

/-- Replaces the log by the frames of events. -/
def compact (handle : Handle) (opening : Outcome) (events : List Event) :
    Outcome × Handle :=
  match writeSpare handle.journal.spare events with
  | (.ok (), spare) =>
      { handle with journal := { handle.journal with spare } }.swap opening
  | (.error fault, spare) =>
      (.error fault, { handle with journal := { handle.journal with spare } })

/-- Closes the log. What is in the buffer never reaches a file that is not written
to. -/
def close (handle : Handle) : Directory :=
  match handle.successor with
  | none => handle.journal.close
  | some file => ⟨.file file, handle.journal.spare⟩

end Handle

namespace Journal

/-- Puts the spare file in the place of the log, where it can be opened. -/
def swap (journal : Journal) : Outcome × Journal :=
  let (outcome, handle) := Handle.swap { journal } (.ok ())
  (outcome, handle.journal)

/-- Replaces the log by the frames of events, where they can be opened. -/
def compact (journal : Journal) (events : List Event) : Outcome × Journal :=
  let (outcome, handle) := Handle.compact { journal } (.ok ()) events
  (outcome, handle.journal)

end Journal

/-! ## Interventions

What others may do to the files while the log is open or closed. An open log
goes on appending at the end of whatever its file holds. -/

/-- The log, closed or open. -/
inductive Holding where
  | closed (directory : Directory)
  | opened (journal : Journal)

namespace Holding

/-- What stands at the two paths. -/
def directory : Holding → Directory
  | closed directory => directory
  | opened journal => ⟨.file journal.tail.file, journal.spare⟩

/-- The bytes of the log file, if there is one. -/
def bytes? (holding : Holding) : Option ByteArray :=
  match holding.directory.log with
  | .file file => some file.bytes
  | _ => none

/-- Changes the bytes of the log file, which is made if there is none. -/
def edit (change : ByteArray → ByteArray) : Holding → Holding
  | closed ⟨.file file, spare⟩ =>
      closed ⟨.file { file with bytes := change file.bytes }, spare⟩
  | closed ⟨.absent, spare⟩ => closed ⟨.file { bytes := change .empty }, spare⟩
  | closed ⟨.directory, spare⟩ => closed ⟨.directory, spare⟩
  | opened ⟨⟨file, pending⟩, appends, spare⟩ =>
      opened ⟨⟨{ file with bytes := change file.bytes }, pending⟩, appends, spare⟩

/-- Changes what stands at the path of the spare file. -/
def editSpare (change : Node → Node) : Holding → Holding
  | closed directory => closed { directory with spare := change directory.spare }
  | opened journal => opened { journal with spare := change journal.spare }

/-- Closes the log if it is open. -/
def close : Holding → Directory
  | closed directory => directory
  | opened journal => journal.close

/-- Reads the log and cuts off what lies behind its intact front, without
closing it. -/
def recover (holding : Holding) : Except StorageFault (List Event × Holding) :=
  match holding.directory.replay with
  | .error fault => .error fault
  | .ok found =>
      let kept := if holding.bytes?.isSome then
          holding.edit (·.extract 0 found.validLength)
        else holding
      .ok (found.events, kept)

end Holding

/-- Puts a directory where nothing stands. -/
def Node.block : Node → Node
  | absent => directory
  | node => node

/-- Removes a directory. -/
def Node.unblock : Node → Node
  | directory => absent
  | node => node

/-- Bytes without some at their end. -/
def cutEnd (count : Nat) (bytes : ByteArray) : ByteArray :=
  bytes.extract 0 (bytes.size - count)

/-- Bytes with one of them changed by exclusive or. A negative place counts
from the end; a place outside changes nothing. -/
def flipAt (place : Int) (mask : UInt8) (bytes : ByteArray) : ByteArray :=
  let index := if place < 0 then bytes.size + place else place
  if 0 ≤ index ∧ index < bytes.size then
    bytes.set! index.toNat (bytes.get! index.toNat ^^^ mask)
  else bytes

end Reservations.Log
