import Reservations.Proofs.Log.Journal

namespace Reservations.Log

/-! ## Compaction call by call

A compaction makes the spare file, writes the frames into it in pieces and renames it.
Any of these calls can fail, and a crash can fall between any two of them. Nothing is
said about the pieces, so that a write that only gets some bytes through is a call for a
smaller piece. -/

/-- A call to the file system. -/
inductive Call where
  | create
  | append (piece : List UInt8)
  | rename

/-- What a call does, unless what stands at the path of the spare file is in the way. -/
def Call.perform : Call → Directory → Except StorageFault Directory
  | create, ⟨_, .directory⟩ => .error .isDirectory
  | create, ⟨log, _⟩ => .ok ⟨log, .file {}⟩
  | append piece, ⟨log, .file file⟩ =>
      .ok ⟨log, .file { file with bytes := file.bytes ++ ⟨piece.toArray⟩ }⟩
  | append _, ⟨_, _⟩ => .error .missing
  | rename, ⟨_, .file file⟩ => .ok ⟨.file file, .absent⟩
  | rename, ⟨_, .absent⟩ => .error .missing
  | rename, ⟨_, .directory⟩ => .error .notDirectory

/-- Makes calls in order. Only some number of them is granted, the next one fails. -/
def follow (fault : StorageFault) : Nat → List Call → Directory → Outcome × Directory
  | _, [], directory => (.ok (), directory)
  | 0, _ :: _, directory => (.error fault, directory)
  | granted + 1, call :: calls, directory =>
      match call.perform directory with
      | .ok next => follow fault granted calls next
      | .error other => (.error other, directory)

/-- The calls of a compaction that is to leave the frames of these events. -/
def Compacts (events : List Event) (calls : List Call) : Prop :=
  ∃ pieces : List (List UInt8), pieces.flatten = frames events ∧
    calls = .create :: (pieces.map .append ++ [.rename])

namespace Journal

/-- The files of an open log, without what is in its buffer. -/
def directory (journal : Journal) : Directory :=
  ⟨.file journal.tail.file, journal.spare⟩

/-- Compacts call by call. The log is opened anew only when all calls went through, and
that is granted then. -/
def compactWithin
    (journal : Journal) (fault : StorageFault) (granted : Nat) (calls : List Call) :
    Outcome × Journal :=
  match follow fault granted calls journal.directory with
  | (.error other, directory) => (.error other, { journal with spare := directory.spare })
  | (.ok (), directory) =>
      match directory.openJournal with
      | .error other => (.error other, { journal with spare := directory.spare })
      | .ok opened => (.ok (), opened)

end Journal

variable {fault : StorageFault} {granted : Nat}

/-- As long as not all pieces are written and renamed, the log stays what it was. -/
theorem follow_append_of_lt
    {pieces : List (List UInt8)} (short : granted < pieces.length + 1)
    (log : Node) (file : File) :
    ∃ other node, follow fault granted (pieces.map .append ++ [.rename]) ⟨log, .file file⟩ =
      (.error other, ⟨log, node⟩) := by
  induction pieces generalizing granted file with
  | nil =>
      obtain rfl : granted = 0 := by simpa using short
      exact ⟨fault, .file file, rfl⟩
  | cons piece pieces inductionHypothesis =>
      cases granted with
      | zero => exact ⟨fault, .file file, rfl⟩
      | succ granted =>
          rw [List.length_cons] at short
          exact inductionHypothesis (by omega) _

/-- Then what was written takes its place. -/
theorem follow_append_of_le
    {pieces : List (List UInt8)} (enough : pieces.length + 1 ≤ granted)
    (log : Node) (file : File) :
    ∃ bytes : ByteArray,
      follow fault granted (pieces.map .append ++ [.rename]) ⟨log, .file file⟩ =
        (.ok (), ⟨.file { file with bytes }, .absent⟩) ∧
      bytes.data.toList = file.bytes.data.toList ++ pieces.flatten := by
  induction pieces generalizing granted file with
  | nil =>
      cases granted with
      | zero => omega
      | succ granted =>
          refine ⟨file.bytes, ?_, (List.append_nil _).symm⟩
          cases granted <;> rfl
  | cons piece pieces inductionHypothesis =>
      rw [List.length_cons] at enough
      cases granted with
      | zero => omega
      | succ granted =>
          have fewer : pieces.length + 1 ≤ granted := by omega
          obtain ⟨bytes, followed, written⟩ :=
            inductionHypothesis fewer { file with bytes := file.bytes ++ ⟨piece.toArray⟩ }
          refine ⟨bytes, followed, ?_⟩
          rw [written]
          simp

section Compacts

variable {events : List Event} {calls : List Call}

/-- A compaction that is cut short, or that a directory is in the way of, does not touch
the log. -/
theorem follow_of_stopped
    (compacts : Compacts events calls) {directory : Directory}
    (stopped : granted < calls.length ∨ directory.spare = .directory) :
    ∃ other node, follow fault granted calls directory =
      (.error other, ⟨directory.log, node⟩) := by
  obtain ⟨pieces, _, rfl⟩ := compacts
  obtain ⟨log, spare⟩ := directory
  cases granted with
  | zero => exact ⟨fault, spare, rfl⟩
  | succ granted =>
      cases spare with
      | directory => exact ⟨.isDirectory, .directory, rfl⟩
      | absent =>
          have short : granted < pieces.length + 1 := by simpa using stopped
          exact follow_append_of_lt short log {}
      | file file =>
          have short : granted < pieces.length + 1 := by simpa using stopped
          exact follow_append_of_lt short log {}

/-- One that is not puts a file with exactly the frames in the place of the log. -/
theorem follow_of_granted
    (compacts : Compacts events calls) {directory : Directory}
    (enough : calls.length ≤ granted) (clear : directory.spare ≠ .directory) :
    ∃ bytes : ByteArray,
      follow fault granted calls directory = (.ok (), ⟨.file { bytes }, .absent⟩) ∧
      bytes.data.toList = frames events := by
  obtain ⟨pieces, whole, rfl⟩ := compacts
  obtain ⟨log, spare⟩ := directory
  simp only [List.length_cons, List.length_append, List.length_map, List.length_nil] at enough
  rw [← whole]
  cases granted with
  | zero => omega
  | succ granted =>
      cases spare with
      | directory => exact absurd rfl clear
      | absent => exact follow_append_of_le (by omega) log {}
      | file file => exact follow_append_of_le (by omega) log {}

namespace Journal

variable {journal : Journal}

theorem compactWithin_of_stopped
    (compacts : Compacts events calls)
    (stopped : granted < calls.length ∨ journal.spare = .directory) :
    ∃ other node, journal.compactWithin fault granted calls =
      (.error other, { journal with spare := node }) := by
  obtain ⟨other, node, followed⟩ : ∃ other node,
      follow fault granted calls journal.directory = (.error other, ⟨journal.directory.log, node⟩) :=
    follow_of_stopped compacts stopped
  exact ⟨other, node, by rw [compactWithin, followed]⟩

theorem compactWithin_of_granted
    (compacts : Compacts events calls)
    (enough : calls.length ≤ granted) (clear : journal.spare ≠ .directory) :
    ∃ bytes : ByteArray,
      journal.compactWithin fault granted calls =
        (.ok (), ⟨⟨{ bytes }, .empty⟩, 0, .absent⟩) ∧
      bytes.data.toList = frames events := by
  obtain ⟨bytes, followed, written⟩ : ∃ bytes,
      follow fault granted calls journal.directory = (.ok (), ⟨.file { bytes }, .absent⟩) ∧ _ :=
    follow_of_granted compacts enough clear
  refine ⟨bytes, ?_, written⟩
  rw [compactWithin, followed]
  rfl

/-- Writing through a buffer comes to the same as making all the calls, whatever the
pieces are. -/
theorem compact_eq_compactWithin
    (compacts : Compacts events calls) (enough : calls.length ≤ granted) :
    journal.compact events = journal.compactWithin fault granted calls := by
  by_cases blocked : journal.spare = .directory
  · obtain ⟨pieces, _, rfl⟩ := compacts
    obtain ⟨tail, appends, spare⟩ := journal
    obtain rfl : spare = .directory := blocked
    cases granted with
    | zero => simp at enough
    | succ granted => rfl
  · obtain ⟨file, compacted, roomy, loose, stored⟩ := compact_of_ne_directory blocked events
    obtain ⟨bytes, within, written⟩ : ∃ bytes, journal.compactWithin fault granted calls =
        (.ok (), ⟨⟨{ bytes }, .empty⟩, 0, .absent⟩) ∧ _ :=
      compactWithin_of_granted compacts enough blocked
    have same : file = { bytes } := by
      obtain ⟨fileBytes, full, stuck⟩ := file
      have equal : fileBytes = bytes :=
        ByteArray.ext (Array.toList_inj.mp (stored.trans written.symm))
      have notFull : full = false := roomy
      have notStuck : stuck = false := loose
      rw [equal, notFull, notStuck]
    rw [compacted, within, same]

end Journal

end Compacts

end Reservations.Log
