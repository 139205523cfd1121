import Reservations.Log.Journal
import Reservations.Proofs.Log.Replay

namespace Reservations.Log

/-! ## Writing through the buffer

Whatever part of it the buffer still holds, what was written to a log is one
sequence of bytes, and a file that is not full takes all of it. -/

theorem File.append_of_roomy
    {file : File} (roomy : file.full = false) (chunk : ByteArray) :
    file.append chunk = (.ok (), { file with bytes := file.bytes ++ chunk }) := by
  rw [append, roomy]
  rfl

namespace Tail

/-- What was written so far: the bytes of the file, then those of the buffer. -/
def stream (tail : Tail) : List UInt8 :=
  tail.file.bytes.data.toList ++ tail.pending.data.toList

theorem stream_of_settled {tail : Tail} (settled : tail.pending = .empty) :
    tail.stream = tail.file.bytes.data.toList := by
  rw [stream, settled]
  exact List.append_nil _

/-- Writing took nothing but these bytes, and left the file with room for
more. -/
structure Gains (tail next : Tail) (bytes : List UInt8) : Prop where
  roomy : next.file.full = false
  stuck : next.file.stuck = tail.file.stuck
  stream : next.stream = tail.stream ++ bytes

namespace Gains

variable {tail middle next : Tail} {front back : List UInt8}

theorem refl (roomy : tail.file.full = false) : tail.Gains tail [] :=
  ⟨roomy, rfl, (List.append_nil _).symm⟩

theorem trans (first : tail.Gains middle front) (second : middle.Gains next back) :
    tail.Gains next (front ++ back) where
  roomy := second.roomy
  stuck := second.stuck.trans first.stuck
  stream := by rw [second.stream, first.stream, List.append_assoc]

end Gains

/-- The tail once its buffer is written out. -/
def drained (tail : Tail) : Tail :=
  ⟨{ tail.file with bytes := tail.file.bytes ++ tail.pending }, .empty⟩

variable {tail : Tail}

theorem drain_of_roomy (roomy : tail.file.full = false) :
    tail.drain = (.ok (), tail.drained) := by
  rw [drain, File.append_of_roomy roomy]
  rfl

theorem bytes_drained (tail : Tail) : tail.drained.file.bytes.data.toList = tail.stream := by
  simp [drained, stream]

/-- The tail once some of its buffer has got to the file. -/
def spilled (tail : Tail) (count : Nat) : Tail :=
  ⟨{ tail.file with bytes := tail.file.bytes ++ tail.pending.extract 0 count },
    tail.pending.extract count tail.pending.size⟩

theorem stream_spilled (tail : Tail) (count : Nat) :
    (tail.spilled count).stream = tail.stream := by
  have rest : (tail.pending.data.toList.drop count).take (tail.pending.size - count) =
      tail.pending.data.toList.drop count := by
    apply List.take_of_length_le
    rw [List.length_drop]
    exact Nat.le_refl _
  simp only [stream, spilled, ByteArray.data_append, ByteArray.data_extract,
    Array.toList_append, Array.toList_extract, List.extract_eq_take_drop, rest, List.drop_zero,
    Nat.sub_zero, List.append_assoc, List.take_append_drop]

theorem gains_drained (roomy : tail.file.full = false) : tail.Gains tail.drained [] where
  roomy := roomy
  stuck := rfl
  stream := by simp [drained, stream]

theorem place_of_roomy (roomy : tail.file.full = false) (chunk : ByteArray)
    (settled : capacity ≤ chunk.size → tail.pending = .empty) :
    ∃ next, tail.place chunk = (.ok (), next) ∧ tail.Gains next chunk.data.toList := by
  by_cases large : capacity ≤ chunk.size
  · refine ⟨{ tail with file := { tail.file with bytes := tail.file.bytes ++ chunk } }, ?_, ?_⟩
    · rw [place, if_pos large, File.append_of_roomy roomy]
    · exact ⟨roomy, rfl, by simp [stream, settled large]⟩
  · refine ⟨{ tail with pending := tail.pending ++ chunk }, ?_, ?_⟩
    · rw [place, if_neg large]
    · exact ⟨roomy, rfl, by simp [stream]⟩

theorem write_of_roomy (roomy : tail.file.full = false) (chunk : ByteArray) :
    ∃ next, tail.write chunk = (.ok (), next) ∧ tail.Gains next chunk.data.toList := by
  by_cases tight : capacity - tail.pending.size < chunk.size
  · have first := gains_drained roomy
    obtain ⟨next, placed, second⟩ := place_of_roomy first.roomy chunk fun _ => rfl
    refine ⟨next, ?_, first.trans second⟩
    rw [write, if_pos tight, drain_of_roomy roomy]
    exact placed
  · -- A chunk as large as the buffer only passes here when the buffer is empty.
    have settled : capacity ≤ chunk.size → tail.pending = .empty := by
      intro large
      apply ByteArray.ext
      apply Array.eq_empty_of_size_eq_zero
      have size : tail.pending.data.size = tail.pending.size := rfl
      unfold capacity at *
      omega
    obtain ⟨next, placed, gains⟩ := place_of_roomy roomy chunk settled
    refine ⟨next, ?_, gains⟩
    rw [write, if_neg tight]
    exact placed

theorem writeAll_of_roomy
    (roomy : tail.file.full = false) (chunks : List (List UInt8)) :
    ∃ next, tail.writeAll chunks = (.ok (), next) ∧ tail.Gains next chunks.flatten := by
  induction chunks generalizing tail with
  | nil => exact ⟨tail, rfl, Gains.refl roomy⟩
  | cons chunk chunks inductionHypothesis =>
      obtain ⟨middle, written, first⟩ := write_of_roomy roomy ⟨chunk.toArray⟩
      obtain ⟨next, rest, second⟩ := inductionHypothesis first.roomy
      refine ⟨next, ?_, ?_⟩
      · rw [writeAll, written]
        exact rest
      · simpa using first.trans second

theorem writeFrame_of_roomy (roomy : tail.file.full = false) (event : Event) :
    ∃ next, tail.writeFrame event = (.ok (), next) ∧ tail.Gains next (frame event) :=
  writeAll_of_roomy roomy (frameParts event)

theorem writeFrames_of_roomy (roomy : tail.file.full = false) (events : List Event) :
    ∃ next, tail.writeFrames events = (.ok (), next) ∧ tail.Gains next (frames events) := by
  induction events generalizing tail with
  | nil => exact ⟨tail, rfl, Gains.refl roomy⟩
  | cons event events inductionHypothesis =>
      obtain ⟨middle, written, first⟩ := writeFrame_of_roomy roomy event
      obtain ⟨next, rest, second⟩ := inductionHypothesis first.roomy
      refine ⟨next, ?_, first.trans second⟩
      rw [writeFrames, written]
      exact rest

end Tail

/-! ## The open log -/

namespace Journal

/-- Writing took nothing but the frames of these events, and counted them. -/
structure Gains (journal next : Journal) (events : List Event) : Prop where
  tail : journal.tail.Gains next.tail (frames events)
  appends : next.appends = journal.appends + events.length
  spare : next.spare = journal.spare

variable {journal : Journal}

namespace Gains

variable {middle next : Journal} {front back : List Event}

theorem refl (roomy : journal.tail.file.full = false) : journal.Gains journal [] :=
  ⟨Tail.Gains.refl roomy, rfl, rfl⟩

theorem trans (first : journal.Gains middle front) (second : middle.Gains next back) :
    journal.Gains next (front ++ back) where
  tail := by
    rw [frames_append]
    exact first.tail.trans second.tail
  appends := by
    rw [second.appends, first.appends, List.length_append]
    omega
  spare := second.spare.trans first.spare

end Gains

theorem append_of_roomy (roomy : journal.tail.file.full = false) (event : Event) :
    ∃ next, journal.append event = (.ok (), next) ∧ journal.Gains next [event] := by
  obtain ⟨tail, written, gains⟩ := Tail.writeFrame_of_roomy roomy event
  refine ⟨{ journal with tail, appends := journal.appends + 1 }, ?_, ?_, rfl, rfl⟩
  · rw [append, written]
  · simpa using gains

theorem appendAll_of_roomy
    (roomy : journal.tail.file.full = false) (events : List Event) :
    ∃ next, journal.appendAll events = (.ok (), next) ∧ journal.Gains next events := by
  induction events generalizing journal with
  | nil => exact ⟨journal, rfl, Gains.refl roomy⟩
  | cons event events inductionHypothesis =>
      obtain ⟨middle, appended, first⟩ := append_of_roomy roomy event
      obtain ⟨next, rest, second⟩ := inductionHypothesis first.tail.roomy
      refine ⟨next, ?_, first.trans second⟩
      rw [appendAll, appended]
      exact rest

/-- A batch that can be written and flushed leaves nothing in the buffer. -/
theorem commit_of_roomy
    (roomy : journal.tail.file.full = false) (loose : journal.tail.file.stuck = false)
    (events : List Event) :
    ∃ next, journal.commit events = (.ok (), next) ∧ journal.Gains next events ∧
      next.tail.pending = .empty := by
  obtain ⟨middle, appended, gains⟩ := appendAll_of_roomy roomy events
  have unstuck : middle.tail.file.stuck = false := gains.tail.stuck.trans loose
  refine ⟨{ middle with tail := middle.tail.drained }, ?_, ⟨?_, gains.appends, gains.spare⟩, rfl⟩
  · simp only [commit, appended, flush, unstuck, Bool.false_eq_true, if_false,
      Tail.drain_of_roomy gains.tail.roomy]
  · have drained := gains.tail.trans (Tail.gains_drained gains.tail.roomy)
    rwa [List.append_nil] at drained

/-- A batch that cannot be flushed is refused, but what was written of it
stays. -/
theorem commit_of_stuck
    (roomy : journal.tail.file.full = false) (stuck : journal.tail.file.stuck = true)
    (events : List Event) :
    ∃ next, journal.commit events = (.error .noSpace, next) ∧ journal.Gains next events := by
  obtain ⟨next, appended, gains⟩ := appendAll_of_roomy roomy events
  refine ⟨next, ?_, gains⟩
  have stays : next.tail.file.stuck = true := gains.tail.stuck.trans stuck
  simp only [commit, appended, flush, stays, if_true]

/-- The spare file is no matter of writing. -/
theorem spare_append (journal : Journal) (event : Event) :
    (journal.append event).2.spare = journal.spare := by
  unfold append
  split <;> rfl

theorem spare_appendAll (journal : Journal) (events : List Event) :
    (journal.appendAll events).2.spare = journal.spare := by
  induction events generalizing journal with
  | nil => rfl
  | cons event events inductionHypothesis =>
      have first := journal.spare_append event
      rw [appendAll]
      split
      · rename_i next appended
        rw [appended] at first
        exact (inductionHypothesis next).trans first
      · rename_i fault next appended
        rw [appended] at first
        exact first

theorem spare_commit (journal : Journal) (events : List Event) :
    (journal.commit events).2.spare = journal.spare := by
  have flushed : ∀ other : Journal, other.flush.2.spare = other.spare := by
    intro other
    unfold flush
    split <;> rfl
  exact (flushed _).trans (journal.spare_appendAll events)

/-- Closing writes down the rest of what was written. -/
theorem close_of_roomy (roomy : journal.tail.file.full = false) :
    journal.close = ⟨.file journal.tail.drained.file, journal.spare⟩ := by
  rw [close, Tail.drain_of_roomy roomy]

end Journal

/-! ## Writing to a full file

A full file stays as it is. A frame goes no further than into the buffer, and what
is in the buffer cannot be flushed. -/

theorem eq_empty_of_isEmpty {bytes : ByteArray} (empty : bytes.isEmpty = true) :
    bytes = .empty := by
  simpa [ByteArray.isEmpty] using empty

/-- No part of a frame is empty. -/
theorem frameParts_ne_nil (event : Event) : ∀ part ∈ frameParts event, part ≠ [] := by
  have word : ∀ value, bytesOfNat 4 value ≠ [] := fun value nothing =>
    absurd (congrArg List.length nothing) (by rw [length_bytesOfNat]; decide)
  have payload : encode event ≠ [] := by
    cases event with
    | created reservation => exact List.append_ne_nil_of_left_ne_nil (word 0) _
    | deleted id resource =>
        exact List.append_ne_nil_of_left_ne_nil
          (List.append_ne_nil_of_left_ne_nil (word 1) _) _
  simpa [frameParts, word] using payload

theorem File.append_of_full {file : File} (full : file.full = true) (chunk : ByteArray) :
    file.append chunk = (if chunk.isEmpty then .ok () else .error .noSpace, file) := by
  obtain ⟨bytes, _, stuck⟩ := file
  subst full
  rw [append]
  cases empty : chunk.isEmpty with
  | false => rfl
  | true =>
      obtain rfl := eq_empty_of_isEmpty empty
      simp

namespace Tail

/-- Writing to a full file has failed, or has left something in the buffer. -/
structure Jams (tail : Tail) (outcome : Outcome) (next : Tail) : Prop where
  file : next.file = tail.file
  jammed : outcome = .error .noSpace ∨ outcome = .ok () ∧ next.pending.isEmpty = false

variable {tail : Tail}

theorem drain_of_full (full : tail.file.full = true) :
    tail.drain =
      (if tail.pending.isEmpty then .ok () else .error .noSpace, tail) := by
  obtain ⟨file, pending⟩ := tail
  have append := File.append_of_full full pending
  rw [drain, append]
  cases empty : pending.isEmpty with
  | false => rfl
  | true =>
      obtain rfl := eq_empty_of_isEmpty empty
      rfl

theorem place_of_full
    (full : tail.file.full = true) {chunk : ByteArray} (solid : chunk.isEmpty = false) :
    tail.Jams (tail.place chunk).1 (tail.place chunk).2 := by
  by_cases large : capacity ≤ chunk.size
  · rw [place, if_pos large, File.append_of_full full, solid]
    exact ⟨rfl, Or.inl rfl⟩
  · rw [place, if_neg large]
    refine ⟨rfl, Or.inr ⟨rfl, ?_⟩⟩
    simp only [ByteArray.isEmpty, ByteArray.size_append] at solid ⊢
    simp only [beq_eq_false_iff_ne] at solid ⊢
    omega

theorem write_of_full
    (full : tail.file.full = true) {chunk : ByteArray} (solid : chunk.isEmpty = false) :
    tail.Jams (tail.write chunk).1 (tail.write chunk).2 := by
  have placed := place_of_full full solid
  by_cases tight : capacity - tail.pending.size < chunk.size
  · rw [write, if_pos tight, drain_of_full full]
    cases tail.pending.isEmpty with
    | false => exact ⟨rfl, Or.inl rfl⟩
    | true => exact placed
  · rw [write, if_neg tight]
    exact placed

theorem writeAll_of_full
    (full : tail.file.full = true) {chunks : List (List UInt8)} (some : chunks ≠ [])
    (solid : ∀ chunk ∈ chunks, chunk ≠ []) :
    tail.Jams (tail.writeAll chunks).1 (tail.writeAll chunks).2 := by
  induction chunks generalizing tail with
  | nil => exact absurd rfl some
  | cons chunk chunks inductionHypothesis =>
      rw [List.forall_mem_cons] at solid
      have first : (ByteArray.mk chunk.toArray).isEmpty = false := by
        simpa [ByteArray.isEmpty, ByteArray.size] using solid.1
      have jams := write_of_full full first
      rw [writeAll]
      cases written : tail.write ⟨chunk.toArray⟩ with
      | mk outcome next =>
          rw [written] at jams
          cases outcome with
          | error fault => exact jams
          | ok done =>
              cases chunks with
              | nil => exact jams
              | cons second others =>
                  have still : next.file.full = true := by rw [jams.file, full]
                  have rest := inductionHypothesis still (List.cons_ne_nil _ _) solid.2
                  exact ⟨rest.file.trans jams.file, rest.jammed⟩

end Tail

namespace Journal

variable {journal : Journal}

/-- A full file takes no event, and nothing of one. -/
theorem commit_of_full (full : journal.tail.file.full = true) (event : Event) :
    ∃ next, journal.commit [event] = (.error .noSpace, next) ∧
      next.tail.file = journal.tail.file ∧ next.spare = journal.spare := by
  have jams := Tail.writeAll_of_full full (by simp [frameParts]) (frameParts_ne_nil event)
  cases written : journal.tail.writeAll (frameParts event) with
  | mk outcome tail =>
      rw [written] at jams
      have still : tail.file.full = true := by rw [jams.file, full]
      have drained := Tail.drain_of_full still
      rcases jams.jammed with rfl | ⟨rfl, left⟩
      · refine ⟨{ journal with tail }, ?_, jams.file, rfl⟩
        simp only [commit, appendAll, append, Tail.writeFrame, written, flush, drained]
        split <;> rfl
      · refine ⟨{ journal with tail, appends := journal.appends + 1 }, ?_, jams.file, rfl⟩
        simp only [commit, appendAll, append, Tail.writeFrame, written, flush, drained, left]
        split <;> rfl

/-- An event is acknowledged only where it went to a file that takes it, as the last of
what is there. -/
theorem gains_of_commit
    {event : Event} {next : Journal} (committed : journal.commit [event] = (.ok (), next)) :
    journal.Gains next [event] ∧ next.tail.pending = .empty := by
  cases full : journal.tail.file.full with
  | true =>
      obtain ⟨other, refused, _⟩ := commit_of_full full event
      rw [committed] at refused
      cases refused
  | false =>
      cases stuck : journal.tail.file.stuck with
      | true =>
          obtain ⟨other, refused, _⟩ := commit_of_stuck full stuck [event]
          rw [committed] at refused
          cases refused
      | false =>
          obtain ⟨other, again, gains, settled⟩ := commit_of_roomy full stuck [event]
          rw [committed] at again
          cases again
          exact ⟨gains, settled⟩

/-- Closing leaves a full file as it is. What is in the buffer is lost. -/
theorem close_of_full (full : journal.tail.file.full = true) :
    journal.close = ⟨.file journal.tail.file, journal.spare⟩ := by
  rw [close, Tail.drain_of_full full]

end Journal

/-! ## Compaction -/

theorem writeSpare_of_ne_directory
    {spare : Node} (clear : spare ≠ .directory) (events : List Event) :
    ∃ file, writeSpare spare events = (.ok (), .file file) ∧
      file.full = false ∧ file.stuck = false ∧ file.bytes.data.toList = frames events := by
  have roomy : (Tail.mk {} .empty).file.full = false := rfl
  obtain ⟨tail, written, gains⟩ := Tail.writeFrames_of_roomy roomy events
  refine ⟨tail.drained.file, ?_, gains.roomy, gains.stuck, ?_⟩
  · cases spare with
    | directory => exact absurd rfl clear
    | absent => simp only [writeSpare, written, Tail.drain_of_roomy gains.roomy]
    | file file => simp only [writeSpare, written, Tail.drain_of_roomy gains.roomy]
  · rw [Tail.bytes_drained, gains.stream]
    rfl

/-- The frames of events take the place of the log. If they cannot be opened there, the
old file is written to as before. -/
theorem Handle.compact_of_ne_directory
    {handle : Handle} (clear : handle.journal.spare ≠ .directory) (events : List Event) :
    ∃ file, file.full = false ∧ file.stuck = false ∧ file.bytes.data.toList = frames events ∧
      handle.compact (.ok ()) events = (.ok (), { journal := ⟨⟨file, .empty⟩, 0, .absent⟩ }) ∧
      ∀ fault, handle.compact (.error fault) events =
        (.error fault, ⟨{ handle.journal with spare := .absent }, some file⟩) := by
  obtain ⟨file, written, roomy, loose, bytes⟩ := writeSpare_of_ne_directory clear events
  refine ⟨file, roomy, loose, bytes, ?_, fun fault => ?_⟩
  · simp only [compact, written]
    rfl
  · simp only [compact, written]
    rfl

namespace Journal

/-- Compaction fails only where a directory stands in the way of the spare file,
and then changes nothing. -/
theorem compact_of_directory
    {journal : Journal} (blocked : journal.spare = .directory) (events : List Event) :
    journal.compact events = (.error .isDirectory, journal) := by
  obtain ⟨tail, appends, spare⟩ := journal
  subst blocked
  rfl

/-- Otherwise the frames of the events take the place of the log. -/
theorem compact_of_ne_directory
    {journal : Journal} (clear : journal.spare ≠ .directory) (events : List Event) :
    ∃ file, journal.compact events = (.ok (), ⟨⟨file, .empty⟩, 0, .absent⟩) ∧
      file.full = false ∧ file.stuck = false ∧ file.bytes.data.toList = frames events := by
  have own : (Handle.mk journal none).journal.spare ≠ .directory := clear
  obtain ⟨file, roomy, loose, bytes, compacted, _⟩ := Handle.compact_of_ne_directory own events
  refine ⟨file, ?_, roomy, loose, bytes⟩
  simp only [compact, compacted]

end Journal

/-! ## Recovery -/

/-- Recovery reads the events of a log of whole frames and keeps exactly the
frames that it reads. -/
theorem recover_frames
    {file : File} (spare : Node) {events : List Event}
    (addressable : ∀ event ∈ events, event.Addressable)
    (bytes : file.bytes.data.toList = frames events) :
    ∃ kept, Directory.recover ⟨.file file, spare⟩ =
        .ok (readableFront events, ⟨.file { file with bytes := kept }, spare⟩) ∧
      kept.data.toList = frames (readableFront events) := by
  have found := replay_frames addressable bytes
  refine ⟨file.bytes.extract 0 (frames (readableFront events)).length, ?_, ?_⟩
  · simp only [Directory.recover, Directory.replay, found]
  · obtain ⟨rest, split⟩ := readableFront_prefix events
    have framed := congrArg frames split
    rw [frames_append] at framed
    rw [ByteArray.data_extract, Array.toList_extract, List.extract_eq_take_drop, bytes, ← framed]
    simp

/-- A log that is closed and opened again goes on behind the frames that replay
can read. -/
theorem reopen_frames
    {journal : Journal} {events : List Event}
    (roomy : journal.tail.file.full = false)
    (addressable : ∀ event ∈ events, event.Addressable)
    (written : journal.tail.stream = frames events) :
    ∃ directory next, journal.close.recover = .ok (readableFront events, directory) ∧
      directory.openJournal = .ok next ∧
      next.tail.file.full = false ∧ next.tail.file.stuck = journal.tail.file.stuck ∧
      next.tail.stream = frames (readableFront events) := by
  have bytes : journal.tail.drained.file.bytes.data.toList = frames events := by
    rw [Tail.bytes_drained, written]
  obtain ⟨kept, recovered, keptBytes⟩ := recover_frames journal.spare addressable bytes
  rw [← Journal.close_of_roomy roomy] at recovered
  refine ⟨_, _, recovered, rfl, roomy, rfl, ?_⟩
  rw [Tail.stream, keptBytes]
  simp

end Reservations.Log
