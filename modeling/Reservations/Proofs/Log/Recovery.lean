import Reservations.Proofs.Log.Journal

namespace Reservations.Log

/-! ## Recovery of any bytes

Whatever the bytes of a log are, replay looks at no byte behind the frames that it
reads, but for the one attempt that ends it. So the frames can be cut out and read
again, and more frames can be put behind them. -/

theorem length_toList_data (bytes : ByteArray) : bytes.data.toList.length = bytes.size := by
  rw [Array.length_toList, ByteArray.size_data]

theorem word?_eq_some_iff {bytes : ByteArray} {offset value : Nat} :
    word? bytes offset = some value ↔
      offset + 4 ≤ bytes.size ∧ natOfBytes (slice bytes offset (offset + 4)) = value := by
  rw [word?]
  split
  · rename_i inside
    simp [inside]
  · rename_i outside
    simp [outside]

/-- A frame ends where the bytes end, or before. -/
theorem frameAt?_inside
    {bytes : ByteArray} {offset length : Nat} {event : Event}
    (found : frameAt? bytes offset = some (event, length)) :
    offset + (length + 8) ≤ bytes.size := by
  obtain ⟨_, _, behind, _⟩ := frameAt?_eq_some_iff.mp found
  obtain ⟨inside, _⟩ := word?_eq_some_iff.mp behind
  omega

/-- The intact front ends where replay has begun, or behind it, and not behind the
end of the bytes. -/
theorem validLength_replayFrom
    {bytes : ByteArray} {offset : Nat} (inside : offset ≤ bytes.size) (earlier : Array Event) :
    offset ≤ (replayFrom bytes offset earlier).validLength ∧
      (replayFrom bytes offset earlier).validLength ≤ bytes.size := by
  fun_induction replayFrom bytes offset earlier with
  | case1 offset earlier before event length found inductionHypothesis =>
      have bounds := inductionHypothesis (frameAt?_inside found)
      exact ⟨by omega, bounds.2⟩
  | case2 offset earlier before nothing => exact ⟨Nat.le_refl _, inside⟩
  | case3 offset earlier behind => exact ⟨Nat.le_refl _, inside⟩

theorem validLength_le_size (bytes : ByteArray) : (replay bytes).validLength ≤ bytes.size :=
  (validLength_replayFrom (Nat.zero_le _) #[]).2

/-! ### Bytes with another end -/

section Kept

variable {bytes other : ByteArray} {kept : Nat} {rest : List UInt8}

theorem slice_of_kept
    (within : kept ≤ bytes.size) (split : other.data.toList = bytes.data.toList.take kept ++ rest)
    {start stop : Nat} (ordered : start ≤ stop) (before : stop ≤ kept) :
    slice other start stop = slice bytes start stop := by
  have long : kept ≤ bytes.data.toList.length := by rwa [length_toList_data]
  have reach : start + (stop - start) = stop := by omega
  have front : (bytes.data.toList.take kept).length = kept := List.length_take_of_le long
  rw [slice_eq_take_drop, slice_eq_take_drop, List.take_drop, List.take_drop, reach, split,
    List.take_append_of_le_length (by omega), List.take_take, Nat.min_eq_left before]

theorem size_of_kept
    (within : kept ≤ bytes.size)
    (split : other.data.toList = bytes.data.toList.take kept ++ rest) :
    kept ≤ other.size := by
  rw [← length_toList_data, split, List.length_append, List.length_take, length_toList_data]
  omega

theorem word?_of_kept
    (within : kept ≤ bytes.size) (split : other.data.toList = bytes.data.toList.take kept ++ rest)
    {offset : Nat} (before : offset + 4 ≤ kept) :
    word? other offset = word? bytes offset := by
  have size := size_of_kept within split
  rw [word?, word?, if_pos (by omega), if_pos (by omega),
    slice_of_kept within split (by omega) before]

/-- A frame is found again where nothing up to its end has changed. -/
theorem frameAt?_of_kept
    (within : kept ≤ bytes.size) (split : other.data.toList = bytes.data.toList.take kept ++ rest)
    {offset length : Nat} {event : Event}
    (found : frameAt? bytes offset = some (event, length))
    (before : offset + (length + 8) ≤ kept) :
    frameAt? other offset = some (event, length) := by
  rw [frameAt?_eq_some_iff] at found ⊢
  rwa [word?_of_kept within split (by omega), word?_of_kept within split (by omega),
    slice_of_kept within split (by omega) (by omega)]

/-- By induction on what replay has read: as long as the intact front is kept, replay
gets to its end with the same events. -/
theorem replayFrom_of_kept
    (within : kept ≤ bytes.size) (split : other.data.toList = bytes.data.toList.take kept ++ rest)
    {offset : Nat} (earlier : Array Event)
    (front : (replayFrom bytes offset earlier).validLength = kept) :
    replayFrom other offset earlier =
      replayFrom other kept (replayFrom bytes offset earlier).events.toArray := by
  fun_induction replayFrom bytes offset earlier with
  | case1 offset earlier before event length found inductionHypothesis =>
      have bounds := validLength_replayFrom (frameAt?_inside found) (earlier.push event)
      have size := size_of_kept within split
      rw [replayFrom, dif_pos (by omega), frameAt?_of_kept within split found (by omega)]
      exact inductionHypothesis front
  | case2 offset earlier before nothing => rw [← front]
  | case3 offset earlier behind => rw [← front]

end Kept

/-- What stands behind the intact front does not matter until replay gets there, and
then replay goes on with the frames that follow. -/
theorem replay_onward
    {bytes other : ByteArray} {events : List Event} {rest : List UInt8}
    (readable : ∀ event ∈ events, Readable event)
    (split : other.data.toList =
      bytes.data.toList.take (replay bytes).validLength ++ frames events ++ rest) :
    replay other =
      replayFrom other ((replay bytes).validLength + (frames events).length)
        ((replay bytes).events ++ events).toArray := by
  have within := validLength_le_size bytes
  have front : (bytes.data.toList.take (replay bytes).validLength).length =
      (replay bytes).validLength :=
    List.length_take_of_le (by rwa [length_toList_data])
  have again : replay other =
      replayFrom other (replay bytes).validLength (replay bytes).events.toArray :=
    replayFrom_of_kept within (split.trans (List.append_assoc _ _ _)) #[] rfl
  have added := replayFrom_frames (bytes.data.toList.take (replay bytes).validLength) rest
    readable split (replay bytes).events.toArray
  rw [front] at added
  rw [again, added]
  simp

theorem replay_append_frames
    {bytes other : ByteArray} {events : List Event}
    (readable : ∀ event ∈ events, Readable event)
    (split : other.data.toList =
      bytes.data.toList.take (replay bytes).validLength ++ frames events) :
    replay other = ⟨(replay bytes).events ++ events, other.size⟩ := by
  have front : (bytes.data.toList.take (replay bytes).validLength).length =
      (replay bytes).validLength :=
    List.length_take_of_le (by
      rw [length_toList_data]
      exact validLength_le_size bytes)
  have whole : other.size = (replay bytes).validLength + (frames events).length := by
    rw [← length_toList_data, split, List.length_append, front]
  rw [replay_onward readable (split.trans (List.append_nil _).symm), ← whole,
    replayFrom_of_none (frameAt?_size other)]

section Front

variable {bytes kept : ByteArray}

theorem size_of_front
    (front : kept.data.toList = bytes.data.toList.take (replay bytes).validLength) :
    kept.size = (replay bytes).validLength := by
  rw [← length_toList_data, front, List.length_take_of_le]
  rw [length_toList_data]
  exact validLength_le_size bytes

/-- The intact front on its own is read as it was. -/
theorem replay_take
    (front : kept.data.toList = bytes.data.toList.take (replay bytes).validLength) :
    replay kept = replay bytes := by
  have nothing : ∀ event ∈ ([] : List Event), Readable event := by simp
  rw [replay_append_frames nothing (by simpa using front), size_of_front front]
  simp

end Front

/-! ### Torn logs -/

/-- The longest front of some events whose frames have room in a number of bytes. -/
structure LongestFront (events : List Event) (room : Nat) (front : List Event) : Prop where
  start : front <+: events
  fits : (frames front).length ≤ room
  longest : ∀ other, other <+: events → (frames other).length ≤ room → other <+: front

/-- What a torn log holds: the frames that have room, and of the next frame, if there
is one, less than the whole. -/
theorem exists_longestFront (events : List Event) (room : Nat) :
    ∃ front torn, LongestFront events room front ∧
      (frames events).take room = frames front ++ torn ∧
      (torn = [] ∨ ∃ event ∈ events, ∃ part,
        part < (frame event).length ∧ torn = (frame event).take part) := by
  induction events generalizing room with
  | nil =>
      refine ⟨[], [], ⟨List.prefix_refl [], Nat.zero_le _, ?_⟩, by simp, Or.inl rfl⟩
      intro other start _
      exact start
  | cons event events inductionHypothesis =>
      by_cases fits : (frame event).length ≤ room
      -- The first frame is whole, and the others share the room that is left.
      · obtain ⟨front, torn, longest, parts, short⟩ :=
          inductionHypothesis (room - (frame event).length)
        refine ⟨event :: front, torn, ⟨?_, ?_, ?_⟩, ?_, ?_⟩
        · exact (List.prefix_cons_inj event).mpr longest.start
        · have shorter := longest.fits
          rw [frames_cons, List.length_append]
          omega
        · intro other start within
          rcases List.prefix_cons_iff.mp start with rfl | ⟨others, rfl, later⟩
          · exact List.nil_prefix
          · rw [frames_cons, List.length_append] at within
            exact (List.prefix_cons_inj event).mpr (longest.longest others later (by omega))
        · rw [frames_cons, frames_cons, List.take_append, List.take_of_length_le fits, parts,
            List.append_assoc]
        · rcases short with whole | ⟨next, member, part, less, cut⟩
          · exact Or.inl whole
          · exact Or.inr ⟨next, List.mem_cons_of_mem _ member, part, less, cut⟩
      -- It is not, and then no other front but the empty one has room.
      · refine ⟨[], (frame event).take room, ⟨List.nil_prefix, Nat.zero_le _, ?_⟩, ?_, ?_⟩
        · intro other start within
          rcases List.prefix_cons_iff.mp start with rfl | ⟨others, rfl, _⟩
          · exact List.prefix_refl []
          · rw [frames_cons, List.length_append] at within
            omega
        · rw [frames_cons, List.take_append_of_le_length (by omega), frames_nil, List.nil_append]
        · exact Or.inr ⟨event, List.mem_cons_self, room, by omega, rfl⟩

/-- A frame of which something is missing gives nothing back: its length says where it
would have to end. -/
theorem frameAt?_of_torn
    {bytes : ByteArray} {front : List UInt8} {event : Event} {part : Nat}
    (readable : Readable event) (less : part < (frame event).length)
    (split : bytes.data.toList = front ++ (frame event).take part) :
    frameAt? bytes front.length = none := by
  have size : bytes.size = front.length + part := by
    rw [← length_toList_data, split, List.length_append, List.length_take_of_le (by omega)]
  rw [Option.eq_none_iff_forall_ne_some]
  rintro ⟨other, length⟩ found
  have inside := frameAt?_inside found
  obtain ⟨atOffset, _, _, _⟩ := frameAt?_eq_some_iff.mp found
  have written : (frame event).take part =
      bytesOfNat 4 (encode event).length ++
        (encode event ++ bytesOfNat 4 (checksum (encode event)).toNat).take (part - 4) := by
    rw [frame_eq, List.append_assoc, List.take_append, length_bytesOfNat,
      List.take_of_length_le (by rw [length_bytesOfNat]; omega)]
  rw [word?_of_split front _ _ (by rw [split, written, List.append_assoc])] at atOffset
  have small : (encode event).length < Nat.pow 256 4 := Nat.lt_of_le_of_lt readable (by decide)
  rw [Nat.mod_eq_of_lt small, Option.some.injEq] at atOffset
  rw [length_frame] at less
  omega

/-- Wherever frames behind an intact front are torn, those before the tear are read. -/
theorem replay_append_torn
    {bytes other : ByteArray} {events : List Event} {room : Nat}
    (readable : ∀ event ∈ events, Readable event)
    (split : other.data.toList =
      bytes.data.toList.take (replay bytes).validLength ++ (frames events).take room) :
    ∃ front, LongestFront events room front ∧
      replay other =
        ⟨(replay bytes).events ++ front, (replay bytes).validLength + (frames front).length⟩ := by
  obtain ⟨front, torn, longest, parts, short⟩ := exists_longestFront events room
  rw [parts, ← List.append_assoc] at split
  have whole : (bytes.data.toList.take (replay bytes).validLength ++ frames front).length =
      (replay bytes).validLength + (frames front).length := by
    rw [List.length_append, List.length_take_of_le]
    rw [length_toList_data]
    exact validLength_le_size bytes
  have stops :
      frameAt? other ((replay bytes).validLength + (frames front).length) = none := by
    rw [← whole]
    rcases short with rfl | ⟨event, member, part, less, rfl⟩
    · have size : other.size =
          (bytes.data.toList.take (replay bytes).validLength ++ frames front).length := by
        rw [← length_toList_data, split, List.append_nil]
      rw [← size]
      exact frameAt?_size other
    · exact frameAt?_of_torn (readable event member) less split
  refine ⟨front, longest, ?_⟩
  rw [replay_onward (fun event member => readable event (longest.start.subset member)) split,
    replayFrom_of_none stops]

/-- Wherever a log of whole frames is torn, the frames before the tear are read. -/
theorem replay_take_frames
    {bytes : ByteArray} {events : List Event} {room : Nat}
    (readable : ∀ event ∈ events, Readable event)
    (torn : bytes.data.toList = (frames events).take room) :
    ∃ front, LongestFront events room front ∧
      replay bytes = ⟨front, (frames front).length⟩ := by
  have split : bytes.data.toList =
      ByteArray.empty.data.toList.take (replay .empty).validLength
        ++ (frames events).take room := by
    rw [torn, replay_empty]
    rfl
  obtain ⟨front, longest, found⟩ := replay_append_torn readable split
  refine ⟨front, longest, ?_⟩
  rw [found, replay_empty, List.nil_append, Nat.zero_add]

/-! ### Writing behind what was recovered -/

/-- What can be done with an open log step by step. -/
inductive Writing where
  | append (event : Event)
  | flush

/-- The events that some steps add. -/
def appended (writings : List Writing) : List Event :=
  writings.filterMap fun
    | .append event => some event
    | .flush => none

namespace Journal

def write (journal : Journal) : Writing → Outcome × Journal
  | .append event => journal.append event
  | .flush => journal.flush

/-- Takes steps in order, up to the first that fails. -/
def writeAll (journal : Journal) : List Writing → Outcome × Journal
  | [] => (.ok (), journal)
  | writing :: writings =>
      match journal.write writing with
      | (.ok (), journal) => journal.writeAll writings
      | (.error fault, journal) => (.error fault, journal)

variable {journal : Journal}

theorem flush_of_roomy
    (roomy : journal.tail.file.full = false) (loose : journal.tail.file.stuck = false) :
    journal.flush = (.ok (), { journal with tail := journal.tail.drained }) := by
  simp only [flush, loose, Bool.false_eq_true, if_false, Tail.drain_of_roomy roomy]

theorem write_of_roomy
    (roomy : journal.tail.file.full = false) (loose : journal.tail.file.stuck = false)
    (writing : Writing) :
    ∃ next, journal.write writing = (.ok (), next) ∧ journal.Gains next (appended [writing]) := by
  cases writing with
  | append event => exact append_of_roomy roomy event
  | flush => exact ⟨_, flush_of_roomy roomy loose, Tail.gains_drained roomy, rfl, rfl⟩

theorem writeAll_gains
    (roomy : journal.tail.file.full = false) (loose : journal.tail.file.stuck = false)
    (writings : List Writing) :
    ∃ next, journal.writeAll writings = (.ok (), next) ∧
      journal.Gains next (appended writings) := by
  induction writings generalizing journal with
  | nil => exact ⟨journal, rfl, Gains.refl roomy⟩
  | cons writing writings inductionHypothesis =>
      obtain ⟨middle, written, first⟩ := write_of_roomy roomy loose writing
      obtain ⟨next, rest, second⟩ :=
        inductionHypothesis first.tail.roomy (first.tail.stuck.trans loose)
      have split : appended (writing :: writings) = appended [writing] ++ appended writings :=
        List.filterMap_append (l := [writing])
      refine ⟨next, ?_, ?_⟩
      · simp only [writeAll, written, rest]
      · rw [split]
        exact first.trans second

theorem writeAll_append
    {front back : List Writing} {middle : Journal}
    (written : journal.writeAll front = (.ok (), middle)) :
    journal.writeAll (front ++ back) = middle.writeAll back := by
  induction front generalizing journal with
  | nil =>
      cases written
      rfl
  | cons writing front inductionHypothesis =>
      rw [writeAll] at written
      rw [List.cons_append, writeAll]
      cases step : journal.write writing with
      | mk outcome next =>
          rw [step] at written
          cases outcome with
          | ok done => exact inductionHypothesis written
          | error fault => cases written

/-- What is flushed last is in the file. -/
theorem writeAll_of_roomy
    (roomy : journal.tail.file.full = false) (loose : journal.tail.file.stuck = false)
    (writings : List Writing) :
    ∃ next, journal.writeAll (writings ++ [.flush]) = (.ok (), next) ∧
      next.tail.file.bytes.data.toList = journal.tail.stream ++ frames (appended writings) ∧
      next.tail.pending = .empty := by
  obtain ⟨middle, written, gains⟩ := writeAll_gains roomy loose writings
  refine ⟨{ middle with tail := middle.tail.drained }, ?_, ?_, rfl⟩
  · rw [writeAll_append written]
    simp only [writeAll, write,
      flush_of_roomy gains.tail.roomy (gains.tail.stuck.trans loose)]
  · rw [Tail.bytes_drained, gains.tail.stream]

end Journal

/-- Whatever the bytes of a log are, recovery keeps exactly the intact front that
replay finds, which a second recovery leaves as it is, and what is then written and
flushed is read behind it. -/
theorem recover_stable (file : File) (spare : Node) :
    (replay file.bytes).validLength ≤ file.bytes.size ∧
      ∃ kept : ByteArray,
        kept.data.toList = file.bytes.data.toList.take (replay file.bytes).validLength ∧
        Directory.recover ⟨.file file, spare⟩ =
          .ok ((replay file.bytes).events, ⟨.file { file with bytes := kept }, spare⟩) ∧
        replay kept = replay file.bytes ∧
        Directory.recover ⟨.file { file with bytes := kept }, spare⟩ =
          .ok ((replay file.bytes).events, ⟨.file { file with bytes := kept }, spare⟩) ∧
        (file.full = false → file.stuck = false →
          ∃ journal, Directory.openJournal ⟨.file { file with bytes := kept }, spare⟩ =
              .ok journal ∧
            ∀ writings, (∀ event ∈ appended writings, Readable event) →
              ∃ next, journal.writeAll (writings ++ [.flush]) = (.ok (), next) ∧
                replay next.tail.file.bytes =
                  ⟨(replay file.bytes).events ++ appended writings,
                    next.tail.file.bytes.size⟩) := by
  obtain ⟨kept, cut⟩ : ∃ kept, file.bytes.extract 0 (replay file.bytes).validLength = kept :=
    ⟨_, rfl⟩
  have front : kept.data.toList = file.bytes.data.toList.take (replay file.bytes).validLength := by
    rw [← cut]
    simp [List.extract_eq_take_drop]
  have again : replay kept = replay file.bytes := replay_take front
  have unchanged : kept.extract 0 (replay file.bytes).validLength = kept := by
    rw [← size_of_front front, ByteArray.extract_zero_size]
  refine ⟨validLength_le_size file.bytes, kept, front, ?_, again, ?_, ?_⟩
  · simp only [Directory.recover, Directory.replay, cut]
  · simp only [Directory.recover, Directory.replay, again, unchanged]
  · intro roomy loose
    -- The log is opened at the end of what was kept, with nothing in the buffer.
    let opened : Journal := ⟨⟨{ file with bytes := kept }, .empty⟩, 0, spare⟩
    refine ⟨opened, rfl, fun writings readable => ?_⟩
    obtain ⟨next, written, stored, _⟩ : ∃ next,
        opened.writeAll (writings ++ [.flush]) = (.ok (), next) ∧ _ :=
      Journal.writeAll_of_roomy roomy loose writings
    refine ⟨next, written, replay_append_frames readable ?_⟩
    rw [stored, Tail.stream, front]
    exact congrArg (· ++ _) (List.append_nil _)

/-- Seven bytes that promise a payload of forty and break off after three. -/
def brokenOff : ByteArray :=
  ⟨#[40, 0, 0, 0, 1, 2, 3]⟩

theorem replay_brokenOff : replay brokenOff = ⟨[], 0⟩ := by
  have nothing : frameAt? brokenOff 0 = none := by decide
  rw [replay, replayFrom_of_none nothing]

/-- Nothing of them is kept, and two removals are flushed one by one in their place. -/
theorem recover_stable_brokenOff :
    ∃ kept journal next,
      kept.data.toList = [] ∧
      Directory.recover ⟨.file { bytes := brokenOff }, .absent⟩ =
        .ok ([], ⟨.file { bytes := kept }, .absent⟩) ∧
      Directory.openJournal ⟨.file { bytes := kept }, .absent⟩ = .ok journal ∧
      journal.writeAll
          [.append (.deleted (.ofNat 1) (.ofNat 7)), .flush,
            .append (.deleted (.ofNat 2) (.ofNat 7)), .flush] = (.ok (), next) ∧
      (replay next.tail.file.bytes).events =
        [.deleted (.ofNat 1) (.ofNat 7), .deleted (.ofNat 2) (.ofNat 7)] := by
  obtain ⟨_, kept, front, recovered, _, _, writable⟩ :=
    recover_stable { bytes := brokenOff } .absent
  obtain ⟨journal, opened, written⟩ := writable rfl rfl
  simp only [replay_brokenOff] at front recovered written
  obtain ⟨next, wrote, found⟩ :=
    written [.append (.deleted (.ofNat 1) (.ofNat 7)), .flush,
        .append (.deleted (.ofNat 2) (.ofNat 7))] <| by
      simp [appended, readable_deleted]
  refine ⟨kept, journal, next, front, recovered, opened, wrote, ?_⟩
  rw [found]
  rfl

end Reservations.Log
