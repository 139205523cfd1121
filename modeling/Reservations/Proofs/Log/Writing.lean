import Reservations.Proofs.Log.Recovery

namespace Reservations.Log

/-! ## Reading a log while it is written

The buffer is written out whenever it has too little room, also within a frame. So
before a flush the file ends anywhere, but what it ends with is the front of what was
added, and everything that was flushed stands before it. -/

/-- The file holds what it held, and maybe more behind it. -/
def File.Grows (file next : File) : Prop :=
  file.bytes.data.toList <+: next.bytes.data.toList

namespace File

variable {file middle next : File}

theorem Grows.refl (file : File) : file.Grows file :=
  List.prefix_refl _

theorem Grows.trans (first : file.Grows middle) (second : middle.Grows next) :
    file.Grows next :=
  List.IsPrefix.trans first second

theorem grows_append (file : File) (chunk : ByteArray) : file.Grows (file.append chunk).2 := by
  rw [append]
  split
  · exact Grows.refl file
  · simp [Grows]

end File

namespace Tail

theorem grows_drain (tail : Tail) : tail.file.Grows tail.drain.2.file := by
  have grown := tail.file.grows_append tail.pending
  rw [drain]
  cases appended : tail.file.append tail.pending with
  | mk outcome file =>
      rw [appended] at grown
      cases outcome with
      | ok done => exact grown
      | error fault => exact grown

theorem grows_place (tail : Tail) (chunk : ByteArray) :
    tail.file.Grows (tail.place chunk).2.file := by
  rw [place]
  split
  · exact tail.file.grows_append chunk
  · exact File.Grows.refl _

theorem grows_write (tail : Tail) (chunk : ByteArray) :
    tail.file.Grows (tail.write chunk).2.file := by
  rw [write]
  split
  · have drained := tail.grows_drain
    cases outcome : tail.drain with
    | mk done next =>
        rw [outcome] at drained
        cases done with
        | ok done => exact drained.trans (next.grows_place chunk)
        | error fault => exact drained
  · exact tail.grows_place chunk

theorem grows_writeAll (tail : Tail) (chunks : List (List UInt8)) :
    tail.file.Grows (tail.writeAll chunks).2.file := by
  induction chunks generalizing tail with
  | nil => exact File.Grows.refl _
  | cons chunk chunks inductionHypothesis =>
      have first := tail.grows_write ⟨chunk.toArray⟩
      rw [writeAll]
      cases written : tail.write ⟨chunk.toArray⟩ with
      | mk outcome next =>
          rw [written] at first
          cases outcome with
          | ok done => exact first.trans (inductionHypothesis next)
          | error fault => exact first

end Tail

namespace Journal

theorem grows_write (journal : Journal) (writing : Writing) :
    journal.tail.file.Grows (journal.write writing).2.tail.file := by
  cases writing with
  | append event =>
      have grown := journal.tail.grows_writeAll (frameParts event)
      rw [write, append, Tail.writeFrame]
      cases written : journal.tail.writeAll (frameParts event) with
      | mk outcome tail =>
          rw [written] at grown
          cases outcome with
          | ok done => exact grown
          | error fault => exact grown
  | flush =>
      rw [write, flush]
      split
      · exact File.Grows.refl _
      · exact journal.tail.grows_drain

/-- An open log never takes back what it has put into its file, whatever fails. -/
theorem grows_writeAll (journal : Journal) (writings : List Writing) :
    journal.tail.file.Grows (journal.writeAll writings).2.tail.file := by
  induction writings generalizing journal with
  | nil => exact File.Grows.refl _
  | cons writing writings inductionHypothesis =>
      have first := journal.grows_write writing
      rw [writeAll]
      cases written : journal.write writing with
      | mk outcome next =>
          rw [written] at first
          cases outcome with
          | ok done => exact first.trans (inductionHypothesis next)
          | error fault => exact first

/-- Nothing is left in the buffer right after a flush. -/
theorem writeAll_settles
    {journal : Journal} (roomy : journal.tail.file.full = false)
    (loose : journal.tail.file.stuck = false) (empty : journal.tail.pending = .empty)
    {writings : List Writing} (settled : writings = [] ∨ writings.getLast? = some .flush) :
    ∃ next, journal.writeAll writings = (.ok (), next) ∧
      journal.Gains next (appended writings) ∧ next.tail.pending = .empty := by
  obtain ⟨next, written, gains⟩ := writeAll_gains roomy loose writings
  refine ⟨next, written, gains, ?_⟩
  rcases settled with rfl | last
  · cases written
    exact empty
  · obtain ⟨earlier, rfl⟩ := List.getLast?_eq_some_iff.mp last
    obtain ⟨other, again, _, nothing⟩ := writeAll_of_roomy roomy loose earlier
    rw [written] at again
    cases again
    exact nothing

end Journal

/-! ### Acknowledged events -/

/-- Whether the frame of an acknowledged event can be read depends on its length alone,
for which writing never asks. -/
theorem frameAt?_of_acknowledged
    {journal written next : Journal} {event : Event} (addressable : event.Addressable)
    (appended : journal.append event = (.ok (), written))
    (flushed : written.flush = (.ok (), next)) :
    frameAt? next.tail.file.bytes journal.tail.stream.length =
      if Readable event then some (event, (encode event).length) else none := by
  have committed : journal.commit [event] = (.ok (), next) := by
    simp only [Journal.commit, Journal.appendAll, appended, flushed]
  obtain ⟨gains, settled⟩ := Journal.gains_of_commit committed
  have split : next.tail.file.bytes.data.toList =
      journal.tail.stream ++ frame event ++ [] := by
    rw [← Tail.stream_of_settled settled, gains.tail.stream]
    simp
  by_cases readable : Readable event
  · rw [if_pos readable]
    exact frameAt?_frame readable split
  · rw [if_neg readable]
    exact frameAt?_of_not_readable addressable readable split

/-! ### Logs of intact frames -/

/-- A log that consists of intact frames and can be written to. There may be none
yet. -/
def Intact (directory : Directory) (events : List Event) : Prop :=
  directory.log = .absent ∧ events = [] ∨
    ∃ file, directory.log = .file file ∧ file.full = false ∧ file.stuck = false ∧
      replay file.bytes = ⟨events, file.bytes.size⟩

theorem Intact.openJournal
    {directory : Directory} {events : List Event} (intact : Intact directory events) :
    ∃ file, directory.openJournal = .ok ⟨⟨file, .empty⟩, 0, directory.spare⟩ ∧
      file.full = false ∧ file.stuck = false ∧
      replay file.bytes = ⟨events, file.bytes.size⟩ := by
  obtain ⟨log, spare⟩ := directory
  rcases intact with ⟨absent, rfl⟩ | ⟨file, present, roomy, loose, found⟩
  · obtain rfl : log = .absent := absent
    exact ⟨{}, rfl, rfl, rfl, replay_empty⟩
  · obtain rfl : log = .file file := present
    exact ⟨file, rfl, roomy, loose, found⟩

/-- Behind a log of intact frames, whole frames make a log of intact frames again. -/
theorem replay_append_of_intact
    {bytes other : ByteArray} {earlier events : List Event}
    (found : replay bytes = ⟨earlier, bytes.size⟩) (readable : ∀ event ∈ events, Readable event)
    (split : other.data.toList = bytes.data.toList ++ frames events) :
    replay other = ⟨earlier ++ events, other.size⟩ := by
  have whole : bytes.data.toList.take (replay bytes).validLength = bytes.data.toList := by
    rw [found]
    exact List.take_of_length_le (Nat.le_of_eq (length_toList_data bytes))
  rw [replay_append_frames readable (by rw [whole, split]), found]

/-- Behind a log of intact frames, any front of further frames is read up to where it
breaks off. -/
theorem replay_append_prefix
    {bytes other : ByteArray} {earlier events : List Event}
    (found : replay bytes = ⟨earlier, bytes.size⟩) (readable : ∀ event ∈ events, Readable event)
    (grown : bytes.data.toList <+: other.data.toList)
    (within : other.data.toList <+: bytes.data.toList ++ frames events) :
    ∃ front, front <+: events ∧
      replay other = ⟨earlier ++ front, bytes.size + (frames front).length⟩ := by
  obtain ⟨added, split⟩ := grown
  have part : added <+: frames events := by
    rw [← split] at within
    exact (List.prefix_append_right_inj _).mp within
  have whole : bytes.data.toList.take (replay bytes).validLength = bytes.data.toList := by
    rw [found]
    exact List.take_of_length_le (Nat.le_of_eq (length_toList_data bytes))
  have torn : other.data.toList =
      bytes.data.toList.take (replay bytes).validLength
        ++ (frames events).take added.length := by
    rw [whole, ← List.prefix_iff_eq_take.mp part, split]
  obtain ⟨front, longest, read⟩ := replay_append_torn readable torn
  rw [found] at read
  exact ⟨front, longest.start, read⟩

/-- Whatever is added to a log of intact frames and flushed in between, right after a
flush everything is read, and from then on, at every moment, that and a front of what
was added since. A moment is any growth of the file on its way to the next state. -/
theorem replay_between_flushes
    {directory : Directory} {earlier : List Event} (intact : Intact directory earlier)
    {flushed buffered : List Writing}
    (settled : flushed = [] ∨ flushed.getLast? = some .flush)
    (readable : ∀ event ∈ appended (flushed ++ buffered), Readable event) :
    ∃ opened middle next, directory.openJournal = .ok opened ∧
      opened.writeAll flushed = (.ok (), middle) ∧
      middle.writeAll buffered = (.ok (), next) ∧
      replay middle.tail.file.bytes =
        ⟨earlier ++ appended flushed, middle.tail.file.bytes.size⟩ ∧
      middle.tail.file.Grows next.tail.file ∧
      ∀ seen : File, middle.tail.file.Grows seen → seen.Grows next.tail.file →
        ∃ front, front <+: appended buffered ∧
          replay seen.bytes =
            ⟨earlier ++ appended flushed ++ front,
              middle.tail.file.bytes.size + (frames front).length⟩ := by
  obtain ⟨file, opens, roomy, loose, found⟩ := intact.openJournal
  rw [appended, List.filterMap_append, List.forall_mem_append] at readable
  let opened : Journal := ⟨⟨file, .empty⟩, 0, directory.spare⟩
  obtain ⟨middle, wrote, first, empty⟩ : ∃ middle, opened.writeAll flushed = (.ok (), middle) ∧ _ :=
    Journal.writeAll_settles roomy loose rfl settled
  obtain ⟨next, added, second⟩ := Journal.writeAll_gains first.tail.roomy
    (first.tail.stuck.trans loose) buffered
  have stored : middle.tail.file.bytes.data.toList =
      file.bytes.data.toList ++ frames (appended flushed) := by
    rw [← Tail.stream_of_settled empty, first.tail.stream, Tail.stream_of_settled rfl]
  have whole := replay_append_of_intact found readable.1 stored
  have grown := middle.grows_writeAll buffered
  rw [added] at grown
  refine ⟨opened, middle, next, opens, wrote, added, whole, grown, fun seen late early => ?_⟩
  have reach : next.tail.file.bytes.data.toList <+:
      middle.tail.file.bytes.data.toList ++ frames (appended buffered) := by
    rw [← Tail.stream_of_settled empty, ← second.tail.stream]
    exact List.prefix_append _ _
  exact replay_append_prefix whole readable.2 late (List.IsPrefix.trans early reach)

/-- A text of so many letters, each of one byte. -/
def letters (count : Nat) : String :=
  String.ofList (List.replicate count 'a')

theorem utf8ByteSize_letters (count : Nat) : (letters count).utf8ByteSize = count := by
  rw [letters, ← String.size_toByteArray, String.toByteArray_ofList]
  induction count with
  | zero => rfl
  | succ count inductionHypothesis =>
      have letter : 'a'.utf8Size = 1 := by decide
      rw [List.replicate_succ, List.utf8Encode_cons, List.utf8Encode_singleton,
        ByteArray.size_append, inductionHypothesis]
      simp [letter, Nat.add_comm]

/-- A customer whose name is larger than the buffer. -/
def longNamed : Reservation :=
  ⟨.ofNat 3, .ofNat 7, ⟨946684800000, 946684860000⟩, .cancelled, ⟨letters 10000, "a@b.org"⟩, 0⟩

theorem readable_longNamed : Readable (.created longNamed) := by
  have name : longNamed.customer.name.utf8ByteSize = 10000 := utf8ByteSize_letters 10000
  have email : longNamed.customer.email.utf8ByteSize = 7 := by decide
  rw [Readable, length_encode_created, name, email]
  decide

/-- One frame is flushed behind another. Of two more, the first goes past the buffer. -/
theorem replay_between_flushes_long :
    let earlier : List Event := [.deleted (.ofNat 1) (.ofNat 7)]
    let flushed : List Writing := [.append (.deleted (.ofNat 2) (.ofNat 7)), .flush]
    let buffered : List Writing :=
      [.append (.created longNamed), .append (.deleted (.ofNat 3) (.ofNat 7))]
    ∃ opened middle next,
      Directory.openJournal ⟨.file { bytes := ⟨(frames earlier).toArray⟩ }, .absent⟩ =
        .ok opened ∧
      opened.writeAll flushed = (.ok (), middle) ∧
      middle.writeAll buffered = (.ok (), next) ∧
      replay middle.tail.file.bytes =
        ⟨earlier ++ appended flushed, middle.tail.file.bytes.size⟩ ∧
      middle.tail.file.Grows next.tail.file ∧
      ∀ seen : File, middle.tail.file.Grows seen → seen.Grows next.tail.file →
        ∃ front, front <+: appended buffered ∧
          replay seen.bytes =
            ⟨earlier ++ appended flushed ++ front,
              middle.tail.file.bytes.size + (frames front).length⟩ := by
  intro earlier flushed buffered
  have found : replay ⟨(frames earlier).toArray⟩ =
      ⟨earlier, (ByteArray.mk (frames earlier).toArray).size⟩ :=
    replay_frames_of_readable (by simp [earlier, readable_deleted]) rfl
  refine replay_between_flushes (Or.inr ⟨_, rfl, rfl, rfl, found⟩) (Or.inr rfl) ?_
  simp [flushed, buffered, appended, readable_deleted, readable_longNamed]

end Reservations.Log
