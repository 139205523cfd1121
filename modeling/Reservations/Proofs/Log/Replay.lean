import Mathlib.Data.List.TakeWhile
import Reservations.Log.Frame
import Reservations.Proofs.Log.Codec

namespace Reservations.Log

/-! ## Replaying frames -/

/-- The frames of events, one after the other. -/
def frames (events : List Event) : List UInt8 :=
  events.flatMap frame

/-- Whether the payload of an event is within the limit that replay sets. -/
def Readable (event : Event) : Prop :=
  (encode event).length ≤ Limits.payloadBytes

instance (event : Event) : Decidable (Readable event) :=
  inferInstanceAs (Decidable (_ ≤ _))

/-- The events before the first that replay does not read. -/
def readableFront (events : List Event) : List Event :=
  events.takeWhile fun event => Readable event

theorem readable_of_mem_readableFront
    {events : List Event} {event : Event} (member : event ∈ readableFront events) :
    Readable event := by
  have passes := List.mem_takeWhile_imp member
  exact of_decide_eq_true passes

theorem readableFront_prefix (events : List Event) : readableFront events <+: events :=
  List.takeWhile_prefix _

theorem readableFront_eq_self
    {events : List Event} (readable : ∀ event ∈ events, Readable event) :
    readableFront events = events := by
  rw [readableFront, List.takeWhile_eq_self_iff]
  intro event member
  exact decide_eq_true (readable event member)

/-- Nothing is read behind an event that is not readable. -/
theorem readableFront_append_unreadable
    {events : List Event} (readable : ∀ event ∈ events, Readable event)
    {event : Event} (unreadable : ¬ Readable event) (rest : List Event) :
    readableFront (events ++ event :: rest) = events := by
  have passes : ∀ event ∈ events, decide (Readable event) = true := fun event member =>
    decide_eq_true (readable event member)
  rw [readableFront, List.takeWhile_append_of_pos passes,
    List.takeWhile_cons_of_neg (by simpa using unreadable), List.append_nil]

/-- The readable front is everything or ends before an event that is not
readable. -/
theorem readableFront_cases (events : List Event) :
    events = readableFront events ∨
      ∃ event rest, events = readableFront events ++ event :: rest ∧ ¬ Readable event := by
  induction events with
  | nil => exact Or.inl rfl
  | cons first rest inductionHypothesis =>
      by_cases readable : Readable first
      · have step : readableFront (first :: rest) = first :: readableFront rest :=
          List.takeWhile_cons_of_pos (by simpa using readable)
        rw [step]
        rcases inductionHypothesis with all | ⟨event, behind, split, unreadable⟩
        · exact Or.inl (congrArg (first :: ·) all)
        · exact Or.inr ⟨event, behind, congrArg (first :: ·) split, unreadable⟩
      · have step : readableFront (first :: rest) = [] :=
          List.takeWhile_cons_of_neg (by simpa using readable)
        rw [step]
        exact Or.inr ⟨first, rest, rfl, readable⟩

/-- What is added behind an event that is not readable is never read. -/
theorem readableFront_append_of_lost
    {events : List Event} (lost : ¬ ∀ event ∈ events, Readable event) (rest : List Event) :
    readableFront (events ++ rest) = readableFront events := by
  rcases readableFront_cases events with all | ⟨event, behind, split, unreadable⟩
  · refine absurd (fun event member => ?_) lost
    rw [all] at member
    exact readable_of_mem_readableFront member
  · have longer : events ++ rest = readableFront events ++ event :: (behind ++ rest) := by
      have added := congrArg (· ++ rest) split
      rwa [List.append_assoc] at added
    rw [longer]
    exact readableFront_append_unreadable (fun _ member => readable_of_mem_readableFront member)
      unreadable _

@[simp]
theorem frames_nil : frames [] = [] :=
  rfl

@[simp]
theorem frames_cons (event : Event) (events : List Event) :
    frames (event :: events) = frame event ++ frames events :=
  rfl

@[simp]
theorem frames_append (earlier later : List Event) :
    frames (earlier ++ later) = frames earlier ++ frames later := by
  simp [frames]

theorem frame_eq (event : Event) :
    frame event =
      bytesOfNat 4 (encode event).length ++ encode event
        ++ bytesOfNat 4 (checksum (encode event)).toNat := by
  simp [frame, frameParts]

theorem length_frame (event : Event) :
    (frame event).length = (encode event).length + 8 := by
  simp only [frame_eq, List.length_append, length_bytesOfNat]
  omega

/-! ### Lengths of payloads -/

theorem length_putText (text : String) :
    (putText text).length = 8 + text.utf8ByteSize := by
  rw [putText, List.length_append, length_bytesOfNat, length_bytesOfString]

theorem length_encode_created (reservation : Reservation) :
    (encode (.created reservation)).length =
      116 + reservation.customer.name.utf8ByteSize
        + reservation.customer.email.utf8ByteSize := by
  simp only [encode, putReservation, putIndex, putInstant, List.length_append,
    length_bytesOfNat, length_putText, Ulid.utf8ByteSize_toText]
  omega

theorem length_encode_deleted (id resource : Ulid) :
    (encode (.deleted id resource)).length = 72 := by
  simp only [encode, putIndex, List.length_append, length_bytesOfNat, length_putText,
    Ulid.utf8ByteSize_toText]

theorem readable_deleted (id resource : Ulid) : Readable (.deleted id resource) := by
  rw [Readable, length_encode_deleted]
  decide

theorem Readable.addressable {event : Event} (readable : Readable event) :
    event.Addressable := by
  cases event with
  | created reservation =>
      rw [Readable, length_encode_created, Limits.payloadBytes] at readable
      have size : UInt64.size = 18446744073709551616 := rfl
      constructor <;> omega
  | deleted id resource => trivial

/-! ### One frame -/

theorem slice_eq_take_drop (bytes : ByteArray) (start stop : Nat) :
    slice bytes start stop = (bytes.data.toList.drop start).take (stop - start) := by
  simp [slice, List.extract_eq_take_drop]

theorem word?_of_split
    {bytes : ByteArray} (front rest : List UInt8) (value : Nat)
    (split : bytes.data.toList = front ++ bytesOfNat 4 value ++ rest) :
    word? bytes front.length = some (value % Nat.pow 256 4) := by
  have size : bytes.size = front.length + 4 + rest.length := by
    rw [← ByteArray.size_data, ← Array.length_toList, split, List.length_append,
      List.length_append, length_bytesOfNat]
  have word : slice bytes front.length (front.length + 4) = bytesOfNat 4 value := by
    rw [slice_eq_take_drop, split, List.append_assoc, List.drop_left, Nat.add_sub_cancel_left]
    exact List.take_left' (length_bytesOfNat 4 value)
  rw [word?, if_pos (by omega), word, natOfBytes_bytesOfNat]

/-- There is a frame at an offset where its length, its checksum and its event are
all in order. -/
theorem frameAt?_eq_some_iff
    {bytes : ByteArray} {offset length : Nat} {event : Event} :
    frameAt? bytes offset = some (event, length) ↔
      word? bytes offset = some length ∧ length ≤ Limits.payloadBytes ∧
        word? bytes (offset + 4 + length) =
          some (checksum (slice bytes (offset + 4) (offset + 4 + length))).toNat ∧
        decode? (slice bytes (offset + 4) (offset + 4 + length)) = some event := by
  constructor
  · intro found
    obtain ⟨written, atOffset, found⟩ := Option.bind_eq_some_iff.mp found
    obtain ⟨_, within, found⟩ := Option.bind_eq_some_iff.mp found
    obtain ⟨sum, behind, found⟩ := Option.bind_eq_some_iff.mp found
    obtain ⟨_, intact, found⟩ := Option.bind_eq_some_iff.mp found
    obtain ⟨read, decoded, found⟩ := Option.bind_eq_some_iff.mp found
    obtain ⟨rfl, rfl⟩ := Prod.mk.inj (Option.some.inj found)
    rw [(Option.guard_eq_some' _).mp intact] at behind
    exact ⟨atOffset, (Option.guard_eq_some' _).mp within, behind, decoded⟩
  · rintro ⟨atOffset, within, behind, decoded⟩
    refine Option.bind_eq_some_iff.mpr ⟨length, atOffset, ?_⟩
    refine Option.bind_eq_some_iff.mpr ⟨(), (Option.guard_eq_some' _).mpr within, ?_⟩
    refine Option.bind_eq_some_iff.mpr ⟨_, behind, ?_⟩
    refine Option.bind_eq_some_iff.mpr ⟨(), (Option.guard_eq_some' _).mpr rfl, ?_⟩
    exact Option.bind_eq_some_iff.mpr ⟨event, decoded, rfl⟩

section Frame

variable {bytes : ByteArray} {front rest : List UInt8} {event : Event}

/-- The length of a payload stands before it, modulo what four bytes hold. -/
theorem word?_length (split : bytes.data.toList = front ++ frame event ++ rest) :
    word? bytes front.length = some ((encode event).length % Nat.pow 256 4) :=
  word?_of_split front (encode event
      ++ bytesOfNat 4 (checksum (encode event)).toNat ++ rest) _ (by simp [split, frame_eq])

/-- What follows the length begins with the payload. -/
theorem slice_payload
    (split : bytes.data.toList = front ++ frame event ++ rest)
    {length : Nat} (within : length ≤ (encode event).length) :
    slice bytes (front.length + 4) (front.length + 4 + length) =
      (encode event).take length := by
  have before :
      front.length + 4 = (front ++ bytesOfNat 4 (encode event).length).length := by
    simp only [List.length_append, length_bytesOfNat]
  rw [slice_eq_take_drop, Nat.add_sub_cancel_left, before, split, frame_eq]
  simp only [List.append_assoc]
  rw [← List.append_assoc front, List.drop_left, List.take_append_of_le_length within]

/-- An intact frame gives back its event. -/
theorem frameAt?_frame
    (readable : Readable event)
    (split : bytes.data.toList = front ++ frame event ++ rest) :
    frameAt? bytes front.length = some (event, (encode event).length) := by
  have small : (encode event).length < Nat.pow 256 4 :=
    Nat.lt_of_le_of_lt readable (by decide)
  have length := word?_length split
  rw [Nat.mod_eq_of_lt small] at length
  have sum :
      word? bytes (front.length + 4 + (encode event).length) =
        some (checksum (encode event)).toNat := by
    have before :
        front.length + 4 + (encode event).length =
          (front ++ bytesOfNat 4 (encode event).length ++ encode event).length := by
      simp only [List.length_append, length_bytesOfNat]
    rw [before, word?_of_split _ rest (checksum (encode event)).toNat
        (by simp [split, frame_eq]),
      Nat.mod_eq_of_lt (checksum (encode event)).toNat_lt]
  have payload := slice_payload split (Nat.le_refl _)
  rw [List.take_length] at payload
  rw [frameAt?_eq_some_iff, payload]
  exact ⟨length, readable, sum, decode?_encode readable.addressable⟩

/-- A frame whose payload is beyond the limit gives nothing back. Its length may
wrap around to a small one, but then the payload ends early. -/
theorem frameAt?_of_not_readable
    (addressable : event.Addressable) (unreadable : ¬ Readable event)
    (split : bytes.data.toList = front ++ frame event ++ rest) :
    frameAt? bytes front.length = none := by
  rw [Option.eq_none_iff_forall_ne_some]
  rintro ⟨other, length⟩ found
  obtain ⟨_, within, _, decoded⟩ := frameAt?_eq_some_iff.mp found
  have short : length < (encode event).length :=
    Nat.lt_of_le_of_lt within (Nat.not_le.mp unreadable)
  rw [slice_payload split (Nat.le_of_lt short), decode?_take_encode addressable short] at decoded
  cases decoded

end Frame

/-! ### Logs -/

/-- Replay goes on behind an intact frame with what it has read so far. -/
theorem replayFrom_frames
    {bytes : ByteArray} {events : List Event} (front rest : List UInt8)
    (readable : ∀ event ∈ events, Readable event)
    (split : bytes.data.toList = front ++ frames events ++ rest)
    (earlier : Array Event) :
    replayFrom bytes front.length earlier =
      replayFrom bytes (front.length + (frames events).length) (earlier ++ events) := by
  induction events generalizing front earlier with
  | nil => simp
  | cons event events inductionHypothesis =>
      rw [List.forall_mem_cons] at readable
      have here :
          bytes.data.toList = front ++ frame event ++ (frames events ++ rest) := by
        simp [split]
      have size : front.length < bytes.size := by
        rw [← ByteArray.size_data, ← Array.length_toList, here, List.length_append,
          List.length_append, length_frame]
        omega
      have behind :=
        inductionHypothesis (front ++ frame event) readable.2
          (by simp [split]) (earlier.push event)
      rw [List.length_append, length_frame] at behind
      rw [replayFrom, dif_pos size]
      simp only [frameAt?_frame readable.1 here]
      rw [behind, frames_cons, List.length_append, length_frame, Nat.add_assoc]
      simp

theorem replayFrom_of_none
    {bytes : ByteArray} {offset : Nat} (nothing : frameAt? bytes offset = none)
    (earlier : Array Event) :
    replayFrom bytes offset earlier = ⟨earlier.toList, offset⟩ := by
  rw [replayFrom, nothing]
  split <;> rfl

/-- Behind the end of a log there is no frame. -/
theorem frameAt?_size (bytes : ByteArray) : frameAt? bytes bytes.size = none := by
  have nothing : word? bytes bytes.size = none := by
    rw [word?, if_neg (by omega)]
  rw [frameAt?, nothing]
  rfl

/-- A log of whole frames is read up to the first frame that is too long. -/
theorem replay_frames
    {bytes : ByteArray} {events : List Event}
    (addressable : ∀ event ∈ events, event.Addressable)
    (split : bytes.data.toList = frames events) :
    replay bytes = ⟨readableFront events, (frames (readableFront events)).length⟩ := by
  have passed :
      ∀ rest, frames events = frames (readableFront events) ++ rest →
        replay bytes =
          replayFrom bytes (frames (readableFront events)).length
            (readableFront events).toArray := by
    intro rest parts
    have through :=
      replayFrom_frames [] rest
        (fun event member => readable_of_mem_readableFront member)
        (by rw [split, List.nil_append, parts]) #[]
    rw [List.length_nil, Nat.zero_add] at through
    rw [replay, through]
    simp
  rcases readableFront_cases events with all | ⟨event, rest, parts, unreadable⟩
  · have size : bytes.size = (frames (readableFront events)).length := by
      rw [← ByteArray.size_data, ← Array.length_toList, split, ← all]
    rw [passed [] (by rw [List.append_nil, ← all]), ← size,
      replayFrom_of_none (frameAt?_size bytes)]
  · have member : event ∈ events := by
      rw [parts]
      exact List.mem_append_right _ List.mem_cons_self
    have framed :
        frames events = frames (readableFront events) ++ frame event ++ frames rest := by
      have framedParts := congrArg frames parts
      rwa [frames_append, frames_cons, ← List.append_assoc] at framedParts
    have stops :=
      frameAt?_of_not_readable (addressable event member) unreadable (split.trans framed)
    rw [passed _ (framed.trans (List.append_assoc _ _ _)), replayFrom_of_none stops]

theorem replay_frames_of_readable
    {bytes : ByteArray} {events : List Event}
    (readable : ∀ event ∈ events, Readable event)
    (split : bytes.data.toList = frames events) :
    replay bytes = ⟨events, bytes.size⟩ := by
  have size : bytes.size = (frames events).length := by
    rw [← ByteArray.size_data, ← Array.length_toList, split]
  rw [replay_frames (fun event member => (readable event member).addressable) split,
    readableFront_eq_self readable, size]

theorem replay_empty : replay .empty = ⟨[], 0⟩ :=
  replay_frames_of_readable (fun _ member => absurd member List.not_mem_nil) rfl

end Reservations.Log
