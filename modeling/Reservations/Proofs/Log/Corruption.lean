import Reservations.Proofs.Log.Checksum
import Reservations.Proofs.Log.Recovery

namespace Reservations.Log

/-! ## A few bytes of a log go bad

The length of a frame is what it was, so that its payload and its checksum are looked
for in their places. There they no longer belong together. -/

/-- Bytes have changed, and only in places among `count` ones from `start` on. -/
structure Burst (start count : Nat) (before after : List UInt8) : Prop where
  sameLength : after.length = before.length
  elsewhere : ∀ place, place < start ∨ start + count ≤ place → after[place]? = before[place]?
  changed : after ≠ before

namespace Burst

variable {start count : Nat} {before after : List UInt8}

/-- What lies apart from the places that changed is what it was. -/
theorem apart
    (burst : Burst start count before after) {first length : Nat}
    (outside : first + length ≤ start ∨ start + count ≤ first) :
    (after.drop first).take length = (before.drop first).take length := by
  apply List.ext_getElem?
  intro place
  rw [List.getElem?_take, List.getElem?_take, List.getElem?_drop, List.getElem?_drop]
  by_cases within : place < length
  · rw [if_pos within, if_pos within, burst.elsewhere (first + place) (by omega)]
  · rw [if_neg within, if_neg within]

/-- What holds all places that changed has changed. -/
theorem within
    (burst : Burst start count before after) {first length : Nat}
    (inside : first ≤ start ∧ start + count ≤ first + length) :
    Burst (start - first) count
      ((before.drop first).take length) ((after.drop first).take length) where
  sameLength := by simp [burst.sameLength]
  elsewhere place outside := by
    rw [List.getElem?_take, List.getElem?_take, List.getElem?_drop, List.getElem?_drop]
    by_cases near : place < length
    · rw [if_pos near, if_pos near, burst.elsewhere (first + place) (by omega)]
    · rw [if_neg near, if_neg near]
  changed same := by
    refine burst.changed (List.ext_getElem? fun place => ?_)
    by_cases near : first ≤ place ∧ place < first + length
    · have here := congrArg (fun bytes => bytes[place - first]?) same
      simp only [List.getElem?_take, List.getElem?_drop] at here
      rwa [if_pos (by omega), if_pos (by omega), Nat.add_sub_cancel' near.1] at here
    · exact burst.elsewhere place (by omega)

/-- Four bytes that change never leave the checksum as it was. -/
theorem checksum_ne (burst : Burst start count before after) (short : count ≤ 4) :
    checksum after ≠ checksum before := by
  have parts : ∀ bytes : List UInt8,
      bytes = bytes.take start ++ (bytes.drop start).take count ++ bytes.drop (start + count) := by
    intro bytes
    rw [← List.drop_drop, List.append_assoc, List.take_append_drop, List.take_append_drop]
  have front : (after.drop 0).take start = (before.drop 0).take start :=
    burst.apart (Or.inl (by omega))
  rw [List.drop_zero, List.drop_zero] at front
  have back : after.drop (start + count) = before.drop (start + count) := by
    apply List.ext_getElem?
    intro place
    rw [List.getElem?_drop, List.getElem?_drop, burst.elsewhere _ (by omega)]
  intro same
  rw [parts after, parts before, front, back, checksum_inj_of_burst] at same
  · exact burst.changed (by rw [parts after, parts before, front, back, same])
  · simp [burst.sameLength]
  · exact Nat.le_trans (List.length_take_le _ _) short

end Burst

section Frame

variable {start count : Nat} {whole damaged : ByteArray}

theorem slice_of_apart
    (burst : Burst start count whole.data.toList damaged.data.toList) {first stop : Nat}
    (ordered : first ≤ stop) (outside : stop ≤ start ∨ start + count ≤ first) :
    slice damaged first stop = slice whole first stop := by
  rw [slice_eq_take_drop, slice_eq_take_drop]
  exact burst.apart (by omega)

theorem word?_of_apart
    (burst : Burst start count whole.data.toList damaged.data.toList) {offset : Nat}
    (outside : offset + 4 ≤ start ∨ start + count ≤ offset) :
    word? damaged offset = word? whole offset := by
  have size : damaged.size = whole.size := by
    rw [← length_toList_data, burst.sameLength, length_toList_data]
  rw [word?, word?, size, slice_of_apart burst (by omega) outside]

theorem word?_ne_of_burst
    {offset : Nat} (inside : offset ≤ start ∧ start + count ≤ offset + 4)
    (burst : Burst start count whole.data.toList damaged.data.toList) {value : Nat}
    (found : word? whole offset = some value) : word? damaged offset ≠ some value := by
  intro foundAgain
  obtain ⟨_, read⟩ := word?_eq_some_iff.mp found
  obtain ⟨_, readAgain⟩ := word?_eq_some_iff.mp foundAgain
  have damage := burst.within inside
  rw [slice_eq_take_drop, Nat.add_sub_cancel_left] at read readAgain
  exact damage.changed ((natOfBytes_inj damage.sameLength).mp (readAgain.trans read.symm))

/-- The places of a frame in which it stands out when bytes have changed: those of its
payload, or those of its checksum. -/
def Guarded (start count offset length : Nat) : Prop :=
  offset + 4 ≤ start ∧ start + count ≤ offset + 4 + length ∨
    offset + 4 + length ≤ start ∧ start + count ≤ offset + 4 + length + 4

theorem Guarded.behind {offset length : Nat} (guarded : Guarded start count offset length) :
    offset ≤ start := by
  rcases guarded with payload | sum <;> omega

/-- Where a frame was found there is none any more. -/
theorem frameAt?_of_burst
    {offset length : Nat} {event : Event} (found : frameAt? whole offset = some (event, length))
    (short : count ≤ 4) (guarded : Guarded start count offset length)
    (burst : Burst start count whole.data.toList damaged.data.toList) :
    frameAt? damaged offset = none := by
  obtain ⟨sized, _, summed, _⟩ := frameAt?_eq_some_iff.mp found
  rw [Option.eq_none_iff_forall_ne_some]
  rintro ⟨other, claimed⟩ foundAgain
  obtain ⟨sizedAgain, _, summedAgain, _⟩ := frameAt?_eq_some_iff.mp foundAgain
  have sameSize : claimed = length := by
    have sameWord : word? damaged offset = word? whole offset :=
      word?_of_apart burst (by rcases guarded with payload | sum <;> omega)
    rw [sizedAgain, sized] at sameWord
    exact Option.some.inj sameWord
  subst sameSize
  rcases guarded with payload | sum
  -- The checksum is what it was, but the payload is not the one that it was taken of.
  · rw [word?_of_apart burst (by omega), summed, Option.some.injEq, UInt32.toNat_inj] at summedAgain
    have changed := (burst.within payload).checksum_ne short
    have same := summedAgain.symm
    rw [slice_eq_take_drop, slice_eq_take_drop, Nat.add_sub_cancel_left] at same
    exact changed same
  -- The payload is what it was, but another checksum stands behind it.
  · rw [slice_of_apart burst (by omega) (by omega)] at summedAgain
    exact word?_ne_of_burst sum burst summed summedAgain

end Frame

section Log

variable {events : List Event} {index start count : Nat}

theorem frames_split (inside : index < events.length) :
    frames events =
      frames (events.take index) ++ frame events[index] ++ frames (events.drop (index + 1)) := by
  have parts := congrArg frames (List.take_append_drop index events)
  rw [frames_append, List.drop_eq_getElem_cons inside, frames_cons] at parts
  rw [List.append_assoc, parts]

/-- What stands before the places that changed is what was written there. -/
theorem take_of_burst
    (inside : index < events.length) (behind : (frames (events.take index)).length ≤ start)
    {damaged : List UInt8} (burst : Burst start count (frames events) damaged) :
    damaged.take (frames (events.take index)).length = frames (events.take index) := by
  have front : (damaged.drop 0).take (frames (events.take index)).length =
      ((frames events).drop 0).take (frames (events.take index)).length :=
    burst.apart (by omega)
  rwa [List.drop_zero, List.drop_zero, frames_split inside, List.append_assoc,
    List.take_left] at front

/-- The frames before the one in which bytes have changed are read, and no other. -/
theorem replay_of_burst
    (readable : ∀ event ∈ events, Readable event) (inside : index < events.length)
    (short : count ≤ 4)
    (guarded :
      Guarded start count (frames (events.take index)).length (encode events[index]).length)
    {damaged : ByteArray} (burst : Burst start count (frames events) damaged.data.toList) :
    replay damaged = ⟨events.take index, (frames (events.take index)).length⟩ := by
  have found : frameAt? ⟨(frames events).toArray⟩ (frames (events.take index)).length =
      some (events[index], (encode events[index]).length) :=
    frameAt?_frame (readable _ (List.getElem_mem inside)) (frames_split inside)
  have stops := frameAt?_of_burst found short guarded burst
  have front := take_of_burst inside guarded.behind burst
  have whole : damaged.data.toList = [] ++ frames (events.take index) ++
      damaged.data.toList.drop (frames (events.take index)).length := by
    have parts :=
      List.take_append_drop (frames (events.take index)).length damaged.data.toList
    rw [front] at parts
    exact parts.symm
  have through := replayFrom_frames [] _
    (fun event member => readable event (List.mem_of_mem_take member)) whole #[]
  rw [List.length_nil, Nat.zero_add] at through
  rw [replay, through, replayFrom_of_none stops]
  simp

/-- When at most four adjacent bytes of the payload of a frame change, or of its checksum,
then replay ends before that frame, and recovery cuts the log there. -/
theorem recover_of_burst
    (readable : ∀ event ∈ events, Readable event) (inside : index < events.length)
    (short : count ≤ 4)
    (guarded :
      Guarded start count (frames (events.take index)).length (encode events[index]).length)
    {file : File} (burst : Burst start count (frames events) file.bytes.data.toList)
    (spare : Node) :
    replay file.bytes = ⟨events.take index, (frames (events.take index)).length⟩ ∧
      ∃ kept : ByteArray, kept.data.toList = frames (events.take index) ∧
        Directory.recover ⟨.file file, spare⟩ =
          .ok (events.take index, ⟨.file { file with bytes := kept }, spare⟩) := by
  have found := replay_of_burst readable inside short guarded burst
  obtain ⟨_, kept, front, recovered, _⟩ := recover_stable file spare
  rw [found] at front recovered
  rw [take_of_burst inside guarded.behind burst] at front
  exact ⟨found, kept, front, recovered⟩

/-- Four bytes in the payload of the second of three removals are turned over. -/
theorem recover_of_burst_second :
    let first : Event := .deleted (.ofNat 1) (.ofNat 7)
    let events := [first, .deleted (.ofNat 2) (.ofNat 7), .deleted (.ofNat 3) (.ofNat 7)]
    let turned := (frames events).mapIdx fun place byte =>
      if place < 120 ∨ 124 ≤ place then byte else ~~~byte
    replay ⟨turned.toArray⟩ = ⟨[first], 80⟩ ∧
      ∃ kept : ByteArray, kept.data.toList = frame first ∧
        Directory.recover ⟨.file { bytes := ⟨turned.toArray⟩ }, .absent⟩ =
          .ok ([first], ⟨.file { bytes := kept }, .absent⟩) := by
  intro first events turned
  have length : (frames events).length = 240 := by
    simp [events, first, length_frame, length_encode_deleted]
  have burst : Burst 120 4 (frames events) turned := by
    refine ⟨List.length_mapIdx, ?_, ?_⟩
    · intro place outside
      simp [turned, List.getElem?_mapIdx, if_pos outside]
    · intro same
      have here := congrArg (fun bytes => bytes[120]?) same
      simp [turned, length] at here
  have first80 : (frames (events.take 1)).length = 80 := by
    simp [events, first, length_frame, length_encode_deleted]
  have guarded :
      Guarded 120 4 (frames (events.take 1)).length (encode events[1]).length := by
    rw [first80]
    exact Or.inl (by simp [events, length_encode_deleted])
  have readable : ∀ event ∈ events, Readable event := by
    simp [events, first, readable_deleted]
  have inside : 1 < events.length := by decide
  -- From here on it does not matter how the bytes came about.
  clear_value turned
  let file : File := { bytes := ⟨turned.toArray⟩ }
  have damaged : Burst 120 4 (frames events) file.bytes.data.toList := burst
  obtain ⟨found, kept, front, recovered⟩ :=
    recover_of_burst readable inside (Nat.le_refl 4) guarded damaged .absent
  rw [first80] at found
  refine ⟨found, kept, ?_, recovered⟩
  rw [front]
  exact List.append_nil _

end Log

end Reservations.Log
