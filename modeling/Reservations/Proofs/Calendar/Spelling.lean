import Reservations.Calendar.Timestamp
import Reservations.Proofs.Calendar.DayNumber
import Reservations.Proofs.Calendar.Range
import Reservations.Proofs.Calendar.Reading
import Reservations.Proofs.Text.Blank

namespace Reservations.Calendar

/-! ## Offsets -/

theorem readChar_self (c : Char) (rest : List Char) : readChar c (c :: rest) = some rest :=
  if_pos rfl

theorem readOffset_sign (negative : Bool) {hours minutes : Nat} (someHours : hours < 24)
    (someMinutes : minutes < 60) :
    readOffset ((if negative then '-' else '+') :: (padded 2 hours ++ ':' :: padded 2 minutes)) =
      some (if negative then -(hours * 3600 + minutes * 60 : Int)
        else hours * 3600 + minutes * 60, []) := by
  have front : readExactly 2 (padded 2 hours ++ ':' :: padded 2 minutes) =
      some (hours, ':' :: padded 2 minutes) := readExactly_padded (by decide) (by omega) _
  have rest : readExactly 2 (padded 2 minutes) = some (minutes, []) :=
    readExactly_padded_all (by decide) (by omega)
  cases negative
  all_goals
    refine (bind_of_eq_some _ rfl).trans ?_
    refine (bind_of_eq_some _ front).trans ?_
    refine (bind_of_eq_some _ (readChar_self _ _)).trans ?_
    refine (bind_of_eq_some _ rest).trans ?_
    refine (bind_of_eq_some _ (if_pos someMinutes)).trans ?_
    refine (bind_of_eq_some _ (if_pos someHours)).trans ?_
    rfl

/-- A number of minutes as an offset, with a sign. -/
def offsetText (minutes : Int) : List Char :=
  (if minutes < 0 then '-' else '+') ::
    (padded 2 (minutes.natAbs / 60) ++ ':' :: padded 2 (minutes.natAbs % 60))

theorem readOffset_offsetText {minutes : Int} (small : minutes.natAbs < 1440) :
    readOffset (offsetText minutes) = some (minutes * 60, []) := by
  have someHours : minutes.natAbs / 60 < 24 := by omega
  have someMinutes : minutes.natAbs % 60 < 60 := by omega
  have read := readOffset_sign (decide (minutes < 0)) someHours someMinutes
  simp only [decide_eq_true_iff] at read
  rw [offsetText, read]
  congr 2
  split
  · omega
  · omega

/-! ## Date-times with an offset -/

/-- What is read of a date-time with an offset behind its date. -/
def timeWithOffset? (year month day : Nat) (cs : List Char) : Option Int := do
  let (hour, cs) ← readExactly 2 cs
  let cs ← readChar ':' cs
  let (minute, cs) ← readExactly 2 cs
  let cs ← readChar ':' cs
  let (second, cs) ← readExactly 2 cs
  let (nano, cs) ←
    match cs with
    | '.' :: rest => readFraction rest
    | _ => some (0, cs)
  let (offset, cs) ← readOffset cs
  guard cs.isEmpty
  let fields : Fields := ⟨year, month, day, hour, minute, second, nano⟩
  let moment ← fields.dateTime?
  some (moment.epochMilli - offset * 1000)

section WithOffset

variable {fields : Fields} (writable : fields.Writable)
include writable

theorem parseWithOffset?_dateText {separator : Char} (separates : separator = 'T' ∨ separator = ' ')
    (rest : List Char) :
    parseWithOffset? (fields.dateText ++ separator :: rest) =
      timeWithOffset? fields.year.toNat fields.month fields.day rest := by
  rw [Fields.dateText]
  simp only [List.append_assoc, List.cons_append]
  refine (bind_of_eq_some _ (readExactly_padded (by decide) writable.year_lt _)).trans ?_
  refine (bind_of_eq_some _ (readChar_self _ _)).trans ?_
  refine (bind_of_eq_some _ (readExactly_padded (by decide) writable.month_lt _)).trans ?_
  refine (bind_of_eq_some _ (readChar_self _ _)).trans ?_
  refine (bind_of_eq_some _ (readExactly_padded (by decide) writable.day_lt _)).trans ?_
  rcases separates with rfl | rfl
  · exact bind_of_eq_some _ rfl
  · exact bind_of_eq_some _ rfl

/-- The offset is read behind the milliseconds. -/
theorem timeWithOffset?_secondText {rest : List Char}
    (ends : ∀ c ∈ rest.head?, Text.isDigit c = false) :
    timeWithOffset? fields.year.toNat fields.month fields.day (fields.secondText ++ rest) =
      (readOffset rest).bind fun read =>
        if read.2.isEmpty then
          fields.dateTime?.map fun moment => moment.epochMilli - read.1 * 1000
        else none := by
  rw [Fields.secondText, Fields.minuteText]
  simp only [List.append_assoc, List.cons_append]
  refine (bind_of_eq_some _ (readExactly_padded (by decide) writable.hour_lt _)).trans ?_
  refine (bind_of_eq_some _ (readChar_self _ _)).trans ?_
  refine (bind_of_eq_some _ (readExactly_padded (by decide) writable.minute_lt _)).trans ?_
  refine (bind_of_eq_some _ (readChar_self _ _)).trans ?_
  refine (bind_of_eq_some _ (readExactly_padded (by decide) writable.second_lt _)).trans ?_
  refine (bind_of_eq_some _ (readFraction_padded writable.milli_lt ends)).trans ?_
  dsimp only
  rw [writable.natCast_year, writable.nano_eq]
  refine congrArg (Option.bind (readOffset rest)) (funext fun read => ?_)
  obtain ⟨offset, left⟩ := read
  cases left with
  | nil => cases fields.dateTime? <;> rfl
  | cons c left => rfl

/-- Without seconds nothing is read. -/
theorem timeWithOffset?_minuteText :
    timeWithOffset? fields.year.toNat fields.month fields.day fields.minuteText = none := by
  rw [Fields.minuteText]
  refine (bind_of_eq_some _ (readExactly_padded (by decide) writable.hour_lt _)).trans ?_
  refine (bind_of_eq_some _ (readChar_self _ _)).trans ?_
  refine (bind_of_eq_some _ (readExactly_padded_all (by decide) writable.minute_lt)).trans ?_
  exact bind_of_eq_none _ rfl

end WithOffset

/-! ## Date-times in UTC -/

/-- The piece that stands for a separator between date and time. -/
def Piece.ofSeparator (separator : Char) : Piece :=
  if separator = 'T' then .literal 'T' else .blanks

theorem Fields.trimStart_minuteText (fields : Fields) :
    Text.trimStart fields.minuteText = fields.minuteText :=
  trimStart_padded 2 fields.hour _

theorem Fields.trimStart_secondText (fields : Fields) :
    Text.trimStart fields.secondText = fields.secondText := by
  rw [secondText, minuteText, List.append_assoc, trimStart_padded]

theorem utcPatterns_eq :
    utcPatterns =
      [datePieces ++ .ofSeparator 'T' :: secondPieces,
        datePieces ++ .ofSeparator ' ' :: secondPieces,
        datePieces ++ .ofSeparator 'T' :: minutePieces,
        datePieces ++ .ofSeparator ' ' :: minutePieces] :=
  rfl

/-- A time is read behind the separator of the pattern, and behind none other. -/
theorem readPieces_ofSeparator {expected found : Char} (known : expected = 'T' ∨ expected = ' ')
    (separates : found = 'T' ∨ found = ' ') (pieces : List Piece) (start : Fields)
    {time : List Char} (solid : Text.trimStart time = time) :
    readPieces (.ofSeparator expected :: .hour :: pieces) start (found :: time) =
      if expected = found then readPieces (.hour :: pieces) start time else none := by
  have literal : Piece.ofSeparator 'T' = .literal 'T' := rfl
  have blanks : Piece.ofSeparator ' ' = .blanks := rfl
  rcases known with rfl | rfl <;> rcases separates with rfl | rfl
  · have read : (Piece.literal 'T').read start ('T' :: time) = some (start, time) := by
      simp only [Piece.read, if_true]
    rw [literal, if_pos rfl]
    exact bind_of_eq_some _ read
  · exact bind_of_eq_none _ rfl
  · have read : Piece.blanks.read start ('T' :: time) = some (start, 'T' :: time) := rfl
    rw [blanks, if_neg (by decide)]
    exact (bind_of_eq_some _ read).trans (bind_of_eq_none _ rfl)
  · have read : Piece.blanks.read start (' ' :: time) = some (start, Text.trimStart time) := rfl
    rw [solid] at read
    rw [blanks, if_pos rfl]
    exact bind_of_eq_some _ read

section Utc

variable {fields : Fields} (writable : fields.Writable)
include writable

/-- What is read once the date is. -/
theorem parse?_dateText (pieces : List Piece) (rest : List Char) :
    parse? (datePieces ++ pieces) (fields.dateText ++ rest) =
      (readPieces pieces { year := fields.year, month := fields.month, day := fields.day }
        rest).bind fun read => if read.2.isEmpty then read.1.dateTime? else none := by
  have read : readPieces (datePieces ++ pieces) {} (fields.dateText ++ rest) =
      readPieces pieces { year := fields.year, month := fields.month, day := fields.day } rest := by
    rw [readPieces_append, readPieces_datePieces writable]
    rfl
  rw [parse?, read, Option.bind_eq_bind]
  refine congrArg (Option.bind _) (funext fun read => ?_)
  obtain ⟨complete, left⟩ := read
  cases left with
  | nil => rfl
  | cons c left => rfl

section Separated

variable {expected found : Char} (known : expected = 'T' ∨ expected = ' ')
  (separates : found = 'T' ∨ found = ' ')
include known separates

theorem parse?_secondPieces_secondText :
    parse? (datePieces ++ .ofSeparator expected :: secondPieces)
        (fields.dateText ++ found :: fields.secondText) =
      if expected = found then fields.dateTime? else none := by
  have pieces : secondPieces = .hour :: secondPieces.tail := rfl
  rw [parse?_dateText writable, pieces,
    readPieces_ofSeparator known separates _ _ fields.trimStart_secondText, ← pieces,
    readPieces_secondPieces writable]
  split
  · rfl
  · rfl

theorem parse?_secondPieces_minuteText :
    parse? (datePieces ++ .ofSeparator expected :: secondPieces)
        (fields.dateText ++ found :: fields.minuteText) = none := by
  have pieces : secondPieces = .hour :: secondPieces.tail := rfl
  rw [parse?_dateText writable, pieces,
    readPieces_ofSeparator known separates _ _ fields.trimStart_minuteText, ← pieces,
    secondPieces, readPieces_append, readPieces_minutePieces_all writable]
  split
  · rfl
  · rfl

/-- Without seconds the minute is whole. -/
theorem parse?_minutePieces_minuteText (second : fields.second = 0) (nano : fields.nano = 0) :
    parse? (datePieces ++ .ofSeparator expected :: minutePieces)
        (fields.dateText ++ found :: fields.minuteText) =
      if expected = found then fields.dateTime? else none := by
  have complete : (⟨fields.year, fields.month, fields.day, fields.hour, fields.minute, 0, 0⟩ :
      Fields) = fields := by
    change _ = (⟨fields.year, fields.month, fields.day, fields.hour, fields.minute,
      fields.second, fields.nano⟩ : Fields)
    rw [second, nano]
  rw [parse?_dateText writable, minutePieces,
    readPieces_ofSeparator known separates _ _ fields.trimStart_minuteText, ← minutePieces,
    readPieces_minutePieces_all writable]
  split
  · exact congrArg Fields.dateTime? complete
  · rfl

end Separated

end Utc

/-! ## Spellings -/

theorem endsSolid_padded (width value : Nat) : Text.EndsSolid (padded width value) := by
  obtain ⟨first, digits, written, _⟩ := exists_padded_eq_cons width value
  have nonempty : padded width value ≠ [] := by
    rw [written]
    exact List.cons_ne_nil _ _
  exact ⟨_, List.getLast?_eq_some_getLast nonempty,
    Text.isBlank_of_isDigit (isDigit_of_mem_padded (List.getLast_mem nonempty))⟩

namespace Fields

theorem endsSolid_secondText (fields : Fields) : Text.EndsSolid fields.secondText := by
  unfold secondText
  exact ((((endsSolid_padded 3 _).cons '.').append _).cons ':').append _

theorem endsSolid_minuteText (fields : Fields) : Text.EndsSolid fields.minuteText := by
  unfold minuteText
  exact ((endsSolid_padded 2 _).cons ':').append _

theorem trimStart_dateText (fields : Fields) (rest : List Char) :
    Text.trimStart (fields.dateText ++ rest) = fields.dateText ++ rest := by
  rw [dateText, List.append_assoc, trimStart_padded]

theorem writable_ofMilli {milli : Int} (first : 0 ≤ (ofMilli milli).year)
    (last : (ofMilli milli).year ≤ 9999) : (ofMilli milli).Writable := by
  have month := monthOf_le (ofMilli milli).year (dayOfYear (milli / 86400000 + epochDay))
  have day := Nat.le_trans (dayOfMonth_le (milli / 86400000 + epochDay)) (daysInMonth_le _ _)
  have below : milli % 86400000 < 86400000 := Int.emod_lt_of_pos _ (by decide)
  refine ⟨first, last, Nat.lt_of_le_of_lt month (by decide), Nat.lt_of_le_of_lt day (by decide),
    ?_, ?_, ?_, ?_, ?_⟩
  all_goals
    dsimp only [ofMilli]
    omega

end Fields

theorem endsSolid_offsetText (minutes : Int) : Text.EndsSolid (offsetText minutes) := by
  unfold offsetText
  exact (((endsSolid_padded 2 _).cons ':').append _).cons _

/-- A number of milliseconds whose year has no more than four digits and no sign. -/
structure HasPlainYear (milli : Int) : Prop where
  year_nonneg : 0 ≤ (Fields.ofMilli milli).year
  year_le : (Fields.ofMilli milli).year ≤ 9999

/-- These are the milliseconds from the start of year 0 to the end of year 9999. -/
theorem hasPlainYear_iff (milli : Int) :
    HasPlainYear milli ↔ -62167219200000 ≤ milli ∧ milli < 253402300800000 := by
  have first := le_yearOf_iff 0 (milli / 86400000 + epochDay)
  have last := le_yearOf_iff 10000 (milli / 86400000 + epochDay)
  have start : daysBeforeYear 0 = 0 := rfl
  have stop : daysBeforeYear 10000 = 3652425 := rfl
  have epoch : epochDay = 719528 := rfl
  have year : (Fields.ofMilli milli).year = yearOf (milli / 86400000 + epochDay) := rfl
  constructor
  · rintro ⟨least, most⟩
    omega
  · intro bounds
    exact ⟨by omega, by omega⟩

section PlainYear

variable {milli : Int} (plain : HasPlainYear milli)
include plain

theorem HasPlainYear.writable : (Fields.ofMilli milli).Writable :=
  Fields.writable_ofMilli plain.year_nonneg plain.year_le

theorem HasPlainYear.exists_dateTime :
    ∃ moment, (Fields.ofMilli milli).dateTime? = some moment ∧ moment.epochMilli = milli :=
  Fields.exists_dateTime_ofMilli (Int.le_trans (by decide) plain.year_nonneg)
    (Int.le_trans plain.year_le (by decide))

end PlainYear

/-- The texts that an instant is written as. -/
inductive Spells (instant : Instant) : List Char → Prop
  /-- In milliseconds. -/
  | milliseconds : Spells instant (integerText instant).toList
  /-- As a date-time with an offset, given in minutes. -/
  | offset {minutes : Int} (small : minutes.natAbs < 1440)
      (plain : HasPlainYear (instant.toInt + minutes * 60000)) :
      Spells instant
        ((Fields.ofMilli (instant.toInt + minutes * 60000)).dateText ++
          'T' :: ((Fields.ofMilli (instant.toInt + minutes * 60000)).secondText ++
            offsetText minutes))
  /-- As a date-time that is marked as UTC. -/
  | zulu (plain : HasPlainYear instant.toInt) :
      Spells instant
        ((Fields.ofMilli instant.toInt).dateText ++
          'T' :: ((Fields.ofMilli instant.toInt).secondText ++ ['Z']))
  /-- As a date-time in UTC with seconds and milliseconds. -/
  | seconds {separator : Char} (separates : separator = 'T' ∨ separator = ' ')
      (plain : HasPlainYear instant.toInt) :
      Spells instant
        ((Fields.ofMilli instant.toInt).dateText ++
          separator :: (Fields.ofMilli instant.toInt).secondText)
  /-- As a date-time in UTC without seconds, when it is a whole minute. -/
  | minutes {separator : Char} (separates : separator = 'T' ∨ separator = ' ')
      (plain : HasPlainYear instant.toInt) (whole : instant.toInt % 60000 = 0) :
      Spells instant
        ((Fields.ofMilli instant.toInt).dateText ++
          separator :: (Fields.ofMilli instant.toInt).minuteText)

section Read

variable {fields : Fields} (writable : fields.Writable)

/-- A date is not taken for an integer. -/
theorem readInt64_dateText (fields : Fields) (rest : List Char) :
    ∃ fault, Text.readInt64 (fields.dateText ++ rest) = .error fault := by
  obtain ⟨first, digits, written, digit⟩ := exists_padded_eq_cons 4 fields.year.toNat
  rw [Fields.dateText, written]
  refine Text.readInt64_of_stray digit ⟨'-', ?_, by decide⟩
  simp

theorem instantOf?_of_offset {fields : Fields} {rest : List Char} {milli : Int}
    (read : parseWithOffset? (fields.dateText ++ rest) = some milli) :
    instantOf? (fields.dateText ++ rest) = some (Int64.ofInt milli) := by
  obtain ⟨fault, noInteger⟩ := readInt64_dateText fields rest
  rw [instantOf?, noInteger, read]
  rfl

theorem instantOf?_of_utc {fields : Fields} {rest : List Char} {moment : DateTime}
    (noOffset : parseWithOffset? (fields.dateText ++ rest) = none)
    (read : utcPatterns.findSome? (parse? · (fields.dateText ++ rest)) = some moment) :
    instantOf? (fields.dateText ++ rest) = some (Int64.ofInt moment.epochMilli) := by
  obtain ⟨fault, noInteger⟩ := readInt64_dateText fields rest
  rw [instantOf?, noInteger, noOffset, read]
  rfl

include writable

theorem parseWithOffset?_of_readOffset {moment : DateTime} {tail : List Char} {offset : Int}
    (denotes : fields.dateTime? = some moment) (ends : ∀ c ∈ tail.head?, Text.isDigit c = false)
    (read : readOffset tail = some (offset, [])) :
    parseWithOffset? (fields.dateText ++ 'T' :: (fields.secondText ++ tail)) =
      some (moment.epochMilli - offset * 1000) := by
  rw [parseWithOffset?_dateText writable (Or.inl rfl), timeWithOffset?_secondText writable ends,
    read, denotes]
  rfl

section Utc

variable {separator : Char} (separates : separator = 'T' ∨ separator = ' ') {moment : DateTime}
  (denotes : fields.dateTime? = some moment)
include separates denotes

theorem instantOf?_secondText :
    instantOf? (fields.dateText ++ separator :: fields.secondText) =
      some (Int64.ofInt moment.epochMilli) := by
  have noOffset : parseWithOffset? (fields.dateText ++ separator :: fields.secondText) = none := by
    have ends : ∀ c ∈ ([] : List Char).head?, Text.isDigit c = false := nofun
    rw [parseWithOffset?_dateText writable separates, ← List.append_nil fields.secondText,
      timeWithOffset?_secondText writable ends]
    rfl
  refine instantOf?_of_utc noOffset ?_
  rw [utcPatterns_eq, List.findSome?_cons, List.findSome?_cons,
    parse?_secondPieces_secondText writable (Or.inl rfl) separates,
    parse?_secondPieces_secondText writable (Or.inr rfl) separates, denotes]
  rcases separates with rfl | rfl
  · rfl
  · rfl

theorem instantOf?_minuteText (second : fields.second = 0) (nano : fields.nano = 0) :
    instantOf? (fields.dateText ++ separator :: fields.minuteText) =
      some (Int64.ofInt moment.epochMilli) := by
  have noOffset : parseWithOffset? (fields.dateText ++ separator :: fields.minuteText) = none := by
    rw [parseWithOffset?_dateText writable separates, timeWithOffset?_minuteText writable]
  refine instantOf?_of_utc noOffset ?_
  rw [utcPatterns_eq, List.findSome?_cons, List.findSome?_cons, List.findSome?_cons,
    List.findSome?_cons, parse?_secondPieces_minuteText writable (Or.inl rfl) separates,
    parse?_secondPieces_minuteText writable (Or.inr rfl) separates,
    parse?_minutePieces_minuteText writable (Or.inl rfl) separates second nano,
    parse?_minutePieces_minuteText writable (Or.inr rfl) separates second nano, denotes]
  rcases separates with rfl | rfl
  · rfl
  · rfl

end Utc

end Read

theorem Fields.ofMilli_of_wholeMinute {milli : Int} (whole : milli % 60000 = 0) :
    (ofMilli milli).second = 0 ∧ (ofMilli milli).nano = 0 := by
  dsimp only [ofMilli]
  omega

namespace Spells

variable {instant : Instant} {cs : List Char} (spells : Spells instant cs)
include spells

theorem trim_eq : Text.trim cs = cs := by
  cases spells with
  | milliseconds => exact Text.trim_integerText instant
  | offset small plain =>
      exact Text.trim_of_endsSolid (Fields.trimStart_dateText _ _)
        ((((endsSolid_offsetText _).append _).cons _).append _)
  | zulu plain =>
      have marked : Text.EndsSolid ['Z'] := ⟨'Z', rfl, by decide⟩
      exact Text.trim_of_endsSolid (Fields.trimStart_dateText _ _)
        (((marked.append _).cons _).append _)
  | seconds separates plain =>
      exact Text.trim_of_endsSolid (Fields.trimStart_dateText _ _)
        (((Fields.endsSolid_secondText _).cons _).append _)
  | minutes separates plain whole =>
      exact Text.trim_of_endsSolid (Fields.trimStart_dateText _ _)
        (((Fields.endsSolid_minuteText _).cons _).append _)

theorem instantOf?_eq : instantOf? cs = some instant := by
  cases spells with
  | milliseconds =>
      rw [instantOf?, Text.readInt64_integerText]
      rfl
  | @offset minutes small plain =>
      obtain ⟨moment, denotes, number⟩ := plain.exists_dateTime
      have sign : ∀ c ∈ (offsetText minutes).head?, Text.isDigit c = false := by
        rw [offsetText]
        split <;> simp [Text.isDigit]
      have there : moment.epochMilli - minutes * 60 * 1000 = instant.toInt := by omega
      rw [instantOf?_of_offset (parseWithOffset?_of_readOffset plain.writable denotes sign
        (readOffset_offsetText small)), there, Int64.ofInt_toInt]
  | zulu plain =>
      obtain ⟨moment, denotes, number⟩ := plain.exists_dateTime
      have here : moment.epochMilli - 0 * 1000 = instant.toInt := by omega
      rw [instantOf?_of_offset (parseWithOffset?_of_readOffset plain.writable denotes
        (by simp [Text.isDigit]) rfl), here, Int64.ofInt_toInt]
  | seconds separates plain =>
      obtain ⟨moment, denotes, number⟩ := plain.exists_dateTime
      rw [instantOf?_secondText plain.writable separates denotes, number, Int64.ofInt_toInt]
  | minutes separates plain whole =>
      obtain ⟨moment, denotes, number⟩ := plain.exists_dateTime
      obtain ⟨second, nano⟩ := Fields.ofMilli_of_wholeMinute whole
      rw [instantOf?_minuteText plain.writable separates denotes second nano, number,
        Int64.ofInt_toInt]

end Spells

/-- Blanks around a text change nothing about what is read. -/
theorem readInstant_surrounded {before after : List Char}
    (blankBefore : ∀ c ∈ before, Text.isBlank c = true)
    (blankAfter : ∀ c ∈ after, Text.isBlank c = true) (text : String) :
    readInstant (String.ofList (before ++ text.toList ++ after)) = readInstant text := by
  rw [readInstant, String.toList_ofList, Text.trim_surrounded blankBefore blankAfter, readInstant]

/-- Every spelling of an instant is read as the instant, whatever blanks stand around it. -/
theorem readInstant_of_spells {instant : Instant} {cs : List Char} (spells : Spells instant cs)
    {before after : List Char} (blankBefore : ∀ c ∈ before, Text.isBlank c = true)
    (blankAfter : ∀ c ∈ after, Text.isBlank c = true) :
    readInstant (String.ofList (before ++ cs ++ after)) = .ok instant := by
  have same := readInstant_surrounded blankBefore blankAfter (String.ofList cs)
  rw [String.toList_ofList] at same
  rw [same, readInstant, String.toList_ofList, spells.trim_eq, spells.instantOf?_eq]

/-- A summer's day two hours east of UTC, and the first minute of the calendar. -/
theorem readInstant_of_spells_summer :
    Spells 1748772000000 "2025-06-01T12:00:00.000+02:00".toList ∧
      Spells (-62167219200000) "0000-01-01 00:00".toList ∧
      readInstant "\t2025-06-01T12:00:00.000+02:00 " = .ok 1748772000000 ∧
      readInstant "0000-01-01 00:00" = .ok (-62167219200000) := by
  have summer : Spells 1748772000000 "2025-06-01T12:00:00.000+02:00".toList := by
    have text : "2025-06-01T12:00:00.000+02:00".toList =
        (Fields.ofMilli ((1748772000000 : Int64).toInt + 120 * 60000)).dateText ++
          'T' :: ((Fields.ofMilli ((1748772000000 : Int64).toInt + 120 * 60000)).secondText ++
            offsetText 120) := by decide
    rw [text]
    exact .offset (by decide) ((hasPlainYear_iff _).mpr (by decide))
  have first : Spells (-62167219200000) "0000-01-01 00:00".toList := by
    have text : "0000-01-01 00:00".toList =
        (Fields.ofMilli (-62167219200000 : Int64).toInt).dateText ++
          ' ' :: (Fields.ofMilli (-62167219200000 : Int64).toInt).minuteText := by decide
    rw [text]
    exact .minutes (Or.inr rfl) ((hasPlainYear_iff _).mpr (by decide)) (by decide)
  have read : readInstant
      (String.ofList (['\t'] ++ "2025-06-01T12:00:00.000+02:00".toList ++ [' '])) =
      .ok 1748772000000 :=
    readInstant_of_spells summer (List.forall_mem_singleton.mpr (by decide))
      (List.forall_mem_singleton.mpr (by decide))
  have readFirst : readInstant (String.ofList ([] ++ "0000-01-01 00:00".toList ++ [])) =
      .ok (-62167219200000) := readInstant_of_spells first nofun nofun
  exact ⟨summer, first, read, readFirst⟩

end Reservations.Calendar
