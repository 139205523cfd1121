import Mathlib.Data.List.TakeWhile
import Reservations.Calendar.Printer
import Reservations.Proofs.Text.Integer

namespace Reservations.Calendar

/-! ## Reading what is written

A number with leading zeros is read back, by a count of digits as well as up to one. -/

theorem decimal_eq_ofDigitChars (digits : List Char) :
    Text.decimal digits = Nat.ofDigitChars 10 digits 0 := by
  rw [Text.decimal, Text.ofDigits, List.foldl_map, Nat.ofDigitChars]
  simp only [Nat.mul_comm 10]
  rfl

/-! ### Numbers -/

section Padded

variable {width value : Nat}

theorem padded_eq (width value : Nat) :
    padded width value =
      List.replicate (width - (Nat.toDigits 10 value).length) '0' ++ Nat.toDigits 10 value := by
  rw [padded, Nat.toList_repr]

theorem isDigit_of_mem_padded {c : Char} (member : c ∈ padded width value) :
    Text.isDigit c = true := by
  rw [padded_eq, List.mem_append, List.mem_replicate] at member
  rcases member with ⟨_, rfl⟩ | digit
  · decide
  · exact Text.isDigit_of_mem_toDigits digit

theorem decimal_padded (width value : Nat) : Text.decimal (padded width value) = value := by
  rw [decimal_eq_ofDigitChars, padded_eq, Text.ofDigitChars_zeros_append,
    Nat.ofDigitChars_ten_toDigits]

/-- A number with leading zeros begins with a digit. -/
theorem exists_padded_eq_cons (width value : Nat) :
    ∃ first digits, padded width value = first :: digits ∧ Text.isDigit first = true := by
  have nonempty : padded width value ≠ [] := by
    rw [padded_eq]
    exact List.append_ne_nil_of_right_ne_nil _ Nat.toDigits_ne_nil
  obtain ⟨first, digits, written⟩ := List.exists_cons_of_ne_nil nonempty
  have member : first ∈ padded width value := by
    rw [written]
    exact List.mem_cons_self
  exact ⟨first, digits, written, isDigit_of_mem_padded member⟩

theorem trimStart_padded (width value : Nat) (rest : List Char) :
    Text.trimStart (padded width value ++ rest) = padded width value ++ rest := by
  obtain ⟨first, digits, written, digit⟩ := exists_padded_eq_cons width value
  rw [written, List.cons_append, Text.trimStart_of_not_isBlank (Text.isBlank_of_isDigit digit)]

section Fits

variable (positive : 0 < width) (small : value < 10 ^ width)
include positive small

theorem length_padded : (padded width value).length = width := by
  have fits := (Nat.length_toDigits_le_iff (by decide) positive).mpr small
  rw [padded_eq, List.length_append, List.length_replicate]
  omega

theorem readExactly_padded (rest : List Char) :
    readExactly width (padded width value ++ rest) = some (value, rest) := by
  have long := length_padded positive small
  have digits : (padded width value).all Text.isDigit = true :=
    List.all_eq_true.mpr fun _ => isDigit_of_mem_padded
  rw [readExactly, List.take_left' long, List.drop_left' long, if_pos ⟨long, digits⟩,
    decimal_padded]

theorem readExactly_padded_all :
    readExactly width (padded width value) = some (value, []) := by
  have read := readExactly_padded positive small []
  rwa [List.append_nil] at read

theorem readDigits_padded (rest : List Char) :
    readDigits width (padded width value ++ rest) = some (value, rest) := by
  have long := length_padded positive small
  have digits : (padded width value).takeWhile Text.isDigit = padded width value :=
    List.takeWhile_eq_self_iff.mpr fun _ => isDigit_of_mem_padded
  obtain ⟨first, others, written, _⟩ := exists_padded_eq_cons width value
  rw [readDigits, List.take_left' long, digits, List.drop_left' rfl, decimal_padded, written]
  rfl

end Fits

end Padded

theorem readPair_padded {value : Nat} (small : value < 100) (rest : List Char) :
    readPair (padded 2 value ++ rest) = some (value, rest) := by
  rw [readPair, trimStart_padded, readDigits_padded (by decide) small]

theorem readYear_padded {value : Nat} (small : value < 10000) (rest : List Char) :
    readYear (padded 4 value ++ rest) = some ((value : Int), rest) := by
  have read : readDigits 4 (padded 4 value ++ rest) = some (value, rest) :=
    readDigits_padded (by decide) small rest
  obtain ⟨first, digits, written, digit⟩ := exists_padded_eq_cons 4 value
  rw [written] at read ⊢
  unfold readYear
  split
  case h_1 _ same =>
    rw [(List.cons.inj same).1] at digit
    cases digit
  case h_2 _ same =>
    rw [(List.cons.inj same).1] at digit
    cases digit
  case h_3 => rw [read]; rfl

/-- Three digits after the point are milliseconds. -/
theorem readFraction_padded {value : Nat} (small : value < 1000) {rest : List Char}
    (ends : ∀ c ∈ rest.head?, Text.isDigit c = false) :
    readFraction (padded 3 value ++ rest) = some (value * 1000000, rest) := by
  have long : (padded 3 value).length = 3 := length_padded (by decide) small
  have digits : ((padded 3 value ++ rest).take 9).takeWhile Text.isDigit = padded 3 value := by
    have stops : (rest.take 6).takeWhile Text.isDigit = [] := by
      cases rest with
      | nil => rfl
      | cons c rest => exact List.takeWhile_cons_of_neg (by simpa using ends c rfl)
    have whole : (padded 3 value).take 9 = padded 3 value :=
      List.take_of_length_le (by rw [long]; decide)
    rw [List.take_append, long, whole,
      List.takeWhile_append_of_pos fun _ => isDigit_of_mem_padded, stops, List.append_nil]
  have left : rest.dropWhile Text.isDigit = rest := by
    cases rest with
    | nil => rfl
    | cons c rest => exact List.dropWhile_cons_of_neg (by simpa using ends c rfl)
  obtain ⟨first, others, written, _⟩ := exists_padded_eq_cons 3 value
  have nonempty : (padded 3 value).isEmpty = false := by
    rw [written]
    rfl
  rw [readFraction, digits, nonempty, long, decimal_padded, List.drop_left' long, left]
  rfl

/-! ### Texts of fields -/

namespace Fields

/-- Every field has a place of a fixed width, and the nanoseconds are whole milliseconds. -/
structure Writable (fields : Fields) : Prop where
  year_nonneg : 0 ≤ fields.year
  year_le : fields.year ≤ 9999
  month_lt : fields.month < 100
  day_lt : fields.day < 100
  hour_lt : fields.hour < 100
  minute_lt : fields.minute < 100
  second_lt : fields.second < 100
  nano_lt : fields.nano < 1000000000
  nano_mod : fields.nano % 1000000 = 0

section Text

variable (fields : Fields)

/-- Year, month and day. -/
def dateText : List Char :=
  padded 4 fields.year.toNat ++ '-' :: (padded 2 fields.month ++ '-' :: padded 2 fields.day)

/-- Hour and minute. -/
def minuteText : List Char :=
  padded 2 fields.hour ++ ':' :: padded 2 fields.minute

/-- Hour, minute, second and milliseconds. -/
def secondText : List Char :=
  fields.minuteText ++ ':' :: (padded 2 fields.second ++ '.' :: padded 3 (fields.nano / 1000000))

end Text

variable {fields : Fields} (writable : fields.Writable)
include writable

theorem Writable.year_lt : fields.year.toNat < 10000 := by
  have most := writable.year_le
  omega

theorem Writable.natCast_year : (fields.year.toNat : Int) = fields.year :=
  Int.toNat_of_nonneg writable.year_nonneg

theorem Writable.milli_lt : fields.nano / 1000000 < 1000 := by
  have small := writable.nano_lt
  omega

theorem Writable.nano_eq : fields.nano / 1000000 * 1000000 = fields.nano := by
  have whole := writable.nano_mod
  omega

end Fields

/-! ### Reading step by step -/

theorem bind_of_eq_some {α β : Type} {read : Option α} {value : α} (next : α → Option β)
    (found : read = some value) : (read >>= next) = next value := by
  rw [found]
  rfl

theorem bind_of_eq_none {α β : Type} {read : Option α} (next : α → Option β)
    (failed : read = none) : (read >>= next) = none := by
  rw [failed]
  rfl

theorem readPieces_append (left right : List Piece) (fields : Fields) (cs : List Char) :
    readPieces (left ++ right) fields cs =
      (readPieces left fields cs).bind fun read => readPieces right read.1 read.2 := by
  induction left generalizing fields cs with
  | nil => rfl
  | cons piece left inductionHypothesis =>
      rw [List.cons_append, readPieces, readPieces, Option.bind_eq_bind, Option.bind_assoc]
      exact congrArg _ (funext fun read => inductionHypothesis read.1 read.2)

section Pieces

variable {fields : Fields} (writable : fields.Writable) (start : Fields) (rest : List Char)
include writable

theorem readPieces_datePieces :
    readPieces datePieces start (fields.dateText ++ rest) =
      some ({ start with
        year := fields.year, month := fields.month, day := fields.day }, rest) := by
  rw [Fields.dateText]
  simp only [List.append_assoc, List.cons_append, datePieces, readPieces, Piece.read,
    trimStart_padded, readYear_padded writable.year_lt, readPair_padded writable.month_lt,
    readPair_padded writable.day_lt, writable.natCast_year, Option.map_some, Option.bind_eq_bind,
    Option.bind_some, if_true]

theorem readPieces_minutePieces :
    readPieces minutePieces start (fields.minuteText ++ rest) =
      some ({ start with hour := fields.hour, minute := fields.minute }, rest) := by
  rw [Fields.minuteText]
  simp only [List.append_assoc, List.cons_append, minutePieces, readPieces, Piece.read,
    readPair_padded writable.hour_lt, readPair_padded writable.minute_lt, Option.map_some,
    Option.bind_eq_bind, Option.bind_some, if_true]

theorem readPieces_minutePieces_all :
    readPieces minutePieces start fields.minuteText =
      some ({ start with hour := fields.hour, minute := fields.minute }, []) := by
  have read := readPieces_minutePieces writable start []
  rwa [List.append_nil] at read

theorem readPieces_secondPieces :
    readPieces secondPieces start fields.secondText =
      some ({ start with
        hour := fields.hour, minute := fields.minute, second := fields.second,
        nano := fields.nano }, []) := by
  have fraction : readFraction (padded 3 (fields.nano / 1000000) ++ []) =
      some (fields.nano / 1000000 * 1000000, []) := readFraction_padded writable.milli_lt nofun
  rw [List.append_nil, writable.nano_eq] at fraction
  rw [secondPieces, readPieces_append, Fields.secondText, readPieces_minutePieces writable]
  simp only [readPieces, Piece.read, readPair_padded writable.second_lt, fraction,
    Option.map_some, Option.bind_eq_bind, Option.bind_some, if_true]

end Pieces

end Reservations.Calendar
