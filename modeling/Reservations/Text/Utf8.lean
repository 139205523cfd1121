namespace Reservations.Text

/-! ## Texts in UTF-8

Bytes that are no text are still read: every stretch that cannot be part of a
character becomes the replacement character. -/

/-- The character that stands for bytes that are no character. -/
def replacement : Char := '\ufffd'

/-- The beginning of a character: the bits read so far, how many bytes are
missing, and the bounds of the next one. -/
structure Beginning where
  bits : Nat
  missing : Nat
  low : UInt8
  high : UInt8

/-- What a first byte brings: characters, or the beginning of one. -/
def beginWith (byte : UInt8) : List Char × Option Beginning :=
  let n := byte.toNat
  if n < 0x80 then ([Char.ofNat n], none)
  else if 0xc2 ≤ n ∧ n ≤ 0xdf then ([], some ⟨n % 32, 1, 0x80, 0xbf⟩)
  else if n = 0xe0 then ([], some ⟨0, 2, 0xa0, 0xbf⟩)
  else if n = 0xed then ([], some ⟨13, 2, 0x80, 0x9f⟩)
  else if 0xe1 ≤ n ∧ n ≤ 0xef then ([], some ⟨n % 16, 2, 0x80, 0xbf⟩)
  else if n = 0xf0 then ([], some ⟨0, 3, 0x90, 0xbf⟩)
  else if 0xf1 ≤ n ∧ n ≤ 0xf3 then ([], some ⟨n % 8, 3, 0x80, 0xbf⟩)
  else if n = 0xf4 then ([], some ⟨4, 3, 0x80, 0x8f⟩)
  else ([replacement], none)

/-- What one more byte brings to the beginning of a character. -/
def Beginning.goOn (start : Beginning) (byte : UInt8) : List Char × Option Beginning :=
  if start.low ≤ byte ∧ byte ≤ start.high then
    let bits := start.bits * 64 + byte.toNat % 64
    if start.missing ≤ 1 then ([Char.ofNat bits], none)
    else ([], some ⟨bits, start.missing - 1, 0x80, 0xbf⟩)
  else
    let (chars, next) := beginWith byte
    (replacement :: chars, next)

/-- Reads bytes, after the beginning of a character if there is one. -/
def repairFrom : Option Beginning → List UInt8 → List Char
  | none, [] => []
  | some _, [] => [replacement]
  | none, byte :: bytes =>
      let (chars, next) := beginWith byte
      chars ++ repairFrom next bytes
  | some start, byte :: bytes =>
      let (chars, next) := start.goOn byte
      chars ++ repairFrom next bytes

/-- The text that bytes are taken for. Valid bytes are taken for what they
are. -/
def ofBytes (bytes : List UInt8) : String :=
  match String.fromUTF8? ⟨bytes.toArray⟩ with
  | some text => text
  | none => String.ofList (repairFrom none bytes)

end Reservations.Text
