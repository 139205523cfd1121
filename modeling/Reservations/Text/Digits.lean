namespace Reservations.Text

/-! ## Positional numerals

Reading and writing numbers in a fixed count of digits, most significant
first. The alphabet is given by a function from digit values to characters. -/

/-- The number that a list of digit values denotes in a base. -/
def ofDigits (base : Nat) (digits : List Nat) : Nat :=
  digits.foldl (fun total digit => total * base + digit) 0

/-- The last `count` digits of a number in a base. -/
def toDigits (base : Nat) : (count : Nat) → (value : Nat) → List Nat
  | 0, _ => []
  | count + 1, value => toDigits base count (value / base) ++ [value % base]

theorem length_toDigits (base count value : Nat) :
    (toDigits base count value).length = count := by
  induction count generalizing value with
  | zero => rfl
  | succ count inductionHypothesis => simp [toDigits, inductionHypothesis]

theorem ofDigits_append_singleton (base digit : Nat) (digits : List Nat) :
    ofDigits base (digits ++ [digit]) = ofDigits base digits * base + digit := by
  simp [ofDigits]

/-- Reading the last digits of a number gives its remainder. -/
theorem ofDigits_toDigits (base count value : Nat) :
    ofDigits base (toDigits base count value) = value % Nat.pow base count := by
  induction count generalizing value with
  | zero => simp [toDigits, ofDigits, Nat.mod_one]
  | succ count inductionHypothesis =>
      change _ = value % (Nat.pow base count * base)
      rw [toDigits, ofDigits_append_singleton, inductionHypothesis,
        Nat.mul_comm (Nat.pow base count) base, Nat.mod_mul, Nat.mul_comm base,
        Nat.add_comm]

/-- The value of a hexadecimal digit in either case. -/
def hexValue? (c : Char) : Option Nat :=
  if '0' ≤ c ∧ c ≤ '9' then some (c.toNat - 48)
  else if 'a' ≤ c ∧ c ≤ 'f' then some (c.toNat - 87)
  else if 'A' ≤ c ∧ c ≤ 'F' then some (c.toNat - 55)
  else none

/-- The lower-case hexadecimal digit of a value below sixteen. -/
def hexDigit (value : Nat) : Char :=
  if value < 10 then Char.ofNat (48 + value) else Char.ofNat (87 + value)

/-- Whether a character is one of the ten ASCII digits. -/
def isDigit (c : Char) : Bool :=
  '0' ≤ c && c ≤ '9'

/-- The number that a list of ASCII digits denotes. -/
def decimal (digits : List Char) : Nat :=
  ofDigits 10 (digits.map fun c => c.toNat - 48)

end Reservations.Text
