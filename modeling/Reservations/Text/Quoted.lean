import Reservations.Text.Digits
import Reservations.Text.Invisible

namespace Reservations.Text

/-! ## Texts in quotes

The ways to write a text between quotes: with every quote doubled, and with
escapes that make each character visible. -/

/-- A text with every occurrence of a quote doubled. -/
def doubled (quote : Char) : List Char → List Char
  | [] => []
  | c :: cs => if c = quote then quote :: quote :: doubled quote cs else c :: doubled quote cs

/-- What follows the opening quote of a text in which a quote is written twice:
the text, onto the characters already read, and what comes after the closing
quote. The flag says that the next character is the second quote of a pair. -/
def readDoubled? (quote : Char) :
    (paired : Bool) → (read : List Char) → List Char → Option (List Char × List Char)
  | _, _, [] => none
  | true, read, c :: cs => readDoubled? quote false (c :: read) cs
  | false, read, c :: cs =>
      if c ≠ quote then readDoubled? quote false (c :: read) cs
      else if cs.head? = some quote then readDoubled? quote true read cs
      else some (read.reverse, cs)

/-- Reading a doubled text up to a closing quote gives the text back. -/
theorem readDoubled?_doubled
    {quote : Char} {rest : List Char}
    (closed : rest.head? ≠ some quote)
    (cs read : List Char) :
    readDoubled? quote false read (doubled quote cs ++ quote :: rest) =
      some (read.reverse ++ cs, rest) := by
  induction cs generalizing read with
  | nil => simp [doubled, readDoubled?, closed]
  | cons c cs inductionHypothesis =>
      by_cases same : c = quote
      · subst same
        simp [doubled, readDoubled?, inductionHypothesis]
      · simp [doubled, readDoubled?, same, inductionHypothesis]

/-- The hexadecimal digits of a number, without leading zeros. -/
def hexDigits (value : Nat) : List Char :=
  ((toDigits 16 8 value).dropWhile (· = 0)).map hexDigit

/-- How a character is written in a text that shows every character. -/
def visibleChar (c : Char) : List Char :=
  if c = '"' then ['\\', '"']
  else if c = '\\' then ['\\', '\\']
  else if c = '\n' then ['\\', 'n']
  else if c = '\r' then ['\\', 'r']
  else if c = '\t' then ['\\', 't']
  else if c = '\x00' then ['\\', '0']
  else if isInvisible c then ['\\', 'u', '\x7b'] ++ hexDigits c.toNat ++ ['\x7d']
  else [c]

/-- A text in double quotes with every character visible. -/
def visible (s : String) : String :=
  String.ofList ('"' :: s.toList.flatMap visibleChar ++ ['"'])

end Reservations.Text
