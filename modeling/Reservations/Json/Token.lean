namespace Reservations.Json

/-! ## Tokens of JSON

The lexer takes one byte at a time. The bytes between the quotes of a text are
kept as they are written: they may hold any escape of the right form, and need
not be UTF-8. -/

/-- The bytes of ASCII characters. -/
def ascii (text : String) : List UInt8 :=
  text.toUTF8.data.toList

/-- A token. -/
inductive Token where
  | openArray
  | closeArray
  | openObject
  | closeObject
  | comma
  | colon
  | null
  | bool (value : Bool)
  /-- A number as it is written. -/
  | number (written : List UInt8)
  /-- The bytes between the quotes of a text, as they are written. -/
  | text (written : List UInt8)
  deriving DecidableEq, Repr, Inhabited

/-- How much of a number has been read. -/
inductive NumberPart where
  | sign
  | zero
  | digits
  | point
  | fraction
  | exponent
  | exponentSign
  | exponentDigits
  deriving DecidableEq, Repr

/-- Whether a number may end after a part. -/
def NumberPart.complete : NumberPart → Bool
  | zero | digits | fraction | exponentDigits => true
  | sign | point | exponent | exponentSign => false

/-- Whether a byte is an ASCII digit. -/
def isDigit (byte : UInt8) : Bool :=
  48 ≤ byte && byte ≤ 57

/-- Whether a byte is a hexadecimal digit. -/
def isHex (byte : UInt8) : Bool :=
  isDigit byte || (65 ≤ byte && byte ≤ 70) || (97 ≤ byte && byte ≤ 102)

/-- Whether a byte is a blank between tokens. -/
def isSpace (byte : UInt8) : Bool :=
  byte = 32 || byte = 10 || byte = 9 || byte = 13

/-- The part of a number that a byte goes on to, if it belongs to it. -/
def NumberPart.next? (part : NumberPart) (byte : UInt8) : Option NumberPart :=
  let digit := isDigit byte
  let mark := byte = 101 || byte = 69
  let sign := byte = 43 || byte = 45
  match part with
  | .sign => if byte = 48 then some .zero else if digit then some .digits else none
  | .zero => if byte = 46 then some .point else if mark then some .exponent else none
  | .digits =>
      if digit then some .digits
      else if byte = 46 then some .point
      else if mark then some .exponent
      else none
  | .point => if digit then some .fraction else none
  | .fraction =>
      if digit then some .fraction else if mark then some .exponent else none
  | .exponent =>
      if digit then some .exponentDigits else if sign then some .exponentSign else none
  | .exponentSign => if digit then some .exponentDigits else none
  | .exponentDigits => if digit then some .exponentDigits else none

/-- What the lexer is in the middle of. -/
inductive Mode where
  | between
  /-- A word of which some bytes are still to come. -/
  | word (rest : List UInt8) (token : Token)
  /-- A number with its bytes in reverse. -/
  | number (part : NumberPart) (written : List UInt8)
  /-- A text with its bytes in reverse. -/
  | text (written : List UInt8)
  /-- A text after a backslash. -/
  | escape (written : List UInt8)
  /-- A text in an escape of which some hexadecimal digits are still to come. -/
  | hex (left : Nat) (written : List UInt8)
  deriving DecidableEq, Repr

/-- The state of the lexer: the tokens so far, in reverse, and its mode. -/
structure LexState where
  tokens : List Token := []
  mode : Mode := .between
  deriving DecidableEq, Repr

namespace LexState

/-- Takes a byte that does not go on with the token before it. -/
def start (tokens : List Token) (byte : UInt8) : Option LexState :=
  if isSpace byte then some ⟨tokens, .between⟩
  else if byte = 123 then some ⟨.openObject :: tokens, .between⟩
  else if byte = 125 then some ⟨.closeObject :: tokens, .between⟩
  else if byte = 91 then some ⟨.openArray :: tokens, .between⟩
  else if byte = 93 then some ⟨.closeArray :: tokens, .between⟩
  else if byte = 44 then some ⟨.comma :: tokens, .between⟩
  else if byte = 58 then some ⟨.colon :: tokens, .between⟩
  else if byte = 34 then some ⟨tokens, .text []⟩
  else if byte = 110 then some ⟨tokens, .word (ascii "ull") .null⟩
  else if byte = 116 then some ⟨tokens, .word (ascii "rue") (.bool true)⟩
  else if byte = 102 then some ⟨tokens, .word (ascii "alse") (.bool false)⟩
  else if byte = 45 then some ⟨tokens, .number .sign [byte]⟩
  else if byte = 48 then some ⟨tokens, .number .zero [byte]⟩
  else if isDigit byte then some ⟨tokens, .number .digits [byte]⟩
  else none

/-- Takes one byte. -/
def step (state : LexState) (byte : UInt8) : Option LexState :=
  match state.mode with
  | .between => start state.tokens byte
  | .word rest token =>
      match rest with
      | [] => none
      | [last] => if byte = last then some ⟨token :: state.tokens, .between⟩ else none
      | first :: rest =>
          if byte = first then some ⟨state.tokens, .word rest token⟩ else none
  | .number part written =>
      match part.next? byte with
      | some part => some ⟨state.tokens, .number part (byte :: written)⟩
      | none =>
          if part.complete && !(isDigit byte) then
            start (.number written.reverse :: state.tokens) byte
          else none
  | .text written =>
      if byte = 34 then some ⟨.text written.reverse :: state.tokens, .between⟩
      else if byte = 92 then some ⟨state.tokens, .escape (byte :: written)⟩
      else if byte < 32 then none
      else some ⟨state.tokens, .text (byte :: written)⟩
  | .escape written =>
      if byte = 117 then some ⟨state.tokens, .hex 4 (byte :: written)⟩
      else if (ascii "\"\\/bfnrt").contains byte then
        some ⟨state.tokens, .text (byte :: written)⟩
      else none
  | .hex left written =>
      if isHex byte then
        if left ≤ 1 then some ⟨state.tokens, .text (byte :: written)⟩
        else some ⟨state.tokens, .hex (left - 1) (byte :: written)⟩
      else none

/-- The tokens, when the bytes do not end in the middle of one. -/
def finish (state : LexState) : Option (List Token) :=
  match state.mode with
  | .between => some state.tokens.reverse
  | .number part written =>
      if part.complete then some (.number written.reverse :: state.tokens).reverse
      else none
  | _ => none

end LexState

/-- Takes bytes one after the other. -/
def lexFrom (state : LexState) : List UInt8 → Option LexState
  | [] => some state
  | byte :: bytes =>
      match state.step byte with
      | some state => lexFrom state bytes
      | none => none

/-- The tokens of bytes. -/
def lex (bytes : List UInt8) : Option (List Token) :=
  (lexFrom {} bytes).bind LexState.finish

end Reservations.Json
