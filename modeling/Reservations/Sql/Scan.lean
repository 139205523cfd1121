import Reservations.Sql.Token
import Reservations.Text.Alphanumeric

namespace Reservations.Sql

/-! ## From characters to tokens

Blanks and comments separate tokens and are dropped. A text with an unclosed
quote or comment, or with a wrong escape, has no tokens. -/

/-- Whether a character is an ASCII blank. -/
def isSpace (c : Char) : Bool :=
  c.toNat = 0x20 || (0x09 ≤ c.toNat && c.toNat ≤ 0x0d)

/-- Whether a name can begin with a character. -/
def startsName (c : Char) : Bool :=
  c.isAlpha || c = '_' || 128 ≤ c.toNat

/-- Whether a name can go on with a character. -/
def continuesName (c : Char) : Bool :=
  startsName c || Text.isDigit c || c = '$'

/-- Whether a character is a hexadecimal digit. -/
def isHexDigit (c : Char) : Bool :=
  (Text.hexValue? c).isSome

/-! ### Comments -/

/-- What follows a comment, which may hold others, after its opening. -/
def skipComment? : (depth : Nat) → List Char → Option (List Char)
  | depth, '/' :: '*' :: cs => skipComment? (depth + 1) cs
  | 0, '*' :: '/' :: cs => some cs
  | depth + 1, '*' :: '/' :: cs => skipComment? depth cs
  | depth, _ :: cs => skipComment? depth cs
  | _, [] => none

/-- What follows a comment that ends with its line. -/
def skipLine (cs : List Char) : List Char :=
  cs.dropWhile fun c => c ≠ '\n' && c ≠ '\r'

/-! ### Quoted texts -/

/-- What follows an opening quote up to the closing one, where a backslash
stands before a character with a special meaning. -/
def readBackslashed? : (read : List Char) → List Char → Option (List Char × List Char)
  | read, '\\' :: c :: cs =>
      let meaning :=
        match c with
        | '0' => '\x00'
        | 'a' => '\x07'
        | 'b' => '\x08'
        | 'f' => '\x0c'
        | 'n' => '\n'
        | 'r' => '\r'
        | 't' => '\t'
        | 'Z' => '\x1a'
        | c => c
      readBackslashed? (meaning :: read) cs
  | read, '\'' :: '\'' :: cs => readBackslashed? ('\'' :: read) cs
  | read, '\'' :: cs => some (read.reverse, cs)
  | read, c :: cs => readBackslashed? (c :: read) cs
  | _, [] => none

/-- The character of a code point. -/
def charOfCode? (code : Nat) : Option Char :=
  if code.isValidChar then some (Char.ofNat code) else none

/-- The number that all of some hexadecimal digits denote. -/
def hexNumber? (digits : List Char) : Option Nat :=
  (digits.mapM Text.hexValue?).map (Text.ofDigits 16)

/-- The ASCII character of a byte, of which only the low eight bits count. -/
def charOfByte? (value : Nat) : Option Char :=
  if value % 256 < 128 then some (Char.ofNat (value % 256)) else none

/-- The character that `count` hexadecimal digits after an escape denote. The
first digit may be a plus sign. -/
def codeEscape? (count : Nat) (cs : List Char) : Option (Char × Nat) :=
  let digits := cs.take count
  let digits' := if digits.head? = some '+' then digits.drop 1 else digits
  if digits.length < count ∨ digits'.isEmpty then none
  else ((hexNumber? digits').bind charOfCode?).map (·, count + 1)

/-- The character that an escape denotes, and the count of characters after the
backslash that it takes. -/
def escape? : List Char → Option (Char × Nat)
  | [] => none
  | 'b' :: _ => some ('\x08', 1)
  | 'f' :: _ => some ('\x0c', 1)
  | 'n' :: _ => some ('\n', 1)
  | 'r' :: _ => some ('\r', 1)
  | 't' :: _ => some ('\t', 1)
  | 'u' :: cs => codeEscape? 4 cs
  | 'U' :: cs => codeEscape? 8 cs
  | 'x' :: cs =>
      let digits := (cs.take 2).takeWhile isHexDigit
      if digits.isEmpty then some ('x', 1)
      else ((hexNumber? digits).bind charOfByte?).map (·, digits.length + 1)
  | c :: cs =>
      let isOctal (d : Char) : Bool := '0' ≤ d && d ≤ '7'
      if isOctal c then
        let digits := c :: (cs.take 2).takeWhile isOctal
        (charOfByte? (Text.ofDigits 8 (digits.map fun d => d.toNat - 48))).map
          (·, digits.length)
      else some (c, 1)

/-- What follows an opening quote up to the closing one, with escapes. The count
says how many characters an escape has already taken. -/
def readEscaped? :
    (taken : Nat) → (read : List Char) → List Char → Option (List Char × List Char)
  | taken + 1, read, _ :: cs => readEscaped? taken read cs
  | 0, read, '\'' :: '\'' :: cs => readEscaped? 0 ('\'' :: read) cs
  | 0, read, '\'' :: cs => some (read.reverse, cs)
  | 0, read, '\\' :: cs =>
      match escape? cs with
      | none => none
      | some (c, taken) => if c = '\x00' then none else readEscaped? taken (c :: read) cs
  | 0, read, c :: cs => readEscaped? 0 (c :: read) cs
  | _, _, [] => none

/-- The character that an escape for a code point denotes, and the count of
characters after the backslash that it takes. -/
def codePoint? : List Char → Option (Char × Nat)
  | '\\' :: _ => some ('\\', 1)
  | '+' :: cs =>
      if cs.length < 6 then none
      else ((hexNumber? (cs.take 6)).bind charOfCode?).map (·, 7)
  | cs =>
      if cs.length < 4 then none
      else ((hexNumber? (cs.take 4)).bind charOfCode?).map (·, 4)

/-- What follows an opening quote up to the closing one, with escapes for code
points. The count says how many characters an escape has already taken. -/
def readCodePoints? :
    (taken : Nat) → (read : List Char) → List Char → Option (List Char × List Char)
  | taken + 1, read, _ :: cs => readCodePoints? taken read cs
  | 0, read, '\'' :: '\'' :: cs => readCodePoints? 0 ('\'' :: read) cs
  | 0, read, '\'' :: cs => some (read.reverse, cs)
  | 0, read, '\\' :: cs =>
      match codePoint? cs with
      | none => none
      | some (c, taken) => readCodePoints? taken (c :: read) cs
  | 0, read, c :: cs => readCodePoints? 0 (c :: read) cs
  | _, _, [] => none

/-- What comes before and after the first occurrence of a text. -/
def splitAtFirst? (stop : List Char) :
    (read : List Char) → List Char → Option (List Char × List Char)
  | read, [] => if stop.isEmpty then some (read.reverse, []) else none
  | read, c :: cs =>
      if stop.isPrefixOf (c :: cs) then
        some (read.reverse, (c :: cs).drop stop.length)
      else splitAtFirst? stop (c :: read) cs

/-- The token after a dollar sign: a text up to the same tag between dollar
signs, or a placeholder. -/
def readDollar? (cs : List Char) : Option (Token × List Char) :=
  let (tag, rest) := cs.span fun c => Text.isAlphanumeric c || c = '_'
  match rest with
  | '$' :: body =>
      (splitAtFirst? ('$' :: tag ++ ['$']) [] body).map fun (value, rest) =>
        let tag := if tag.isEmpty then none else some (String.ofList tag)
        (.literal (.dollar tag (String.ofList value)), rest)
  | rest => some (.literal (.placeholder (String.ofList ('$' :: tag))), rest)

/-! ### Numbers -/

/-- Splits off digits. An underscore is taken for one where a hexadecimal digit
follows it. -/
def spanDigits (isDigit : Char → Bool) : List Char → List Char × List Char
  | [] => ([], [])
  | c :: cs =>
      if isDigit c || (c = '_' && cs.head?.any isHexDigit) then
        let (digits, rest) := spanDigits isDigit cs
        (c :: digits, rest)
      else ([], c :: cs)

/-- Splits off the exponent of a number. -/
def spanExponent (cs : List Char) : List Char × List Char :=
  let (mark, rest) := cs.span fun c => c = 'e' || c = 'E'
  let (sign, rest) :=
    match rest with
    | '+' :: rest => (['+'], rest)
    | '-' :: rest => (['-'], rest)
    | rest => ([], rest)
  let (digits, rest) := rest.span Text.isDigit
  if mark.length = 1 ∧ digits ≠ [] then (mark ++ sign ++ digits, rest) else ([], cs)

/-- The token that begins with a digit or a period. -/
def readNumber (cs : List Char) : Token × List Char :=
  match spanDigits Text.isDigit cs with
  | (['0'], 'x' :: rest) =>
      let (digits, rest) := spanDigits isHexDigit rest
      (.literal (.hexadecimal (String.ofList digits)), rest)
  | (whole, rest) =>
      let (point, rest) :=
        match rest with
        | '.' :: rest => (['.'], rest)
        | rest => ([], rest)
      let (fraction, rest) := spanDigits Text.isDigit rest
      if whole.isEmpty ∧ fraction.isEmpty then (.mark .period, rest)
      else
        let (exponent, rest) := spanExponent rest
        let digits := String.ofList (whole ++ point ++ fraction ++ exponent)
        match rest with
        | 'L' :: rest => (.literal (.number digits true), rest)
        | rest => (.literal (.number digits false), rest)

/-! ### Operators -/

/-- Whether more operator characters make an operator a longer one. -/
inductive Growth where
  | fixed
  | mayGrow
  | mustGrow
  deriving DecidableEq, Repr

/-- The operators, a longer one before those that it begins with. -/
def operators : List (String × Growth) :=
  [("->>", .mayGrow), ("->", .mayGrow), ("-", .mayGrow), ("/", .fixed), ("+", .fixed),
    ("*", .fixed), ("%", .mayGrow), ("||/", .mayGrow), ("||", .mayGrow), ("|/", .mayGrow),
    ("|&>", .mayGrow), ("|&", .mustGrow), ("|>>", .mayGrow), ("|>", .mustGrow),
    ("|", .mayGrow), ("=>", .fixed), ("==", .fixed), ("=", .fixed), ("!=", .fixed),
    ("!!", .fixed), ("!~~*", .fixed), ("!~~", .fixed), ("!~*", .fixed), ("!~", .fixed),
    ("!", .fixed), ("<=>", .mayGrow), ("<=", .mayGrow), ("<>", .mayGrow), ("<<|", .mayGrow),
    ("<<", .mayGrow), ("<->", .mayGrow), ("<-", .mustGrow), ("<^", .mayGrow),
    ("<@", .mayGrow), ("<|", .mayGrow), ("<", .mayGrow), (">=", .mayGrow), (">>", .mayGrow),
    (">^", .mayGrow), (">", .mayGrow), ("::", .fixed), (":=", .fixed), ("&>", .fixed),
    ("&<|", .fixed), ("&<", .mayGrow), ("&&", .mayGrow), ("&", .mayGrow), ("^@", .fixed),
    ("^", .fixed), ("~~*", .mayGrow), ("~~", .mayGrow), ("~*", .mayGrow), ("~=", .mayGrow),
    ("~", .mayGrow), ("#-", .mayGrow), ("#>>", .mayGrow), ("#>", .mayGrow), ("##", .mayGrow),
    ("#", .mayGrow), ("@@", .fixed), ("@-@", .fixed), ("@-", .mustGrow), ("@>", .fixed),
    ("@?", .fixed), ("?||", .fixed), ("?|", .fixed), ("?&", .fixed), ("?-|", .fixed),
    ("?-", .fixed), ("?#", .fixed), ("?", .fixed)]

/-- The characters that an operator can grow by. -/
def growsOperator (c : Char) : Bool :=
  "+-*/<>=~!@#%^&|`?".toList.contains c

/-- The operators that take one more character along, which is lost. -/
def greedyOperators : List String :=
  ["?", "&>"]

/-- The token of an operator. Some have two writings. -/
def operatorToken (text more : String) : Token :=
  .operator ((if text = "<|" then "<<|" else text) ++ more)

/-- The operator that a text begins with. There is none where an operator that
must grow does not. -/
def readOperator? (cs : List Char) : Option (Option (Token × List Char)) :=
  (operators.find? fun (text, _) => text.toList.isPrefixOf cs).map fun (text, growth) =>
    let rest := cs.drop text.length
    match growth with
    | .fixed =>
        some (.operator text, if greedyOperators.contains text then rest.drop 1 else rest)
    | _ =>
        let (more, rest) := rest.span growsOperator
        if growth = .mustGrow ∧ more.isEmpty then none
        else some (operatorToken text (String.ofList more), rest)

/-! ### Words and marks -/

/-- The token of a word that begins with a character. -/
def readWord (c : Char) (cs : List Char) : Token × List Char :=
  let (more, rest) := cs.span continuesName
  (.word (String.ofList (c :: more)) (Keyword.ofWord? (c :: more)), rest)

/-- Makes a literal of what has been read between quotes. -/
def asLiteral (kind : String → Literal) (read : Option (List Char × List Char)) :
    Option (Token × List Char) :=
  read.map fun (value, rest) => (.literal (kind (String.ofList value)), rest)

/-- The token that begins with a character that a name can begin with: a word,
or a literal whose kind a letter before the quote tells. -/
def readNamed? (c : Char) (cs : List Char) : Option (Token × List Char) :=
  match c.toLower, cs with
  | 'b', '\'' :: body => asLiteral .bits (Text.readDoubled? '\'' false [] body)
  | 'b', '"' :: body => asLiteral .quotedBits (Text.readDoubled? '"' false [] body)
  | 'n', '\'' :: body => asLiteral .national (Text.readDoubled? '\'' false [] body)
  | 'e', '\'' :: body => asLiteral .escaped (readEscaped? 0 [] body)
  | 'u', '&' :: '\'' :: body => asLiteral .unicode (readCodePoints? 0 [] body)
  | 'x', '\'' :: body => asLiteral .hexadecimal (readBackslashed? [] body)
  | _, cs => some (readWord c cs)

/-- The mark that a character is. -/
def markOf? : Char → Option Mark
  | '(' => some .openParen
  | ')' => some .closeParen
  | '[' => some .openBracket
  | ']' => some .closeBracket
  | '\x7b' => some .openBrace
  | '\x7d' => some .closeBrace
  | ',' => some .comma
  | ';' => some .semicolon
  | _ => none

/-- Whether a text begins with something that separates tokens. -/
def startsGap : List Char → Bool
  | [] => true
  | '-' :: '-' :: _ => true
  | '/' :: '*' :: _ => true
  | c :: _ => isSpace c

/-- The token that begins with a character which starts neither a word, a
number, a quoted text nor a gap. -/
def readOther? (c : Char) (cs : List Char) : Option (Token × List Char) :=
  match markOf? c with
  | some mark => some (.mark mark, cs)
  | none =>
      match readOperator? (c :: cs) with
      | some found => found
      | none =>
          let token : Token :=
            if c = ':' then .colon (!startsGap cs)
            else if c = '@' then .atSign (!startsGap cs)
            else .stray c
          some (token, cs)

/-- The first token of a text, if it begins with one and not with a gap, and
what follows. A period before an underscore is only right after a word. -/
def step? (afterWord : Bool) (c : Char) (cs : List Char) :
    Option (Option Token × List Char) :=
  if isSpace c then some (none, cs)
  else if startsName c then (readNamed? c cs).map fun (token, rest) => (some token, rest)
  else
    match c, cs with
    | '-', '-' :: rest => some (none, skipLine rest)
    | '/', '*' :: rest => (skipComment? 0 rest).map (none, ·)
    | '\'', body =>
        (asLiteral .text (Text.readDoubled? '\'' false [] body)).map fun (token, rest) =>
          (some token, rest)
    | '"', body =>
        (Text.readDoubled? '"' false [] body).map fun (name, rest) =>
          (some (.quoted (String.ofList name)), rest)
    | '$', rest => (readDollar? rest).map fun (token, rest) => (some token, rest)
    | '.', '_' :: rest => if afterWord then some (some (.mark .period), '_' :: rest) else none
    | c, cs =>
        if c = '.' || Text.isDigit c then
          let (token, rest) := readNumber (c :: cs)
          some (some token, rest)
        else (readOther? c cs).map fun (token, rest) => (some token, rest)

/-- Scans a text onto the tokens already found, in no more steps than it has
characters. -/
def scanOnto? :
    (steps : Nat) → (afterWord : Bool) → (found : List Token) → List Char →
      Option (List Token)
  | _, _, found, [] => some found.reverse
  | 0, _, _, _ :: _ => none
  | steps + 1, afterWord, found, c :: cs =>
      match step? afterWord c cs with
      | none => none
      | some (none, rest) => scanOnto? steps false found rest
      | some (some token, rest) => scanOnto? steps token.isWord (token :: found) rest

/-- The tokens of a text. -/
def scan? (cs : List Char) : Option (List Token) :=
  scanOnto? cs.length false [] cs

end Reservations.Sql
