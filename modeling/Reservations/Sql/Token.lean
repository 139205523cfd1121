import Reservations.Sql.Keyword
import Reservations.Sql.Literal

namespace Reservations.Sql

/-! ## Tokens -/

/-- A mark that separates or groups. -/
inductive Mark where
  | openParen
  | closeParen
  | openBracket
  | closeBracket
  | openBrace
  | closeBrace
  | comma
  | period
  | semicolon
  deriving DecidableEq, Repr

/-- A mark as it is written. -/
def Mark.text : Mark → String
  | openParen => "("
  | closeParen => ")"
  | openBracket => "["
  | closeBracket => "]"
  | openBrace => "\x7b"
  | closeBrace => "\x7d"
  | comma => ","
  | period => "."
  | semicolon => ";"

/-- The smallest parts of a statement. -/
inductive Token where
  /-- A word without quotes, which may be a keyword. -/
  | word (text : String) (keyword : Option Keyword)
  /-- A word in double quotes, which never is a keyword. -/
  | quoted (text : String)
  | literal (value : Literal)
  | operator (text : String)
  | mark (separator : Mark)
  /-- A colon, and whether the next token follows it directly. -/
  | colon (tight : Bool)
  /-- An at sign, and whether the next token follows it directly. -/
  | atSign (tight : Bool)
  /-- A character that no statement has use for. -/
  | stray (c : Char)
  deriving DecidableEq, Repr, Inhabited

namespace Token

/-- Whether a token is a word, with or without quotes. -/
def isWord : Token → Bool
  | word .. | quoted _ => true
  | _ => false

/-- The keyword that a token is, if it is one. -/
def keyword? : Token → Option Keyword
  | word _ keyword => keyword
  | _ => none

/-- A token as it is written. -/
def text : Token → String
  | word text _ => text
  | quoted text => s!"\"{text}\""
  | literal (.text value) => s!"'{value}'"
  | literal (.escaped value) => s!"E'{value}'"
  | literal (.unicode value) => s!"U&'{value}'"
  | literal value => value.render
  | operator "!=" => "<>"
  | operator text => text
  | mark separator => separator.text
  | colon _ => ":"
  | atSign _ => "@"
  | stray c => String.singleton c

end Token

end Reservations.Sql
