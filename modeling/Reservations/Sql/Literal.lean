import Reservations.Text.Quoted

namespace Reservations.Sql

/-! ## Literals -/

/-- A value that is written out in a statement. Numbers are kept as they are
written. -/
inductive Literal where
  | null
  | boolean (value : Bool)
  | number (digits : String) (long : Bool)
  | text (value : String)
  /-- A text in double quotes, where no name can stand. -/
  | doubleQuoted (value : String)
  /-- A text with backslash escapes. -/
  | escaped (value : String)
  /-- A text with escapes for code points. -/
  | unicode (value : String)
  | national (value : String)
  | hexadecimal (value : String)
  | bits (value : String)
  | quotedBits (value : String)
  /-- A text between dollar signs, which may have a tag between them. -/
  | dollar (tag : Option String) (value : String)
  | placeholder (name : String)
  deriving DecidableEq, Repr, Inhabited

namespace Literal

/-- A text with its quotes doubled, but for those that come in pairs or after a
backslash, which are taken to be protected already. The flag says that the next
character is the second one of a pair. -/
def protect (quote : Char) : (previous : Char) → (paired : Bool) → List Char → List Char
  | _, _, [] => []
  | _, true, c :: cs => c :: protect quote c false cs
  | previous, false, c :: cs =>
      if c ≠ quote then c :: protect quote c false cs
      else if previous = '\\' then c :: protect quote previous false cs
      else if cs.head? = some quote then c :: protect quote c true cs
      else c :: c :: protect quote c false cs

/-- A text between quotes. -/
def enclose (quote : Char) (value : String) : String :=
  String.ofList (quote :: protect quote ' ' false value.toList ++ [quote])

/-- How a character of an escaped text is written. -/
def escapedChar : Char → List Char
  | '\'' => ['\\', '\'']
  | '\\' => ['\\', '\\']
  | '\n' => ['\\', 'n']
  | '\t' => ['\\', 't']
  | '\r' => ['\\', 'r']
  | c => [c]

/-- The upper-case hexadecimal digits of a code point, filled up with zeros. -/
def codeDigits (count code : Nat) : List Char :=
  (Text.toDigits 16 count code).map fun digit => (Text.hexDigit digit).toUpper

/-- How a character of a text with escapes for code points is written. -/
def unicodeChar (c : Char) : List Char :=
  if c = '\'' then ['\'', '\'']
  else if c = '\\' then ['\\', '\\']
  else if c.toNat < 128 then [c]
  else if c.toNat < 0xffff then '\\' :: codeDigits 4 c.toNat
  else ['\\', '+'] ++ codeDigits 6 c.toNat

/-- A text with a writing for each of its characters. -/
def spelled (write : Char → List Char) (value : String) : String :=
  String.ofList (value.toList.flatMap write)

/-- The word for a truth value. -/
def truthText (value : Bool) : String :=
  if value then "true" else "false"

/-- A literal as it is written in normal form. -/
def render : Literal → String
  | null => "NULL"
  | boolean value => truthText value
  | number digits long => if long then digits ++ "L" else digits
  | text value => enclose '\'' value
  | doubleQuoted value => enclose '"' value
  | escaped value =>
      let body := spelled escapedChar value
      s!"E'{body}'"
  | unicode value =>
      let body := spelled unicodeChar value
      s!"U&'{body}'"
  | national value => s!"N'{value}'"
  | hexadecimal value => s!"X'{value}'"
  | bits value => s!"B'{value}'"
  | quotedBits value => s!"B\"{value}\""
  | dollar tag value =>
      let mark := "$" ++ tag.getD "" ++ "$"
      s!"{mark}{value}{mark}"
  | placeholder name => name

/-- A kind with the parts of a value of that kind. -/
def shownWith (kind : String) (parts : List String) : String :=
  let body := ", ".intercalate parts
  s!"{kind}({body})"

/-- A literal with its kind, as it is shown where another kind was wanted. -/
def shown : Literal → String
  | null => "Null"
  | boolean value => shownWith "Boolean" [truthText value]
  | number digits long => shownWith "Number" [Text.visible digits, truthText long]
  | text value => shownWith "SingleQuotedString" [Text.visible value]
  | doubleQuoted value => shownWith "DoubleQuotedString" [Text.visible value]
  | escaped value => shownWith "EscapedStringLiteral" [Text.visible value]
  | unicode value => shownWith "UnicodeStringLiteral" [Text.visible value]
  | national value => shownWith "NationalStringLiteral" [Text.visible value]
  | hexadecimal value => shownWith "HexStringLiteral" [Text.visible value]
  | bits value => shownWith "SingleQuotedByteStringLiteral" [Text.visible value]
  | quotedBits value => shownWith "DoubleQuotedByteStringLiteral" [Text.visible value]
  | dollar tag value =>
      let body := Text.visible value
      let mark :=
        match tag with
        | none => "None"
        | some name => shownWith "Some" [Text.visible name]
      shownWith "DollarQuotedString"
        [s!"DollarQuotedString \x7b value: {body}, tag: {mark} \x7d"]
  | placeholder name => shownWith "Placeholder" [Text.visible name]

end Literal

end Reservations.Sql
