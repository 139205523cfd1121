import Reservations.Sql.Syntax
import Reservations.Sql.Token
import Reservations.Text.Integer

namespace Reservations.Sql

/-! ## Rules over tokens

A rule reads a part of a statement from the front of the tokens. It either
gives what it has read and the tokens that are left, or fails. -/

/-- Why a rule fails. Where a rule is only tried, a wrong token makes way for
the next possibility, and nesting too deeply does not. -/
inductive Fault where
  | unexpected
  | tooDeep
  deriving DecidableEq, Repr

/-- A rule that reads a part of a statement. -/
abbrev Parse := StateT (List Token) (Except Fault)

namespace Parse

/-- The rule that no tokens follow. -/
def fail {α : Type} : Parse α :=
  throw .unexpected

/-- Tries a rule. Nothing is read where it fails. -/
def attempt {α : Type} (rule : Parse α) : Parse (Option α) := fun tokens =>
  match rule tokens with
  | .ok (found, rest) => .ok (some found, rest)
  | .error .unexpected => .ok (none, tokens)
  | .error .tooDeep => .error .tooDeep

/-- The next token. -/
def peek? : Parse (Option Token) := do
  return (← get).head?

/-- The keyword that the next token is. -/
def peekKeyword? : Parse (Option Keyword) := do
  return (← peek?).bind Token.keyword?

/-- Whether the next tokens are some keywords, which are then read. -/
def keywords (wanted : List Keyword) : Parse Bool := fun tokens =>
  if (tokens.take wanted.length).map Token.keyword? = wanted.map some then
    .ok (true, tokens.drop wanted.length)
  else .ok (false, tokens)

/-- Whether the next token is a keyword, which is then read. -/
def keyword (wanted : Keyword) : Parse Bool :=
  keywords [wanted]

/-- Reads keywords that must come next. -/
def expect (wanted : List Keyword) : Parse Unit := do
  unless ← keywords wanted do
    fail

/-- Reads the next token if it is one of some keywords. -/
def oneOf? (wanted : List Keyword) : Parse (Option Keyword) := fun tokens =>
  match tokens.head?.bind Token.keyword? with
  | some found =>
      if wanted.contains found then .ok (some found, tokens.drop 1) else .ok (none, tokens)
  | none => .ok (none, tokens)

/-- Whether the next token is one given, which is then read. -/
def token (wanted : Token) : Parse Bool := fun tokens =>
  if tokens.head? = some wanted then .ok (true, tokens.drop 1) else .ok (false, tokens)

/-- Whether the next token is a mark, which is then read. -/
def mark (wanted : Mark) : Parse Bool :=
  token (.mark wanted)

/-- Reads a token that must come next. -/
def expectToken (wanted : Token) : Parse Unit := do
  unless ← token wanted do
    fail

/-- Reads a mark that must come next. -/
def expectMark (wanted : Mark) : Parse Unit :=
  expectToken (.mark wanted)

/-- Reads some keywords if they come next. -/
def optional (wanted : List Keyword) : Parse Unit :=
  discard (keywords wanted)

/-- Reads one of some keywords if it comes next. -/
def optionalOf (wanted : List Keyword) : Parse Unit :=
  discard (oneOf? wanted)

/-- Reads one of some keywords, which must come next. -/
def expectOneOf (wanted : List Keyword) : Parse Keyword := do
  match ← oneOf? wanted with
  | some found => return found
  | none => fail

/-- Reads something of which nothing is kept. -/
def present {α : Type} (rule : Parse α) : Parse (Option Unit) := do
  discard rule
  return some ()

/-- Reads the next token whatever it is. -/
def next : Parse Token := fun tokens =>
  match tokens with
  | [] => .error .unexpected
  | first :: rest => .ok (first, rest)

/-- Reads something between parentheses. -/
def parens {α : Type} (rule : Parse α) : Parse α := do
  expectMark .openParen
  let found ← rule
  expectMark .closeParen
  return found

/-- Reads something after some keywords, if they come next. -/
def after? {α : Type} (wanted : List Keyword) (rule : Parse α) : Parse (Option α) := do
  if ← keywords wanted then some <$> rule else return none

/-- Repeats a rule for as long as it finds something, at most once for each of
some tokens, and puts what it finds behind what was found before, which is in
reverse. -/
def manyOnto {α : Type} (rule : Parse (Option α)) :
    (limit : List Token) → (found : List α) → Parse (List α)
  | [], found => return found.reverse
  | _ :: limit, found => do
      match ← rule with
      | none => return found.reverse
      | some item => manyOnto rule limit (item :: found)

/-- Repeats a rule for as long as it finds something. Each find takes a token at
least, so the tokens that are left bound their number. -/
def many {α : Type} (rule : Parse (Option α)) : Parse (List α) := do
  manyOnto rule (← get) []

/-- Reads one or more things with commas between them. -/
def list {α : Type} (rule : Parse α) : Parse (List α) := do
  let first ← rule
  let others ← many do
    if ← mark .comma then some <$> rule else return none
  return first :: others

/-- Reads a list that may be empty where a mark comes next. -/
def listUnless {α : Type} (stop : Mark) (rule : Parse α) : Parse (List α) := do
  if (← peek?) = some (.mark stop) then return [] else list rule

/-- Reads a name: any word, or a text in single quotes. -/
def ident : Parse Ident := do
  match ← next with
  | .word text _ => return ⟨text, none⟩
  | .quoted text => return ⟨text, some '"'⟩
  | .literal (.text text) => return ⟨text, some '\''⟩
  | _ => fail

/-- Reads a name with periods between its parts. -/
def objectName : Parse ObjectName := do
  let first ← ident
  let others ← many do
    if ← mark .period then some <$> ident else return none
  return first :: others

/-- Whether the next token is a name. It is passed over in any case. -/
def passName : Parse Bool := fun tokens =>
  match ident tokens with
  | .ok (_, rest) => .ok (true, rest)
  | .error _ => .ok (false, tokens.drop 1)

/-- Passes over a name with periods between its parts. A token that is no name
ends it and is passed over as well. -/
def passObjectName : Parse Unit := do
  if ← passName then
    discard <| many do
      if ← mark .period <&&> passName then return some () else return none

/-- Reads one or more names with commas between them. -/
def idents : Parse (List Ident) :=
  list ident

/-- Reads one or more names of objects with commas between them. -/
def objectNames : Parse (List ObjectName) :=
  list objectName

/-- Reads a text that is no value of its own: a word that is no keyword, or a
text in quotes. -/
def label : Parse String := do
  match ← next with
  | .word text none | .quoted text => return text
  | .literal (.text value) | .literal (.escaped value) | .literal (.unicode value) => return value
  | _ => fail

/-- Reads a number without a sign or a fraction. -/
def natural : Parse Nat := do
  match ← next with
  | .literal (.number digits _) =>
      match Text.readNat? Text.bound64 digits.toList with
      | some value => return value
      | none => fail
  | _ => fail

/-- Reads the name of a placeholder right after a sign. -/
def placeholder (sign : String) (tight : Bool) : Parse Literal := do
  match ← next with
  | .word text _ | .quoted text | .literal (.number text false) =>
      if tight then return .placeholder (sign ++ text) else fail
  | _ => fail

/-- Reads a literal. A sign before a name makes it a placeholder. -/
def literal : Parse Literal := do
  match ← next with
  | .word _ (some .TRUE) => return .boolean true
  | .word _ (some .FALSE) => return .boolean false
  | .word _ (some .NULL) => return .null
  | .quoted text => return .doubleQuoted text
  | .literal value => return value
  | .colon tight => placeholder ":" tight
  | .atSign tight => placeholder "@" tight
  | _ => fail

/-- Reads a number, or a placeholder for one. -/
def numberLiteral : Parse Literal := do
  match ← literal with
  | .number digits long => return .number digits long
  | .placeholder name => return .placeholder name
  | _ => fail

/-- Reads a number that may have a sign as text. -/
def signedNumberText : Parse String := do
  let sign ←
    if ← token (.operator "+") then pure "+"
    else if ← token (.operator "-") then pure "-"
    else pure ""
  return sign ++ (← numberLiteral).render

/-- Reads an integer that may have a sign. -/
def integer : Parse Int := do
  let negative ← token (.operator "-")
  unless negative do
    discard <| token (.operator "+")
  match ← next with
  | .literal (.number digits _) =>
      match Text.readInt64 digits.toList with
      | .ok value => return if negative then -value.toInt else value.toInt
      | .error _ => fail
  | _ => fail

end Parse

/-- Texts with a comma and a blank between them. -/
def commaText (parts : List String) : String :=
  ", ".intercalate parts

end Reservations.Sql
