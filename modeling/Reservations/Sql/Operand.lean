import Reservations.Sql.DataType

namespace Reservations.Sql

/-! ## Operands

What an expression is made of between its operators. -/

/-- The rules that contain each other, for a given depth of nesting. -/
structure Grammar where
  /-- Whether the rules read a part of the definition of a column, where some
  words after an expression do not belong to it. -/
  columnar : Bool
  /-- Reads an expression up to the first operator that does not bind more
  strongly than a given one. -/
  expr : (above : Nat) → Parse Expr
  /-- Reads an expression in the definition of a column. -/
  columnExpr : Parse Expr
  query : Parse Query
  statement : Parse Statement
  /-- Reads the definition of a column as text. -/
  column : Parse String

/-! ### How strongly operators bind -/

namespace Strength

def period : Nat := 200
def cast : Nat := 140
def collation : Nat := 120
def timeZone : Nat := 110
def power : Nat := 100
def product : Nat := 90
def sum : Nat := 80
def exclusion : Nat := 75
def other : Nat := 70
def range : Nat := 60
def comparison : Nat := 50
def check : Nat := 40
def negation : Nat := 30
def conjunction : Nat := 20
def disjunction : Nat := 10
def none : Nat := 0

end Strength

namespace Grammar

open Parse

variable (g : Grammar)

/-- Reads an expression of any kind. -/
def anyExpr : Parse Expr :=
  g.expr Strength.none

/-- Reads an expression of any kind as text. -/
def exprText : Parse String :=
  Expr.render <$> g.anyExpr

/-- Reads expressions with commas between them as text. -/
def exprsText : Parse String := do
  return commaText ((← list g.anyExpr).map Expr.render)

/-- Reads a query in parentheses as text. -/
def subquery : Parse String := do
  return "(" ++ (← parens g.query).text ++ ")"

/-- Reads the name of a type. -/
def dataType : Parse DataType :=
  DataType.rule g.column

/-! ### Dates and times -/

/-- The words that say what an interval is counted in. -/
def temporalUnits : List Keyword :=
  [.YEAR, .YEARS, .MONTH, .MONTHS, .WEEK, .WEEKS, .DAY, .DAYS, .HOUR, .HOURS, .MINUTE,
    .MINUTES, .SECOND, .SECONDS, .CENTURY, .DECADE, .DOW, .DOY, .EPOCH, .ISODOW, .ISOYEAR,
    .JULIAN, .MICROSECOND, .MICROSECONDS, .MILLENIUM, .MILLENNIUM, .MILLISECOND, .MILLISECONDS,
    .NANOSECOND, .NANOSECONDS, .QUARTER, .TIMEZONE, .TIMEZONE_HOUR, .TIMEZONE_MINUTE]

/-- The parts of a date or a time. -/
def dateTimeFields : List Keyword :=
  temporalUnits ++
    [.DATE, .DATETIME, .DAYOFWEEK, .DAYOFYEAR, .ISOWEEK, .TIME, .TIMEZONE_ABBR,
      .TIMEZONE_REGION]

/-- Reads a part of a date or a time, which may be one without a keyword. -/
def dateTimeField : Parse String := do
  match ← oneOf? dateTimeFields with
  | some field => return field.text
  | none => return (← ident).render

/-- Something after a blank, if there is anything. -/
def spaced (text : String) : String :=
  if text.isEmpty then "" else " " ++ text

/-- One or two numbers in parentheses, if they come next. -/
def secondsPrecision : Parse String := do
  if ← mark .openParen then
    let leading ← natural
    let fraction ← if ← mark .comma then some <$> natural else pure none
    expectMark .closeParen
    return "(" ++ Text.countText leading
      ++ fraction.elim "" (fun fraction => ", " ++ Text.countText fraction) ++ ")"
  else return ""

/-- Reads the rest of an interval, given the rule for its amount. -/
def interval (value : Parse Expr) : Parse Expr := do
  let amount ← value
  let first ← oneOf? temporalUnits
  let unit := "INTERVAL " ++ amount.render ++ first.elim "" fun field => " " ++ field.text
  if first = some .SECOND then return .other (unit ++ spaced (← secondsPrecision))
  else
    let precision ← DataType.size
    let last ← after? [.TO] do
      if ← keyword .SECOND then return " TO SECOND" ++ spaced (← DataType.size)
      else return " TO " ++ (← dateTimeField)
    return .other (unit ++ spaced precision ++ last.getD "")

/-! ### Orders and windows -/

/-- Reads in which direction rows are ordered, and where nulls go. -/
def direction : Parse String := do
  let word? ← oneOf? [.ASC, .DESC]
  let nulls ←
    if ← keywords [.NULLS, .FIRST] then pure " NULLS FIRST"
    else if ← keywords [.NULLS, .LAST] then pure " NULLS LAST"
    else pure ""
  return (word?.elim "" fun word => " " ++ word.text) ++ nulls

/-- Reads an expression to order by. -/
def orderItem : Parse String := do
  return (← g.exprText) ++ (← direction)

/-- Reads the expressions to order by. -/
def orderItems : Parse String := do
  return commaText (← list g.orderItem)

/-- Reads one end of the frame of a window. A text is the amount of an interval.
The rule for an operand is given. -/
def frameBound (operand : Parse Expr) : Parse String := do
  if ← keywords [.CURRENT, .ROW] then return "CURRENT ROW"
  else
    let distance ←
      if ← keyword .UNBOUNDED then pure "UNBOUNDED"
      else
        match ← peek? with
        | some (.literal (.text _)) => Expr.render <$> interval operand
        | _ => g.exprText
    match ← oneOf? [.PRECEDING, .FOLLOWING] with
    | some side => return distance ++ " " ++ side.text
    | none => fail

/-- Reads the frame of a window. -/
def frame (operand : Parse Expr) : Parse String := do
  match ← oneOf? [.ROWS, .RANGE, .GROUPS] with
  | none => fail
  | some units =>
      if ← keyword .BETWEEN then
        let low ← g.frameBound operand
        expect [.AND]
        let high ← g.frameBound operand
        return units.text ++ " BETWEEN " ++ low ++ " AND " ++ high
      else return units.text ++ " " ++ (← g.frameBound operand)

/-- Reads what a window is, in parentheses. -/
def window (operand : Parse Expr) : Parse String := do
  expectMark .openParen
  let base ←
    match ← peek? with
    | some (.word _ none) | some (.quoted _) => pure [(← ident).render]
    | _ => pure []
  let partition ← after? [.PARTITION, .BY] g.exprsText
  let order ← after? [.ORDER, .BY] g.orderItems
  let bounds ←
    if (← peek?) = some (.mark .closeParen) then pure [] else pure [← g.frame operand]
  expectMark .closeParen
  let parts :=
    base ++ (partition.map ("PARTITION BY " ++ ·)).toList
      ++ (order.map ("ORDER BY " ++ ·)).toList ++ bounds
  return "(" ++ " ".intercalate parts ++ ")"

/-! ### Arguments -/

/-- What stands where an expression or a star may stand. -/
inductive Starred where
  | star (text : String)
  | expr (value : Expr)

/-- What stands there, as it is written. -/
def Starred.render : Starred → String
  | star text => text
  | expr value => value.render

/-- The names before a star, from the second one on, and what follows it. A name
must follow each period. -/
def starNames : List Token → Parse (Option (List Ident × List Token))
  | .mark .period :: .operator "*" :: rest => return some ([], rest)
  | .mark .period :: first :: rest => do
      let name ←
        match first with
        | .word text _ => pure ⟨text, none⟩
        | .quoted text => pure ⟨text, some '"'⟩
        | .literal (.text text) => pure ⟨text, some '\''⟩
        | _ => fail
      return (← starNames rest).map fun (names, rest) => (name :: names, rest)
  | [.mark .period] => fail
  | _ => return none

/-- Reads a star, which may have names before it, or an expression by a given
rule. -/
def starredOr (value : Parse Expr) : Parse Starred := do
  let tokens ← get
  let names? (name : Ident) (rest : List Token) : Parse Starred := do
    match ← starNames rest with
    | some (names, rest) =>
        set rest
        return .star (ObjectName.render (name :: names) ++ ".*")
    | none => .expr <$> value
  match tokens with
  | .operator "*" :: rest =>
      set rest
      return .star "*"
  | .word text _ :: rest => names? ⟨text, none⟩ rest
  | .quoted text :: rest => names? ⟨text, some '"'⟩ rest
  | .literal (.text text) :: rest => names? ⟨text, some '\''⟩ rest
  | _ => .expr <$> value

/-- Reads an expression or a star, which may have names before it. -/
def starred : Parse Starred :=
  starredOr g.anyExpr

/-- Reads the sign between the name of an argument and its value, if it comes
next. -/
def argumentSign? : Parse (Option String) := do
  if ← keyword .VALUE then return some "VALUE"
  else
    match ← get with
    | .operator "=>" :: rest =>
        set rest
        return some "=>"
    | .colon _ :: rest =>
        set rest
        return some ":"
    | _ => return none

/-- Reads an argument of a function. It may be named. -/
def argument : Parse String := do
  let start ← get
  match ← attempt g.anyExpr with
  | none => return (← starredOr fail).render
  | some value =>
      match ← argumentSign? with
      | some sign => return value.render ++ " " ++ sign ++ " " ++ (← g.starred).render
      | none =>
          let rest ← get
          set start
          let found ← starredOr do
            set rest
            return value
          return found.render

/-- Reads what becomes of nulls in a function that makes a document. -/
def documentNulls : Parse (List String) := do
  if ← keywords [.ABSENT, .ON, .NULL] then return ["ABSENT ON NULL"]
  else if ← keywords [.NULL, .ON, .NULL] then return ["NULL ON NULL"]
  else return []

/-- Reads the type of the document that a function makes. -/
def documentType : Parse (List String) := do
  if ← keyword .RETURNING then return ["RETURNING " ++ (← g.dataType).text] else return []

/-- Reads what becomes of a list that grows too long. -/
def overflow : Parse (List String) := do
  if ← keywords [.ON, .OVERFLOW] then
    if ← keyword .ERROR then return ["ON OVERFLOW ERROR"]
    else
      expect [.TRUNCATE]
      let filler ←
        match ← peek? with
        | some (.word _ (some .WITH)) | some (.word _ (some .WITHOUT)) => pure ""
        | some (.literal (.text _)) | some (.literal (.escaped _)) | some (.literal (.unicode _))
        | some (.literal (.national _)) | some (.literal (.hexadecimal _)) =>
            pure (" " ++ (← g.exprText))
        | _ => fail
      let word ← expectOneOf [.WITH, .WITHOUT]
      expect [.COUNT]
      return ["ON OVERFLOW TRUNCATE" ++ filler ++ " " ++ word.text ++ " COUNT"]
  else return []

/-- Reads the arguments of a function after the opening parenthesis. -/
def argumentsText : Parse String := do
  let early := (← documentNulls) ++ (← g.documentType)
  if ← mark .closeParen then return " ".intercalate early
  else
    let all ← keyword .ALL
    let distinct ← keyword .DISTINCT
    if all && distinct then fail
    let found ← list g.argument
    let order ← after? [.ORDER, .BY] g.orderItems
    let limit ← after? [.LIMIT] g.exprText
    let late := (order.map ("ORDER BY " ++ ·)).toList ++ (limit.map ("LIMIT " ++ ·)).toList
      ++ (← g.overflow) ++ (← documentNulls) ++ (← g.documentType)
    expectMark .closeParen
    return (if all then "ALL " else if distinct then "DISTINCT " else "") ++ commaText found
      ++ spaced (" ".intercalate (early ++ late))

/-- Reads the arguments of a function, in parentheses. -/
def arguments : Parse String := do
  expectMark .openParen
  return "(" ++ (← g.argumentsText) ++ ")"

/-! ### Calls -/

/-- Reads which rows an aggregate counts. A word that begins the clause is read
even where the clause does not follow. -/
def filterClause : Parse String := do
  if ← keyword .FILTER <&&> mark .openParen <&&> keyword .WHERE then
    let condition ← g.exprText
    expectMark .closeParen
    return " FILTER (WHERE " ++ condition ++ ")"
  else return ""

/-- Reads whether nulls count. -/
def nullTreatment : Parse String := do
  match ← oneOf? [.RESPECT, .IGNORE] with
  | some word =>
      expect [.NULLS]
      return " " ++ word.text ++ " NULLS"
  | none => return ""

/-- Reads the call of a function after its name. The rule for an operand is
given. -/
def call (operand : Parse Expr) (name : String) : Parse String := do
  let values ← g.arguments
  let withinGroup ← after? [.WITHIN, .GROUP] <| parens do
    expect [.ORDER, .BY]
    g.orderItems
  let filter ← g.filterClause
  let nulls ← nullTreatment
  let range ← after? [.OVER] do
    if (← peek?) = some (.mark .openParen) then g.window operand else return (← ident).render
  return name ++ values
    ++ withinGroup.elim "" (fun order => " WITHIN GROUP (ORDER BY " ++ order ++ ")")
    ++ filter ++ nulls ++ range.elim "" (" OVER " ++ ·)

/-! ### Operands that begin with a keyword -/

/-- Reads the branches of a choice. -/
def branches : Parse (List String) := do
  let branch : Parse String := do
    let condition ← g.exprText
    expect [.THEN]
    return " WHEN " ++ condition ++ " THEN " ++ (← g.exprText)
  let first ← branch
  return first :: (← many (after? [.WHEN] branch))

/-- Reads the rest of a choice. -/
def choice : Parse String := do
  let subject ← if ← keyword .WHEN then pure "" else
    let subject ← g.exprText
    expect [.WHEN]
    pure (" " ++ subject)
  let found ← g.branches
  let otherwise ← after? [.ELSE] g.exprText
  expect [.END]
  return "CASE" ++ subject ++ String.join found ++ otherwise.elim "" (" ELSE " ++ ·) ++ " END"

/-- Reads the rest of a cast. -/
def cast (word : String) : Parse String := parens do
  let value ← g.exprText
  expect [.AS]
  let type ← g.dataType
  let format ← after? [.FORMAT] do
    let format ← literal
    let zone ← after? [.AT, .TIME, .ZONE] literal
    return " FORMAT " ++ format.render ++ zone.elim "" fun zone => " AT TIME ZONE " ++ zone.render
  return word ++ "(" ++ value ++ " AS " ++ type.text ++ format.getD "" ++ ")"

/-- Reads the rest of a conversion to a type or between encodings. -/
def conversion : Parse String := parens do
  let value ← g.exprText
  if ← keyword .USING then
    return "CONVERT(" ++ value ++ " USING " ++ (← objectName).render ++ ")"
  else
    expectMark .comma
    let type ← g.dataType
    let encoding ← after? [.CHARACTER, .SET] objectName
    return "CONVERT(" ++ value ++ ", " ++ type.text
      ++ encoding.elim "" (fun name => " CHARACTER SET " ++ name.render) ++ ")"

/-- Reads the rest of a rounding. -/
def rounding (word : String) : Parse String := parens do
  let value ← g.exprText
  let unit ←
    if ← keyword .TO then pure (" TO " ++ (← dateTimeField))
    else if ← mark .comma then
      match ← literal with
      | .number digits long => pure (", " ++ (Literal.number digits long).render)
      | _ => fail
    else pure ""
  return word ++ "(" ++ value ++ unit ++ ")"

/-- Reads the rest of a part of a text. -/
def substring (word : String) : Parse String := parens do
  let value ← g.exprText
  let comma ← mark .comma
  let start ← if comma then some <$> g.exprText else after? [.FROM] g.exprText
  let length ←
    if ← keyword .FOR then some <$> g.exprText
    else if ← mark .comma then some <$> g.exprText
    else pure none
  return word ++ "(" ++ value
    ++ start.elim "" ((if comma then ", " else " FROM ") ++ ·)
    ++ length.elim "" ((if comma then ", " else " FOR ") ++ ·) ++ ")"

/-- Reads the rest of a trimmed text. A comma at its end is passed over. -/
def trimmed : Parse String := parens do
  let side ← oneOf? [.BOTH, .LEADING, .TRAILING]
  let first ← g.exprText
  let value ← after? [.FROM] g.exprText
  if value.isNone then discard <| mark .comma
  return "TRIM(" ++ (side.elim "" fun word => word.text ++ " ") ++ first
    ++ value.elim "" (" FROM " ++ ·) ++ ")"

/-- Reads the rest of a replacement of a part of a text. -/
def overlay : Parse String := parens do
  let value ← g.exprText
  expect [.PLACING]
  let part ← g.exprText
  expect [.FROM]
  let start ← g.exprText
  let length ← after? [.FOR] g.exprText
  return "OVERLAY(" ++ value ++ " PLACING " ++ part ++ " FROM " ++ start
    ++ length.elim "" (" FOR " ++ ·) ++ ")"

/-- Reads the rest of a search in a text, or of a call of the function of the
same name. -/
def position (operand : Parse Expr) (name : String) : Parse String := do
  let search ← attempt <| parens do
    let part ← g.expr Strength.range
    expect [.IN]
    return "POSITION(" ++ part.render ++ " IN " ++ (← g.exprText) ++ ")"
  match search with
  | some found => return found
  | none => g.call operand name

/-- Reads the rest of a negation. -/
def negation : Parse Expr := do
  if ← keyword .EXISTS then return .other ("NOT EXISTS " ++ (← g.subquery))
  else return .unary .negation (← g.expr Strength.negation)

/-- Reads expressions in brackets. -/
def array (word : String) : Parse String := do
  expectMark .openBracket
  let items ← listUnless .closeBracket g.anyExpr
  expectMark .closeBracket
  return word ++ "[" ++ commaText (items.map Expr.render) ++ "]"

/-- The keywords for shapes, which a literal follows. -/
def shapes : List Keyword :=
  [.POINT, .LINE, .LSEG, .BOX, .PATH, .POLYGON, .CIRCLE]

/-- Reads the operand that a keyword begins, if it begins one. The rule for an
operand is given. -/
def special (operand : Parse Expr) (name : String) (first : Keyword) :
    Parse (Option Expr) := do
  let other (rule : Parse String) : Parse (Option Expr) := (some ∘ .other) <$> rule
  match first with
  | .TRUE => return some (.literal (.boolean true))
  | .FALSE => return some (.literal (.boolean false))
  | .NULL => return some (.literal .null)
  | .CURRENT_CATALOG | .CURRENT_USER | .SESSION_USER | .USER => return some (.other name)
  | .CURRENT_TIMESTAMP | .CURRENT_TIME | .CURRENT_DATE | .LOCALTIME | .LOCALTIMESTAMP =>
      if (← peek?) = some (.mark .openParen) then return some (.other (name ++ (← g.arguments)))
      else return some (.other name)
  | .CASE => other g.choice
  | .CONVERT => other g.conversion
  | .CAST | .TRY_CAST | .SAFE_CAST => other (g.cast first.text)
  | .EXISTS => return some (.other ("EXISTS " ++ (← g.subquery)))
  | .EXTRACT => other <| parens do
      let field ← dateTimeField
      expect [.FROM]
      return "EXTRACT(" ++ field ++ " FROM " ++ (← g.exprText) ++ ")"
  | .CEIL | .FLOOR => other (g.rounding first.text)
  | .POSITION =>
      if (← peek?) = some (.mark .openParen) then other (g.position operand name) else return none
  | .SUBSTR | .SUBSTRING => other (g.substring first.text)
  | .OVERLAY => other g.overlay
  | .TRIM => other g.trimmed
  | .INTERVAL => some <$> interval operand
  | .ARRAY =>
      match ← peek? with
      | some (.mark .openBracket) => other (g.array "ARRAY")
      | some (.mark .openParen) => return some (.other (name ++ (← g.subquery)))
      | _ => return none
  | .NOT => some <$> g.negation
  | first =>
      if shapes.contains first then
        let value ← literal
        return some (.other (String.ofList (Text.lower first.text.toList) ++ " " ++ value.render))
      else return none

/-- Reads the operand that a word begins, where no keyword has a meaning of its
own: a call or a name. -/
def named (operand : Parse Expr) (name : Ident) : Parse Expr := do
  match ← peek? with
  | some (.mark .openParen) => .other <$> g.call operand name.render
  | some (.literal (.text value)) =>
      if name.text.startsWith "_" then
        let _ ← next
        return .other (name.render ++ " " ++ (Literal.text value).render)
      else return .name [name]
  | some (.literal (.hexadecimal value)) =>
      if name.text.startsWith "_" then
        let _ ← next
        return .other (name.render ++ " " ++ (Literal.hexadecimal value).render)
      else return .name [name]
  | _ => return .name [name]

/-- The keywords that never are names where an operand is wanted. -/
def neverNames : List Keyword :=
  [.EXISTS, .INTERVAL, .STRUCT, .TRIM]

/-- An operand before what may follow it. -/
structure Bare where
  value : Expr
  /-- Whether a collation after it would belong to it. -/
  collates : Bool

/-- Reads the operand that a word without quotes begins. Where what follows a
keyword does not go with its meaning, even because rules are nested too deeply,
it may be a name, but one that has no collation. -/
def worded (operand : Parse Expr) (name : String) (keyword : Option Keyword) : Parse Bare := do
  let asName := g.named operand ⟨name, none⟩
  match keyword with
  | none => return ⟨← asName, true⟩
  | some first =>
      let tokens ← get
      match (g.special operand name first).run tokens with
      | .ok (some found, rest) =>
          set rest
          return ⟨found, true⟩
      | .ok (none, _) => return ⟨← asName, true⟩
      | .error fault =>
          if neverNames.contains first then throw fault
          else
            match asName.run tokens with
            | .ok (found, rest) =>
                set rest
                return ⟨found, false⟩
            | .error _ => throw fault

/-- The operators that may come before an operand, with how strongly they
bind. -/
def leadingOperators : List (String × UnaryOp × Nat) :=
  [("-", .minus, Strength.product), ("+", .plus, Strength.product)]
    ++ ["!!", "|/", "||/", "@", "~", "#", "@-@", "@@", "?-", "?|"].map fun text =>
      (text, .symbol text, Strength.sum)

/-- Reads what stands in parentheses: a query, or one or more expressions. -/
def grouped : Parse Expr := do
  match ← peekKeyword? with
  | some .SELECT | some .WITH => return .subquery (← g.query).text
  | _ =>
      match ← list g.anyExpr with
      | [inner] => return .nested inner
      | items => return .other ("(" ++ commaText (items.map Expr.render) ++ ")")

/-- Reads what stands in braces: a call, a date, a time or an instant. -/
def braced (operand : Parse Expr) : Parse String := do
  let called ← attempt do
    expect [.FN]
    let name ← objectName
    g.call operand name.render
  let found ←
    match called with
    | some text => pure ("fn " ++ text)
    | none =>
        match ← next with
        | .word word _ =>
            if ["t", "d", "ts"].contains word then pure (word ++ " " ++ (← literal).render)
            else fail
        | _ => fail
  expectMark .closeBrace
  return "\x7b" ++ found ++ "\x7d"

/-- Reads a literal after the name of its type. -/
def typed (operand : Parse Expr) : Parse Expr := do
  match ← g.dataType with
  | .interval _ => interval operand
  | .custom _ => fail
  | .builtin type => return .other (type ++ " " ++ (← literal).render)

/-- Reads an operand that does not begin with the name of a type. -/
def untyped (operand : Parse Expr) : Parse Bare := do
  let leading (text : String) : Parse Expr := do
    match leadingOperators.lookup text with
    | some (operator, strength) => return .unary operator (← g.expr strength)
    | none => fail
  let whole (rule : Parse Expr) : Parse Bare := return ⟨← rule, true⟩
  match ← peek? with
  | some (.colon _) => whole (.literal <$> literal)
  | some (.mark .openBracket) => whole (.other <$> g.array "")
  | _ =>
      match ← next with
      | .word name keyword => g.worded operand name keyword
      | .quoted name => whole (g.named operand ⟨name, some '"'⟩)
      | .literal value => return ⟨.literal value, true⟩
      | .operator text => whole (leading text)
      | .atSign _ => whole (leading "@")
      | .mark .openParen => whole do
          let found ← g.grouped
          expectMark .closeParen
          return found
      | .mark .openBrace => whole (.other <$> g.braced operand)
      | _ => fail

/-- Reads an operand, with a collation after it, if it has one. Some tokens
bound how deeply operands are nested in each other as amounts of intervals. -/
def operand : (limit : List Token) → Parse Expr
  | [] => fail
  | _ :: limit => do
      match ← attempt (g.typed (operand limit)) with
      | some found => return found
      | none =>
          let ⟨found, collates⟩ ← g.untyped (operand limit)
          if collates && !g.columnar then
            match ← after? [.COLLATE] objectName with
            | some collation => return .other (found.render ++ " COLLATE " ++ collation.render)
            | none => return found
          else return found

end Grammar

end Reservations.Sql
