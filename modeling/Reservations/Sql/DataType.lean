import Reservations.Sql.Parse

namespace Reservations.Sql

/-! ## Names of types -/

/-- The name of a type in normal form, and what else a rule has to know of it. -/
inductive DataType where
  | builtin (text : String)
  | interval (text : String)
  /-- A name that is no keyword. -/
  | custom (text : String)
  deriving DecidableEq, Repr

namespace DataType

open Parse

/-- The name of a type in normal form. -/
def text : DataType → String
  | builtin text | interval text | custom text => text

/-- The same kind of type with something after its name. -/
def extend (suffix : String) : DataType → DataType
  | builtin text | interval text | custom text => builtin (text ++ suffix)

/-! ### Types by their form -/

/-- The types that have a name and nothing else, written in upper case. -/
def plain : List Keyword :=
  [.BOOLEAN, .BOOL, .FLOAT4, .FLOAT8, .FLOAT64, .INT64, .HUGEINT, .UHUGEINT, .UBIGINT,
    .USMALLINT, .UTINYINT, .UUID, .DATE, .TIMESTAMP_NTZ, .JSON, .JSONB, .REGCLASS, .TEXT,
    .BYTEA, .TRIGGER, .TSVECTOR, .TSQUERY, .TINYTEXT, .MEDIUMTEXT, .LONGTEXT, .TINYBLOB,
    .MEDIUMBLOB, .LONGBLOB]

/-- The types that have a name and nothing else, written in their own way. -/
def spelled : List (Keyword × String) :=
  [(.FLOAT32, "Float32"), (.INT16, "Int16"), (.INT32, "Int32"), (.INT128, "Int128"),
    (.INT256, "Int256"), (.UINT8, "UInt8"), (.UINT16, "UInt16"), (.UINT32, "UInt32"),
    (.UINT64, "UInt64"), (.UINT128, "UInt128"), (.UINT256, "UInt256"), (.DATE32, "Date32")]

/-- The integer types, which may have a width and be unsigned. -/
def integers : List Keyword :=
  [.TINYINT, .SMALLINT, .MEDIUMINT, .INT, .INTEGER, .BIGINT, .INT2, .INT4, .INT8]

/-- The types that may have one number in parentheses. -/
def sized : List Keyword :=
  [.CLOB, .BINARY, .BLOB, .BYTES, .VARBIT, .DATETIME, .STRING]

/-- The types that may have a precision and a scale. -/
def exact : List Keyword :=
  [.NUMERIC, .BIGNUMERIC, .BIGDECIMAL]

/-- The types that may have a precision and a scale and be unsigned. -/
def unsignedExact : List Keyword :=
  [.FLOAT, .DECIMAL, .DEC]

/-- The types of texts with a length. -/
def texts : List Keyword :=
  [.VARCHAR, .NVARCHAR]

/-! ### What follows the name of a type -/

/-- A number in parentheses, if it comes next. -/
def size : Parse String := do
  if ← mark .openParen then
    let count ← natural
    expectMark .closeParen
    return "(" ++ Text.countText count ++ ")"
  else return ""

/-- A length in parentheses, if it comes next. -/
def length : Parse String := do
  if ← mark .openParen then
    if ← keyword .MAX then
      expectMark .closeParen
      return "(MAX)"
    else
      let count ← natural
      let unit ← oneOf? [.CHARACTERS, .OCTETS]
      expectMark .closeParen
      return "(" ++ Text.countText count ++ (unit.elim "" fun word => " " ++ word.text) ++ ")"
  else return ""

/-- A count of bytes in parentheses, if it comes next. -/
def byteLength : Parse String := do
  if ← mark .openParen then
    let count ← if ← keyword .MAX then pure "MAX" else Text.countText <$> natural
    expectMark .closeParen
    return "(" ++ count ++ ")"
  else return ""

/-- A precision and a scale in parentheses, if they come next. -/
def precisionAndScale : Parse String := do
  if ← mark .openParen then
    let precision ← natural
    let scale ← if ← mark .comma then some <$> integer else pure none
    expectMark .closeParen
    return "(" ++ Text.countText precision
      ++ scale.elim "" (fun scale => "," ++ Text.decimalText scale) ++ ")"
  else return ""

/-- The word after a type of numbers that says that there are no negative ones. -/
def signedness : Parse String := do
  if ← keyword .UNSIGNED then return " UNSIGNED" else return ""

/-- What a type of times says on time zones. -/
def zone : Parse String := do
  if ← keyword .WITH then
    expect [.TIME, .ZONE]
    return " WITH TIME ZONE"
  else if ← keyword .WITHOUT then
    expect [.TIME, .ZONE]
    return " WITHOUT TIME ZONE"
  else return ""

/-- The parts of an interval that its type is confined to. -/
def intervalFields : Parse String := do
  let upTo (first : Keyword) (lasts : List Keyword) : Parse String := do
    if ← keyword .TO then
      match ← oneOf? lasts with
      | some last => return " " ++ first.text ++ " TO " ++ last.text
      | none => fail
    else return " " ++ first.text
  match ← oneOf? [.YEAR, .DAY, .HOUR, .MINUTE, .MONTH, .SECOND] with
  | some .YEAR => upTo .YEAR [.MONTH]
  | some .DAY => upTo .DAY [.HOUR, .MINUTE, .SECOND]
  | some .HOUR => upTo .HOUR [.MINUTE, .SECOND]
  | some .MINUTE => upTo .MINUTE [.SECOND]
  | some field => return " " ++ field.text
  | none => return ""

/-- The modifiers of a type that is no keyword, if they come next. -/
def modifiers : Parse String := do
  if ← mark .openParen then
    let found ← many do
      let _ ← many do
        if ← mark .comma then return some () else return none
      attempt do
        match ← next with
        | .word text _ | .literal (.text text) => return text
        | .quoted text => return (Token.quoted text).text
        | .literal (.number digits _) => return digits
        | _ => fail
    expectMark .closeParen
    return if found.isEmpty then "" else "(" ++ commaText found ++ ")"
  else return ""

/-- The rest of the name of a type of characters. -/
def characters (name : String) : Parse String := do
  if ← keyword .VARYING then return name ++ " VARYING" ++ (← length)
  else if ← keywords [.LARGE, .OBJECT] then return name ++ " LARGE OBJECT" ++ (← size)
  else return name ++ (← length)

/-- A label in single quotes. -/
def labelText (label : String) : String :=
  Literal.enclose '\'' label

/-- The labels of an enumeration, each of which may have a number. -/
def enumeration (name : String) : Parse String := do
  let members ← parens <| list do
    let name ← label
    let value ← if ← token (.operator "=") then some <$> signedNumberText else pure none
    return labelText name ++ value.elim "" (" = " ++ ·)
  return name ++ "(" ++ commaText members ++ ")"

/-- The rest of the name of a type of sets of labels. -/
def labels : Parse String := do
  let found ← parens <| list do
    match ← next with
    | .literal (.text text) => return labelText text
    | _ => fail
  return "SET(" ++ commaText found ++ ")"

/-- The rest of the name of a type of instants with a precision and a zone. -/
def zonedInstant : Parse String := parens do
  let precision ← natural
  let zone ← if ← mark .comma then some <$> label else pure none
  return "DateTime64(" ++ Text.countText precision
    ++ zone.elim "" (fun zone => s!", '{zone}'") ++ ")"

/-- The rest of the name of a type of numbers that may lack a sign. -/
def signed (name : String) : Parse String := do
  if ← keyword .INTEGER then return name ++ " INTEGER" else return name

/-- The type whose name begins with a keyword. The rule for the definition of a
column is given. -/
def ofKeyword? (column : Parse String) (first : Keyword) : Parse (Option DataType) := do
  let name := first.text
  if plain.contains first then return some (builtin name)
  else if integers.contains first then
    return some (builtin (name ++ (← size) ++ (← signedness)))
  else if sized.contains first then return some (builtin (name ++ (← size)))
  else if exact.contains first then return some (builtin (name ++ (← precisionAndScale)))
  else if unsignedExact.contains first then
    return some (builtin (name ++ (← precisionAndScale) ++ (← signedness)))
  else if texts.contains first then return some (builtin (name ++ (← length)))
  else
    match first with
    | .REAL => return some (builtin (name ++ (← signedness)))
    | .DOUBLE =>
        let precision ←
          if ← keyword .PRECISION then pure " PRECISION" else precisionAndScale
        return some (builtin (name ++ precision ++ (← signedness)))
    | .CHARACTER | .CHAR => return some (builtin (← characters name))
    | .VARBINARY => return some (builtin (name ++ (← byteLength)))
    | .BIT =>
        if ← keyword .VARYING then return some (builtin ("BIT VARYING" ++ (← size)))
        else return some (builtin (name ++ (← size)))
    | .TIMESTAMP | .TIME =>
        return some (builtin (name ++ (← size) ++ (← zone)))
    | .TIMESTAMPTZ | .TIMETZ => return some (builtin (name ++ (← size)))
    | .DATETIME64 => return some (builtin (← zonedInstant))
    | .INTERVAL =>
        return some (interval (name ++ (← intervalFields) ++ (← size)))
    | .FIXEDSTRING =>
        let count ← parens natural
        return some (builtin ("FixedString(" ++ Text.countText count ++ ")"))
    | .ENUM | .ENUM8 | .ENUM16 => return some (builtin (← enumeration name))
    | .SET => return some (builtin (← labels))
    | .SIGNED | .UNSIGNED => return some (builtin (← signed name))
    | .ANY => if ← keyword .TYPE then return some (builtin "ANY TYPE") else return none
    | .TABLE =>
        if (← peek?) = some (.mark .openParen) then
          return some (builtin ("TABLE(" ++ commaText (← parens (list column)) ++ ")"))
        else return some (builtin name)
    | first => return (spelled.lookup first).map builtin

/-- The brackets of an array type. -/
def brackets : Parse String := do
  let found ← many do
    if ← mark .openBracket then
      let size ← attempt natural
      expectMark .closeBracket
      return some ("[" ++ size.elim "" Text.countText ++ "]")
    else return none
  return String.join found

/-- Closes the brackets of an array type. Two of them may have been read
together; the flag says that the second one is still left over. -/
def closeArray (spare : Bool) : Parse Bool := do
  if spare then return false
  else if ← token (.operator ">") then return false
  else
    expectToken (.operator ">>")
    return true

/-- Reads the name of a type, and whether a closing bracket is left over. Some
tokens bound how deeply array types are nested in each other. -/
def element (column : Parse String) : (limit : List Token) → Parse (DataType × Bool)
  | [] => fail
  | _ :: limit => do
      let tokens ← get
      let (found, spare) ←
        match tokens with
        | .word _ (some .ARRAY) :: rest => do
            set rest
            expectToken (.operator "<")
            let (inner, spare) ← element column limit
            let spare ← closeArray spare
            pure (builtin ("ARRAY<" ++ inner.text ++ ">"), spare)
        | .word _ (some first) :: rest => do
            set rest
            match ← ofKeyword? column first with
            | some found => pure (found, false)
            | none =>
                set tokens
                pure (custom ((← objectName).render ++ (← modifiers)), false)
        | .word .. :: _ | .quoted _ :: _ =>
            pure (custom ((← objectName).render ++ (← modifiers)), false)
        | _ => fail
      let suffix ← brackets
      return (if suffix.isEmpty then found else found.extend suffix, spare)

/-- Reads the name of a type. -/
def rule (column : Parse String) : Parse DataType := do
  match ← element column (← get) with
  | (found, false) => return found
  | (_, true) => fail

end DataType

end Reservations.Sql
