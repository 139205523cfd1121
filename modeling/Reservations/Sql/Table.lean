import Reservations.Sql.Change

namespace Reservations.Sql.Grammar

/-! ## Definitions of tables

Of the columns the normal form is kept, since columns can be part of a type. Of
the tables nothing is kept, but they have to be well formed. -/

open Parse

variable (g : Grammar)

/-! ### Rules -/

/-- The rule that a thing need not exist. -/
def ifExists : Parse Unit := optional [.IF, .EXISTS]

/-- The rule that a thing may exist already. -/
def ifNotExists : Parse Unit := optional [.IF, .NOT, .EXISTS]

/-- Reads the first of some sequences of keywords that comes next, as text. -/
def phrase? (phrases : List (List Keyword)) : Parse (Option String) := do
  return (← firstOf? phrases).map wordsText

/-- Reads the first of some sequences of keywords, one of which must come
next, as text. -/
def phrase (phrases : List (List Keyword)) : Parse String := do
  match ← phrase? phrases with
  | some text => return text
  | none => fail

/-- Reads what becomes of a row that refers to a changed row. -/
def referenceAction : Parse String :=
  phrase [[.RESTRICT], [.CASCADE], [.SET, .NULL], [.NO, .ACTION], [.SET, .DEFAULT]]

/-- Reads what becomes of rows that refer to removed or changed ones. Each is
said once at most. -/
def referenceActions : Parse String := do
  let deleted? := after? [.ON, .DELETE] referenceAction
  let updated? := after? [.ON, .UPDATE] referenceAction
  let deleted ← deleted?
  let updated ← updated?
  let deleted ← if deleted.isNone && updated.isSome then deleted? else pure deleted
  return clause "ON DELETE" deleted ++ clause "ON UPDATE" updated

/-- When a rule is checked, as far as it is said. -/
structure CheckTime where
  deferrable : Option String
  initially : Option String
  enforced : Option String

/-- The parts of a time as text, in an order of their own. -/
def CheckTime.render (time : CheckTime) : String :=
  String.join ([time.deferrable, time.initially, time.enforced].filterMap
    (Option.map (" " ++ ·)))

/-- Reads more on when a rule is checked, if it comes next. Each part is said once
at most. -/
def CheckTime.more? (time : CheckTime) : Parse (Option CheckTime) := do
  let unsaid? (part : Option String) (phrases : List (List Keyword)) : Parse (Option String) :=
    if part.isNone then phrase? phrases else return none
  match ← unsaid? time.deferrable [[.NOT, .DEFERRABLE], [.DEFERRABLE]] with
  | some text => return some { time with deferrable := text }
  | none =>
      match ← unsaid? time.initially [[.INITIALLY, .DEFERRED], [.INITIALLY, .IMMEDIATE]] with
      | some text => return some { time with initially := text }
      | none =>
          let enforced ← unsaid? time.enforced [[.ENFORCED], [.NOT, .ENFORCED]]
          return enforced.map fun text => { time with enforced := text }

/-- Reads when a rule is checked. Some tokens bound how much is said on it. -/
def checkTimeFrom : (limit : List Token) → CheckTime → Parse CheckTime
  | [], time => return time
  | _ :: limit, time => do
      match ← time.more? with
      | some time => checkTimeFrom limit time
      | none => return time

/-- Reads when a rule is checked, as text. -/
def checkTime : Parse String := do
  return (← checkTimeFrom (← get) ⟨none, none, none⟩).render

/-- Reads the columns of another table that are referred to. -/
def referredColumns : Parse String := do
  if (← peek?) = some (.mark .openParen) then return columnsText (← columnNames) else return ""

/-- Reads a number with some words before it as text, if they come next. One
more word may follow them. -/
def numbered? (wanted : Keyword) (filler : List Keyword) : Parse (Option String) :=
  after? [wanted] do
    let filled ← if filler.isEmpty then pure false else keywords filler
    return wordsText (wanted :: if filled then filler else []) ++ " " ++ (← signedNumberText)

/-- Reads the settings of a sequence in the order in which they must come, as
text. -/
def sequenceSettings : Parse String := do
  let bound? (limit : Keyword) : Parse (Option String) := do
    match ← numbered? limit [] with
    | some text => return some text
    | none => phrase? [[.NO, limit]]
  let step ← numbered? .INCREMENT [.BY]
  let low ← bound? .MINVALUE
  let high ← bound? .MAXVALUE
  let start ← numbered? .START [.WITH]
  let kept ← numbered? .CACHE []
  let cycle ← phrase? [[.NO, .CYCLE], [.CYCLE]]
  return String.join ([step, low, high, start, kept, cycle].filterMap (Option.map (" " ++ ·)))

/-- Reads the settings of a sequence in parentheses as text, if they come
next. -/
def sequenceOptions : Parse String := do
  if (← peek?) = some (.mark .openParen) then
    let found ← parens sequenceSettings
    return if found.isEmpty then "" else " (" ++ found ++ " )"
  else return ""

/-- Reads how the values of a column are made. There is no rule where the word
for it stands alone. -/
def generated? : Parse (Option String) := do
  match ← phrase? [[.ALWAYS, .AS, .IDENTITY], [.BY, .DEFAULT, .AS, .IDENTITY]] with
  | some text => return some ("GENERATED " ++ text ++ (← sequenceOptions))
  | none =>
      if ← keywords [.ALWAYS, .AS] <&&> mark .openParen then
        let value ← g.exprText
        expectMark .closeParen
        expect [.STORED]
        return some ("GENERATED ALWAYS AS (" ++ value ++ ") STORED")
      else return none

/-- Reads a text that describes something, between quotes or dollar signs. -/
def description : Parse String := do
  match ← next with
  | .literal (.text text) | .literal (.dollar _ text) => return text
  | _ => fail

/-- Reads the value that a column has where none is given. Nothing can follow one
in parentheses. -/
def defaultValue : Parse Expr := do
  if (← peek?) = some (.mark .openParen) then g.anyOperand else g.columnExpr

/-- Reads a rule for the values of a column, if one comes next. Some words that
say something elsewhere are passed over. -/
def columnRule? : Parse (Option String) := do
  if ← keywords [.CHARACTER, .SET] then
    return some ("CHARACTER SET " ++ (← objectName).render)
  else if ← keyword .COLLATE then return some ("COLLATE " ++ (← objectName).render)
  else if ← keywords [.NOT, .NULL] then return some "NOT NULL"
  else if ← keyword .COMMENT then return some ("COMMENT " ++ DataType.labelText (← description))
  else if ← keyword .NULL then return some "NULL"
  else if ← keyword .DEFAULT then return some ("DEFAULT " ++ (← g.defaultValue).render)
  else if ← keywords [.PRIMARY, .KEY] then return some ("PRIMARY KEY" ++ (← checkTime))
  else if ← keyword .UNIQUE then return some ("UNIQUE" ++ (← checkTime))
  else if ← keyword .REFERENCES then
    let table ← objectName
    let columns ← referredColumns
    let actions ← referenceActions
    return some ("REFERENCES " ++ table.render ++ spaced columns ++ actions ++ (← checkTime))
  else if ← keyword .CHECK then return some ("CHECK (" ++ (← parens g.exprText) ++ ")")
  else
    for word in [Keyword.AUTO_INCREMENT, .AUTOINCREMENT, .ASC, .DESC] do
      optional [word]
    optional [.ON, .UPDATE]
    if ← keyword .GENERATED then g.generated?
    else
      for word in [Keyword.AS, .SRID, .IDENTITY] do
        optional [word]
      return none

/-- Reads a rule for the values of a column, if one comes next. A rule must
follow where a name for it does. -/
def namedColumnRule? : Parse (Option String) := do
  match ← after? [.CONSTRAINT] ident with
  | none => g.columnRule?
  | some name =>
      match ← g.columnRule? with
      | some text => return some ("CONSTRAINT " ++ name.render ++ " " ++ text)
      | none => fail

/-- Reads the definition of a column. -/
def columnDefinition : Parse String := do
  let name ← ident
  let type ← g.dataType
  let rules ← many g.namedColumnRule?
  return name.render ++ " " ++ type.text ++ String.join (rules.map (" " ++ ·))

/-! ### Rules for rows -/

/-- Reads what an index is ordered by, which may have a class of operators. -/
def indexItem : Parse Unit := do
  discard g.anyExpr
  let ordered := [Keyword.ASC, .DESC, .NULLS, .WITH].contains
  unless (← peekKeyword?).any ordered do
    discard <| attempt ident
  discard direction

/-- Reads what an index is ordered by, in parentheses. -/
def indexItems : Parse Unit :=
  discard <| parens (list g.indexItem)

/-- Reads the kind of an index. -/
def indexKind : Parse Unit :=
  discard <| after? [.USING] ident

/-- Reads properties of an index. -/
def indexOptions : Parse Unit :=
  discard <| many do
    if ← keyword .USING then present ident
    else if ← keyword .COMMENT then present label
    else return none

/-- Reads whether nulls are alike in an index. -/
def nullsDistinct : Parse Unit := do
  if ← keyword .NULLS then
    optional [.NOT]
    expect [.DISTINCT]

/-- Reads the rest of a rule that no two rows are alike in some columns. -/
def keyRule : Parse (Option Unit) := do
  discard <| attempt ident
  indexKind
  g.indexItems
  indexOptions
  present checkTime

/-- Reads a rule for the rows of a table, if one comes next. -/
def tableRule? : Parse (Option Unit) := do
  let name ← after? [.CONSTRAINT] ident
  match ← oneOf? [.PRIMARY, .UNIQUE, .FOREIGN, .CHECK] with
  | some .PRIMARY =>
      expect [.KEY]
      g.keyRule
  | some .UNIQUE =>
      if (← oneOf? [.KEY, .INDEX]).isSome then fail
      nullsDistinct
      g.keyRule
  | some .FOREIGN =>
      expect [.KEY]
      discard <| attempt ident
      discard columnNames
      expect [.REFERENCES]
      discard objectName
      discard referredColumns
      discard referenceActions
      present checkTime
  | some .CHECK =>
      discard <| parens g.anyExpr
      unless ← keywords [.NOT, .ENFORCED] do
        optional [.ENFORCED]
      return some ()
  | _ => if name.isSome then fail else return none

/-- Reads a column or a rule of a table. -/
def tableItem : Parse Unit := do
  if (← g.tableRule?).isNone then
    match ← peek? with
    | some token => if token.isWord then discard g.columnDefinition else fail
    | none => fail

/-- Reads the columns and rules of a table, if they come next. -/
def tableItems : Parse Unit := do
  if (← peek?) = some (.mark .openParen) then
    discard <| parens (listUnless .closeParen g.tableItem)

/-! ### Settings -/

/-- Reads a setting with its value. -/
def setting : Parse Unit := do
  discard ident
  expectToken (.operator "=")
  discard g.anyExpr

/-- Reads settings in parentheses after a word, if it comes next, and gives whether
there are any. -/
def settingsAfter (word : Keyword) : Parse Bool := do
  match ← after? [word] (parens (listUnless .closeParen g.setting)) with
  | some found => return !found.isEmpty
  | none => return false

/-- Reads an equals sign, if it comes next. -/
def optionalEquals : Parse Unit :=
  discard <| token (.operator "=")

/-- Reads how a change is carried out, if it comes next. -/
def changeManner? : Parse (Option Unit) := do
  let manner (choices : List Keyword) : Parse (Option Unit) := do
    optionalEquals
    present (expectOneOf choices)
  match ← oneOf? [.LOCK, .ALGORITHM] with
  | some .LOCK => manner [.DEFAULT, .EXCLUSIVE, .NONE, .SHARED]
  | some _ => manner [.DEFAULT, .INPLACE, .INSTANT, .COPY]
  | none => return none

/-- The words before a value that a table has as a property. -/
def plainNames : List (List Keyword) :=
  [[.DEFAULT, .CHARSET], [.CHARSET], [.DEFAULT, .CHARACTER, .SET], [.CHARACTER, .SET],
    [.DEFAULT, .COLLATE], [.COLLATE], [.DATA, .DIRECTORY], [.INDEX, .DIRECTORY],
    [.KEY_BLOCK_SIZE], [.ROW_FORMAT], [.PACK_KEYS], [.STATS_AUTO_RECALC], [.STATS_PERSISTENT],
    [.STATS_SAMPLE_PAGES], [.DELAY_KEY_WRITE], [.COMPRESSION], [.ENCRYPTION], [.MAX_ROWS],
    [.MIN_ROWS], [.AUTOEXTEND_SIZE], [.AVG_ROW_LENGTH], [.CHECKSUM], [.CONNECTION],
    [.ENGINE_ATTRIBUTE], [.PASSWORD], [.SECONDARY_ENGINE_ATTRIBUTE], [.INSERT_METHOD],
    [.AUTO_INCREMENT]]

/-- Reads a text in single quotes. -/
def quotedText : Parse Unit := do
  match ← next with
  | .literal (.text _) => return ()
  | _ => fail

/-- Reads where a table is stored. -/
def tablespace : Parse Unit := do
  optionalEquals
  match ← next with
  | .word .. | .quoted _ | .literal (.text _) => pure ()
  | _ => fail
  if ← keyword .STORAGE then
    optionalEquals
    match ← next with
    | .word text _ | .quoted text =>
        unless ["DISK", "MEMORY"].contains (String.ofList (Text.upper text.toList)) do
          fail
    | _ => fail

/-- Reads a property of a table without parentheses, if one comes next. -/
def plainOption? : Parse (Option Unit) := do
  if ← keywords [.START, .TRANSACTION] then return some ()
  else
    match ← oneOf? [.COMMENT, .ENGINE, .TABLESPACE, .UNION] with
    | some .COMMENT =>
        optionalEquals
        present quotedText
    | some .ENGINE =>
        optionalEquals
        match ← next with
        | .word .. | .quoted _ =>
            if (← peek?) = some (.mark .openParen) then discard columnNames
            return some ()
        | _ => fail
    | some .TABLESPACE => present tablespace
    | some _ =>
        optionalEquals
        present <| parens (listUnless .closeParen ident)
    | none =>
        if (← firstOf? plainNames).isSome then
          optionalEquals
          if (← attempt literal).isNone then discard ident
          return some ()
        else return none

/-- Reads how the rows of a table stand in a file, up to what cannot be
read. -/
def delimiters : Parse Unit :=
  discard <| many do
    match ← oneOf? [.FIELDS, .COLLECTION, .MAP, .LINES, .NULL] with
    | some .FIELDS =>
        if ← keywords [.TERMINATED, .BY] then
          discard ident
          discard <| after? [.ESCAPED, .BY] ident
          return some ()
        else return none
    | some .COLLECTION => after? [.ITEMS, .TERMINATED, .BY] (discard ident)
    | some .MAP => after? [.KEYS, .TERMINATED, .BY] (discard ident)
    | some .LINES => after? [.TERMINATED, .BY] (discard ident)
    | some _ => after? [.DEFINED, .AS] (discard ident)
    | none => return none

/-- Reads how a table is kept in files. -/
def fileLayout : Parse Unit :=
  discard <| many do
    if ← keywords [.WITH, .SERDEPROPERTIES] then present <| parens (list g.setting)
    else
      match ← oneOf? [.ROW, .STORED, .LOCATION] with
      | some .ROW =>
          expect [.FORMAT]
          match ← oneOf? [.SERDE, .DELIMITED] with
          | some .SERDE => present label
          | _ => present delimiters
      | some .STORED =>
          expect [.AS]
          if ← keyword .INPUTFORMAT then
            discard g.anyExpr
            expect [.OUTPUTFORMAT]
            present g.anyExpr
          else present (expectOneOf fileFormats)
      | some _ => present label
      | none => return none

/-- Reads the group of machines that a statement is meant for. -/
def onCluster : Parse Unit :=
  discard <| after? [.ON, .CLUSTER] ident

/-- Reads the properties of a table between its columns and its order. -/
def tableProperties : Parse Unit := do
  discard <| after? [.INHERITS] (parens (list objectName))
  let plain ← g.settingsAfter .WITH
  let more ← g.settingsAfter .TBLPROPERTIES
  discard <| after? [.PARTITION, .BY] g.anyExpr
  unless plain || more do
    discard <| many do
      let found ← plainOption?
      if found.isSome then discard <| mark .comma
      return found

/-- Reads the rest of a definition of a table. -/
def newTable : Parse Unit := do
  ifNotExists
  discard objectName
  onCluster
  if (← oneOf? [.LIKE, .ILIKE]).isSome then discard objectName
  discard <| after? [.CLONE] passObjectName
  g.tableItems
  optional [.WITHOUT, .ROWID]
  discard <| after? [.PARTITIONED, .BY] (parens (list g.columnDefinition))
  g.fileLayout
  g.tableProperties
  if ← keywords [.ORDER, .BY] then
    if (← peek?) = some (.mark .openParen) then
      discard <| parens (listUnless .closeParen g.anyExpr)
    else discard g.anyExpr
  if ← keywords [.ON, .COMMIT] then
    discard <| phrase [[.DELETE, .ROWS], [.PRESERVE, .ROWS], [.DROP]]
  optional [.STRICT]
  discard <| after? [.AS] g.query

end Reservations.Sql.Grammar
