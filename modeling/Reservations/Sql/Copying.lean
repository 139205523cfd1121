import Reservations.Sql.Rights

namespace Reservations.Sql.Grammar

/-! ## Statements that copy rows into and out of files

Nothing is kept of these statements, but they have to be well formed. -/

open Parse

variable (g : Grammar)

/-! ### Options -/

/-- Reads a text of one byte. -/
def byteText : Parse Unit := do
  if (← label).utf8ByteSize ≠ 1 then fail

/-- Reads whether something is wanted, which it is if nothing is said. -/
def wanted : Parse Unit :=
  optionalOf [.TRUE, .FALSE]

/-- Reads how copied rows are written. -/
def copyOption : Parse Unit := do
  match ← expectOneOf
      [.FORMAT, .FREEZE, .DELIMITER, .NULL, .HEADER, .QUOTE, .ESCAPE, .FORCE_QUOTE,
        .FORCE_NOT_NULL, .FORCE_NULL, .ENCODING] with
  | .FORMAT => discard ident
  | .FREEZE | .HEADER => wanted
  | .DELIMITER | .QUOTE | .ESCAPE => byteText
  | .NULL | .ENCODING => discard label
  | _ => discard columnNames

/-- Reads how copied rows with separators are written. -/
def separatorOption : Parse Unit := do
  if (← firstOf? [[.FORCE, .QUOTE], [.FORCE, .NOT, .NULL]]).isSome then discard idents
  else
    match ← expectOneOf [.HEADER, .QUOTE, .ESCAPE] with
    | .HEADER => return ()
    | _ =>
        optional [.AS]
        byteText

/-- Reads a size of a file. -/
def fileSize : Parse Unit := do
  discard numberLiteral
  optionalOf [.MB, .GB]

/-- Reads a text in single quotes, if one comes next. -/
def optionalText : Parse Unit := do
  match ← peek? with
  | some (.literal (.text _)) => discard next
  | _ => return ()

/-- Reads the role that files are reached with. -/
def storageRole : Parse Unit := do
  unless ← keyword .DEFAULT do
    discard label

/-- The words that say how copied rows are written on their own. -/
def copyWords : List Keyword :=
  [.ACCEPTANYDATE, .ADDQUOTES, .ALLOWOVERWRITE, .BINARY, .BLANKSASNULL, .BZIP2, .CLEANPATH,
    .EMPTYASNULL, .ESCAPE, .GZIP, .HEADER, .JSON, .PARQUET, .TRUNCATECOLUMNS, .ZSTD]

/-- The words that say how copied rows are written together with what follows
them. -/
def copyWordsWithValues : List Keyword :=
  [.ACCEPTINVCHARS, .CSV, .DATEFORMAT, .DELIMITER, .ENCRYPTED, .EXTENSION, .FIXEDWIDTH,
    .IAM_ROLE, .IGNOREHEADER, .MANIFEST, .MAXFILESIZE, .NULL, .PARALLEL, .PARTITION, .REGION,
    .ROWGROUPSIZE, .TIMEFORMAT]

/-- Reads how copied rows are written in the older way. -/
def olderCopyOption : Parse Unit := do
  if ← keyword .FORMAT then optional [.AS]
  if (← oneOf? copyWords).isNone then
    match ← expectOneOf copyWordsWithValues with
    | .PARALLEL => optionalOf [.TRUE, .FALSE, .ON, .OFF]
    | .CSV => discard <| many (attempt separatorOption)
    | .ENCRYPTED => optional [.AUTO]
    | .MANIFEST => optional [.VERBOSE]
    | .EXTENSION | .FIXEDWIDTH => discard label
    | .IAM_ROLE => storageRole
    | .PARTITION =>
        expect [.BY]
        discard columnNames
        optional [.INCLUDE]
    | word =>
        optional [.AS]
        match word with
        | .DELIMITER => byteText
        | .IGNOREHEADER => discard natural
        | .MAXFILESIZE | .ROWGROUPSIZE => fileSize
        | .ACCEPTINVCHARS | .DATEFORMAT | .TIMEFORMAT => optionalText
        | _ => discard label

/-- Reads how copied rows are written in the older way, as often as it is
said. -/
def olderCopyOptions : Parse Unit :=
  discard <| many (attempt olderCopyOption)

/-! ### Statements -/

/-- What follows copied rows, which end with a backslash and a period. Another
character after a backslash is part of a row. -/
def afterRows : List Token → List Token
  | .stray '\\' :: .mark .period :: rest => rest
  | .stray '\\' :: _ :: rest => afterRows rest
  | _ :: rest => afterRows rest
  | [] => []

/-- Reads the rest of a statement that copies rows: where they come from or go
to, and how they are written. Rows from the input follow the statement. -/
def copied : Parse Unit := do
  match ← get with
  | .mark .openParen :: _ =>
      discard (parens g.query)
      expect [.TO]
  | _ =>
      discard objectName
      if (← peek?) = some (.mark .openParen) then
        discard columnNames
      discard <| expectOneOf [.FROM, .TO]
  let place ← oneOf? [.STDIN, .STDOUT, .PROGRAM]
  match place with
  | some .STDIN | some .STDOUT => pure ()
  | _ => discard label
  optional [.WITH]
  if (← peek?) = some (.mark .openParen) then
    discard <| parens (list copyOption)
  olderCopyOptions
  if place = some .STDIN then
    expectMark .semicolon
    modify afterRows

/-- Reads the rest of a statement that writes the rows of a query to files. -/
def unload : Parse Unit := do
  parens do
    match ← peek? with
    | some (.literal (.text _)) => discard next
    | _ => discard g.query
  expect [.TO]
  discard ident
  discard <| after? [.IAM_ROLE] storageRole
  discard <| g.settingsAfter .WITH
  olderCopyOptions

/-- Reads the rest of a statement that exports the rows of a query. -/
def exported : Parse Unit := do
  expect [.DATA]
  discard <| after? [.WITH, .CONNECTION] objectName
  expect [.OPTIONS]
  discard <| parens (list g.setting)
  expect [.AS]
  discard g.query

end Reservations.Sql.Grammar
