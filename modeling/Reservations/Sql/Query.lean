import Reservations.Sql.From

namespace Reservations.Sql.Grammar

/-! ## Queries -/

open Parse

variable (g : Grammar)

/-- Some words and what follows them, or nothing. -/
def clause (words : String) (found : Option String) : String :=
  found.elim "" fun text => " " ++ words ++ " " ++ text

/-! ### Selections -/

/-- Reads an item of a selection. -/
def selectItem : Parse String := do
  match ← g.starred with
  | .star text => return text
  | .expr item =>
      match item with
      | .name [⟨text, none⟩] =>
          if Text.lower text.toList = "from".toList then fail
      | _ => pure ()
      return item.render ++ clause "AS" ((← aliasName? neverColumnAliases).map Ident.render)

/-- Reads what a selection says on repeated rows. -/
def distinctness : Parse String := do
  if ← keyword .ALL then
    if (← peekKeyword?) = some .DISTINCT then fail else return ""
  else if ← keyword .DISTINCT then
    if ← keyword .ON then
      return " DISTINCT ON (" ++ commaText (← parens (listUnless .closeParen g.exprText)) ++ ")"
    else return " DISTINCT"
  else return ""

/-- Reads how many of the first rows are wanted. -/
def top : Parse String := do
  if ← keyword .TOP then
    let amount ←
      if (← peek?) = some (.mark .openParen) then
        pure ("(" ++ (← parens g.exprText) ++ ")")
      else Text.countText <$> natural
    let percent ← if ← keyword .PERCENT then pure " PERCENT" else pure ""
    let ties ← if ← keywords [.WITH, .TIES] then pure " WITH TIES" else pure ""
    return " TOP " ++ amount ++ percent ++ ties
  else return ""

/-- Reads where the rows of a selection go. -/
def destination : Parse String := do
  let temporary ← oneOf? [.TEMPORARY, .TEMP]
  let unlogged ← keyword .UNLOGGED
  let table ← keyword .TABLE
  return (if temporary.isSome then "TEMPORARY " else "") ++ (if unlogged then "UNLOGGED " else "")
    ++ (if table then "TABLE " else "") ++ (← objectName).render

/-- The keywords that name no column of a view on the elements of another one. -/
def neverViewColumns : List Keyword :=
  [.WHERE, .GROUP, .CLUSTER, .HAVING, .LATERAL]

/-- Reads views on the elements of a column, as far as they come next. -/
def lateralViews : Parse String := do
  let found ← many <| after? [.LATERAL, .VIEW] do
    let outer ← if ← keyword .OUTER then pure " OUTER" else pure ""
    let values ← g.exprText
    let name ← objectName
    let columns := (← list (aliasName? neverViewColumns)).filterMap id
    return " LATERAL VIEW" ++ outer ++ " " ++ values ++ " " ++ name.render
      ++ if columns.isEmpty then "" else " AS " ++ commaText (columns.map Ident.render)
  return String.join found

/-- Reads expressions in parentheses, which may be none. -/
def tuple : Parse (List String) :=
  parens (listUnless .closeParen g.exprText)

/-- Reads one expression, or some in parentheses. -/
def tupleOrExpr : Parse (List String) := do
  if (← peek?) = some (.mark .openParen) then g.tuple else return [← g.exprText]

/-- Expressions in parentheses. -/
def tupleText (items : List String) : String :=
  "(" ++ commaText items ++ ")"

/-- Expressions in parentheses, if they are not just one. -/
def shortTupleText : List String → String
  | [item] => item
  | items => tupleText items

/-- Reads an item to group by. -/
def groupItem : Parse String := do
  if ← keywords [.GROUPING, .SETS] then
    return "GROUPING SETS " ++ tupleText ((← parens (list g.tuple)).map tupleText)
  else
    match ← oneOf? [.CUBE, .ROLLUP] with
    | some word =>
        return word.text ++ " " ++ tupleText ((← parens (list g.tupleOrExpr)).map shortTupleText)
    | none =>
        match ← get with
        | .mark .openParen :: .mark .closeParen :: rest =>
            set rest
            return "()"
        | _ => g.exprText

/-- Reads what the rows are grouped by. -/
def grouping : Parse String := do
  let items ← if ← keyword .ALL then pure "ALL" else commaText <$> list g.groupItem
  let sets ← after? [.GROUPING, .SETS] (parens (list g.tupleOrExpr))
  return items ++ clause "GROUPING SETS" (sets.map fun sets => tupleText (sets.map tupleText))

/-- Reads a named window. -/
def namedWindow : Parse String := do
  let name ← ident
  expect [.AS]
  return name.render ++ " AS " ++ (← g.window g.anyOperand)

/-- Reads a selection. -/
def selection : Parse Query := do
  expect [.SELECT]
  let distinct ← g.distinctness
  let top ← g.top
  let items ← if (← peekKeyword?) = some .FROM then pure [] else list g.selectItem
  let into ← after? [.INTO] destination
  let relations ← after? [.FROM] g.sources
  let views ← g.lateralViews
  let filter ← after? [.WHERE] g.anyExpr
  let groups ← after? [.GROUP, .BY] g.grouping
  let clusters ← after? [.CLUSTER, .BY] g.exprsText
  let distributes ← after? [.DISTRIBUTE, .BY] g.exprsText
  let sorts ← after? [.SORT, .BY] g.orderItems
  let having ← after? [.HAVING] g.exprText
  let window? := after? [.WINDOW] (commaText <$> list g.namedWindow)
  let early ← window?
  let qualify ← after? [.QUALIFY] g.exprText
  let late ← if early.isNone && qualify.isSome then window? else pure none
  let relations := relations.getD []
  let text := "SELECT" ++ distinct ++ top
    ++ (if items.isEmpty then "" else " " ++ commaText items)
    ++ clause "INTO" into
    ++ (if relations.isEmpty then "" else " FROM " ++ commaText (relations.map Joined.text))
    ++ views ++ clause "WHERE" (filter.map Expr.render) ++ clause "GROUP BY" groups
    ++ clause "CLUSTER BY" clusters ++ clause "DISTRIBUTE BY" distributes
    ++ clause "SORT BY" sorts ++ clause "HAVING" having ++ clause "WINDOW" early
    ++ clause "QUALIFY" qualify ++ clause "WINDOW" late
  return ⟨.select (relations.map fun joined => joined.source.relation) filter, text⟩

/-! ### Values and sets -/

/-- Reads a row of values, and whether a word says that it is one. -/
def row : Parse (Bool × List Expr) := do
  let explicit ← keyword .ROW
  return (explicit, ← parens (list g.anyExpr))

/-- Reads rows of values. -/
def values : Parse Query := do
  let rows ← list g.row
  let word := if rows.any Prod.fst then "ROW" else ""
  let texts := rows.map fun row => word ++ "(" ++ commaText (row.2.map Expr.render) ++ ")"
  return ⟨.values (rows.map Prod.snd), "VALUES " ++ commaText texts⟩

/-- Reads a word as it is, without the quotes that it may have. -/
def bareWord : Token → Parse String
  | .word text _ | .quoted text => return text
  | _ => fail

/-- Reads the name of a table whose rows are wanted. Two tokens after a name
without a schema are passed over. -/
def wholeTable : Parse Query := do
  match ← get with
  | first :: .mark .period :: second :: rest =>
      set rest
      return ⟨.other, "TABLE " ++ (← bareWord first) ++ "." ++ (← bareWord second)⟩
  | [_, .mark .period] => fail
  | first :: rest =>
      set (rest.drop 2)
      return ⟨.other, "TABLE " ++ (← bareWord first)⟩
  | [] => fail

/-- Reads the simplest part of a query. -/
def simpleQuery : Parse Query := do
  if (← peekKeyword?) = some .SELECT then g.selection
  else if (← peek?) = some (.mark .openParen) then
    return ⟨.other, ← g.subquery⟩
  else if ← keyword .VALUES then g.values
  else if ← keyword .TABLE then wholeTable
  else fail

/-- Reads what follows the word that joins two queries. -/
def quantifier : Parse String := do
  if ← keywords [.DISTINCT, .BY, .NAME] then return " DISTINCT BY NAME"
  else if ← keywords [.BY, .NAME] then return " BY NAME"
  else if ← keyword .ALL then
    return if ← keywords [.BY, .NAME] then " ALL BY NAME" else " ALL"
  else return if ← keyword .DISTINCT then " DISTINCT" else ""

/-- Reads queries of one kind with some words between them, which group from
the left. -/
def combined (part : Parse Query) (words : List Keyword) : Parse Query := do
  let first ← part
  let others ← many do
    match ← oneOf? words with
    | none => return none
    | some word =>
        let quantity ← quantifier
        return some (" " ++ word.text ++ quantity ++ " " ++ (← part).text)
  if others.isEmpty then return first
  else return ⟨.other, first.text ++ String.join others⟩

/-- Reads a query without the clauses around it. -/
def queryBody : Parse Query :=
  combined (combined g.simpleQuery [.INTERSECT]) [.UNION, .EXCEPT, .MINUS]

/-! ### Clauses around a query -/

/-- Reads a query that is given a name. -/
def namedQuery : Parse String := do
  let name ← ident
  let columns ← g.aliasColumns
  expect [.AS]
  let materialized ←
    if ← keyword .MATERIALIZED then pure "MATERIALIZED "
    else if ← keywords [.NOT, .MATERIALIZED] then pure "NOT MATERIALIZED "
    else pure ""
  let query ← g.subquery
  let from? ← after? [.FROM] ident
  return name.render ++ columns ++ " AS " ++ materialized ++ query
    ++ clause "FROM" (from?.map Ident.render)

/-- Reads how many rows are wanted. -/
def limit : Parse (Option String) := do
  if ← keyword .ALL then return none else some <$> g.exprText

/-- Reads how many rows are passed over. -/
def offset : Parse String := do
  let count ← g.exprText
  let unit ← oneOf? [.ROW, .ROWS]
  return count ++ unit.elim "" fun word => " " ++ word.text

/-- Reads how many rows are wanted, and how many are passed over. -/
def limits : Parse String := do
  let before ← after? [.OFFSET] g.offset
  let count ← after? [.LIMIT] g.limit
  let after ←
    if before.isNone && count.isSome then after? [.OFFSET] g.offset else pure none
  return clause "LIMIT" count.join ++ clause "OFFSET" (before.or after)

/-- Reads how many rows are fetched. -/
def fetched : Parse String := do
  let _ ← oneOf? [.FIRST, .NEXT]
  let amount ←
    match ← oneOf? [.ROW, .ROWS] with
    | some _ => pure ""
    | none =>
        let count ← literal
        let percent ← if ← keyword .PERCENT then pure " PERCENT" else pure ""
        let _ ← oneOf? [.ROW, .ROWS]
        pure (" " ++ count.render ++ percent)
  let ties ← if ← keyword .ONLY then pure false else keywords [.WITH, .TIES]
  return "FIRST" ++ amount ++ " ROWS " ++ if ties then "WITH TIES" else "ONLY"

/-- Reads how the rows are locked. -/
def lock : Parse String := do
  match ← oneOf? [.UPDATE, .SHARE] with
  | none => fail
  | some strength =>
      let tables ← after? [.OF] objectName
      let wait ←
        if ← keyword .NOWAIT then pure " NOWAIT"
        else if ← keywords [.SKIP, .LOCKED] then pure " SKIP LOCKED"
        else pure ""
      return strength.text ++ clause "OF" (tables.map ObjectName.render) ++ wait

/-- Reads a label in parentheses, if it comes next. -/
def namedElement : Parse String := do
  if (← peek?) = some (.mark .openParen) then
    let name ← parens label
    return s!"('{name}')"
  else return ""

/-- Reads options with a comma before each. A comma alone is one too. -/
def commaOptions (option : Parse (List (Keyword × String))) : Parse (List (Keyword × String)) := do
  let found ← many do
    if ← mark .comma then some <$> option else return none
  return found.flatten

/-- The options that have been found, each once, in a given order. -/
def inOrder (order : List Keyword) (found : List (Keyword × String)) : String :=
  String.join (order.map fun word =>
    ((found.reverse.lookup word).map (", " ++ ·)).getD "")

/-- Reads how the rows are made a marked-up text. -/
def markupForm : Parse String := do
  let form ←
    match ← expectOneOf [.RAW, .AUTO, .EXPLICIT, .PATH] with
    | .RAW => pure ("RAW" ++ (← namedElement))
    | .PATH => pure ("PATH" ++ (← namedElement))
    | word => pure word.text
  let options ← commaOptions do
    match ← oneOf? [.ELEMENTS, .BINARY, .ROOT, .TYPE] with
    | some .BINARY =>
        expect [.BASE64]
        return [(.BINARY, "BINARY BASE64")]
    | some .ROOT =>
        let name ← parens label
        return [(.ROOT, s!"ROOT('{name}')")]
    | some word => return [(word, word.text)]
    | none => return []
  return "FOR XML " ++ form ++ inOrder [.BINARY, .TYPE, .ROOT, .ELEMENTS] options

/-- Reads how the rows are made a document. -/
def documentForm : Parse String := do
  let form ← expectOneOf [.AUTO, .PATH]
  let options ← commaOptions do
    match ← oneOf? [.ROOT, .INCLUDE_NULL_VALUES, .WITHOUT_ARRAY_WRAPPER] with
    | some .ROOT =>
        let name ← parens label
        return [(.ROOT, s!"ROOT('{name}')")]
    | some word => return [(word, word.text)]
    | none => return []
  return "FOR JSON " ++ form.text
    ++ inOrder [.ROOT, .INCLUDE_NULL_VALUES, .WITHOUT_ARRAY_WRAPPER] options

/-- Reads what the rows are made, if they are made something. -/
def form? : Parse (Option String) := do
  match ← oneOf? [.XML, .JSON, .BROWSE] with
  | some .XML => some <$> markupForm
  | some .JSON => some <$> documentForm
  | some _ => return some "FOR BROWSE"
  | none => return none

/-- Reads what the rows are for, up to what they are made. Some tokens bound the
number of locks. -/
def purposes : (limit : List Token) → Parse (List String)
  | [] => return []
  | _ :: limit => do
      if ← keyword .FOR then
        match ← form? with
        | some form => return [form]
        | none =>
            let lock ← lock
            return ("FOR " ++ lock) :: (← purposes limit)
      else return []

/-- Reads what comes after the word `WITH` before a query. -/
def namedQueries : Parse String := do
  let recursive ← if ← keyword .RECURSIVE then pure "RECURSIVE " else pure ""
  return "WITH " ++ recursive ++ commaText (← list g.namedQuery) ++ " "

/-- Reads a query. The rule for the other statements that can stand in the
place of one, with what they return, is given. -/
def fullQuery (change : Parse String) : Parse Query := do
  let names ← after? [.WITH] g.namedQueries
  match ← peekKeyword? with
  | some .INSERT | some .UPDATE | some .DELETE | some .MERGE =>
      return ⟨.other, names.getD "" ++ (← change)⟩
  | _ =>
      let body ← g.queryBody
      let order ← after? [.ORDER, .BY] g.orderItems
      let limits ← g.limits
      let fetch ← after? [.FETCH] fetched
      let purposes ← purposes (← get)
      return ⟨body.body, names.getD "" ++ body.text ++ clause "ORDER BY" order ++ limits
        ++ clause "FETCH" fetch ++ String.join (purposes.map (" " ++ ·))⟩

end Reservations.Sql.Grammar
