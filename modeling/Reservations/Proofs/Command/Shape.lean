import Reservations.Proofs.Command.Row
import Reservations.Proofs.Sql.Statement

namespace Reservations.Command

open Sql

/-! ## What commands are read from

A command is read from a few parts of a statement, which make up its shape: the last part
of the name of a table, and columns with values. Nothing else in the statement counts. -/

/-- The shape of a statement. -/
inductive Shape where
  | insertion (table : Ident) (columns : List Ident) (values : List Expr)
  | selection (table : Ident)
  | filtered (table column : Ident) (text : String)
  | deletion (table column : Ident) (text : String)
  deriving DecidableEq

/-- The column that a filter compares with a text. -/
def filter? : Expr → Option (Ident × String)
  | .binary (.name parts) operator (.literal (.text text)) =>
      if operator = "=" then parts.getLast?.map (·, text) else none
  | .nested inner => filter? inner
  | _ => none

/-- The name of the first table, if tables are joined to it or not. -/
def leading? : List Relation → Option Ident
  | .table name :: _ => name.getLast?
  | _ => none

/-- The shape of a statement, if it has one: an insertion has a single row, and a filter is an
equation for a column and a text. -/
def shape? : Statement → Option Shape
  | .insert table columns (some ⟨.values [row], _⟩) =>
      table.getLast?.map (Shape.insertion · columns row)
  | .query ⟨.select relations none, _⟩ => (leading? relations).map Shape.selection
  | .query ⟨.select relations (some filter), _⟩ => do
      let table ← leading? relations
      let (column, text) ← filter? filter
      return .filtered table column text
  | .delete relations (some filter) => do
      let table ← leading? relations
      let (column, text) ← filter? filter
      return .deletion table column text
  | _ => none

/-- The columns of an insertion. -/
def columnKeys (columns : List Ident) : List String :=
  if columns.isEmpty then insertColumns else columns.map key

/-- What a shape says, once it is known what a row says. -/
inductive Shape.Says (row : List String → List Expr → Request → Prop) : Shape → Command → Prop
  | book {table : Ident} {columns : List Ident} {values : List Expr} {request : Request}
      (named : key table = tableName) (filled : row (columnKeys columns) values request) :
      Says row (.insertion table columns values) (.book request)
  | list {table : Ident} (named : key table = tableName) : Says row (.selection table) (.list none)
  | find {table column : Ident} {text : String} {id : Ulid} (named : key table = tableName)
      (compared : key column = "id") (read : idOfText text = .ok id) :
      Says row (.filtered table column text) (.find id)
  | listOf {table column : Ident} {text : String} {resource : Ulid}
      (named : key table = tableName) (compared : key column = "resource_id")
      (read : idOfText text = .ok resource) :
      Says row (.filtered table column text) (.list (some resource))
  | remove {table column : Ident} {text : String} {id : Ulid} (named : key table = tableName)
      (compared : key column = "id") (read : idOfText text = .ok id) :
      Says row (.deletion table column text) (.remove id)

/-! ### Tables and filters -/

theorem checkTable_eq_ok_iff {name : ObjectName} :
    checkTable name = .ok () ↔ ∃ last, name.getLast? = some last ∧ key last = tableName := by
  unfold checkTable
  cases name.getLast? with
  | none => simp
  | some last =>
      by_cases named : key last = tableName
      · simp [named]
      · simp [named]

/-- The name of a column to filter by. -/
def FilterColumn.name : FilterColumn → String
  | .id => "id"
  | .resource => "resource_id"

theorem filterColumn?_eq_some_iff {parts : ObjectName} {column : FilterColumn} :
    filterColumn? (.name parts) = some column ↔
      ∃ last, parts.getLast? = some last ∧ key last = column.name := by
  rw [filterColumn?]
  cases parts.getLast? with
  | none => simp
  | some last =>
      have apart : "id" ≠ "resource_id" := by decide
      cases column with
      | id => simp [FilterColumn.name]
      | resource =>
          by_cases named : key last = "resource_id"
          · simp [FilterColumn.name, named]
          · simp [FilterColumn.name, named]

theorem idOf_eq_ok_iff {value : Expr} {id : Ulid} :
    idOf value = .ok id ↔ ∃ text, value = .literal (.text text) ∧ idOfText text = .ok id := by
  constructor
  · intro read
    unfold idOf at read
    split at read
    · rename_i text
      exact ⟨text, rfl, read⟩
    · cases read
    · cases read
  · rintro ⟨text, rfl, read⟩
    exact read

section Equation

variable {left right value : Expr} {operator : String} {column : FilterColumn}

theorem equation?_binary_iff :
    equation? (.binary left operator right) = some (column, value) ↔
      operator = "=" ∧ right = value ∧
        ∃ parts last, left = .name parts ∧ parts.getLast? = some last ∧ key last = column.name := by
  rw [equation?]
  constructor
  · intro found
    split at found
    · rename_i equal
      obtain ⟨found, compared, same⟩ := Option.map_eq_some_iff.mp found
      obtain ⟨rfl, rfl⟩ := Prod.mk.inj same
      cases left with
      | name parts =>
          obtain ⟨last, ends, named⟩ := filterColumn?_eq_some_iff.mp compared
          exact ⟨equal, rfl, parts, last, rfl, ends, named⟩
      | _ => cases compared
    · cases found
  · rintro ⟨rfl, rfl, parts, last, rfl, ends, named⟩
    rw [if_pos rfl, filterColumn?_eq_some_iff.mpr ⟨last, ends, named⟩]
    rfl

theorem filter?_binary_iff {name : Ident} {text : String} :
    filter? (.binary left operator right) = some (name, text) ↔
      operator = "=" ∧ right = .literal (.text text) ∧
        ∃ parts, left = .name parts ∧ parts.getLast? = some name := by
  constructor
  · intro found
    unfold filter? at found
    split at found
    · rename_i binary
      split at found
      · rename_i equal
        obtain ⟨last, ends, same⟩ := Option.map_eq_some_iff.mp found
        obtain ⟨rfl, rfl⟩ := Prod.mk.inj same
        obtain ⟨rfl, rfl, rfl⟩ := Expr.binary.inj binary
        exact ⟨equal, rfl, _, rfl, ends⟩
      · cases found
    · rename_i nested
      cases nested
    · cases found
  · rintro ⟨rfl, rfl, parts, rfl, ends⟩
    rw [filter?, if_pos rfl, ends]
    rfl

end Equation

/-- What a filter compares with a column is an identifier where it is the text of one. -/
theorem equation?_iff {filter : Expr} {column : FilterColumn} {id : Ulid} :
    (∃ value, equation? filter = some (column, value) ∧ idOf value = .ok id) ↔
      ∃ name text, filter? filter = some (name, text) ∧ key name = column.name ∧
        idOfText text = .ok id := by
  induction filter with
  | nested inner inductionHypothesis => exact inductionHypothesis
  | binary left operator right =>
      simp only [equation?_binary_iff, filter?_binary_iff, idOf_eq_ok_iff]
      constructor
      · rintro ⟨_, ⟨rfl, rfl, parts, last, rfl, ends, named⟩, text, rfl, read⟩
        exact ⟨last, text, ⟨rfl, rfl, parts, rfl, ends⟩, named, read⟩
      · rintro ⟨last, text, ⟨rfl, rfl, parts, rfl, ends⟩, named, read⟩
        exact ⟨_, ⟨rfl, rfl, parts, last, rfl, ends, named⟩, text, rfl, read⟩
  | _ => simp [equation?, filter?]

/-! ### Statements -/

variable {command : Command}

/-- The command that is made of what a filter compares with a column. -/
theorem compared_eq_ok_iff {filter : Expr} {column : FilterColumn} {make : Ulid → Command} :
    (∃ value, equation? filter = some (column, value) ∧
        (do return make (← idOf value)) = .ok command) ↔
      ∃ name text id, filter? filter = some (name, text) ∧ key name = column.name ∧
        idOfText text = .ok id ∧ make id = command := by
  simp only [bind_eq_ok_iff, pure, Except.pure, Except.ok.injEq]
  constructor
  · rintro ⟨value, compares, id, read, made⟩
    obtain ⟨name, text, found, named, read⟩ := equation?_iff.mp ⟨value, compares, read⟩
    exact ⟨name, text, id, found, named, read, made⟩
  · rintro ⟨name, text, id, found, named, read, made⟩
    obtain ⟨value, compares, read⟩ := equation?_iff.mpr ⟨name, text, found, named, read⟩
    exact ⟨value, compares, id, read, made⟩

section Checks

variable {next : Unit → Except CommandFault Command}

/-- What follows a check for the table is only looked at when the check has passed. -/
theorem checkTable_bind_eq_ok_iff {name : ObjectName} :
    checkTable name >>= next = .ok command ↔
      ∃ last, name.getLast? = some last ∧ key last = tableName ∧ next () = .ok command := by
  rw [bind_eq_ok_iff]
  constructor
  · rintro ⟨_, passed, done⟩
    obtain ⟨last, ends, named⟩ := checkTable_eq_ok_iff.mp passed
    exact ⟨last, ends, named, done⟩
  · rintro ⟨last, ends, named, done⟩
    exact ⟨(), checkTable_eq_ok_iff.mpr ⟨last, ends, named⟩, done⟩

theorem checkRelation_bind_eq_ok_iff {first : Relation} (others : List Relation) :
    checkRelation first >>= next = .ok command ↔
      ∃ table, leading? (first :: others) = some table ∧ key table = tableName ∧
        next () = .ok command := by
  cases first with
  | table name => exact checkTable_bind_eq_ok_iff
  | other =>
      constructor
      · intro done
        cases done
      · rintro ⟨table, none, _⟩
        cases none

end Checks

theorem shape?_insert_iff
    {table : ObjectName} {columns : List Ident} {source : Option Query} {shape : Shape} :
    shape? (.insert table columns source) = some shape ↔
      ∃ last row text, table.getLast? = some last ∧ source = some ⟨.values [row], text⟩ ∧
        shape = .insertion last columns row := by
  constructor
  · intro shaped
    unfold shape? at shaped
    split at shaped
    · rename_i row text statement
      obtain ⟨rfl, rfl, rfl⟩ := Statement.insert.inj statement
      obtain ⟨last, ends, rfl⟩ := Option.map_eq_some_iff.mp shaped
      exact ⟨last, row, text, ends, rfl, rfl⟩
    · rename_i statement
      cases statement
    · rename_i statement
      cases statement
    · rename_i statement
      cases statement
    · cases shaped
  · rintro ⟨last, row, text, ends, rfl, rfl⟩
    rw [shape?, ends]
    rfl

theorem ofInsertion_eq_ok_iff
    {table : ObjectName} {columns : List Ident} {source : Option Query} :
    ofInsertion table columns source = .ok command ↔
      ∃ shape, shape? (.insert table columns source) = some shape ∧
        shape.Says YieldedBy command := by
  simp only [shape?_insert_iff]
  rw [ofInsertion, checkTable_bind_eq_ok_iff]
  constructor
  · rintro ⟨last, ends, named, done⟩
    split at done
    · cases done
    · rename_i row sourced
      obtain ⟨⟨body, text⟩, rfl, rfl⟩ := Option.map_eq_some_iff.mp sourced
      obtain ⟨request, read, ⟨⟩⟩ := bind_eq_ok_iff.mp done
      exact ⟨_, ⟨last, row, text, ends, rfl, rfl⟩, .book named (requestOf_eq_ok_iff.mp read)⟩
    · cases done
    · cases done
  · rintro ⟨_, ⟨last, row, text, ends, rfl, rfl⟩, said⟩
    cases said with
    | book named filled =>
        exact ⟨last, ends, named, bind_eq_ok_iff.mpr ⟨_, requestOf_eq_ok_iff.mpr filled, rfl⟩⟩

section Filtered

variable {relations : List Relation} {filter : Expr} {shape : Shape}

theorem shape?_filtered_iff {text : String} :
    shape? (.query ⟨.select relations (some filter), text⟩) = some shape ↔
      ∃ table column value, leading? relations = some table ∧
        filter? filter = some (column, value) ∧ .filtered table column value = shape := by
  simp [shape?, Option.bind_eq_some_iff]

theorem shape?_deletion_iff :
    shape? (.delete relations (some filter)) = some shape ↔
      ∃ table column value, leading? relations = some table ∧
        filter? filter = some (column, value) ∧ .deletion table column value = shape := by
  simp [shape?, Option.bind_eq_some_iff]

end Filtered

theorem ofQuery_all_eq_ok_iff
    {first : Relation} {others : List Relation} {source : String} :
    ofQuery ⟨.select (first :: others) none, source⟩ = .ok command ↔
      ∃ shape, shape? (.query ⟨.select (first :: others) none, source⟩) = some shape ∧
        shape.Says YieldedBy command := by
  rw [ofQuery]
  dsimp only
  rw [checkRelation_bind_eq_ok_iff others]
  constructor
  · rintro ⟨table, leads, named, ⟨⟩⟩
    exact ⟨.selection table, by rw [shape?, leads]; rfl, .list named⟩
  · rintro ⟨_, shaped, said⟩
    obtain ⟨table, leads, rfl⟩ := Option.map_eq_some_iff.mp shaped
    cases said with
    | list named => exact ⟨table, leads, named, rfl⟩

theorem ofQuery_filtered_eq_ok_iff
    {first : Relation} {others : List Relation} {filter : Expr} {source : String} :
    ofQuery ⟨.select (first :: others) (some filter), source⟩ = .ok command ↔
      ∃ shape, shape? (.query ⟨.select (first :: others) (some filter), source⟩) = some shape ∧
        shape.Says YieldedBy command := by
  have filtered :
      ofQuery ⟨.select (first :: others) (some filter), source⟩ = .ok command ↔
        ∃ table, leading? (first :: others) = some table ∧ key table = tableName ∧
          ((∃ value, equation? filter = some (.id, value) ∧
              (do return find (← idOf value)) = .ok command) ∨
            ∃ value, equation? filter = some (.resource, value) ∧
              (do return list (some (← idOf value))) = .ok command) := by
    rw [ofQuery]
    dsimp only
    rw [checkRelation_bind_eq_ok_iff others]
    cases equation? filter with
    | none => simp
    | some equation =>
      obtain ⟨_ | _, value⟩ := equation <;> simp
  rw [filtered]
  simp only [compared_eq_ok_iff, shape?_filtered_iff]
  constructor
  · rintro ⟨table, leads, named, ⟨column, text, id, found, compared, read, rfl⟩ |
      ⟨column, text, id, found, compared, read, rfl⟩⟩
    · exact ⟨_, ⟨table, column, text, leads, found, rfl⟩, .find named compared read⟩
    · exact ⟨_, ⟨table, column, text, leads, found, rfl⟩, .listOf named compared read⟩
  · rintro ⟨_, ⟨table, column, text, leads, found, rfl⟩, said⟩
    cases said with
    | find named compared read =>
        exact ⟨table, leads, named, .inl ⟨column, text, _, found, compared, read, rfl⟩⟩
    | listOf named compared read =>
        exact ⟨table, leads, named, .inr ⟨column, text, _, found, compared, read, rfl⟩⟩

theorem ofDeletion_filtered_eq_ok_iff
    {first : Relation} {others : List Relation} {filter : Expr} :
    ofDeletion (first :: others) (some filter) = .ok command ↔
      ∃ shape, shape? (.delete (first :: others) (some filter)) = some shape ∧
        shape.Says YieldedBy command := by
  have filtered :
      ofDeletion (first :: others) (some filter) = .ok command ↔
        ∃ table, leading? (first :: others) = some table ∧ key table = tableName ∧
          ∃ value, equation? filter = some (.id, value) ∧
            (do return remove (← idOf value)) = .ok command := by
    rw [ofDeletion, checkRelation_bind_eq_ok_iff others, Option.bind_some]
    cases equation? filter with
    | none => simp
    | some equation =>
        obtain ⟨_ | _, value⟩ := equation <;> simp
  rw [filtered]
  simp only [compared_eq_ok_iff, shape?_deletion_iff]
  constructor
  · rintro ⟨table, leads, named, column, text, id, found, compared, read, rfl⟩
    exact ⟨_, ⟨table, column, text, leads, found, rfl⟩, .remove named compared read⟩
  · rintro ⟨_, ⟨table, column, text, leads, found, rfl⟩, said⟩
    cases said with
    | remove named compared read =>
        exact ⟨table, leads, named, column, text, _, found, compared, read, rfl⟩

/-- A statement is a command as far as its shape says one. -/
theorem ofStatement_eq_ok_iff {statement : Statement} :
    ofStatement statement = .ok command ↔
      ∃ shape, shape? statement = some shape ∧ shape.Says YieldedBy command := by
  have refused : ∀ {fault : CommandFault}, ofStatement statement = .error fault →
      shape? statement = none →
        (ofStatement statement = .ok command ↔
          ∃ shape, shape? statement = some shape ∧ shape.Says YieldedBy command) := by
    intro fault refused shapeless
    simp [refused, shapeless]
  cases statement with
  | other => exact refused rfl rfl
  | insert table columns source => exact ofInsertion_eq_ok_iff
  | query query =>
      obtain ⟨body, text⟩ := query
      rcases body with ⟨_ | ⟨first, others⟩, _ | filter⟩ | rows | _
      · exact refused rfl rfl
      · exact refused rfl rfl
      · exact ofQuery_all_eq_ok_iff
      · exact ofQuery_filtered_eq_ok_iff
      · exact refused rfl rfl
      · exact refused rfl rfl
  | delete relations filter =>
      rcases relations with _ | ⟨first, others⟩
      · cases filter <;> exact refused rfl rfl
      · cases filter with
        | some filter => exact ofDeletion_filtered_eq_ok_iff
        | none =>
            -- The table is checked before the filter is missed.
            constructor
            · intro done
              obtain ⟨_, _, _, missing⟩ := (checkRelation_bind_eq_ok_iff others).mp done
              cases missing
            · rintro ⟨_, shapeless, _⟩
              cases shapeless

end Reservations.Command
