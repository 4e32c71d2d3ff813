import Transactional.Engine.Datum
import Transactional.Engine.Sql.Reader

/-!
# A database

Tables of rows, each row with a number for a key.  A statement either has its whole effect or
none.  A transaction remembers the tables as they were when it began, and rolling it back puts
them there again.

* `Database` — tables, transaction, the number of the last row inserted and the number of rows
  changed last.
* `Database.check` — whether the tables and columns of a statement exist.
* `Database.perform` — the effect of a statement and the rows that it gives.
-/

namespace Transactional

/-- **A row**: its number, and its values in the order of the table's other columns. -/
structure StoredRow where
  key : Int64
  values : List Datum
deriving DecidableEq

/-- **A table.** -/
structure StoredTable where
  name : String
  key : String
  columns : List Column
  rows : List StoredRow := []
deriving DecidableEq

/-- Values given for columns, by the names of the columns. -/
abbrev Assignments := List (String × Datum)

namespace StoredTable

/-! ## Columns -/

/-- The position of a column among those that are not the key. -/
def position? (table : StoredTable) (column : String) : Option Nat :=
  table.columns.findIdx? fun c => Sql.sameName c.name column

/-- The names under which the number of a row is known in every table that has no such column. -/
def rowNames : List String := ["ROWID", "_ROWID_", "OID"]

/-- Whether a name is that of the key. -/
def isKey (table : StoredTable) (column : String) : Bool :=
  Sql.sameName table.key column
    || (rowNames.any (Sql.sameName column) && (table.position? column).isNone)

/-- Whether a column exists. -/
def hasColumn (table : StoredTable) (column : String) : Bool :=
  table.isKey column || (table.position? column).isSome

/-- The names of all columns. -/
def columnNames (table : StoredTable) : List String :=
  table.key :: table.columns.map (·.name)

/-! ## Rows -/

/-- Whether there is a row of a number. -/
def hasRow (table : StoredTable) (key : Int64) : Bool :=
  table.rows.any (·.key == key)

/-- The least positive number of which there is no row. -/
def freeKey (table : StoredTable) : Int64 :=
  (((List.range (table.rows.length + 1)).map fun n => Int64.ofNat (n + 1)).find?
    fun key => !table.hasRow key).getD 1

/-- The number that the next row gets if it asks for none: one more than the greatest, or a free one
if the greatest is the greatest possible. -/
def nextKey (table : StoredTable) : Int64 :=
  match table.rows.map (fun row => row.key.toInt) with
  | [] => 1
  | k :: ks =>
      let next := ks.foldl max k + 1
      if next < Int.pow 2 63 then Int64.ofInt next else table.freeKey

/-- Put a row among rows in the order of their numbers. -/
def insertRow (row : StoredRow) : List StoredRow → List StoredRow
  | [] => [row]
  | other :: rest =>
      if row.key < other.key then row :: other :: rest else other :: insertRow row rest

/-- Whether a condition on a column holds of a row.  The key is compared as a number, any other
column as a value, and no value is equal to nothing. -/
def satisfies (table : StoredTable) (column : String) (value : Datum) (row : StoredRow) : Bool :=
  if table.isKey column then value.asKey == some row.key
  else
    match table.position? column with
    | some index => value != .null && row.values[index]? == some value
    | none => false

/-- The rows of which a condition holds, all rows if there is none; the value to compare with is the
first of the values given. -/
def select (table : StoredTable) (condition : Option String) (values : List Datum) :
    List StoredRow :=
  match condition with
  | none => table.rows
  | some column => table.rows.filter (table.satisfies column (values.headD .null))

/-! ## Values -/

/-- The value given for the key; the last one counts. -/
def keyGiven? (table : StoredTable) (given : Assignments) : Option Datum :=
  (given.reverse.find? fun pair => table.isKey pair.1).map (·.2)

/-- Put values into their columns, one after the other. -/
def fill (table : StoredTable) (given : Assignments) (values : List Datum) : List Datum :=
  given.foldl
    (fun values pair =>
      match table.position? pair.1 with
      | some index => values.set index pair.2
      | none => values)
    values

/-- The first column that must have a value and has none. -/
def unfilled? (table : StoredTable) (values : List Datum) : Option Column :=
  ((table.columns.zip values).find? fun pair => pair.1.required && pair.2 == .null).map (·.1)

/-- A row with these values, if every column that must have a value has one. -/
def completeRow (table : StoredTable) (key : Int64) (values : List Datum) :
    Except SqlFault StoredRow :=
  match table.unfilled? values with
  | some column => .error (.notNull table.name column.name)
  | none => .ok ⟨key, values⟩

/-- The number that a value means. -/
def keyOf (value : Datum) : Except SqlFault Int64 :=
  match value.asKey with
  | some key => .ok key
  | none => .error .mismatch

/-- **Add a row.**  Of several values for one column the first one counts.  Without a number, or
with none for it, the row gets the next one. -/
def add (table : StoredTable) (given : Assignments) : Except SqlFault (StoredTable × Int64) := do
  let key ← match table.keyGiven? given with
    | none | some .null => .ok table.nextKey
    | some value => keyOf value
  let row ← table.completeRow key (table.fill given.reverse (table.columns.map fun _ => .null))
  if table.hasRow key then .error (.notUnique table.name table.key)
  else .ok ({ table with rows := insertRow row table.rows }, key)

/-- Change one row.  Of several values for one column the last one counts. -/
def change (table : StoredTable) (given : Assignments) (row : StoredRow) :
    Except SqlFault StoredTable := do
  let key ← match table.keyGiven? given with
    | none => .ok row.key
    | some value => keyOf value
  let changed ← table.completeRow key (table.fill given row.values)
  if key ≠ row.key ∧ table.hasRow key then .error (.notUnique table.name table.key)
  else .ok { table with rows := insertRow changed (table.rows.filter (·.key != row.key)) }

/-- Change rows, one after the other. -/
def changeAll (given : Assignments) : List StoredRow → StoredTable → Except SqlFault StoredTable
  | [], table => .ok table
  | row :: rest, table => table.change given row >>= changeAll given rest

/-- Take rows away. -/
def remove (table : StoredTable) (rows : List StoredRow) : StoredTable :=
  { table with rows := table.rows.filter fun row => !rows.any (·.key == row.key) }

/-- A row as a select shows it. -/
def shown (row : StoredRow) : List Datum :=
  .integer row.key :: row.values

end StoredTable

/-- **A database**, as one connection sees it. -/
structure Database where
  tables : List StoredTable := []
  /-- The tables as they were when the transaction began, if one is open. -/
  saved : Option (List StoredTable) := none
  lastRow : Int64 := 0
  /-- How many rows were changed by the last statement that is about rows to change. -/
  changed : Nat := 0
deriving DecidableEq

namespace Database

/-! ## Tables -/

/-- The table of a name. -/
def table? (database : Database) (name : String) : Option StoredTable :=
  database.tables.find? fun t => Sql.sameName t.name name

/-- Whether a table that a statement names would be in this database. -/
def holds (table : TableName) : Bool :=
  table.database.all (Sql.sameName TableName.mainDatabase)

/-- The table that a statement names, or why there is none. -/
def findTable (database : Database) (name : TableName) : Except SqlFault StoredTable :=
  match database.table? name.name with
  | some table => if holds name then .ok table else .error (.noTable name)
  | none => .error (.noTable name)

/-- Put a table in the place of the one of its name, and note how many of its rows changed. -/
def putTable (table : StoredTable) (changed : Nat) (database : Database) : Database :=
  { database with
    tables := database.tables.map fun t => if t.name = table.name then table else t
    changed }

/-! ## Names -/

/-- The first name that stands a second time behind itself. -/
def repeated? : List String → Option String
  | [] => none
  | name :: rest =>
      match rest.find? (Sql.sameName name) with
      | some again => some again
      | none => repeated? rest

/-- Refuse the first of some columns that a table does not have. -/
def requireColumns (table : StoredTable) (columns : List String) (fault : String → SqlFault) :
    Except SqlFault Unit :=
  match columns.find? fun c => !table.hasColumn c with
  | some column => .error (fault column)
  | none => .ok ()

/-- Whether a name is kept for the tables that the engine needs itself. -/
def isReserved (name : String) : Bool :=
  Sql.sameName (String.ofList (name.toList.take 7)) "sqlite_"

/-- Whether a table can be created under a name. -/
def checkNew (database : Database) (name : TableName) : Except SqlFault Unit :=
  if !holds name then .error (.noDatabase (name.database.getD ""))
  else if isReserved name.name then .error (.reservedName name.name)
  else if (database.table? name.name).isSome then .error (.tableExists name)
  else .ok ()

/-- **Whether the tables and columns of a statement exist**, and those that it is to create do
not. -/
def check (database : Database) : Sql → Except SqlFault Unit
  | .createTable name key columns => do
      database.checkNew name
      match repeated? (key :: columns.map (·.name)) with
      | some column => .error (.duplicateColumn column)
      | none => .ok ()
  | .insert name columns given => do
      let table ← database.findTable name
      requireColumns table columns (.noColumnIn name)
      if given = columns.length then .ok () else .error (.valueCount given columns.length)
  | .update name columns condition => do
      let table ← database.findTable name
      requireColumns table columns .noColumn
      requireColumns table condition.toList .noComparedColumn
  | .delete name condition | .selectRows name condition | .count name _ condition => do
      let table ← database.findTable name
      requireColumns table condition.toList .noComparedColumn
  | .values _ | .begin | .commit | .rollback => .ok ()

/-- **The names of the columns that a statement shows.** -/
def shownColumns (database : Database) : Sql → List String
  | .selectRows name _ =>
      match database.table? name.name with
      | some table => table.columnNames
      | none => []
  | .count _ label _ => [label]
  | .values items => items.map (·.2)
  | _ => []

/-! ## Effects -/

/-- A number as a select shows it. -/
def numberItem (n : Nat) : Datum :=
  if n < Nat.pow 2 63 then .integer (Int64.ofNat n) else .real (Binary64.ofInt n)

/-- The values of a select without a table. -/
def itemValues : List (SqlItem × String) → List Datum → List Datum
  | [], _ => []
  | (.number n, _) :: rest, params => numberItem n :: itemValues rest params
  | (.placeholder, _) :: rest, params => params.headD .null :: itemValues rest (params.drop 1)

/-- The effect of a statement and the rows that it gives. -/
def effect (database : Database) (params : List Datum) :
    Sql → Except SqlFault (List (List Datum) × Database)
  | .createTable name key columns =>
      .ok ([], { database with tables := database.tables ++ [⟨name.name, key, columns, []⟩] })
  | .insert name columns _ => do
      let table ← database.findTable name
      let (table, key) ← table.add (columns.zip params)
      .ok ([], { database.putTable table 1 with lastRow := key })
  | .update name columns condition => do
      let table ← database.findTable name
      let rows := table.select condition (params.drop columns.length)
      let table ← table.changeAll (columns.zip params) rows
      .ok ([], database.putTable table rows.length)
  | .delete name condition => do
      let table ← database.findTable name
      let rows := table.select condition params
      .ok ([], database.putTable (table.remove rows) rows.length)
  | .selectRows name condition => do
      let table ← database.findTable name
      .ok ((table.select condition params).map StoredTable.shown, database)
  | .count name _ condition => do
      let table ← database.findTable name
      .ok ([[.integer (Int64.ofNat (table.select condition params).length)]], database)
  | .values items => .ok ([itemValues items params], database)
  | .begin =>
      match database.saved with
      | some _ => .error .alreadyOpen
      | none => .ok ([], { database with saved := some database.tables })
  | .commit =>
      match database.saved with
      | some _ => .ok ([], { database with saved := none })
      | none => .error .nothingToCommit
  | .rollback =>
      match database.saved with
      | some tables => .ok ([], { database with tables, saved := none })
      | none => .error .nothingToRollBack

/-- **Perform a statement** whose tables and columns exist, with a value for every placeholder.  One
that fails has no effect, except that it has changed no rows. -/
def perform (database : Database) (params : List Datum) (statement : Sql) :
    Except SqlFault (List (List Datum)) × Database :=
  match database.effect (params.map Datum.bound) statement with
  | .ok (rows, database) => (.ok rows, database)
  | .error fault =>
      (.error fault, if statement.changesRows then { database with changed := 0 } else database)

end Database

end Transactional
