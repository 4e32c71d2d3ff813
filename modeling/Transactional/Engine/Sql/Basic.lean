/-!
# SQL statements

The statements that the engine understands.

* `TableName` — a table as a statement names it.
* `Sql` — the statements.
* `Sql.placeholders` — how many values one needs.
* `Sql.changesRows` — whether one is about rows to insert, change or delete.
-/

namespace Transactional

/-- A column of a table, apart from the key. -/
structure Column where
  name : String
  required : Bool := false
deriving DecidableEq

/-- **A table as a statement names it.** -/
structure TableName where
  database : Option String
  name : String
  written : String
  other : Option String := none
deriving DecidableEq

namespace TableName

/-- The name of the database that there is. -/
def mainDatabase : String := "main"

/-- The name, behind that of the database if there is one. -/
def full (table : TableName) : String :=
  match table.database with
  | some database => database ++ "." ++ table.name
  | none => table.name

end TableName

/-- What one column of a select without a table shows. -/
inductive SqlItem where
  | placeholder
  | number (value : Nat)
deriving DecidableEq

/-- **A statement.**  A condition compares a column with a placeholder; without one a statement is
about all rows. -/
inductive Sql where
  | createTable (table : TableName) (key : String) (columns : List Column)
  /-- Insert a row, with a number of placeholders for the columns named. -/
  | insert (table : TableName) (columns : List String) (given : Nat)
  | update (table : TableName) (columns : List String) (condition : Option String)
  | delete (table : TableName) (condition : Option String)
  | selectRows (table : TableName) (condition : Option String)
  | count (table : TableName) (name : String) (condition : Option String)
  | values (items : List (SqlItem × String))
  | begin
  | commit
  | rollback
deriving DecidableEq

namespace Sql

/-- **How many values a statement needs.** -/
def placeholders : Sql → Nat
  | .insert _ _ given => given
  | .update _ columns condition => columns.length + condition.toList.length
  | .delete _ condition | .selectRows _ condition | .count _ _ condition =>
      condition.toList.length
  | .values items => (items.filter (·.1 == .placeholder)).length
  | .createTable .. | .begin | .commit | .rollback => 0

/-- Whether a statement is about rows to insert, change or delete; how many they are is counted. -/
def changesRows : Sql → Bool
  | .insert .. | .update .. | .delete .. => true
  | _ => false

end Sql

end Transactional
