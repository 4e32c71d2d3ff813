import Transactional.Record

/-!
# Result sets

The rows that a statement produces, under the column names that all of them share.

* `ResultSet` — columns and rows.
* `Row` — one row together with the columns; it may have fewer or more values than columns.
* `Row.toRecord` — the row as a record.
-/

namespace Transactional

/-- **One row**, with the names of its columns. -/
structure Row where
  columns : List String
  values : List Scalar

namespace Row

/-- The position of the first column of that name. -/
def columnIndex? (row : Row) (column : String) : Option Nat :=
  row.columns.findIdx? (· == column)

/-- The value at a position. -/
def at? (row : Row) (index : Nat) : Option Scalar :=
  row.values[index]?

/-- The value of the first column of that name, if the row reaches as far. -/
def get? (row : Row) (column : String) : Option Scalar :=
  row.columnIndex? column >>= row.at?

/-- **The row as a record**, columns in order; of a repeated column the last value counts. -/
def toRecord (row : Row) : Record :=
  Record.ofList (row.columns.zip row.values)

/-- The structural text. -/
def structural (row : Row) : String :=
  Text.fields "Row" [("column_names", Text.list (row.columns.map Text.quoted)),
    ("values", Text.list (row.values.map Scalar.structural))]

end Row

/-- **Rows under common columns.** -/
structure ResultSet where
  rowValues : List (List Scalar) := []
  columns : List String := []

namespace ResultSet

instance : Inhabited ResultSet := ⟨{}⟩

/-- A result set without rows. -/
def ofColumns (columns : List String) : ResultSet :=
  ⟨[], columns⟩

/-- Add a row at the end. -/
def push (set : ResultSet) (values : List Scalar) : ResultSet :=
  { set with rowValues := set.rowValues ++ [values] }

/-- A result set with these rows. -/
def ofRows (columns : List String) (rows : List (List Scalar)) : ResultSet :=
  rows.foldl push (ofColumns columns)

/-- The rows. -/
def rows (set : ResultSet) : List Row :=
  set.rowValues.map fun values => ⟨set.columns, values⟩

/-- The number of rows. -/
def size (set : ResultSet) : Nat :=
  set.rowValues.length

/-- Whether there is no row. -/
def isEmpty (set : ResultSet) : Bool :=
  set.rowValues.isEmpty

/-- The first row. -/
def first? (set : ResultSet) : Option Row :=
  set.rows.head?

/-- The row at a position. -/
def row? (set : ResultSet) (index : Nat) : Option Row :=
  set.rows[index]?

/-- Every row as a record. -/
def toRecords (set : ResultSet) : List Record :=
  set.rows.map Row.toRecord

/-- The structural text. -/
def structural (set : ResultSet) : String :=
  Text.fields "ResultSet" [("results", Text.list (set.rows.map Row.structural)),
    ("column_names", Text.list (set.columns.map Text.quoted))]

/-- Equality of the values of rows. -/
def sameRows : List (List Scalar) → List (List Scalar) → Bool
  | [], [] => true
  | a :: as, b :: bs => Scalar.sameList a b && sameRows as bs
  | _, _ => false

/-- Equality of result sets. -/
def same (a b : ResultSet) : Bool :=
  sameRows a.rowValues b.rowValues && a.columns == b.columns

end ResultSet

/-- **What executing a statement produced.** -/
inductive Outcome where
  | rows (set : ResultSet)
  | inserted (id : Int64)
  | affected (count : UInt64)

/-- The structural text of an outcome. -/
def Outcome.structural : Outcome → String
  | .rows set => Text.call "Rows" [set.structural]
  | .inserted id => Text.call "Inserted" [Text.whole id.toInt]
  | .affected count => Text.call "Affected" [Text.natural count.toNat]

end Transactional
