import Transactional.Fault
import Transactional.Scalar

/-!
# Records

A record is an ordered set of columns with their values.  The order is kept as given, because it
drives the text of the statements made from it.

* `Record.set` — replaces the value of a column in place, or appends a new column.
* `Record.ofList` — sets the pairs of a list one after the other.
* `DeleteTarget` — what a delete removes: an id, or a record that has one.
-/

namespace Transactional

/-- The name of the primary-key column. -/
def idColumn : String := "id"

/-- **Columns and their values, in order.** -/
structure Record where
  /-- The pairs.  Decoded data may repeat a column, of which the first one counts. -/
  fields : List (String × Scalar) := []

namespace Record

instance : Inhabited Record := ⟨{}⟩

/-- Replace the value of the first pair with that column, or append a pair. -/
def setField (column : String) (value : Scalar) : List (String × Scalar) → List (String × Scalar)
  | [] => [(column, value)]
  | (name, old) :: rest =>
      if name = column then (name, value) :: rest else (name, old) :: setField column value rest

/-- **Set a column**, in place if the record has it. -/
def set (record : Record) (column : String) (value : Scalar) : Record :=
  ⟨setField column value record.fields⟩

/-- Set the pairs of a list one after the other. -/
def setAll (record : Record) (pairs : List (String × Scalar)) : Record :=
  pairs.foldl (fun r pair => r.set pair.1 pair.2) record

/-- The record that a list of pairs makes. -/
def ofList (pairs : List (String × Scalar)) : Record :=
  setAll {} pairs

/-- The value of a column. -/
def get? (record : Record) (column : String) : Option Scalar :=
  (record.fields.find? fun pair => pair.1 == column).map (·.2)

/-- The value of the primary-key column. -/
def id? (record : Record) : Option Scalar :=
  record.get? idColumn

/-- The columns in order. -/
def columns (record : Record) : List String :=
  record.fields.map (·.1)

/-- The values in order. -/
def values (record : Record) : List Scalar :=
  record.fields.map (·.2)

/-- The number of columns. -/
def size (record : Record) : Nat :=
  record.fields.length

/-- Whether there is no column. -/
def isEmpty (record : Record) : Bool :=
  record.fields.isEmpty

/-- The structural text. -/
def structural (record : Record) : String :=
  Text.fields "Record" [("fields", Text.list (record.fields.map fun pair =>
    "(" ++ Text.quoted pair.1 ++ ", " ++ pair.2.structural ++ ")"))]

/-- Equality of lists of pairs. -/
def sameFields : List (String × Scalar) → List (String × Scalar) → Bool
  | [], [] => true
  | (c, a) :: as, (d, b) :: bs => c == d && a.same b && sameFields as bs
  | _, _ => false

/-- Equality of records, columns in the same order. -/
def same (a b : Record) : Bool :=
  sameFields a.fields b.fields

end Record

/-- **What a delete removes.** -/
inductive DeleteTarget where
  | id (value : Scalar)
  | record (row : Record)

namespace DeleteTarget

/-- The id that the statement binds. -/
def idValue : DeleteTarget → Except Fault Scalar
  | .id value => .ok value
  | .record row =>
      match row.id? with
      | some value => .ok value
      | none => .error (.parameter "delete target record has no id column")

/-- The structural text. -/
def structural : DeleteTarget → String
  | .id value => Text.call "Id" [value.structural]
  | .record row => Text.call "Record" [row.structural]

/-- Equality of targets. -/
def same : DeleteTarget → DeleteTarget → Bool
  | .id a, .id b => a.same b
  | .record a, .record b => a.same b
  | _, _ => false

end DeleteTarget

end Transactional
