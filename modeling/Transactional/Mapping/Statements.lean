import Transactional.Record
import Transactional.Statement

/-!
# Statements from records

Single-table statements made from records: one placeholder for every bound value, in the order of
the record's columns.

* `insertStatement` — `INSERT INTO t(a,b) VALUES(?,?)`.
* `updateStatement` — `UPDATE t SET a=?,b=? WHERE id=?`; the id selects the row and is not set.
* `deleteStatement` — `DELETE FROM t WHERE id=?`.
* `readStatement` — `SELECT * FROM t WHERE id=?`.
-/

namespace Transactional

/-- `count` placeholders between commas. -/
def placeholders (count : Nat) : String :=
  String.intercalate "," (List.replicate count "?")

/-- **Insert a record.**  A record without columns cannot be inserted. -/
def insertStatement (table : String) (record : Record) : Except Fault BoundStatement :=
  if record.isEmpty then
    .error (.parameter ("cannot insert an empty record into " ++ table))
  else
    .ok ⟨.insert,
      "INSERT INTO " ++ table ++ "(" ++ String.intercalate "," record.columns ++ ") VALUES("
        ++ placeholders record.size ++ ")",
      record.values⟩

/-- The pairs of a record that an update sets. -/
def settable (record : Record) : List (String × Scalar) :=
  record.fields.filter fun pair => pair.1 ≠ idColumn

/-- **Update the row with the record's id.**  The record needs an id and something else to set. -/
def updateStatement (table : String) (record : Record) : Except Fault BoundStatement :=
  match record.id? with
  | none => .error (.parameter ("update on " ++ table ++ " requires an " ++ idColumn ++ " column"))
  | some id =>
      let pairs := settable record
      if pairs.isEmpty then
        .error (.parameter ("update on " ++ table ++ " has no columns to set"))
      else
        .ok ⟨.update,
          "UPDATE " ++ table ++ " SET "
            ++ String.intercalate "," (pairs.map fun pair => pair.1 ++ "=?")
            ++ " WHERE " ++ idColumn ++ "=?",
          pairs.map (·.2) ++ [id]⟩

/-- **Delete the row of a target.**  A record needs an id. -/
def deleteStatement (table : String) (target : DeleteTarget) : Except Fault BoundStatement :=
  match target.idValue with
  | .error fault => .error fault
  | .ok id => .ok ⟨.delete, "DELETE FROM " ++ table ++ " WHERE " ++ idColumn ++ "=?", [id]⟩

/-- **Read the row with an id.** -/
def readStatement (table : String) (id : Scalar) : BoundStatement :=
  ⟨.select, "SELECT * FROM " ++ table ++ " WHERE " ++ idColumn ++ "=?", [id]⟩

end Transactional
