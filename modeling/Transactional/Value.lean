import Transactional.ResultSet
import Transactional.Statement

/-!
# Program values

What one step of a program hands to the next, and what a whole run ends with.

* `Value` — the values; `Value.ofOutcome` is what a statement's outcome becomes.
* `Value.isNothing` — a read that found no row, on which programs branch.
* `Value.intoId`, … — the value as one particular shape, with a fault that names both shapes.
-/

namespace Transactional

/-- **The value of a step.** -/
inductive Value where
  | unit
  | id (value : Int64)
  | affected (count : UInt64)
  | rows (set : ResultSet)
  | record (found : Option Record)
  | statement (handle : StatementHandle)
  | scalar (value : Scalar)
  | json (value : Json)

namespace Value

instance : Inhabited Value := ⟨.unit⟩

/-- The value that a statement's outcome becomes. -/
def ofOutcome : Outcome → Value
  | .rows set => .rows set
  | .inserted number => .id number
  | .affected count => .affected count

/-! ## What a value is -/

/-- Whether there is no result. -/
def isUnit : Value → Bool
  | .unit => true
  | _ => false

/-- Whether this is a read that found no row. -/
def isNothing : Value → Bool
  | .record none => true
  | _ => false

/-- The id. -/
def asId : Value → Option Int64
  | .id i => some i
  | _ => none

/-- The number of affected rows. -/
def asAffected : Value → Option UInt64
  | .affected n => some n
  | _ => none

/-- The rows. -/
def asRows : Value → Option ResultSet
  | .rows set => some set
  | _ => none

/-- The row that a read found. -/
def asRecord : Value → Option Record
  | .record found => found
  | _ => none

/-- The structured data. -/
def asJson : Value → Option Json
  | .json j => some j
  | _ => none

/-! ## A value as one shape -/

/-- The name of a value's shape. -/
def shape : Value → String
  | .unit => "unit"
  | .id _ => "id"
  | .affected _ => "affected count"
  | .rows _ => "rows"
  | .record _ => "record"
  | .statement _ => "statement"
  | .scalar _ => "scalar"
  | .json _ => "json"

/-- The fault of a value of the wrong shape. -/
def unexpected (wanted : String) (got : Value) : Fault :=
  .unexpectedValue ("expected " ++ wanted ++ ", got " ++ got.shape)

/-- The value as an id. -/
def intoId : Value → Except Fault Int64
  | .id i => .ok i
  | other => .error (unexpected "an inserted id" other)

/-- The value as rows. -/
def intoRows : Value → Except Fault ResultSet
  | .rows set => .ok set
  | other => .error (unexpected "rows" other)

/-- The value as the result of a read. -/
def intoRecord : Value → Except Fault (Option Record)
  | .record found => .ok found
  | other => .error (unexpected "a read result" other)

/-- The value as a prepared statement. -/
def intoStatement : Value → Except Fault StatementHandle
  | .statement handle => .ok handle
  | other => .error (unexpected "a prepared statement" other)

/-- The structural text. -/
def structural : Value → String
  | .unit => "Unit"
  | .id i => Text.call "Id" [Text.whole i.toInt]
  | .affected n => Text.call "Affected" [Text.natural n.toNat]
  | .rows set => Text.call "Rows" [set.structural]
  | .record found => Text.call "Record" [Text.optional (found.map Record.structural)]
  | .statement handle => Text.call "Statement" [handle.structural]
  | .scalar v => Text.call "Value" [v.structural]
  | .json j => Text.call "Json" [j.structural]

end Value

end Transactional
