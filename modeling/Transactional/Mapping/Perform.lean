import Transactional.Connection
import Transactional.Mapping.Statements
import Transactional.Program.Operation
import Transactional.Value

/-!
# Records on a connection

A statement that is used once is prepared, executed and destroyed, and it is destroyed also when
executing it fails.  On top of that stand the four operations on records, and the meaning of every
operation of a program.

* `Connection.query` — one statement, once.
* `Connection.insertRecord`, `Connection.updateRecord`, `Connection.deleteRecord`,
  `Connection.readRecord`.
* `Connection.perform` — an operation of a program and its value.
-/

namespace Transactional.Connection

/-- **Prepare, execute and destroy one statement.** -/
def query (conn : Connection σ) (kind : StatementKind) (sql : String) (bindings : List Scalar) :
    Attempt σ Outcome := do
  let statement ← conn.prepare sql kind
  .of ((conn.execute statement bindings).run.bind fun outcome =>
    .act (conn.destroy statement) fun _ => .done outcome)

/-- Run a statement with its parameters. -/
def runBound (conn : Connection σ) (statement : BoundStatement) : Attempt σ Outcome :=
  conn.query statement.kind statement.sql statement.params

/-- Run a statement that may not exist. -/
def runBuilt (conn : Connection σ) (built : Except Fault BoundStatement) : Attempt σ Outcome := do
  conn.runBound (← Attempt.pureResult built)

/-- The fault of an outcome of the wrong shape. -/
def unexpectedOutcome (action wanted : String) (outcome : Outcome) : Fault :=
  .unexpectedValue (action ++ " produced " ++ outcome.structural ++ " instead of " ++ wanted)

/-- **Insert a record** and give its id. -/
def insertRecord (conn : Connection σ) (table : String) (row : Record) : Attempt σ Int64 := do
  match ← conn.runBuilt (insertStatement table row) with
  | .inserted number => pure number
  | outcome => throw (unexpectedOutcome ("insert into " ++ table) "an id" outcome)

/-- **Update the row with the record's id.** -/
def updateRecord (conn : Connection σ) (table : String) (row : Record) : Attempt σ Unit := do
  let _ ← conn.runBuilt (updateStatement table row)

/-- **Delete the row of a target.** -/
def deleteRecord (conn : Connection σ) (table : String) (target : DeleteTarget) :
    Attempt σ Unit := do
  let _ ← conn.runBuilt (deleteStatement table target)

/-- **Read the row with an id**, if there is one. -/
def readRecord (conn : Connection σ) (table : String) (key : Scalar) :
    Attempt σ (Option Record) := do
  match ← conn.runBound (readStatement table key) with
  | .rows set => pure (set.first?.map Row.toRecord)
  | outcome => throw (unexpectedOutcome ("read from " ++ table) "rows" outcome)

/-- **Perform an operation.**  Announcing an event touches no connection. -/
def perform (conn : Connection σ) : Operation → Attempt σ Value
  | .query kind sql bindings => return .ofOutcome (← conn.query kind sql bindings)
  | .insert table row => return .id (← conn.insertRecord table row)
  | .update table row => do
      conn.updateRecord table row
      return .unit
  | .delete table target => do
      conn.deleteRecord table target
      return .unit
  | .read table key => return .record (← conn.readRecord table key)
  | .prepare kind sql => return .statement (← conn.prepare sql kind)
  | .execute statement bindings => return .ofOutcome (← conn.execute statement bindings)
  | .emit _ => return .unit

end Transactional.Connection
