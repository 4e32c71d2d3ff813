import Transactional.Duration
import Transactional.Text.Structural

/-!
# Faults

What can go wrong, by cause.  A fault says which part refused and why; the sentence a user reads is
put together in one place, `Fault.message`.
-/

namespace Transactional

/-- **Why an operation failed.** -/
inductive Fault where
  | engine (message : String)
  | pool (message : String)
  | closedConnection
  | connection (message : String)
  | execution (message : String)
  | parameter (message : String)
  | configuration (message : String)
  | aborted (message : String)
  | awaited (message : String)
  | timeout (limit : Duration)
  | unexpectedValue (message : String)
  | unimplemented (message : String)
  | other (message : String)
deriving DecidableEq

namespace Fault

/-- **The sentence for a fault.** -/
def message : Fault → String
  | .engine m => m
  | .pool m => "Pool error: " ++ m
  | .closedConnection => "Cannot use closed pooled connection"
  | .connection m => "Connection error: " ++ m
  | .execution m => "SQL execution error: " ++ m
  | .parameter m => "Parameter conversion error: " ++ m
  | .configuration m => "Configuration error: " ++ m
  | .aborted m => "Transaction aborted: " ++ m
  | .awaited m => "Async dependency failed: " ++ m
  | .timeout d => "Transaction timed out after " ++ d.text
  | .unexpectedValue m => "Unexpected value: " ++ m
  | .unimplemented m => "Unimplemented feature: " ++ m
  | .other m => "Other database error: " ++ m

/-- The name of a fault's kind. -/
def kindName : Fault → String
  | .engine _ => "SqliteError"
  | .pool _ => "PoolError"
  | .closedConnection => "ClosedConnection"
  | .connection _ => "ConnectionError"
  | .execution _ => "ExecutionError"
  | .parameter _ => "ParameterError"
  | .configuration _ => "ConfigError"
  | .aborted _ => "Aborted"
  | .awaited _ => "AsyncFailure"
  | .timeout _ => "Timeout"
  | .unexpectedValue _ => "UnexpectedValue"
  | .unimplemented _ => "Unimplemented"
  | .other _ => "Other"

/-- What a fault carries, as structural text. -/
def payload? : Fault → Option String
  | .closedConnection => none
  | .timeout d => some d.text
  | .engine m | .pool m | .connection m | .execution m | .parameter m | .configuration m
  | .aborted m | .awaited m | .unexpectedValue m | .unimplemented m | .other m =>
      some (Text.quoted m)

/-- The structural text of a fault. -/
def structural (fault : Fault) : String :=
  match fault.payload? with
  | some payload => Text.call fault.kindName [payload]
  | none => fault.kindName

end Fault

end Transactional
