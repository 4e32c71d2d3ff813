/-!
# Traces

What the library reports while it works, for an operator to read: something that went wrong without
stopping anybody, or a line of a statement log that is kept among the reports.
-/

namespace Transactional

/-- How much attention a report deserves. -/
inductive TraceLevel where
  | info
  | warn
deriving DecidableEq

/-- The name of a level. -/
def TraceLevel.name : TraceLevel → String
  | .info => "INFO"
  | .warn => "WARN"

/-- **A report.** -/
structure Trace where
  level : TraceLevel
  message : String
  fields : List (String × String) := []
  target : Option String := none
deriving DecidableEq

end Transactional
