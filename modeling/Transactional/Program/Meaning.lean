import Transactional.Mapping.Perform
import Transactional.Program.Basic

/-!
# What a program means

The meaning of a program, by recursion on the program and without any stack: a bind goes on only
with a value, a scope turns a skip inside it into a value, a failure and a skip pass through
everything else.

* `Exit` — the three ways in which a program can end.
* `Program.meaning` — the meaning, as a task that also collects the events announced.
* `Program.result` — the meaning of a whole program, where a skip ends it with a value.
-/

namespace Transactional

/-- **How a part of a program ends.** -/
inductive Exit where
  | value (value : Value)
  | skipped (value : Value)
  | failed (fault : Fault)

namespace Exit

/-- The exit of something that gives a value or fails. -/
def ofExcept : Except Fault Value → Exit
  | .ok v => .value v
  | .error fault => .failed fault

/-- What a scope makes of the exit of its inside. -/
def closeScope : Exit → Exit
  | .skipped v => .value v
  | exit => exit

/-- What a run makes of the exit of its program. -/
def result : Exit → Except Fault Value
  | .value v => .ok v
  | .skipped v => .ok v
  | .failed fault => .error fault

end Exit

namespace Program

/-- **The meaning of a program**, from the events announced before it. -/
def meaning (conn : Connection σ) : Program σ → List Event → Task σ (Exit × List Event)
  | .finish v, events => .done (.value v, events)
  | .fail fault, events => .done (.failed fault, events)
  | .skip v, events => .done (.skipped v, events)
  | .perform operation, events =>
      (conn.perform operation).run.bind fun
        | .ok v => .done (.value v, events ++ operation.emitted)
        | .error fault => .done (.failed fault, events)
  | .await task, events => task.bind fun outcome => .done (.ofExcept outcome, events)
  | .scope inner, events =>
      (inner.meaning conn events).bind fun (exit, events) => .done (exit.closeScope, events)
  | .andThen first next, events =>
      (first.meaning conn events).bind fun (exit, events) =>
        match exit with
        | .value v => (next v).meaning conn events
        | other => .done (other, events)

/-- The meaning of a whole program. -/
def result (conn : Connection σ) (program : Program σ) : Task σ (Except Fault Value × List Event) :=
  (program.meaning conn []).bind fun (exit, events) => .done (exit.result, events)

end Program

end Transactional
