import Transactional.Manager
import Transactional.Program.Machine

/-!
# Runs

A run is one transaction from beginning to end: lease a connection, begin, walk the program, and
then either commit and publish the events, or roll back and publish nothing.  The connection goes
back on every path, and before anybody hears of the events.

The failure that a run ends with is the first one.  That a rollback failed as well is only
reported.

* `runWith` — a run with a limit of its own for the body.
* `Manager.run` — a run with the limit of the manager.
-/

namespace Transactional

/-- A duration in whole milliseconds, rounded up: the clock goes by milliseconds, and a limit is not
passed before its time. -/
def Duration.ceilMillis (d : Duration) : Nat :=
  (d.toNanos + 999999) / 1000000

namespace Run

variable [Host σ]

/-- **Roll back**; a failure of that is only reported, together with what made it necessary. -/
def rollbackQuietly (conn : Connection σ) (cause : Fault) : Task σ Unit :=
  conn.rollback.run.bind fun
    | .ok () => .done ()
    | .error fault =>
        Task.change <| Host.report
          { level := .warn
            message := "rollback failed"
            fields := [("error", fault.message), ("cause", cause.message)] }

/-- **The body of a run**, which is cut off at its limit if it has one. -/
def body (conn : Connection σ) (limit : Option Duration) (program : Program σ) :
    Task σ Walk.Ending :=
  match limit with
  | none => program.runOn conn
  | some d =>
      ((program.runOn conn).within d.ceilMillis).bind fun
        | some ending => .done ending
        | none => .done (.error (.timeout d), [])

/-- Undo everything and give the connection back. -/
def undo (conn : Connection σ) (cause : Fault) : Task σ (Except Fault Value) :=
  (rollbackQuietly conn cause).bind fun _ => conn.close.bind fun _ => .done (.error cause)

/-- Report that a commit failed. -/
def reportCommit (fault : Fault) : σ → σ :=
  Host.report
    { level := .warn
      message := "commit failed; rolling back"
      fields := [("error", fault.message)] }

/-- Make everything permanent, give the connection back, and publish the events. -/
def conclude (conn : Connection σ) (sink : Sink σ) (value : Value) (events : List Event) :
    Task σ (Except Fault Value) :=
  conn.commit.run.bind fun
    | .error fault => .act (reportCommit fault) fun _ => undo conn fault
    | .ok () => conn.close.bind fun _ => .act (sink.publishAll events) fun _ => .done (.ok value)

/-- **A transaction on a connection.** -/
def on (conn : Connection σ) (sink : Sink σ) (limit : Option Duration) (program : Program σ) :
    Task σ (Except Fault Value) :=
  conn.begin.run.bind fun
    | .error fault => conn.close.bind fun _ => .done (.error fault)
    | .ok () =>
        (body conn limit program).bind fun
          | (.ok value, events) => conclude conn sink value events
          | (.error fault, _) => undo conn fault

end Run

/-- **A run**: one transaction on a leased connection.  If the run is given up while it waits,
nobody holds the connection any longer. -/
def runWith [LeaseHost σ] (manager : Manager σ) (sink : Sink σ) (limit : Option Duration)
    (program : Program σ) : Attempt σ Value := do
  let conn ← manager.lease
  .of (Task.holding conn.drop (Run.on conn sink limit program))

/-- **A run with the limit of the manager.** -/
def Manager.run [LeaseHost σ] (manager : Manager σ) (sink : Sink σ) (program : Program σ) :
    Attempt σ Value :=
  runWith manager sink manager.timeout program

end Transactional
