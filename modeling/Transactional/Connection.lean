import Transactional.ResultSet
import Transactional.Signal
import Transactional.Statement

/-!
# Connections

A connection is what can be done with one link to a database: a handful of operations, each a task
on the state that everything lives in.  Backends make connections, and leases and logs wrap them,
so that everything above sees one type only.

* `Attempt` — a task that may fail.
* `Connection` — the operations.
* `Watch` — how others learn that a connection has ended.
-/

namespace Transactional

/-- **A task that may fail.** -/
abbrev Attempt (σ α : Type) : Type :=
  ExceptT Fault (Task σ) α

namespace Attempt

/-- The attempt whose outcome a task computes. -/
def of (task : Task σ (Except Fault α)) : Attempt σ α :=
  ExceptT.mk task

/-- A change of the state whose outcome depends on it. -/
def step (f : σ → Except Fault α × σ) : Attempt σ α :=
  .of (Task.step f)

/-- An attempt with something to tidy up if it is given up while it waits. -/
def guarded (tidy : σ → σ) (attempt : Attempt σ α) : Attempt σ α :=
  .of (Task.guarded tidy attempt.run)

/-- An attempt with something to tidy up at its end, however it ends. -/
def holding (tidy : σ → σ) (attempt : Attempt σ α) : Attempt σ α :=
  .of (Task.holding tidy attempt.run)

/-- A task that cannot fail, as an attempt. -/
def always (task : Task σ α) : Attempt σ α :=
  .of (task.bind fun a => .done (.ok a))

/-- The outcome of something that needs no state. -/
def pureResult (result : Except Fault α) : Attempt σ α :=
  .of (.done result)

end Attempt

/-- **How others learn that a connection has ended.** -/
structure Watch (σ : Type) where
  status : σ → Status
  /-- Whether the connection is gone, so that its state will not change any more. -/
  gone : σ → Bool
  register : TaskId → σ → σ

/-- How the connection ended, if it did: one that is gone without an ending has failed. -/
def Watch.ending? (watch : Watch σ) (s : σ) : Option Status :=
  if (watch.status s).isTerminal then some (watch.status s)
  else if watch.gone s then some .failed
  else none

/-- **A connection.** -/
structure Connection (σ : Type) where
  connect : Attempt σ Unit
  begin : Attempt σ Unit
  commit : Attempt σ Unit
  rollback : Attempt σ Unit
  prepare : String → StatementKind → Attempt σ StatementHandle
  execute : StatementHandle → List Scalar → Attempt σ Outcome
  destroy : StatementHandle → σ → σ
  watch : Watch σ
  close : Task σ Unit
  drop : σ → σ

end Transactional
