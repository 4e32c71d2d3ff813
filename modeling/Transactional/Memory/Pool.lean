import Transactional.Manager
import Transactional.Memory.Backend

/-!
# The pool of the scripted backend

Every checkout opens a fresh connection, which holds a permit for as long as anybody holds the
connection.  So the capacity of the pool comes back exactly when a connection is let go of,
whichever way that happens.
-/

namespace Transactional.Memory

variable [MemoryHost σ]

/-- A fresh connection that answers; one that does not is let go of at once. -/
def openLink (hasPermit : Bool) : Attempt σ Nat := do
  let number ← Attempt.always (Task.step (newLink hasPermit))
  .of ((connection number).connect.run.bind fun
    | .ok () => .done (.ok number)
    | .error fault => .act (drop number) fun _ => .done (.error fault))

/-- The fault of a pool that hands out nothing any more. -/
def poolShut : Fault :=
  .pool "pool has been shut down"

/-- **Check a connection out**, waiting for a permit. -/
def checkout : Attempt σ Nat := do
  if ← Attempt.always (Semaphore.acquire permits) then
    let number ← openLink true
    Attempt.always (Task.change (MemoryHost.accounts.modify fun a =>
      { a with acquired := a.acquired + 1 }))
    return number
  else throw poolShut

/-- **Give a connection back.** -/
def giveBack (conn : Connection σ) (s : σ) : σ :=
  conn.drop (MemoryHost.accounts.modify (fun a => { a with released := a.released + 1 }) s)

/-- **The pool.**  Each checkout opens the connection it needs itself. -/
def pool : Pool σ where
  connection := connection
  create := openLink false
  checkout := checkout
  replenish := .done ()
  giveBack := giveBack
  shutDown := Task.change (Semaphore.shutDown permits)

end Transactional.Memory
