import Transactional.Lease

/-!
# Pools and managers

A pool hands out physical connections and takes them back.  A manager stands in front of a pool:
it turns what the pool hands out into leases, wraps them if it is told to, and refuses everything
once it has been closed.

* `Pool` — what a manager needs of a pool.
* `Manager` — the pool, the wrapping and the time limit for runs.
* `Manager.lease`, `Manager.create` — a leased connection, and one outside the pool.
* `Manager.close` — refuse everybody from now on.
-/

namespace Transactional

/-- **A pool of physical connections**, which go by numbers. -/
structure Pool (σ : Type) where
  connection : Nat → Connection σ
  /-- Open a connection outside the pool; whoever asked for it owns it. -/
  create : Attempt σ Nat
  /-- Take a connection out of the pool, waiting while it has none to give. -/
  checkout : Attempt σ Nat
  replenish : Task σ Unit
  giveBack : Connection σ → σ → σ
  shutDown : Task σ Unit

/-- A state that has leases. -/
class LeaseHost (σ : Type) extends Host σ where
  leases : Nat → Cell σ LeaseState
  leaseCount : Cell σ Nat

namespace Pool

variable [LeaseHost σ]

/-- The lease of a number, on a connection of this pool. -/
def lease (pool : Pool σ) (base number : Nat) : Lease σ where
  cell := LeaseHost.leases number
  base := pool.connection base
  giveBack := pool.giveBack (pool.connection base)
  closing := .close base number

/-- **Start a lease** on a connection, without anybody to look after it. -/
def startLease (s : σ) : Nat × σ :=
  let number := LeaseHost.leaseCount.get s
  (number, LeaseHost.leaseCount.set (number + 1) ((LeaseHost.leases number).set {} s))

/-- **Start a lease** on a connection, and a job that looks after it. -/
def startWatchedLease (base : Nat) (s : σ) : Nat × σ :=
  let (number, s) := startLease s
  (number, Host.spawn (.watch base number) s)

/-- What a job does. -/
def perform (pool : Pool σ) : Job → Task σ Unit
  | .watch base number => (pool.lease base number).watch false
  | .close base number => (pool.lease base number).shutdown .closed
  | .replenish => pool.replenish

end Pool

/-- **A manager.** -/
structure Manager (σ : Type) where
  pool : Pool σ
  closed : Cell σ Bool
  wrapping : Option (Connection σ → Connection σ) := none
  timeout : Option Duration := none

namespace Manager

/-- Wrap a connection. -/
def wrap (manager : Manager σ) (conn : Connection σ) : Connection σ :=
  match manager.wrapping with
  | some wrapper => wrapper conn
  | none => conn

/-- Refuse, if the manager has been closed. -/
def ensureOpen (manager : Manager σ) : Attempt σ Unit :=
  .of <| .act id fun s =>
    if manager.closed.get s then .done (.error (.pool "connection manager is closed"))
    else .done (.ok ())

/-- **Open a connection outside the pool.** -/
def create (manager : Manager σ) : Attempt σ (Connection σ) := do
  manager.ensureOpen
  return manager.wrap (manager.pool.connection (← manager.pool.create))

/-- **Lease a connection.** -/
def lease [LeaseHost σ] (manager : Manager σ) : Attempt σ (Connection σ) := do
  manager.ensureOpen
  let base ← manager.pool.checkout
  let number ← Attempt.always (Task.step (Pool.startWatchedLease base))
  return manager.wrap (manager.pool.lease base number).connection

/-- **Close the manager**, and with it the pool.  Only the first time does anything; nobody comes
between the look and the closing. -/
def close (manager : Manager σ) : Task σ Unit :=
  .act (manager.closed.set true) fun s =>
    if manager.closed.get s then .done () else manager.pool.shutDown

/-- The structural text. -/
def structural (manager : Manager σ) (s : σ) : String :=
  Text.openFields "ConnectionManager"
    [("decorated", Text.truth manager.wrapping.isSome),
      ("transaction_timeout", Text.optional (manager.timeout.map Duration.text)),
      ("closed", Text.truth (manager.closed.get s))]

end Manager

end Transactional
