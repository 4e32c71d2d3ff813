import Transactional.Connection
import Transactional.Semaphore

/-!
# Leases

A lease is a connection on loan from a pool.  Ending the lease does not end the connection
beneath: it goes back to the pool, once, whichever comes first of a close, the end of the
connection beneath, and the moment when nobody holds the lease any longer.  From then on the lease
refuses every operation and never touches the connection again.

A lease that is closed leaves nothing behind on the connection: a transaction that is still open
is rolled back, and the statements prepared through the lease are destroyed.  A rollback that
failed leaves the transaction marked as open, so that closing the lease tries once more.

* `LeaseState`, `Lease` — what a lease remembers, and what it stands on.
* `Lease.shutdown` — the end, of which only the first counts.
* `Lease.connection` — the lease as a connection.
* `Lease.watch` — the task that ends the lease when the connection beneath has ended.
-/

namespace Transactional

/-- **What a lease remembers.** -/
structure LeaseState where
  closed : Bool := false
  inTransaction : Bool := false
  statements : List StatementHandle := []
  signal : Signal := {}
  lock : Semaphore := { free := 1 }
  holdsBase : Bool := true
  listening : Bool := true

namespace LeaseState

instance : Inhabited LeaseState := ⟨{}⟩

/-- The structural text. -/
def structural (state : LeaseState) : String :=
  Text.fields "PooledConnection"
    [("closed", Text.truth state.closed),
      ("prepared_statements", Text.natural state.statements.length),
      ("status", state.signal.status.structural)]

/-- A transaction has begun. -/
def begun (state : LeaseState) : LeaseState :=
  { state with inTransaction := true }

/-- The transaction has ended. -/
def ended (state : LeaseState) : LeaseState :=
  { state with inTransaction := false }

/-- A statement has been prepared. -/
def remember (handle : StatementHandle) (state : LeaseState) : LeaseState :=
  { state with statements := state.statements ++ [handle] }

/-- A statement is to be destroyed. -/
def forget (handle : StatementHandle) (state : LeaseState) : LeaseState :=
  { state with statements := state.statements.filter (·.id != handle.id) }

end LeaseState

/-- **A lease**: where its state is, and what it stands on. -/
structure Lease (σ : Type) where
  cell : Cell σ LeaseState
  base : Connection σ
  giveBack : σ → σ
  closing : Job

namespace Lease

variable [Host σ]

/-- The lock of a lease. -/
def lock (lease : Lease σ) : Cell σ Semaphore :=
  lease.cell.comp
    ⟨LeaseState.lock, fun v s => { s with lock := v }, fun _ _ => rfl, fun _ _ _ => rfl⟩

/-- The signal of a lease. -/
def signal (lease : Lease σ) : Cell σ Signal :=
  lease.cell.comp
    ⟨LeaseState.signal, fun v s => { s with signal := v }, fun _ _ => rfl, fun _ _ _ => rfl⟩

/-! ## Using the connection beneath -/

/-- Take the lock, unless the lease has ended.  It may end while one waits for the lock, so this is
looked at again. -/
def enter (lease : Lease σ) : Attempt σ Unit :=
  .of <| .act id fun s =>
    if (lease.cell.get s).closed then .done (.error .closedConnection)
    else
      (Semaphore.acquire lease.lock).bind fun _ => .act id fun s =>
        if (lease.cell.get s).closed || !(lease.cell.get s).holdsBase then
          .act (Semaphore.release lease.lock) fun _ => .done (.error .closedConnection)
        else .done (.ok ())

/-- **Use the connection beneath** under the lock, and remember what came of it. -/
def operate (lease : Lease σ) (operation : Attempt σ α) (after : α → LeaseState → LeaseState) :
    Attempt σ α :=
  .of <| lease.enter.run.bind fun
    | .error fault => .done (.error fault)
    | .ok () =>
        Task.holding (Semaphore.release lease.lock) <| operation.run.bind fun
          | .error fault => .done (.error fault)
          | .ok a => .act (lease.cell.modify (after a)) fun _ => .done (.ok a)

/-- Destroy a statement, unless the lease has ended or the connection beneath is in use. -/
def destroy (lease : Lease σ) (handle : StatementHandle) (s : σ) : σ :=
  let s := lease.cell.modify (LeaseState.forget handle) s
  let state := lease.cell.get s
  if !state.closed && 0 < state.lock.free && state.holdsBase then lease.base.destroy handle s else s

/-! ## The end -/

/-- Give the connection beneath back, once. -/
def release (lease : Lease σ) (s : σ) : σ :=
  if (lease.cell.get s).listening then
    lease.giveBack (lease.cell.modify (fun state => { state with listening := false }) s)
  else lease.base.drop s

/-- Take the connection beneath out of the lease, and tell everybody how it ended. -/
def surrender (lease : Lease σ) (status : Status) (s : σ) : σ :=
  let s := lease.cell.modify (fun state => { state with holdsBase := false }) s
  let s := Semaphore.release lease.lock s
  let s := lease.cell.modify (fun state => { state with statements := [] }) s
  Signal.finishAt lease.signal status s

/-- Report that a transaction could not be rolled back. -/
def reportRollback (fault : Fault) : σ → σ :=
  Host.report
    { level := .warn
      message := "rollback of open transaction on close failed"
      fields := [("error", fault.message)] }

/-- Roll back a transaction that is still open. -/
def tidyTransaction (lease : Lease σ) : Task σ Unit :=
  .act (lease.cell.modify LeaseState.ended) fun s =>
    if (lease.cell.get s).inTransaction then
      lease.base.rollback.run.bind fun
        | .ok () => .done ()
        | .error fault => .act (reportRollback fault) fun _ => .done ()
    else .done ()

/-- Destroy statements in order. -/
def destroyAll (lease : Lease σ) (handles : List StatementHandle) (s : σ) : σ :=
  handles.foldl (fun s handle => lease.base.destroy handle s) s

/-- Leave the connection beneath as it was found, and give it back. -/
def tidy (lease : Lease σ) (handles : List StatementHandle) : Task σ Unit :=
  (Task.guarded lease.base.drop lease.tidyTransaction).bind fun _ =>
    .act (fun s => lease.release (lease.destroyAll handles s)) fun _ => .done ()

/-- **The end of a lease**, of which only the first counts.  After a close the connection beneath is
tidied up; when it has ended itself there is nothing to tidy. -/
def shutdown (lease : Lease σ) (status : Status) : Task σ Unit :=
  .act (lease.cell.modify fun state => { state with closed := true }) fun s =>
    if (lease.cell.get s).closed then .done ()
    else
      (Semaphore.acquire lease.lock).bind fun _ =>
        .act (lease.surrender status) fun s =>
          let state := lease.cell.get s
          if !state.holdsBase then .done ()
          else if status = .closed then lease.tidy state.statements
          else .act lease.release fun _ => .done ()

/-- The end of a lease where nothing can wait: the connection beneath is given back as it is, unless
somebody is using it. -/
def shutdownNow (lease : Lease σ) (s : σ) : σ :=
  if (lease.cell.get s).closed then s
  else
    let s := lease.cell.modify (fun state => { state with closed := true, statements := [] }) s
    let s := Signal.finishAt lease.signal .closed s
    let state := lease.cell.get s
    if 0 < state.lock.free && state.holdsBase then
      lease.release (lease.cell.modify (fun state => { state with holdsBase := false }) s)
    else s

/-- Nobody holds the lease any longer: a job closes it. -/
def drop (lease : Lease σ) (s : σ) : σ :=
  if (lease.cell.get s).closed then s else Host.spawn lease.closing s

/-! ## The lease as a connection -/

/-- Its state as others see it. -/
def watching (lease : Lease σ) : Watch σ where
  status s := (lease.cell.get s).signal.status
  gone _ := false
  register self := lease.signal.modify (Signal.join self)

/-- **The lease as a connection.** -/
def connection (lease : Lease σ) : Connection σ where
  connect := lease.operate lease.base.connect fun _ => id
  begin := lease.operate lease.base.begin fun _ => LeaseState.begun
  commit := lease.operate lease.base.commit fun _ => LeaseState.ended
  rollback := lease.operate lease.base.rollback fun _ => LeaseState.ended
  prepare sql kind := lease.operate (lease.base.prepare sql kind) LeaseState.remember
  execute handle bindings := lease.operate (lease.base.execute handle bindings) fun _ => id
  destroy := lease.destroy
  watch := lease.watching
  close := lease.shutdown .closed
  drop := lease.drop

/-! ## Looking after a lease -/

/-- Waiting for the end of the connection beneath, or of the lease. -/
def eitherEnd (lease : Lease σ) : Wait σ where
  ready s := (lease.base.watch.ending? s).isSome || (lease.watching.ending? s).isSome
  register self s := lease.watching.register self (lease.base.watch.register self s)
  abandon := id

/-- **End the lease when the connection beneath has ended.**  When both have ended, `ownFirst` says
which end is noticed; it makes no difference, since a lease ends only once. -/
def watch (lease : Lease σ) (ownFirst : Bool) : Task σ Unit :=
  .wait lease.eitherEnd (.act id fun s =>
    match lease.base.watch.ending? s with
    | some status =>
        if ownFirst && (lease.watching.ending? s).isSome then .done () else lease.shutdown status
    | none => .done ())

end Lease

end Transactional
