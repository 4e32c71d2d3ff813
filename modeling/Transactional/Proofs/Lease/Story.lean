import Transactional.Manager
import Transactional.Proofs.Lease.Obedience

/-!
# Everything that can happen to a lease

Those who hold a lease use, close and drop it, however often and at the same time; its own tasks
take their steps in any order; and whatever happens elsewhere happens in between.

* `Connection.Respects` — every change that a connection makes is of one kind.
* `Pool.Elsewhere` — what happens outside of a lease.
* `Pool.Hears` — the lease is a part of its own, and giving its connection back is what the pool
  hears.
* `LeaseCall` — what those who hold a lease can do with it.
* `Pool.Story` — everything that can happen to a lease, in any order.
* `Pool.Settled` — nobody has anything left to do.
-/

namespace Transactional

/-! ## The connection beneath -/

/-- **Every change that a connection makes is of one kind**, where it can rely on `P`. -/
structure Connection.Respects (P : σ → Prop) (R : σ → σ → Prop) (conn : Connection σ) : Prop where
  connect : conn.connect.run.Respects P R
  begin : conn.begin.run.Respects P R
  commit : conn.commit.run.Respects P R
  rollback : conn.rollback.run.Respects P R
  prepare : ∀ sql kind, (conn.prepare sql kind).run.Respects P R
  execute : ∀ handle bindings, (conn.execute handle bindings).run.Respects P R
  destroy : ∀ handle s, P s → R s (conn.destroy handle s)
  register : ∀ self s, P s → R s (conn.watch.register self s)

/-- What the operations of a connection may come to wait for. -/
def Connection.Awaits (conn : Connection σ) (ready : σ → Bool) : Prop :=
  conn.connect.run.Waits ready ∨ conn.begin.run.Waits ready ∨ conn.commit.run.Waits ready
    ∨ conn.rollback.run.Waits ready ∨ (∃ sql kind, (conn.prepare sql kind).run.Waits ready)
    ∨ ∃ handle bindings, (conn.execute handle bindings).run.Waits ready

namespace Pool

variable [LeaseHost σ] {ρ : Type}

/-- **What happens outside of a lease** does not change what its tasks agree about, except that the
connection beneath may end; and the pool hears nothing of the lease. -/
structure Elsewhere (pool : Pool σ) (base number : Nat) (heard : σ → List ρ) (s s' : σ) :
    Prop where
  grows : ((pool.lease base number).aspect (.watch base number) s).Grows
    ((pool.lease base number).aspect (.watch base number) s')
  heard : heard s' = heard s

/-- **Giving the connection back is what the pool hears**, and the lease is a part of the state of
its own, which neither the connection beneath nor the pool touches. `heard` is what the pool has
heard so far, and `mark` what it hears of a connection. -/
structure Hears (pool : Pool σ) (base number : Nat) (heard : σ → List ρ)
    (mark : Connection σ → ρ) : Prop where
  apart : (pool.lease base number).Apart
  count : ∀ n s, (LeaseHost.leases number).get (LeaseHost.leaseCount.set n s)
    = (LeaseHost.leases number).get (s : σ)
  heard_cell : ∀ v s, heard ((LeaseHost.leases number).set v s) = heard s
  heard_schedule : ∀ c s, heard (Host.schedule.set c s) = heard s
  heard_traces : ∀ t s, heard (Host.traces.set t s) = heard s
  beneath : (pool.connection base).Respects (fun _ => True) (pool.Elsewhere base number heard)
  /-- The pool does not touch the lease when it takes the connection back. -/
  giveBack : ∀ s, ((pool.lease base number).aspect (.watch base number) s).Grows
    ((pool.lease base number).aspect (.watch base number) (pool.giveBack (pool.connection base) s))
  told : ∀ s, heard (pool.giveBack (pool.connection base) s)
    = heard s ++ [mark (pool.connection base)]

end Pool

/-! ## Everything that can happen to a lease -/

/-- **What those who hold a lease can do with it.** -/
inductive LeaseCall where
  | connect
  | begin
  | commit
  | rollback
  | prepare (sql : String) (kind : StatementKind)
  | execute (handle : StatementHandle) (bindings : List Scalar)
  | destroy (handle : StatementHandle)
  | close
  | drop

namespace LeaseCall

/-- Whether a call is meant to end the lease. -/
def ends : LeaseCall → Bool
  | .close | .drop => true
  | _ => false

def task (conn : Connection σ) : LeaseCall → Task σ Unit
  | .connect => conn.connect.run.bind fun _ => .done ()
  | .begin => conn.begin.run.bind fun _ => .done ()
  | .commit => conn.commit.run.bind fun _ => .done ()
  | .rollback => conn.rollback.run.bind fun _ => .done ()
  | .prepare sql kind => (conn.prepare sql kind).run.bind fun _ => .done ()
  | .execute handle bindings => (conn.execute handle bindings).run.bind fun _ => .done ()
  | .destroy handle => Task.change (conn.destroy handle)
  | .close => conn.close
  | .drop => Task.change conn.drop

end LeaseCall

namespace Pool

variable [LeaseHost σ] {ρ : Type}

/-- The jobs of a lease; which end is noticed first is left open. -/
def Jobs (pool : Pool σ) (base number : Nat) (job : Job) (task : Task σ Unit) : Prop :=
  job = .close base number ∧ task = (pool.lease base number).shutdown .closed
    ∨ job = .watch base number ∧ ∃ ownFirst, task = (pool.lease base number).watch ownFirst

/-- **Everything that can happen to a lease** from the moment when it is started: calls by those who
hold it, at any time and at the same time; steps of all tasks that work on it, one change at a time
and in any order; and whatever happens elsewhere.  A call may be given up while it waits, unless it
is a close.  The flag says whether anybody has closed or dropped the lease. -/
inductive Story (pool : Pool σ) (base : Nat) (heard : σ → List ρ) (s₀ : σ) :
    Bool → Company σ Unit → Prop where
  | start : Story pool base heard s₀ false ⟨(startWatchedLease base s₀).2, .done (), []⟩
  | call {called : Bool} {c : Company σ Unit} (call : LeaseCall)
      (h : Story pool base heard s₀ called c) :
      Story pool base heard s₀ (called || call.ends)
        { c with
          beside := c.beside ++
            [⟨call.task (pool.lease base (LeaseHost.leaseCount.get s₀)).connection, !call.ends⟩] }
  | step {called : Bool} {c c' : Company σ Unit} (h : Story pool base heard s₀ called c)
      (hstep : Company.Step (pool.Jobs base (LeaseHost.leaseCount.get s₀)) c c') :
      Story pool base heard s₀ called c'
  | elsewhere {called : Bool} {c : Company σ Unit} {s' : σ} (h : Story pool base heard s₀ called c)
      (helse : pool.Elsewhere base (LeaseHost.leaseCount.get s₀) heard c.state s') :
      Story pool base heard s₀ called { c with state := s' }

/-- **Nobody has anything left to do**: every task is over, or it waits for something that has not
come, also with a fresh turn, and this is not an operation of the connection beneath; and no job is
due. -/
structure Settled (pool : Pool σ) (base number : Nat) (c : Company σ Unit) : Prop where
  rest : ∀ strand ∈ c.beside, strand.task = .done () ∨ ∃ on next, strand.task = .wait on next
    ∧ on.ready (Host.schedule.modify Schedule.refresh c.state) = false
    ∧ ¬(pool.connection base).Awaits on.ready
  jobs : ∀ n job task, pool.Jobs base number job task → ¬Company.Due n job c.state

end Pool

end Transactional
