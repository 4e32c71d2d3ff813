import Transactional.Proofs.Closing.Unclosed
import Transactional.Proofs.Isolation.Confined
import Transactional.Proofs.Logging.Diary
import Transactional.Proofs.Traffic.Keeping

/-!
# Those who have a connection

Whoever has got a permit does not notice that the manager has been closed: opening the connection,
using it in any way whatever, a whole run on it, ending it and looking after it go alike in a world
that has been closed and in one that has not, and close nothing themselves.

* `World.Foreign`, `Sink.Foreign`, `Program.Foreign` — what has nothing to do with the pool.
* `Manager.Clone` — the clones of the manager of the world's scripted pool.
* `Task.Steady`, `Task.Untroubled` — tasks that close nothing; tasks that go alike and close
  nothing.
* `Manager.resume`, `Manager.lease_eq_resume` — what a checkout does once it has been answered.
* `Manager.resume_untroubled`, `run_untroubled`, `call_untroubled`, `job_untroubled` — all that is
  done with a connection.
-/

namespace Transactional

/-! ## What has nothing to do with the pool -/

/-- **A change that has nothing to do with the pool**, nor depends on whether it has been closed. -/
structure World.Foreign (f : World → World) : Prop where
  elsewhere : ∀ s, Elsewhere s (f s)
  alike : ∀ {s t}, SameButClosed s t → SameButClosed (f s) (f t)

/-- A sink that has nothing to do with the pool. -/
def Sink.Foreign (sink : Sink World) : Prop :=
  ∀ event, World.Foreign (sink.publish event)

/-- A program whose futures have nothing to do with the pool. -/
def Program.Foreign (program : Program World) : Prop :=
  program.Lifts fun task => task.Respects (fun _ => True) World.Elsewhere
    ∧ task.Blind World.SameButClosed

/-- **A clone of the manager** of the world's scripted pool: it shares the pool and the flag.  How
it wraps connections is its own affair. -/
structure Manager.Clone (clone : Manager World) : Prop where
  pool : clone.pool = Memory.pool
  closed : clone.closed = World.managerCell
  wrapping : clone.wrapping = none ∨ ∃ write, clone.wrapping = some (Connection.logged write)
    ∧ ∀ line, World.Foreign (write line)

variable {α β γ δ : Type} {s s' t : World} {b n : Nat}

lemma World.Elsewhere.harmless {E : Discipline World Unit} (hE : ∀ e s, E.knows e s)
    (h : World.Elsewhere s s') : World.Harmless E s s' :=
  ⟨h, fun e _ => hE e s'⟩

/-! ## Tasks that close nothing -/

/-- The discipline of those who close nothing. -/
abbrev steadiness : Discipline World Unit where
  knows _ _ := True
  may _ s _ s' := World.Steady s s'
  waits _ _ := True

/-- **A task that closes nothing**, with a result of which `Q` is true. -/
def Task.Steady (Q : α → Prop) (task : Task World α) : Prop :=
  task.Obeys steadiness (fun _ f => ∀ s, World.Steady s (f s)) (fun a _ => Q a) ()

namespace Task.Steady

variable {Q : α → Prop} {Q' : β → Prop} {task : Task World α}

lemma done {a : α} (h : Q a) : Steady Q (.done a) := h

lemma act {update : World → World} {next : World → Task World α}
    (h : ∀ s, World.Steady s (update s)) (hnext : ∀ s, Steady Q (next s)) :
    Steady Q (.act update next) :=
  fun s _ => ⟨(), h s, hnext s⟩

lemma bind {f : α → Task World β} (h : Steady Q task) (hf : ∀ a, Q a → Steady Q' (f a)) :
    Steady Q' (task.bind f) :=
  Obeys.bind h fun a _ ha => hf a ha

end Task.Steady

/-- Nothing is relied on. -/
abbrev anything : Discipline World Unit where
  knows _ _ := True
  may _ _ _ _ := True
  waits _ _ := True

lemma anything_private : anything.Private :=
  ⟨fun _ _ _ => .rfl, fun _ _ _ => .rfl, fun _ _ _ => .rfl, fun _ _ _ => .rfl, fun _ _ _ _ => .rfl,
    fun _ _ _ => .rfl⟩

lemma World.Touches.steady {base number : Option Nat}
    (h : World.Touches anything base number s s') :
    World.Steady s s' :=
  ⟨h.seen.managerClosed, h.shut⟩

lemma Task.Confined.steady {Q : α → Prop} {task : Task World α} (h : task.Confined anything b n Q) :
    task.Steady Q :=
  Obeys.map (D := touching anything b n) (fun _ => ()) (fun _ _ => id) (fun _ _ _ _ _ h => h.steady)
    (fun _ _ => id) (fun _ _ hf s => (hf s).steady) (fun _ _ => id) h

/-! ## Tasks that go alike and close nothing -/

/-- **Two tasks of somebody who does not notice the closing**, and closes nothing. -/
structure Task.Untroubled (S : α → β → Prop) (task : Task World α)
    (task' : Task World β) : Prop where
  alike : task.Mirrors World.SameButClosed S task'
  steady : task.Steady fun _ => True

namespace Task.Untroubled

variable {S : α → β → Prop} {task : Task World α} {task' : Task World β}

/-- **Each step of the first is one of the second**, unless the second need not move. -/
lemma moves (h : task.Untroubled S task') (hs : World.SameButClosed s t) {rest : Task World α}
    (hmove : task.Moves s rest s') :
    World.Steady s s' ∧ ∃ rest' t', (task'.Moves t rest' t' ∨ rest' = task' ∧ t' = t)
      ∧ rest.Untroubled S rest' ∧ World.SameButClosed s' t' := by
  obtain ⟨halike, hsteady⟩ := h
  obtain ⟨⟨⟩, hkept, hrest⟩ := Obeys.moves hsteady trivial hmove
  refine ⟨hkept, ?_⟩
  cases hmove with
  | act update next =>
    cases halike with
    | act hupdate hnext =>
      exact ⟨_, _, .inl (.act _ _ t), ⟨hnext hs, hrest⟩, hupdate hs⟩
    | aside hupdate hnext => exact ⟨task', t, .inr ⟨rfl, rfl⟩, ⟨hnext s, hrest⟩, hupdate hs⟩
  | pass on next _ hready =>
    cases halike with
    | wait hon hnext =>
      exact ⟨_, t, .inl (.pass _ _ t (by rw [← hon.ready hs]; exact hready)), ⟨hnext, hrest⟩, hs⟩
  | register on next self =>
    cases halike with
    | wait hon hnext =>
      exact ⟨_, _, .inl (.register _ _ self t), ⟨.wait hon hnext, hrest⟩, hon.register self hs⟩

/-- **If one of them is given up where it waits, so is the other.** -/
lemma abandon {on : Wait World} {next : Task World α} (h : (Task.wait on next).Untroubled S task')
    (hs : World.SameButClosed s t) : World.Steady s (on.abandon s)
      ∧ ∃ on' next', task' = .wait on' next' ∧ World.SameButClosed (on.abandon s)
        (on'.abandon t) := by
  obtain ⟨halike, hsteady⟩ := h
  refine ⟨hsteady.2.1 s, ?_⟩
  cases halike with
  | wait hon hnext => exact ⟨_, _, rfl, hon.abandon hs⟩

end Task.Untroubled

/-! ## A checkout that has been answered -/

namespace Manager

/-- **What a checkout does once it has been answered**: whether it has got a permit. -/
def resume (manager : Manager World) : Bool → Attempt World (Connection World)
  | false => throw Memory.poolShut
  | true => do
    let base ← (do
      let number ← Memory.openLink true
      Attempt.always (Task.change (MemoryHost.accounts.modify fun a =>
        { a with acquired := a.acquired + 1 }))
      return number : Attempt World Nat)
    let number ← Attempt.always (Task.step (Pool.startWatchedLease base))
    return manager.wrap (Memory.pool.lease base number).connection

/-- **A checkout** asks whether the manager is open, waits for a permit, and goes on from there. -/
lemma lease_eq_resume {manager : Manager World} (hpool : manager.pool = Memory.pool) :
    manager.lease.run = manager.ensureOpen.run.bind fun
      | .ok () => (Semaphore.acquire Memory.permits).bind fun had => (manager.resume had).run
      | .error fault => .done (.error fault) := by
  obtain ⟨pool, closed, wrapping, timeout⟩ := manager
  obtain rfl : pool = Memory.pool := hpool
  refine congrArg (Task.bind _) (funext fun r => ?_)
  cases r with
  | error fault => rfl
  | ok _ =>
    show Task.bind (Task.bind (Task.bind _ _) _) _ = _
    rw [Task.bind_assoc, Task.bind_assoc]
    refine congrArg (Task.bind _) (funext fun had => ?_)
    cases had <;> rfl

variable {manager : Manager World}

/-- **Opening a connection with a permit, and starting a lease on it.** -/
lemma resume_mirrors : (manager.resume true).run.Mirrors World.SameButClosed
    (fun r r' => (∃ fault, r = .error fault ∧ r' = .error fault)
      ∨ ∃ base number, r = .ok (manager.wrap (Memory.pool.lease base number).connection) ∧ r' = r)
    (manager.resume true).run := by
  refine (Memory.obtain_blind World.sameButClosed_near).bind ?_
  rintro (fault | base) _ rfl
  · exact .done (.inl ⟨fault, rfl, rfl⟩)
  have hstart := fun {s t} (hs : World.SameButClosed s t) =>
    World.sameButClosed_near.startLease base hs
  refine .act (fun hs => (hstart hs).2) fun {s t} hs =>
    .done (.inr ⟨base, (Pool.startWatchedLease base s).1, rfl, ?_⟩)
  rw [(hstart hs).1]

lemma resume_steady : (manager.resume true).run.Steady fun r => ∀ conn, r = .ok conn →
    ∃ base number, conn = manager.wrap (Memory.pool.lease base number).connection := by
  have hopen : (Memory.openLink true : Attempt World Nat).run.Steady fun _ => True := by
    refine .act (fun s => ⟨rfl, rfl⟩) fun s => ?_
    refine (plainCall_confined (n := 0) anything_private _ rfl _).steady.bind ?_
    rintro (fault | _) -
    · have hdrop : ∀ b s, World.Touches anything (some b) none s (Memory.drop b s) :=
        fun b s => .drop anything_private b s
      exact .act (fun s => (hdrop _ s).steady) fun _ => .done trivial
    · exact .done trivial
  refine .bind (Q := fun _ => True) (hopen.bind ?_) ?_
  · rintro (fault | number) -
    · exact .done trivial
    · exact .act (fun s => ⟨rfl, rfl⟩) fun _ => .done trivial
  · rintro (fault | base) -
    · exact .done fun conn h => by cases h
    · refine .act (fun s => ⟨rfl, rfl⟩) fun s => .done fun conn h => ?_
      cases h
      exact ⟨base, _, rfl⟩

namespace Clone

variable {clone : Manager World} (hclone : clone.Clone)

include hclone

lemma shared : clone.Shared where
  pool := hclone.pool
  wrapping := hclone.wrapping.imp_right fun ⟨write, hsome, hwrite⟩ =>
    ⟨write, hsome, fun line s => ((hwrite line).elsewhere s).aside⟩
  closed v s := by
    rw [hclone.closed]
    exact ⟨rfl, .of_eq fun _ => rfl⟩

lemma wrap_mirrors {conn : Connection World} (M : conn.Mirrors World.SameButClosed conn) :
    (clone.wrap conn).Mirrors World.SameButClosed (clone.wrap conn) := by
  obtain hnone | ⟨write, hsome, hwrite⟩ := hclone.wrapping
  · rwa [Manager.wrap, hnone]
  · rw [Manager.wrap, hsome]
    exact M.logging fun line => (hwrite line).alike

lemma wrap_confined (base number : Nat) :
    (clone.wrap (Memory.pool.lease base number).connection).Confined anything base number := by
  have C := lease_confined anything_private base number
  obtain hnone | ⟨write, hsome, hwrite⟩ := hclone.wrapping
  · rwa [Manager.wrap, hnone]
  · rw [Manager.wrap, hsome]
    exact C.logged fun line s => ((hwrite line).elsewhere s).harmless fun _ _ => trivial

lemma lease_mirrors (base number : Nat) :
    (clone.wrap (Memory.pool.lease base number).connection).Mirrors World.SameButClosed
      (clone.wrap (Memory.pool.lease base number).connection) :=
  hclone.wrap_mirrors (World.sameButClosed_near.lease_mirrors base number)

end Clone

end Manager

/-! ## All that is done with a connection -/

/-- What somebody does with a connection, if he gets one. -/
def Connection.whenLeased (use : Connection World → Task World (Except Fault Value)) :
    Except Fault (Connection World) → Task World (Except Fault Value)
  | .ok conn => use conn
  | .error fault => .done (.error fault)

/-- **Whoever has been let in does not notice the closing**, if he does not once he has his
connection. -/
lemma Manager.resume_untroubled {manager : Manager World}
    {use : Connection World → Task World (Except Fault Value)}
    (huse : ∀ base number,
      (use (manager.wrap (Memory.pool.lease base number).connection)).Untroubled Eq
      (use (manager.wrap (Memory.pool.lease base number).connection))) :
    ((manager.resume true).run.bind (Connection.whenLeased use)).Untroubled Eq
      ((manager.resume true).run.bind (Connection.whenLeased use)) where
  alike := by
    refine resume_mirrors.bind ?_
    rintro r r' (⟨fault, rfl, rfl⟩ | ⟨base, number, rfl, rfl⟩)
    · exact .done rfl
    · exact (huse base number).alike
  steady := by
    refine resume_steady.bind ?_
    rintro (fault | conn) hconn
    · exact .done trivial
    · obtain ⟨base, number, rfl⟩ := hconn conn rfl
      exact (huse base number).steady

namespace Manager.Clone

variable {clone : Manager World} (hclone : clone.Clone)

include hclone

/-- **A run does not notice the closing** once it has its connection. -/
lemma run_untroubled {sink : Sink World} (hsink : sink.Foreign) (limit : Option Duration)
    {program : Program World} (hprogram : program.Foreign) (base number : Nat) :
    let conn := clone.wrap (Memory.pool.lease base number).connection
    (Task.holding conn.drop (Run.on conn sink limit program)).Untroubled Eq
      (Task.holding conn.drop (Run.on conn sink limit program)) where
  alike := by
    have M := hclone.lease_mirrors base number
    exact (Run.on_mirrors World.sameButClosed_near.toAlike M
      (fun event => (hsink event).alike) limit
      (hprogram.imp fun _ h => h.2)).holding M.drop
  steady := by
    have C := hclone.wrap_confined base number
    have hharmless : ∀ {s s'}, World.Elsewhere s s' → World.Harmless anything s s' :=
      fun h => h.harmless fun _ _ => trivial
    have hon := C.onAccount anything_private
      (fun event s => hharmless ((hsink event).elsewhere s)) limit
      (hprogram.imp fun _ h => h.1.imp fun _ _ _ => hharmless)
    rw [Run.on_eq_account]
    exact (hon.bind fun _ _ => .done trivial).holding C.drop |>.steady

omit hclone in
lemma wrap_connect (hwrapping : clone.wrapping = none ∨ ∃ write, clone.wrapping
      = some (Connection.logged write))
    (conn : Connection World) : (clone.wrap conn).connect = conn.connect := by
  obtain hnone | ⟨write, hsome⟩ := hwrapping
  · rw [Manager.wrap, hnone]
  · rw [Manager.wrap, hsome]
    rfl

/-- **Nobody who uses a lease notices the closing.** -/
lemma call_untroubled (base number : Nat) (call : LeaseCall) :
    (call.task (clone.wrap (Memory.pool.lease base number).connection)).Untroubled Eq
      (call.task (clone.wrap (Memory.pool.lease base number).connection)) := by
  have M := hclone.lease_mirrors base number
  have C := hclone.wrap_confined base number
  have hconnect := wrap_connect (hclone.wrapping.imp_right fun ⟨write, hsome, _⟩ => ⟨write, hsome⟩)
    (Memory.pool.lease base number).connection
  have hoperation : ∀ {α : Type} {attempt : Attempt World α} {Q : Except Fault α → Prop},
      attempt.run.Blind World.SameButClosed → attempt.run.Confined anything base number Q →
      (attempt.run.bind fun _ => .done ()).Untroubled Eq (attempt.run.bind fun _ => .done ()) :=
    fun halike hconfined =>
      ⟨halike.bind fun _ _ _ => .done rfl, hconfined.steady.bind fun _ _ => .done trivial⟩
  cases call with
  | connect =>
    unfold LeaseCall.task
    rw [hconnect]
    refine hoperation ?_ (operate_confined (Q := fun _ => True) anything_private (fun _ => trivial)
      (plainCall_confined anything_private (.connect base) rfl _) fun _ _ => rfl)
    exact Lease.operate_blind World.sameButClosed_near.toAlike
      (World.sameButClosed_near.leases number)
      (Memory.plainCall_blind World.sameButClosed_near base _ _)
  | begin => exact hoperation M.begin C.begin
  | commit => exact hoperation M.commit C.commit
  | rollback => exact hoperation M.rollback C.rollback
  | prepare sql kind => exact hoperation (M.prepare sql kind) (C.prepare sql kind)
  | execute handle bindings =>
    exact hoperation (M.execute handle bindings) (C.execute handle bindings)
  | destroy handle =>
    exact ⟨.change (M.destroy handle), .act (fun s => (C.destroy handle s).steady) fun _ =>
      .done trivial⟩
  | close => exact ⟨M.close, C.close.steady⟩
  | drop => exact ⟨.change M.drop, .act (fun s => (C.drop s).steady) fun _ => .done trivial⟩

end Manager.Clone

/-- **Looking after a lease goes on** in a pool that has been closed. -/
lemma job_untroubled {job : Job} {task : Task World Unit} (h : Memory.pool.Jobs b n job task) :
    task.Untroubled Eq task := by
  have hshutdown : ∀ status, ((Memory.pool.lease b n : Lease World).shutdown status).Steady
    fun _ => True :=
    fun status => (shutdown_confined anything_private status).steady
  obtain ⟨-, rfl⟩ | ⟨-, ownFirst, rfl⟩ := h
  · exact ⟨Memory.shutdown_blind World.sameButClosed_near b n .closed, hshutdown .closed⟩
  refine ⟨Memory.watch_blind World.sameButClosed_near b n ownFirst, ?_⟩
  refine ⟨trivial, fun s => .refl s, fun self s _ => ⟨rfl, rfl⟩, fun s _ _ => ⟨(), .refl s, ?_⟩⟩
  refine Task.Steady.act .refl fun s => ?_
  split
  · split
    · exact .done trivial
    · exact hshutdown _
  · exact .done trivial

end Transactional
