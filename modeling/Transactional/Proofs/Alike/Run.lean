import Transactional.Proofs.Alike.Lease
import Transactional.Proofs.Memory.Work
import Transactional.Proofs.Run.Staying
import Transactional.World

/-!
# Runs that go alike

On two worlds that are alike in all that the library uses, a whole run goes alike, also if the
manager wraps the connection of the one run in something that nobody notices.

* `World.Alike` — being alike in all that the library uses over the scripted backend.
* `Memory.checkout_blind`, `Memory.perform_blind` — the pool and its jobs.
* `Connection.Mirrors` — connections on which everything goes alike.
* **`World.Alike.run_mirrors`** — runs.
-/

namespace Transactional

variable {R : σ → σ → Prop} {s s' : σ}

/-! ## The scripted backend -/

/-- **Alike in all that those use who have a connection** to the scripted backend; of the permits
they only give theirs back. -/
structure World.Near (R : World → World → Prop) : Prop extends Host.Alike R where
  backend : MemoryHost.backend.Alike R
  leases : ∀ number, (LeaseHost.leases number).Alike R
  leaseCount : LeaseHost.leaseCount.Alike R
  acquired : ∀ {s s'}, R s s' →
    R (MemoryHost.accounts.modify (fun a => { a with acquired := a.acquired + 1 }) s)
      (MemoryHost.accounts.modify (fun a => { a with acquired := a.acquired + 1 }) s')
  released : ∀ {s s'}, R s s' →
    R (MemoryHost.accounts.modify (fun a => { a with released := a.released + 1 }) s)
      (MemoryHost.accounts.modify (fun a => { a with released := a.released + 1 }) s')
  release : ∀ {s s'}, R s s' →
    R (Semaphore.release Memory.permits s) (Semaphore.release Memory.permits s')

/-- **Alike in all that the library uses** over the scripted backend. -/
structure World.Alike (R : World → World → Prop) : Prop extends Host.Alike R where
  backend : MemoryHost.backend.Alike R
  accounts : MemoryHost.accounts.Alike R
  leases : ∀ number, (LeaseHost.leases number).Alike R
  leaseCount : LeaseHost.leaseCount.Alike R

lemma Memory.permits_alike {R : World → World → Prop} (A : World.Alike R) : permits.Alike R :=
  A.accounts.comp _

/-- All that the library uses comprises what those use who have a connection. -/
lemma World.Alike.near {R : World → World → Prop} (A : World.Alike R) : World.Near R :=
  { A.toAlike with
    backend := A.backend
    leases := A.leases
    leaseCount := A.leaseCount
    acquired := A.accounts.modify _
    released := A.accounts.modify _
    release := Semaphore.release_alike A.toAlike (Memory.permits_alike A) }

namespace Memory

variable {R : World → World → Prop} {s s' : World} (A : World.Near R)

include A

lemma link_alike (number : Nat) : (link number).Alike R := A.backend.comp _

lemma note_alike (call : Call) (hs : R s s') : R (note call s) (note call s') :=
  A.backend.modify _ hs

lemma answering_blind (number : Nat) (call : Call) {answer : World → Except Fault α × World}
    (h : ∀ {s s'}, R s s' → (answer s).1 = (answer s').1 ∧ R (answer s).2 (answer s').2) :
    (answering number call answer).run.Blind R := by
  have hboth : ∀ {s s'}, R s s' →
      ((if ((link number).get (note call s)).signal.status.isTerminal
          then (.error (hasEnded number), note call s) else answer (note call s)).1
        = (if ((link number).get (note call s')).signal.status.isTerminal
          then (.error (hasEnded number), note call s') else answer (note call s')).1)
      ∧ R (if ((link number).get (note call s)).signal.status.isTerminal
          then (.error (hasEnded number), note call s) else answer (note call s)).2
        (if ((link number).get (note call s')).signal.status.isTerminal
          then (.error (hasEnded number), note call s') else answer (note call s')).2 := by
    intro s s' hs
    have hnote := note_alike A call hs
    rw [(link_alike A number).get hnote]
    split
    · exact ⟨rfl, hnote⟩
    · exact h hnote
  exact .step (fun hs => (hboth hs).1) fun hs => (hboth hs).2

lemma plainCall_blind (number : Nat) (call : Call) (pick : Failures → Option String) :
    (plainCall number call pick).run.Blind R := by
  refine answering_blind A number call fun {s s'} hs => ?_
  rw [A.backend.get hs]
  cases pick (MemoryHost.backend.get s').failures <;> exact ⟨rfl, hs⟩

lemma prepare_blind (number : Nat) (sql : String) (kind : StatementKind) :
    (prepare number sql kind).run.Blind R := by
  refine answering_blind A number _ fun {s s'} hs => ?_
  dsimp only
  rw [(link_alike A number).get hs]
  exact ⟨rfl, (link_alike A number).modify _ hs⟩

lemma execute_blind (number : Nat) (handle : StatementHandle) (bindings : List Scalar) :
    (execute number handle bindings).run.Blind R := by
  refine answering_blind A number _ fun {s s'} hs => ?_
  rw [(link_alike A number).get hs, A.backend.get hs]
  split
  · exact ⟨rfl, A.backend.set _ hs⟩
  · exact ⟨rfl, hs⟩

lemma destroy_alike (number : Nat) (handle : StatementHandle) (hs : R s s') :
    R (destroy number handle s) (destroy number handle s') := by
  unfold destroy
  rw [(link_alike A number).get hs]
  split
  · exact note_alike A _ ((link_alike A number).modify _ hs)
  · exact hs

lemma drop_alike (number : Nat) (hs : R s s') : R (drop number s) (drop number s') := by
  unfold drop
  dsimp only
  rw [(link_alike A number).get hs]
  have hwoken := A.wakeAll ((link number).get s').signal.waiting
    ((link_alike A number).modify (fun l => { l with alive := false, hasPermit := false }) hs)
  split
  · split
    · exact A.release hwoken
    · exact hwoken
  · exact hs

lemma newLink_alike (hasPermit : Bool) (hs : R s s') :
    (newLink hasPermit s).1 = (newLink hasPermit s').1
      ∧ R (newLink hasPermit s).2 (newLink hasPermit s').2 := by
  unfold newLink
  dsimp only
  rw [A.backend.get hs]
  exact ⟨rfl, (link_alike A _).set _ (A.backend.modify _ hs)⟩

/-- **Opening a connection** goes alike. -/
lemma openLink_blind (hasPermit : Bool) : (openLink hasPermit : Attempt World Nat).run.Blind R := by
  refine Task.Mirrors.bind (S := Eq) (Task.Mirrors.bind (.step ?_ ?_) fun _ _ h =>
    .done (congrArg _ h)) ?_
  · exact fun hs => (newLink_alike A hasPermit hs).1
  · exact fun hs => (newLink_alike A hasPermit hs).2
  rintro (fault | number) _ rfl
  · exact .done rfl
  refine (plainCall_blind A number _ _).bind ?_
  rintro (fault | _) _ rfl
  · exact .act (drop_alike A number) fun _ => .done rfl
  · exact .done rfl

/-- **What comes of a checkout** that has a permit. -/
lemma obtain_blind :
    (do
      let number ← openLink true
      Attempt.always (Task.change (MemoryHost.accounts.modify fun a =>
        { a with acquired := a.acquired + 1 }))
      return number : Attempt World Nat).run.Blind R := by
  refine (openLink_blind A true).bind ?_
  rintro (fault | number) _ rfl
  · exact .done rfl
  · exact .act A.acquired fun _ => .done rfl

omit A in
/-- **Checking a connection out** goes alike. -/
lemma checkout_blind (A : World.Alike R) : (checkout : Attempt World Nat).run.Blind R := by
  refine Task.Mirrors.bind (S := Eq)
    ((Semaphore.acquire_blind A.toAlike (permits_alike A)).bind fun _ _ h =>
      .done (congrArg _ h)) ?_
  rintro (fault | had) _ rfl
  · exact .done rfl
  cases had with
  | false => exact .done rfl
  | true => exact obtain_blind A.near

lemma giveBack_alike (number : Nat) (hs : R s s') :
    R (giveBack (connection number) s) (giveBack (connection number) s') :=
  drop_alike A number (A.released hs)

lemma shutdown_blind (base number : Nat) (status : Status) :
    ((pool.lease base number : Lease World).shutdown status).Blind R :=
  Lease.shutdown_blind A.toAlike (A.leases number) (plainCall_blind A base _ _)
    (fun handle => destroy_alike A base handle) (drop_alike A base) (giveBack_alike A base) status

/-- **Looking after a lease** goes alike, whichever end is noticed first. -/
lemma watch_blind (base number : Nat) (ownFirst : Bool) :
    ((pool.lease base number : Lease World).watch ownFirst).Blind R := by
  refine Lease.watch_blind A.toAlike (A.leases number) (plainCall_blind A base _ _)
    (fun handle => destroy_alike A base handle) (drop_alike A base) (giveBack_alike A base) ownFirst
    (fun hs => ?_) fun self hs => Cell.Alike.modify ((link_alike A base).comp _) _ hs
  have hsame := (link_alike A base).get hs
  exact ending_of_same (congrArg (fun l : Link => l.signal.status) hsame)
    (congrArg Link.alive hsame)

/-- **What the jobs do** goes alike. -/
lemma perform_blind (job : Job) : (pool.perform job : Task World Unit).Blind R := by
  cases job with
  | watch base number => exact watch_blind A base number false
  | close base number => exact shutdown_blind A base number .closed
  | replenish => exact .done rfl

end Memory

/-! ## Runs -/

/-- **Two connections on which everything goes alike**, as far as runs use them. -/
structure Connection.Mirrors (R : σ → σ → Prop) (conn conn' : Connection σ) : Prop where
  begin : conn.begin.run.Mirrors R Eq conn'.begin.run
  commit : conn.commit.run.Mirrors R Eq conn'.commit.run
  rollback : conn.rollback.run.Mirrors R Eq conn'.rollback.run
  prepare : ∀ sql kind, (conn.prepare sql kind).run.Mirrors R Eq (conn'.prepare sql kind).run
  execute : ∀ handle bindings,
    (conn.execute handle bindings).run.Mirrors R Eq (conn'.execute handle bindings).run
  destroy : ∀ {s s'} handle, R s s' → R (conn.destroy handle s) (conn'.destroy handle s')
  close : conn.close.Mirrors R Eq conn'.close
  drop : ∀ {s s'}, R s s' → R (conn.drop s) (conn'.drop s')

lemma Attempt.mirrors_bind {attempt attempt' : Attempt σ α} {f g : α → Attempt σ β}
    (h : attempt.run.Mirrors R Eq attempt'.run) (hfg : ∀ a, (f a).run.Mirrors R Eq (g a).run) :
    (attempt >>= f).run.Mirrors R Eq (attempt' >>= g).run := by
  refine Task.Mirrors.bind h ?_
  rintro (fault | a) _ rfl
  · exact .done rfl
  · exact hfg a

namespace Connection.Mirrors

variable {conn conn' : Connection σ} (M : conn.Mirrors R conn')

include M

lemma query (kind : StatementKind) (sql : String) (bindings : List Scalar) :
    (conn.query kind sql bindings).run.Mirrors R Eq (conn'.query kind sql bindings).run :=
  Attempt.mirrors_bind (M.prepare sql kind) fun handle =>
    (M.execute handle bindings).bind fun _ _ h => .act (M.destroy handle) fun _ => .done h

lemma runBuilt (built : Except Fault BoundStatement) :
    (conn.runBuilt built).run.Mirrors R Eq (conn'.runBuilt built).run :=
  Attempt.mirrors_bind (.done rfl) fun _ => M.query _ _ _

/-- **Every operation of a program** goes alike. -/
lemma perform (operation : Operation) :
    (conn.perform operation).run.Mirrors R Eq (conn'.perform operation).run := by
  have hpure : ∀ {α : Type} (r : Except Fault α),
      (Attempt.pureResult r : Attempt σ α).run.Mirrors R Eq
        (Attempt.pureResult r : Attempt σ α).run :=
    fun _ => .done rfl
  cases operation with
  | query kind sql bindings => exact Attempt.mirrors_bind (M.query _ _ _) fun _ => hpure (.ok _)
  | insert table row =>
    refine Attempt.mirrors_bind (Attempt.mirrors_bind (M.runBuilt _) fun outcome => ?_) fun _ =>
      hpure (.ok _)
    cases outcome with
    | inserted number => exact hpure (.ok _)
    | _ => exact hpure (.error _)
  | update table row =>
    exact Attempt.mirrors_bind (Attempt.mirrors_bind (M.runBuilt _) fun _ => hpure (.ok _)) fun _ =>
      hpure (.ok _)
  | delete table target =>
    exact Attempt.mirrors_bind (Attempt.mirrors_bind (M.runBuilt _) fun _ => hpure (.ok _)) fun _ =>
      hpure (.ok _)
  | read table key =>
    refine Attempt.mirrors_bind (Attempt.mirrors_bind (M.query _ _ _) fun outcome => ?_) fun _ =>
      hpure (.ok _)
    cases outcome with
    | rows set => exact hpure (.ok _)
    | _ => exact hpure (.error _)
  | prepare kind sql => exact Attempt.mirrors_bind (M.prepare sql kind) fun _ => hpure (.ok _)
  | execute statement bindings =>
    exact Attempt.mirrors_bind (M.execute statement bindings) fun _ => hpure (.ok _)
  | emit event => exact hpure (.ok _)

/-- **Every program** goes alike, if its futures do. -/
lemma meaning (program : Program σ) (hlifts : program.Lifts fun task => task.Blind R)
    (events : List Event) :
    (program.meaning conn events).Mirrors R Eq (program.meaning conn' events) := by
  induction program generalizing events with
  | finish | fail | skip => exact .done rfl
  | perform operation =>
    refine (M.perform operation).bind ?_
    rintro (fault | v) _ rfl <;> exact .done rfl
  | await task =>
    refine Task.Mirrors.bind (S := Eq) hlifts ?_
    rintro outcome _ rfl
    exact .done rfl
  | scope inner ih =>
    refine (ih hlifts events).bind ?_
    rintro told _ rfl
    exact .done rfl
  | andThen first next ihf ihn =>
    unfold Program.meaning
    refine (ihf hlifts.1 events).bind ?_
    rintro ⟨exit, events⟩ _ rfl
    cases exit with
    | value v => exact ihn v (hlifts.2 v) events
    | skipped | failed => exact .done rfl

lemma runOn (program : Program σ) (hlifts : program.Lifts fun task => task.Blind R) :
    (program.runOn conn).Mirrors R Eq (program.runOn conn') := by
  rw [program.runOn_eq_result, program.runOn_eq_result]
  refine (M.meaning program hlifts []).bind ?_
  rintro told _ rfl
  exact .done rfl

end Connection.Mirrors

lemma Sink.publishAll_alike (sink : Sink σ)
    (hsink : ∀ {s s'} event, R s s' → R (sink.publish event s) (sink.publish event s'))
    (events : List Event)
    {s s' : σ} (hs : R s s') : R (sink.publishAll events s) (sink.publishAll events s') := by
  unfold Sink.publishAll
  induction events generalizing s s' with
  | nil => exact hs
  | cons event rest ih => exact ih (hsink event hs)

namespace Run

variable [Host σ] (A : Host.Alike R) {conn conn' : Connection σ} (M : conn.Mirrors R conn')

include A M

lemma undo_mirrors (cause : Fault) : (undo conn cause).Mirrors R Eq (undo conn' cause) := by
  have hquiet : (rollbackQuietly conn cause).Mirrors R Eq (rollbackQuietly conn' cause) := by
    refine M.rollback.bind ?_
    rintro (fault | _) _ rfl
    · exact .change (A.report _)
    · exact .done rfl
  exact hquiet.bind fun _ _ _ => M.close.bind fun _ _ _ => .done rfl

lemma conclude_mirrors {sink : Sink σ}
    (hsink : ∀ {s s'} event, R s s' → R (sink.publish event s) (sink.publish event s'))
    (value : Value) (events : List Event) :
    (conclude conn sink value events).Mirrors R Eq (conclude conn' sink value events) := by
  refine M.commit.bind ?_
  rintro (fault | _) _ rfl
  · exact .act (A.report _) fun _ => undo_mirrors A M fault
  · exact M.close.bind fun _ _ _ => .act (sink.publishAll_alike hsink events) fun _ => .done rfl

/-- **The body of a run** goes alike, also if it is cut off at its limit. -/
lemma body_mirrors (limit : Option Duration) {program : Program σ}
    (hlifts : program.Lifts fun task => task.Blind R) :
    (body conn limit program).Mirrors R Eq (body conn' limit program) := by
  have hprogram := M.runOn program hlifts
  cases limit with
  | none => exact hprogram
  | some d =>
    refine (Task.within_mirrors A hprogram d.ceilMillis).bind ?_
    rintro (_ | ending) (_ | ending') h
    · exact .done rfl
    · exact h.elim
    · exact h.elim
    · exact .done h

/-- **A transaction** goes alike. -/
lemma on_mirrors {sink : Sink σ}
    (hsink : ∀ {s s'} event, R s s' → R (sink.publish event s) (sink.publish event s'))
    (limit : Option Duration) {program : Program σ}
    (hlifts : program.Lifts fun task => task.Blind R) :
    (on conn sink limit program).Mirrors R Eq (on conn' sink limit program) := by
  refine M.begin.bind ?_
  rintro (fault | _) _ rfl
  · exact M.close.bind fun _ _ _ => .done rfl
  refine (body_mirrors A M limit hlifts).bind ?_
  rintro ⟨fault | value, events⟩ _ rfl
  · exact undo_mirrors A M fault
  · exact conclude_mirrors A M hsink value events

end Run

namespace World

variable {R : World → World → Prop}

lemma Near.startLease (A : Near R) (base : Nat) {s s' : World} (hs : R s s') :
    (Pool.startWatchedLease base s).1 = (Pool.startWatchedLease base s').1
      ∧ R (Pool.startWatchedLease base s).2 (Pool.startWatchedLease base s').2 := by
  dsimp only [Pool.startWatchedLease, Pool.startLease]
  rw [A.leaseCount.get hs]
  exact ⟨rfl, A.spawn _ (A.leaseCount.set _ ((A.leases _).set _ hs))⟩

lemma Near.lease_mirrors (A : Near R) (base number : Nat) :
    (Memory.pool.lease base number : Lease World).connection.Mirrors R
      (Memory.pool.lease base number : Lease World).connection where
  begin := Lease.operate_blind A.toAlike (A.leases number) (Memory.plainCall_blind A base _ _)
  commit := Lease.operate_blind A.toAlike (A.leases number) (Memory.plainCall_blind A base _ _)
  rollback := Lease.operate_blind A.toAlike (A.leases number) (Memory.plainCall_blind A base _ _)
  prepare sql kind := Lease.operate_blind A.toAlike (A.leases number)
    (Memory.prepare_blind A base sql kind)
  execute handle bindings :=
    Lease.operate_blind A.toAlike (A.leases number) (Memory.execute_blind A base handle bindings)
  destroy handle hs := Lease.destroy_alike (A.leases number) handle
    (Memory.destroy_alike A base handle) hs
  close := Memory.shutdown_blind A base number .closed
  drop {s s'} hs := by
    show R (Lease.drop _ s) (Lease.drop _ s')
    have hcell : (Memory.pool.lease base number : Lease World).cell.Alike R := A.leases number
    unfold Lease.drop
    rw [hcell.get hs]
    split
    · exact hs
    · exact A.spawn _ hs

/-- **A whole run goes alike through two managers**, if everything does on the connections that they
hand out. -/
theorem Alike.run_mirrors (A : Alike R) {manager manager' : Manager World}
    (hpool : manager.pool = Memory.pool) (hpool' : manager'.pool = Memory.pool)
    (hsame : manager'.closed = manager.closed) (hclosed : manager.closed.Alike R)
    (hwrap : ∀ conn, Connection.Mirrors R conn conn →
      Connection.Mirrors R (manager.wrap conn) (manager'.wrap conn))
    {sink : Sink World} (hsink : ∀ {s s'} event, R s s' → R (sink.publish event s)
      (sink.publish event s'))
    (limit : Option Duration) {program : Program World}
    (hlifts : program.Lifts fun task => task.Blind R) :
    (runWith manager sink limit program).run.Mirrors R Eq
      (runWith manager' sink limit program).run := by
  obtain ⟨_, closed, wrapping, timeout⟩ := manager
  obtain ⟨_, closed', wrapping', timeout'⟩ := manager'
  obtain rfl : _ = Memory.pool := hpool
  obtain rfl : _ = Memory.pool := hpool'
  obtain rfl : closed = closed' := hsame.symm
  have hensure : (Manager.ensureOpen ⟨Memory.pool, closed, wrapping, timeout⟩).run.Mirrors R Eq
      (Manager.ensureOpen ⟨Memory.pool, closed, wrapping', timeout'⟩).run := by
    refine .act id fun {s s'} hs => ?_
    rw [hclosed.get hs]
    split <;> exact .done rfl
  have hlease : (Manager.lease ⟨Memory.pool, closed, wrapping, timeout⟩).run.Mirrors R
      (fun r r' => (∃ fault, r = .error fault ∧ r' = .error fault)
        ∨ ∃ conn conn', r = .ok conn ∧ r' = .ok conn' ∧ Connection.Mirrors R conn conn')
      (Manager.lease ⟨Memory.pool, closed, wrapping', timeout'⟩).run := by
    refine hensure.bind ?_
    rintro (fault | _) _ rfl
    · exact .done (.inl ⟨fault, rfl, rfl⟩)
    refine (Memory.checkout_blind A).bind ?_
    rintro (fault | base) _ rfl
    · exact .done (.inl ⟨fault, rfl, rfl⟩)
    refine .act (fun hs => (A.near.startLease base hs).2) fun hs =>
      .done (.inr ⟨_, _, rfl, rfl, ?_⟩)
    rw [(A.near.startLease base hs).1]
    exact hwrap _ (A.near.lease_mirrors base _)
  refine hlease.bind ?_
  rintro _ _ (⟨fault, rfl, rfl⟩ | ⟨conn, conn', rfl, rfl, M⟩)
  · exact .done rfl
  · exact (Run.on_mirrors A.toAlike M hsink limit hlifts).holding M.drop

end World

end Transactional
