import Transactional.Proofs.Ending.EndState

/-!
# What the tasks on a lease make of its end

Operations make nothing of it; those who close the lease, the job that does so for somebody else,
and the one that looks out go from one role to the next.  This is so for any connection beneath that
leaves the lease alone and whose own end lasts, and every task may be given up wherever it waits.

* `Pool.SparesLease` — such a connection beneath, and a pool that leaves the lease alone, too.
* `Pool.endDiscipline` — the discipline of the tasks on a lease, with roles for stages.
* `Pool.SparesLease.call_obeys`, `Pool.SparesLease.shutdown_obeys`, `Pool.SparesLease.watch_obeys` —
  they keep to it.
* `Pool.SparesLease.shutdownNow_steps` — the end of a lease where nothing can wait, as three such
  steps.
-/

namespace Transactional

namespace Task

namespace Respects

variable {R : σ → σ → Prop} {task : Task σ α} {tidy : σ → σ}

lemma act {update : σ → σ} {next : σ → Task σ α} (h : ∀ s, R s (update s))
    (hnext : ∀ s, (next s).Respects (fun _ => True) R) :
    (Task.act update next).Respects (fun _ => True) R :=
  fun s _ => ⟨(), h s, hnext s⟩

lemma guarded (h : task.Respects (fun _ => True) R)
    (htidy : ∀ {s s'}, R s s' → R s (tidy s')) : (task.guarded tidy).Respects (fun _ => True) R :=
  Obeys.guarded (h.mono (fun _ _ hf s _ => htidy (hf s trivial)) fun _ _ => id)

lemma holding (h : task.Respects (fun _ => True) R) (htidy : ∀ {s s'}, R s s' → R s (tidy s'))
    (hlast : ∀ s, R s (tidy s)) : (task.holding tidy).Respects (fun _ => True) R :=
  Obeys.bind (h.guarded htidy) fun _ _ _ s _ => ⟨(), hlast s, trivial⟩

end Respects

end Task

namespace Pool

variable [LeaseHost σ] {ρ : Type}

/-- **What concerns nothing but the connection beneath**: the lease is as it was, the pool has got
nothing back, and the connection beneath has ended as it had, if it had. -/
structure BaseOnly (pool : Pool σ) (base number : Nat) (heard : σ → List ρ) (s s' : σ) : Prop where
  lease : (LeaseHost.leases number).get s' = (LeaseHost.leases number).get s
  heard : heard s' = heard s
  ended : ∀ {status}, (pool.connection base).watch.ending? s = some status →
    (pool.connection base).watch.ending? s' = some status

/-- **The connection beneath and the pool leave the lease alone**, and an end of the connection
beneath lasts.  `heard` is what the pool has got back, which nothing changes but giving back. -/
structure SparesLease (pool : Pool σ) (base number : Nat) (heard : σ → List ρ) : Prop where
  apart : (pool.lease base number).Apart
  heard_cell : ∀ v s, heard ((LeaseHost.leases number).set v s) = heard s
  heard_schedule : ∀ c s, heard (Host.schedule.set c s) = heard s
  heard_traces : ∀ t s, heard (Host.traces.set t s) = heard s
  calls : (pool.connection base).Respects (fun _ => True) (pool.BaseOnly base number heard)
  drop : ∀ s, pool.BaseOnly base number heard s ((pool.connection base).drop s)
  lease_giveBack : ∀ s, (LeaseHost.leases number).get (pool.giveBack (pool.connection base) s)
    = (LeaseHost.leases number).get s
  ended_giveBack : ∀ s {status}, (pool.connection base).watch.ending? s = some status →
    (pool.connection base).watch.ending? (pool.giveBack (pool.connection base) s) = some status

end Pool

/-- What is known of the end of a lease that remembers this. -/
def LeaseState.endState (state : LeaseState) (back : Prop) (ended : Option Status) : EndState where
  closed := state.closed
  status := state.signal.status
  version := state.signal.version
  released := state.listening = false ∨ back
  ended := ended

namespace Pool

variable [LeaseHost σ] {ρ : Type}

/-- **What is known of the end of a lease**; `before` is what the pool had got back when it began.
-/
def endState (pool : Pool σ) (base number : Nat) (heard : σ → List ρ) (before : List ρ) (s : σ) :
    EndState :=
  ((LeaseHost.leases number).get s).endState (heard s ≠ before)
    ((pool.connection base).watch.ending? s)

/-- A change that makes nothing of the end of a lease. -/
abbrev Calm (pool : Pool σ) (base number : Nat) (heard : σ → List ρ) (before : List ρ)
    (s s' : σ) : Prop :=
  (pool.endState base number heard before s).Grows (pool.endState base number heard before s')

/-- **The discipline of the tasks on a lease.** -/
def endDiscipline (pool : Pool σ) (base number : Nat) (heard : σ → List ρ) (before : List ρ) :
    Discipline σ EndRole where
  knows _ _ := True
  may p s q s' :=
    p.Step (pool.endState base number heard before s) q (pool.endState base number heard before s')
  waits _ _ := True

/-- A task that waits may be given up: that makes nothing of the end. -/
def Idly (pool : Pool σ) (base number : Nat) (heard : σ → List ρ) (before : List ρ) (_ : EndRole)
    (f : σ → σ) : Prop :=
  ∀ s, pool.Calm base number heard before s (f s)

variable {pool : Pool σ} {base number : Nat} {heard : σ → List ρ} {before : List ρ} {s s' : σ}

lemma BaseOnly.calm (h : pool.BaseOnly base number heard s s') :
    pool.Calm base number heard before s s' :=
  ⟨by simp only [endState, LeaseState.endState, h.lease, h.heard], h.ended⟩

namespace SparesLease

variable (H : pool.SparesLease base number heard)

include H

lemma heard_of_still (h : Host.Still (pool.lease base number).cell s s') : heard s' = heard s :=
  h.same heard H.heard_cell (fun c s _ => H.heard_schedule c s) H.heard_traces

lemma endState_of_still (h : Host.Still (pool.lease base number).cell s s') :
    pool.endState base number heard before s' = ((LeaseHost.leases number).get s').endState
      (heard s ≠ before) ((pool.connection base).watch.ending? s) := by
  have hended : (pool.connection base).watch.ending? s' = (pool.connection base).watch.ending? s :=
    H.apart.ended_of_still h
  rw [endState, H.heard_of_still h, hended]

lemma endState_modify (f : LeaseState → LeaseState) (s : σ) :
    pool.endState base number heard before ((pool.lease base number).cell.modify f s)
      = (f ((LeaseHost.leases number).get s)).endState (heard s ≠ before)
          ((pool.connection base).watch.ending? s) := by
  have hget : (LeaseHost.leases number).get ((pool.lease base number).cell.modify f s)
      = f ((LeaseHost.leases number).get s) := Cell.get_modify _ _ _
  rw [H.endState_of_still (.modify f s), hget]

lemma calm_modify {f : LeaseState → LeaseState}
    (hf : ∀ state back ended, (f state).endState back ended = state.endState back ended) (s : σ) :
    pool.Calm base number heard before s ((pool.lease base number).cell.modify f s) := by
  rw [Calm, H.endState_modify, hf]
  exact .refl _

lemma calm_of_still_lock (h : Host.Still (pool.lease base number).lock s s') :
    pool.Calm base number heard before s s' := by
  rw [Calm, H.endState_of_still h.of_comp,
    show (LeaseHost.leases number).get s' = _ from H.apart.get_of_still_lock h]
  exact .refl _

lemma calm_report (trace : Trace) (s : σ) :
    pool.Calm base number heard before s (Host.report trace s) := by
  rw [Calm, H.endState_of_still (.report trace s),
    show (LeaseHost.leases number).get (Host.report trace s) = _ from H.apart.traces _ s]
  exact .refl _

lemma calm_schedule (f : Schedule → Schedule) (s : σ) :
    pool.Calm base number heard before s (Host.schedule.modify f s) := by
  rw [Calm, endState, endState,
    show (LeaseHost.leases number).get (Host.schedule.modify f s) = _ from H.apart.schedule _ s,
    show heard (Host.schedule.modify f s) = _ from H.heard_schedule _ s,
    show (pool.connection base).watch.ending? (Host.schedule.modify f s)
      = _ from H.apart.ended_schedule _ s]
  exact .refl _

lemma calm_join (self : TaskId) (s : σ) :
    pool.Calm base number heard before s ((pool.lease base number).watching.register self s) := by
  have hstill : Host.Still (pool.lease base number).cell s
      ((pool.lease base number).watching.register self s) := (Lease.inward_join self s).still
  have hget : (LeaseHost.leases number).get ((pool.lease base number).watching.register self s)
      = { (LeaseHost.leases number).get s with
          signal := ((LeaseHost.leases number).get s).signal.join self } := Cell.get_set _ _ _
  have hjoin : ∀ signal : Signal, (signal.join self).status = signal.status
      ∧ (signal.join self).version = signal.version := by
    intro signal
    unfold Signal.join
    split <;> exact ⟨rfl, rfl⟩
  rw [Calm, H.endState_of_still hstill, hget, LeaseState.endState, (hjoin _).1, (hjoin _).2]
  exact .refl _

lemma calm_release (s : σ) :
    pool.Calm base number heard before s (Semaphore.release (pool.lease base number).lock s) :=
  H.calm_of_still_lock (Semaphore.Usable.still_updating _ s)

lemma calm_drop (s : σ) : pool.Calm base number heard before s
    ((pool.lease base number).drop s) := by
  unfold Lease.drop
  split
  · exact .refl _
  · exact H.calm_schedule _ s

lemma calm_destroy (handle : StatementHandle) (s : σ) :
    pool.Calm base number heard before s ((pool.lease base number).destroy handle s) := by
  have hforget : pool.Calm base number heard before s
      ((pool.lease base number).cell.modify (LeaseState.forget handle) s) :=
    H.calm_modify (f := LeaseState.forget handle) (fun _ _ _ => rfl) s
  unfold Lease.destroy
  dsimp only
  split
  · exact hforget.trans (H.calls.destroy handle _ trivial).calm
  · exact hforget

lemma calm_destroyAll (handles : List StatementHandle) (s : σ) :
    pool.Calm base number heard before s ((pool.lease base number).destroyAll handles s) := by
  induction handles generalizing s with
  | nil => exact .refl _
  | cons handle rest ih => exact (H.calls.destroy handle s trivial).calm.trans (ih _)

/-! ## Operations -/

lemma acquire_respects : (Semaphore.acquire (pool.lease base number).lock).Respects (fun _ => True)
    (pool.Calm base number heard before) :=
  (Semaphore.acquire_respects _).imp fun _ _ _ h => H.calm_of_still_lock h

lemma enter_respects : (pool.lease base number).enter.run.Respects (fun _ => True)
    (pool.Calm base number heard before) := by
  refine Task.Respects.act (fun s => .refl _) fun s => ?_
  split
  · trivial
  refine Task.Obeys.bind H.acquire_respects fun _ _ _ => ?_
  refine Task.Respects.act (fun s => .refl _) fun s => ?_
  split
  · exact Task.Respects.act H.calm_release fun _ => trivial
  · trivial

lemma operate_respects {operation : Attempt σ α} {after : α → LeaseState → LeaseState}
    (hafter : ∀ a state back ended, (after a state).endState back ended = state.endState back ended)
    (h : operation.run.Respects (fun _ => True) (pool.BaseOnly base number heard)) :
    ((pool.lease base number).operate operation after).run.Respects (fun _ => True)
      (pool.Calm base number heard before) := by
  refine Task.Obeys.bind H.enter_respects fun entered _ _ => ?_
  cases entered with
  | error fault => trivial
  | ok =>
    refine Task.Respects.holding ?_ (fun hcalm => hcalm.trans (H.calm_release _)) H.calm_release
    refine Task.Obeys.bind (h.imp fun _ _ _ hbase => hbase.calm) fun r _ _ => ?_
    cases r with
    | error fault => trivial
    | ok a => exact Task.Respects.act (H.calm_modify (hafter a)) fun _ => trivial

/-- What comes before the connection beneath is given back makes nothing more of the end. -/
lemma tidyTransaction_respects : (Task.guarded (pool.connection base).drop
    (pool.lease base number).tidyTransaction).Respects (fun _ => True)
      (pool.Calm base number heard before) := by
  refine Task.Respects.guarded ?_ fun hcalm => hcalm.trans (H.drop _).calm
  refine Task.Respects.act (H.calm_modify fun _ _ _ => rfl) fun s => ?_
  split
  · refine Task.Obeys.bind (H.calls.rollback.imp fun _ _ _ hbase => hbase.calm) fun r _ _ => ?_
    cases r with
    | error fault => exact Task.Respects.act (H.calm_report _) fun _ => trivial
    | ok => trivial
  · trivial

/-! ## Those who end the lease -/

omit H in
lemma obeys_of_calm {task : Task σ α}
    (h : task.Respects (fun _ => True) (pool.Calm base number heard before)) (p : EndRole) :
    task.Obeys (pool.endDiscipline base number heard before) (pool.Idly base number heard before)
      (fun _ q => q = p) p :=
  Task.Obeys.of_respects h (fun _ _ => trivial) (fun _ _ _ => EndRole.step_of_grows)
    (fun _ _ => trivial) fun _ hf s => hf s trivial

/-- **Giving the connection beneath back**, by somebody who has told everybody of the end. -/
lemma step_release (h : pool.Calm base number heard before s s') :
    EndRole.told.Step (pool.endState base number heard before s) .told
      (pool.endState base number heard before ((pool.lease base number).release s')) := by
  unfold Lease.release
  split
  · set s₁ := (pool.lease base number).cell.modify
      (fun state => { state with listening := false }) s'
    have hlease : (LeaseHost.leases number).get (pool.giveBack (pool.connection base) s₁)
        = { (LeaseHost.leases number).get s' with listening := false } :=
      (H.lease_giveBack s₁).trans (Cell.get_modify _ _ _)
    have hclosed : ((LeaseHost.leases number).get s').closed
        = ((LeaseHost.leases number).get s).closed := congrArg EndState.closed h.eq
    have hstatus : ((LeaseHost.leases number).get s').signal.status
        = ((LeaseHost.leases number).get s).signal.status := congrArg EndState.status h.eq
    have hversion : ((LeaseHost.leases number).get s').signal.version
        = ((LeaseHost.leases number).get s).signal.version := congrArg EndState.version h.eq
    refine ⟨_, .giveBack _ (pool.endState base number heard before
      (pool.giveBack (pool.connection base) s₁)).released, ?_, fun hended => ?_⟩
    · show pool.endState base number heard before (pool.giveBack (pool.connection base) s₁) = _
      simp only [endState, LeaseState.endState, hlease, hclosed, hstatus, hversion]
      rfl
    · refine H.ended_giveBack s₁ ?_
      rw [show (pool.connection base).watch.ending? s₁ = _ from H.apart.ended_cell _ s']
      exact h.ended hended
  · exact EndRole.step_of_grows (h.trans (H.drop s').calm)

omit H in
lemma endState_finish (state : LeaseState) (status : Status) (back : Prop) (ended : Option Status) :
    LeaseState.endState { state with signal := (state.signal.finish status).2 } back ended
      = (state.endState back ended).tell status := by
  by_cases hterminal : state.signal.status.isTerminal = true
  · simp [LeaseState.endState, Signal.finish, EndState.tell, hterminal]
  · simp [LeaseState.endState, Signal.finish, EndState.tell, hterminal]

lemma get_finishAt (status : Status) (s : σ) :
    (LeaseHost.leases number).get (Signal.finishAt (pool.lease base number).signal status s)
      = { (LeaseHost.leases number).get s with
          signal := (((LeaseHost.leases number).get s).signal.finish status).2 } :=
  H.apart.get_finishAt status s

/-- **Telling everybody of the end.** -/
lemma step_tell {status : Status} (hstill : Host.Still (pool.lease base number).cell s s')
    (h : ∀ back ended, ((LeaseHost.leases number).get s').endState back ended
      = (((LeaseHost.leases number).get s).endState back ended).tell status) :
    (EndRole.ending status).Step (pool.endState base number heard before s) .told
      (pool.endState base number heard before s') := by
  refine ⟨_, .tell _ status, ?_⟩
  rw [H.endState_of_still hstill, h]
  exact .refl _

lemma step_surrender (status : Status) (s : σ) :
    (EndRole.ending status).Step (pool.endState base number heard before s) .told
      (pool.endState base number heard before ((pool.lease base number).surrender status s)) := by
  have hget : (LeaseHost.leases number).get ((pool.lease base number).surrender status s) = _ :=
    H.apart.get_surrender status s
  refine H.step_tell (Lease.still_surrender status s) fun back ended => ?_
  rw [hget, ← endState_finish]
  rfl

/-- **Marking the lease as closed.** -/
lemma step_begin (status : Status) {f : LeaseState → LeaseState}
    (hf : ∀ state back ended, (f state).endState back ended
      = { state.endState back ended with closed := true })
    (h : ((LeaseHost.leases number).get s).closed = false) :
    (EndRole.bound status).Step (pool.endState base number heard before s) (.ending status)
      (pool.endState base number heard before ((pool.lease base number).cell.modify f s)) := by
  refine ⟨_, .begin _ status h, ?_⟩
  rw [H.endState_modify, hf]
  exact .refl _

/-- **The end of a lease keeps to the discipline.** -/
theorem shutdown_obeys (status : Status) :
    ((pool.lease base number).shutdown status).Obeys (pool.endDiscipline base number heard before)
      (pool.Idly base number heard before) (fun _ _ => True) (.bound status) := by
  intro s _
  cases hclosed : ((LeaseHost.leases number).get s).closed with
  | true =>
    refine ⟨.bound status, EndRole.step_of_grows ?_, ?_⟩
    · rw [H.endState_modify, ← hclosed]
      exact .refl _
    · have hmark : ((pool.lease base number).cell.get s).closed = true := hclosed
      simp [hmark, Task.Obeys]
  | false =>
    refine ⟨.ending status, H.step_begin status (fun _ _ _ => rfl) hclosed, ?_⟩
    have hmark : ((pool.lease base number).cell.get s).closed = false := hclosed
    simp only [hmark]
    refine Task.Obeys.bind (obeys_of_calm H.acquire_respects _) ?_
    rintro _ _ rfl s -
    refine ⟨.told, H.step_surrender status s, ?_⟩
    dsimp only
    split
    · trivial
    split
    · refine Task.Obeys.bind (obeys_of_calm H.tidyTransaction_respects _) ?_
      rintro _ _ rfl s -
      exact ⟨.told, H.step_release (H.calm_destroyAll _ s), trivial⟩
    · exact fun s _ => ⟨.told, H.step_release (.refl _), trivial⟩

/-- **Looking out for the end of the connection beneath keeps to the discipline.** -/
theorem watch_obeys (ownFirst : Bool) :
    ((pool.lease base number).watch ownFirst).Obeys (pool.endDiscipline base number heard before)
      (pool.Idly base number heard before) (fun _ _ => True) .lookout := by
  refine ⟨trivial, fun s => .refl _, fun self s _ => ?_, fun s _ _ =>
    ⟨.lookout, EndRole.step_of_grows (.refl _), fun s _ => ?_⟩⟩
  · exact EndRole.step_of_grows ((H.calls.register self s trivial).calm.trans (H.calm_join self _))
  cases hended : (pool.connection base).watch.ending? s with
  | none =>
    refine ⟨.lookout, EndRole.step_of_grows (.refl _), ?_⟩
    have hbase : (pool.lease base number).base.watch.ending? s = none := hended
    simp [hbase, Task.Obeys]
  | some status =>
    have hbase : (pool.lease base number).base.watch.ending? s = some status := hended
    refine ⟨.bound status, ⟨_, .report _ hended (Watch.isTerminal_of_ending hended), .refl _⟩, ?_⟩
    simp only [hbase]
    split
    · trivial
    · exact H.shutdown_obeys status

/-- **Every call keeps to the discipline**: those that are meant to end the lease are going to. -/
theorem call_obeys (call : LeaseCall) :
    (call.task (pool.lease base number).connection).Obeys
      (pool.endDiscipline base number heard before)
      (pool.Idly base number heard before) (fun _ _ => True)
      (if call.ends then .bound .closed else .bystander) := by
  have hoperate : ∀ {α : Type} {operation : Attempt σ α} {after : α → LeaseState → LeaseState},
      (∀ a state back ended, (after a state).endState back ended = state.endState back ended) →
      operation.run.Respects (fun _ => True) (pool.BaseOnly base number heard) →
      (((pool.lease base number).operate operation after).run.bind fun _ => .done ()).Obeys
        (pool.endDiscipline base number heard before) (pool.Idly base number heard before)
        (fun _ _ => True) .bystander := fun hafter h =>
    Task.Obeys.bind (obeys_of_calm (H.operate_respects hafter h) _) fun _ _ _ => trivial
  have hchange : ∀ {f : σ → σ} {p : EndRole}, (∀ s, pool.Calm base number heard before s (f s)) →
      (Task.change f).Obeys (pool.endDiscipline base number heard before)
        (pool.Idly base number heard before) (fun _ _ => True) p := fun hcalm s _ =>
    ⟨_, EndRole.step_of_grows (hcalm s), trivial⟩
  cases call with
  | connect => exact hoperate (fun _ _ _ _ => rfl) H.calls.connect
  | begin => exact hoperate (fun _ _ _ _ => rfl) H.calls.begin
  | commit => exact hoperate (fun _ _ _ _ => rfl) H.calls.commit
  | rollback => exact hoperate (fun _ _ _ _ => rfl) H.calls.rollback
  | prepare sql kind => exact hoperate (fun _ _ _ _ => rfl) (H.calls.prepare sql kind)
  | execute handle bindings => exact hoperate (fun _ _ _ _ => rfl) (H.calls.execute handle bindings)
  | destroy handle => exact hchange (H.calm_destroy handle)
  | close => exact H.shutdown_obeys .closed
  | drop => exact hchange H.calm_drop

/-- **Ending the lease where nothing can wait** is all of this at once. -/
theorem shutdownNow_steps (s : σ) :
    ∃ q, (EndRole.bound .closed).Steps (pool.endState base number heard before s) q
      (pool.endState base number heard before ((pool.lease base number).shutdownNow s)) := by
  unfold Lease.shutdownNow
  split
  next => exact ⟨_, .done _ _⟩
  next hopen =>
    dsimp only
    set s₁ := (pool.lease base number).cell.modify
      (fun state => { state with closed := true, statements := [] }) s
    set s₂ := Signal.finishAt (pool.lease base number).signal .closed s₁
    have hbegin : (EndRole.bound .closed).Step (pool.endState base number heard before s)
        (.ending .closed) (pool.endState base number heard before s₁) :=
      H.step_begin .closed (fun _ _ _ => rfl) (Bool.eq_false_iff.mpr hopen)
    have htell : (EndRole.ending .closed).Step (pool.endState base number heard before s₁) .told
        (pool.endState base number heard before s₂) := by
      refine H.step_tell (Lease.still_finishAt .closed s₁) fun back ended => ?_
      rw [H.get_finishAt, endState_finish]
    refine ⟨.told, .step hbegin (.step htell ?_)⟩
    split
    · have hcalm : pool.Calm base number heard before s₂
          ((pool.lease base number).cell.modify
            (fun state => { state with holdsBase := false }) s₂) :=
        H.calm_modify (f := fun state => { state with holdsBase := false }) (fun _ _ _ => rfl) s₂
      exact .step (H.step_release hcalm) (.done _ _)
    · exact .done _ _

end SparesLease

end Pool

end Transactional
