import Transactional.Lease
import Transactional.Proofs.Task.Mirror

/-!
# What goes alike on states that are alike

Two states are alike if they are the same in all that somebody uses, whatever else is different.
Then taking permits, waiting for the clock, and using and ending leases go alike on both.

* `Cell.Alike`, `Host.Alike` — being alike in a part, and in the schedule.
* `Task.within_mirrors` — tasks with a limit.
* `Semaphore.acquire_blind` — permits.
* `Lease.operate_blind`, `Lease.shutdown_blind`, `Lease.watch_blind` — leases.
-/

namespace Transactional

variable {R : σ → σ → Prop} {s s' : σ}

/-- **Alike in a part**: it is the same in both states, and they stay alike when it is replaced. -/
structure Cell.Alike (R : σ → σ → Prop) (cell : Cell σ τ) : Prop where
  get : ∀ {s s'}, R s s' → cell.get s = cell.get s'
  set : ∀ {s s'} (v : τ), R s s' → R (cell.set v s) (cell.set v s')

namespace Cell.Alike

variable {cell : Cell σ τ}

lemma modify (h : cell.Alike R) (f : τ → τ) (hs : R s s') :
    R (cell.modify f s) (cell.modify f s') := by
  rw [Cell.modify, Cell.modify, h.get hs]
  exact h.set _ hs

lemma comp (h : cell.Alike R) (inner : Cell τ ρ) : (cell.comp inner).Alike R where
  get hs := congrArg inner.get (h.get hs)
  set v hs := by
    show R (cell.set _ _) (cell.set _ _)
    rw [h.get hs]
    exact h.set _ hs

end Cell.Alike

/-- **Alike in the schedule**, as far as anything depends on it; and reports do not matter. -/
structure Host.Alike [Host σ] (R : σ → σ → Prop) : Prop where
  allowance : ∀ {s s'}, R s s' → (schedule.get s).allowance = (schedule.get s').allowance
  now : ∀ {s s'}, R s s' → Host.now s = Host.now s'
  takeTicket : ∀ {s s'}, R s s' → R (Host.takeTicket s).2 (Host.takeTicket s').2
  timer : ∀ {s s'} (deadline : Nat), R s s' →
    (Task.timer (Host.takeTicket s).1 deadline).Mirrors R
      (Task.timer (Host.takeTicket s').1 deadline)
  spend : ∀ {s s'}, R s s' → R (Task.spend s) (Task.spend s')
  stepAside : ∀ {s s'} (self : TaskId), R s s' →
    R (schedule.modify (Schedule.stepAside self) s) (schedule.modify (Schedule.stepAside self) s')
  wake : ∀ {s s'} (task : TaskId), R s s' → R (Host.wake task s) (Host.wake task s')
  spawn : ∀ {s s'} (job : Job), R s s' → R (Host.spawn job s) (Host.spawn job s')
  report : ∀ {s s'} (trace : Trace), R s s' → R (Host.report trace s) (Host.report trace s')

/-- **Waiting for the same timer** goes alike, if setting it and taking it back do. -/
lemma Task.timer_mirrors [Host σ] (hnow : ∀ {s s'}, R s s' → Host.now s = Host.now s')
    (harm : ∀ {s s'} (timer : Timer), R s s' →
      R (Host.schedule.modify (Schedule.arm timer) s)
        (Host.schedule.modify (Schedule.arm timer) s'))
    (hdisarm : ∀ {s s'} (ticket : Nat), R s s' →
      R (Host.schedule.modify (Schedule.disarm ticket) s)
        (Host.schedule.modify (Schedule.disarm ticket) s'))
    {ticket ticket' : Nat} (h : ticket = ticket') (deadline : Nat) :
    (timer ticket deadline : Wait σ).Mirrors R (timer ticket' deadline) := by
  subst h
  exact { ready := fun hs => by simp only [timer, hnow hs]
          register := fun self hs => harm ⟨deadline, ticket, self⟩ hs
          abandon := fun hs => hdisarm ticket hs }

lemma Host.alike_of_schedule [Host σ] (h : Host.schedule.Alike R)
    (hreport : ∀ {s s'} (trace : Trace), R s s' → R (Host.report trace s) (Host.report trace s')) :
    Host.Alike R where
  allowance hs := congrArg Schedule.allowance (h.get hs)
  now hs := congrArg Schedule.now (h.get hs)
  takeTicket hs := h.modify (fun c => { c with nextTicket := c.nextTicket + 1 }) hs
  timer deadline hs := Task.timer_mirrors (fun hs => congrArg Schedule.now (h.get hs))
    (fun _ => h.modify _)
    (fun _ => h.modify _) (congrArg Schedule.nextTicket (h.get hs)) deadline
  spend hs := h.modify _ hs
  stepAside _ hs := h.modify _ hs
  wake _ hs := h.modify _ hs
  spawn _ hs := h.modify _ hs
  report := hreport

namespace Host.Alike

variable [Host σ] (A : Host.Alike R)

include A

lemma wakeAll (tasks : List TaskId) (hs : R s s') :
    R (Host.wakeAll tasks s) (Host.wakeAll tasks s') := by
  induction tasks generalizing s s' with
  | nil => exact hs
  | cons task rest ih => exact ih (A.wake task hs)

lemma finishAt {cell : Cell σ Signal} (hcell : cell.Alike R) (status : Status) (hs : R s s') :
    R (Signal.finishAt cell status s) (Signal.finishAt cell status s') := by
  unfold Signal.finishAt
  dsimp only
  rw [hcell.get hs]
  split
  · exact A.wakeAll _ (hcell.set _ hs)
  · exact hs

lemma pause : (Task.pause : Wait σ).Mirrors R Task.pause where
  ready hs := by simp only [Task.pause, A.allowance hs]
  register self hs := A.stepAside self hs
  abandon hs := hs

lemma paced {on on' : Wait σ} (h : on.Mirrors R on') :
    (Task.paced on).Mirrors R (Task.paced on') where
  ready hs := by simp only [Task.paced, A.pause.ready hs, h.ready hs]
  register self hs := by
    simp only [Task.paced, A.pause.ready hs]
    split
    · exact h.register self hs
    · exact A.pause.register self hs
  abandon hs := h.abandon hs

end Host.Alike

namespace Task

variable [Host σ] (A : Host.Alike R)

include A

lemma takeTimer_mirrors (ms : Nat) :
    (takeTimer ms : Task σ (Wait σ)).Mirrors R (Wait.Mirrors R) (takeTimer ms) := by
  refine .step (fun {s s'} hs => ?_) A.takeTicket
  dsimp only
  rw [A.now hs]
  exact A.timer _ hs

/-- **Tasks that are cut off at their limit** go alike. -/
lemma within_mirrors {S : α → β → Prop} {task : Task σ α} {task' : Task σ β}
    (h : task.Mirrors R S task') (ms : Nat) :
    (task.within ms).Mirrors R (Agree S) (task'.within ms) :=
  (takeTimer_mirrors A ms).bind fun _ _ hclock => h.race hclock A.spend

end Task

/-! ## Permits -/

namespace Semaphore

variable [Host σ] (A : Host.Alike R) {cell : Cell σ Semaphore} (hcell : cell.Alike R)

include A hcell

lemma updating_alike (f : Semaphore → List TaskId × Semaphore) (hs : R s s') :
    R (updating cell f s) (updating cell f s') := by
  unfold updating
  rw [hcell.get hs]
  exact A.wakeAll _ (hcell.set _ hs)

lemma release_alike (hs : R s s') : R (release cell s) (release cell s') :=
  updating_alike A hcell handOver hs

lemma ask_alike (hs : R s s') : R (ask cell s) (ask cell s') := by
  unfold ask
  dsimp only
  rw [hcell.get hs]
  split
  · exact A.spend hs
  · split
    · exact A.spend (hcell.modify take hs)
    · exact hcell.set _ hs

lemma inLine_mirrors (ticket : Nat) : (inLine cell ticket).Mirrors R (inLine cell ticket) where
  ready hs := by simp only [inLine, hcell.get hs]
  register {_ _} self hs := hcell.modify (fun semaphore =>
    { semaphore with
      waiting := semaphore.waiting.map fun e => if e.1
        = ticket then (ticket, some self) else e }) hs
  abandon hs := updating_alike A hcell (withdraw ticket) hs

lemma afterWait_blind (ticket : Nat) : (afterWait cell ticket).Blind R := by
  refine .act (fun {s s'} hs => ?_) fun hs => .done (by rw [hcell.get hs])
  rw [hcell.get hs]
  split
  · exact updating_alike A hcell _ (A.spend hs)
  · exact A.spend (hcell.modify _ hs)

/-- **Waiting for a permit** goes alike. -/
lemma acquire_blind : (acquire cell).Blind R := by
  refine .wait A.pause (.act (ask_alike A hcell) fun {s s'} hs => ?_)
  dsimp only
  rw [hcell.get hs]
  split
  · exact .done rfl
  · split
    · exact .done rfl
    · exact .wait (A.paced (inLine_mirrors A hcell _)) (afterWait_blind A hcell _)

end Semaphore

/-! ## Leases -/

namespace Lease

variable [Host σ] (A : Host.Alike R) {lease : Lease σ} (hcell : lease.cell.Alike R)

include A hcell

omit [Host σ] A in
lemma lock_alike : lease.lock.Alike R := hcell.comp _

lemma enter_blind : lease.enter.run.Blind R := by
  refine .act id fun {s s'} hs => ?_
  rw [hcell.get hs]
  split
  · exact .done rfl
  · refine (Semaphore.acquire_blind A (lock_alike hcell)).bind fun _ _ _ => .act id
      fun {s s'} hs => ?_
    rw [hcell.get hs]
    split
    · exact .act (Semaphore.release_alike A (lock_alike hcell)) fun _ => .done rfl
    · exact .done rfl

/-- **An operation through a lease** goes alike, if it does beneath. -/
lemma operate_blind {operation : Attempt σ α} {after : α → LeaseState → LeaseState}
    (h : operation.run.Blind R) : (lease.operate operation after).run.Blind R := by
  refine (enter_blind A hcell).bind ?_
  rintro (fault | _) _ rfl
  · exact .done rfl
  · refine Task.Mirrors.holding (Semaphore.release_alike A (lock_alike hcell)) (h.bind ?_)
    rintro (fault | a) _ rfl
    · exact .done rfl
    · exact .act (hcell.modify _) fun _ => .done rfl

omit [Host σ] A in
lemma destroy_alike (handle : StatementHandle)
    (h : ∀ {s s'}, R s s' → R (lease.base.destroy handle s) (lease.base.destroy handle s'))
    (hs : R s s') : R (lease.destroy handle s) (lease.destroy handle s') := by
  have hforget := hcell.modify (LeaseState.forget handle) hs
  unfold destroy
  dsimp only
  rw [hcell.get hforget]
  split
  · exact h hforget
  · exact hforget

lemma surrender_alike (status : Status) (hs : R s s') :
    R (lease.surrender status s) (lease.surrender status s') := by
  have hheld := hcell.modify (fun state => { state with holdsBase := false }) hs
  have hreleased := Semaphore.release_alike A (lock_alike hcell) hheld
  exact A.finishAt (hcell.comp _) status (hcell.modify _ hreleased)

variable (hrollback : lease.base.rollback.run.Blind R)
  (hdestroy : ∀ {s s'} (handle : StatementHandle), R s s' →
    R (lease.base.destroy handle s) (lease.base.destroy handle s'))
  (hdrop : ∀ {s s'}, R s s' → R (lease.base.drop s) (lease.base.drop s'))
  (hgiveBack : ∀ {s s'}, R s s' → R (lease.giveBack s) (lease.giveBack s'))

include hdrop hgiveBack

omit [Host σ] A in
lemma release_alike (hs : R s s') : R (lease.release s) (lease.release s') := by
  unfold release
  rw [hcell.get hs]
  split
  · exact hgiveBack (hcell.modify _ hs)
  · exact hdrop hs

include hrollback hdestroy

lemma tidy_blind (handles : List StatementHandle) : (lease.tidy handles).Blind R := by
  have htransaction : lease.tidyTransaction.Blind R := by
    refine .act (hcell.modify _) fun {s s'} hs => ?_
    rw [hcell.get hs]
    split
    · refine hrollback.bind ?_
      rintro (fault | _) _ rfl
      · exact .act (A.report _) fun _ => .done rfl
      · exact .done rfl
    · exact .done rfl
  have hall : ∀ {s s'}, R s s' → R (lease.destroyAll handles s) (lease.destroyAll handles s') := by
    intro s s' hs
    unfold destroyAll
    induction handles generalizing s s' with
    | nil => exact hs
    | cons handle rest ih => exact ih (hdestroy handle hs)
  refine (htransaction.guarded hdrop).bind fun _ _ _ => .act (fun hs => ?_) fun _ => .done rfl
  exact release_alike hcell hdrop hgiveBack (hall hs)

/-- **The end of a lease** goes alike. -/
lemma shutdown_blind (status : Status) : (lease.shutdown status).Blind R := by
  refine .act (hcell.modify _) fun {s s'} hs => ?_
  rw [hcell.get hs]
  split
  · exact .done rfl
  refine (Semaphore.acquire_blind A (lock_alike hcell)).bind fun _ _ _ => ?_
  refine .act (surrender_alike A hcell status) fun {s s'} hs => ?_
  dsimp only
  rw [hcell.get hs]
  split
  · exact .done rfl
  · split
    · exact tidy_blind A hcell hrollback hdestroy hdrop hgiveBack _
    · exact .act (release_alike hcell hdrop hgiveBack) fun _ => .done rfl

/-- **Looking after a lease** goes alike. -/
lemma watch_blind (ownFirst : Bool)
    (hending : ∀ {s s'}, R s s' → lease.base.watch.ending? s = lease.base.watch.ending? s')
    (hregister : ∀ {s s'} (self : TaskId), R s s' →
      R (lease.base.watch.register self s) (lease.base.watch.register self s')) :
    (lease.watch ownFirst).Blind R := by
  have hown : ∀ {s s'}, R s s' → lease.watching.ending? s = lease.watching.ending? s' := by
    intro s s' hs
    have hstatus : lease.watching.status s = lease.watching.status s' :=
      congrArg (fun state : LeaseState => state.signal.status) (hcell.get hs)
    unfold Watch.ending?
    rw [hstatus]
    rfl
  have hwait : lease.eitherEnd.Mirrors R lease.eitherEnd :=
    { ready := fun hs => by simp only [eitherEnd, hending hs, hown hs]
      register := fun self hs => Cell.Alike.modify (hcell.comp _) _ (hregister self hs)
      abandon := id }
  refine .wait hwait (.act id fun {s s'} hs => ?_)
  rw [hending hs, hown hs]
  cases lease.base.watch.ending? s' with
  | none => exact .done rfl
  | some status =>
    dsimp only
    split
    · exact .done rfl
    · exact shutdown_blind A hcell hrollback hdestroy hdrop hgiveBack status

end Lease

end Transactional
