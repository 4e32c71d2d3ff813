import Transactional.Proofs.Lease.Lifecycle
import Transactional.Lease

/-!
# What the tasks of a lease do to it

Every task that works on a lease moves as `Stage.Does` says.  What it does to the connection beneath
is another discipline's business, `G`, which only has to let the lease alone: it must not mind a
change that concerns nothing but the lease.  It may take an interest in the stage of the task, or be
blind to it.

* `Lease.aspect` — what of a state the tasks on a lease agree about.
* `Lease.Apart` — the lease is a part of the state of its own.
* `Lease.Inward` — a change that concerns nothing but the lease.
* `Lease.discipline` — the discipline of tasks on a lease, beside that for the connection beneath.
* `Lease.Ignores`, `Lease.Bears` — the discipline for the connection beneath lets the lease alone.
* `Lease.usable` — it lets its tasks use the lock.
-/

namespace Transactional

/-- **A discipline that is blind to the stage** of a task on a lease. -/
abbrev Discipline.blind (G : Discipline σ κ) : Discipline σ (Stage × κ) where
  knows x := G.knows x.2
  may x s y := G.may x.2 s y.2
  waits x := G.waits x.2

variable [Host σ]

/-- What the tasks on a lease agree about, as the lease remembers it. -/
def LeaseState.aspect (state : LeaseState) (ended : Bool) (guardDue closeDue : Prop) : Aspect where
  closed := state.closed
  signalled := state.signal.status.isTerminal
  lock := state.lock
  holdsBase := state.holdsBase
  listening := state.listening
  ended := ended
  guardDue := guardDue
  closeDue := closeDue

/-- Leaving word does not end anything. -/
@[simp] lemma Signal.status_join (self : TaskId) (signal : Signal) :
    (signal.join self).status = signal.status := by
  unfold join
  split <;> rfl

namespace Lease

/-- **What the tasks on a lease agree about** in a state.  The job `guard` looks after the lease. -/
def aspect (lease : Lease σ) (guard : Job) (s : σ) : Aspect :=
  (lease.cell.get s).aspect (lease.base.watch.ending? s).isSome
    (∃ number, Company.Due number guard s) (∃ number, Company.Due number lease.closing s)

/-- **The lease is a part of the state of its own**: what it remembers, the turns and the reports
are different parts, and none of them says whether the connection beneath has ended. -/
structure Apart (lease : Lease σ) : Prop where
  schedule : ∀ c s, lease.cell.get (Host.schedule.set c s) = lease.cell.get s
  traces : ∀ t s, lease.cell.get (Host.traces.set t s) = lease.cell.get s
  schedule_cell : ∀ v s, Host.schedule.get (lease.cell.set v s) = Host.schedule.get s
  schedule_traces : ∀ t (s : σ), Host.schedule.get (Host.traces.set t s) = Host.schedule.get s
  /-- The end of the connection beneath is not in what the lease remembers. -/
  ended_cell : ∀ v s, lease.base.watch.ending? (lease.cell.set v s) = lease.base.watch.ending? s
  ended_schedule : ∀ c s,
    lease.base.watch.ending? (Host.schedule.set c s) = lease.base.watch.ending? s
  ended_traces : ∀ t s,
    lease.base.watch.ending? (Host.traces.set t s) = lease.base.watch.ending? s

/-- **A change that concerns nothing but the lease**, and does not make more of what it has to tidy
up. -/
structure Inward (lease : Lease σ) (s s' : σ) : Prop where
  still : Host.Still lease.cell s s'
  inTransaction : (lease.cell.get s').inTransaction = (lease.cell.get s).inTransaction
  statements : (lease.cell.get s').statements ⊆ (lease.cell.get s).statements
  listening : (lease.cell.get s').listening = (lease.cell.get s).listening

namespace Apart

variable {lease : Lease σ} (hA : lease.Apart) {s s' : σ}

include hA

lemma due_of_still (h : Host.Still lease.cell s s') (job : Job) :
    (∃ number, Company.Due number job s') = ∃ number, Company.Due number job s := by
  refine h.same (fun s => ∃ number, Company.Due number job s) (fun v s => ?_) (fun c s hc => ?_)
    (fun t s => ?_)
  · simp only [Company.Due, hA.schedule_cell]
  · simp only [Company.due_iff, Host.schedule.get_set, hc]
  · simp only [Company.Due, hA.schedule_traces]

lemma ended_of_still (h : Host.Still lease.cell s s') :
    lease.base.watch.ending? s' = lease.base.watch.ending? s :=
  h.same _ hA.ended_cell (fun c s _ => hA.ended_schedule c s) hA.ended_traces

/-- **Only the lease has changed**, so what matters about it is what it remembers now. -/
lemma aspect_of_still (guard : Job) (h : Host.Still lease.cell s s') :
    lease.aspect guard s' = (lease.cell.get s').aspect (lease.aspect guard s).ended
      (lease.aspect guard s).guardDue (lease.aspect guard s).closeDue := by
  simp only [aspect, hA.due_of_still h, hA.ended_of_still h]
  rfl

lemma get_of_still_lock (h : Host.Still lease.lock s s') :
    lease.cell.get s' = { lease.cell.get s with lock := lease.lock.get s' } := by
  have hsame := h.same (fun s => { lease.cell.get s with lock := { free := 0 } })
    (fun v s => by simp [lock, Cell.comp, lease.cell.get_set])
    (fun c s _ => by simp [hA.schedule]) (fun t s => by simp [hA.traces])
  have hlock : lease.lock.get s' = (lease.cell.get s').lock := rfl
  rw [hlock]
  cases hs : lease.cell.get s
  cases hs' : lease.cell.get s'
  simp only [hs, hs', LeaseState.mk.injEq] at hsame ⊢
  tauto

lemma get_wakeAll (tasks : List TaskId) (s : σ) :
    lease.cell.get (Host.wakeAll tasks s) = lease.cell.get s := by
  induction tasks generalizing s with
  | nil => rfl
  | cons task rest ih => exact (ih _).trans (hA.schedule _ s)

end Apart

/-! ## The discipline -/

/-- **What a task waits for** where the lease makes it wait. -/
inductive WaitsFor (lease : Lease σ) (p : Stage) : (σ → Bool) → Prop where
  | turn : WaitsFor lease p (Task.pause : Wait σ).ready
  | line (ticket : Nat) (h : p.place = .inLine ticket) :
      WaitsFor lease p (Task.paced (Semaphore.inLine lease.lock ticket)).ready
  | either (h : p.place = .away) (h : p.errand = .lookout) : WaitsFor lease p lease.eitherEnd.ready

/-- **The discipline of tasks on a lease**, beside that for the connection beneath. -/
def discipline (lease : Lease σ) (guard : Job) (G : Discipline σ (Stage × κ)) :
    Discipline σ (Stage × κ) where
  knows x s := x.1.Knows (lease.aspect guard s) ∧ G.knows x s
  may x s y s' := x.1.Step (lease.aspect guard s) y.1 (lease.aspect guard s') ∧ G.may x s y s'
  waits x ready := x.1.sight ≠ .open ∧ (lease.WaitsFor x.1 ready ∨ G.waits x ready)

/-- **The discipline for the connection beneath at one stage**: it leaves the lease alone.  While
nobody else is to move there is no waiting. -/
def beneath (lease : Lease σ) (guard : Job) (G : Discipline σ (Stage × κ)) (p : Stage)
    (prompt : Bool) : Discipline σ κ where
  knows k := G.knows (p, k)
  may k s k' s' :=
    (lease.aspect guard s).Grows (lease.aspect guard s') ∧ G.may (p, k) s (p, k') s'
  waits k ready := prompt = false ∧ G.waits (p, k) ready

/-- **The discipline for the connection beneath ignores the lease** at `k`: it allows every change
that concerns nothing else, whatever the stage. -/
def Ignores (lease : Lease σ) (G : Discipline σ (Stage × κ)) (k : κ) : Prop :=
  ∀ p q s s', G.knows (p, k) s → lease.Inward s s' → G.may (p, k) s (q, k) s'

/-- **The discipline for the connection beneath bears with the lease** at a stage: it allows every
change that concerns nothing else and leaves the task where it is. -/
def Bears (lease : Lease σ) (G : Discipline σ (Stage × κ)) (p : Stage) : Prop :=
  ∀ k s s', G.knows (p, k) s → lease.Inward s s' → G.may (p, k) s (p, k) s'

lemma bears_of_ignores {lease : Lease σ} {G : Discipline σ (Stage × κ)}
    (hG : ∀ k, lease.Ignores G k) (p : Stage) : lease.Bears G p :=
  fun k s s' hs h => hG k p p s s' hs h

variable {lease : Lease σ} {guard : Job} {G : Discipline σ (Stage × κ)} {s s' : σ}

lemma Apart.inward_of_still_lock (hA : lease.Apart) (h : Host.Still lease.lock s s') :
    lease.Inward s s' := by
  have hget := hA.get_of_still_lock h
  exact ⟨h.of_comp, by rw [hget], by rw [hget]; exact List.Subset.refl _, by rw [hget]⟩

lemma Apart.aspect_of_still_lock (hA : lease.Apart) (h : Host.Still lease.lock s s') :
    lease.aspect guard s' = { lease.aspect guard s with lock := lease.lock.get s' } := by
  rw [hA.aspect_of_still guard h.of_comp, hA.get_of_still_lock h]
  rfl

/-- **The discipline lets its tasks use the lock** at every stage that does not rely on nobody else
moving. -/
theorem usable (guard : Job) (hA : lease.Apart) {k : κ} (hG : lease.Ignores G k) (p : Stage)
    (hp : p.sight ≠ .open) :
    Semaphore.Usable (lease.discipline guard G) lease.lock (fun place => ({ p with place }, k))
      False where
  apart c s := by
    show (lease.cell.get _).lock = (lease.cell.get s).lock
    rw [hA.schedule]
  shut place s hs hshut := by
    have hunshut : (lease.lock.get s).shut = false := hs.1.unshut
    rw [hunshut] at hshut
    cases hshut
  moves place q s s' hs hmove hstill := by
    refine ⟨⟨_, .lock _ _ (hmove.moves hs.1.unshut), ?_⟩,
      hG _ _ s s' hs.2 (hA.inward_of_still_lock hstill)⟩
    rw [hA.aspect_of_still_lock hstill]
    exact .refl _
  pause := ⟨hp, .inl .turn⟩
  line t := ⟨hp, .inl (.line t rfl)⟩

/-! ## Single changes -/

/-- What the task does not do, but the lease remembers, concerns nothing but the lease. -/
lemma inward_modify (f : LeaseState → LeaseState) (s : σ)
    (htransaction : (f (lease.cell.get s)).inTransaction = (lease.cell.get s).inTransaction)
    (hstatements : (f (lease.cell.get s)).statements ⊆ (lease.cell.get s).statements)
    (hlistening : (f (lease.cell.get s)).listening = (lease.cell.get s).listening) :
    lease.Inward s (lease.cell.modify f s) :=
  ⟨.modify f s, by rwa [lease.cell.get_modify], by rwa [lease.cell.get_modify],
    by rwa [lease.cell.get_modify]⟩

lemma Apart.aspect_modify (hA : lease.Apart) (guard : Job) (f : LeaseState → LeaseState) (s : σ) :
    lease.aspect guard (lease.cell.modify f s) =
      (f (lease.cell.get s)).aspect (lease.aspect guard s).ended (lease.aspect guard s).guardDue
        (lease.aspect guard s).closeDue := by
  rw [hA.aspect_of_still guard (.modify f s), lease.cell.get_modify]

lemma Apart.may_report (hA : lease.Apart) {p : Stage} {k : κ} (hG : lease.Bears G p)
    (trace : Trace) (hs : G.knows (p, k) s) :
    (lease.discipline guard G).may (p, k) s (p, k) (Host.report trace s) := by
  have hget : lease.cell.get (Host.report trace s) = lease.cell.get s := hA.traces _ s
  refine ⟨⟨_, .nothing _ _, ?_⟩, hG k s _ hs ⟨.report trace s, ?_, ?_, ?_⟩⟩
  · rw [hA.aspect_of_still guard (.report trace s), hget]
    exact .refl _
  · rw [hget]
  · rw [hget]
    exact List.Subset.refl _
  · rw [hget]

/-- What a lease remembers of its own accord: its transaction and its statements. -/
def Notes (f : LeaseState → LeaseState) : Prop :=
  ∀ state, f state =
    { state with
      inTransaction := (f state).inTransaction
      statements := (f state).statements }

lemma Apart.aspect_notes (hA : lease.Apart) {f : LeaseState → LeaseState} (hf : Notes f) (s : σ) :
    lease.aspect guard (lease.cell.modify f s) = lease.aspect guard s := by
  rw [hA.aspect_modify guard, hf]
  rfl

lemma Apart.aspect_schedule (hA : lease.Apart) (guard : Job) (f : Schedule → Schedule) (s : σ) :
    lease.aspect guard (Host.schedule.modify f s) =
      { lease.aspect guard s with
        guardDue := ∃ number, (number, guard) ∈ (f (Host.schedule.get s)).starts
        closeDue := ∃ number, (number, lease.closing) ∈ (f (Host.schedule.get s)).starts } := by
  unfold aspect
  simp only [Company.due_iff, Cell.get_modify]
  rw [show lease.cell.get (Host.schedule.modify f s) = _ from hA.schedule _ s,
    show lease.base.watch.ending? (Host.schedule.modify f s) = _ from hA.ended_schedule _ s]
  rfl

/-- **Letting go of a lease** makes a job that closes it due, unless it is closed. -/
lemma Apart.step_drop (hA : lease.Apart) {p : Stage} (s : σ)
    (herrand : p.errand = .pledged) :
    p.Step (lease.aspect guard s) { p with errand := .bystander }
      (lease.aspect guard (lease.drop s)) := by
  refine ⟨_, .letGo _ _ herrand, ?_⟩
  unfold drop
  by_cases hclosed : (lease.cell.get s).closed = true
  · rw [if_pos hclosed]
    refine ⟨rfl, id, id, fun h => h.resolve_left ?_⟩
    exact fun hfalse => absurd hclosed (Bool.eq_false_iff.mp hfalse)
  · rw [if_neg hclosed, Host.spawn, hA.aspect_schedule]
    refine ⟨rfl, id, ?_, fun _ => ?_⟩
    · rintro ⟨number, hdue⟩
      refine ⟨number, ?_⟩
      rw [Schedule.starts_spawn]
      exact List.mem_append_left _ (Company.due_iff.mp hdue)
    · refine ⟨(Host.schedule.get s).nextTask, ?_⟩
      rw [Schedule.starts_spawn]
      exact List.mem_append_right _ (by simp)

/-- **Nothing happens to the lease.** -/
lemma step_of_grows {p : Stage} {a b : Aspect} (h : a.Grows b) : p.Step a p b :=
  ⟨a, .nothing p a, h⟩

lemma Apart.aspect_join (hA : lease.Apart) (self : TaskId) (s : σ) :
    lease.aspect guard (lease.watching.register self s) = lease.aspect guard s := by
  rw [show lease.watching.register self s = lease.cell.set
      { lease.cell.get s with signal := (lease.cell.get s).signal.join self } s from rfl,
    hA.aspect_of_still guard (.set _ s), lease.cell.get_set, LeaseState.aspect, Signal.status_join]
  rfl

lemma inward_join (self : TaskId) (s : σ) : lease.Inward s (lease.watching.register self s) := by
  have hget : lease.cell.get (lease.watching.register self s) =
      { lease.cell.get s with signal := (lease.cell.get s).signal.join self } :=
    lease.cell.get_set _ s
  exact ⟨.set _ s, by rw [hget], by rw [hget]; exact List.Subset.refl _, by rw [hget]⟩

lemma Apart.get_finishAt (hA : lease.Apart) (status : Status) (s : σ) :
    lease.cell.get (Signal.finishAt lease.signal status s) =
      { lease.cell.get s with signal := ((lease.cell.get s).signal.finish status).2 } := by
  have hsignal : lease.signal.get s = (lease.cell.get s).signal := rfl
  unfold Signal.finishAt Signal.finish
  rw [hsignal]
  by_cases h : (lease.cell.get s).signal.status.isTerminal = true
  · simp [h]
  · simp only [if_neg h, if_true]
    rw [hA.get_wakeAll]
    simp [signal, Cell.comp, lease.cell.get_set]

lemma still_finishAt (status : Status) (s : σ) :
    Host.Still lease.cell s (Signal.finishAt lease.signal status s) := by
  unfold Signal.finishAt
  dsimp only
  split
  · exact (Host.Still.set _ s).of_comp.trans (.wakeAll _ _)
  · exact .refl s

lemma Apart.get_release (hA : lease.Apart) (s : σ) :
    lease.cell.get (Semaphore.release lease.lock s) =
      { lease.cell.get s with lock := (lease.cell.get s).lock.handOver.2 } := by
  unfold Semaphore.release Semaphore.updating
  rw [hA.get_wakeAll]
  simp [lock, Cell.comp, lease.cell.get_set]

lemma Apart.aspect_release (hA : lease.Apart) (s : σ) :
    lease.aspect guard (Semaphore.release lease.lock s) =
      { lease.aspect guard s with lock := (lease.aspect guard s).lock.handOver.2 } := by
  have hstill : Host.Still lease.lock s (Semaphore.release lease.lock s) :=
    Semaphore.Usable.still_updating Semaphore.handOver s
  rw [hA.aspect_of_still guard hstill.of_comp, hA.get_release]
  rfl

lemma Apart.inward_release (hA : lease.Apart) (s : σ) :
    lease.Inward s (Semaphore.release lease.lock s) :=
  hA.inward_of_still_lock (Semaphore.Usable.still_updating _ s)

/-- **Taking the connection beneath out of a lease**, at once: the lock goes on to the next, the
statements are forgotten, and everybody is told. -/
lemma Apart.get_surrender (hA : lease.Apart) (status : Status) (s : σ) :
    lease.cell.get (lease.surrender status s) =
      { lease.cell.get s with
        holdsBase := false
        lock := (lease.cell.get s).lock.handOver.2
        statements := []
        signal := ((lease.cell.get s).signal.finish status).2 } := by
  simp only [surrender, hA.get_finishAt, lease.cell.get_modify, hA.get_release]

lemma still_surrender (status : Status) (s : σ) :
    Host.Still lease.cell s (lease.surrender status s) := by
  unfold surrender
  refine .trans ?_ (still_finishAt status _)
  refine .trans ?_ (Host.Still.modify _ _)
  exact (Host.Still.modify _ s).trans (Semaphore.Usable.still_updating _ _).of_comp

lemma Apart.inward_surrender (hA : lease.Apart) (status : Status) (s : σ) :
    lease.Inward s (lease.surrender status s) := by
  have hget := hA.get_surrender status s
  exact ⟨still_surrender status s, by rw [hget], by rw [hget]; exact List.nil_subset _,
    by rw [hget]⟩

lemma finish_isTerminal (signal : Signal) {status : Status} (h : status.isTerminal = true) :
    (signal.finish status).2.status.isTerminal = true := by
  unfold Signal.finish
  split
  next hterminal => exact hterminal
  next => exact h

end Lease

end Transactional
