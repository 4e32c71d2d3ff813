import Transactional.Proofs.Limit.Tickets

/-!
# What is left of a turn

Whoever takes a permit uses up a part of his turn.  Using a lease takes one permit, and so does
closing it; so it is known beforehand how much of a turn is left after that.  And nothing of this
draws a ticket.

* `World.SpendsNothing` — a change that uses up nothing of a turn.
* `budget` — the discipline of not using up more of a turn than one may; `Task.Spends`,
  `Task.SpendsAtMost` — tasks that keep to it.
* `Memory.operate_spends`, `Memory.shutdown_spends`, `Memory.watch_spends` — leases.
* `Memory.perform_spends` — the jobs of the pool.
-/

namespace Transactional

/-- The tickets: the next one, and those of whoever waits for everybody else. -/
def Schedule.tickets (c : Schedule) : Nat × List (Nat × Option TaskId) :=
  (c.nextTicket, c.settling)

/-- **A change that uses up nothing of a turn**: of the schedule, only turns and timers may change.
-/
def World.SpendsNothing (s s' : World) : Prop :=
  s.schedule.Twin s'.schedule

/-- **The discipline of the budget**: at each stage it is known how many more permits one may take
in a turn. -/
def budget : Discipline World Nat where
  knows _ _ := True
  may n s m s' := s'.schedule.tickets = s.schedule.tickets
    ∧ s.schedule.allowance + m ≤ s'.schedule.allowance + n
  waits _ _ := True

/-- **A task that spends so much** comes from one stage to another, however it is given up. -/
abbrev Task.Spends (task : Task World α) (n m : Nat) : Prop :=
  task.Obeys budget (fun _ _ => True) (fun _ k => k = m) n

/-- **A task that takes so many parts of a turn at most.** -/
abbrev Task.SpendsAtMost (task : Task World α) (n : Nat) : Prop :=
  task.Obeys budget (fun _ _ => True) (fun _ _ => True) n

variable {s s' s'' : World} {n m : Nat} {α : Type}

namespace World.SpendsNothing

lemma refl (s : World) : SpendsNothing s s := Schedule.Twin.refl _

lemma trans (h : SpendsNothing s s') (h' : SpendsNothing s' s'') :
    SpendsNothing s s'' := Schedule.Twin.trans h h'

lemma of_schedule (h : s'.schedule = s.schedule) : SpendsNothing s s' := by
  rw [SpendsNothing, h]
  exact .refl _

lemma wakeAll (tasks : List TaskId) (s : World) : SpendsNothing s (Host.wakeAll tasks s) := by
  induction tasks generalizing s with
  | nil => exact refl s
  | cons task rest ih => exact (Schedule.Twin.wake task s.schedule).trans (ih (Host.wake task s))

lemma updating {cell : Cell World Semaphore} (hcell : ∀ v s, (cell.set v s).schedule = s.schedule)
    (f : Semaphore → List TaskId × Semaphore) (s : World) :
    SpendsNothing s (Semaphore.updating cell f s) :=
  (of_schedule (hcell _ s)).trans (wakeAll _ _)

lemma finishAt {cell : Cell World Signal} (hcell : ∀ v s, (cell.set v s).schedule = s.schedule)
    (status : Status) (s : World) : SpendsNothing s (Signal.finishAt cell status s) := by
  unfold Signal.finishAt
  dsimp only
  split
  · exact (of_schedule (hcell _ s)).trans (wakeAll _ _)
  · exact refl s

lemma drop (number : Nat) (s : World) : SpendsNothing s (Memory.drop number s) := by
  let forsaken : World := (Memory.link number).modify
    (fun l => { l with alive := false, hasPermit := false }) s
  have hwoken : SpendsNothing s (Host.wakeAll ((Memory.link number).get s).signal.waiting
    forsaken) :=
    (of_schedule rfl : SpendsNothing s forsaken).trans (wakeAll _ _)
  unfold Memory.drop
  dsimp only
  split
  · split
    · have hpermits : ∀ (v : Semaphore) (s : World), (Memory.permits.set v s).schedule
        = s.schedule := fun _ _ => rfl
      exact hwoken.trans (updating hpermits _ _)
    · exact hwoken
  · exact refl s

lemma giveBack (number : Nat) (s : World) :
    SpendsNothing s (Memory.giveBack (Memory.connection number) s) :=
  (of_schedule rfl : SpendsNothing s (MemoryHost.accounts.modify _ s)).trans (drop number _)

lemma destroy (number : Nat) (handle : StatementHandle) (s : World) :
    SpendsNothing s (Memory.destroy number handle s) := by
  unfold Memory.destroy
  split
  · exact of_schedule rfl
  · exact refl s

/-- **It is a change that the budget allows.** -/
lemma may (h : SpendsNothing s s') (n : Nat) : budget.may n s n s' :=
  ⟨(h.same Schedule.tickets fun _ => rfl).symm,
    Nat.le_of_eq (congrArg (· + n) (h.same Schedule.allowance fun _ => rfl))⟩

end World.SpendsNothing

namespace Task.Spends

lemma act {update : World → World} {next : World → Task World α}
    (h : ∀ s, World.SpendsNothing s (update s))
    (hnext : ∀ s, (next s).Spends n m) : (Task.act update next).Spends n m :=
  fun s _ => ⟨n, (h s).may n, hnext s⟩

lemma look {next : World → Task World α} (hnext : ∀ s, (next s).Spends n m ∨ (next s).Spends m m)
    (hle : m ≤ n) :
    (Task.act id next).Spends n m := by
  intro s _
  rcases hnext s with h | h
  · exact ⟨n, ⟨rfl, Nat.le_refl _⟩, h⟩
  · exact ⟨m, ⟨rfl, Nat.add_le_add_left hle _⟩, h⟩

lemma bind {k : Nat} {task : Task World α} {f : α → Task World β} (h : task.Spends n m)
    (hf : ∀ a, (f a).Spends m k) : (task.bind f).Spends n k :=
  Task.Obeys.bind h fun a _ hq => hq ▸ hf a

lemma holding {tidy : World → World} {task : Task World α} (h : task.Spends n m)
    (htidy : ∀ s, World.SpendsNothing s (tidy s)) : (task.holding tidy).Spends n m :=
  Task.Obeys.holding (h.mono (fun _ _ _ => trivial) fun _ _ => id) fun _ p s hp _ =>
    ⟨p, (htidy s).may p, hp⟩

lemma guarded {tidy : World → World} {task : Task World α} (h : task.Spends n m) :
    (task.guarded tidy).Spends n m :=
  Task.Obeys.guarded (h.mono (fun _ _ _ => trivial) fun _ _ => id)

end Task.Spends

/-- **Taking a permit** uses up one part of a turn. -/
lemma Semaphore.acquire_spends {cell : Cell World Semaphore}
    (hcell : ∀ v s, (cell.set v s).schedule = s.schedule) :
    (Semaphore.acquire cell).Spends (n + 1) n := by
  have hspend : ∀ {s m s' : World}, World.SpendsNothing s m → World.SpendsNothing
    (Task.spend m) s' →
      budget.may (n + 1) s n s' := by
    intro s m s' h h'
    have hallowance : s.schedule.allowance = m.schedule.allowance :=
      h.same Schedule.allowance fun _ => rfl
    have hspent : m.schedule.allowance - 1 = s'.schedule.allowance :=
      h'.same Schedule.allowance fun _ => rfl
    refine ⟨(h'.same Schedule.tickets fun _ => rfl).symm.trans
      (h.same Schedule.tickets fun _ => rfl).symm, ?_⟩
    omega
  have hstay : ∀ {s s' : World}, World.SpendsNothing s s' → budget.may (n + 1) s (n + 1) s' :=
    fun h => h.may _
  have hstep : ∀ (self : TaskId) (s : World),
    World.SpendsNothing s ((Task.pause : Wait World).register self s) :=
    fun self s => Schedule.Twin.stepAside self s.schedule
  refine ⟨trivial, trivial, fun self s _ => hstay (hstep self s),
    fun s _ _ => ⟨_, hstay (.refl s), ?_⟩⟩
  intro s _
  dsimp only
  by_cases hshut : (cell.get s).shut = true
  · refine ⟨n, ?_, by simp only [hshut, if_true]; rfl⟩
    simp only [ask, hshut, if_true]
    exact hspend (.refl s) (.refl _)
  by_cases hfree : 0 < (cell.get s).free
  · refine ⟨n, ?_, by simp only [hshut, hfree, if_true, if_false, Bool.false_eq_true]; rfl⟩
    simp only [ask, hshut, hfree, if_true, if_false, Bool.false_eq_true]
    exact hspend (.of_schedule (hcell _ s)) (.refl _)
  refine ⟨n + 1, ?_, ?_⟩
  · simp only [ask, hshut, hfree, if_false, Bool.false_eq_true]
    exact hstay (.of_schedule (hcell _ s))
  simp only [hshut, hfree, if_false, Bool.false_eq_true]
  refine ⟨trivial, trivial, fun self s _ => ?_,
    fun s _ _ => ⟨_, hstay (.refl s), fun s _ => ⟨n, ?_, rfl⟩⟩⟩
  · simp only [Task.paced]
    split
    · exact hstay (.of_schedule (hcell _ s))
    · exact hstay (hstep self s)
  · dsimp only
    split
    · exact hspend (.refl s) (.updating hcell _ _)
    · exact hspend (.of_schedule (hcell _ s)) (.refl _)

namespace Memory

variable {base number : Nat}

lemma release_spendsNothing (s : World) :
    World.SpendsNothing s ((pool.lease base number).release s) := by
  unfold Lease.release
  split
  · exact (World.SpendsNothing.of_schedule rfl : World.SpendsNothing s
      ((pool.lease base number).cell.modify _ s)).trans
      (.giveBack base _)
  · exact .drop base s

lemma destroyAll_spendsNothing (handles : List StatementHandle) (s : World) :
    World.SpendsNothing s ((pool.lease base number).destroyAll handles s) := by
  unfold Lease.destroyAll
  induction handles generalizing s with
  | nil => exact .refl s
  | cons handle rest ih => exact (World.SpendsNothing.destroy base handle s).trans (ih _)

lemma surrender_spendsNothing (status : Status) (s : World) :
    World.SpendsNothing s ((pool.lease base number).surrender status s) := by
  let lease : Lease World := pool.lease base number
  let parted : World := lease.cell.modify (fun state => { state with holdsBase := false }) s
  let released : World := Semaphore.release lease.lock parted
  have hparted : World.SpendsNothing s parted := .of_schedule rfl
  have hreleased : World.SpendsNothing parted released := .updating (fun _ _ => rfl) _ _
  have hemptied : World.SpendsNothing released
    (lease.cell.modify (fun state => { state with statements := [] }) released) :=
    .of_schedule rfl
  exact hparted.trans (hreleased.trans (hemptied.trans (.finishAt (fun _ _ => rfl) status _)))

lemma plainCall_spends (call : Call) (pick : Failures → Option String) :
    (plainCall base call pick : Attempt World Unit).run.Spends n n :=
  plainCall_obeys fun _ _ => ⟨n, World.SpendsNothing.may (.of_schedule rfl) n, rfl⟩

/-- **Using a lease** takes one permit at most. -/
lemma operate_spends {operation : Attempt World α} {after : α → LeaseState → LeaseState}
    (h : operation.run.Spends n n) :
    ((pool.lease base number).operate operation after).run.Spends (n + 1) n := by
  have henter : (pool.lease base number : Lease World).enter.run.Spends (n + 1) n := by
    refine Task.Spends.look (fun s => ?_) (Nat.le_succ n)
    split
    · exact .inr rfl
    refine .inl ((Semaphore.acquire_spends fun _ _ => rfl).bind fun _ => ?_)
    refine Task.Spends.act .refl fun s => ?_
    split
    · exact Task.Spends.act (fun s => .updating (fun _ _ => rfl) _ s) fun _ => rfl
    · rfl
  refine henter.bind ?_
  rintro (fault | _)
  · rfl
  refine Task.Spends.holding (h.bind ?_) fun s => .updating (fun _ _ => rfl) _ s
  rintro (fault | a)
  · rfl
  · exact Task.Spends.act (fun s => .of_schedule rfl) fun _ => rfl

/-- **Closing a lease** takes one permit at most. -/
lemma shutdown_spends (status : Status) :
    ((pool.lease base number : Lease World).shutdown status).Spends (n + 1) n := by
  have htidy : ∀ handles, ((pool.lease base number : Lease World).tidy handles).Spends n n := by
    intro handles
    refine (Task.Spends.guarded ?_).bind fun _ =>
      Task.Spends.act (fun s => (destroyAll_spendsNothing handles s).trans
        (release_spendsNothing _)) fun _ => rfl
    refine Task.Spends.act (fun s => .of_schedule rfl) fun s => ?_
    split
    · refine (plainCall_spends _ _).bind ?_
      rintro (fault | _)
      · exact Task.Spends.act (fun s => .of_schedule rfl) fun _ => rfl
      · rfl
    · rfl
  intro s _
  dsimp only
  by_cases hclosed : ((pool.lease base number : Lease World).cell.get s).closed = true
  · refine ⟨n, ⟨rfl, Nat.add_le_add_left (Nat.le_succ n) _⟩, ?_⟩
    simp only [hclosed, if_true]
    rfl
  refine ⟨n + 1, ⟨rfl, Nat.le_refl _⟩, ?_⟩
  simp only [hclosed, if_false, Bool.false_eq_true]
  refine (Semaphore.acquire_spends fun _ _ => rfl).bind fun _ => ?_
  refine Task.Spends.act (surrender_spendsNothing status) fun s => ?_
  split
  · rfl
  split
  · exact htidy _
  · exact Task.Spends.act release_spendsNothing fun _ => rfl

/-- **Looking after a lease** takes one permit at most. -/
lemma watch_spends (ownFirst : Bool) :
    ((pool.lease base number : Lease World).watch ownFirst).Spends (n + 1) n := by
  refine ⟨trivial, trivial, fun self s _ => World.SpendsNothing.may (.of_schedule rfl) _,
    fun s _ _ => ⟨n + 1, World.SpendsNothing.may (.refl s) _, ?_⟩⟩
  refine Task.Spends.look (fun s => ?_) (Nat.le_succ n)
  split
  · split
    · exact .inr rfl
    · exact .inl (shutdown_spends _)
  · exact .inr rfl

/-- **No job of the pool** draws a ticket. -/
lemma perform_spends (job : Job) : ∃ n, (pool.perform job : Task World Unit).Spends n 0 := by
  cases job with
  | watch base number => exact ⟨1, watch_spends false⟩
  | close base number => exact ⟨1, shutdown_spends .closed⟩
  | replenish => exact ⟨0, rfl⟩

end Memory

end Transactional
