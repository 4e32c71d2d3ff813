import Transactional.Proofs.Alike.Run
import Transactional.Proofs.Semaphore.Refusal
import Transactional.Proofs.Traffic.Changes

/-!
# A pool that has been closed, and one that has not

Closing a manager sets a flag and shuts the line for permits; and then those who stood in line are
called, and do not get one.  All this is nothing to those who have a connection.  So two worlds of
which one has been closed and the other has not are alike for them, as long as they are the same in
everything else.

* `Schedule.Like` — schedules that differ in who is called to look again, at most.
* `World.core`, `World.SameButClosed` — what closing leaves alone, and two worlds that are the same
  but for the closing.
* `World.sameButClosed_near` — they are alike in all that those use who have a connection.
* `World.Unnoticed` — what happens to the first while the second stands still;
  `World.SameButClosed.unnoticed` and `World.SameButClosed.aside` say that they stay alike.
* `World.Steady` — a change by which nothing is closed or shut.
-/

namespace Transactional

/-! ## Schedules -/

namespace Schedule

/-- **Two schedules that differ in who is to look again**, at most. -/
structure Like (c d : Schedule) : Prop where
  starts : c.starts = d.starts
  rest : { c with ready := [] } = { d with ready := [] }

variable {c c' d d' : Schedule}

namespace Like

lemma refl (c : Schedule) : c.Like c := ⟨rfl, rfl⟩

lemma symm (h : c.Like d) : d.Like c := ⟨h.starts.symm, h.rest.symm⟩

lemma trans {e : Schedule} (h : c.Like d) (h' : d.Like e) : c.Like e :=
  ⟨h.starts.trans h'.starts, h.rest.trans h'.rest⟩

lemma same (h : c.Like d) (part : Schedule → τ)
    (hpart : ∀ c, part { c with ready := [] } = part c) :
    part c = part d := by
  rw [← hpart c, ← hpart d, h.rest]

/-- **A change that does not depend on the turns to come**, and leaves alone the jobs that are due.
-/
lemma change {f : Schedule → Schedule} (h : c.Like d) (hstarts : ∀ c, (f c).starts = c.starts)
    (hrest : ∀ c, { f c with ready := [] } = { f { c with ready := [] } with ready := [] }) :
    (f c).Like (f d) where
  starts := by rw [hstarts, hstarts, h.starts]
  rest := by rw [hrest c, hrest d, h.rest]

lemma wake (task : TaskId) (c : Schedule) : (c.wake task).Like c := by
  refine ⟨starts_wake task c, ?_⟩
  unfold Schedule.wake
  split <;> rfl

lemma spend (h : c.Like d) : c.spend.Like d.spend := h.change starts_spend fun _ => rfl

lemma stepAside (h : c.Like d) (task : TaskId) : (c.stepAside task).Like (d.stepAside task) := by
  refine h.change (starts_stepAside task) fun c => ?_
  unfold Schedule.stepAside
  dsimp only
  split <;> rfl

lemma arm (h : c.Like d) (timer : Timer) : (c.arm timer).Like (d.arm timer) := by
  refine h.change (starts_arm timer) fun c => ?_
  unfold Schedule.arm
  dsimp only
  split <;> rfl

lemma takeTicket (h : c.Like d) : ({ c with nextTicket := c.nextTicket + 1 } : Schedule).Like
    { d with nextTicket := d.nextTicket + 1 } :=
  h.change (f := fun c => { c with nextTicket := c.nextTicket + 1 }) (fun _ => rfl) fun _ => rfl

lemma disarm (h : c.Like d) (ticket : Nat) : (c.disarm ticket).Like (d.disarm ticket) :=
  h.change (starts_disarm ticket) fun _ => rfl

lemma spawn (h : c.Like d) (job : Job) : (c.spawn job).Like (d.spawn job) where
  starts := by rw [starts_spawn, starts_spawn, h.starts, h.same nextTask fun _ => rfl]
  rest := congrArg (fun c : Schedule => { c with nextTask := c.nextTask + 1 }) h.rest

end Like

lemma starts_erase (number : TaskId) (job : Job) (c : Schedule) :
    ({ c with ready := c.ready.erase (.start number job) } : Schedule).starts
      = c.starts.erase (number, job) := by
  unfold starts
  dsimp only
  induction c.ready with
  | nil => rfl
  | cons turn rest ih =>
    by_cases hturn : turn = .start number job
    · subst hturn
      simp
    · rw [List.erase_cons_tail (by simpa using hturn)]
      cases turn with
      | resume task => simpa using ih
      | start n j =>
        have hne : (n, j) ≠ (number, job) := fun heq => hturn (by cases heq; rfl)
        simp only [List.filterMap_cons]
        rw [List.erase_cons_tail (by simpa using hne), ih]

end Schedule

namespace World

/-! ## Closing -/

/-- **What closing leaves alone.** -/
def core (s : World) : World :=
  { s with
    schedule := {}
    managerClosed := false
    accounts := { s.accounts with permits := { free := 0 } } }

/-- **Two worlds that are the same but for the closing.**  The first one may have been closed, and
its pool shut, and then nothing is said of the permits; the second one has not been closed. -/
structure SameButClosed (s t : World) : Prop where
  core : s.core = t.core
  schedule : s.schedule.Like t.schedule
  unclosed : t.managerClosed = false
  permits : s.accounts.permits.shut = false → s.accounts.permits = t.accounts.permits

variable {s s' s'' t : World}

lemma alike_of_core {cell : Cell World τ} (hget : ∀ s : World, cell.get s.core = cell.get s)
    (hset : ∀ (v : τ) (s : World), (cell.set v s).core = cell.set v s.core)
    (hschedule : ∀ (v : τ) (s : World), (cell.set v s).schedule = s.schedule)
    (hclosed : ∀ (v : τ) (s : World), (cell.set v s).managerClosed = s.managerClosed)
    (hpermits : ∀ (v : τ) (s : World), (cell.set v s).accounts.permits = s.accounts.permits) :
    cell.Alike SameButClosed where
  get {s t} h := by rw [← hget s, ← hget t, h.core]
  set {s t} v h :=
    { core := by rw [hset, hset, h.core]
      schedule := by rw [hschedule, hschedule]; exact h.schedule
      unclosed := (hclosed v t).trans h.unclosed
      permits := fun hopen => by
        rw [hpermits] at hopen ⊢
        rw [hpermits]
        exact h.permits hopen }

namespace SameButClosed

lemma reschedule (h : SameButClosed s t) {f g : Schedule → Schedule}
    (hfg : s.schedule.Like t.schedule → (f s.schedule).Like (g t.schedule)) :
    SameButClosed (Host.schedule.modify f s) (Host.schedule.modify g t) :=
  ⟨h.core, hfg h.schedule, h.unclosed, h.permits⟩

lemma account (h : SameButClosed s t) {f : Memory.Accounts → Memory.Accounts}
    (hpermits : ∀ a, (f a).permits = a.permits)
    (hcommutes : ∀ (a : Memory.Accounts) p, f { a with permits := p } = { f a with permits := p }) :
    SameButClosed (MemoryHost.accounts.modify f s) (MemoryHost.accounts.modify f t) where
  core := by
    have hcore : ∀ s : World, (MemoryHost.accounts.modify f s).core = MemoryHost.accounts.modify
      f s.core :=
      fun s => congrArg (fun a => { s.core with accounts := a }) (hcommutes s.accounts _).symm
    rw [hcore, hcore, h.core]
  schedule := h.schedule
  unclosed := h.unclosed
  permits hopen := (hpermits _).trans
    ((h.permits ((congrArg Semaphore.shut (hpermits _)).symm.trans hopen)).trans (hpermits _).symm)

lemma setPermits (h : SameButClosed s t) (permits : Semaphore) :
    SameButClosed (Memory.permits.set permits s) (Memory.permits.set permits t) :=
  ⟨h.core, h.schedule, h.unclosed, fun _ => rfl⟩

end SameButClosed

/-! ## The line for permits -/

lemma wakeAll_like (tasks : List TaskId) (s : World) :
    ∃ c, Host.wakeAll tasks s = { s with schedule := c } ∧ c.Like s.schedule := by
  induction tasks generalizing s with
  | nil => exact ⟨s.schedule, rfl, .refl _⟩
  | cons task rest ih =>
    obtain ⟨c, heq, hlike⟩ := ih (Host.wake task s)
    exact ⟨c, heq, hlike.trans (.wake task s.schedule)⟩

/-- **A change in the line for permits**: nothing else changes, but that some are called to look
again. -/
lemma updating_permits (f : Semaphore → List TaskId × Semaphore) (s : World) :
    ∃ c, Semaphore.updating Memory.permits f s
        = { s with
            schedule := c
            accounts := { s.accounts with permits := (f s.accounts.permits).2 } }
      ∧ c.Like s.schedule :=
  wakeAll_like _ (Memory.permits.set (f s.accounts.permits).2 s)

lemma SameButClosed.updating (h : SameButClosed s t) {f : Semaphore → List TaskId × Semaphore}
    (hf : ∀ permits, (f permits).2.shut = permits.shut) :
    SameButClosed (Semaphore.updating Memory.permits f s)
      (Semaphore.updating Memory.permits f t) := by
  obtain ⟨c, heq, hlike⟩ := updating_permits f s
  obtain ⟨d, heq', hlike'⟩ := updating_permits f t
  rw [heq, heq']
  exact ⟨h.core, hlike.trans (h.schedule.trans hlike'.symm), h.unclosed, fun hopen => by
    rw [h.permits ((hf _).symm.trans hopen)]⟩

/-- **For those who have a connection the two worlds are alike.** -/
theorem sameButClosed_near : World.Near SameButClosed where
  allowance h := h.schedule.same Schedule.allowance fun _ => rfl
  now h := h.schedule.same Schedule.now fun _ => rfl
  takeTicket h := h.reschedule (f := fun c => { c with nextTicket := c.nextTicket + 1 })
    (g := fun c => { c with nextTicket := c.nextTicket + 1 }) (·.takeTicket)
  timer deadline h := Task.timer_mirrors (fun h => h.schedule.same Schedule.now fun _ => rfl)
    (fun timer h => h.reschedule (·.arm timer)) (fun ticket h => h.reschedule (·.disarm ticket))
    (h.schedule.same Schedule.nextTicket fun _ => rfl) deadline
  spend h := h.reschedule (·.spend)
  stepAside self h := h.reschedule (·.stepAside self)
  wake task h := h.reschedule fun hlike => (Schedule.Like.wake task _).trans
    (hlike.trans (.symm (.wake task _)))
  spawn job h := h.reschedule (·.spawn job)
  report _ h :=
    have htraces : (Host.traces : Cell World (List Trace)).Alike SameButClosed :=
      alike_of_core (fun _ => rfl) (fun _ _ => rfl) (fun _ _ => rfl) (fun _ _ => rfl) fun _ _ => rfl
    htraces.modify _ h
  backend := alike_of_core (fun _ => rfl) (fun _ _ => rfl) (fun _ _ => rfl) (fun _ _ => rfl)
    fun _ _ => rfl
  leases _ := alike_of_core (fun _ => rfl) (fun _ _ => rfl) (fun _ _ => rfl) (fun _ _ => rfl)
    fun _ _ => rfl
  leaseCount := alike_of_core (fun _ => rfl) (fun _ _ => rfl) (fun _ _ => rfl) (fun _ _ => rfl)
    fun _ _ => rfl
  acquired h := h.account (fun _ => rfl) fun _ _ => rfl
  released h := h.account (fun _ => rfl) fun _ _ => rfl
  release h := h.updating Semaphore.shut_handOver

/-! ## What happens to the first while the second stands still -/

/-- **A change that only those notice who have no connection**: the flag, the permits of a pool that
is shut afterwards, and the schedule may change. -/
structure Unnoticed (s s' : World) : Prop where
  core : s'.core = s.core
  starts : s'.schedule.starts = s.schedule.starts
  permits : s'.accounts.permits.shut = false → s'.accounts.permits = s.accounts.permits

namespace Unnoticed

lemma refl (s : World) : Unnoticed s s := ⟨rfl, rfl, fun _ => rfl⟩

lemma trans (h : Unnoticed s s') (h' : Unnoticed s' s'') : Unnoticed s s'' where
  core := h'.core.trans h.core
  starts := h'.starts.trans h.starts
  permits hopen := by
    have hsame := h'.permits hopen
    exact hsame.trans (h.permits (hsame ▸ hopen))

lemma schedule {f : Schedule → Schedule} (hf : ∀ c, (f c).starts = c.starts) (s : World) :
    Unnoticed s (Host.schedule.modify f s) :=
  ⟨rfl, hf _, fun _ => rfl⟩

lemma updating {f : Semaphore → List TaskId × Semaphore}
    (hshut : (f s.accounts.permits).2.shut = true) :
    Unnoticed s (Semaphore.updating Memory.permits f s) := by
  obtain ⟨c, heq, hlike⟩ := updating_permits f s
  rw [heq]
  exact ⟨rfl, hlike.starts, fun hopen => absurd (hshut.symm.trans hopen) (by simp)⟩

end Unnoticed

/-- **The two stay alike**, if the second one gets the schedule of the first. -/
lemma SameButClosed.unnoticed (h : SameButClosed s t) (hunnoticed : Unnoticed s s') :
    ∃ t', Aside t t' ∧ t'.managerClosed = t.managerClosed ∧ SameButClosed s' t' := by
  have hstarts : s'.schedule.starts = t.schedule.starts := hunnoticed.starts.trans h.schedule.starts
  refine ⟨{ t with schedule := s'.schedule }, ?_, rfl, hunnoticed.core.trans h.core, .refl _,
    h.unclosed, ?_⟩
  · exact ⟨congrArg (fun due => { t.traffic with due }) hstarts, .of_eq fun _ => rfl⟩
  · intro hopen
    have hsame := hunnoticed.permits hopen
    exact hsame.trans (h.permits (hsame ▸ hopen))

lemma SameButClosed.aside (h : SameButClosed s t) (haside : Aside s s') :
    ∃ t', Aside t t' ∧ t'.managerClosed = t.managerClosed ∧ SameButClosed s' t' := by
  let t' : World :=
    { s' with
      managerClosed := false
      accounts := { s'.accounts with permits := t.accounts.permits } }
  have htraffic : t'.traffic = t.traffic := by
    have hs : t'.traffic = { s'.traffic with
        accounts := { s'.traffic.accounts with permits := t.accounts.permits } } := rfl
    have ht : t.traffic = { t.core.traffic with
        accounts := { t.core.accounts with permits := t.accounts.permits }
        due := t.schedule.starts } := rfl
    rw [hs, ht, haside.traffic, ← h.core, ← h.schedule.starts]
    rfl
  refine ⟨t', ⟨htraffic, fun m hm => ?_⟩, h.unclosed.symm, rfl, .refl _, rfl, fun hopen => ?_⟩
  · have hended : s.hasEnded m = t.hasEnded m := by
      show s.core.hasEnded m = t.core.hasEnded m
      rw [h.core]
    exact haside.ages m (hended.trans hm)
  · have hsame : s'.accounts = s.accounts := congrArg Traffic.accounts haside.traffic
    rw [hsame] at hopen ⊢
    exact h.permits hopen

/-! ## What is closed -/

/-- **A change by which nothing is closed or shut**, or opened. -/
structure Steady (s s' : World) : Prop where
  closed : s'.managerClosed = s.managerClosed
  shut : s'.accounts.permits.shut = s.accounts.permits.shut

lemma Steady.refl (s : World) : Steady s s := ⟨rfl, rfl⟩

lemma Steady.trans (h : Steady s s') (h' : Steady s' s'') : Steady s s'' :=
  ⟨h'.closed.trans h.closed, h'.shut.trans h.shut⟩

lemma Steady.updating {f : Semaphore → List TaskId × Semaphore}
    (hf : ∀ permits, (f permits).2.shut = permits.shut) (s : World) :
    Steady s (Semaphore.updating Memory.permits f s) := by
  obtain ⟨c, heq, -⟩ := updating_permits f s
  rw [heq]
  exact ⟨rfl, hf _⟩

end World

end Transactional
