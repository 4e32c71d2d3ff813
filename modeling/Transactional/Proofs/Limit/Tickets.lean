import Transactional.Proofs.Alike.Run
import Transactional.Proofs.Closing.Unclosed

/-!
# Worlds in which one more ticket has been drawn

A limit takes a ticket for its timer, so whoever draws one later gets another number than without
the limit.  Nobody can tell: what is different is who is to look again, the timers, and the numbers
of the tickets.

* `Schedule.Twin`, `Schedule.Akin`, `Schedule.Ahead` — schedules that differ in turns and timers, in
  the tickets, and in that one more ticket has been drawn.
* `World.Timewise` — two worlds that differ in their schedules only; `World.timewise_alike` says
  that they are alike in all that the library uses.
* `Task.sleep_blind` — sleeping goes alike.
* `Schedule.Ahead.advance` — so does what happens to the clock.
-/

namespace Transactional

/-! ## Schedules -/

namespace Schedule

/-- **Two schedules that differ in who is to look again and in their timers**, at most. -/
structure Twin (c d : Schedule) : Prop where
  starts : c.starts = d.starts
  rest : { c with ready := [], timers := [], aside := [] }
    = { d with ready := [], timers := [], aside := [] }

/-- **Two schedules on which the same jobs are due** at the same time, with as much left of a turn.
-/
structure Akin (c d : Schedule) : Prop where
  starts : c.starts = d.starts
  now : c.now = d.now
  allowance : c.allowance = d.allowance
  nextTask : c.nextTask = d.nextTask

/-- The number of a ticket after one more has been drawn before it. -/
def renumber (ticket t : Nat) : Nat :=
  if t < ticket then t else t + 1

/-- **On the first schedule a ticket has been drawn in addition.** -/
structure Ahead (ticket : Nat) (c d : Schedule) : Prop extends Akin c d where
  next : c.nextTicket = d.nextTicket + 1
  drawn : ticket ≤ d.nextTicket
  settling : c.settling.map Prod.fst = (d.settling.map Prod.fst).map (renumber ticket)

/-- **Whoever waits for everybody else has drawn a ticket.** -/
def Drawn (c : Schedule) : Prop :=
  ∀ entry ∈ c.settling, entry.1 < c.nextTicket

/-- **A relation of schedules that does not see** who is to look again, nor the timers. -/
structure Coarse (P : Schedule → Schedule → Prop) : Prop where
  akin : ∀ {c d}, P c d → c.Akin d
  twin : ∀ {c c' d d'}, P c d → c.Twin c' → d.Twin d' → P c' d'
  takeTicket : ∀ {c d : Schedule}, P c d →
    P { c with nextTicket := c.nextTicket + 1 } { d with nextTicket := d.nextTicket + 1 }
  spend : ∀ {c d : Schedule}, P c d → P c.spend d.spend
  spawn : ∀ {c d : Schedule} (job : Job), P c d → P (c.spawn job) (d.spawn job)

variable {c c' d d' : Schedule} {ticket : Nat}

namespace Twin

lemma refl (c : Schedule) : c.Twin c := ⟨rfl, rfl⟩

lemma trans {e : Schedule} (h : c.Twin d) (h' : d.Twin e) : c.Twin e :=
  ⟨h.starts.trans h'.starts, h.rest.trans h'.rest⟩

lemma wake (task : TaskId) (c : Schedule) : c.Twin (c.wake task) := by
  refine ⟨(starts_wake task c).symm, ?_⟩
  unfold Schedule.wake
  split <;> rfl

lemma stepAside (task : TaskId) (c : Schedule) : c.Twin (c.stepAside task) := by
  refine ⟨(starts_stepAside task c).symm, ?_⟩
  unfold Schedule.stepAside
  split <;> rfl

lemma arm (timer : Timer) (c : Schedule) : c.Twin (c.arm timer) := by
  refine ⟨(starts_arm timer c).symm, ?_⟩
  unfold Schedule.arm
  split <;> rfl

lemma disarm (ticket : Nat) (c : Schedule) : c.Twin (c.disarm ticket) :=
  ⟨rfl, rfl⟩

lemma wakes (wake? : α → Schedule → Schedule) (hwake : ∀ a (c : Schedule), c.Twin (wake? a c))
    (l : List α) (c : Schedule) :
    c.Twin (l.foldl (fun c a => wake? a c) c) := by
  induction l generalizing c with
  | nil => exact refl c
  | cons a rest ih => exact (hwake a c).trans (ih _)

/-- **What does not depend on turns and timers is the same.** -/
lemma same (h : c.Twin d) (part : Schedule → τ)
    (hpart : ∀ c, part { c with ready := [], timers := [], aside := [] } = part c) :
    part c = part d := by
  rw [← hpart c, ← hpart d, h.rest]

lemma akin (h : c.Twin d) : c.Akin d where
  starts := h.starts
  now := h.same Schedule.now fun _ => rfl
  allowance := h.same Schedule.allowance fun _ => rfl
  nextTask := h.same Schedule.nextTask fun _ => rfl

end Twin

lemma starts_advance (time : Nat) (c : Schedule) : (c.advance time).starts = c.starts :=
  (Twin.wakes (fun (timer : Timer) c => c.wake timer.sleeper) (fun timer c => .wake timer.sleeper c)
    _ _).starts.symm

namespace Akin

lemma refl (c : Schedule) : c.Akin c := ⟨rfl, rfl, rfl, rfl⟩

lemma symm (h : c.Akin d) : d.Akin c :=
    ⟨h.starts.symm, h.now.symm, h.allowance.symm, h.nextTask.symm⟩

lemma trans {e : Schedule} (h : c.Akin d) (h' : d.Akin e) : c.Akin e :=
  ⟨h.starts.trans h'.starts, h.now.trans h'.now, h.allowance.trans h'.allowance,
    h.nextTask.trans h'.nextTask⟩

lemma spend (h : c.Akin d) : c.spend.Akin d.spend :=
  ⟨h.starts, h.now, congrArg (· - 1) h.allowance, h.nextTask⟩

lemma spawn (h : c.Akin d) (job : Job) : (c.spawn job).Akin (d.spawn job) :=
  ⟨by
    rw [starts_spawn, starts_spawn, h.starts, h.nextTask], h.now, h.allowance,
      congrArg (· + 1) h.nextTask⟩

lemma erase (h : c.Akin d) (number : TaskId) (job : Job) :
    ({ c with ready := c.ready.erase (.start number job) } : Schedule).Akin
      { d with ready := d.ready.erase (.start number job) } :=
  ⟨by rw [starts_erase, starts_erase, h.starts], h.now, h.allowance, h.nextTask⟩

lemma coarse : Coarse Akin where
  akin := id
  twin h hc hd := hc.akin.symm.trans (h.trans hd.akin)
  takeTicket h := ⟨h.starts, h.now, h.allowance, h.nextTask⟩
  spend := spend
  spawn job h := h.spawn job

end Akin

namespace Ahead

lemma change (h : Ahead ticket c d) (hakin : c'.Akin d')
    (hc : c'.nextTicket = c.nextTicket ∧ c'.settling = c.settling)
    (hd : d'.nextTicket = d.nextTicket ∧ d'.settling = d.settling) : Ahead ticket c' d' where
  toAkin := hakin
  next := by rw [hc.1, hd.1, h.next]
  drawn := by rw [hd.1]; exact h.drawn
  settling := by rw [hc.2, hd.2, h.settling]

lemma coarse (ticket : Nat) : Coarse (Ahead ticket) where
  akin h := h.toAkin
  twin h hc hd :=
    h.change (Akin.coarse.twin h.toAkin hc hd)
      ⟨(hc.same Schedule.nextTicket fun _ => rfl).symm,
        (hc.same Schedule.settling fun _ => rfl).symm⟩
      ⟨(hd.same Schedule.nextTicket fun _ => rfl).symm,
        (hd.same Schedule.settling fun _ => rfl).symm⟩
  takeTicket h := ⟨Akin.coarse.takeTicket h.toAkin, congrArg (· + 1) h.next,
    Nat.le_succ_of_le h.drawn,
    h.settling⟩
  spend h := h.change h.toAkin.spend ⟨rfl, rfl⟩ ⟨rfl, rfl⟩
  spawn job h := h.change (h.toAkin.spawn job) ⟨rfl, rfl⟩ ⟨rfl, rfl⟩

lemma erase (h : Ahead ticket c d) (number : TaskId) (job : Job) :
    Ahead ticket { c with ready := c.ready.erase (.start number job) }
      { d with ready := d.ready.erase (.start number job) } :=
  h.change (h.toAkin.erase number job) ⟨rfl, rfl⟩ ⟨rfl, rfl⟩

/-- **Somebody draws the first ticket** that the other does not draw. -/
lemma draw (hdrawn : c.Drawn) :
    Ahead c.nextTicket { c with nextTicket := c.nextTicket + 1 } c where
  toAkin := ⟨rfl, rfl, rfl, rfl⟩
  next := rfl
  drawn := Nat.le_refl _
  settling := by
    refine ((List.map_id _).symm.trans (List.map_congr_left fun t ht => ?_) :)
    obtain ⟨entry, hentry, rfl⟩ := List.mem_map.mp ht
    exact (if_pos (hdrawn entry hentry)).symm

/-- **The clock moves**, and those whose time has come are woken. -/
lemma advance (h : Ahead ticket c d) (time : Nat) :
    Ahead ticket (c.advance time) (d.advance time) := by
  have hwake : ∀ (timer : Timer) (c : Schedule), c.Twin (c.wake timer.sleeper) :=
    fun timer c => .wake _ c
  have hmoved : Ahead ticket
    { c with now := time, timers := c.timers.dropWhile (·.deadline ≤ time) }
      { d with now := time, timers := d.timers.dropWhile (·.deadline ≤ time) } :=
    h.change ⟨h.starts, rfl, h.allowance, h.nextTask⟩ ⟨rfl, rfl⟩ ⟨rfl, rfl⟩
  exact (coarse ticket).twin hmoved (.wakes (fun (timer : Timer) c => c.wake timer.sleeper)
    hwake _ _)
    (.wakes (fun (timer : Timer) c => c.wake timer.sleeper) hwake _ _)

end Ahead

end Schedule

/-! ## Worlds -/

namespace World

/-- **Two worlds that differ in their schedules only**, and there as it is said. -/
structure Timewise (P : Schedule → Schedule → Prop) (s s' : World) : Prop where
  schedule : P s.schedule s'.schedule
  rest : s = { s' with schedule := s.schedule }

/-- **Two worlds that differ in turns, timers and tickets** only. -/
abbrev Akin : World → World → Prop := Timewise Schedule.Akin

/-- **Two worlds in the first of which one more ticket has been drawn.** -/
abbrev Ahead (ticket : Nat) : World → World → Prop := Timewise (Schedule.Ahead ticket)

variable {P : Schedule → Schedule → Prop} {s s' : World}

lemma akin_refl (s : World) : Akin s s := ⟨.refl _, rfl⟩

namespace Timewise

lemma reschedule {P' : Schedule → Schedule → Prop} (h : Timewise P s s') {f g : Schedule → Schedule}
    (hfg : P s.schedule s'.schedule → P' (f s.schedule) (g s'.schedule)) :
    Timewise P' (Host.schedule.modify f s) (Host.schedule.modify g s') :=
  ⟨hfg h.schedule, congrArg (fun w : World => { w with schedule := f s.schedule }) h.rest⟩

lemma same (h : Timewise P s s') (part : World → τ)
    (hpart : ∀ c (s : World), part { s with schedule := c } = part s) :
    part s = part s' := by
  rw [h.rest, hpart]

lemma part_alike {cell : Cell World τ}
    (hget : ∀ c (s : World), cell.get { s with schedule := c } = cell.get s)
    (hset : ∀ (v : τ) c (s : World), cell.set v { s with schedule := c }
      = { cell.set v s with schedule := c })
    (hschedule : ∀ (v : τ) (s : World), (cell.set v s).schedule = s.schedule) :
    cell.Alike (Timewise P) where
  get h := h.same cell.get hget
  set {s s'} v h := by
    refine ⟨by rw [hschedule, hschedule]; exact h.schedule, ?_⟩
    rw [hschedule, ← hset, ← h.rest]

end Timewise

lemma traces_timewise : (Host.traces : Cell World (List Trace)).Alike (Timewise P) :=
  Timewise.part_alike (fun _ _ => rfl) (fun _ _ _ => rfl) fun _ _ => rfl

/-- **They are alike in all that the library uses.** -/
theorem timewise_alike (hP : Schedule.Coarse P) : World.Alike (Timewise P) where
  allowance h := (hP.akin h.schedule).allowance
  now h := (hP.akin h.schedule).now
  takeTicket h := h.reschedule (f := fun c => { c with nextTicket := c.nextTicket + 1 })
    (g := fun c => { c with nextTicket := c.nextTicket + 1 }) hP.takeTicket
  timer deadline _ :=
    { ready := fun {s s'} h => by
        have hnow : Host.now s = Host.now s' := (hP.akin h.schedule).now
        simp only [Task.timer, hnow]
      register := fun _ h => h.reschedule fun hs => hP.twin hs (.arm _ _) (.arm _ _)
      abandon := fun h => h.reschedule fun hs => hP.twin hs (.disarm _ _) (.disarm _ _) }
  spend h := h.reschedule hP.spend
  stepAside self h := h.reschedule fun hs => hP.twin hs (.stepAside self _) (.stepAside self _)
  wake task h := h.reschedule fun hs => hP.twin hs (.wake task _) (.wake task _)
  spawn job h := h.reschedule (hP.spawn job)
  report trace h := traces_timewise.modify _ h
  backend := Timewise.part_alike (fun _ _ => rfl) (fun _ _ _ => rfl) fun _ _ => rfl
  accounts := Timewise.part_alike (fun _ _ => rfl) (fun _ _ _ => rfl) fun _ _ => rfl
  leases _ := Timewise.part_alike (fun _ _ => rfl) (fun _ _ _ => rfl) fun _ _ => rfl
  leaseCount := Timewise.part_alike (fun _ _ => rfl) (fun _ _ _ => rfl) fun _ _ => rfl

lemma ahead_alike (ticket : Nat) : World.Alike (Ahead ticket) :=
  timewise_alike (Schedule.Ahead.coarse ticket)

end World

/-! ## What programs wait for -/

/-- **Waiting for a number of milliseconds** goes alike. -/
lemma Task.sleep_blind [Host σ] {R : σ → σ → Prop} (A : Host.Alike R) (ms : Nat) :
    (Task.sleep ms : Task σ Unit).Blind R :=
  (Task.takeTimer_mirrors A ms).bind fun _ _ hclock =>
    .wait (A.paced hclock) (.act (fun hs => A.spend (hclock.abandon hs)) fun _ => .done rfl)

end Transactional
