import Transactional.Proofs.Logging.Diary
import Transactional.Proofs.Run.Play
import Transactional.Proofs.Run.Returned
import Transactional.Proofs.Task.Reach
import Transactional.Proofs.Usage.LeftAsFound

/-!
# What is known in the body of a run

While the body of a run goes on, the books of the lease and those of the connection beneath are in
step, whatever its futures do meanwhile, as long as these leave the two alone; and whoever looks
after the lease is waiting.  So wherever the body waits it is known what would be left if it were
given up there.

* `Task.Obeys.both` — a task that keeps to two disciplines at once.
* `World.Undisturbed` — what leaves a lease and its connection alone.
* `lodging` — the discipline of using a lease, with everything that goes on beside it.
* `Lodger` — a connection that keeps the books of a lease; `handedOut_lodger` says that what a
  manager hands out does.
* `Run.Lodged` — the task in front has the lease, and the others look after it; `Run.Lodged.play`
  says that it stays so.
-/

namespace Transactional

/-! ## Two disciplines at once -/

/-- **Two disciplines at once.** -/
def Discipline.both (D : Discipline σ φ) (E : Discipline σ ψ) : Discipline σ (φ × ψ) where
  knows x s := D.knows x.1 s ∧ E.knows x.2 s
  may x s y s' := D.may x.1 s y.1 s' ∧ E.may x.2 s y.2 s'
  waits x ready := D.waits x.1 ready ∧ E.waits x.2 ready

/-- **A task that keeps to two disciplines** keeps to both at once. -/
lemma Task.Obeys.both {D : Discipline σ φ} {E : Discipline σ ψ} {gone : φ → (σ → σ) → Prop}
    {gone' : ψ → (σ → σ) → Prop} {ends : α → φ → Prop} {ends' : α → ψ → Prop} {p : φ} {q : ψ}
    {task : Task σ α} (h : task.Obeys D gone ends p) (h' : task.Obeys E gone' ends' q) :
    task.Obeys (D.both E) (fun x f => gone x.1 f ∧ gone' x.2 f)
      (fun a x => ends a x.1 ∧ ends' a x.2)
      (p, q) := by
  induction task generalizing p q with
  | done a => exact ⟨h, h'⟩
  | act update next ih =>
    intro s hs
    obtain ⟨p', hmay, hp⟩ := h s hs.1
    obtain ⟨q', hmay', hq⟩ := h' s hs.2
    exact ⟨(p', q'), ⟨hmay, hmay'⟩, ih s hp hq⟩
  | wait on next ih =>
    obtain ⟨hwaits, hgone, hregister, hpass⟩ := h
    obtain ⟨hwaits', hgone', hregister', hpass'⟩ := h'
    refine ⟨⟨hwaits, hwaits'⟩, ⟨hgone, hgone'⟩,
      fun self s hs => ⟨hregister self s hs.1, hregister' self s hs.2⟩, fun s hs hready => ?_⟩
    obtain ⟨p', hmay, hp⟩ := hpass s hs.1 hready
    obtain ⟨q', hmay', hq⟩ := hpass' s hs.2 hready
    exact ⟨(p', q'), ⟨hmay, hmay'⟩, ih hp hq⟩

/-! ## What leaves a lease alone -/

namespace World

/-- **What leaves a lease and its connection alone**; the connection does not break either. -/
structure Undisturbed (base number : Nat) (s s' : World) :
    Prop extends Spared base number s s' where
  link : ((Memory.link base).get s').plain = ((Memory.link base).get s).plain

variable {base number : Nat} {s s' : World}

lemma closings_eq_zero : s.closings base number = 0 ↔ ¬∃ n, Company.Due n
    (.close base number) s := by
  simp only [closings, List.countP_eq_zero, decide_eq_true_eq, Company.due_iff]
  constructor
  · rintro h ⟨n, hn⟩
    exact h _ hn rfl
  · rintro h ⟨n, job⟩ hn rfl
    exact h ⟨n, hn⟩

namespace Undisturbed

lemma unclosed (h : Undisturbed base number s s') (hs : s.closings base number = 0) :
    s'.closings base number = 0 :=
  closings_eq_zero.mpr fun hdue => closings_eq_zero.mp hs ((h.due _ (.inr rfl)).mp hdue)

/-- It is something that happens around the lease, unless the lease is to be closed. -/
lemma around (h : Undisturbed base number s s') (hs : s.closings base number = 0) :
    Around base number s s' :=
  ⟨h.calls, h.link, congrArg LeaseState.plain h.lease, (h.unclosed hs).trans hs.symm⟩

lemma schedule {f : Schedule → Schedule} (hf : ∀ c, (f c).starts = c.starts) (s : World) :
    Undisturbed base number s (Host.schedule.modify f s) := by
  refine ⟨⟨rfl, .inl rfl, rfl, rfl, Nat.le_refl _, Nat.le_refl _, fun job _ => exists_congr
    fun n => ?_⟩, rfl⟩
  rw [Company.due_iff, Company.due_iff, Cell.get_modify, hf]

lemma takeTicket (s : World) : Undisturbed base number s (Host.takeTicket s).2 :=
  schedule (f := fun c => { c with nextTicket := c.nextTicket + 1 }) (fun _ => rfl) s

end Undisturbed

end World

/-- **Waiting for a number of milliseconds** leaves a lease and its connection alone. -/
lemma Task.sleep_undisturbed (base number ms : Nat) :
    (Task.sleep ms : Task World Unit).Respects (World.Has base number)
      (World.Undisturbed base number) := by
  refine fun s _ => ⟨(), .takeTicket s, trivial, fun s _ => .schedule (Schedule.starts_disarm _) s,
    fun self s _ => ?_,
    fun s _ _ => ⟨(), .schedule (fun _ => rfl) s, fun s _ => ⟨(), ?_, trivial⟩⟩⟩
  · show World.Undisturbed base number s (if _ then _ else _)
    split
    · exact .schedule (Schedule.starts_arm _) s
    · exact .schedule (Schedule.starts_stepAside _) s
  · exact .schedule (f := fun c => (c.disarm _).spend) (fun _ => rfl) s

/-! ## The discipline -/

/-- The stage of a lodger: how the lease stands, and the books. -/
abbrev Lodging : Type := Standing × LeaseState × Possession

/-- **When nobody is using the lease** it is calm, and the books are in step. -/
def Mirror.lodging (m : Mirror) : Lodging :=
  (.calm, m.stage)

/-- **What is known** of a lease and of its connection, and that nobody is to close the lease. -/
structure Lodges (permit : Bool) (base number : Nat) (x : Lodging) (s : World) : Prop where
  stood : Run.Stood base number x.1 s
  lent : (lending permit base number).knows x.2 s
  unclosed : s.closings base number = 0

/-- **The discipline of using a lease**, with everything that goes on beside it. -/
def lodging (permit : Bool) (base number : Nat) : Discipline World Lodging where
  knows := Lodges permit base number
  may _ _ y s' := Lodges permit base number y s'
  waits _ _ := True

/-- **Where a lodger may be given up**: the books are as it is said, and nothing changes by that. -/
def MayLeave (permit : Bool) (base number : Nat) (P : Mirror → Prop) (x : Lodging)
    (f : World → World) : Prop :=
  (∃ m : Mirror, x.2 = m.stage ∧ P m)
    ∧ ∀ s, Lodges permit base number x s → Lodges permit base number x (f s)

variable {permit : Bool} {base number : Nat} {x : Lodging} {m : Mirror} {P : Mirror → Prop}
  {s s' : World} {α : Type}

lemma Lodges.undisturbed (hs : Lodges permit base number x s)
    (h : World.Undisturbed base number s s') :
    Lodges permit base number x s' :=
  ⟨hs.stood.spared h.toSpared, (h.around hs.unclosed).knows hs.lent, h.unclosed hs.unclosed⟩

lemma Lodges.takeOff (hs : Lodges permit base number x s) {n : TaskId}
    (hdue : Company.Due n (.watch base number) s) :
    Lodges permit base number x (Company.takeOff (.start n (.watch base number)) s) := by
  have hclosings : s.closings base number = _ := World.closings_takeOff hdue
  rw [if_neg (by simp), Nat.add_zero, hs.unclosed] at hclosings
  exact ⟨hs.stood.schedule fun c =>
    { c with ready := c.ready.erase (.start n (.watch base number)) },
    ⟨hs.lent.1, hs.lent.2.link, hs.lent.2.calls⟩, hclosings.symm⟩

/-- **Whoever keeps the lease calm, and its books**, keeps to the discipline. -/
lemma lodging_of_both {gone : Standing → (World → World) → Prop}
    {gone' : LeaseState × Possession → (World → World) → Prop}
    {gone'' : Lodging → (World → World) → Prop}
    {ends : α → Standing → Prop} {ends' : α → LeaseState × Possession → Prop} {task : Task World α}
    (h : task.Obeys (Run.turnwise base number) gone ends x.1)
    (h' : task.Obeys (lending permit base number) gone' ends' x.2)
    (hgone : ∀ x f, gone' x.2 f → gone'' x f) :
    task.Obeys (lodging permit base number) gone'' (fun a y => ends a y.1 ∧ ends' a y.2) x := by
  refine Task.Obeys.map (D := (Run.turnwise base number).both (lending permit base number)) id
    (fun _ _ hs => ⟨hs.stood, hs.lent⟩) ?_ (fun _ _ _ => trivial) (fun _ _ h => hgone _ _ h.2)
      (fun _ _ => id)
    (h.both h')
  rintro p s q s' hs ⟨hstood, hmay⟩
  exact ⟨hstood, ⟨hmay.1, hmay.2.2.1⟩, hmay.2.2.2.1.trans hs.unclosed⟩

/-- **Using the lease** keeps to the discipline. -/
lemma use_lodges (use : Use) (hm : P m) {gone : Standing → (World → World) → Prop}
    {Q : use.Answer → Prop}
    (h : (use.on (Memory.pool.lease base number : Lease World).connection).Obeys
      (Run.turnwise base number)
      gone (fun answer y => y = .calm ∧ Q answer) .calm) :
    (use.on (Memory.pool.lease base number : Lease World).connection).Obeys
      (lodging permit base number)
      (MayLeave permit base number P) (fun answer y => y = (m.after base ⟨use, answer⟩).lodging
        ∧ Q answer)
      m.lodging := by
  have hlent : (use.on (Memory.pool.lease base number : Lease World).connection).Obeys
      (lending permit base number) (fun y f => y = m.stage ∧ f = id)
      (fun answer y => m.Allows ⟨use, answer⟩ ∧ y = (m.after base ⟨use, answer⟩).stage) m.stage :=
    Use.obeys ⟨rfl, rfl⟩ use
  refine (lodging_of_both h hlent ?_).imp ?_
  · rintro x _ ⟨hx, rfl⟩
    exact ⟨⟨m, hx, hm⟩, fun _ hs => hs⟩
  · rintro answer ⟨_, _⟩ ⟨⟨rfl, hQ⟩, -, rfl⟩
    exact ⟨rfl, hQ⟩

/-! ## Connections -/

def Mirror.Open (m : Mirror) : Prop :=
  m.transaction = true

/-- **A connection that keeps the books of a lease**, and is closed with it. -/
structure Lodger (permit : Bool) (base number : Nat) (conn : Connection World) : Prop where
  close : conn.close = (Memory.pool.lease base number : Lease World).shutdown .closed
  drop : conn.drop = (Memory.pool.lease base number : Lease World).drop
  rollback : ∀ m : Mirror, conn.rollback.run.Obeys (lending permit base number) (fun _ _ => True)
    (fun r y => y = (m.after base ⟨.rollback, r⟩).stage) m.stage
  begin : ∀ m : Mirror, conn.begin.run.Obeys (lodging permit base number)
    (MayLeave permit base number fun _ => True)
    (fun r y => ∃ m' : Mirror, y = m'.lodging ∧ (r = .ok () → m'.Open)) m.lodging
  body : conn.Abides (lodging permit base number) (MayLeave permit base number Mirror.Open)
    (fun y => ∃ m : Mirror, y = m.lodging ∧ m.Open) (fun _ => True) base

lemma lease_lodger :
    Lodger permit base number (Memory.pool.lease base number : Lease World).connection := by
  have hcalm : Run.Calm base number (Memory.pool.lease base number : Lease World).connection :=
    Run.lease_calm
  have hopen : ∀ {use : Use} {answer : use.Answer} {m : Mirror}, m.Open →
      (∀ before, Answered.transaction ⟨use, answer⟩ before = before) →
        (m.after base ⟨use, answer⟩).Open :=
    fun hm hsame => (hsame _).trans hm
  refine ⟨rfl, rfl, fun m => (Use.obeys trivial .rollback).imp fun _ _ h => h.2, fun m => ?_,
    ?_, ?_, ?_⟩
  · refine (use_lodges (Q := fun _ => True) .begin trivial
      ((Run.turnwise_of_swift hcalm.begin).imp fun _ _ h => ⟨h, trivial⟩)).imp ?_
    rintro r _ ⟨rfl, -⟩
    exact ⟨_, rfl, fun hr => by subst hr; rfl⟩
  · rintro sql kind hprepare hdestroy _ ⟨m, rfl, hm⟩
    refine (use_lodges (.prepare sql kind) hm
      (hcalm.stays.prepare sql kind trivial trivial _ rfl)).imp ?_
    rintro r _ ⟨rfl, hQ⟩
    exact ⟨⟨_, rfl, hopen hm fun _ => by cases r <;> rfl⟩, hQ⟩
  · rintro handle bindings hasked _ ⟨m, rfl, hm⟩
    refine (use_lodges (.execute handle bindings) hm
      (hcalm.stays.execute handle bindings trivial _ rfl)).imp ?_
    rintro r _ ⟨rfl, hQ⟩
    exact ⟨⟨_, rfl, hopen hm fun _ => by cases r <;> rfl⟩, hQ⟩
  · rintro handle hasked _ ⟨m, rfl, hm⟩
    refine (use_lodges (.destroy handle) hm (hcalm.stays.destroy handle trivial _ rfl)).imp ?_
    rintro r _ ⟨rfl, hQ⟩
    exact ⟨⟨_, rfl, hopen hm fun _ => rfl⟩, hQ⟩

lemma StatementLog.undisturbed (log : StatementLog) (line : String) (s : World) :
    World.Undisturbed base number s (log.write line s) := by
  have hsame : (log.write line s).SameSilent s := log.silenced_write line s
  have houtside : World.Outside base number (fun _ => ([] : List Unit)) s (log.write line s) :=
    hsame.outside rfl
  exact ⟨houtside.toSpared,
    hsame.same (fun s => ((Memory.link base).get s).plain) fun _ => rfl⟩

/-- What is known of a lease and of its connection has nothing to do with logs and reports. -/
lemma lending_stay {y : LeaseState × Possession} (hs : (lending permit base number).knows y s)
    (h : s'.SameSilent s) : (lending permit base number).may y s y s' :=
  ⟨(h.same (fun s => ((LeaseHost.leases number).get s).plain) fun _ => rfl).trans hs.1, id,
    ⟨(h.same (fun s => ((Memory.link base).get s).plain) fun _ => rfl).trans hs.2.link,
      (h.same (fun s => s.callsOn base) fun _ => rfl).trans hs.2.calls⟩,
    h.same (fun s => s.closings base number) fun _ => rfl,
    .inl ⟨rfl, h.same (fun s => s.accounts.released) fun _ => rfl, fun _ => rfl⟩⟩

lemma Lodger.logged {conn : Connection World} (L : Lodger permit base number conn)
    (log : StatementLog) :
    Lodger permit base number (conn.logged log.write) where
  close := L.close
  drop := L.drop
  rollback m s hs := ⟨m.stage, lending_stay hs (log.silenced_write _ s), L.rollback m⟩
  begin m s hs := ⟨m.lodging, hs.undisturbed (log.undisturbed _ s), L.begin m⟩
  body :=
    { prepare := L.body.prepare
      execute := by
        rintro handle bindings hasked x hx s hs
        exact ⟨x, hs.undisturbed (log.undisturbed _ s), L.body.execute handle bindings hasked x hx⟩
      destroy := L.body.destroy }

/-- **A manager of the scripted backend** that hands out leases as they are, or with a log. -/
structure Manager.Scripted (manager : Manager World) : Prop where
  pool : manager.pool = Memory.pool
  wrapping : manager.wrapping = none
    ∨ ∃ log : StatementLog, manager.wrapping = some (Connection.logged log.write)

lemma handedOut_lodger {manager : Manager World} (h : manager.Scripted) :
    Lodger permit base number (manager.handedOut (base, number)) := by
  unfold Manager.handedOut
  rw [h.pool]
  obtain hnone | ⟨log, hsome⟩ := h.wrapping
  · simp only [Manager.wrap, hnone]
    exact lease_lodger
  · simp only [Manager.wrap, hsome]
    exact lease_lodger.logged log

namespace Lodger

variable {conn : Connection World} (L : Lodger permit base number conn) {program : Program World}
  (hlifts : program.Lifts fun task =>
    task.Respects (World.Has base number) (World.Undisturbed base number))

include L hlifts

/-- **The body of a run** keeps to the discipline, if its futures leave the lease and its connection
alone. -/
theorem runOn (hm : m.Open) :
    (program.runOn conn).Obeys (lodging permit base number)
      (MayLeave permit base number Mirror.Open)
      (fun _ y => ∃ m' : Mirror, y = m'.lodging ∧ m'.Open) m.lodging := by
  have hfutures : program.Lifts fun task => task.Abides (lodging permit base number)
      (MayLeave permit base number Mirror.Open) (fun y => ∃ m : Mirror, y = m.lodging ∧ m.Open)
        fun _ => True := by
    refine hlifts.imp ?_
    rintro task htask _ ⟨m, rfl, hm⟩
    refine (Task.Obeys.of_respects (D := lodging permit base number) htask
      (fun _ hs => hs.stood.has)
      (fun _ _ hs h => hs.undisturbed h) (fun _ _ => trivial)
      fun f hf => ⟨⟨m, rfl, hm⟩, fun s hs => hs.undisturbed (hf s hs.stood.has)⟩).imp ?_
    rintro _ _ rfl
    exact ⟨⟨m, rfl, hm⟩, trivial⟩
  rw [program.runOn_eq_result, program.result_eq_account]
  refine (L.body.account program (fun _ _ => trivial) hfutures _ ⟨m, rfl, hm⟩).bind ?_
  rintro told y ⟨hy, -⟩
  exact hy

/-- **So it does with a limit**; when it is given up, the books are as they were where it waited. -/
theorem raced (hm : m.Open) (ticket deadline : Nat) :
    ((program.runOn conn).race (Task.timer ticket deadline)).Obeys (lodging permit base number)
      (MayLeave permit base number Mirror.Open) (fun _ y => ∃ m' : Mirror, y.2 = m'.stage ∧ m'.Open)
        m.lodging := by
  have hset : ∀ {x s}, Lodges permit base number x s → ∀ self,
      Lodges permit base number x ((Task.timer ticket deadline : Wait World).register self s) :=
    fun hs _ => hs.undisturbed (.schedule (Schedule.starts_arm _) _)
  have hback : ∀ {x s}, Lodges permit base number x s →
      Lodges permit base number x ((Task.timer ticket deadline : Wait World).abandon s) :=
    fun hs => hs.undisturbed (.schedule (Schedule.starts_disarm _) _)
  refine Task.Obeys.race (L.runOn hlifts hm) (fun _ _ => id) (fun _ _ => id)
    (fun _ self _ _ h => hset h self)
    (fun x f h => ⟨h.1, fun s hs => hback (h.2 s hs)⟩) ?_ ?_
  · rintro a _ s ⟨m', rfl, hm'⟩ hs
    exact ⟨_, hback hs, m', rfl, hm'⟩
  · rintro x f s ⟨hbooks, hkept⟩ hs
    exact ⟨x, (hback (hkept s hs)).undisturbed (.schedule Schedule.starts_spend _), hbooks⟩

end Lodger

/-! ## Companies -/

namespace Run

/-- **What may happen around a run whose connection does not end**: those who look after its lease
begin when they are due, and everybody else leaves the lease and its connection alone. -/
abbrev Peaceful (base number : Nat) : World → Company.Move World → Prop :=
  Sparing base number (World.Undisturbed base number)

/-- **The task in front has the lease**, and the others look after it. -/
structure Lodged (permit : Bool) (base number : Nat) (P : Mirror → Prop) (ends : α → Lodging → Prop)
    (c : Company World α) : Prop where
  front : ∃ x, (∃ m : Mirror, x.2 = m.stage) ∧ Lodges permit base number x c.state
    ∧ c.front.Obeys (lodging permit base number) (MayLeave permit base number P) ends x
  beside : ∀ strand ∈ c.beside, strand = ⟨(Memory.pool.lease base number).watch false, false⟩

variable {ends : α → Lodging → Prop} {c : Company World α}

lemma unended (hs : Lodges permit base number x s) (hx : x.2 = m.stage) :
    (Memory.pool.lease base number : Lease World).eitherEnd.ready s = false := by
  obtain ⟨y, z⟩ := x
  obtain rfl : z = m.stage := hx
  have hlink : ((Memory.link base).get s).plain = _ := hs.lent.2.link
  have hstatus : ((Memory.link base).get s).signal.status = .open :=
    congrArg (fun l : Memory.Link => l.signal.status) hlink
  have halive : ((Memory.link base).get s).alive = true := congrArg Memory.Link.alive hlink
  have hown : ((LeaseHost.leases number).get s).signal.status = .open :=
    congrArg (fun state : LeaseState => state.signal.status) hs.lent.1
  have hbase : (Memory.pool.lease base number : Lease World).base.watch.ending? s = none := by
    simp [Watch.ending?, Pool.lease, Memory.pool, Memory.connection, hstatus, halive,
      Status.isTerminal]
  have hlease : (Memory.pool.lease base number : Lease World).watching.ending? s = none := by
    simp [Watch.ending?, Lease.watching, Pool.lease, hown, Status.isTerminal]
  simp only [Lease.eitherEnd, hbase, hlease, Option.isSome_none, Bool.or_false]

namespace Lodged

variable (hends : ∀ a x, ends a x → ∃ m : Mirror, x.2 = m.stage)

include hends

/-- **Whatever happens, it stays so.** -/
lemma take (h : Lodged permit base number P ends c) {move : Company.Move World}
    (hmove : Peaceful base number c.state move) :
    Lodged permit base number P ends (c.take Memory.pool.perform move) := by
  obtain ⟨s, front, beside⟩ := c
  obtain ⟨⟨x, ⟨m, hx⟩, hs, hobeys⟩, hbeside⟩ := h
  cases move with
  | front =>
    obtain ⟨y, hy, hknows, -⟩ := hobeys.poll (R := fun _ _ => True) (fun _ => trivial)
      (fun _ _ => trivial)
      (fun _ hmay => ⟨hmay, trivial⟩) Company.frontTask hs
    refine ⟨⟨y, ?_, hknows, hy⟩, hbeside⟩
    have hrests := Company.rests_poll Company.frontTask front s
    cases htask : (front.poll Company.frontTask s).1 with
    | done a => rw [htask] at hy; exact hends a y hy
    | act update next => rw [htask] at hrests; exact hrests.elim
    | wait on next =>
      rw [htask] at hy
      obtain ⟨⟨m', hm', -⟩, -⟩ := hy.2.1
      exact ⟨m', hm'⟩
  | beside place self =>
    simp only [Company.take]
    cases hplace : beside[place]? with
    | none => exact ⟨⟨x, ⟨m, hx⟩, hs, hobeys⟩, hbeside⟩
    | some strand =>
      obtain rfl := hbeside strand (List.mem_of_getElem? hplace)
      have hpoll : ((Memory.pool.lease base number : Lease World).watch false).poll self s
          = ((Memory.pool.lease base number).watch false,
            (Memory.pool.lease base number).eitherEnd.register self s) := by
        rw [Lease.watch, Task.poll, unended hs hx]
        rfl
      simp only [hpoll]
      have haround : World.Around base number s _ := around_register self s
      refine ⟨⟨x, ⟨m, hx⟩, ⟨hs.stood.watched self, haround.knows hs.lent,
        haround.closings.trans hs.unclosed⟩, hobeys⟩, fun other hother => ?_⟩
      rcases List.mem_or_eq_of_mem_set hother with hother | rfl
      · exact hbeside other hother
      · rfl
  | start n job =>
    simp only [Company.take]
    split
    next hdue =>
      rcases hmove with rfl | rfl
      · refine ⟨⟨x, ⟨m, hx⟩, hs.takeOff hdue, hobeys⟩, fun other hother => ?_⟩
        rcases List.mem_append.mp hother with hother | hother
        · exact hbeside other hother
        · exact List.mem_singleton.mp hother
      · exact absurd ⟨n, hdue⟩ (World.closings_eq_zero.mp hs.unclosed)
    next => exact ⟨⟨x, ⟨m, hx⟩, hs, hobeys⟩, hbeside⟩
  | around change => exact ⟨⟨x, ⟨m, hx⟩, hs.undisturbed hmove, hobeys⟩, hbeside⟩

lemma play (h : Lodged permit base number P ends c) {moves : List (Company.Move World)}
    (hmoves : Company.Heeds Memory.pool.perform (Peaceful base number) c moves) :
    Lodged permit base number P ends (c.play Memory.pool.perform moves) := by
  induction moves generalizing c with
  | nil => exact h
  | cons move rest ih => exact ih (h.take hends hmoves.1) hmoves.2

omit hends in
/-- **In the turn in which the task in front comes to its end** it is known where. -/
lemma reach (h : Lodged permit base number P ends c) {a : α}
    (hreach : c.front.reach c.state = (.done a, s)) :
    ∃ x, ends a x ∧ Lodges permit base number x s := by
  obtain ⟨x, -, hs, hobeys⟩ := h.front
  obtain ⟨y, hy, hknows, -⟩ := hobeys.reach (R := fun _ _ _ _ => True) (fun _ _ => trivial)
    (fun _ _ => trivial) (fun _ hmay => ⟨hmay, trivial⟩) hs
  rw [hreach] at hy hknows
  exact ⟨y, hy, hknows⟩

end Lodged

/-! ## Getting hold of the lease -/

/-- What happens peacefully makes no difference to a run that looks for a lease. -/
lemma Seeks.peaceful {c : Company World (Except Fault (Nat × Nat))} (h : Seeks base number c)
    {move : Company.Move World} (hmove : Peaceful base number c.state move)
    (hnone : (c.take Memory.pool.perform move).front.result? = none) :
    Seeks base number (c.take Memory.pool.perform move) := by
  cases move with
  | beside place self =>
    have hsame : c.take Memory.pool.perform (.beside place self) = c := by
      simp only [Company.take, h.beside, List.getElem?_nil]
    rw [hsame]
    exact h
  | front => exact h.take trivial hnone
  | start n job =>
    have hconsiderate : Considerate base number c.state (.start n job) := hmove
    exact h.take hconsiderate hnone
  | around change =>
    have hconsiderate : Considerate base number c.state (.around change) := hmove.toSpared
    exact h.take hconsiderate hnone

/-- **When a run has got hold of a lease**, the lease is new, and so is its connection; nobody looks
after it. -/
theorem fresh_of_until {manager : Manager World} (hpool : manager.pool = Memory.pool)
    {sink : Sink World}
    {limit : Option Duration} {program : Program World} {s₀ : World}
    {may : World → Company.Move World → Prop}
    (hown : ∀ s, may s .front)
    (htake : ∀ {c move}, Seeks base number c → may c.state move →
      (c.take Memory.pool.perform move).front.result? = none → Seeks base number
        (c.take Memory.pool.perform move))
    (hundue : Undue base number s₀) {early late : List (Company.Move World)}
    (hheeds : Company.Heeds Memory.pool.perform may
      (Company.opening (runWith manager sink limit program).run s₀) (early ++ late))
    (huntil : Until manager s₀ (.ok (base, number)) early) :
    Stood base number .calm (grabbing manager s₀ early).state ∧ Fresh base number
      (grabbing manager s₀ early).state
      ∧ (grabbing manager s₀ early).beside = [] := by
  have htracks : Tracks manager sink limit program may (Seeks base number) fun _ _ => True := by
    refine ⟨hown, fun hseeks hmove hnone => ?_, fun _ _ => trivial, fun _ _ => trivial⟩
    rw [hpool] at hnone ⊢
    exact htake hseeks hmove hnone
  rw [← hpool] at hheeds
  obtain ⟨hdone, before, hbefore, hnone⟩ := huntil
  have hseeks := htracks.seeks_of_wait ⟨grab_seeks hpool, hundue, rfl⟩ hheeds
    (show .front :: (early ++ late) = before ++ .front :: late by
      rw [← List.cons_append, hbefore, List.append_assoc]; rfl) hnone
  have hturn : grabbing manager s₀ early
      = (Company.play manager.pool.perform ⟨s₀, manager.grab.run, []⟩ before).take
        Memory.pool.perform .front := by
    rw [grabbing, hbefore, Company.play_concat]
    rfl
  rw [hturn] at hdone ⊢
  obtain ⟨hstood, hfresh⟩ := hseeks.turn.1 hdone
  exact ⟨hstood, hfresh, hseeks.beside⟩

/-- **So it has the lease**, with nothing in its books. -/
lemma Fresh.lodges (hstood : Stood base number .calm s) (hfresh : Fresh base number s) :
    Lodges true base number (s.opening base 1).lodging s := by
  refine ⟨hstood, ⟨?_, ?_, rfl⟩, World.closings_eq_zero.mpr hfresh.unclosed⟩
  · exact congrArg LeaseState.plain hfresh.lease
  · exact congrArg Memory.Link.plain hfresh.link

end Run

end Transactional
