import Transactional.Proofs.Run.Course
import Transactional.Proofs.Run.Standing
import Transactional.Proofs.Run.Tracked
import Transactional.Proofs.Task.Reach

/-!
# A run gives its connection back

Whatever becomes of a run on the scripted backend, and whoever looks after its lease meanwhile: when
the run is over, its connection has been given back, and nobody holds it any longer.

* `Run.Calm` — a connection that leaves a lease calm until it is closed; `Run.Calm.onAccount` says
  that a transaction on it closes it.
* `Run.leaseSearch`, `Run.grab_seeks` — how a run gets hold of a lease.
* `Run.Considerate`, `Run.Secluded` — what may happen around a run.
* `Run.Seeks`, `Run.Attended` — what is true of a run before and after it has got hold of a lease.
* **`Run.Secluded.returned`** — what is true when it is over.
-/

namespace Transactional

namespace Run

/-- How a lease should stand between turns, whatever somebody waits for. -/
abbrev atRest (x : Standing) (_ : World → Bool) : Prop :=
  x = .calm ∨ x = .marked

/-- The same where one waits for nothing but another turn. -/
abbrev atPause (x : Standing) (ready : World → Bool) : Prop :=
  (x = .calm ∨ x = .marked) ∧ ready = (Task.pause : Wait World).ready

/-- **The discipline of a run on its lease**, which is left as it should stand between turns. -/
abbrev turnwise (base number : Nat) : Discipline World Standing :=
  standing atRest base number

/-- The same of somebody who never waits but for another turn. -/
abbrev swift (base number : Nat) : Discipline World Standing :=
  standing atPause base number

/-- **A connection that leaves a lease calm** until it is closed. -/
structure Calm (base number : Nat) (conn : Connection World) : Prop where
  begin : conn.begin.run.Obeys (swift base number) (fun _ _ => True) (fun _ y => y = .calm) .calm
  commit : conn.commit.run.Obeys (swift base number) (fun _ _ => True) (fun _ y => y = .calm) .calm
  rollback : conn.rollback.run.Obeys (swift base number) (fun _ _ => True)
    (fun _ y => y = .calm) .calm
  close : conn.close.Obeys (swift base number) (fun _ _ => True) (fun _ y => y = .returned) .calm
  stays : conn.Stays (turnwise base number) (· = .calm) (fun _ => True) base
  drop : ∀ s, Stood base number .returned s → conn.drop s = s

variable {base number : Nat} {s s' : World} {α : Type}

/-- Whoever waits but for another turn leaves the lease as it should stand between turns. -/
lemma turnwise_of_swift {gone : Standing → (World → World) → Prop} {ends : α → Standing → Prop}
    {x : Standing}
    {task : Task World α} (h : task.Obeys (swift base number) gone ends x) :
    task.Obeys (turnwise base number) gone ends x :=
  Task.Obeys.map (D := swift base number) id (fun _ _ => id) (fun _ _ _ _ _ => id)
    (fun _ _ h => h.1)
    (fun _ _ => id) (fun _ _ => id) h

lemma lease_calm : Calm base number (Memory.pool.lease base number : Lease World).connection := by
  have hcall : ∀ {call : Memory.Call} (pick : Memory.Failures → Option String)
      {after : LeaseState → LeaseState}, call.number = base → (∀ _ : Unit, Lease.Notes after) →
      ((Memory.pool.lease base number).operate (Memory.plainCall base call pick) fun _ =>
        after).run.Obeys
        (swift base number) (fun _ _ => True) (fun _ y => y = .calm) .calm := by
    intro call pick after hcall hafter
    refine (standing_operate (Q := fun _ => True) (fun gone => ?_) trivial hafter ⟨.inl rfl, rfl⟩
      trivial).imp
      fun _ _ h => h.1
    exact (standing_plainCall hcall pick).imp fun _ _ h => ⟨h, trivial⟩
  have hcalm : Company.Leaves (turnwise base number) (· = .calm) .calm id :=
    fun s hs => ⟨.calm, hs, rfl⟩
  refine ⟨hcall Memory.Failures.begin rfl fun _ _ => rfl, hcall Memory.Failures.commit rfl
    fun _ _ => rfl,
    hcall Memory.Failures.rollback rfl fun _ _ => rfl, standing_shutdown .closed
      ⟨.inr rfl, rfl⟩ trivial,
    ⟨?_, ?_, ?_⟩, fun s hs => if_pos hs.lease.closed⟩
  · rintro sql kind - - _ rfl
    refine standing_operate (fun gone => ?_) nofun (fun _ _ => rfl) (.inl rfl) hcalm
    exact Memory.prepare_obeys fun s s' hs hworks outcome hsql =>
      ⟨.used, hs.works hworks, rfl, hsql⟩
  · rintro handle bindings - _ rfl
    refine standing_operate (fun gone => ?_) trivial (fun _ _ => rfl) (.inl rfl) hcalm
    exact Memory.execute_obeys fun s s' hs hworks outcome => ⟨.used, hs.works hworks, rfl, trivial⟩
  · rintro handle - _ rfl s hs
    exact ⟨.calm, hs.destroy handle, rfl, trivial⟩

lemma Calm.logged {conn : Connection World} (C : Calm base number conn)
    {write : String → World → World}
    (hwrite : ∀ line s, World.Has base number s → World.Spared base number s (write line s)) :
    Calm base number (conn.logged write) where
  begin s hs := ⟨.calm, hs.spared (hwrite _ s hs.has), C.begin⟩
  commit s hs := ⟨.calm, hs.spared (hwrite _ s hs.has), C.commit⟩
  rollback s hs := ⟨.calm, hs.spared (hwrite _ s hs.has), C.rollback⟩
  close := C.close
  stays :=
    { prepare := C.stays.prepare
      execute := by
        rintro handle bindings hasked _ rfl s hs
        exact ⟨.calm, hs.spared (hwrite _ s hs.has), C.stays.execute handle bindings hasked _ rfl⟩
      destroy := C.stays.destroy }
  drop := C.drop

lemma handedOut_calm {manager : Manager World}
    (hmanager : manager.Plain base number (World.Spared base number)) :
    Calm base number (manager.handedOut (base, number)) := by
  unfold Manager.handedOut
  rw [hmanager.pool]
  obtain hnone | ⟨write, hsome, hwrite⟩ := hmanager.wrapping
  · simp only [Manager.wrap, hnone]
    exact lease_calm
  · simp only [Manager.wrap, hsome]
    exact lease_calm.logged hwrite

lemma turnwise_timeless : (turnwise base number).Timeless where
  stay hs := hs
  after _ h := h.schedule _
  either _ h := h

namespace Calm

variable {conn : Connection World} (C : Calm base number conn)

include C

/-- **Undoing a transaction** gives the connection back. -/
lemma undo (cause : Fault) :
    (Run.undo conn cause).Obeys (swift base number) (fun _ _ => True) (fun _ y => y = .returned)
      .calm := by
  unfold Run.undo rollbackQuietly
  rw [Task.bind_assoc]
  refine C.rollback.bind ?_
  rintro (fault | _) _ rfl
  · exact fun s hs => ⟨.calm, hs.report _, C.close.bind fun _ _ h => h⟩
  · exact C.close.bind fun _ _ h => h

variable {sink : Sink World} (hsink : ∀ event s, World.Has base number s →
  World.Spared base number s (sink.publish event s))

include hsink

omit C in
lemma publishAll (events : List Event) {x : Standing} (hs : Stood base number x s) :
    Stood base number x (sink.publishAll events s) := by
  induction events generalizing s with
  | nil => exact hs
  | cons event rest ih => exact ih (hs.spared (hsink event s hs.has))

/-- **Committing a transaction** gives the connection back, whether it succeeds or not. -/
lemma conclude (value : Value) (events : List Event) :
    (Run.conclude conn sink value events).Obeys (turnwise base number) (fun _ _ => True)
      (fun _ y => y = .returned) .calm := by
  unfold Run.conclude
  refine (turnwise_of_swift C.commit).bind ?_
  rintro (fault | _) _ rfl
  · exact fun s hs => ⟨.calm, hs.report _, turnwise_of_swift (C.undo fault)⟩
  · refine (turnwise_of_swift C.close).bind ?_
    rintro _ _ rfl s hs
    exact ⟨.returned, publishAll hsink events hs, rfl⟩

/-- **A transaction gives its connection back**, however it ends. -/
theorem onAccount (limit : Option Duration) {program : Program World}
    (hlifts : program.Lifts fun task => task.Respects (World.Has base number)
      (World.Spared base number)) :
    (Run.onAccount conn sink limit program).Obeys (turnwise base number) (fun _ _ => True)
      (fun _ y => y = .returned) .calm := by
  have hbody := C.stays.bodyAccount turnwise_timeless limit program (fun _ _ => trivial)
    <| hlifts.imp
    fun task htask => Task.Stays.of_respects htask (fun _ _ _ hs => hs.has)
      (fun _ _ _ _ hs h => hs.spared h) fun _ _ hx _ => .inl hx
  unfold Run.onAccount
  refine (turnwise_of_swift C.begin).bind ?_
  rintro (fault | _) _ rfl
  · exact (turnwise_of_swift C.close).bind fun _ _ h => h
  refine ((hbody _ rfl).mono (fun _ _ _ => trivial) fun _ _ h => h.1).bind ?_
  rintro ⟨fault | value, deeds⟩ _ rfl
  · exact (turnwise_of_swift (C.undo fault)).bind fun _ _ h => h
  · exact (C.conclude hsink value _).bind fun _ _ h => h

end Calm

/-! ## Getting hold of a lease -/

/-- **Nobody is to look after a lease.** -/
def Undue (base number : Nat) (s : World) : Prop :=
  ∀ job, job = .watch base number ∨ job = .close base number → ¬∃ n, Company.Due n job s

lemma Undue.of_starts (h : Undue base number s) (hstarts : s'.schedule.starts = s.schedule.starts) :
    Undue base number s' := by
  rintro job hjob ⟨n, hn⟩
  rw [Company.due_iff] at hn
  exact h job hjob ⟨n, Company.due_iff.mpr (hstarts ▸ hn)⟩

/-- **How far somebody has come in getting hold of a lease.** -/
inductive LeaseSearch where
  | seeking
  | opened (n : Nat)
  | leased (n m : Nat)

/-- **A lease that has just been started**, on a connection that has just been opened. -/
structure Fresh (base number : Nat) (s : World) : Prop where
  lease : (LeaseHost.leases number).get s = {}
  link : (Memory.link base).get s = { hasPermit := true }
  unclosed : ¬∃ n, Company.Due n (.close base number) s

/-- **What is true then**: nobody is to look after the lease before it is there. -/
def LeaseSearch.Knows (base number : Nat) (s : World) : LeaseSearch → Prop
  | .seeking => Undue base number s
  | .opened n =>
    Undue base number s ∧ n ≤ s.backend.linkCount ∧ (Memory.link n).get s = { hasPermit := true }
  | .leased n m => n = base → m = number → Stood base number .calm s ∧ Fresh base number s

/-- **The discipline of getting hold of a lease.** -/
def leaseSearch (base number : Nat) : Discipline World LeaseSearch where
  knows x s := x.Knows base number s
  may _ _ y s' := y.Knows base number s'
  waits x _ := x = .seeking

def Reaches : Except Fault Nat → LeaseSearch → Prop
  | .ok n, x => x = .opened n
  | .error _, x => x = .seeking

lemma openLink_seeks : (Memory.openLink true : Attempt World Nat).run.Obeys
    (leaseSearch base number)
    (fun _ _ => True) Reaches .seeking := by
  refine Attempt.obeys_bind (?_ : Task.Obeys _ _ (fun r x => r.toBool = true ∧ Reaches r x) _ _) ?_
    (fun _ _ h => Bool.noConfusion h.1)
  · refine fun s hs => ⟨.opened (Memory.newLink true s).1,
      ⟨hs.of_starts rfl, Nat.le_refl _, ?_⟩, rfl, rfl⟩
    exact (Memory.link (s.backend.linkCount + 1)).get_set _ _
  rintro n _ ⟨-, rfl⟩
  have hconnect : (Memory.connection n : Connection World).connect.run.Obeys
    (leaseSearch base number)
      (fun _ _ => True) (fun _ x => x = .opened n) (.opened n) :=
    Memory.plainCall_obeys fun s hs => ⟨.opened n, ⟨hs.1.of_starts rfl, hs.2⟩, rfl⟩
  refine hconnect.bind ?_
  rintro (fault | _) _ rfl
  · refine fun s hs => ⟨.seeking, hs.1.of_starts ?_, rfl⟩
    exact Memory.drop_same (fun s => s.schedule.starts) n s (fun _ _ => rfl) (fun _ _ => rfl)
      (fun _ _ hc => hc) fun _ _ => rfl
  · rfl

lemma checkout_seeks : (Memory.checkout : Attempt World Nat).run.Obeys (leaseSearch base number)
    (fun _ _ => True) Reaches .seeking := by
  have hpermit : (Semaphore.acquire Memory.permits : Task World Bool).Obeys
    (leaseSearch base number)
      (fun _ _ => True) (fun _ x => x = .seeking) .seeking :=
    Task.Obeys.of_respects (Semaphore.acquire_respects Memory.permits) (fun _ _ => trivial)
      (fun s s' hs h => Undue.of_starts hs (h.same (fun s => s.schedule.starts) (fun _ _ => rfl)
        (fun _ _ hc => hc) fun _ _ => rfl)) (fun _ _ => rfl) fun _ _ => trivial
  refine Attempt.obeys_bind (?_ : Task.Obeys _ _ (fun r x => r.toBool = true ∧ x = .seeking) _ _) ?_
    (fun _ _ h => Bool.noConfusion h.1)
  · exact hpermit.bind fun had x hx => ⟨rfl, hx⟩
  rintro had _ ⟨-, rfl⟩
  cases had with
  | false => rfl
  | true =>
    refine Attempt.obeys_bind openLink_seeks ?_ fun _ _ h => h
    rintro n _ rfl
    exact fun s hs => ⟨.opened n, ⟨hs.1.of_starts rfl, hs.2⟩, rfl⟩

/-- **Whoever gets hold of a lease finds it calm.** -/
theorem grab_seeks {manager : Manager World} (hpool : manager.pool = Memory.pool) :
    manager.grab.run.Obeys (leaseSearch base number) (fun _ _ => True)
      (fun r x => ∀ n m, r = .ok (n, m) → x = .leased n m) .seeking := by
  obtain ⟨pool, closed, wrapping, timeout⟩ := manager
  obtain rfl : pool = Memory.pool := hpool
  refine Attempt.obeys_bind (?_ : Task.Obeys _ _ (fun _ x => x = .seeking) _ _) ?_
    fun _ _ _ _ _ => nofun
  · intro s hs
    refine ⟨.seeking, hs, ?_⟩
    dsimp only
    split <;> rfl
  rintro _ _ rfl
  refine Attempt.obeys_bind checkout_seeks ?_ fun _ _ _ _ _ => nofun
  rintro n _ rfl s ⟨hundue, hlink⟩
  refine ⟨.leased n s.leaseCount, ?_, fun _ _ => ?_⟩
  · rintro rfl rfl
    have hlease : (LeaseHost.leases s.leaseCount).get (Pool.startWatchedLease n s).2 = {} :=
      (LeaseHost.leases s.leaseCount).get_set {} s
    refine ⟨⟨.inl ?_, fun h => ?_, hlink.1, Nat.lt_succ_self _⟩, hlease, hlink.2, ?_⟩
    · rw [hlease]
      exact ⟨rfl, rfl, rfl, rfl, rfl, rfl⟩
    · rw [hlease] at h
      cases h
    · rintro ⟨m, hm⟩
      have hstarts : (Pool.startWatchedLease n s).2.schedule.starts
          = s.schedule.starts ++ [(s.schedule.nextTask, .watch n s.leaseCount)] :=
            Schedule.starts_spawn _ s.schedule
      have hm := Company.due_iff.mp hm
      rw [show (Host.schedule.get (Pool.startWatchedLease n s).2).starts = _ from hstarts] at hm
      rcases List.mem_append.mp hm with hm | hm
      · exact hundue _ (.inr rfl) ⟨m, Company.due_iff.mpr hm⟩
      · simp at hm
  · rintro ⟨⟩
    rfl

/-! ## The moves of a run -/

/-- **What may happen around a run that has a lease, or will have it**: those who look after the
lease begin when they are due, and take their turns from the beginning; everybody else leaves it
alone. -/
def Considerate (base number : Nat) (s : World) : Company.Move World → Prop
  | .front => True
  | .beside _ _ => 0 < s.schedule.allowance
  | .start _ job => job = .watch base number ∨ job = .close base number
  | .around change => World.Spared base number s (change s)

/-- **A run that looks for a lease**, which nobody looks after. -/
structure Seeks (base number : Nat) (c : Company World (Except Fault (Nat × Nat))) : Prop where
  front : c.front.Obeys (leaseSearch base number) (fun _ _ => True)
    (fun r x => ∀ n m, r = .ok (n, m) → x = .leased n m) .seeking
  undue : Undue base number c.state
  beside : c.beside = []

lemma Seeks.turn {c : Company World (Except Fault (Nat × Nat))} (h : Seeks base number c) :
    ((c.take Memory.pool.perform .front).front = .done (.ok (base, number)) →
        Stood base number .calm (c.take Memory.pool.perform .front).state
          ∧ Fresh base number (c.take Memory.pool.perform .front).state)
      ∧ ((c.take Memory.pool.perform .front).front.result? = none →
        Seeks base number (c.take Memory.pool.perform .front)) := by
  obtain ⟨x, hx, hknows, -⟩ := h.front.poll (R := fun _ _ => True) (fun _ => trivial)
    (fun _ _ => trivial) (fun _ hmay => ⟨hmay, trivial⟩) Company.frontTask h.undue
  refine ⟨fun hdone => ?_, fun hnone => ?_⟩
  · have hdone : (c.front.poll Company.frontTask c.state).1 = .done (.ok (base, number)) := hdone
    rw [hdone] at hx
    obtain rfl := hx base number rfl
    exact hknows rfl rfl
  · obtain rfl : x = .seeking := by
      have hrests := Company.rests_poll Company.frontTask c.front c.state
      have hnone : (c.front.poll Company.frontTask c.state).1.result? = none := hnone
      cases htask : (c.front.poll Company.frontTask c.state).1 with
      | done r => rw [htask] at hnone; cases hnone
      | act update next => rw [htask] at hrests; exact hrests.elim
      | wait on next => rw [htask] at hx; exact hx.1
    exact ⟨hx, hknows, h.beside⟩

/-- **What happens around it makes no difference.** -/
lemma Seeks.take {c : Company World (Except Fault (Nat × Nat))} (h : Seeks base number c)
    {move : Company.Move World} (hmove : Considerate base number c.state move)
    (hnone : (c.take Memory.pool.perform move).front.result? = none) :
    Seeks base number (c.take Memory.pool.perform move) := by
  obtain ⟨s, front, beside⟩ := c
  obtain rfl : beside = [] := h.beside
  cases move with
  | front => exact h.turn.2 hnone
  | beside place self => exact h
  | start n job =>
    have hundue : .start n job ∉ (Host.schedule.get s).ready :=
      fun hdue => h.undue job hmove ⟨n, hdue⟩
    simp only [Company.take, if_neg hundue]
    exact h
  | around change =>
    refine ⟨h.front, fun job hjob hdue => ?_, rfl⟩
    exact h.undue job hjob ((World.Spared.due hmove job hjob).mp hdue)

/-- **Somebody who has a lease**, and those who look after it; `rests` says what he may wait for,
and `ends` how the lease stands in the end. -/
structure Attended (rests : Standing → (World → Bool) → Prop) (ends : Standing → Prop)
    (base number : Nat)
    (c : Company World α) : Prop where
  front : ∃ x, Settled x ∧ Stood base number x c.state
    ∧ c.front.Obeys (standing rests base number) (fun _ _ => True) (fun _ => ends) x
  beside : ∀ strand ∈ c.beside, Attends base number strand.task

section

variable {rests : Standing → (World → Bool) → Prop} {ends : Standing → Prop} {c : Company World α}
  (hrests : ∀ x ready, rests x ready → atRest x ready) (hends : ∀ x, ends x → Settled x)

include hrests hends

/-- **Whatever happens, the lease is left as it should stand between turns.** -/
lemma Attended.take (h : Attended rests ends base number c) {move : Company.Move World}
    (hmove : Considerate base number c.state move) :
    Attended rests ends base number (c.take Memory.pool.perform move) := by
  obtain ⟨s, front, beside⟩ := c
  obtain ⟨⟨x, hx, hs, hobeys⟩, hbeside⟩ := h
  cases move with
  | front =>
    obtain ⟨y, hy, hknows, -⟩ := hobeys.poll (R := fun _ _ => True) (fun _ => trivial)
      (fun _ _ => trivial)
      (fun _ hmay => ⟨hmay, trivial⟩) Company.frontTask hs
    refine ⟨⟨y, ?_, hknows, hy⟩, hbeside⟩
    rcases Company.rests_at hy (Company.rests_poll Company.frontTask front s) with ⟨_,
      hwaits⟩ | ⟨_, hy⟩
    · exact (hrests y _ hwaits).imp_right .inl
    · exact hends y hy
  | beside place self =>
    simp only [Company.take]
    cases hplace : beside[place]? with
    | none => exact ⟨⟨x, hx, hs, hobeys⟩, hbeside⟩
    | some strand =>
      obtain ⟨hattends, hknows⟩ := standing_of_attends
        (hbeside strand (List.mem_of_getElem? hplace)) self hx
        hmove hs
      refine ⟨⟨x, hx, hknows, hobeys⟩, fun other hother => ?_⟩
      rcases List.mem_or_eq_of_mem_set hother with hother | rfl
      · exact hbeside other hother
      · exact hattends
  | start n job =>
    simp only [Company.take]
    split
    · let takeOff : Schedule → Schedule := fun c => { c with ready := c.ready.erase (.start n job) }
      refine ⟨⟨x, hx, hs.schedule takeOff, hobeys⟩, fun other hother => ?_⟩
      rcases List.mem_append.mp hother with hother | hother
      · exact hbeside other hother
      · rw [List.mem_singleton.mp hother]
        rcases hmove with rfl | rfl
        · exact .watch
        · exact .close
    · exact ⟨⟨x, hx, hs, hobeys⟩, hbeside⟩
  | around change => exact ⟨⟨x, hx, hs.spared hmove, hobeys⟩, hbeside⟩

lemma Attended.play (h : Attended rests ends base number c) {moves : List (Company.Move World)}
    (hmoves : Company.Heeds Memory.pool.perform (Considerate base number) c moves) :
    Attended rests ends base number (c.play Memory.pool.perform moves) := by
  induction moves generalizing c with
  | nil => exact h
  | cons move rest ih => exact ih (h.take hrests hends hmoves.1) hmoves.2

end

/-- **In the turn in which he comes to his end** it is known how the lease stands. -/
lemma Attended.reach {rests : Standing → (World → Bool) → Prop} {ends : Standing → Prop}
    {c : Company World α} {a : α}
    (h : Attended rests ends base number c) (hreach : c.front.reach c.state = (.done a, s)) :
    ∃ x, ends x ∧ Stood base number x s := by
  obtain ⟨x, -, hs, hobeys⟩ := h.front
  obtain ⟨y, hy, hknows, -⟩ := hobeys.reach (R := fun _ _ _ _ => True) (fun _ _ => trivial)
    (fun _ _ => trivial) (fun _ hmay => ⟨hmay, trivial⟩) hs
  rw [hreach] at hy hknows
  exact ⟨y, hy, hknows⟩

lemma settled_of_returned (x : Standing) (h : x = .returned) : Settled x :=
  .inr (.inr h)

/-! ## From beginning to end -/

/-- **A run with a connection and a lease of its own**, on the scripted backend: nobody has heard of
the lease before, the futures of the program and those who receive its events leave both alone, and
so does everybody else. -/
structure Secluded (base number : Nat) (manager : Manager World) (sink : Sink World)
    (limit : Option Duration)
    (program : Program World) (s₀ : World) (moves : List (Company.Move World)) : Prop where
  plain : manager.Plain base number (World.Spared base number)
  publishing : ∀ event s, World.Has base number s → World.Spared base number s
    (sink.publish event s)
  futures : program.Lifts fun task => task.Respects (World.Has base number)
    (World.Spared base number)
  undue : Undue base number s₀
  heeds : Company.Heeds Memory.pool.perform (Considerate base number)
    (Company.opening (runWith manager sink limit program).run s₀) moves

namespace Secluded

variable {manager : Manager World} {sink : Sink World} {limit : Option Duration}
  {program : Program World}
  {s₀ : World} {moves : List (Company.Move World)}
  (h : Secluded base number manager sink limit program s₀ moves)

include h

/-- **What stays true of it.** -/
lemma tracks : Tracks manager sink limit program (Considerate base number) (Seeks base number)
    fun grabbed c => grabbed = .ok (base, number) → Attended atRest
      (· = .returned) base number c where
  own _ := trivial
  seeking hseeks hmove hnone := by
    rw [h.plain.pool] at hnone ⊢
    exact hseeks.take hmove hnone
  found := by
    rintro c _ hseeks hdone rfl
    rw [h.plain.pool] at hdone ⊢
    have hcalm := handedOut_calm h.plain
    have hheld : Attended atRest (· = .returned) base number
      ((c.take Memory.pool.perform .front).led
        (transact manager sink limit program (.ok (base, number)))) := by
      refine ⟨⟨.calm, .inl rfl, (hseeks.turn.1 hdone).1, ?_⟩, fun strand hstrand => ?_⟩
      · refine Task.Obeys.holding (hcalm.onAccount h.publishing limit h.futures) ?_
        rintro _ _ s rfl hs
        exact ⟨.returned, by rw [hcalm.drop s hs]; exact hs, rfl⟩
      · have hbeside : c.beside = [] := hseeks.beside
        rw [Company.led, Company.take, hbeside] at hstrand
        cases hstrand
    exact hheld.take (fun _ _ => id) settled_of_returned
      (trivial : Considerate base number _ .front)
  going hgoes hmove hgrabbed := by
    rw [h.plain.pool]
    exact (hgoes hgrabbed).take (fun _ _ => id) settled_of_returned hmove

/-- **From the moment when a run has a lease** it is looked after. -/
theorem attended (hhand : hand manager s₀ moves = some (base, number)) :
    Attended atRest (· = .returned) base number
      (recounted manager sink limit program s₀ moves) := by
  have hheeds := h.heeds
  rw [← h.plain.pool] at hheeds
  obtain ⟨-, hgoes⟩ := h.tracks.recounted ⟨grab_seeks h.plain.pool, h.undue, rfl⟩ hheeds
  exact hgoes _ (grabbing_of_hand hhand) rfl

/-- **A run that is over has given its connection back**, and nobody holds it any longer. -/
theorem returned (hhand : hand manager s₀ moves = some (base, number))
    {outcome : Except Fault Value}
    (hover : (unfolded manager sink limit program s₀ moves).front = .done outcome) :
    ((LeaseHost.leases number).get (unfolded manager sink limit program s₀ moves).state).listening
      = false
      ∧ ((Memory.link base).get (unfolded manager sink limit program s₀ moves).state).alive
        = false := by
  obtain ⟨deeds, hdone, hstate⟩ := recounted_of_unfolded manager sink limit program s₀ moves hover
  obtain ⟨x, -, hs, hobeys⟩ := (h.attended hhand).front
  rw [hdone] at hobeys
  obtain rfl : x = .returned := hobeys
  rw [← hstate]
  exact ⟨hs.lease.listening, hs.forsaken hs.lease.listening⟩

end Secluded

end Run

end Transactional
