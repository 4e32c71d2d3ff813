import Transactional.Proofs.Run.Ledger
import Transactional.Proofs.Run.Staying
import Transactional.Proofs.Task.Phases

/-!
# How a lease stands between turns

A call on the scripted backend takes no time.  So whenever a turn is over, nobody has the lock of a
lease in hand: the lease is open, or its connection has been given back.  Only whoever closes it
when nothing is left of his turn leaves it marked, and goes on in his next turn.

* `Standing` — how a lease stands, in the course of a turn and between turns.
* `Run.standing` — the discipline of those who use a lease.
* `Run.standing_operate`, `Run.standing_shutdown` — an operation leaves the lease as calm as it was,
  and its end gives the connection back.
* **`Run.standing_of_shutdown`** — whoever ends a lease does so in a single turn.
-/

namespace Transactional

/-- **What a lease remembers of its end**, and how often its lock is free; nobody waits for it. -/
structure LeaseState.Stands (closed holdsBase listening : Bool) (free : Nat)
    (state : LeaseState) : Prop where
  closed : state.closed = closed
  holdsBase : state.holdsBase = holdsBase
  listening : state.listening = listening
  free : state.lock.free = free
  waiting : state.lock.waiting = []
  shut : state.lock.shut = false

/-- **How a lease stands.** -/
inductive Standing where
  | idle
  | used
  | marked
  | ending
  | emptied
  | returned
  | barred
  /-- It is open, or its connection has been given back; nobody is using it. -/
  | calm
deriving DecidableEq

namespace Standing

/-- **What it means for a lease to stand so.** -/
def Of (x : Standing) (state : LeaseState) : Prop :=
  match x with
  | idle => state.Stands false true true 1
  | used => state.Stands false true true 0
  | marked => state.Stands true true true 1
  | ending => state.Stands true true true 0
  | emptied => state.Stands true false true 1
  | returned => state.Stands true false false 1
  | barred => state.Stands true false false 0
  | calm => state.Stands false true true 1 ∨ state.Stands true false false 1

/-- How a lease stands when somebody takes the lock. -/
inductive Locks : Standing → Standing → Prop where
  | use : Locks calm used
  | bar : Locks calm barred
  | finish : Locks marked ending

variable {x y : Standing} {state state' : LeaseState}

lemma of_same (h : x.Of state) (hclosed : state'.closed = state.closed)
    (hholds : state'.holdsBase = state.holdsBase) (hlistening : state'.listening = state.listening)
    (hlock : state'.lock = state.lock) : x.Of state' := by
  have hstands : ∀ {closed holdsBase listening : Bool} {free : Nat},
      state.Stands closed holdsBase listening free → state'.Stands closed holdsBase
        listening free :=
    fun h => ⟨hclosed.trans h.closed, hholds.trans h.holdsBase, hlistening.trans h.listening,
      hlock ▸ h.free, hlock ▸ h.waiting, hlock ▸ h.shut⟩
  cases x with
  | calm => exact h.imp hstands hstands
  | _ => exact hstands h

lemma idle_of_calm (h : calm.Of state) (hclosed : state.closed = false) : idle.Of state := by
  refine h.resolve_right fun hreturned => ?_
  rw [hreturned.closed] at hclosed
  cases hclosed

lemma returned_of_calm (h : calm.Of state) (hclosed : state.closed = true) : returned.Of state := by
  refine h.resolve_left fun hidle => ?_
  rw [hidle.closed] at hclosed
  cases hclosed

lemma locks_of (hx : x = calm ∨ x = marked) (h : x.Of state) :
    state.lock.free = 1 ∧ state.lock.shut = false
      ∧ ∃ y, Locks x y ∧ y.Of { state with lock := state.lock.take } := by
  have htake : ∀ {closed holdsBase listening : Bool}, state.Stands closed holdsBase listening 1 →
      ({ state with lock := state.lock.take } : LeaseState).Stands closed holdsBase listening 0 :=
    fun h => ⟨h.closed, h.holdsBase, h.listening,
      by simp [Semaphore.take, h.free], h.waiting, h.shut⟩
  rcases hx with rfl | rfl
  · rcases h with h | h
    · exact ⟨h.free, h.shut, used, .use, htake h⟩
    · exact ⟨h.free, h.shut, barred, .bar, htake h⟩
  · exact ⟨h.free, h.shut, ending, .finish, htake h⟩

end Standing

lemma LeaseState.Stands.handOver {closed holdsBase listening : Bool} {state : LeaseState}
    (h : state.Stands closed holdsBase listening 0) :
    ({ state with lock := state.lock.handOver.2 } : LeaseState).Stands closed holdsBase
      listening 1 := by
  rw [Semaphore.handOver_of_nobody h.waiting]
  exact ⟨h.closed, h.holdsBase, h.listening, congrArg (· + 1) h.free, h.waiting, h.shut⟩

namespace Run

/-- **A lease that stands so**: the lease and its connection are there, and when the connection has
been given back, nobody holds it any longer. -/
structure Stood (base number : Nat) (x : Standing) (s : World) : Prop where
  lease : x.Of ((LeaseHost.leases number).get s)
  forsaken : ((LeaseHost.leases number).get s).listening = false →
    ((Memory.link base).get s).alive = false
  has : World.Has base number s

/-- **The discipline of those who use a lease**; `rests` says how it may stand when they wait, and
for what. -/
def standing (rests : Standing → (World → Bool) → Prop) (base number : Nat) :
    Discipline World Standing where
  knows := Stood base number
  may _ _ y s' := Stood base number y s'
  waits := rests

variable {rests : Standing → (World → Bool) → Prop} {base number : Nat} {x y : Standing}
  {s s' : World} {α : Type}
  {gone : Standing → (World → World) → Prop}

/-! ## Single changes -/

lemma Stood.spared (hs : Stood base number x s) (h : World.Spared base number s s') :
    Stood base number x s' := by
  refine ⟨?_, ?_, Nat.le_trans hs.has.linkCount h.linkCount, Nat.lt_of_lt_of_le hs.has.leaseCount
    h.leaseCount⟩
  · rw [h.lease]
    exact hs.lease
  · rw [h.lease, h.alive]
    exact hs.forsaken

lemma Stood.works {calls : List Memory.Call} (hs : Stood base number x s)
    (h : World.Works base calls s s') :
    Stood base number x s' := by
  have hlease : (LeaseHost.leases number).get s' = (LeaseHost.leases number).get s := by
    rw [h.same]
    rfl
  refine ⟨?_, ?_, h.linkCount ▸ hs.has.linkCount, h.leaseCount ▸ hs.has.leaseCount⟩
  · rw [hlease]
    exact hs.lease
  · rw [hlease, h.alive]
    exact hs.forsaken

lemma Stood.schedule (hs : Stood base number x s) (f : Schedule → Schedule) :
    Stood base number x (Host.schedule.modify f s) :=
  ⟨hs.lease, hs.forsaken, ⟨hs.has.linkCount, hs.has.leaseCount⟩⟩

lemma Stood.report (hs : Stood base number x s) (trace : Trace) :
    Stood base number x (Host.report trace s) :=
  ⟨hs.lease, hs.forsaken, ⟨hs.has.linkCount, hs.has.leaseCount⟩⟩

lemma Stood.still (hs : Stood base number x s)
    (h : Host.Still (Memory.pool.lease base number : Lease World).cell s s') {state : LeaseState}
    (hget : (LeaseHost.leases number).get s' = state)
    (hlistening : state.listening = ((LeaseHost.leases number).get s).listening) (hy : y.Of state) :
    Stood base number y s' := by
  have hbackend : s'.backend = s.backend :=
    h.same World.backend (fun _ _ => rfl) (fun _ _ _ => rfl) fun _ _ => rfl
  have halive : ((Memory.link base).get s').alive = ((Memory.link base).get s).alive :=
    congrArg (fun b => (b.links.get base).alive) hbackend
  have hcount : s'.leaseCount = s.leaseCount :=
    h.same World.leaseCount (fun _ _ => rfl) (fun _ _ _ => rfl) fun _ _ => rfl
  refine ⟨?_, ?_, hbackend ▸ hs.has.linkCount, hcount ▸ hs.has.leaseCount⟩
  · rw [hget]
    exact hy
  · rw [hget, hlistening, halive]
    exact hs.forsaken

lemma Stood.notes {f : LeaseState → LeaseState} (hs : Stood base number x s) (hf : Lease.Notes f) :
    Stood base number x ((Memory.pool.lease base number : Lease World).cell.modify f s) := by
  have hget : (LeaseHost.leases number).get
      ((Memory.pool.lease base number : Lease World).cell.modify f s)
        = { (LeaseHost.leases number).get s with
            inTransaction := (f ((LeaseHost.leases number).get s)).inTransaction
            statements := (f ((LeaseHost.leases number).get s)).statements } :=
    (Cell.get_modify _ f s).trans (hf _)
  exact hs.still (.modify f s) hget rfl (Standing.of_same hs.lease rfl rfl rfl rfl)

lemma Stood.release {closed holdsBase listening : Bool} (hs : Stood base number x s)
    (hx : ((LeaseHost.leases number).get s).Stands closed holdsBase listening 0)
    (hy : ∀ state : LeaseState, state.Stands closed holdsBase listening 1 → y.Of state) :
    Stood base number y (Semaphore.release (Memory.pool.lease base number : Lease World).lock s) :=
  hs.still (Semaphore.Usable.still_updating _ s).of_comp
    ((Memory.apart base number).get_release s) rfl (hy _ hx.handOver)

/-- **Giving the connection back.** -/
lemma Stood.giveBack (hs : Stood base number .emptied s) :
    Stood base number .returned ((Memory.pool.lease base number : Lease World).release s) := by
  let before : World := MemoryHost.accounts.modify (fun a => { a with released := a.released + 1 })
    ((LeaseHost.leases number).modify (fun state => { state with listening := false }) s)
  have hrelease : (Memory.pool.lease base number : Lease World).release s
    = Memory.drop base before :=
    if_pos hs.lease.listening
  have hlease : (LeaseHost.leases number).get (Memory.drop base before)
      = { (LeaseHost.leases number).get s with listening := false } := by
    refine (Memory.drop_same (LeaseHost.leases number).get base before (fun _ _ => rfl)
      (fun _ _ => rfl)
      (fun _ _ _ => rfl) fun _ _ => rfl).trans ?_
    exact (LeaseHost.leases number).get_modify (fun state => { state with listening := false }) s
  have hgone : ((Memory.link base).get (Memory.drop base before)).alive = false
      ∧ (Memory.drop base before).backend.linkCount = s.backend.linkCount := by
    cases h : ((Memory.link base).get before).alive with
    | false =>
      rw [Memory.drop_of_gone h]
      exact ⟨h, rfl⟩
    | true =>
      have hlink : (Memory.link base).get (Memory.drop base before)
          = ((Memory.link base).get before).forsaken :=
        (congrArg (fun b => b.links.get base) (Memory.drop_backend h)).trans
          ((Memory.link base).get_modify Memory.Link.forsaken before)
      have hcount := congrArg Memory.Backend.linkCount (Memory.drop_backend h)
      rw [hlink]
      exact ⟨rfl, hcount⟩
  have hcount : (Memory.drop base before).leaseCount = s.leaseCount :=
    Memory.drop_same World.leaseCount base before (fun _ _ => rfl) (fun _ _ => rfl)
      (fun _ _ _ => rfl) fun _ _ => rfl
  rw [hrelease]
  refine ⟨?_, fun _ => hgone.1, hgone.2 ▸ hs.has.linkCount, hcount ▸ hs.has.leaseCount⟩
  rw [hlease]
  exact ⟨hs.lease.closed, hs.lease.holdsBase, rfl, hs.lease.free, hs.lease.waiting, hs.lease.shut⟩

/-! ## Operations -/

/-- **The lock is there** when somebody comes at the beginning of a turn. -/
lemma Stood.ask (hs : Stood base number x s) (hx : x = .calm ∨ x = .marked) :
    0 < ((LeaseHost.leases number).get s).lock.free
      ∧ ((LeaseHost.leases number).get s).lock.shut = false
      ∧ ∃ y, Standing.Locks x y ∧ Stood base number y
        (Semaphore.ask (Memory.pool.lease base number : Lease World).lock s) := by
  obtain ⟨hfree, hshut, y, hy, hof⟩ := Standing.locks_of hx hs.lease
  have hlock : (Memory.pool.lease base number : Lease World).lock.get s
      = ((LeaseHost.leases number).get s).lock := rfl
  have hask : Semaphore.ask (Memory.pool.lease base number : Lease World).lock s
      = Task.spend ((Memory.pool.lease base number : Lease World).lock.modify
        Semaphore.take s) := by
    simp [Semaphore.ask, hlock, hfree, hshut]
  refine ⟨by rw [hfree]; exact Nat.one_pos, hshut, y, hy, ?_⟩
  rw [hask]
  have htake : Host.Still (Memory.pool.lease base number : Lease World).lock s _ :=
    .modify Semaphore.take s
  have hget : (LeaseHost.leases number).get (Task.spend
      ((Memory.pool.lease base number : Lease World).lock.modify Semaphore.take s))
      = { (LeaseHost.leases number).get s with
          lock := ((LeaseHost.leases number).get s).lock.take } :=
    Cell.get_set (LeaseHost.leases number)
      { (LeaseHost.leases number).get s with lock := ((LeaseHost.leases number).get s).lock.take } s
  exact hs.still (htake.of_comp.trans (.spend _)) hget rfl hof

lemma standing_acquire (hx : x = .calm ∨ x = .marked)
    (hrests : rests x (Task.pause : Wait World).ready)
    (hgone : gone x id) :
    (Semaphore.acquire (Memory.pool.lease base number : Lease World).lock).Obeys
      (standing rests base number) gone (fun had y => had = true ∧ Standing.Locks x y) x := by
  refine ⟨hrests, hgone, fun self s hs => hs.schedule _,
    fun s hs _ => ⟨x, hs, fun s hs => ?_⟩⟩
  obtain ⟨hfree, hshut, y, hy, hknows⟩ := hs.ask hx
  have hlock : (Memory.pool.lease base number : Lease World).lock.get s
      = ((LeaseHost.leases number).get s).lock := rfl
  refine ⟨y, hknows, ?_⟩
  simp only [hlock, hfree, hshut]
  exact ⟨rfl, hy⟩

lemma standing_enter (hrests : rests .calm (Task.pause : Wait World).ready)
    (hgone : gone .calm id) :
    (Memory.pool.lease base number : Lease World).enter.run.Obeys (standing rests base number) gone
      (fun r y => r = .ok () ∧ y = .used ∨ r = .error .closedConnection ∧ y = .calm) .calm := by
  intro s hs
  refine ⟨.calm, hs, ?_⟩
  dsimp only
  split
  · exact .inr ⟨rfl, rfl⟩
  refine (standing_acquire (.inl rfl) hrests hgone).bind ?_
  rintro _ _ ⟨rfl, hlocks⟩ s hs
  cases hlocks with
  | use =>
    have hclosed : ((Memory.pool.lease base number : Lease World).cell.get s).closed = false :=
      hs.lease.closed
    have hholds : ((Memory.pool.lease base number : Lease World).cell.get s).holdsBase = true :=
      hs.lease.holdsBase
    refine ⟨.used, hs, ?_⟩
    simp only [hclosed, hholds]
    exact .inl ⟨rfl, rfl⟩
  | bar =>
    have hclosed : ((Memory.pool.lease base number : Lease World).cell.get s).closed = true :=
      hs.lease.closed
    refine ⟨.barred, hs, ?_⟩
    simp only [hclosed]
    exact fun s hs => ⟨.calm, hs.release hs.lease fun _ => .inr, .inr ⟨rfl, rfl⟩⟩

/-- **An operation leaves the lease as calm as it was.** -/
lemma standing_operate {operation : Attempt World α} {after : α → LeaseState → LeaseState}
    {Q : Except Fault α → Prop}
    (hoperation : ∀ gone, operation.run.Obeys (standing rests base number) gone
      (fun r y => y = .used ∧ Q r) .used)
    (hrefused : Q (.error .closedConnection)) (hafter : ∀ a, Lease.Notes (after a))
    (hrests : rests .calm (Task.pause : Wait World).ready) (hgone : gone .calm id) :
    ((Memory.pool.lease base number).operate operation after).run.Obeys
      (standing rests base number) gone
      (fun r y => y = .calm ∧ Q r) .calm := by
  refine (standing_enter hrests hgone).bind ?_
  rintro _ _ (⟨rfl, rfl⟩ | ⟨rfl, rfl⟩)
  · refine Task.Obeys.holding
      ((hoperation _).bind ?_ : Task.Obeys _ _ (fun r y => y = .used ∧ Q r) _ _) ?_
    · rintro (fault | a) _ ⟨rfl, hr⟩
      · exact ⟨rfl, hr⟩
      · exact fun s hs => ⟨.used, hs.notes (hafter a), rfl, hr⟩
    · rintro r _ s ⟨rfl, hr⟩ hs
      exact ⟨.calm, hs.release hs.lease fun _ => .inl, rfl, hr⟩
  · exact ⟨rfl, hrefused⟩

lemma standing_plainCall {call : Memory.Call} (hcall : call.number = base)
    (pick : Memory.Failures → Option String) :
    (Memory.plainCall base call pick : Attempt World Unit).run.Obeys
      (standing rests base number) gone
      (fun _ y => y = x) x :=
  Memory.plainCall_obeys fun s hs => ⟨x, hs.works (.note hcall s), rfl⟩

lemma Stood.destroy (hs : Stood base number x s) (handle : StatementHandle) :
    Stood base number x ((Memory.pool.lease base number : Lease World).destroy handle s) := by
  have hforgotten := hs.notes (fun _ => rfl : Lease.Notes (LeaseState.forget handle))
  unfold Lease.destroy
  dsimp only
  split
  · rcases Memory.destroy_works base handle
      ((Memory.pool.lease base number : Lease World).cell.modify (LeaseState.forget handle) s)
        with h | h <;>
      exact hforgotten.works h
  · exact hforgotten

/-! ## The end -/

lemma standing_tidy (handles : List StatementHandle) :
    ((Memory.pool.lease base number : Lease World).tidy handles).Obeys
      (standing rests base number) gone
      (fun _ y => y = .returned) .emptied := by
  have htransaction : ∀ gone : Standing → (World → World) → Prop,
      (Memory.pool.lease base number : Lease World).tidyTransaction.Obeys
        (standing rests base number) gone
        (fun _ y => y = .emptied) .emptied := by
    intro gone s hs
    refine ⟨.emptied, hs.notes fun _ => rfl, ?_⟩
    dsimp only
    split
    · refine (standing_plainCall (rfl : (Memory.Call.rollback base).number = base)
        Memory.Failures.rollback).bind ?_
      rintro (fault | _) _ rfl
      · exact fun s hs => ⟨.emptied, hs.report _, rfl⟩
      · rfl
    · rfl
  refine (htransaction _).guarded.bind ?_
  rintro _ _ rfl s hs
  obtain ⟨calls, -, hworks⟩ := Memory.destroyAll_works base number handles s
  exact ⟨.returned, (hs.works hworks).giveBack, rfl⟩

/-- What is left to do for whoever has marked a lease and has its lock. -/
def leaving (base number : Nat) (status : Status) : Task World Unit :=
  .act ((Memory.pool.lease base number).surrender status) fun s =>
    if !((LeaseHost.leases number).get s).holdsBase then .done ()
    else if status = .closed then
      (Memory.pool.lease base number).tidy ((LeaseHost.leases number).get s).statements
    else .act (Memory.pool.lease base number).release fun _ => .done ()

lemma shutdown_eq_leaving (status : Status) :
    (Memory.pool.lease base number).shutdown status
      = .act ((LeaseHost.leases number).modify fun state => { state with closed := true }) fun s =>
          if ((LeaseHost.leases number).get s).closed then .done ()
          else (Semaphore.acquire (Memory.pool.lease base number : Lease World).lock).bind fun _ =>
            leaving base number status := rfl

/-- **Whoever has marked a lease and has its lock ends it**, whichever way. -/
lemma standing_leaving (status : Status) :
    (leaving base number status).Obeys (standing rests base number) gone (fun _ y => y = .returned)
      .ending := by
  intro s hs
  have hget := (Memory.apart base number).get_surrender status s
  refine ⟨.emptied, ?_, ?_⟩
  · exact hs.still (Lease.still_surrender status s) hget rfl
      ⟨hs.lease.closed, rfl, hs.lease.listening, hs.lease.handOver.free, hs.lease.handOver.waiting,
        hs.lease.handOver.shut⟩
  · simp only [hs.lease.holdsBase, Bool.not_true, Bool.false_eq_true, if_false]
    split
    · exact standing_tidy _
    · exact fun s hs => ⟨.returned, hs.giveBack, rfl⟩

lemma Stood.mark (hs : Stood base number .calm s) :
    (((LeaseHost.leases number).get s).closed = false → Stood base number .marked
        ((LeaseHost.leases number).modify (fun state => { state with closed := true }) s))
      ∧ (((LeaseHost.leases number).get s).closed = true → Stood base number .returned
        ((LeaseHost.leases number).modify (fun state => { state with closed := true }) s)) := by
  refine ⟨fun hclosed => ?_, fun hclosed => ?_⟩
  · have hidle := Standing.idle_of_calm hs.lease hclosed
    exact hs.still (.modify _ s) (Cell.get_modify _ _ s) rfl
      ⟨rfl, hidle.holdsBase, hidle.listening, hidle.free, hidle.waiting, hidle.shut⟩
  · have hreturned := Standing.returned_of_calm hs.lease hclosed
    exact hs.still (.modify _ s) (Cell.get_modify _ _ s) rfl
      ⟨rfl, hreturned.holdsBase, hreturned.listening, hreturned.free, hreturned.waiting,
        hreturned.shut⟩

/-- **The end of a lease gives the connection back**, or finds it given back. -/
theorem standing_shutdown (status : Status) (hrests : rests .marked (Task.pause : Wait World).ready)
    (hgone : gone .marked id) :
    ((Memory.pool.lease base number : Lease World).shutdown status).Obeys
      (standing rests base number) gone
      (fun _ y => y = .returned) .calm := by
  rw [shutdown_eq_leaving]
  intro s hs
  obtain ⟨hmarked, hreturned⟩ := hs.mark
  cases hclosed : ((LeaseHost.leases number).get s).closed with
  | true => exact ⟨.returned, hreturned hclosed, by simp only [hclosed, if_true]; rfl⟩
  | false =>
    refine ⟨.marked, hmarked hclosed, ?_⟩
    simp only [hclosed, Bool.false_eq_true, if_false]
    refine (standing_acquire (.inr rfl) hrests hgone).bind ?_
    rintro _ _ ⟨rfl, hlocks⟩
    cases hlocks
    exact standing_leaving status

/-! ## Those who look after a lease -/

lemma poll_acquire [Host σ] (cell : Cell σ Semaphore) {F : Bool → Task σ β} (self : TaskId) {s : σ}
    (hturn : 0 < (Host.schedule.get s).allowance) (hfree : 0 < (cell.get s).free)
    (hshut : (cell.get s).shut = false) :
    ((Semaphore.acquire cell).bind F).poll self s = (F true).poll self (Semaphore.ask cell s) := by
  have hready : (Task.pause : Wait σ).ready s = true := decide_eq_true hturn
  simp only [Semaphore.acquire, Task.bind, Task.poll, hready, if_true, hshut, hfree,
    Bool.false_eq_true,
    if_false, Task.done_bind]

/-- **A task that waits for nothing comes to its end in a single turn.** -/
lemma poll_restless {task : Task World α} {ends : α → Standing → Prop} (self : TaskId)
    (h : task.Obeys (standing (fun _ _ => False) base number) gone ends x)
    (hs : Stood base number x s) :
    ∃ a y, (task.poll self s).1 = .done a ∧ ends a y
      ∧ Stood base number y (task.poll self s).2 := by
  obtain ⟨y, hy, hknows, -⟩ := h.poll (R := fun _ _ => True) (fun _ => trivial) (fun _ _ => trivial)
    (fun _ hmay => ⟨hmay, trivial⟩) self hs
  have hrests := Company.rests_poll self task s
  cases htask : (task.poll self s).1 with
  | done a =>
    rw [htask] at hy
    exact ⟨a, y, rfl, hy, hknows⟩
  | act update next =>
    rw [htask] at hrests
    exact hrests.elim
  | wait on next =>
    rw [htask] at hy
    exact hy.1.elim

def Settled (x : Standing) : Prop :=
  x = .calm ∨ x = .marked ∨ x = .returned

/-- **Whoever ends a lease does so in a single turn**, unless somebody else is ending it or has
ended it. -/
theorem standing_of_shutdown (status : Status) (self : TaskId) (hx : Settled x)
    (hturn : 0 < s.schedule.allowance) (hs : Stood base number x s) :
    (((Memory.pool.lease base number : Lease World).shutdown status).poll self s).1 = .done ()
      ∧ Stood base number x
        (((Memory.pool.lease base number : Lease World).shutdown status).poll self s).2 := by
  let mark : LeaseState → LeaseState := fun state => { state with closed := true }
  rw [shutdown_eq_leaving, Task.poll]
  cases hclosed : ((LeaseHost.leases number).get s).closed with
  | true =>
    have hsame : mark ((LeaseHost.leases number).get s) = (LeaseHost.leases number).get s := by
      simp only [mark, ← hclosed]
    exact ⟨rfl, hs.still (.modify mark s) ((Cell.get_modify _ mark s).trans hsame) rfl hs.lease⟩
  | false =>
    obtain rfl : x = .calm := by
      rcases hx with rfl | rfl | rfl
      · rfl
      all_goals
        rw [hs.lease.closed] at hclosed
        cases hclosed
    have hmarked := hs.mark.1 hclosed
    obtain ⟨hfree, hshut, y, hlocks, hknows⟩ := hmarked.ask (.inr rfl)
    cases hlocks
    have hpoll := poll_acquire (Memory.pool.lease base number : Lease World).lock
      (F := fun _ => leaving base number status) (s := (LeaseHost.leases number).modify mark s)
      self hturn hfree hshut
    simp only [Bool.false_eq_true, if_false]
    rw [hpoll]
    obtain ⟨_, _, hdone, rfl, hknows⟩ := poll_restless self
      (standing_leaving status : Task.Obeys _ (fun _ _ => True) _ _ _) hknows
    exact ⟨hdone, .inr hknows.lease, hknows.forsaken, hknows.has⟩

/-- **Looking after a lease**: to look out for an end, to end it, or to have done so. -/
inductive Attends (base number : Nat) : Task World Unit → Prop where
  | watch : Attends base number ((Memory.pool.lease base number).watch false)
  | close : Attends base number ((Memory.pool.lease base number).shutdown .closed)
  | done : Attends base number (.done ())

lemma Stood.watched (hs : Stood base number x s) (self : TaskId) :
    Stood base number x ((Memory.pool.lease base number : Lease World).eitherEnd.register
      self s) := by
  have hjoined : Stood base number x ((Memory.connection base).watch.register self s) := by
    have hlink := Memory.link_get_signal (((Memory.signal base).get s).join self) base base s
    rw [if_pos rfl] at hlink
    have halive := congrArg Memory.Link.alive hlink
    exact ⟨hs.lease, fun h => halive.trans (hs.forsaken h), ⟨hs.has.linkCount, hs.has.leaseCount⟩⟩
  exact hjoined.still (.set _ _) (Cell.get_set _ _ _) rfl
    (Standing.of_same hjoined.lease rfl rfl rfl rfl)

/-- **Whoever looks after a lease goes on with it**, and leaves it as it should stand between turns.
-/
theorem standing_of_attends {task : Task World Unit} (htask : Attends base number task)
    (self : TaskId)
    (hx : Settled x) (hturn : 0 < s.schedule.allowance) (hs : Stood base number x s) :
    Attends base number (task.poll self s).1 ∧ Stood base number x (task.poll self s).2 := by
  have hshutdown : ∀ status, Attends base number
      (((Memory.pool.lease base number : Lease World).shutdown status).poll self s).1
        ∧ Stood base number x
          (((Memory.pool.lease base number : Lease World).shutdown status).poll self s).2 := by
    intro status
    obtain ⟨hdone, hknows⟩ := standing_of_shutdown status self hx hturn hs
    rw [hdone]
    exact ⟨.done, hknows⟩
  cases htask with
  | watch =>
    rw [Lease.watch, Task.poll]
    split
    · show Attends base number (Task.poll self (Task.act id _) s).1 ∧ _
      rw [Task.poll]
      split
      · exact hshutdown _
      · exact ⟨.done, hs⟩
    · exact ⟨.watch, hs.watched self⟩
  | close => exact hshutdown .closed
  | done => exact ⟨.done, hs⟩

end Run

end Transactional
