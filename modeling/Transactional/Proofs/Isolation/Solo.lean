import Transactional.Proofs.Isolation.Others
import Transactional.Proofs.Isolation.Transaction

/-!
# What comes of a run

A run waits for a permit, opens a connection, starts a lease on it, and makes its transaction.  What
comes of that is decided when it is set off, by the program, the scripts and the failures; only
which connection and which lease it gets depends on others.

* `Phase`, `solo` — how far a run has come, and the discipline that it keeps to.
* `Phase.Reached`, `Phase.Lost` — what has come of a run.
* `run_decided` — what comes of a run is decided when it is set off.
-/

namespace Transactional

variable {ψ ρ : Type}

/-- **How far a run has come.** -/
inductive Phase (ρ ψ : Type) where
  | seeking (e : ψ)
  | opened (base : Nat) (k : Knowledge ρ ψ)
  | leased (base number : Nat) (x : LeaseState × Knowledge ρ ψ)

/-- **How a run goes on.** -/
inductive Advance (S : Terms ρ ψ) : Phase ρ ψ → World → Phase ρ ψ → World → Prop where
  | seek {e : ψ} {s s' : World} (houtlook : s'.outlook S.futures = s.outlook S.futures)
      (hshut : s'.accounts.permits.shut = s.accounts.permits.shut)
      (hid : s'.backend.lastInsertId = s.backend.lastInsertId) (hheard : S.heard s' = S.heard s) :
      Advance S (.seeking e) s (.seeking e) s'
  | reach {e : ψ} {s : World} :
      Advance S (.seeking e) s (.opened (s.backend.linkCount + 1) (.informed {} e))
        (Memory.newLink true s).2
  | call {base : Nat} {k k' : Knowledge ρ ψ} {s s' : World}
      (hquiet : ∀ n, World.Quiet S.futures n s s') (hknowing : k.Knowing S base s k' s') :
      Advance S (.opened base k) s (.opened base k') s'
  | lease {base : Nat} {runState : RunState ρ} {e : ψ} {s : World} :
      Advance S (.opened base (.informed runState e)) s
        (.leased base s.leaseCount (.held false [], .informed runState e))
        (Pool.startWatchedLease base s).2
  | work {base number : Nat} {x y : LeaseState × Knowledge ρ ψ} {s s' : World}
      (h : (working S base number).may x s y s') :
      Advance S (.leased base number x) s (.leased base number y) s'

/-- **The discipline of a run.** -/
def solo (S : Terms ρ ψ) : Discipline World (Phase ρ ψ) where
  knows
    | .seeking e, s => (s.outlook S.futures).Steady S.responses S.failures e
        ∧ s.accounts.permits.shut = false
    | .opened base k, s => k.Knows S base s
    | .leased base number x, s => (working S base number).knows x s
  may := Advance S
  waits
    | .seeking _, _ => True
    | .opened _ _, _ => False
    | .leased base number x, ready => (working S base number).waits x ready

def Phase.Over (base : Nat) (runState : RunState ρ) : Phase ρ ψ → Prop
  | .seeking _ => False
  | .opened b k => b = base ∧ ∃ e, k = .left runState e
  | .leased b _ x => b = base ∧ ∃ e, x = (.emptied false false, .left runState e)

def Phase.Lost : Phase ρ ψ → Prop
  | .leased _ _ x => x.2 = .unsure
  | _ => False

/-- **A run has come to its end**, with this result, these calls and what it has published. -/
def Phase.Reached (reply : Reply (Except Fault Value)) (runState : RunState ρ)
    (r : Except Fault Value)
    (p : Phase ρ ψ) : Prop :=
  ∃ base, r = reply.on base ∧ p.Over base runState

variable {S : Terms ρ ψ} {e : ψ} {s s' : World} {b n : Nat}

/-- The state of a run on a connection that has been opened. -/
def RunState.fresh (ρ : Type) : RunState ρ :=
  ({} : RunState ρ).call (.connect 0)

section

variable (hS : S.futures.Discreet S.heard)

include hS

lemma seek_permits (h : Host.Still Memory.permits s s')
    (hshut : s'.accounts.permits.shut = s.accounts.permits.shut) :
    Advance S (.seeking e) s (.seeking e) s' := by
  refine .seek (World.outlook_permits hS.toPrivate h) hshut ?_ ?_
  · exact h.same (fun s => s.backend.lastInsertId) (fun _ _ => rfl) (fun _ _ _ => rfl)
      fun _ _ => rfl
  · exact h.same S.heard (fun _ s => hS.unheard.accounts _ s) (fun c s _ => hS.unheard.schedule c s)
      hS.unheard.traces

lemma seeking_solo :
    Semaphore.Usable (solo S) Memory.permits (fun _ => .seeking e) False where
  apart _ _ := rfl
  shut _ s hs hshut := by
    have hfree : s.accounts.permits.shut = false := hs.2
    exact absurd (hshut.symm.trans hfree) (by simp)
  moves _ _ _ _ _ hshift hstill := seek_permits hS hstill hshift.shut
  pause := trivial
  line _ := trivial

omit hS in
lemma leased_solo {α : Type} {task : Task World α} {ends : α → LeaseState × Knowledge ρ ψ → Prop}
    {x : LeaseState × Knowledge ρ ψ} (h : task.Obeys (working S b n) (fun _ _ => True) ends x) :
    task.Obeys (solo S) (fun _ _ => True) (fun a p => ∃ y, p = .leased b n y ∧ ends a y)
      (.leased b n x) :=
  Task.Obeys.map (D := working S b n) (fun x => Phase.leased b n x) (fun _ _ => id)
    (fun _ _ _ _ _ h => .work h) (fun _ _ => id) (fun _ _ => id)
    (fun _ y hy => ⟨y, rfl, hy⟩) h

/-- **Checking a connection out.** -/
lemma checkout_solo :
    (Memory.checkout : Attempt World Nat).run.Obeys (solo S) (fun _ _ => True)
      (fun r p => match S.failures.connect with
        | some message => r = .error (.connection message)
            ∧ ∃ base, p = .opened base (.left (RunState.fresh ρ) e)
        | none => ∃ base, r = .ok base ∧ p = .opened base (.informed (RunState.fresh ρ) e))
      (.seeking e) := by
  have hpermit : (Attempt.always (Semaphore.acquire Memory.permits) : Attempt World Bool).run.Obeys
      (solo S) (fun _ _ => True) (fun r p => r = .ok true ∧ p = .seeking e) (.seeking e) := by
    refine (Semaphore.acquire_obeys (seeking_solo hS) trivial fun _ => trivial).bind ?_
    rintro had p (⟨rfl, rfl⟩ | ⟨-, hfalse, -⟩)
    · exact ⟨rfl, rfl⟩
    · exact hfalse.elim
  have hopen : (Attempt.always (Task.step (Memory.newLink true)) : Attempt World Nat).run.Obeys
      (solo S) (fun _ _ => True) (fun r p => ∃ base, r = .ok base ∧ p
        = .opened base (.informed {} e))
      (.seeking e) :=
    fun s _ => ⟨_, .reach, _, rfl, rfl⟩
  have hconnect : ∀ base, (Memory.connection base : Connection World).connect.run.Obeys (solo S)
      (fun _ _ => True) (fun r p => r = Memory.verdict S.failures.connect
        ∧ p = .opened base (.informed (RunState.fresh ρ) e)) (.opened base (.informed {} e)) := by
    intro base
    have hcall : (Memory.Call.connect base).number = base := rfl
    exact Memory.plainCall_obeys fun s hs =>
      ⟨_, .call (fun n => (note_informed hS hcall hs).2.1)
        (note_informed (n := 0) hS hcall hs).2.2.1,
        plainAnswer_of_informed _ hs, rfl⟩
  refine Attempt.obeys_bind hpermit ?_ fun fault p h => by simp at h
  rintro had p ⟨hhad, rfl⟩
  obtain rfl : had = true := Except.ok.inj hhad
  have hopened : (Memory.openLink true : Attempt World Nat).run.Obeys (solo S) (fun _ _ => True)
      (fun r p => match S.failures.connect with
        | some message => r = .error (.connection message)
            ∧ ∃ base, p = .opened base (.left (RunState.fresh ρ) e)
        | none => ∃ base, r = .ok base ∧ p = .opened base (.informed (RunState.fresh ρ) e))
      (.seeking e) := by
    refine Attempt.obeys_bind hopen ?_ fun fault p h => by simp at h
    rintro base _ ⟨_, ⟨⟩, rfl⟩
    refine (hconnect base).bind ?_
    rintro r _ ⟨rfl, rfl⟩
    cases S.failures.connect with
    | some message =>
      exact fun s hs => ⟨_, .call (drop_informed hS hs).1 (drop_informed hS hs).2, rfl, base, rfl⟩
    | none => exact ⟨base, rfl, rfl⟩
  refine Attempt.obeys_bind hopened ?_ ?_
  · intro base p h
    cases hfailure : S.failures.connect with
    | some message => simp [hfailure] at h
    | none =>
      simp only [hfailure] at h
      obtain ⟨_, ⟨⟩, rfl⟩ := h
      have hcounts : ∀ a : Memory.Accounts, { a with acquired := a.acquired + 1 }.permits
        = a.permits :=
        fun _ => rfl
      exact fun s hs => ⟨_, .call (fun n => (count_informed hS hcounts hs).2.1)
        (count_informed (n := 0) hS hcounts hs).2.2.1, base, rfl, rfl⟩
  · intro fault p h
    cases hfailure : S.failures.connect with
    | some message =>
      simp only [hfailure] at h
      exact ⟨congrArg Except.error (Except.error.inj h.1), h.2⟩
    | none => simp [hfailure] at h

/-- **Asking for a lease.** -/
lemma lease_solo {manager : Manager World} (hmanager : manager.Discreet S.futures S.heard) :
    manager.lease.run.Obeys (solo S) (fun _ _ => True)
      (fun r p => match S.failures.connect with
        | some message => r = .error (.connection message)
            ∧ ∃ base, p = .opened base (.left (RunState.fresh ρ) e)
        | none => ∃ base number,
            r = .ok (manager.wrap (Memory.pool.lease base number).connection)
              ∧ p = .leased base number (.held false [], .informed (RunState.fresh ρ) e))
      (.seeking e) := by
  obtain ⟨pool, closed, wrapping, timeout⟩ := manager
  obtain rfl : pool = Memory.pool := hmanager.pool
  obtain rfl : closed = World.managerCell := hmanager.closed
  have hensure : (Manager.ensureOpen ⟨Memory.pool, World.managerCell, wrapping, timeout⟩).run.Obeys
      (solo S) (fun _ _ => True) (fun r p => r = .ok () ∧ p = .seeking e) (.seeking e) := by
    intro s hs
    have hopen : s.managerClosed = false := hs.1.unclosed
    have hget : World.managerCell.get s = false := hopen
    refine ⟨.seeking e, .seek rfl rfl rfl rfl, ?_⟩
    simp only [hget]
    exact ⟨rfl, rfl⟩
  refine Attempt.obeys_bind hensure ?_ fun _ _ h => by simp at h
  rintro _ _ ⟨-, rfl⟩
  refine Attempt.obeys_bind (checkout_solo hS) ?_ ?_
  · intro base p h
    cases hfailure : S.failures.connect with
    | some message => simp [hfailure] at h
    | none =>
      simp only [hfailure] at h
      obtain ⟨_, ⟨⟩, rfl⟩ := h
      exact fun s hs => ⟨_, .lease, base, _, rfl, rfl⟩
  · intro fault p h
    cases hfailure : S.failures.connect with
    | some message =>
      simp only [hfailure] at h
      exact ⟨congrArg Except.error (Except.error.inj h.1), h.2⟩
    | none => simp [hfailure] at h

end

lemma Manager.Discreet.assures {S : Setting ρ ψ} (hS : S.futures.Discreet S.heard)
    {manager : Manager World} (h : manager.Discreet S.futures S.heard) :
    Connection.Assures S fun b n => manager.wrap (Memory.pool.lease b n).connection := by
  obtain hnone | ⟨write, hsome, hwrite⟩ := h.wrapping
  · simp only [Manager.wrap, hnone]
    exact lease_assures hS
  · simp only [Manager.wrap, hsome]
    exact (lease_assures hS).logged (fun line s => (hwrite line s).1) fun line s =>
      (hwrite line s).2

/-- **What comes of a run is decided** when it is set off, unless it takes an id from the counter.
-/
theorem run_decided {S : Setting ρ ψ} (hS : S.futures.Discreet S.heard) {manager : Manager World}
    (hmanager : manager.Discreet S.futures S.heard) {sink : Sink World} {mark : Event → List ρ}
    (hsink : sink.Tells S mark) {program : Program World}
    (hprogram : program.Lifts S.futures.Settles)
    (e : ψ) :
    (runWith manager sink none program).run.Obeys (solo ⟨S, true⟩) (fun _ _ => True)
        (fun _ => Phase.Lost) (.seeking e)
      ∨ ∃ reply runState, reply.Plain ∧ ∀ draws, (runWith manager sink none program).run.Obeys
          (solo ⟨S, draws⟩) (fun _ _ => True) (Phase.Reached reply runState) (.seeking e) := by
  have hlease : ∀ draws, manager.lease.run.Obeys (solo ⟨S, draws⟩) _ _ (.seeking e) :=
    fun draws => lease_solo (S := ⟨S, draws⟩) hS hmanager
  cases hfailure : S.failures.connect with
  | some message =>
    refine .inr ⟨.same (.error (.connection message)), RunState.fresh ρ, trivial, fun draws => ?_⟩
    refine Attempt.obeys_bind (hlease draws) ?_ ?_
    · intro conn p h
      simp [hfailure] at h
    · intro fault p h
      simp only [hfailure] at h
      obtain ⟨hfault, base, rfl⟩ := h
      exact ⟨base, congrArg Except.error (Except.error.inj hfault), rfl, e, rfl⟩
  | none =>
    have C := hmanager.assures hS
    have hx : Held ((.held false [], .informed (RunState.fresh ρ) e) : LeaseState
      × Knowledge ρ ψ) :=
      ⟨_, _, _, _, rfl⟩
    -- What becomes of the transaction is what becomes of the run: the lease is closed at the end,
    -- so letting go of it does nothing.
    have hrun : ∀ {draws : Bool} {ends : Except Fault Value → Phase ρ ψ → Prop},
        (∀ r b n y, ends r (.leased b n y) → y.2 = .unsure ∨ y.1.closed = true) →
        (∀ b n, (Run.on (manager.wrap (Memory.pool.lease b n).connection) sink none program).Obeys
          (working ⟨S, draws⟩ b n) (fun _ _ => True) (fun r y => ends r (.leased b n y))
          (.held false [], .informed (RunState.fresh ρ) e)) →
        (runWith manager sink none program).run.Obeys (solo ⟨S, draws⟩) (fun _ _ => True) ends
          (.seeking e) := by
      intro draws ends hends hon
      refine Attempt.obeys_bind (hlease draws) ?_ fun fault p h => by simp [hfailure] at h
      intro conn p h
      simp only [hfailure] at h
      obtain ⟨b, n, hconn, rfl⟩ := h
      obtain rfl := Except.ok.inj hconn
      refine (leased_solo (hon b n)).holding ?_
      rintro r _ s ⟨y, rfl, hr⟩ hs
      rcases hends r b n y hr with hunsure | hclosed
      · have hnever : y.2.Knows _ b s := hs.2
        rw [hunsure] at hnever
        exact hnever.elim
      · refine ⟨_, .work ?_, hr⟩
        have hlease : ((LeaseHost.leases n).get s).closed = true :=
          (congrArg LeaseState.closed hs.1).trans hclosed
        rw [C.drop b n s hlease]
        exact Lease.alone_stay (knowledge_tolerates hS) hs
    rcases C.on hS hsink hprogram hx with hunsure | ⟨reply, y, ⟨hplain, runState, e', rfl⟩, hobeys⟩
    · exact .inl (hrun (fun r b n y => .inl) hunsure)
    · refine .inr ⟨reply, runState, hplain, fun draws => hrun ?_ fun b n =>
        (hobeys draws b n).imp ?_⟩
      · rintro r b n y ⟨base, -, -, e, rfl⟩
        exact .inr rfl
      · rintro r _ ⟨rfl, rfl⟩
        exact ⟨b, rfl, rfl, e', rfl⟩

end Transactional
