import Transactional.Proofs.Run.Ending

/-!
# The course of a run

Before it has a lease a run waits for a permit of the pool, opens a connection and starts a lease on
it.  A connection that does not answer is let go of at once.

* `Run.Phase` — how far a run has come.
* `Run.Advance`, `Run.course` — what it may change in each phase.
* `Run.account_obeys` — a whole run keeps to this, and where it ends.
* `Run.watch_keeps_course` — so does whoever looks after the lease.
-/

namespace Transactional

/-- **The manager of a run**: it stands in front of the pool of the scripted backend, and hands out
leases as they are or with a log. -/
structure Manager.Plain (manager : Manager World) (base number : Nat)
    (around : World → World → Prop) : Prop where
  pool : manager.pool = Memory.pool
  wrapping : manager.wrapping = none ∨ ∃ write, manager.wrapping = some (Connection.logged write)
    ∧ ∀ line s, World.Has base number s → around s (write line s)

namespace Run

/-- **How far a run has come.** -/
inductive Phase (ρ : Type) where
  | seeking
  | opened (calls : List (Memory.Call × Bool))
  | parted (calls : List (Memory.Call × Bool))
  | leased (x : Stage × Part ρ)
  /-- It has opened another connection, or started another lease, than the one that is watched. -/
  | stray

variable {ρ : Type}

/-- **What may change in each phase of a run.** -/
inductive Advance (asked : Memory.Call → Prop) (base number : Nat) (heard : World → List ρ) :
    Phase ρ → World → Phase ρ → World → Prop where
  | around {p : Phase ρ} {s s' : World} (h : World.Outside base number heard s s')
      (hlinks : s'.backend.linkCount = s.backend.linkCount)
      (hleases : s'.leaseCount = s.leaseCount) : Advance asked base number heard p s p s'
  | reach {s : World} (h : (Memory.newLink true s).1 = base) :
      Advance asked base number heard .seeking s (.opened []) (Memory.newLink true s).2
  | astray {s : World} (h : (Memory.newLink true s).1 ≠ base) :
      Advance asked base number heard .seeking s .stray (Memory.newLink true s).2
  | call {calls : List (Memory.Call × Bool)} {call : Memory.Call} {s s' : World}
      (h : World.Works base [call] s s') :
      Advance asked base number heard (.opened calls) s
        (.opened (calls ++ [(call, call.granted s)])) s'
  | part {calls : List (Memory.Call × Bool)} {s : World} :
      Advance asked base number heard (.opened calls) s (.parted calls) (Memory.drop base s)
  | lease {calls : List (Memory.Call × Bool)} {s : World} (h : s.leaseCount = number) :
      Advance asked base number heard (.opened calls) s
        (.leased (.running .unsure, .runner { calls := calls })) (Pool.startWatchedLease base s).2
  | mislease {calls : List (Memory.Call × Bool)} {s : World} (h : s.leaseCount ≠ number) :
      Advance asked base number heard (.opened calls) s .stray (Pool.startWatchedLease base s).2
  | use {x y : Stage × Part ρ} {s s' : World}
      (h : (leaseDiscipline asked base number heard).may x s y s') :
      Advance asked base number heard (.leased x) s (.leased y) s'
  | any {s s' : World} : Advance asked base number heard .stray s .stray s'

/-- **The discipline of a run**, and of those who look after its lease. -/
def course (asked : Memory.Call → Prop) (base number : Nat) (heard : World → List ρ) :
    Discipline World (Phase ρ) where
  knows
    | .leased x => (leaseDiscipline asked base number heard).knows x
    | _ => fun _ => True
  may := Advance asked base number heard
  waits
    | .leased x => (leaseDiscipline asked base number heard).waits x
    | _ => fun _ => True

variable {asked : Memory.Call → Prop} {base number : Nat} {heard : World → List ρ}
  {mark : Event → List ρ} {s s' : World}

lemma stray_obeys (task : Task World α) :
    task.Obeys (course asked base number heard) (fun _ _ => True) (fun _ p => p = .stray)
      .stray := by
  induction task with
  | done a => rfl
  | act update next ih => exact fun s _ => ⟨.stray, .any, ih s⟩
  | wait on next ih =>
    exact ⟨trivial, trivial, fun _ _ _ => .any, fun _ _ _ => ⟨.stray, .any, ih⟩⟩

lemma leased_obeys {task : Task World α} {x : Stage × Part ρ} {ends : α → Stage × Part ρ → Prop}
    {ends' : α → Phase ρ → Prop}
    (h : task.Obeys (leaseDiscipline asked base number heard) (fun _ _ => True) ends x)
    (hends : ∀ a x, ends a x → ends' a (.leased x)) :
    task.Obeys (course asked base number heard) (fun _ _ => True) ends' (.leased x) :=
  Task.Obeys.map (D := leaseDiscipline asked base number heard) Phase.leased (fun _ _ => id)
    (fun _ _ _ _ _ => .use) (fun _ _ => id) (fun _ _ _ => trivial) hends h

/-! ## Opening a connection -/

def CheckedOut (base : Nat) : Except Fault Nat → Phase ρ → Prop
  | .ok n, p => n = base ∧ p = .opened [(.connect base, true)] ∨ p = .stray
  | .error _, p => p = .seeking ∨ p = .parted [(.connect base, false)] ∨ p = .stray

lemma stray_checks (task : Task World (Except Fault Nat)) :
    task.Obeys (course asked base number heard) (fun _ _ => True) (CheckedOut base) .stray := by
  refine (stray_obeys task).imp ?_
  rintro (fault | n) p rfl
  · exact .inr (.inr rfl)
  · exact .inr rfl

lemma openLink_obeys : (Memory.openLink true : Attempt World Nat).run.Obeys
    (course asked base number heard) (fun _ _ => True) (CheckedOut base) .seeking := by
  have hopen : (Attempt.always (Task.step (Memory.newLink true)) : Attempt World Nat).run.Obeys
      (course asked base number heard) (fun _ _ => True)
      (fun r p => ∃ n, r = .ok n ∧ (n = base ∧ p = .opened [] ∨ p = .stray)) .seeking := by
    intro s _
    by_cases h : (Memory.newLink true s).1 = base
    · exact ⟨_, .reach h, _, rfl, .inl ⟨h, rfl⟩⟩
    · exact ⟨_, .astray h, _, rfl, .inr rfl⟩
  have hconnect : (Memory.connection base : Connection World).connect.run.Obeys
      (course asked base number heard) (fun _ _ => True)
      (fun r p => p = .opened [(.connect base, r.toBool)]) (.opened []) := by
    have hcall : (Memory.Call.connect base).number = base := rfl
    refine Memory.plainCall_obeys fun s _ => ⟨_, .call (.note hcall s), ?_⟩
    rw [← Memory.plainCall_succeeds base (.connect base) Memory.Failures.connect s]
    rfl
  refine Attempt.obeys_bind hopen ?_ ?_
  · rintro n p ⟨m, hm, ⟨rfl, rfl⟩ | rfl⟩
    · obtain rfl := Except.ok.inj hm
      refine hconnect.bind ?_
      rintro (fault | _) p rfl
      · exact fun s _ => ⟨_, .part, .inr (.inl rfl)⟩
      · exact .inl ⟨rfl, rfl⟩
    · exact stray_checks _
  · rintro fault p ⟨m, hm, -⟩
    cases hm

lemma around_count (hheard : World.Unheard heard) (f : Memory.Accounts → Memory.Accounts)
    (p : Phase ρ) (s : World) :
    Advance asked base number heard p s p (MemoryHost.accounts.modify f s) :=
  .around ⟨⟨rfl, .inl rfl, rfl, rfl, Nat.le_refl _, Nat.le_refl _, fun _ _ => Iff.rfl⟩,
    hheard.accounts _ s⟩ rfl rfl

lemma around_permits (hheard : World.Unheard heard) (h : Host.Still Memory.permits s s')
    (p : Phase ρ) : Advance asked base number heard p s p s' :=
  .around (World.outside_of_permits hheard h)
    (h.same (fun s => s.backend.linkCount) (fun _ _ => rfl) (fun _ _ _ => rfl) fun _ _ => rfl)
    (h.same World.leaseCount (fun _ _ => rfl) (fun _ _ _ => rfl) fun _ _ => rfl)

/-- **Checking a connection out.** -/
lemma checkout_obeys (hheard : World.Unheard heard) :
    (Memory.checkout : Attempt World Nat).run.Obeys (course asked base number heard)
      (fun _ _ => True) (CheckedOut base) .seeking := by
  have hpermit : (Attempt.always (Semaphore.acquire Memory.permits) : Attempt World Bool).run.Obeys
      (course asked base number heard) (fun _ _ => True)
      (fun r p => r.toBool = true ∧ p = .seeking) .seeking := by
    have hacquire : (Semaphore.acquire Memory.permits : Task World Bool).Obeys
        (course asked base number heard) (fun _ _ => True) (fun _ p => p = .seeking) .seeking :=
      Task.Obeys.of_respects (Semaphore.acquire_respects Memory.permits) (fun _ _ => trivial)
        (fun s s' _ h => around_permits hheard h _) (fun _ _ => trivial) fun _ _ => trivial
    exact hacquire.bind fun had p hp => ⟨rfl, hp⟩
  refine Attempt.obeys_bind hpermit ?_ ?_
  · rintro had p ⟨-, rfl⟩
    cases had with
    | false => exact .inl rfl
    | true =>
      refine Attempt.obeys_bind openLink_obeys ?_ fun _ _ h => h
      rintro n p (⟨rfl, rfl⟩ | rfl)
      · exact fun s _ => ⟨_, around_count hheard _ _ s, .inl ⟨rfl, rfl⟩⟩
      · exact stray_checks _
  · rintro fault p ⟨h, -⟩
    cases h

/-! ## From beginning to end -/

def LeasedOut (manager : Manager World) (base number : Nat) :
    Except Fault (Connection World) → Phase ρ → Prop
  | .ok conn, p =>
      conn = manager.wrap (manager.pool.lease base number).connection
          ∧ p = .leased (.running .unsure, .runner { calls := [(.connect base, true)] })
        ∨ p = .stray
  | .error _, p => p = .seeking ∨ p = .parted [(.connect base, false)] ∨ p = .stray

/-- **Asking for a lease.** -/
lemma lease_obeys (hheard : World.Unheard heard) {manager : Manager World}
    (hpool : manager.pool = Memory.pool) :
    manager.lease.run.Obeys (course asked base number heard) (fun _ _ => True)
      (LeasedOut manager base number) .seeking := by
  obtain ⟨pool, closed, wrapping, timeout⟩ := manager
  obtain rfl : pool = Memory.pool := hpool
  have hensure : (Manager.ensureOpen ⟨Memory.pool, closed, wrapping, timeout⟩).run.Obeys
      (course asked base number heard) (fun _ _ => True) (fun _ p => p = .seeking) .seeking := by
    intro s _
    refine ⟨.seeking, .around (.refl s) rfl rfl, ?_⟩
    dsimp only
    split <;> rfl
  refine Attempt.obeys_bind hensure ?_ fun _ _ h => .inl h
  rintro _ p rfl
  refine Attempt.obeys_bind (checkout_obeys hheard) ?_ fun _ _ h => h
  rintro n p (⟨rfl, rfl⟩ | rfl)
  · intro s _
    by_cases h : s.leaseCount = number
    · subst h
      exact ⟨_, .lease rfl, .inl ⟨rfl, rfl⟩⟩
    · exact ⟨_, .mislease h, .inr rfl⟩
  · refine (stray_obeys _).imp ?_
    rintro (fault | conn) p rfl
    · exact .inr (.inr rfl)
    · exact .inr rfl

/-- **Where a run ends**, with its account. -/
def Concluded (asked : Memory.Call → Prop) (base : Nat) (mark : Event → List ρ)
    (told : Except Fault Value × List (Deed World)) : Phase ρ → Prop
  | .seeking => told.1.toBool = false
  | .opened _ => False
  | .parted calls => told.1.toBool = false ∧ calls = [(.connect base, false)]
  | .leased x => Finished asked base mark { calls := [(.connect base, true)] } told x
  | .stray => True

lemma serves_of_plain {manager : Manager World}
    (h : manager.Plain base number (World.Outside base number heard))
    (hheard : World.Unheard heard) :
    Serves asked base number heard (manager.wrap (manager.pool.lease base number).connection) := by
  rw [h.pool]
  obtain hnone | ⟨write, hsome, hwrite⟩ := h.wrapping
  · simp only [Manager.wrap, hnone]
    exact lease_serves hheard
  · simp only [Manager.wrap, hsome]
    exact (lease_serves hheard).logged hwrite

/-- **A whole run keeps to its discipline**, if what the manager hands out is as good as the lease.
-/
theorem account_obeys_of_serves (hheard : World.Unheard heard) {manager : Manager World}
    (hpool : manager.pool = Memory.pool)
    (S : Serves asked base number heard (manager.wrap (manager.pool.lease base number).connection))
    {sink : Sink World} (hsink : sink.Publishes base number heard mark) (limit : Option Duration)
    (program : Program World) (hasked : ∀ call, program.Asks base call → asked call)
    (hlifts : program.Lifts fun task =>
      task.Respects (World.Has base number) (World.Outside base number heard)) :
    (account manager sink limit program).Obeys (course asked base number heard) (fun _ _ => True)
      (Concluded asked base mark) .seeking := by
  refine (lease_obeys hheard hpool).bind ?_
  rintro (fault | conn) p hp
  · obtain rfl | rfl | rfl := hp
    · rfl
    · exact ⟨rfl, rfl⟩
    · trivial
  obtain ⟨rfl, rfl⟩ | rfl := hp
  · have hon := onAccount_obeys (b := { calls := [(.connect base, true)] }) S hheard hsink limit
      program hasked hlifts rfl
    refine leased_obeys (Task.Obeys.holding hon fun told x s hx hs => ⟨x, ?_, hx⟩) fun _ _ h => h
    -- Nobody needs to close a lease that is closed.
    obtain ⟨q, b, calls, rfl, hsight, -⟩ := id hx
    rw [S.drop s (hs.1.seenClosed hsight)]
    exact may_outside hs (.refl s)
  · refine (stray_obeys _).imp ?_
    rintro told p rfl
    trivial

/-- **A whole run keeps to its discipline**, and where it ends. -/
theorem account_obeys (hheard : World.Unheard heard) {manager : Manager World}
    (hmanager : manager.Plain base number (World.Outside base number heard)) {sink : Sink World}
    (hsink : sink.Publishes base number heard mark) (limit : Option Duration)
    (program : Program World) (hasked : ∀ call, program.Asks base call → asked call)
    (hlifts : program.Lifts fun task =>
      task.Respects (World.Has base number) (World.Outside base number heard)) :
    (account manager sink limit program).Obeys (course asked base number heard) (fun _ _ => True)
      (Concluded asked base mark) .seeking :=
  account_obeys_of_serves hheard hmanager.pool (serves_of_plain hmanager hheard) hsink limit program
    hasked hlifts

/-- **So does a run**, which keeps its account to itself. -/
theorem run_obeys (hheard : World.Unheard heard) {manager : Manager World}
    (hmanager : manager.Plain base number (World.Outside base number heard)) {sink : Sink World}
    (hsink : sink.Publishes base number heard mark) (limit : Option Duration)
    (program : Program World)
    (hlifts : program.Lifts fun task =>
      task.Respects (World.Has base number) (World.Outside base number heard)) :
    (runWith manager sink limit program).run.Obeys (course (program.Asks base) base number heard)
      (fun _ _ => True)
      (fun outcome p => ∃ deeds, Concluded (program.Asks base) base mark (outcome, deeds) p)
      .seeking := by
  rw [runWith_eq_account]
  refine (account_obeys hheard hmanager hsink limit program (fun _ => id) hlifts).bind ?_
  rintro ⟨outcome, deeds⟩ p hp
  exact ⟨deeds, hp⟩

lemma Concluded.sight {told : Except Fault Value × List (Deed World)} {x : Stage × Part ρ}
    (h : Concluded asked base mark told (.leased x)) : x.1.sight ≠ .open := by
  obtain ⟨q, b, calls, rfl, hsight, -⟩ := h
  rw [hsight]
  simp

lemma sight_of_concluded (outcome : Except Fault Value) (x : Stage × Part ρ)
    (h : ∃ deeds, Concluded asked base mark (outcome, deeds) (.leased x)) :
    x.1.sight ≠ .open := by
  obtain ⟨deeds, h⟩ := h
  exact h.sight

/-! ## Looking after the lease -/

def Passed : Phase ρ → Prop
  | .leased x => Past x
  | .stray => True
  | _ => False

/-- **Looking after the lease** keeps to the discipline. -/
lemma watch_keeps_course (hheard : World.Unheard heard) (ownFirst : Bool) :
    Company.Keeps (course asked base number heard) Passed
      ⟨(Memory.pool.lease base number).watch ownFirst, false⟩
      (.leased ({ errand := .lookout }, .helper)) :=
  Task.Obeys.map (D := leaseDiscipline asked base number heard) Phase.leased (fun _ _ => id)
    (fun _ _ _ _ _ => .use) (fun _ _ => id) (fun _ _ _ h => by simp at h)
    (fun _ _ h => h) (watch_keeps hheard ownFirst)

end Run

end Transactional
