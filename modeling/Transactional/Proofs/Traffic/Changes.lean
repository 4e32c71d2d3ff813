import Mathlib.Logic.Function.Basic
import Transactional.Proofs.Memory.Work

/-!
# The traffic of a pool

Tasks that share a pool change only a few parts of the world that the others see: the journal, the
connections and which of them hold a permit, the accounts of the pool, the leases, and the jobs that
are due.  Everything else is their own affair.

* `Traffic`, `World.traffic` — those parts.
* `World.Aside` — a change of anything else.
* `World.Tends` — a change of one lease, and of the jobs that close it.
* `World.traffic_newLink`, `World.traffic_drop`, `World.traffic_release` and others — what opening a
  connection, letting go of one and giving one back change.
-/

namespace Transactional

/-- **What of the world the tasks that share a pool see.** -/
structure Traffic where
  journal : List Memory.Call
  linkCount : Nat
  permitted : Nat → Bool
  accounts : Memory.Accounts
  leases : Nat → LeaseState
  leaseCount : Nat
  due : List (TaskId × Job)

namespace World

def traffic (s : World) : Traffic where
  journal := s.backend.journal
  linkCount := s.backend.linkCount
  permitted m := ((Memory.link m).get s).alive && ((Memory.link m).get s).hasPermit
  accounts := s.accounts
  leases l := (LeaseHost.leases l).get s
  leaseCount := s.leaseCount
  due := s.schedule.starts

def hasEnded (number : Nat) (s : World) : Bool :=
  ((Memory.connection number).watch.ending? s).isSome

def Ages (s s' : World) : Prop :=
  ∀ m, s.hasEnded m = true → s'.hasEnded m = true

/-- **A change that the tasks that share a pool do not see**, except that a connection may end. -/
structure Aside (s s' : World) : Prop where
  traffic : s'.traffic = s.traffic
  ages : Ages s s'

/-- **A change of one lease**, and of the jobs that close it. -/
structure Tends (base number : Nat) (s s' : World) : Prop where
  traffic : ∃ state jobs, state.listening = (s.traffic.leases number).listening
    ∧ (∀ entry ∈ jobs, entry.2 = Job.close base number)
    ∧ s'.traffic = { s.traffic with
      leases := Function.update s.traffic.leases number state
      due := s.traffic.due ++ jobs }
  ages : Ages s s'

variable {s s' s'' : World} {base number : Nat} {calls : List Memory.Call}

namespace Ages

lemma refl (s : World) : Ages s s := fun _ => id

lemma trans (h : Ages s s') (h' : Ages s' s'') : Ages s s'' := fun m => h' m ∘ h m

lemma of_eq (h : ∀ m, s'.hasEnded m = s.hasEnded m) : Ages s s' := fun m hm => (h m).trans hm

end Ages

namespace Aside

lemma refl (s : World) : Aside s s := ⟨rfl, .refl s⟩

lemma trans (h : Aside s s') (h' : Aside s' s'') : Aside s s'' :=
  ⟨h'.traffic.trans h.traffic, h.ages.trans h'.ages⟩

lemma schedule {f : Schedule → Schedule} (hf : ∀ c, (f c).starts = c.starts) (s : World) :
    Aside s (Host.schedule.modify f s) :=
  ⟨congrArg (fun due => { s.traffic with due }) (hf s.schedule), .of_eq fun _ => rfl⟩

lemma report (trace : Trace) (s : World) : Aside s (Host.report trace s) :=
  ⟨rfl, .of_eq fun _ => rfl⟩

lemma wakeAll (tasks : List TaskId) (s : World) : Aside s (Host.wakeAll tasks s) := by
  induction tasks generalizing s with
  | nil => exact .refl s
  | cons task rest ih => exact (schedule (Schedule.starts_wake task) s).trans (ih _)

/-- Another status or another list of those who wait, for one connection, which does not bring it
back to life. -/
lemma signal {g : Signal}
    (h : ((Memory.link base).get s).signal.status.isTerminal = true → g.status.isTerminal = true) :
    Aside s ((Memory.signal base).set g s) := by
  have hlink := Memory.link_get_signal g base (s := s)
  refine ⟨?_, fun m hm => ?_⟩
  · show Traffic.mk _ _ _ _ _ _ _ = Traffic.mk _ _ _ _ _ _ _
    rw [Traffic.mk.injEq]
    refine ⟨rfl, rfl, ?_, rfl, rfl, rfl, rfl⟩
    funext m
    rw [hlink]
    split <;> rfl
  · by_cases hb : m = base
    · have hget : (Memory.link m).get ((Memory.signal base).set g s)
          = { (Memory.link m).get s with signal := g } := (hlink m).trans (if_pos hb)
      subst hb
      simp only [hasEnded, Watch.ending?, Memory.connection, hget] at hm ⊢
      by_cases hg : g.status.isTerminal = true
      · simp [hg]
      · have hopen : ((Memory.link m).get s).signal.status.isTerminal = false :=
          Bool.eq_false_iff.mpr fun hterminal => hg (h hterminal)
        simpa [hg, hopen] using hm
    · have hget : (Memory.link m).get ((Memory.signal base).set g s) = (Memory.link m).get s :=
        (hlink m).trans (if_neg hb)
      exact (congrArg Option.isSome (Memory.ending_of_same (by rw [hget]) (by rw [hget]))).trans hm

lemma join (base : Nat) (self : TaskId) (s : World) :
    Aside s ((Memory.connection base).watch.register self s) :=
  signal fun h => by rwa [Signal.status_join]

/-- **The server's dropping a connection** is something that happens aside. -/
lemma terminate (base : Nat) (s : World) : Aside s (Memory.terminate base s) := by
  unfold Memory.terminate Signal.finishAt
  split
  · dsimp only
    split
    · refine Aside.trans (signal fun _ => ?_) (wakeAll _ _)
      exact Lease.finish_isTerminal _ rfl
    · exact .refl s
  · exact .refl s

end Aside

namespace Tends

lemma of_aside (h : Aside s s') : Tends base number s s' := by
  refine ⟨⟨s.traffic.leases number, [], rfl, by simp, ?_⟩, h.ages⟩
  rw [Function.update_eq_self, List.append_nil, h.traffic]

lemma refl (s : World) : Tends base number s s := .of_aside (.refl s)

lemma trans (h : Tends base number s s') (h' : Tends base number s' s'') :
    Tends base number s s'' := by
  obtain ⟨⟨state, jobs, hlistening, hjobs, htraffic⟩, hages⟩ := h
  obtain ⟨⟨state', jobs', hlistening', hjobs', htraffic'⟩, hages'⟩ := h'
  have hstate : s'.traffic.leases number = state := by
    rw [htraffic]
    exact Function.update_self ..
  refine ⟨⟨state', jobs ++ jobs', ?_, ?_, ?_⟩, hages.trans hages'⟩
  · rw [hlistening', hstate, hlistening]
  · exact fun entry hentry => (List.mem_append.mp hentry).elim (hjobs entry) (hjobs' entry)
  · rw [htraffic', htraffic]
    simp only [Function.update_idem, List.append_assoc]

end Tends

/-! ## What changes of a part change -/

/-- **Only one part of the world may have changed**, beside turns and reports. -/
lemma ages_of_still {cell : Cell World τ} (h : Host.Still cell s s')
    (hcell : ∀ v s m, hasEnded m (cell.set v s) = hasEnded m s) : Ages s s' :=
  .of_eq fun m => h.same (hasEnded m) (fun v s => hcell v s m) (fun _ _ _ => rfl) fun _ _ => rfl

/-- **A change of the permits.** -/
lemma traffic_of_permits (h : Host.Still Memory.permits s s') :
    s'.traffic = { s.traffic with
      accounts := { s.traffic.accounts with permits := s'.traffic.accounts.permits } } := by
  have hsame := h.same
    (fun s => { s.traffic with
      accounts := { s.traffic.accounts with permits := { free := 0 } } }) (fun _ _ => rfl)
    (fun c s hc => congrArg (fun due => { s.traffic with
      accounts := { s.traffic.accounts with permits := { free := 0 } }
      due }) hc) fun _ _ => rfl
  exact congrArg (fun t => { t with
    accounts := { t.accounts with permits := s'.traffic.accounts.permits } }) hsame

lemma ages_of_permits (h : Host.Still Memory.permits s s') : Ages s s' :=
  ages_of_still h fun _ _ _ => rfl

lemma traffic_shutDown (s : World) :
    (Semaphore.shutDown Memory.permits s).traffic = { s.traffic with
      accounts := { s.traffic.accounts with
        permits := s.traffic.accounts.permits.refuseAll.2 } } := by
  have hpermits : (Semaphore.shutDown Memory.permits s).traffic.accounts.permits
      = s.traffic.accounts.permits.refuseAll.2 := by
    unfold Semaphore.shutDown Semaphore.updating
    exact congrArg (fun t => t.accounts.permits) (Aside.wakeAll _ (Memory.permits.set _ s)).traffic
  have hstill : Host.Still Memory.permits s (Semaphore.shutDown Memory.permits s) :=
    Semaphore.Usable.still_updating _ s
  rw [traffic_of_permits hstill, hpermits]

/-- **A change of a lease**, by which the pool hears nothing of it. -/
lemma tends_of_still (h : Host.Still (LeaseHost.leases number) s s')
    (hlistening : (s'.traffic.leases number).listening = (s.traffic.leases number).listening) :
    Tends base number s s' := by
  have hothers : ∀ l, l ≠ number → s'.traffic.leases l = s.traffic.leases l := fun l hl =>
    h.same (fun s => s.traffic.leases l)
      (fun v s => Table.get_put_of_ne hl s.leases v) (fun _ _ _ => rfl) fun _ _ => rfl
  have hsame := h.same (fun s => { s.traffic with leases := fun _ => {} }) (fun _ _ => rfl)
    (fun c s hc => congrArg (fun due => { s.traffic with leases := fun _ => {}, due }) hc)
    fun _ _ => rfl
  refine ⟨⟨s'.traffic.leases number, [], hlistening, by simp, ?_⟩,
    ages_of_still h fun _ _ _ => rfl⟩
  have hleases : s'.traffic.leases
      = Function.update s.traffic.leases number (s'.traffic.leases number) := by
    funext l
    by_cases hl : l = number
    · rw [hl, Function.update_self]
    · rw [Function.update_of_ne hl, hothers l hl]
  rw [← hleases, List.append_nil]
  cases ht : s.traffic
  cases ht' : s'.traffic
  simp only [ht, ht', Traffic.mk.injEq] at hsame ⊢
  tauto

lemma tends_of_inward (h : (Memory.pool.lease base number : Lease World).Inward s s') :
    Tends base number s s' :=
  tends_of_still h.still h.listening

lemma tends_modify {f : LeaseState → LeaseState}
    (hf : ∀ state, (f state).listening = state.listening) (s : World) :
    Tends base number s ((LeaseHost.leases number).modify f s) := by
  refine tends_of_still (.modify f s) ?_
  show ((LeaseHost.leases number).get ((LeaseHost.leases number).modify f s)).listening = _
  rw [Cell.get_modify, hf]
  rfl

/-- **Calls on a connection.** -/
lemma Works.traffic (h : Works number calls s s') :
    s'.traffic = { s.traffic with journal := s.traffic.journal ++ calls } := by
  have hpermitted : s'.traffic.permitted = s.traffic.permitted := by
    funext m
    show (_ && _) = (_ && _)
    rw [h.alive, h.hasPermit]
  show Traffic.mk _ _ _ _ _ _ _ = Traffic.mk _ _ _ _ _ _ _
  rw [Traffic.mk.injEq]
  refine ⟨h.journal, h.linkCount, hpermitted, ?_, ?_, ?_, ?_⟩
  · exact (congrArg World.accounts h.same).trans rfl
  · exact (congrArg (fun s l => Table.get (World.leases s) l) h.same).trans rfl
  · exact (congrArg World.leaseCount h.same).trans rfl
  · exact (congrArg (fun s => s.schedule.starts) h.same).trans rfl

lemma Works.ages (h : Works number calls s s') : Ages s s' :=
  .of_eq fun m => congrArg Option.isSome
    (Memory.ending_of_same (congrArg Signal.status (h.signal m)) (h.alive m))

/-! ## Opening and letting go -/

/-- **A new connection** holds a permit. -/
lemma traffic_newLink (s : World) : (Memory.newLink true s).2.traffic = { s.traffic with
    linkCount := s.traffic.linkCount + 1
    permitted := Function.update s.traffic.permitted (s.traffic.linkCount + 1) true } := by
  have hlink : ∀ m, (Memory.link m).get (Memory.newLink true s).2
      = if m = s.traffic.linkCount + 1 then { hasPermit := true } else (Memory.link m).get s :=
    fun m => Memory.link_get_modify (fun _ => { hasPermit := true }) (s.traffic.linkCount + 1) m
      (MemoryHost.backend.modify (fun b => { b with linkCount := s.traffic.linkCount + 1 }) s)
  show Traffic.mk _ _ _ _ _ _ _ = Traffic.mk _ _ _ _ _ _ _
  rw [Traffic.mk.injEq]
  refine ⟨rfl, rfl, ?_, rfl, rfl, rfl, rfl⟩
  funext m
  rw [hlink, Function.update_apply]
  split <;> rfl

lemma hasEnded_newLink {m : Nat} (hm : m ≠ s.traffic.linkCount + 1) :
    (Memory.newLink true s).2.hasEnded m = s.hasEnded m := by
  have hlink := Memory.link_get_modify (fun _ => { hasPermit := true })
    (s.traffic.linkCount + 1) m
    (MemoryHost.backend.modify (fun b => { b with linkCount := s.traffic.linkCount + 1 }) s)
  rw [if_neg hm] at hlink
  exact congrArg Option.isSome (Memory.ending_of_same
    (congrArg (fun l => l.signal.status) hlink) (congrArg Memory.Link.alive hlink))

lemma permits_release (s : World) :
    (Semaphore.release Memory.permits s).traffic.accounts.permits
      = s.traffic.accounts.permits.handOver.2 := by
  unfold Semaphore.release Semaphore.updating
  exact congrArg (fun t => t.accounts.permits) (Aside.wakeAll _ (Memory.permits.set _ s)).traffic

/-- **Letting go of a connection** that holds a permit: the permit goes back to the pool. -/
lemma traffic_drop (h : s.traffic.permitted base = true) :
    (Memory.drop base s).traffic = { s.traffic with
      permitted := Function.update s.traffic.permitted base false
      accounts := { s.traffic.accounts with
        permits := s.traffic.accounts.permits.handOver.2 } } := by
  obtain ⟨halive, hpermit⟩ : ((Memory.link base).get s).alive = true
      ∧ ((Memory.link base).get s).hasPermit = true := Bool.and_eq_true_iff.mp h
  have hforsaken : ((Memory.link base).modify Memory.Link.forsaken s).traffic = { s.traffic with
      permitted := Function.update s.traffic.permitted base false } := by
    show Traffic.mk _ _ _ _ _ _ _ = Traffic.mk _ _ _ _ _ _ _
    rw [Traffic.mk.injEq]
    refine ⟨rfl, rfl, ?_, rfl, rfl, rfl, rfl⟩
    funext m
    rw [Memory.link_get_modify, Function.update_apply]
    split <;> rfl
  have hpermits : (Memory.drop base s).traffic.accounts.permits
      = s.traffic.accounts.permits.handOver.2 := by
    have hdrop : Memory.drop base s = Semaphore.release Memory.permits
        (Host.wakeAll ((Memory.link base).get s).signal.waiting
          ((Memory.link base).modify Memory.Link.forsaken s)) := by
      simp only [Memory.drop, halive, hpermit, if_true]
      rfl
    rw [hdrop, permits_release, (Aside.wakeAll _ _).traffic]
    rfl
  rw [traffic_of_permits (Memory.still_drop halive), hpermits, hforsaken]

lemma ages_drop (base : Nat) (s : World) : Ages s (Memory.drop base s) := by
  intro m hm
  have hgrows : ((Memory.pool.lease m 0).aspect (.watch m 0) s).Grows _ :=
    Memory.grows_drop (.watch m 0) m 0 base s
  exact hgrows.ended hm

/-- **Giving the connection beneath a lease back.** -/
lemma traffic_release (hlistening : (s.traffic.leases number).listening = true)
    (h : s.traffic.permitted base = true) :
    ((Memory.pool.lease base number).release s).traffic = { s.traffic with
      permitted := Function.update s.traffic.permitted base false
      accounts := { s.traffic.accounts with
        permits := s.traffic.accounts.permits.handOver.2
        released := s.traffic.accounts.released + 1 }
      leases := Function.update s.traffic.leases number
        { s.traffic.leases number with listening := false } } := by
  let before : World := MemoryHost.accounts.modify (fun a => { a with released := a.released + 1 })
    ((LeaseHost.leases number).modify (fun state => { state with listening := false }) s)
  have hrelease : (Memory.pool.lease base number).release s = Memory.drop base before :=
    if_pos hlistening
  have hbefore : before.traffic = { s.traffic with
      accounts := { s.traffic.accounts with released := s.traffic.accounts.released + 1 }
      leases := Function.update s.traffic.leases number
        { s.traffic.leases number with listening := false } } := by
    show Traffic.mk _ _ _ _ _ _ _ = Traffic.mk _ _ _ _ _ _ _
    rw [Traffic.mk.injEq]
    refine ⟨rfl, rfl, rfl, rfl, ?_, rfl, rfl⟩
    funext l
    by_cases hl : l = number
    · rw [hl, Function.update_self]
      exact (LeaseHost.leases number).get_modify (fun state => { state with listening := false }) s
    · rw [Function.update_of_ne hl]
      exact Table.get_put_of_ne hl s.leases _
  rw [hrelease, traffic_drop (by rw [hbefore]; exact h), hbefore]

lemma ages_release (base number : Nat) (s : World) :
    Ages s ((Memory.pool.lease base number).release s) := by
  unfold Lease.release
  split
  · exact ages_drop base (MemoryHost.accounts.modify
      (fun a => { a with released := a.released + 1 })
      ((LeaseHost.leases number).modify (fun state => { state with listening := false }) s))
  · exact ages_drop base s

/-- **Starting a lease** makes the job due that looks after it. -/
lemma traffic_startWatchedLease (base : Nat) (s : World) :
    (Pool.startWatchedLease base s).2.traffic = { s.traffic with
      leases := Function.update s.traffic.leases s.traffic.leaseCount {}
      leaseCount := s.traffic.leaseCount + 1
      due := s.traffic.due ++ [(s.schedule.nextTask, .watch base s.traffic.leaseCount)] } := by
  show Traffic.mk _ _ _ _ _ _ _ = Traffic.mk _ _ _ _ _ _ _
  rw [Traffic.mk.injEq]
  refine ⟨rfl, rfl, rfl, rfl, ?_, rfl, Schedule.starts_spawn _ _⟩
  funext l
  by_cases hl : l = s.traffic.leaseCount
  · rw [hl, Function.update_self]
    exact (LeaseHost.leases s.leaseCount).get_set {} s
  · rw [Function.update_of_ne hl]
    exact Table.get_put_of_ne hl s.leases _

/-- **Letting go of a lease** makes a job due that closes it, unless it is closed. -/
lemma tends_drop (base number : Nat) (s : World) :
    Tends base number s ((Memory.pool.lease base number).drop s) := by
  unfold Lease.drop
  split
  · exact .refl s
  · refine ⟨⟨s.traffic.leases number, [(s.schedule.nextTask, .close base number)], rfl, ?_, ?_⟩,
      .of_eq fun _ => rfl⟩
    · intro entry hentry
      rw [List.mem_singleton.mp hentry]
    · rw [Function.update_eq_self]
      exact congrArg (fun due => { s.traffic with due }) (Schedule.starts_spawn _ _)

end World

end Transactional
