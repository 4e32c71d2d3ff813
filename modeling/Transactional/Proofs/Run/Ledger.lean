import Transactional.Proofs.Memory.Work

/-!
# What a run leaves in the journal

A run is told apart from everything else by its connection: the calls on it are the run's own, and
each is written down with whether it succeeded.  Around the run anything may happen that touches
neither its connection nor its lease, except that the connection may break.

* `Memory.Call.granted`, `World.callsOn` — whether a call succeeds, and the calls on a connection.
* `World.Unheard` — what the library does by itself is not published.
* `World.Outside` — what may happen around a run; `World.outside_terminate` is the case for which
  the backend is there.
* `Run.Book`, `Run.ledger` — what a run has done, and the discipline of keeping books on it.
-/

namespace Transactional

/-- Whether an attempt succeeds where nobody interrupts it. -/
def Attempt.succeeds (attempt : Attempt σ α) (s : σ) : Bool :=
  (attempt.run.poll 0 s).1.result?.any Except.toBool

namespace Memory

/-- **Whether a call succeeds**, for the calls that open a connection or begin or end a transaction.
Of statements this is not asked. -/
def Call.granted (s : World) : Call → Bool
  | .connect n => (connection n).connect.succeeds s
  | .begin n => (connection n).begin.succeeds s
  | .commit n => (connection n).commit.succeeds s
  | .rollback n => (connection n).rollback.succeeds s
  | .prepare _ _ | .execute _ _ _ | .destroy _ _ | .close _ => true

lemma plainCall_succeeds (number : Nat) (call : Call) (pick : Failures → Option String)
    (s : World) :
    (plainCall number call pick).succeeds s = (plainAnswer number pick s).toBool := by
  have hlink : (link number).get (note call s) = (link number).get s := rfl
  have hpick : pick (MemoryHost.backend.get (note call s)).failures = pick s.backend.failures := rfl
  simp only [Attempt.succeeds, plainCall, answering, Attempt.step, Attempt.of, Task.step,
    ExceptT.run, ExceptT.mk, Task.poll, Task.result?, plainAnswer, hlink, hpick, Option.any]
  split
  · rfl
  · cases pick s.backend.failures <;> rfl

end Memory

namespace World

/-- **The calls on a connection**, oldest first. -/
def callsOn (number : Nat) (s : World) : List Memory.Call :=
  s.backend.journal.filter (·.number = number)

/-- **The calls on a connection that a step adds**, and whether they succeed. -/
def newCalls (number : Nat) (s s' : World) : List (Memory.Call × Bool) :=
  ((s'.callsOn number).drop (s.callsOn number).length).map fun call => (call, call.granted s)

lemma newCalls_of_append {number : Nat} {s s' : World} {calls : List Memory.Call}
    (h : s'.callsOn number = s.callsOn number ++ calls) :
    newCalls number s s' = calls.map fun call => (call, call.granted s) := by
  rw [newCalls, h, List.drop_left]

lemma Works.callsOn {number : Nat} {calls : List Memory.Call} {s s' : World}
    (h : Works number calls s s') : s'.callsOn number = s.callsOn number ++ calls := by
  have hown : calls.filter (·.number = number) = calls :=
    List.filter_eq_self.mpr fun call hcall => by simp [h.own call hcall]
  rw [World.callsOn, h.journal, List.filter_append, hown]
  rfl

/-! ## Around a run -/

variable {ρ : Type}

/-- **What the library does by itself is not published**: `heard`, all that has been published, is
none of the parts of the world that leases, connections and the schedule are in. -/
structure Unheard (heard : World → List ρ) : Prop where
  schedule : ∀ c s, heard (Host.schedule.set c s) = heard s
  traces : ∀ t s, heard (Host.traces.set t s) = heard s
  backend : ∀ b s, heard (MemoryHost.backend.set b s) = heard s
  accounts : ∀ a s, heard (MemoryHost.accounts.set a s) = heard s
  leases : ∀ n v s, heard ((LeaseHost.leases n).set v s) = heard s
  leaseCount : ∀ n s, heard (LeaseHost.leaseCount.set n s) = heard s

/-- A connection has broken, or it has been ended. -/
def Broken (base : Nat) (s : World) : Prop :=
  ((Memory.link base).get s).signal.status.isTerminal = true

/-- A connection and a lease are there. -/
structure Has (base number : Nat) (s : World) : Prop where
  linkCount : base ≤ s.backend.linkCount
  leaseCount : number < s.leaseCount

/-- **A connection and its lease are left alone**, except that the connection may break. -/
structure Spared (base number : Nat) (s s' : World) : Prop where
  calls : s'.callsOn base = s.callsOn base
  status : ((Memory.link base).get s').signal.status = ((Memory.link base).get s).signal.status
    ∨ ((Memory.link base).get s).signal.status = .open
      ∧ ((Memory.link base).get s').signal.status = .failed
  alive : ((Memory.link base).get s').alive = ((Memory.link base).get s).alive
  lease : (LeaseHost.leases number).get s' = (LeaseHost.leases number).get s
  linkCount : s.backend.linkCount ≤ s'.backend.linkCount
  leaseCount : s.leaseCount ≤ s'.leaseCount
  due : ∀ job, job = .watch base number ∨ job = .close base number →
    ((∃ n, Company.Due n job s') ↔ ∃ n, Company.Due n job s)

/-- **What may happen around a run**: its connection and its lease are left alone, and nothing is
published. -/
structure Outside (base number : Nat) (heard : World → List ρ) (s s' : World) : Prop
    extends Spared base number s s' where
  heard : heard s' = heard s

variable {base number : Nat} {heard : World → List ρ} {s s' s'' : World}

namespace Spared

lemma refl (s : World) : Spared base number s s :=
  ⟨rfl, .inl rfl, rfl, rfl, Nat.le_refl _, Nat.le_refl _, fun _ _ => Iff.rfl⟩

lemma trans (h : Spared base number s s') (h' : Spared base number s' s'') :
    Spared base number s s'' where
  calls := h'.calls.trans h.calls
  status := by
    rcases h.status with heq | ⟨hopen, hfailed⟩ <;>
      rcases h'.status with heq' | ⟨hopen', hfailed'⟩
    · exact .inl (heq'.trans heq)
    · exact .inr ⟨heq ▸ hopen', hfailed'⟩
    · exact .inr ⟨hopen, heq'.trans hfailed⟩
    · exact .inr ⟨hopen, hfailed'⟩
  alive := h'.alive.trans h.alive
  lease := h'.lease.trans h.lease
  linkCount := Nat.le_trans h.linkCount h'.linkCount
  leaseCount := Nat.le_trans h.leaseCount h'.leaseCount
  due job hjob := (h'.due job hjob).trans (h.due job hjob)

lemma broken (h : Spared base number s s') (hbroken : Broken base s) : Broken base s' := by
  rw [Broken] at hbroken ⊢
  rcases h.status with heq | ⟨-, hfailed⟩
  · rwa [heq]
  · rw [hfailed]
    rfl

lemma ended (h : Spared base number s s')
    (hended : ((Memory.connection base).watch.ending? s).isSome = true) :
    ((Memory.connection base).watch.ending? s').isSome = true := by
  rcases h.status with heq | ⟨-, hfailed⟩
  · rwa [Memory.ending_of_same heq h.alive]
  · simp [Watch.ending?, Memory.connection, hfailed, Status.isTerminal]

/-- The lease is as it was, except that the connection beneath may have ended. -/
lemma grows (h : Spared base number s s') :
    ((Memory.pool.lease base number).aspect (.watch base number) s).Grows
      ((Memory.pool.lease base number).aspect (.watch base number) s') := by
  have hcell : (Memory.pool.lease base number).cell.get s'
      = (Memory.pool.lease base number).cell.get s := h.lease
  refine ⟨?_, h.ended, (h.due _ (.inl rfl)).mpr, (h.due _ (.inr rfl)).mpr⟩
  simp only [Lease.aspect, hcell]
  rfl

end Spared

namespace Outside

lemma refl (s : World) : Outside base number heard s s := ⟨.refl s, rfl⟩

lemma trans (h : Outside base number heard s s') (h' : Outside base number heard s' s'') :
    Outside base number heard s s'' :=
  ⟨h.toSpared.trans h'.toSpared, h'.heard.trans h.heard⟩

end Outside

lemma outside_of_still {τ : Type} {cell : Cell World τ} (h : Host.Still cell s s')
    (hheard : Unheard heard) (hcalls : ∀ v s, (cell.set v s).backend = s.backend)
    (hleases : ∀ v s, (cell.set v s).leases = s.leases)
    (hcount : ∀ v s, (cell.set v s).leaseCount = s.leaseCount)
    (hschedule : ∀ v s, (cell.set v s).schedule = s.schedule)
    (hunheard : ∀ v s, heard (cell.set v s) = heard s) : Outside base number heard s s' := by
  have hbackend : s'.backend = s.backend :=
    h.same World.backend hcalls (fun _ _ _ => rfl) fun _ _ => rfl
  have hlink : (Memory.link base).get s' = (Memory.link base).get s :=
    congrArg (fun b => b.links.get base) hbackend
  have hlease : s'.leases = s.leases :=
    h.same World.leases hleases (fun _ _ _ => rfl) fun _ _ => rfl
  have hleaseCount : s'.leaseCount = s.leaseCount :=
    h.same World.leaseCount hcount (fun _ _ _ => rfl) fun _ _ => rfl
  have hdue : ∀ job : Job, (∃ n, Company.Due n job s') = ∃ n, Company.Due n job s := by
    intro job
    refine h.same (fun s => ∃ n, Company.Due n job s) (fun v s => ?_) (fun c s hc => ?_)
      fun _ _ => rfl
    · have heq : Host.schedule.get (cell.set v s) = Host.schedule.get s := hschedule v s
      simp only [Company.Due, heq]
    · simp only [Company.due_iff, Host.schedule.get_set, hc]
  refine ⟨⟨?_, .inl ?_, ?_, ?_, ?_, ?_, fun job _ => ?_⟩, ?_⟩
  · rw [callsOn, hbackend]
    rfl
  · rw [hlink]
  · rw [hlink]
  · exact congrArg (fun t => Table.get t number) hlease
  · exact Nat.le_of_eq (congrArg Memory.Backend.linkCount hbackend).symm
  · exact Nat.le_of_eq hleaseCount.symm
  · rw [hdue]
  · exact h.same heard hunheard (fun c s _ => hheard.schedule c s) hheard.traces

lemma outside_of_permits (hheard : Unheard heard) (h : Host.Still Memory.permits s s') :
    Outside base number heard s s' :=
  outside_of_still h hheard (fun _ _ => rfl) (fun _ _ => rfl) (fun _ _ => rfl) (fun _ _ => rfl)
    fun _ _ => hheard.accounts _ _

lemma outside_schedule (hheard : Unheard heard) {f : Schedule → Schedule}
    (hf : ∀ c, (f c).starts = c.starts) (s : World) :
    Outside base number heard s (Host.schedule.modify f s) :=
  outside_of_permits hheard (.schedule f hf s)

lemma outside_signal (hheard : Unheard heard) {m : Nat} {g : Signal}
    (h : g.status = ((Memory.signal m).get s).status
      ∨ ((Memory.signal m).get s).status = .open ∧ g.status = .failed) :
    Outside base number heard s ((Memory.signal m).set g s) := by
  have hbase : (((Memory.link base).get ((Memory.signal m).set g s)).signal.status
        = ((Memory.link base).get s).signal.status
      ∨ ((Memory.link base).get s).signal.status = .open
        ∧ ((Memory.link base).get ((Memory.signal m).set g s)).signal.status = .failed)
      ∧ ((Memory.link base).get ((Memory.signal m).set g s)).alive
        = ((Memory.link base).get s).alive := by
    have hget := Memory.link_get_signal g m base s
    by_cases hm : base = m
    · rw [if_pos hm] at hget
      rw [hget]
      subst hm
      exact ⟨h, rfl⟩
    · rw [if_neg hm] at hget
      rw [hget]
      exact ⟨.inl rfl, rfl⟩
  exact ⟨⟨rfl, hbase.1, hbase.2, rfl, Nat.le_refl _, Nat.le_refl _, fun _ _ => Iff.rfl⟩,
    hheard.backend _ s⟩

lemma outside_join (hheard : Unheard heard) (m : Nat) (self : TaskId) (s : World) :
    Outside base number heard s ((Memory.signal m).modify (Signal.join self) s) :=
  outside_signal hheard (.inl (Signal.status_join _ _))

/-- **The server may drop any connection.** -/
theorem outside_terminate (hheard : Unheard heard) (m : Nat) (s : World) :
    Outside base number heard s (Memory.terminate m s) := by
  unfold Memory.terminate Signal.finishAt Signal.finish
  dsimp only
  split
  case isFalse => exact .refl s
  by_cases hended : ((Memory.signal m).get s).status.isTerminal = true
  · rw [if_pos hended]
    exact .refl s
  · rw [if_neg hended]
    have hopen : ((Memory.signal m).get s).status = .open := by
      simpa [Status.isTerminal] using hended
    exact (outside_signal hheard (.inr ⟨hopen, rfl⟩)).trans
      (outside_of_permits hheard (.wakeAll _ _))

end World

namespace Run

/-! ## Books -/

/-- **What a run has done**: the calls on its connection with their success, whether a transaction
is open, and what it has published. -/
structure Book (ρ : Type) where
  calls : List (Memory.Call × Bool) := []
  pending : Bool := false
  told : List ρ := []

/-- The part that a task has in a run: it is the run itself, or looks after its lease. -/
inductive Part (ρ : Type) where
  | runner (book : Book ρ)
  | helper

variable {ρ : Type}

/-- **What is true of a connection and its lease**: both are there, nobody has ended the connection,
and somebody holds it as long as the lease has not given it back. -/
structure Holds (base number : Nat) (s : World) : Prop where
  has : World.Has base number s
  status : ((Memory.link base).get s).signal.status ≠ .closed
  alive : ((Memory.link base).get s).alive = ((LeaseHost.leases number).get s).listening

/-- **What the lease has to tidy up**: an open transaction, and statements that were asked for. -/
structure Remembers (asked : Memory.Call → Prop) (base number : Nat) (pending : Bool) (s : World) :
    Prop where
  transaction : ((LeaseHost.leases number).get s).inTransaction = pending
  statements : ∀ handle ∈ ((LeaseHost.leases number).get s).statements,
    asked (.destroy base handle.sql)

/-- **What a run and those who look after its lease leave alone**: they let nobody else close the
lease, and a connection that has broken stays so. -/
structure Lasting (base number : Nat) (s s' : World) : Prop where
  due : (∃ n, Company.Due n (.close base number) s') → ∃ n, Company.Due n (.close base number) s
  broken : s.Broken base → s'.Broken base

/-- **A change that needs no entry in the books.** -/
structure Silent (asked : Memory.Call → Prop) (base number : Nat) (heard : World → List ρ)
    (s s' : World) : Prop extends Lasting base number s s' where
  calls : s'.callsOn base = s.callsOn base
  heard : heard s' = heard s
  holds : Holds base number s → Holds base number s'
  remembers : ∀ pending, Remembers asked base number pending s →
    Remembers asked base number pending s'

/-- **A change with its entry in the books.**  Nothing is published before the commit has succeeded
and the connection has been given back. -/
structure Records (asked : Memory.Call → Prop) (base number : Nat) (heard : World → List ρ)
    (b : Book ρ) (s : World) (b' : Book ρ) (s' : World) : Prop
    extends Lasting base number s s' where
  calls : ∃ calls, s'.callsOn base = s.callsOn base ++ calls
    ∧ b'.calls = b.calls ++ calls.map fun call => (call, call.granted s)
  told : ∃ told, b'.told = b.told ++ told ∧ heard s' = heard s ++ told
    ∧ (told ≠ [] → (.commit base, true) ∈ b.calls ∧ ((Memory.link base).get s).alive = false)
  holds : Holds base number s'
  remembers : Remembers asked base number b'.pending s'

/-- **The discipline of keeping books on a run.** -/
def ledger (asked : Memory.Call → Prop) (base number : Nat) (heard : World → List ρ) :
    Discipline World (Part ρ) where
  knows
    | .runner b, s => Holds base number s ∧ Remembers asked base number b.pending s
    | .helper, s => Holds base number s
  may
    | .runner b, s, .runner b', s' => Records asked base number heard b s b' s'
    | .helper, s, .helper, s' => Silent asked base number heard s s'
    | _, _, _, _ => False
  waits _ _ := True

variable {asked : Memory.Call → Prop} {base number : Nat} {heard : World → List ρ}
  {s s' s'' : World} {b b' : Book ρ}

namespace Lasting

lemma refl (s : World) : Lasting base number s s := ⟨id, id⟩

lemma trans (h : Lasting base number s s') (h' : Lasting base number s' s'') :
    Lasting base number s s'' :=
  ⟨h.due ∘ h'.due, h'.broken ∘ h.broken⟩

lemma of_same (hschedule : s'.schedule.starts = s.schedule.starts)
    (hstatus : ((Memory.link base).get s').signal.status
      = ((Memory.link base).get s).signal.status) : Lasting base number s s' := by
  refine ⟨fun ⟨n, hn⟩ => ⟨n, ?_⟩, fun h => ?_⟩
  · rw [Company.due_iff] at hn ⊢
    exact hschedule ▸ hn
  · rwa [World.Broken, hstatus]

end Lasting

namespace Silent

lemma refl (s : World) : Silent asked base number heard s s := ⟨.refl s, rfl, rfl, id, fun _ => id⟩

lemma trans (h : Silent asked base number heard s s')
    (h' : Silent asked base number heard s' s'') : Silent asked base number heard s s'' :=
  ⟨h.toLasting.trans h'.toLasting, h'.calls.trans h.calls, h'.heard.trans h.heard, h'.holds
    ∘ h.holds,
    fun pending hs => h'.remembers pending (h.remembers pending hs)⟩

lemma may (h : Silent asked base number heard s s') {k : Part ρ}
    (hs : (ledger asked base number heard).knows k s) :
    (ledger asked base number heard).may k s k s' := by
  cases k with
  | helper => exact h
  | runner b =>
    refine ⟨h.toLasting, ⟨[], ?_, ?_⟩, ⟨[], ?_, ?_, ?_⟩, h.holds hs.1, h.remembers _ hs.2⟩
    · rw [h.calls, List.append_nil]
    · rw [List.map_nil, List.append_nil]
    · rw [List.append_nil]
    · rw [h.heard, List.append_nil]
    · exact fun hne => absurd rfl hne

end Silent

lemma Records.silent (h : Records asked base number heard b s b' s')
    (h' : Silent asked base number heard s' s'') :
    Records asked base number heard b s b' s'' := by
  refine ⟨h.toLasting.trans h'.toLasting, ?_, ?_, h'.holds h.holds, h'.remembers _ h.remembers⟩
  · rw [h'.calls]
    exact h.calls
  · rw [h'.heard]
    exact h.told

lemma Lasting.of_spared (h : World.Spared base number s s') : Lasting base number s s' :=
  ⟨(h.due _ (.inr rfl)).mp, h.broken⟩

lemma Holds.spared (hs : Holds base number s) (h : World.Spared base number s s') :
    Holds base number s' := by
  refine ⟨⟨Nat.le_trans hs.has.linkCount h.linkCount,
    Nat.lt_of_lt_of_le hs.has.leaseCount h.leaseCount⟩, ?_, ?_⟩
  · rcases h.status with heq | ⟨-, hfailed⟩
    · rw [heq]
      exact hs.status
    · rw [hfailed]
      simp
  · rw [h.alive, h.lease]
    exact hs.alive

lemma Remembers.spared {pending : Bool} (hs : Remembers asked base number pending s)
    (h : World.Spared base number s s') : Remembers asked base number pending s' := by
  refine ⟨?_, ?_⟩
  · rw [h.lease]
    exact hs.transaction
  · rw [h.lease]
    exact hs.statements

lemma silent_of_outside (h : World.Outside base number heard s s') :
    Silent asked base number heard s s' :=
  ⟨.of_spared h.toSpared, h.calls, h.heard, fun hs => hs.spared h.toSpared,
    fun _ hs => hs.spared h.toSpared⟩

lemma silent_of_inward (hheard : World.Unheard heard)
    (h : (Memory.pool.lease base number).Inward s s') : Silent asked base number heard s s' := by
  have hbackend : s'.backend = s.backend :=
    h.still.same World.backend (fun _ _ => rfl) (fun _ _ _ => rfl) fun _ _ => rfl
  have hlink : (Memory.link base).get s' = (Memory.link base).get s :=
    congrArg (fun b => b.links.get base) hbackend
  have hcount : s'.leaseCount = s.leaseCount :=
    h.still.same World.leaseCount (fun _ _ => rfl) (fun _ _ _ => rfl) fun _ _ => rfl
  have hlistening : ((LeaseHost.leases number).get s').listening
      = ((LeaseHost.leases number).get s).listening := h.listening
  have htransaction : ((LeaseHost.leases number).get s').inTransaction
      = ((LeaseHost.leases number).get s).inTransaction := h.inTransaction
  have hschedule : s'.schedule.starts = s.schedule.starts :=
    h.still.same (fun s => s.schedule.starts) (fun _ _ => rfl) (fun _ _ hc => hc) fun _ _ => rfl
  refine ⟨.of_same hschedule (by rw [hlink]), ?_, ?_, fun hs => ⟨⟨?_, ?_⟩, ?_, ?_⟩,
    fun pending hs => ⟨?_, ?_⟩⟩
  · rw [World.callsOn, hbackend]
    rfl
  · exact h.still.same heard (hheard.leases number) (fun c s _ => hheard.schedule c s)
      hheard.traces
  · rw [hbackend]
    exact hs.has.linkCount
  · rw [hcount]
    exact hs.has.leaseCount
  · rw [hlink]
    exact hs.status
  · rw [hlink, hlistening]
    exact hs.alive
  · rw [htransaction]
    exact hs.transaction
  · exact fun handle hhandle => hs.statements handle (h.statements hhandle)

/-- **The books ignore the lease.** -/
lemma ignores (hheard : World.Unheard heard) (k : Part ρ) :
    (Memory.pool.lease base number).Ignores (ledger asked base number heard).blind k :=
  fun _ _ _ _ hs h => (silent_of_inward hheard h).may hs

/-- **Calls on the connection are entered in the books.** -/
lemma records_of_works (hheard : World.Unheard heard) {calls : List Memory.Call}
    (h : World.Works base calls s s')
    (hs : (ledger asked base number heard).knows (.runner b) s) :
    Records asked base number heard b s
      { b with calls := b.calls ++ calls.map fun call => (call, call.granted s) } s' := by
  obtain ⟨hholds, hremembers⟩ := hs
  have hleases : s'.leases = s.leases := by rw [h.same]
  have hlease : (LeaseHost.leases number).get s' = (LeaseHost.leases number).get s :=
    congrArg (fun t => Table.get t number) hleases
  have hschedule : s'.schedule = s.schedule := by rw [h.same]
  refine ⟨.of_same (by rw [hschedule]) (by rw [h.signal]), ⟨calls, h.callsOn, rfl⟩,
    ⟨[], ?_, ?_, fun hne => absurd rfl hne⟩, ⟨⟨?_, ?_⟩, ?_, ?_⟩, ?_, ?_⟩
  · rw [List.append_nil]
  · rw [h.same, List.append_nil]
    exact hheard.backend _ s
  · rw [h.linkCount]
    exact hholds.has.linkCount
  · rw [h.same]
    exact hholds.has.leaseCount
  · rw [h.signal]
    exact hholds.status
  · rw [h.alive, hlease]
    exact hholds.alive
  · rw [hlease]
    exact hremembers.transaction
  · rw [hlease]
    exact hremembers.statements

end Run

end Transactional
