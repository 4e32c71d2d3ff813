import Transactional.Proofs.Run.Operations

/-!
# How a run gives its connection back

A run that closes its lease first rolls back the transaction that is still open, then destroys the
statements that it has left, and then gives the connection back.  Those who look after the lease
close it when the connection has broken; they give it back as it is.

* `Run.silent_release` — giving the connection back needs no entry in the books.
* `Run.close_obeys` — the close of the run.
* `Run.watch_keeps` — looking after the lease.
-/

namespace Transactional

namespace Run

variable {ρ : Type} {asked : Memory.Call → Prop} {base number : Nat} {heard : World → List ρ}
  {s s' s'' : World} {b : Book ρ} {p : Stage} {k : Part ρ} {x y : Stage × Part ρ}

/-- **Giving the connection back needs no entry in the books.** -/
lemma silent_release (hheard : World.Unheard heard) (hholds : Holds base number s)
    (hlistening : ((LeaseHost.leases number).get s).listening = true) :
    Silent asked base number heard s ((Memory.pool.lease base number).release s) := by
  have halive : ((Memory.link base).get s).alive = true := hholds.alive.trans hlistening
  -- Up to the moment when nobody holds the connection any longer.
  let before : World := MemoryHost.accounts.modify (fun a => { a with released := a.released + 1 })
    ((LeaseHost.leases number).modify (fun state => { state with listening := false }) s)
  have hrelease : (Memory.pool.lease base number).release s = Memory.drop base before :=
    if_pos hlistening
  have hbackend : (Memory.drop base before).backend
      = ((Memory.link base).modify Memory.Link.forsaken s).backend := Memory.drop_backend halive
  have hlink : (Memory.link base).get (Memory.drop base before)
      = ((Memory.link base).get s).forsaken :=
    (congrArg (fun b => b.links.get base) hbackend).trans
      ((Memory.link base).get_modify Memory.Link.forsaken s)
  have hleases : (Memory.drop base before).leases = before.leases :=
    Memory.drop_same World.leases base before (fun _ _ => rfl) (fun _ _ => rfl) (fun _ _ _ => rfl)
      fun _ _ => rfl
  have hcount : (Memory.drop base before).leaseCount = s.leaseCount :=
    Memory.drop_same World.leaseCount base before (fun _ _ => rfl) (fun _ _ => rfl)
      (fun _ _ _ => rfl) fun _ _ => rfl
  have hlease : (LeaseHost.leases number).get (Memory.drop base before)
      = { (LeaseHost.leases number).get s with listening := false } :=
    (congrArg (fun t => Table.get t number) hleases).trans
      ((LeaseHost.leases number).get_modify (fun state => { state with listening := false }) s)
  have hunheard : heard (Memory.drop base before) = heard s := by
    rw [Memory.drop_same heard base before (fun b s => hheard.backend b s)
      (fun a s => hheard.accounts a s) (fun c s _ => hheard.schedule c s) hheard.traces]
    exact (hheard.accounts _ _).trans (hheard.leases number _ s)
  have hschedule : (Memory.drop base before).schedule.starts = s.schedule.starts :=
    Memory.drop_same (fun s => s.schedule.starts) base before (fun _ _ => rfl) (fun _ _ => rfl)
      (fun _ _ hc => hc) fun _ _ => rfl
  rw [hrelease]
  refine ⟨.of_same hschedule (by rw [hlink]; rfl), ?_, hunheard, fun hs => ⟨⟨?_, ?_⟩, ?_, ?_⟩,
    fun pending hs => ⟨?_, ?_⟩⟩
  · rw [World.callsOn, hbackend]
    rfl
  · rw [hbackend]
    exact hs.has.linkCount
  · rw [hcount]
    exact hs.has.leaseCount
  · rw [hlink]
    exact hs.status
  · rw [hlink, hlease]
    rfl
  · rw [hlease]
    exact hs.transaction
  · rw [hlease]
    exact hs.statements

/-- Giving the connection back discharges whoever has taken it out of the lease. -/
lemma step_release (herrand : p.errand = .carrier)
    (hs : (leaseDiscipline asked base number heard).knows (p, k) s) {calls : List Memory.Call}
    (h : World.Works base calls s s') :
    p.Step ((Memory.pool.lease base number).aspect (.watch base number) s)
      { p with errand := .discharged }
      ((Memory.pool.lease base number).aspect (.watch base number)
        ((Memory.pool.lease base number).release s')) :=
  ((Memory.pool_hears base number).release_may herrand ⟨hs.1, trivial⟩
    (Memory.elsewhere_of_works (fun _ _ => rfl) h)).1

/-- Nothing but statements that are destroyed. -/
def Destroys (asked : Memory.Call → Prop) (base : Nat) (calls : List (Memory.Call × Bool)) : Prop :=
  ∀ entry ∈ calls, ∃ sql, entry = (Memory.Call.destroy base sql, true) ∧ asked entry.1

/-- **What closing the lease leaves in the journal**: a rollback if a transaction was open, and then
the statements that are destroyed. -/
def Tidied (asked : Memory.Call → Prop) (base : Nat) (pending : Bool)
    (calls : List (Memory.Call × Bool)) : Prop :=
  ∃ rolled destroyed, calls = rolled ++ destroyed
    ∧ (if pending then ∃ granted, rolled = [(Memory.Call.rollback base, granted)] else rolled = [])
    ∧ Destroys asked base destroyed

/-- **The close of a run**: too late, or with everything tidied up. -/
def Closes (asked : Memory.Call → Prop) (base : Nat) (p : Stage) (b : Book ρ)
    (x : Stage × Part ρ) : Prop :=
  p.sight ≠ .open ∧ x = (p.late, .runner b)
    ∨ p.sight ≠ .closed ∧ ∃ calls, Tidied asked base b.pending calls
      ∧ x = ({ p.carrying with errand := .discharged },
        .runner { b with calls := b.calls ++ calls, pending := false })

/-- **Closing the lease tidies it up.** -/
theorem close_obeys (hheard : World.Unheard heard) (hplace : p.place = .away)
    (herrand : p.errand = .pledged) :
    (Memory.pool.lease base number : Lease World).connection.close.Obeys
      (leaseDiscipline asked base number heard) (fun _ _ => True) (fun _ => Closes asked base p b)
      (p, .runner b) := by
  have hignores (k : Part ρ) :
      (Memory.pool.lease base number).Ignores (ledger asked base number heard).blind k :=
    ignores hheard k
  refine Lease.shutdown_obeys (Memory.apart base number) (hignores _) hplace herrand rfl
    trivial (fun _ => trivial) (fun _ s _ hs => hignores _ _ _ s _ hs
      ((Memory.apart base number).inward_surrender .closed s))
    (fun hsight => .inl ⟨hsight, rfl⟩) fun hsight _ s hs => ?_
  have hhandles : ∀ handle ∈ ((Memory.pool.lease base number).cell.get s).statements,
      asked (.destroy base handle.sql) := hs.2.statements
  unfold Lease.farewell
  rw [if_pos rfl]
  generalize ((Memory.pool.lease base number).cell.get s).statements = handles at hhandles
  refine Lease.tidy_obeys (Memory.apart base number) (Lease.bears_of_ignores hignores _)
    (by simp [Stage.carrying])
    (fun _ _ => False)
    (fun k => ∃ rolled, k = .runner { b with calls := b.calls ++ rolled, pending := false }
      ∧ if b.pending then ∃ granted, rolled = [(.rollback base, granted)] else rolled = [])
    (fun s hs => ?_) (fun _ _ h => h.elim) ?_
  · refine ⟨.runner { b with pending := false },
      records_modify hheard hs false (fun _ => rfl) rfl hs.2.statements, ?_⟩
    have htransaction : ((Memory.pool.lease base number).cell.get s).inTransaction = b.pending :=
      hs.2.transaction
    rw [htransaction]
    cases hpending : b.pending with
    | false => exact ⟨[], by rw [List.append_nil], rfl⟩
    | true =>
      refine Memory.plainCall_obeys fun s hs => ?_
      have hcall : (Memory.Call.rollback base).number = base := rfl
      exact ⟨_, beneath_works hheard hs (.note hcall s), _, rfl, _, rfl⟩
  · rintro k s ⟨rolled, rfl, hrolled⟩ hs
    obtain ⟨calls, hcalls, hworks⟩ := Memory.destroyAll_works base number handles s
    have hdestroys : ∀ call ∈ calls, ∃ sql, call = Memory.Call.destroy base sql := by
      intro call hcall
      obtain ⟨handle, -, rfl⟩ := hcalls call hcall
      exact ⟨_, rfl⟩
    have hrecords := records_destroyed hheard hs.2 (.refl s) hworks hdestroys
    have hlistening : ((LeaseHost.leases number).get
        ((Memory.pool.lease base number).destroyAll handles s)).listening = true :=
      (Memory.elsewhere_of_works (fun _ _ => rfl) hworks :
        Memory.pool.Elsewhere base number Memory.returned _ _).listening.trans
        (hs.1.carrier rfl)
    have hreleased := hrecords.silent (silent_release hheard hrecords.holds hlistening)
    rw [List.append_assoc] at hreleased
    refine ⟨({ p.carrying with errand := .discharged }, .runner _),
      ⟨step_release rfl hs hworks, hreleased⟩,
      .inr ⟨hsight, _, ⟨rolled, _, rfl, hrolled, ?_⟩, rfl⟩⟩
    intro entry hentry
    obtain ⟨call, hcall, rfl⟩ := List.mem_map.mp hentry
    obtain ⟨handle, hhandle, rfl⟩ := hcalls call hcall
    exact ⟨_, rfl, hhandles handle hhandle⟩

/-! ## Looking after the lease -/

def Past (x : Stage × Part ρ) : Prop := x.1.Over

/-- Whoever closes the lease because the connection has broken gives it back as it is. -/
lemma shutdown_keeps (hheard : World.Unheard heard) {status : Status}
    (hterminal : status.isTerminal = true) (hstatus : status ≠ .closed) :
    Company.Keeps (leaseDiscipline asked base number heard) Past
      ⟨(Memory.pool.lease base number).shutdown status, false⟩
        ({ errand := .pledged }, .helper) := by
  have hignores : (Memory.pool.lease base number).Ignores (ledger asked base number heard).blind
      (.helper : Part ρ) := ignores hheard _
  refine Lease.shutdown_obeys (Memory.apart base number) hignores rfl rfl hterminal
    (fun h => by simp at h) (fun _ h => by simp at h) (fun _ s _ hs => hignores _ _ s _ hs
      ((Memory.apart base number).inward_surrender status s))
    (fun _ => ⟨rfl, .inl rfl⟩) fun _ _ s _ => ?_
  unfold Lease.farewell
  rw [if_neg hstatus]
  intro s hs
  exact ⟨({ Stage.carrying _ with errand := .discharged }, .helper),
    ⟨step_release rfl hs (.refl s), silent_release hheard hs.2 (hs.1.carrier rfl)⟩, rfl, .inr rfl⟩

lemma ending_ne_closed (hs : Holds base number s) {status : Status}
    (h : (Memory.connection base).watch.ending? s = some status) : status ≠ .closed := by
  unfold Watch.ending? at h
  split at h
  · rw [← Option.some.inj h]
    exact hs.status
  · split at h
    · rw [← Option.some.inj h]
      simp
    · simp at h

/-- **Looking after the lease.** -/
theorem watch_keeps (hheard : World.Unheard heard) (ownFirst : Bool) :
    Company.Keeps (leaseDiscipline asked base number heard) Past
      ⟨(Memory.pool.lease base number).watch ownFirst, false⟩
        ({ errand := .lookout }, .helper) := by
  have hignores : (Memory.pool.lease base number).Ignores (ledger asked base number heard).blind
      (.helper : Part ρ) := ignores hheard _
  refine Lease.watch_obeys hignores rfl rfl (by simp) ownFirst (fun self s hs => ?_)
    (fun h => by simp at h) ⟨rfl, .inl rfl⟩ fun _ s status hs hend =>
      shutdown_keeps hheard (Watch.isTerminal_of_ending hend) (ending_ne_closed hs hend)
  have houtside : World.Outside base number heard s
      ((Memory.connection base).watch.register self s) := World.outside_join hheard base self s
  have hinward : (Memory.pool.lease base number).Inward _
      ((Memory.pool.lease base number).watching.register self
        ((Memory.connection base).watch.register self s)) := Lease.inward_join self _
  have hsilent : Silent asked base number heard s _ :=
    (silent_of_outside houtside).trans (silent_of_inward hheard hinward)
  refine ⟨?_, hsilent.may (k := .helper) hs⟩
  have hsame : (Memory.pool.lease base number).aspect (.watch base number)
      ((Memory.pool.lease base number).watching.register self
        ((Memory.connection base).watch.register self s)) = _ :=
    (Memory.apart base number).aspect_join self _
  exact hsame ▸ houtside.grows

end Run

end Transactional
