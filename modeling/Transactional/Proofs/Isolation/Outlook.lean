import Transactional.Proofs.Run.Ledger
import Transactional.Proofs.Traffic.Changes

/-!
# What a run sees of the world

Of all that changes while others share its pool, little can make a difference to a run: scripts and
failures, the connections and the calls on them, the leases, the jobs that are due, and whatever its
own futures rely on.  Permits, turns, reports and the id that was given to the last row are not
among it.

* `Discipline.Private` — what the futures of a run rely on is none of the pool's business.
* `Outlook`, `World.outlook` — what a run sees.
* `World.Touches` — a change of one connection and of one lease at most, as far as others see.
* `World.outlook_note`, `World.outlook_drop` and others — what the single changes of a pool come to.
-/

namespace Transactional

/-- **What the futures of a run rely on is none of the pool's business**: it is about other parts of
the world than connections, leases, turns and reports. -/
structure Discipline.Private (E : Discipline World ψ) : Prop where
  schedule : ∀ e c s, E.knows e (Host.schedule.set c s) ↔ E.knows e s
  traces : ∀ e t s, E.knows e (Host.traces.set t s) ↔ E.knows e s
  backend : ∀ e b s, E.knows e (MemoryHost.backend.set b s) ↔ E.knows e s
  accounts : ∀ e a s, E.knows e (MemoryHost.accounts.set a s) ↔ E.knows e s
  leases : ∀ e n v s, E.knows e ((LeaseHost.leases n).set v s) ↔ E.knows e s
  leaseCount : ∀ e n s, E.knows e (LeaseHost.leaseCount.set n s) ↔ E.knows e s

/-- What the backend knows of a connection, up to those who watch it. -/
def Memory.Link.plain (l : Memory.Link) : Memory.Link :=
  { l with signal := { l.signal with waiting := [] } }

/-- **What a run sees of the world.** -/
structure Outlook (ψ : Type) where
  responses : List (String × Except String Outcome)
  failures : Memory.Failures
  links : Nat → Memory.Link
  calls : Nat → List Memory.Call
  linkCount : Nat
  leases : Nat → LeaseState
  leaseCount : Nat
  due : List (TaskId × Job)
  managerClosed : Bool
  relied : ψ → Prop

/-- **At most one connection and one lease are seen to change**, and jobs to become due that close
the lease. -/
structure Outlook.Touched (base number : Option Nat) (o o' : Outlook ψ) : Prop where
  responses : o'.responses = o.responses
  failures : o'.failures = o.failures
  links : ∀ m, base ≠ some m → o'.links m = o.links m
  calls : ∀ m, base ≠ some m → o'.calls m = o.calls m
  linkCount : o'.linkCount = o.linkCount
  leases : ∀ l, number ≠ some l → o'.leases l = o.leases l
  closed : ∀ l, (o.leases l).closed = true → (o'.leases l).closed = true
  leaseCount : o'.leaseCount = o.leaseCount
  due : ∀ entry ∈ o'.due, entry ∈ o.due
    ∨ ∃ b n, base = some b ∧ number = some n ∧ entry.2 = .close b n
  managerClosed : o'.managerClosed = o.managerClosed
  relied : ∀ e, o.relied e → o'.relied e

namespace Outlook.Touched

variable {base number : Option Nat} {o o' o'' : Outlook ψ} {b n : Nat}

lemma refl (o : Outlook ψ) : Touched base number o o :=
  ⟨rfl, rfl, fun _ _ => rfl, fun _ _ => rfl, rfl, fun _ _ => rfl, fun _ => id, rfl,
    fun _ => .inl, rfl, fun _ => id⟩

lemma trans (h : Touched base number o o') (h' : Touched base number o' o'') :
    Touched base number o o'' where
  responses := h'.responses.trans h.responses
  failures := h'.failures.trans h.failures
  links m hm := (h'.links m hm).trans (h.links m hm)
  calls m hm := (h'.calls m hm).trans (h.calls m hm)
  linkCount := h'.linkCount.trans h.linkCount
  leases l hl := (h'.leases l hl).trans (h.leases l hl)
  closed l := h'.closed l ∘ h.closed l
  leaseCount := h'.leaseCount.trans h.leaseCount
  due entry hentry := (h'.due entry hentry).elim (h.due entry) .inr
  managerClosed := h'.managerClosed.trans h.managerClosed
  relied e := h'.relied e ∘ h.relied e

lemma link (l : Memory.Link) : Touched (some b) number o
    { o with links := Function.update o.links b l } where
  __ := refl o
  links _ hm := Function.update_of_ne (fun heq => hm (congrArg some heq.symm)) _ _

lemma calls_on (calls : List Memory.Call) : Touched (some b) number o
    { o with calls := Function.update o.calls b calls } where
  __ := refl o
  calls _ hm := Function.update_of_ne (fun heq => hm (congrArg some heq.symm)) _ _

lemma lease {state : LeaseState} (h : (o.leases n).closed = true → state.closed = true) :
    Touched base (some n) o { o with leases := Function.update o.leases n state } where
  __ := refl o
  leases l hl := Function.update_of_ne (fun heq => hl (congrArg some heq.symm)) _ _
  closed l hl := by
    by_cases heq : l = n
    · subst heq
      simpa using h hl
    · simpa [Function.update_of_ne heq] using hl

lemma closing (number : TaskId) : Touched (some b) (some n) o
    { o with due := o.due ++ [(number, .close b n)] } where
  __ := refl o
  due entry hentry := (List.mem_append.mp hentry).imp_right fun h =>
    ⟨b, n, rfl, rfl, by rw [List.mem_singleton.mp h]⟩

end Outlook.Touched

namespace World

/-- The outlook of a run whose futures keep to a discipline. -/
def outlook (E : Discipline World ψ) (s : World) : Outlook ψ where
  responses := s.backend.responses
  failures := s.backend.failures
  links m := (Memory.link m).get s
  calls m := s.callsOn m
  linkCount := s.backend.linkCount
  leases l := (LeaseHost.leases l).get s
  leaseCount := s.leaseCount
  due := s.schedule.starts
  managerClosed := s.managerClosed
  relied e := E.knows e s

variable {E : Discipline World ψ} {base number : Option Nat} {s s' s'' : World} {b n : Nat}

/-! ## What single changes come to -/

section

variable (hE : E.Private)

include hE

lemma outlook_setSchedule (c : Schedule) (s : World) :
    (Host.schedule.set c s : World).outlook E = { s.outlook E with due := c.starts } := by
  show Outlook.mk _ _ _ _ _ _ _ _ _ _ = Outlook.mk _ _ _ _ _ _ _ _ _ _
  rw [Outlook.mk.injEq]
  exact ⟨rfl, rfl, rfl, rfl, rfl, rfl, rfl, rfl, rfl, funext fun e => propext (hE.schedule e c s)⟩

lemma outlook_schedule {c : Schedule} (hc : c.starts = s.schedule.starts) :
    (Host.schedule.set c s : World).outlook E = s.outlook E := by
  rw [outlook_setSchedule hE, hc]
  rfl

lemma outlook_traces (t : List Trace) (s : World) :
    (Host.traces.set t s : World).outlook E = s.outlook E :=
  congrArg (fun relied => { s.outlook E with relied }) (funext fun e => propext (hE.traces e t s))

lemma outlook_accounts (a : Memory.Accounts) (s : World) :
    (MemoryHost.accounts.set a s : World).outlook E = s.outlook E :=
  congrArg (fun relied => { s.outlook E with relied }) (funext fun e => propext (hE.accounts e a s))

lemma outlook_permits (h : Host.Still Memory.permits s s') : s'.outlook E = s.outlook E :=
  h.same (outlook E) (fun _ s => outlook_accounts hE _ s) (fun _ _ hc => outlook_schedule hE hc)
    fun t s => outlook_traces hE t s

lemma outlook_lease (h : Host.Still (LeaseHost.leases n) s s') : s'.outlook E =
    { s.outlook E with
      leases := Function.update (s.outlook E).leases n ((LeaseHost.leases n).get s') } := by
  have hothers : ∀ l, l ≠ n → (LeaseHost.leases l).get s' = (LeaseHost.leases l).get s :=
    fun l hl =>
    h.same (LeaseHost.leases l).get (fun v s => Table.get_put_of_ne hl s.leases v)
      (fun _ _ _ => rfl)
      fun _ _ => rfl
  have hsame := h.same (fun s => { s.outlook E with leases := fun _ => {} })
    (fun v s => congrArg (fun relied => { s.outlook E with leases := fun _ => {}, relied })
      (funext fun e => propext (hE.leases e n v s)))
    (fun _ s hc => congrArg (fun o : Outlook ψ => { o with leases := fun _ => {} })
      (outlook_schedule hE hc))
    fun t s => congrArg (fun o : Outlook ψ => { o with leases := fun _ => {} })
      (outlook_traces hE t s)
  have hleases : (s'.outlook E).leases
      = Function.update (s.outlook E).leases n ((LeaseHost.leases n).get s') := by
    funext l
    by_cases hl : l = n
    · rw [hl, Function.update_self]
      rfl
    · rw [Function.update_of_ne hl]
      exact hothers l hl
  rw [← hleases]
  exact congrArg (fun o : Outlook ψ => { o with leases := (s'.outlook E).leases }) hsame

/-- **A call is noted down.** -/
lemma outlook_note {call : Memory.Call} (hcall : call.number = b) (s : World) :
    (Memory.note call s).outlook E =
      { s.outlook E with
        calls := Function.update (s.outlook E).calls b ((s.outlook E).calls b ++ [call]) } := by
  show Outlook.mk _ _ _ _ _ _ _ _ _ _ = Outlook.mk _ _ _ _ _ _ _ _ _ _
  rw [Outlook.mk.injEq]
  refine ⟨rfl, rfl, rfl, ?_, rfl, rfl, rfl, rfl, rfl, funext fun e => propext (hE.backend e _ s)⟩
  funext m
  have hadd : (Memory.note call s).callsOn m
      = s.callsOn m ++ [call].filter (·.number = m) := List.filter_append _ _
  rw [hadd]
  by_cases hm : m = b
  · rw [hm, Function.update_self, List.filter_cons_of_pos (by simpa using hcall)]
    rfl
  · rw [Function.update_of_ne hm, List.filter_cons_of_neg (by simpa [hcall] using Ne.symm hm)]
    exact List.append_nil _

/-- **What the backend knows of a connection** changes. -/
lemma outlook_link (f : Memory.Link → Memory.Link) (b : Nat) (s : World) :
    ((Memory.link b).modify f s).outlook E =
      { s.outlook E with
        links := Function.update (s.outlook E).links b (f ((s.outlook E).links b)) } := by
  show Outlook.mk _ _ _ _ _ _ _ _ _ _ = Outlook.mk _ _ _ _ _ _ _ _ _ _
  rw [Outlook.mk.injEq]
  refine ⟨rfl, rfl, ?_, rfl, rfl, rfl, rfl, rfl, rfl, funext fun e => propext (hE.backend e _ s)⟩
  funext m
  rw [Memory.link_get_modify, Function.update_apply]
  split
  next h => rw [h]; rfl
  next => rfl

lemma outlook_lastInsertId (id : Int64) (s : World) :
    (MemoryHost.backend.set { s.backend with lastInsertId := id } s : World).outlook E
      = s.outlook E :=
  congrArg (fun relied => { s.outlook E with relied }) (funext fun e => propext (hE.backend e _ s))

/-- **Letting go of a connection.** -/
lemma outlook_drop (b : Nat) (s : World) : ∃ l, (Memory.drop b s).outlook E =
    { s.outlook E with links := Function.update (s.outlook E).links b l } := by
  cases halive : ((Memory.link b).get s).alive with
  | false =>
    refine ⟨(s.outlook E).links b, ?_⟩
    rw [Memory.drop_of_gone halive, Function.update_eq_self]
  | true =>
    refine ⟨((s.outlook E).links b).forsaken, ?_⟩
    rw [outlook_permits hE (Memory.still_drop halive), outlook_link hE]

/-- **A new connection.** -/
lemma outlook_newLink (s : World) : (Memory.newLink true s).2.outlook E =
    { s.outlook E with
      linkCount := (s.outlook E).linkCount + 1
      links := Function.update (s.outlook E).links ((s.outlook E).linkCount + 1)
        { hasPermit := true } } := by
  let counted : World :=
    MemoryHost.backend.modify (fun b => { b with linkCount := s.backend.linkCount + 1 }) s
  have hcounted : counted.outlook E =
      { s.outlook E with linkCount := (s.outlook E).linkCount + 1 } :=
    congrArg (fun relied => { s.outlook E with linkCount := (s.outlook E).linkCount + 1, relied })
      (funext fun e => propext (hE.backend e _ s))
  have hnew : (Memory.newLink true s).2
      = (Memory.link (s.backend.linkCount + 1)).modify (fun _ => { hasPermit := true })
        counted := rfl
  rw [hnew, outlook_link hE, hcounted]
  rfl

/-- **A job becomes due.** -/
lemma outlook_spawn (job : Job) (s : World) : (Host.spawn job s).outlook E =
    { s.outlook E with due := (s.outlook E).due ++ [(s.schedule.nextTask, job)] } :=
  (outlook_setSchedule hE _ s).trans
    (congrArg (fun due => { s.outlook E with due }) (Schedule.starts_spawn job s.schedule))

/-- **A new lease.** -/
lemma outlook_startWatchedLease (b : Nat) (s : World) :
    (Pool.startWatchedLease b s).2.outlook E =
      { s.outlook E with
        leases := Function.update (s.outlook E).leases (s.outlook E).leaseCount {}
        leaseCount := (s.outlook E).leaseCount + 1
        due :=
          (s.outlook E).due ++ [(s.schedule.nextTask, .watch b (s.outlook E).leaseCount)] } := by
  have hset : Host.Still (LeaseHost.leases s.leaseCount) s
      ((LeaseHost.leases s.leaseCount).set {} s) := .set _ s
  have hlease := outlook_lease hE hset
  rw [Cell.get_set] at hlease
  have hcount : (LeaseHost.leaseCount.set (s.leaseCount + 1)
      ((LeaseHost.leases s.leaseCount).set {} s) : World).outlook E
        = { ((LeaseHost.leases s.leaseCount).set {} s : World).outlook E with
          leaseCount := s.leaseCount + 1 } :=
    congrArg (fun relied => { ((LeaseHost.leases s.leaseCount).set {} s : World).outlook E with
      leaseCount := s.leaseCount + 1, relied }) (funext fun e => propext (hE.leaseCount e _ _))
  have hstart : (Pool.startWatchedLease b s).2 = Host.spawn (.watch b s.leaseCount)
    (LeaseHost.leaseCount.set (s.leaseCount + 1) ((LeaseHost.leases s.leaseCount).set {} s)) := rfl
  rw [hstart, outlook_spawn hE, hcount, hlease]
  rfl

end

/-! ## Changes of one connection and one lease -/

/-- **A change of one connection and of one lease at most**, by which nobody is refused a permit. -/
structure Touches (E : Discipline World ψ) (base number : Option Nat) (s s' : World) : Prop where
  seen : (s.outlook E).Touched base number (s'.outlook E)
  shut : s'.accounts.permits.shut = s.accounts.permits.shut

namespace Touches

lemma refl (s : World) : Touches E base number s s := ⟨.refl _, rfl⟩

lemma trans (h : Touches E base number s s') (h' : Touches E base number s' s'') :
    Touches E base number s s'' :=
  ⟨h.seen.trans h'.seen, h'.shut.trans h.shut⟩

lemma of_same (h : s'.outlook E = s.outlook E)
    (hshut : s'.accounts.permits.shut = s.accounts.permits.shut) : Touches E base number s s' :=
  ⟨h ▸ .refl _, hshut⟩

section

variable (hE : E.Private)

include hE

lemma schedule {f : Schedule → Schedule} (hf : ∀ c, (f c).starts = c.starts) (s : World) :
    Touches E base number s (Host.schedule.modify f s) :=
  of_same (outlook_schedule hE (hf _)) rfl

lemma report (trace : Trace) (s : World) : Touches E base number s (Host.report trace s) :=
  of_same (outlook_traces hE _ s) rfl

lemma permits (h : Host.Still Memory.permits s s')
    (hshut : s'.accounts.permits.shut = s.accounts.permits.shut) : Touches E base number s s' :=
  of_same (outlook_permits hE h) hshut

lemma lease (h : Host.Still (LeaseHost.leases n) s s')
    (hclosed : ((LeaseHost.leases n).get s).closed = true →
      ((LeaseHost.leases n).get s').closed = true) : Touches E base (some n) s s' :=
  ⟨outlook_lease hE h ▸ .lease hclosed,
    h.same (fun s => s.accounts.permits.shut) (fun _ _ => rfl) (fun _ _ _ => rfl) fun _ _ => rfl⟩

lemma modify {f : LeaseState → LeaseState}
    (hf : ∀ state, state.closed = true → (f state).closed = true)
    (s : World) : Touches E base (some n) s ((LeaseHost.leases n).modify f s) := by
  refine lease hE (.modify f s) fun h => ?_
  rw [Cell.get_modify]
  exact hf _ h

lemma note {call : Memory.Call} (hcall : call.number = b) (s : World) :
    Touches E (some b) number s (Memory.note call s) :=
  ⟨outlook_note hE hcall s ▸ .calls_on _, rfl⟩

lemma link (f : Memory.Link → Memory.Link) (b : Nat) (s : World) :
    Touches E (some b) number s ((Memory.link b).modify f s) :=
  ⟨outlook_link hE f b s ▸ .link _, rfl⟩

lemma count (f : Memory.Accounts → Memory.Accounts) (hf : ∀ a, (f a).permits = a.permits)
    (s : World) : Touches E base number s (MemoryHost.accounts.modify f s) :=
  of_same (outlook_accounts hE _ s) (congrArg Semaphore.shut (hf s.accounts))

lemma drop (b : Nat) (s : World) : Touches E (some b) number s (Memory.drop b s) := by
  obtain ⟨l, hl⟩ := outlook_drop hE b s
  refine ⟨hl ▸ .link l, ?_⟩
  have hwake : ∀ tasks (s : World), (Host.wakeAll tasks s).accounts = s.accounts := fun tasks s =>
    congrArg Traffic.accounts (Aside.wakeAll tasks s).traffic
  unfold Memory.drop
  dsimp only
  split
  · split
    · refine (congrArg Semaphore.shut (permits_release _)).trans ?_
      rw [Semaphore.shut_handOver]
      exact congrArg (fun a => a.permits.shut) (hwake _ _)
    · exact congrArg (fun a => a.permits.shut) (hwake _ _)
  · rfl

/-- **Letting go of a lease.** -/
lemma leave (b n : Nat) (s : World) :
    Touches E (some b) (some n) s ((Memory.pool.lease b n).drop s) := by
  unfold Lease.drop
  split
  · exact .refl s
  · exact ⟨outlook_spawn hE _ s ▸ .closing _, rfl⟩

end

end Touches

end World

end Transactional
