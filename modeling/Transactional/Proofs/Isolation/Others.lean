import Transactional.Proofs.Isolation.Confined
import Transactional.Proofs.Lease.Alone

/-!
# What others do

Other runs on the same pool open connections of their own and start leases of their own, and touch
nothing else.  Whoever looks after a lease only has an eye on it and on the connection beneath, as
long as the lease is open and the connection has not ended.

* `OtherStage`, `others` — what one of the others is at, and the discipline that all of them keep
  to.
* `run_obeys_others`, `job_obeys_others` — other runs, and the jobs that look after leases, keep to
  it.
-/

namespace Transactional

variable {ψ ρ : Type}

/-- **A glance at a connection and a lease**: one may leave word at both. -/
structure World.Glances (E : Discipline World ψ) (base number : Nat) (s s' : World) : Prop where
  touches : World.Touches E (some base) (some number) s s'
  link : ((s'.outlook E).links base).plain = ((s.outlook E).links base).plain
  calls : (s'.outlook E).calls base = (s.outlook E).calls base
  lease : ((s'.outlook E).leases number).plain = ((s.outlook E).leases number).plain
  due : (s'.outlook E).due = (s.outlook E).due

/-- **What one of the others is at.** -/
inductive OtherStage where
  | seeking
  | opened (base : Nat)
  | holding (base number : Nat)
  | watching (base number : Nat)
  | late (base number : Nat)

namespace OtherStage

def base? : OtherStage → Option Nat
  | .opened base | .holding base _ => some base
  | _ => none

def number? : OtherStage → Option Nat
  | .holding _ number => some number
  | _ => none

end OtherStage

/-- **What others may do.** -/
inductive Stir (E : Discipline World ψ) : OtherStage → World → OtherStage → World → Prop where
  | touch {r : OtherStage} {s s' : World} (h : World.Touches E r.base? r.number? s s') : Stir
      E r s r s'
  | reach {s : World} :
      Stir E .seeking s (.opened ((s.outlook E).linkCount + 1)) (Memory.newLink true s).2
  | lease {base : Nat} {s : World} :
      Stir E (.opened base) s (.holding base (s.outlook E).leaseCount)
        (Pool.startWatchedLease base s).2
  | glance {base number : Nat} {r : OtherStage} {s s' : World}
      (hr : r = .watching base number ∨ r = .late base number)
      (h : World.Glances E base number s s') : Stir E r s r s'
  | notice {base number : Nat} {s : World} (h : ((s.outlook E).leases number).closed = true) :
      Stir E (.watching base number) s (.late base number) s
  | seize {base number : Nat} {s : World} (hend : s.hasEnded base = true)
      (h : ((s.outlook E).leases number).closed = false) :
      Stir E (.watching base number) s (.holding base number) s

/-- **The discipline of the others.** -/
def others (E : Discipline World ψ) : Discipline World OtherStage where
  knows
    | .late _ number, s => ((s.outlook E).leases number).closed = true
    | _, _ => True
  may := Stir E
  waits _ _ := True

variable {E : Discipline World ψ} {heard : World → List ρ} {b n : Nat} {s s' : World} {α : Type}
  {optional : Bool}

/-- **A manager whose log, if it writes one, is nobody else's business**, and is not published. -/
structure Manager.Discreet (E : Discipline World ψ) (heard : World → List ρ)
    (manager : Manager World) : Prop where
  pool : manager.pool = Memory.pool
  closed : manager.closed = World.managerCell
  wrapping : manager.wrapping = none ∨ ∃ write, manager.wrapping = some (Connection.logged write)
    ∧ ∀ line s, World.Harmless E s (write line s) ∧ heard (write line s) = heard s

/-- One of the others may be given up at any time. -/
abbrev OtherStage.gone (E : Discipline World ψ) (optional : Bool) (r : OtherStage)
    (f : World → World) : Prop :=
  optional = true → Company.Leaves (others E) (fun _ => True) r f

lemma OtherStage.gone_of_touch {r : OtherStage} {f : World → World}
    (h : ∀ s, World.Touches E r.base? r.number? s (f s)) : r.gone E optional f :=
  fun _ s _ => ⟨r, .touch (h s), trivial⟩

/-! ## Runs -/

lemma holding_obeys_others {Q : α → Prop} {task : Task World α} (h : task.Confined E b n Q) :
    task.Obeys (others E) (OtherStage.gone E optional) (fun _ _ => True) (.holding b n) :=
  Task.Obeys.map (D := touching E b n) (fun _ => OtherStage.holding b n) (fun _ _ _ => trivial)
    (fun _ _ _ _ _ h => .touch h) (fun _ _ => id) (fun _ _ hf => OtherStage.gone_of_touch hf)
    (fun _ _ _ => trivial) h

lemma seeking_usable (hE : E.Private) :
    Semaphore.Usable (others E) Memory.permits (fun _ => .seeking) True where
  apart _ _ := rfl
  shut _ _ _ _ := trivial
  moves _ _ _ _ _ hshift hstill := .touch (.permits hE hstill hshift.shut)
  pause := trivial
  line _ := trivial

/-- **Checking a connection out.** -/
lemma checkout_obeys_others (hE : E.Private) :
    (Memory.checkout : Attempt World Nat).run.Obeys (others E) (OtherStage.gone E optional)
      (fun r q => ∀ base, r = .ok base → q = .opened base) .seeking := by
  have hpermit : (Attempt.always (Semaphore.acquire Memory.permits) : Attempt World Bool).run.Obeys
      (others E) (OtherStage.gone E optional) (fun r q => r.toBool = true ∧ q = .seeking)
        .seeking := by
    refine (Semaphore.acquire_obeys (seeking_usable hE) ?_ fun t => ?_).bind ?_
    · exact OtherStage.gone_of_touch .refl
    · exact fun _ s hs => ⟨_, (seeking_usable hE).withdraw hs, trivial⟩
    · rintro had q (⟨-, rfl⟩ | ⟨-, -, rfl⟩) <;> exact ⟨rfl, rfl⟩
  refine Attempt.obeys_bind hpermit ?_ ?_
  · rintro (_ | _) q ⟨-, rfl⟩
    · rintro base ⟨⟩
    have hopen : (Attempt.always (Task.step (Memory.newLink true)) : Attempt World Nat).run.Obeys
        (others E) (OtherStage.gone E optional) (fun r q => ∃ base, r = .ok base ∧ q = .opened base)
        .seeking :=
      fun s _ => ⟨_, .reach, _, rfl, rfl⟩
    have hopened : (Memory.openLink true : Attempt World Nat).run.Obeys (others E)
        (OtherStage.gone E optional) (fun r q => ∀ base, r = .ok base → q = .opened base)
          .seeking := by
      refine Attempt.obeys_bind hopen ?_ fun fault q h => by simp at h
      rintro base _ ⟨_, ⟨⟩, rfl⟩
      have hconnect : (Memory.connection base : Connection World).connect.run.Obeys (others E)
          (OtherStage.gone E optional) (fun _ q => q = .opened base) (.opened base) := by
        have hcall : (Memory.Call.connect base).number = base := rfl
        exact Memory.plainCall_obeys fun s _ => ⟨_, .touch (.note hE hcall s), rfl⟩
      refine hconnect.bind ?_
      rintro (fault | _) q rfl
      · refine fun s _ => ⟨_, .touch (.drop hE base s), ?_⟩
        rintro _ ⟨⟩
      · rintro _ ⟨⟩
        rfl
    refine Attempt.obeys_bind hopened ?_ fun fault q _ => by rintro _ ⟨⟩
    intro base q hq
    obtain rfl := hq base rfl
    refine fun s _ => ⟨_, .touch (.count hE _ ?_ s), ?_⟩
    · exact fun _ => rfl
    · rintro _ ⟨⟩
      rfl
  · rintro fault q ⟨h, -⟩
    cases h

lemma Manager.Discreet.confined (hE : E.Private) {manager : Manager World}
    (h : manager.Discreet E heard)
    (base number : Nat) :
    (manager.wrap (Memory.pool.lease base number).connection).Confined E base number := by
  obtain hnone | ⟨write, hsome, hwrite⟩ := h.wrapping
  · simp only [Manager.wrap, hnone]
    exact lease_confined hE base number
  · simp only [Manager.wrap, hsome]
    exact (lease_confined hE base number).logged fun line s => (hwrite line s).1

/-- **Asking for a lease.** -/
lemma lease_obeys_others (hE : E.Private) {manager : Manager World}
    (hmanager : manager.Discreet E heard) :
    manager.lease.run.Obeys (others E) (OtherStage.gone E optional)
      (fun r q => ∀ conn, r = .ok conn → ∃ base number,
        conn = manager.wrap (Memory.pool.lease base number).connection ∧ q = .holding base number)
      .seeking := by
  obtain ⟨pool, closed, wrapping, timeout⟩ := manager
  obtain rfl : pool = Memory.pool := hmanager.pool
  have hensure : (Manager.ensureOpen ⟨Memory.pool, closed, wrapping, timeout⟩).run.Obeys
      (others E) (OtherStage.gone E optional) (fun _ q => q = .seeking) .seeking := by
    refine fun s _ => ⟨_, .touch (.refl s), ?_⟩
    dsimp only
    split <;> rfl
  refine Attempt.obeys_bind hensure ?_ fun _ _ _ => by rintro _ ⟨⟩
  rintro _ q rfl
  refine Attempt.obeys_bind (checkout_obeys_others hE) ?_ fun _ _ _ => by rintro _ ⟨⟩
  intro base q hq
  obtain rfl := hq base rfl
  refine fun s _ => ⟨_, .lease, ?_⟩
  rintro _ ⟨⟩
  exact ⟨base, (s.outlook E).leaseCount, rfl, rfl⟩

/-- **A run keeps to the discipline**, and may be given up while it waits. -/
theorem run_obeys_others (hE : E.Private) {manager : Manager World}
    (hmanager : manager.Discreet E heard)
    {sink : Sink World} (hsink : ∀ event s, World.Harmless E s (sink.publish event s))
    (limit : Option Duration) {program : Program World}
    (hprogram : program.Lifts fun task => task.Respects (fun _ => True) (World.Harmless E)) :
    Company.Keeps (others E) (fun _ => True)
      ⟨(runWith manager sink limit program).run.bind fun _ => .done (), optional⟩ .seeking := by
  have hdrop : ∀ base number s, World.Touches E (some base) (some number) s
      ((manager.wrap (Memory.pool.lease base number).connection).drop s) :=
    fun base number => (hmanager.confined hE base number).drop
  rw [Company.Keeps, runWith_eq_account, Task.bind_assoc, Run.account, Task.bind_assoc]
  refine (lease_obeys_others hE hmanager).bind ?_
  rintro (fault | conn) q hq
  · trivial
  obtain ⟨base, number, rfl, rfl⟩ := hq conn rfl
  have hon := (hmanager.confined hE base number).onAccount hE hsink limit hprogram
  exact (holding_obeys_others (hon.holding (hdrop base number))).bind fun _ _ _ => trivial

/-! ## The jobs of leases -/

lemma glances_register (hE : E.Private) (self : TaskId) (s : World) :
    World.Glances E b n s ((Memory.pool.lease b n).eitherEnd.register self s) := by
  let word : Memory.Link → Memory.Link := fun l => { l with signal := l.signal.join self }
  let note : LeaseState → LeaseState := fun state => { state with signal := state.signal.join self }
  have hplain : ∀ l, (word l).plain = l.plain := by
    intro l
    unfold Memory.Link.plain
    simp only [word, Signal.join]
    split <;> rfl
  have hregister : (Memory.pool.lease b n).eitherEnd.register self s
      = (LeaseHost.leases n).modify note ((Memory.link b).modify word s) := rfl
  have houtlook : ((LeaseHost.leases n).modify note ((Memory.link b).modify word s)).outlook E =
      { s.outlook E with
        links := Function.update (s.outlook E).links b (word ((s.outlook E).links b))
        leases := Function.update (s.outlook E).leases n (note ((s.outlook E).leases n)) } := by
    rw [World.outlook_lease hE (.modify note _), World.outlook_link hE, Cell.get_modify]
    rfl
  have hnote : World.Touches E (some b) (some n) ((Memory.link b).modify word s)
      ((LeaseHost.leases n).modify note ((Memory.link b).modify word s)) :=
    .modify hE (show ∀ state : LeaseState, state.closed = true → (note state).closed = true from
      fun _ => id) _
  rw [hregister]
  refine ⟨(World.Touches.link hE word b s).trans hnote, ?_, ?_, ?_, ?_⟩ <;> rw [houtlook]
  · exact (congrArg Memory.Link.plain (Function.update_self ..)).trans (hplain _)
  · show (Function.update (s.outlook E).leases n (note ((s.outlook E).leases n)) n).plain = _
    rw [Function.update_self]
    simp only [LeaseState.plain, note, Signal.join]
    split <;> rfl

lemma shutdown_late (hE : E.Private) (status : Status) :
    ((Memory.pool.lease b n).shutdown status).Obeys (others E) (OtherStage.gone E optional)
      (fun _ _ => True) (.late b n) := by
  intro s hs
  have hclosed : ((LeaseHost.leases n).get s).closed = true := hs
  have hshut : World.Touches E (some b) (some n) s
      ((LeaseHost.leases n).modify (fun state => { state with closed := true }) s) :=
    .modify hE (fun _ _ => rfl) s
  have houtlook : ((LeaseHost.leases n).modify (fun state => { state with closed := true })
    s).outlook E
      = s.outlook E := by
    have hsame : ({ (LeaseHost.leases n).get s with closed := true } : LeaseState)
        = (s.outlook E).leases n := by
      rw [← hclosed]
      rfl
    rw [World.outlook_lease hE (.modify _ s), Cell.get_modify, hsame, Function.update_eq_self]
  refine ⟨.late b n, .glance (.inr rfl) ⟨hshut, ?_, ?_, ?_, ?_⟩, ?_⟩
  · exact congrArg (fun o : Outlook ψ => (o.links b).plain) houtlook
  · exact congrArg (fun o : Outlook ψ => o.calls b) houtlook
  · exact congrArg (fun o : Outlook ψ => (o.leases n).plain) houtlook
  · exact congrArg Outlook.due houtlook
  · simp only [show ((Memory.pool.lease b n : Lease World).cell.get s).closed = true from hclosed]
    trivial

/-- **Looking after a lease keeps to the discipline.** -/
lemma watch_obeys_others (hE : E.Private) (ownFirst : Bool) :
    Company.Keeps (others E) (fun _ => True) ⟨(Memory.pool.lease b n).watch ownFirst, optional⟩
      (.watching b n) := by
  refine ⟨trivial, OtherStage.gone_of_touch .refl,
    fun self s _ => .glance (.inl rfl) (glances_register hE self s),
    fun s _ _ => ⟨_, .touch (.refl s), fun s _ => ?_⟩⟩
  cases hend : (Memory.pool.lease b n : Lease World).base.watch.ending? s with
  | none => exact ⟨_, .touch (.refl s), by simp only [hend]; trivial⟩
  | some status =>
    by_cases hown : (ownFirst && ((Memory.pool.lease b n).watching.ending? s).isSome) = true
    · exact ⟨_, .touch (.refl s), by simp only [hend, hown, if_true]; trivial⟩
    simp only [hend, hown]
    cases hclosed : ((s.outlook E).leases n).closed with
    | true => exact ⟨_, .notice hclosed, shutdown_late hE status⟩
    | false =>
      have hended : s.hasEnded b = true := Option.isSome_iff_exists.mpr ⟨status, hend⟩
      exact ⟨_, .seize hended hclosed, holding_obeys_others (shutdown_confined hE status)⟩

/-- **The jobs of a lease keep to the discipline.** -/
theorem job_obeys_others (optional : Bool) (hE : E.Private) {job : Job} {task : Task World Unit}
    (h : Memory.pool.Jobs b n job task) :
    ∃ r : OtherStage, Company.Keeps (others E) (fun _ => True) ⟨task, optional⟩ r
      ∧ (job = .close b n ∧ r = .holding b n ∨ job = .watch b n ∧ r = .watching b n) := by
  rcases h with ⟨rfl, rfl⟩ | ⟨rfl, ownFirst, rfl⟩
  · exact ⟨_, holding_obeys_others (shutdown_confined hE .closed), .inl ⟨rfl, rfl⟩⟩
  · exact ⟨_, watch_obeys_others hE ownFirst, .inr ⟨rfl, rfl⟩⟩

end Transactional
