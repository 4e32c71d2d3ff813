import Transactional.Proofs.Closing.Alongside
import Transactional.Proofs.Task.Phases

/-!
# Closing a manager

Any clone of a manager may be closed, at any moment and more than once.  The first close shuts the
pool down and no other does; whoever comes afterwards is refused, whoever waits for a permit then is
refused with his next turn, and whoever has a connection goes on as if nothing had happened.

* `Manager.Refuses` — a manager that refuses everybody at once.
* `CallerSystem.Step.closes`, `CallerSystem.Story.closes` — how often the pool is shut down, and by
  whom.
* `CallerStage.waiting_goes` — what becomes of those who wait when the pool has been shut.
* `CallerSystem.Alongside.working` — what becomes of those who have a connection, beside a system
  that nobody closes.
* **`manager_closing`** — all this, at each moment of all that can happen.
-/

namespace Transactional

/-! ## Those who come afterwards -/

namespace Manager

/-- **A manager that refuses everybody at once**, and nothing else happens. -/
structure Refuses (manager : Manager World) (s : World) : Prop where
  lease : ∀ self, manager.lease.run.poll self s = (.done (.error closedFault), s)
  create : ∀ self, manager.create.run.poll self s = (.done (.error closedFault), s)
  runs : ∀ self (sink : Sink World) (limit : Option Duration) (program : Program World),
    (runWith manager sink limit program).run.poll self s = (.done (.error closedFault), s)

lemma poll_ensureOpen {manager : Manager World} {s : World} (hclosed : manager.closed.get s = true)
    (next : Unit → Attempt World α) (self : TaskId) :
    (manager.ensureOpen >>= next).run.poll self s = (.done (.error closedFault), s) := by
  show Task.poll self (Task.bind (if manager.closed.get s then _ else _) _) s = _
  rw [if_pos hclosed]
  rfl

lemma Clone.refuses {clone : Manager World} (hclone : clone.Clone) {s : World}
    (hclosed : s.managerClosed = true) : clone.Refuses s := by
  have hget : clone.closed.get s = true := by rwa [hclone.closed]
  have hlease : ∀ self, clone.lease.run.poll self s = (.done (.error closedFault), s) :=
    poll_ensureOpen hget _
  refine ⟨hlease, poll_ensureOpen hget _, fun self sink limit program => ?_⟩
  show Task.poll self (Task.bind clone.lease.run _) s = _
  rw [Task.poll_bind_of_done _ self (congrArg Prod.fst (hlease self)), hlease]
  rfl

/-- **Closing a manager** takes one turn: the first close shuts the pool down, every other does
nothing. -/
lemma Clone.poll_close {clone : Manager World} (hclone : clone.Clone) (self : TaskId) (s : World) :
    clone.close.poll self s
      = (.done (), if s.managerClosed then s
          else Semaphore.shutDown Memory.permits (World.managerCell.set true s)) := by
  rw [Manager.close, hclone.closed, hclone.pool]
  cases hclosed : s.managerClosed with
  | false =>
    show Task.poll self (if s.managerClosed then _ else _) _ = _
    rw [hclosed]
    rfl
  | true =>
    have hsame : World.managerCell.set true s = s := by rw [← hclosed]; rfl
    show Task.poll self (if s.managerClosed then _ else _) _ = _
    rw [hclosed, hsame]
    rfl

end Manager

/-! ## Who shuts the pool down -/

namespace CallerStage

variable {b b' c : CallerStage} {s s' : World}

/-- **Only a close closes**: the first one to look at the flag sets it, and is about to shut the
pool down. -/
lemma Goes.closes (h : b.Goes s b' s') (halong : b.Alongside s.accounts.permits.shut c) :
    s'.managerClosed.toNat = s.managerClosed.toNat + b'.shuts.toNat
      ∧ s'.accounts.permits.shut = (s.accounts.permits.shut || b.shuts) := by
  have hsteady : ∀ {s s'}, World.Steady s s' → s'.managerClosed.toNat = s.managerClosed.toNat + 0
      ∧ s'.accounts.permits.shut = (s.accounts.permits.shut || false) :=
    fun h => ⟨congrArg Bool.toNat h.closed, h.shut.trans (Bool.or_false _).symm⟩
  cases h with
  | turnedAway | queue => exact hsteady (.refl s)
  | @wait clone use _ _ rest rest' hmove =>
    have hqueueing : Memory.Queueing rest := by
      cases halong <;> assumption
    have hnot : (answered clone use rest').shuts = false := by
      unfold answered
      split <;> rfl
    rw [hnot]
    exact hsteady (hqueueing.goes_on hmove).1
  | work hmove =>
    cases halong with
    | working h =>
      obtain ⟨⟨⟩, hkept, -⟩ := Task.Obeys.moves h.steady trivial hmove
      exact hsteady hkept
  | help hmove =>
    cases halong with
    | helper h =>
      obtain ⟨⟨⟩, hkept, -⟩ := Task.Obeys.moves h.steady trivial hmove
      exact hsteady hkept
  | @close clone phase _ _ rest hmove =>
    cases halong with
    | closer hclone =>
      cases phase with
      | asked =>
        cases hmove
        rw [Closer.next, hclone.closed]
        show true.toNat = _ ∧ _
        rw [show World.managerCell.get s = s.managerClosed from rfl]
        cases s.managerClosed <;> exact ⟨rfl, (Bool.or_false _).symm⟩
      | shutting =>
        rw [Closer.task, hclone.pool] at hmove
        cases hmove
        obtain ⟨c, heq, -⟩ := World.updating_permits Semaphore.refuseAll s
        have hmanager := congrArg World.managerClosed heq
        have hpermits := congrArg (fun s : World => s.accounts.permits.shut) heq
        exact ⟨congrArg Bool.toNat hmanager, hpermits.trans (Bool.or_true _).symm⟩
      | finished => cases hmove

lemma shuts_of_wait (halong : b.Alongside s.accounts.permits.shut c) {on : Wait World}
    {next : Task World Unit}
    (hwait : b.task = .wait on next) : b.shuts = false := by
  cases halong with
  | @closer clone phase hclone =>
    cases phase with
    | asked | finished => rfl
    | shutting =>
      rw [show (CallerStage.closer clone .shutting).task = clone.pool.shutDown from rfl,
        hclone.pool] at hwait
      cases hwait
  | _ => rfl

/-- **Whoever waits when the pool has been shut** is refused or goes on waiting, and nobody notices.
-/
lemma waiting_goes {clone : Manager World} {rest : Task World Bool}
    {use : Connection World → Task World (Except Fault Value)} (hrest : Memory.Queueing rest)
    (hshut : s.accounts.permits.shut = true)
    (h : (CallerStage.waiting clone rest use).Goes s b' s') :
    World.Unnoticed s s' ∧ (b' = .refused Memory.poolShut ∨ ∃ rest', b' = .waiting clone rest'
      use) := by
  cases h with
  | wait hmove =>
    refine ⟨hrest.unnoticed hshut hmove, ?_⟩
    obtain ⟨-, hrest' | rfl⟩ := hrest.goes_on hmove
    · exact .inr ⟨_, answered_of_queueing hrest'⟩
    · exact .inl (by rw [hshut]; rfl)

end CallerStage

namespace CallerSystem

variable {capacity : Nat} {w : World} {system system' next later : CallerSystem}

/-- **The pool is shut down once**, when the manager is closed, or somebody is about to. -/
structure ShutsOnce (system : CallerSystem) : Prop where
  once : system.shutdowns + system.callers.countP (·.business.shuts)
    = system.state.managerClosed.toNat
  shut : system.state.accounts.permits.shut = decide (0 < system.shutdowns)

/-- The pool is shut if it has been shut down, and that has been done once. -/
lemma ShutsOnce.shut_iff (h : system.ShutsOnce) :
    system.state.accounts.permits.shut = true ↔ system.shutdowns = 1 := by
  have hone := Bool.toNat_le system.state.managerClosed
  have honce := h.once
  rw [h.shut, decide_eq_true_iff]
  omega

lemma ShutsOnce.addCaller (h : system.ShutsOnce) {caller : Caller}
    (hcaller : caller.business.shuts = false) :
    (system.addCaller caller).ShutsOnce where
  once := by
    refine Eq.trans ?_ h.once
    rw [CallerSystem.addCaller, List.countP_append, List.countP_singleton,
      if_neg (Bool.eq_false_iff.mp hcaller)]
    rfl
  shut := h.shut

/-- **Each step keeps it so**, and no step opens what has been closed. -/
theorem Step.closes (hstep : Step true system next) (halong : system.Alongside system')
    (h : system.ShutsOnce) :
    next.ShutsOnce ∧ (system.state.managerClosed = true → next.state.managerClosed = true) := by
  cases hstep with
  | checkout | run | call | close => exact ⟨h.addCaller rfl, id⟩
  | @move s s' before after b b' optional lease jobs shutdowns hgoes =>
    obtain ⟨_, ⟨c, _, _⟩, _, -, ⟨hbusiness, -⟩, -⟩ := forall₂_split halong.callers
    obtain ⟨hclosed, hshut⟩ := hgoes.closes hbusiness
    have hcount : ∀ caller : Caller, (before ++ caller :: after).countP (·.business.shuts)
        = before.countP (·.business.shuts) + after.countP (·.business.shuts)
          + caller.business.shuts.toNat := by
      intro caller
      rw [List.countP_append, List.countP_cons]
      cases caller.business.shuts <;> rfl
    have honce : shutdowns + _ = s.managerClosed.toNat := h.once
    rw [hcount] at honce
    refine ⟨⟨?_, ?_⟩, fun hset => ?_⟩
    · show shutdowns + b.shuts.toNat + List.countP _ (before ++ ⟨b', optional, _⟩ :: after)
        = s'.managerClosed.toNat
      rw [hcount]
      dsimp only at honce ⊢
      omega
    · refine hshut.trans ?_
      rw [show s.accounts.permits.shut = decide (0 < shutdowns) from h.shut]
      cases b.shuts <;> simp
    · have hone := Bool.toNat_le s'.managerClosed
      rw [show s.managerClosed = true from hset, Bool.toNat_true] at hclosed
      have hset' : s'.managerClosed.toNat = 1 := by omega
      exact Bool.toNat_eq_one.mp hset'
  | @giveUp s before after b lease on rest jobs shutdowns hwait =>
    obtain ⟨_, ⟨c, _, _⟩, _, -, ⟨hbusiness, -⟩, -⟩ := forall₂_split halong.callers
    obtain ⟨hsteady, -⟩ := CallerStage.alongside_giveUp hbusiness halong.state hwait
    have hnot : b.shuts = false := CallerStage.shuts_of_wait hbusiness hwait
    refine ⟨⟨?_, hsteady.shut.trans h.shut⟩, fun hset => hsteady.closed.trans hset⟩
    have honce := h.once
    simp only [List.countP_append, List.countP_cons, hnot] at honce ⊢
    exact honce.trans (congrArg Bool.toNat hsteady.closed.symm)
  | begin =>
    refine ⟨⟨Eq.trans ?_ h.once, h.shut⟩, id⟩
    rw [List.countP_append]
    rfl
  | aside haside hclosed =>
    have haccounts := congrArg Traffic.accounts haside.traffic
    exact ⟨⟨h.once.trans (congrArg Bool.toNat hclosed.symm),
      (congrArg (fun a : Memory.Accounts => a.permits.shut) haccounts).trans h.shut⟩,
        fun hset => hclosed.trans hset⟩

/-- **So it is at each moment.** -/
theorem Story.closes (hopen : w.managerClosed = false) (story : Story true capacity w system) :
    system.ShutsOnce := by
  induction story with
  | refl => exact ⟨(congrArg Bool.toNat hopen).symm, rfl⟩
  | tail hstory hstep ih =>
    obtain ⟨system', -, halong⟩ := Story.alongside hopen hstory
    exact (hstep.closes halong ih).1

/-- **A closed manager stays closed.** -/
theorem Story.closed_later (hopen : w.managerClosed = false) (story : Story true capacity w system)
    (hclosed : system.state.managerClosed = true)
    (hsteps : Relation.ReflTransGen (Step true) system later) :
    later.state.managerClosed = true := by
  induction hsteps with
  | refl => exact hclosed
  | tail hsteps hstep ih =>
    have story' := Relation.ReflTransGen.trans story hsteps
    obtain ⟨system', -, halong⟩ := Story.alongside hopen story'
    exact (hstep.closes halong (Story.closes hopen story')).2 ih

/-! ## Those who have a connection -/

lemma Alongside.at (h : system.Alongside system') {i : Nat} {caller : Caller}
    (hcaller : system.callers[i]? = some caller) :
    ∃ caller', system'.callers[i]? = some caller'
      ∧ caller.business.Alongside system.state.accounts.permits.shut caller'.business := by
  obtain ⟨hi, rfl⟩ := List.getElem?_eq_some_iff.mp hcaller
  have hi' := h.callers.length_eq ▸ hi
  exact ⟨_, List.getElem?_eq_getElem hi', (List.Forall₂.get h.callers hi hi').business⟩

/-- **With the next turn of each of two tasks**, taken in two systems, both come to the same result
or neither comes to its end, and the worlds stay the same but for the closing. -/
def TurnsAlike (system system' : CallerSystem)
    (rest rest' : Task World (Except Fault Value)) : Prop :=
  ∀ self,
    let turn := rest.poll self (Host.schedule.modify Schedule.refresh system.state)
    let turn' := rest'.poll self (Host.schedule.modify Schedule.refresh system'.state)
    turn.1.result? = turn'.1.result? ∧ World.SameButClosed turn.2 turn'.2

/-- **Somebody with a connection goes on as his counterpart does.** -/
theorem Alongside.working (h : system.Alongside system') {i : Nat} {caller : Caller}
    (hcaller : system.callers[i]? = some caller) {rest : Task World (Except Fault Value)}
    (hworking : caller.business = .working rest) :
    ∃ caller' rest', system'.callers[i]? = some caller' ∧ caller'.business = .working rest'
      ∧ TurnsAlike system system' rest rest' := by
  obtain ⟨caller', hcaller', halong⟩ := h.at hcaller
  rw [hworking] at halong
  generalize hbusiness : caller'.business = b' at halong
  cases halong with
  | @working _ rest' huntroubled =>
    refine ⟨caller', rest', hcaller', hbusiness, fun self => ?_⟩
    have hfresh : World.SameButClosed (Host.schedule.modify Schedule.refresh system.state)
        (Host.schedule.modify Schedule.refresh system'.state) :=
      h.state.reschedule fun hlike => hlike.change Schedule.starts_refresh fun _ => rfl
    obtain ⟨halike, hworlds⟩ := huntroubled.alike.poll self hfresh
    refine ⟨?_, hworlds⟩
    have hrests := Company.rests_poll self rest (Host.schedule.modify Schedule.refresh system.state)
    have hagree := halike.result fun update next heq => by rw [heq] at hrests; exact hrests
    revert hagree
    generalize (rest.poll self _).1.result? = x
    generalize (rest'.poll self _).1.result? = y
    cases x <;> cases y <;> simp [Task.Agree]

end CallerSystem

/-- **Closing a manager.**  Take everything that can have happened since the pool of a manager was
set up: checkouts and runs of any number of callers, calls on leases, closes of any clones, and
whatever the tasks do not see, one change at a time.

* The pool has been shut down once if the manager has been closed, unless the first who has closed
  it is about to do it in the same turn; and it is shut from then on.  A close of a manager that is
  closed does nothing.
* A manager that has been closed stays closed, and each clone of it refuses everybody who asks for a
  connection or for a run, at once and without any change.
* If the pool has been shut, whoever waits for a permit is refused with his next turn, and only he
  notices.
* Beside the system there is one in which the same has happened but nobody has closed the manager.
  Connections, leases, the journal, the counts of connections and all that has been published are
  the same in both; and whoever has a connection in the one has it in the other, goes on in the same
  way and comes to the same result.
* No more connections have come back than have been handed out, and each of them has been handed out
  once.  A run that is over has closed its lease; and once nobody has anything left to do, what has
  not come back are leases that nobody has closed or dropped and whose connection has not ended. -/
theorem manager_closing {capacity : Nat} {w : World} {system : CallerSystem} (hdue : w.Unlent)
    (hopen : w.managerClosed = false) (story : CallerSystem.Story true capacity w system) :
    (system.shutdowns + system.callers.countP (·.business.shuts) = system.state.managerClosed.toNat
      ∧ (system.state.accounts.permits.shut = true ↔ system.shutdowns = 1)
      ∧ ∀ clone : Manager World, clone.Clone → ∀ self s, clone.close.poll self s
          = (.done (), if s.managerClosed then s
              else Semaphore.shutDown Memory.permits (World.managerCell.set true s)))
    ∧ (system.state.managerClosed = true → ∀ later, Relation.ReflTransGen (CallerSystem.Step true)
      system later →
        later.state.managerClosed = true
          ∧ ∀ clone : Manager World, clone.Clone → clone.Refuses later.state
            ∧ ∀ use b s, (CallerStage.asking clone use).Goes later.state b s →
                b = .refused Manager.closedFault ∧ s = later.state)
    ∧ (system.state.accounts.permits.shut = true → ∀ caller ∈ system.callers, ∀ clone rest use,
        caller.business = .waiting clone rest use →
          (∀ self, ∃ s', rest.poll self (Host.schedule.modify Schedule.refresh system.state)
            = (.done false, s')
            ∧ World.Unnoticed system.state s')
          ∧ (clone.resume false).run.bind (Connection.whenLeased use) = .done
            (.error Memory.poolShut)
          ∧ ∀ b s, caller.business.Goes system.state b s → World.Unnoticed system.state s
            ∧ (b = .refused Memory.poolShut ∨ ∃ rest', b = .waiting clone rest' use))
    ∧ (∃ system', CallerSystem.Story false capacity w system' ∧ system.Alongside system'
        ∧ ∀ (i : Nat) (caller : Caller) (rest : Task World (Except Fault Value)),
          system.callers[i]? = some caller → caller.business = .working rest →
          ∃ caller' rest', system'.callers[i]? = some caller' ∧ caller'.business = .working rest'
            ∧ CallerSystem.TurnsAlike system system' rest rest')
    ∧ (system.state.accounts.released ≤ system.state.accounts.acquired
      ∧ ((World.tenancies system.jobs).map Prod.fst).Nodup
      ∧ (∀ x ∈ World.tenancies system.jobs, ∃ caller ∈ system.callers, caller.lease = some x)
      ∧ (∀ caller ∈ system.callers, caller.concludes = true → caller.business.task = .done () →
          ∀ x, caller.lease = some x → ((LeaseHost.leases x.2).get system.state).closed = true)
      ∧ (system.Settled →
        system.state.accounts.acquired
            = system.state.accounts.released + (World.unreturned system.jobs system.state).length
          ∧ ∀ x ∈ World.tenancies system.jobs,
            ((LeaseHost.leases x.2).get system.state).closed = true
              ∨ .close x.1 x.2 ∈ system.jobs ∨ system.state.hasEnded x.1 = true →
            x ∉ World.unreturned system.jobs system.state)) := by
  have honce := CallerSystem.Story.closes hopen story
  have hkept := CallerSystem.Story.kept hdue story
  obtain ⟨system', story', halong⟩ := CallerSystem.Story.alongside hopen story
  obtain ⟨hback, hdistinct, hsettled⟩ := hkept.accounts
  refine ⟨⟨honce.once, honce.shut_iff, fun clone hclone self s => hclone.poll_close self s⟩,
    fun hclosed later hsteps => ?_, fun hshut caller hmem clone rest use hbusiness => ?_,
    ⟨system', story', halong, fun i caller rest hcaller hworking => halong.working hcaller
      hworking⟩,
    hback, hdistinct, ?_, fun caller hmem hrun hover x hlease => hkept.closed hmem hrun hover
      hlease, hsettled⟩
  · have hlater := CallerSystem.Story.closed_later hopen story hclosed hsteps
    refine ⟨hlater, fun clone hclone => ⟨hclone.refuses hlater, fun use b s hgoes => ?_⟩⟩
    cases hgoes with
    | turnedAway => exact ⟨rfl, rfl⟩
    | queue hunset =>
      rw [hclone.closed, show World.managerCell.get later.state
        = later.state.managerClosed from rfl,
        hlater] at hunset
      cases hunset
  · have hproper := CallerSystem.Story.proper story caller hmem
    rw [hbusiness] at hproper ⊢
    obtain ⟨-, hrest⟩ := hproper
    exact ⟨fun self => hrest.turn hshut self, rfl, fun b s hgoes => CallerStage.waiting_goes hrest
      hshut hgoes⟩
  · obtain ⟨-, -, -, howners⟩ := hkept
    exact howners

/-- A pool of one connection that is closed while somebody waits for a permit. -/
theorem manager_closing_while_waiting :
    ∃ system, CallerSystem.Story true 1 {} system ∧ system.shutdowns = 1
    ∧ ∃ caller ∈ system.callers, ∃ clone rest use, caller.business = .waiting clone rest use
      ∧ ∀ self, ∃ s', rest.poll self (Host.schedule.modify Schedule.refresh system.state)
        = (.done false, s') := by
  have hclone : (World.manager Memory.pool).Clone := ⟨rfl, rfl, .inl rfl⟩
  have hdue : ({} : World).Unlent := fun entry hentry => absurd hentry List.not_mem_nil
  have begun : CallerSystem.Story true 1 {} { state := ({} : World).withMemory 1 } := .refl
  have asked := begun.tail (.checkout hclone)
  have queued := asked.tail (.move [] [] (.queue rfl))
  have called := queued.tail (.close hclone)
  have marked := called.tail (.move [_] [] (.close (.act _ _ _)))
  have shut := marked.tail (.move [_] [] (.close (.act _ _ _)))
  obtain ⟨⟨-, hshut, -⟩, -, hwaiting, -⟩ := manager_closing hdue rfl shut
  refine ⟨_, shut, rfl, _, .head _, _, _, _, rfl, fun self => ?_⟩
  obtain ⟨hturn, -⟩ := hwaiting (hshut.mpr rfl) _ (.head _) _ _ _ rfl
  obtain ⟨s', hpoll, -⟩ := hturn self
  exact ⟨s', hpoll⟩

end Transactional
