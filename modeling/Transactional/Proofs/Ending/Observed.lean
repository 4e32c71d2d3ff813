import Transactional.Proofs.Ending.Discipline
import Transactional.Proofs.Ending.Signal
import Transactional.Proofs.Lease.Release

/-!
# The end of a lease as others see it

Those who hold a lease use it, close it and let go of it; its jobs begin and take their steps;
everybody may be given up; and the connection beneath may end.  One change follows on another in any
order, and somebody may look at the lease after each of them.

* `LeaseSystem`, `Pool.Proceeds` — a lease with everybody who works on it, and one change.
* `LeaseSystem.Kept`, `Pool.SparesLease.kept` — everybody keeps to the discipline, at each moment.
* `Pool.SeenOnce` — what two who look at a lease, one after the other, see of its end.
* **`end_seen_once`** — this is so whatever happens before and in between.
-/

namespace Transactional

/-- **A task on a lease**, and whose it is. -/
structure LeaseTask (σ : Type) where
  who : Actor
  task : Task σ Unit

/-- **A lease and everybody who works on it.** -/
structure LeaseSystem (σ : Type) where
  state : σ
  tasks : List (LeaseTask σ) := []
  first : Option Actor := none

def LeaseSystem.lease [LeaseHost σ] (number : Nat) (system : LeaseSystem σ) : LeaseState :=
  (LeaseHost.leases number).get system.state

def Actor.ofJob : Job → Actor
  | .watch _ _ => .watcher
  | .close _ _ | .replenish => .closer

namespace Pool

variable [LeaseHost σ] {ρ : Type}

/-- Whoever marks a lease as closed is written down. -/
def firstAfter (number : Nat) (who : Actor) (s s' : σ) (first : Option Actor) : Option Actor :=
  if !((LeaseHost.leases number).get s).closed
    && ((LeaseHost.leases number).get s').closed then some who
  else first

/-- **One change of a lease and of those who work on it.** -/
inductive Proceeds (pool : Pool σ) (base number : Nat) (heard : σ → List ρ) :
    LeaseSystem σ → LeaseSystem σ → Prop where
  | call {s : σ} {tasks : List (LeaseTask σ)} {first : Option Actor} (call : LeaseCall) :
      Proceeds pool base number heard ⟨s, tasks, first⟩
        ⟨s, tasks ++ [⟨.holder call, call.task (pool.lease base number).connection⟩], first⟩
  | start {s : σ} {tasks : List (LeaseTask σ)} {first : Option Actor} {n : TaskId} {job : Job}
      {task : Task σ Unit} (due : Company.Due n job s) (h : pool.Jobs base number job task) :
      Proceeds pool base number heard ⟨s, tasks, first⟩
        ⟨Company.takeOff (.start n job) s, tasks ++ [⟨.ofJob job, task⟩], first⟩
  | move {s s' : σ} {before after : List (LeaseTask σ)} {first : Option Actor} {who : Actor}
      {task task' : Task σ Unit} (h : task.Moves s task' s') :
      Proceeds pool base number heard ⟨s, before ++ ⟨who, task⟩ :: after, first⟩
        ⟨s', before ++ ⟨who, task'⟩ :: after, firstAfter number who s s' first⟩
  | giveUp {s : σ} {before after : List (LeaseTask σ)} {first : Option Actor} {who : Actor}
      {on : Wait σ}
      {next : Task σ Unit} :
      Proceeds pool base number heard ⟨s, before ++ ⟨who, .wait on next⟩ :: after, first⟩
        ⟨on.abandon s, before ++ after, first⟩
  | letGo {s : σ} {tasks : List (LeaseTask σ)} {first : Option Actor} :
      Proceeds pool base number heard ⟨s, tasks, first⟩
        ⟨(pool.lease base number).shutdownNow s, tasks,
          firstAfter number (.holder .drop) s ((pool.lease base number).shutdownNow s) first⟩
  /-- Something happens beneath, such as the end of the connection beneath. -/
  | beneath {s s' : σ} {tasks : List (LeaseTask σ)} {first : Option Actor}
      (h : pool.BaseOnly base number heard s s') :
      Proceeds pool base number heard ⟨s, tasks, first⟩ ⟨s', tasks, first⟩

/-- **Whatever happens to a lease.** -/
abbrev Unfolds (pool : Pool σ) (base number : Nat) (heard : σ → List ρ) :
    LeaseSystem σ → LeaseSystem σ → Prop :=
  Relation.ReflTransGen (pool.Proceeds base number heard)

variable {pool : Pool σ} {base number : Nat} {heard : σ → List ρ} {before : List ρ}

/-- **Everybody keeps to the discipline**, and the end state agrees with what they are about. -/
def Kept (pool : Pool σ) (base number : Nat) (heard : σ → List ρ) (before : List ρ)
    (system : LeaseSystem σ) :
    Prop :=
  ∃ staged : List (LeaseTask σ × EndRole),
    system.tasks = staged.map Prod.fst
      ∧ (∀ x ∈ staged, x.1.task.Obeys (pool.endDiscipline base number heard before)
          (pool.Idly base number heard before) (fun _ _ => True) x.2)
      ∧ EndState.Sound system.first (staged.map fun x => (x.1.who, x.2))
          (pool.endState base number heard before system.state)

lemma Kept.join {tasks : List (LeaseTask σ)} {first : Option Actor} {s s' : σ} {entry : LeaseTask σ}
    {p : EndRole} (hkept : pool.Kept base number heard before ⟨s, tasks, first⟩)
    (hcalm : pool.Calm base number heard before s s')
    (hobeys : entry.task.Obeys (pool.endDiscipline base number heard before)
      (pool.Idly base number heard before) (fun _ _ => True) p)
    (hfits : p.Fits first (pool.endState base number heard before s') entry.who) :
    pool.Kept base number heard before ⟨s', tasks ++ [entry], first⟩ := by
  obtain ⟨staged, htasks, hall, hsound⟩ := hkept
  refine ⟨staged ++ [(entry, p)], by simpa using htasks, fun x hx => ?_, ?_⟩
  · rcases List.mem_append.mp hx with hx | hx
    · exact hall x hx
    · rw [List.mem_singleton.mp hx]
      exact hobeys
  · rw [List.map_append]
    exact (hsound.grows hcalm).join hfits

namespace SparesLease

variable (H : pool.SparesLease base number heard) {system system' : LeaseSystem σ}

include H

/-- **Whatever happens, everybody keeps to the discipline**, and what was seen stays. -/
theorem step (hkept : pool.Kept base number heard before system)
    (h : pool.Proceeds base number heard system system') :
    pool.Kept base number heard before system'
      ∧ (pool.endState base number heard before system.state).Later
          (pool.endState base number heard before system'.state) := by
  cases h with
  | @call s tasks first call =>
    refine ⟨hkept.join (.refl _) (H.call_obeys call) ?_, .refl _⟩
    cases hends : call.ends with
    | true => exact ⟨rfl, hends, rfl⟩
    | false => trivial
  | @start s tasks first n job task due h =>
    have hcalm : pool.Calm base number heard before s (Company.takeOff (.start n job) s) :=
      H.calm_schedule _ s
    refine ⟨?_, hcalm.later⟩
    rcases h with ⟨rfl, rfl⟩ | ⟨rfl, ownFirst, rfl⟩
    · exact hkept.join hcalm (H.shutdown_obeys .closed) ⟨rfl, rfl⟩
    · exact hkept.join hcalm (H.watch_obeys ownFirst) rfl
  | @move s s' front back first who task task' h =>
    obtain ⟨staged, htasks, hall, hsound⟩ := hkept
    obtain ⟨l, r, rfl, rfl, hr⟩ := List.map_eq_append_iff.mp htasks.symm
    obtain ⟨⟨entry, p⟩, r, rfl, rfl, rfl⟩ := List.map_eq_cons_iff.mp hr
    obtain ⟨q, hstep, hobeys⟩ := Task.Obeys.moves (hall (⟨who, task⟩, p) (by simp)) trivial h
    rw [List.map_append, List.map_cons] at hsound
    refine ⟨⟨l ++ (⟨who, task'⟩, q) :: r, by simp, fun x hx => ?_, ?_⟩, hstep.later⟩
    · rcases List.mem_append.mp hx with hx | hx
      · exact hall x (by simp [hx])
      · rcases List.mem_cons.mp hx with rfl | hx
        · exact hobeys
        · exact hall x (by simp [hx])
    · rw [List.map_append, List.map_cons]
      exact hsound.step hstep
  | @giveUp s front back first who on next =>
    obtain ⟨staged, htasks, hall, hsound⟩ := hkept
    obtain ⟨l, r, rfl, rfl, hr⟩ := List.map_eq_append_iff.mp htasks.symm
    obtain ⟨⟨entry, p⟩, r, rfl, rfl, rfl⟩ := List.map_eq_cons_iff.mp hr
    have hcalm : pool.Calm base number heard before s (on.abandon s) :=
      (hall (⟨who, .wait on next⟩, p) (by simp)).2.1 s
    refine ⟨⟨l ++ r, by simp, fun x hx => hall x ?_, ?_⟩, hcalm.later⟩
    · rcases List.mem_append.mp hx with hx | hx <;> simp [hx]
    · refine (hsound.grows hcalm).leave fun x hx => ?_
      rw [List.map_append] at hx ⊢
      rcases List.mem_append.mp hx with hx | hx <;> simp [hx]
  | @letGo s tasks first =>
    obtain ⟨staged, htasks, hall, hsound⟩ := hkept
    obtain ⟨q, hsteps⟩ : ∃ q, (EndRole.bound .closed).Steps
      (pool.endState base number heard before s) q
        (pool.endState base number heard before ((pool.lease base number).shutdownNow s)) :=
      H.shutdownNow_steps s
    have hjoined : EndState.Sound first
        (staged.map (fun x => (x.1.who, x.2)) ++ [(.holder .drop, .bound .closed)])
        (pool.endState base number heard before s) := hsound.join ⟨rfl, rfl, rfl⟩
    exact ⟨⟨staged, htasks, hall, (hjoined.steps hsteps).leave (List.subset_append_left _ _)⟩,
      hsteps.later⟩
  | @beneath s s' tasks first h =>
    obtain ⟨staged, htasks, hall, hsound⟩ := hkept
    exact ⟨⟨staged, htasks, hall, hsound.grows h.calm⟩, h.calm.later⟩

omit H in
lemma kept_start {s : σ} (hfresh : (LeaseHost.leases number).get s = {}) :
    pool.Kept base number heard (heard s) ⟨s, [], none⟩ := by
  refine ⟨[], rfl, by simp, ?_⟩
  rw [endState, hfresh]
  exact ⟨rfl, rfl, by simp [LeaseState.endState, Status.isTerminal],
    by simp [LeaseState.endState], by simp⟩

/-- **So it is at each moment.** -/
theorem unfolds (hkept : pool.Kept base number heard before system)
    (h : pool.Unfolds base number heard system system') :
    pool.Kept base number heard before system'
      ∧ (pool.endState base number heard before system.state).Later
          (pool.endState base number heard before system'.state) := by
  induction h with
  | refl => exact ⟨hkept, .refl _⟩
  | tail _ hstep ih =>
    obtain ⟨hkept', hlater⟩ := H.step ih.1 hstep
    exact ⟨hkept', ih.2.trans hlater⟩

end SparesLease

lemma unfolds_turn (self : TaskId) (front back : List (LeaseTask σ)) (who : Actor)
    (task : Task σ Unit) (s : σ)
    (first : Option Actor) :
    ∃ first', pool.Unfolds base number heard ⟨s, front ++ ⟨who, task⟩ :: back, first⟩
      ⟨(task.poll self s).2, front ++ ⟨who, (task.poll self s).1⟩ :: back, first'⟩ := by
  induction task generalizing s first with
  | done a => exact ⟨first, .refl⟩
  | act update next ih =>
    obtain ⟨first', h⟩ := ih s (update s) _
    exact ⟨first', .head (.move (.act update next s)) h⟩
  | wait on next ih =>
    rw [Task.poll]
    split
    next hready =>
      obtain ⟨first', h⟩ := ih s _
      exact ⟨first', .head (.move (.pass on next s hready)) h⟩
    next => exact ⟨_, .single (.move (.register on next self s))⟩

/-- **What two see of the end of a lease** who look at it one after the other. -/
structure SeenOnce (pool : Pool σ) (base number : Nat) (heard : σ → List ρ) (before : List ρ)
    (system system' : LeaseSystem σ) : Prop where
  closed : (system.lease number).closed = true → (system'.lease number).closed = true
  terminal : (system'.lease number).signal.status.isTerminal = true →
    (system'.lease number).closed = true
  /-- Its status is an end when the connection beneath has been given back. -/
  released : (system'.lease number).listening = false ∨ heard system'.state ≠ before →
    (system'.lease number).signal.status.isTerminal = true
  /-- Its status is what becomes of one signal that is called again and again. -/
  stream : ∃ calls more, Signal.Proper (calls ++ more)
    ∧ (system.lease number).signal.Alike (Signal.after calls)
    ∧ (system'.lease number).signal.Alike (Signal.after (calls ++ more))
  stays : (system.lease number).signal.status.isTerminal = true →
    (system'.lease number).signal.status = (system.lease number).signal.status
  /-- Whoever came to observe at the earlier moment reads the status, and sees a change if it ended
  since. -/
  reads : (Subscription.of (system.lease number).signal).report (system'.lease number).signal
    = ((system'.lease number).signal.status,
      !(system.lease number).signal.status.isTerminal
        && (system'.lease number).signal.status.isTerminal)
  brought : (system'.lease number).signal.status.isTerminal = true →
    ∃ who, system'.first = some who
      ∧ who.Brings ((pool.connection base).watch.ending? system'.state)
          (system'.lease number).signal.status

end Pool

/-! ## The scripted backend -/

namespace Memory

variable {s s' : World}

lemma baseOnly_of_works (base lease : Nat) {number : Nat} {calls : List Call}
    (h : World.Works number calls s s') : pool.BaseOnly base lease returned s s' := by
  have hended : (connection base).watch.ending? s' = (connection base).watch.ending? s :=
    ending_of_same (congrArg Signal.status (h.signal base)) (h.alive base)
  refine ⟨by rw [h.same]; rfl, by rw [h.same]; rfl, fun hstatus => ?_⟩
  exact hended.trans hstatus

lemma ending_drop (base number : Nat) (s : World) {status : Status}
    (h : (connection base).watch.ending? s = some status) :
    (connection base).watch.ending? (drop number s) = some status := by
  cases halive : ((link number).get s).alive with
  | false => rwa [drop_of_gone halive]
  | true =>
    have hsame : (connection base).watch.ending? (drop number s)
        = (connection base).watch.ending? ((link number).modify Link.forsaken s) :=
      (still_drop halive).same _ (fun _ _ => rfl) (fun _ _ _ => rfl) fun _ _ => rfl
    rw [hsame]
    exact ending_forsaken base number s h

/-- **The scripted backend and its pool leave every lease alone.** -/
theorem pool_sparesLease (base lease : Nat) : pool.SparesLease base lease returned where
  apart := apart base lease
  heard_cell _ _ := rfl
  heard_schedule _ _ := rfl
  heard_traces _ _ := rfl
  calls :=
    { connect := plainCall_obeys fun s _ =>
        ⟨(), baseOnly_of_works base lease (.note rfl s), trivial⟩
      begin := plainCall_obeys fun s _ => ⟨(), baseOnly_of_works base lease (.note rfl s), trivial⟩
      commit := plainCall_obeys fun s _ => ⟨(), baseOnly_of_works base lease (.note rfl s), trivial⟩
      rollback := plainCall_obeys fun s _ =>
        ⟨(), baseOnly_of_works base lease (.note rfl s), trivial⟩
      prepare := fun _ _ => prepare_obeys fun _ _ _ h _ _ =>
        ⟨(), baseOnly_of_works base lease h, trivial⟩
      execute := fun _ _ => execute_obeys fun _ _ _ h _ =>
        ⟨(), baseOnly_of_works base lease h, trivial⟩
      destroy := fun handle s _ =>
        (destroy_works base handle s).elim (baseOnly_of_works base lease)
          (baseOnly_of_works base lease)
      register := fun self s _ => ⟨rfl, rfl, fun h => (ending_join base base self s).trans h⟩ }
  drop s := ⟨drop_same (LeaseHost.leases lease).get base s (fun _ _ => rfl) (fun _ _ => rfl)
    (fun _ _ _ => rfl) (fun _ _ => rfl), returned_drop base s, ending_drop base base s⟩
  lease_giveBack _ := drop_same (LeaseHost.leases lease).get base _ (fun _ _ => rfl)
    (fun _ _ => rfl)
    (fun _ _ _ => rfl) (fun _ _ => rfl)
  ended_giveBack _ _ h := ending_drop base base _ h

end Memory

/-- **An end is seen once.**  Of any calls to a signal the first that asks for its end is obeyed, no
other, and all observers read that end; those who came before it see a change.  And the status of a
lease is such a signal, however calls, closes, drops, the jobs of the lease and the end of the
connection beneath come together, and whoever is given up while it waits: at any two moments, one
after the other, an observer finds the lease closed if it was, closed if its status is an end, and
its status an end if the connection beneath has been given back; and that end is the one which the
first to close the lease has brought. -/
theorem end_seen_once [LeaseHost σ] {ρ : Type} {pool : Pool σ} {base number : Nat}
    {heard : σ → List ρ}
    (H : pool.SparesLease base number heard) {s₀ : σ}
    (hfresh : (LeaseHost.leases number).get s₀ = {}) :
    (∀ calls, Signal.Proper calls → Signal.EndsOnce calls)
    ∧ ∀ system system', pool.Unfolds base number heard ⟨s₀, [], none⟩ system →
        pool.Unfolds base number heard system system' →
        pool.SeenOnce base number heard (heard s₀) system system' := by
  refine ⟨fun _ => Signal.endsOnce, fun system system' h h' => ?_⟩
  obtain ⟨hkept, -⟩ := H.unfolds (Pool.SparesLease.kept_start hfresh) h
  obtain ⟨⟨_, _, _, hsound'⟩, hlater⟩ := H.unfolds hkept h'
  obtain ⟨_, _, _, hsound⟩ := hkept
  have hcounted : (system.lease number).signal.Counted := hsound.version
  have hcounted' : (system'.lease number).signal.Counted := hsound'.version
  refine ⟨hlater.closed, fun hterminal => ?_, hsound'.released, hcounted.exists_calls hcounted'
    hlater.status,
    hlater.status, hcounted.report hcounted' hlater.status, hsound'.brought⟩
  obtain ⟨who, hfirst, -⟩ := hsound'.brought hterminal
  have hclosed := hsound'.closed
  rw [hfirst] at hclosed
  exact hclosed

/-- Somebody who comes to observe a lease before it is closed sees it closed. -/
theorem end_seen_after_close :
    (LeaseHost.leases 0).get (Pool.startWatchedLease 1 World.lent).2 = {}
      ∧ Signal.EndsOnce [.finish .failed, .subscribe, .finish .closed]
      ∧ ∃ system : LeaseSystem World,
          Memory.pool.Unfolds 1 0 Memory.returned ⟨(Pool.startWatchedLease 1 World.lent).2, [],
            none⟩ system
          ∧ (system.lease 0).signal.status = .closed
          ∧ Memory.pool.SeenOnce 1 0 Memory.returned
              (Memory.returned (Pool.startWatchedLease 1 World.lent).2)
              ⟨(Pool.startWatchedLease 1 World.lent).2, [], none⟩ system := by
  have fresh : (LeaseHost.leases 0).get (Pool.startWatchedLease 1 World.lent).2 = {} := rfl
  obtain ⟨first, hturn⟩ := Pool.unfolds_turn 1 [] [] (.holder .close)
    (Memory.pool.lease 1 0 : Lease World).connection.close
      (Pool.startWatchedLease 1 World.lent).2 none
  have unfolds := Relation.ReflTransGen.head (Pool.Proceeds.call .close) hturn
  obtain ⟨signal, lease⟩ := end_seen_once (Memory.pool_sparesLease 1 0) fresh
  refine ⟨fresh, signal _ (by simp [Signal.Proper, Status.isTerminal]), _, unfolds, rfl,
    lease _ _ .refl unfolds⟩

end Transactional
