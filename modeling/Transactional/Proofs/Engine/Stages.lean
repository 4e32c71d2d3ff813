import Transactional.Proofs.Engine.Checkout
import Transactional.Proofs.Engine.Lodging
import Transactional.Proofs.Usage.Stay

/-!
# The tasks that share a pool of the SQL engine

Somebody checks a connection out, uses it through a lease, and closes the lease or lets go of it;
then a job closes it for him.  Another job looks after the lease, and others open connections for
those who wait.  Each of these tasks is at some stage, and it changes nothing but what its stage
gives it.

* `Engine.Visit`, `Engine.Visit.task` — a checkout with what comes of it.
* `Engine.TaskStage`, `Engine.stageDiscipline` — what each task is at, and the discipline that all
  keep to.
* `Engine.visit_obeys` — a visit keeps to it.
* `Engine.closer_keeps`, `Engine.keeper_keeps`, `Engine.replenish_keeps` — so do the jobs.
-/

namespace Transactional

/-! ## Visits -/

/-- Whether one may stop in the middle: letting go of a lease can happen at any time. -/
def Parting.early : Parting → Bool
  | .close => false
  | .drop => true

namespace Engine

/-- **A visit to a pool**: how a connection is used, and how the lease ends. -/
structure Visit where
  usage : Usage Unit
  parting : Parting

/-- **The task of a visit**, which gives what has been heard of the connection, if there was one. -/
def Visit.task (manager : Manager World) (visit : Visit) : Task World (Option (List Answered)) :=
  manager.lease.run.bind fun
    | .error _ => .done none
    | .ok conn =>
        match visit.parting with
        | .close =>
            (visit.usage.on conn).bind fun x => conn.close.bind fun _ => .done (some x.2)
        | .drop =>
            (Task.holding conn.drop (visit.usage.on conn)).bind fun x => .done (some x.2)

/-! ## What each of the tasks is at -/

/-- **What a task is at.** -/
inductive TaskStage where
  | outside
  | opened (base : Nat)
  | holder (base number : Nat) (x : LeaseState × Hold)
  | keeper (base number : Nat)
  | late (number : Nat)

def TaskStage.Stands (trouble : Trouble) (settings : Settings) : TaskStage → World → Prop
  | .outside, _ | .keeper _ _, _ => True
  | .opened base, s => ∃ next, ((link base).get s).Kept .lent false [] next
  | .holder base number x, s => (lodging trouble settings base number).knows x s
  | .late number, s => ((LeaseHost.leases number).get s).closed = true

/-- **What a task may do.** -/
inductive TaskStage.May (trouble : Trouble) (settings : Settings) :
    TaskStage → World → TaskStage → World → Prop where
  | aside {p : TaskStage} {s s' : World} (h : Elsewhere s s') : May trouble settings p s p s'
  | take {base : Nat} {s s' : World} (h : Taken base s s') : May trouble settings .outside s
      (.opened base) s'
  | replenish {s s' : World} (others : Others s.linkCount s s')
      (count : s'.linkCount = s.linkCount + 1)
      (idle : s'.books.idle = s.books.idle ++ [s.linkCount])
      (new : (link s.linkCount).get s' = { place := .idle }) :
      May trouble settings .outside s .outside s'
  | lease {base : Nat} {next : UInt64} {s : World}
      (kept : ((link base).get s).Kept .lent false [] next) :
      May trouble settings (.opened base) s (.holder base s.leaseCount (Page.stage { next }))
        (Pool.startWatchedLease base s).2
  | use {base number : Nat} {x y : LeaseState × Hold} {s s' : World}
      (h : (lodging trouble settings base number).may x s y s') :
      May trouble settings (.holder base number x) s (.holder base number y) s'
  | part {base number : Nat} {page : Page} {s : World} :
      May trouble settings (.holder base number page.stage) s .outside
        (Host.spawn (.close base number) s)
  | notice {base number : Nat} {s : World} (h : ((LeaseHost.leases number).get s).closed = true) :
      May trouble settings (.keeper base number) s (.late number) s

/-- **The discipline of all tasks that share a pool.** -/
def stageDiscipline (trouble : Trouble) (settings : Settings) : Discipline World TaskStage where
  knows
    | .keeper base number, s =>
        ((link base).get s).place = .lent ∧ ((link base).get s).isTerminated = false
          ∨ ((LeaseHost.leases number).get s).closed = true
    | p, s => p.Stands trouble settings s
  may := TaskStage.May trouble settings
  waits _ _ := True

/-- **When a task may be over**: it has no connection. -/
def TaskStage.Past : TaskStage → Prop
  | .outside | .keeper _ _ | .late _ => True
  | .opened _ => False
  | .holder _ _ x => x.2 = .returned

variable {trouble : Trouble} {settings : Settings} {manager : Manager World} {base number : Nat}
  {page : Page} {x : LeaseState × Hold} {s s' : World} {gone : TaskStage → (World → World) → Prop}

/-! ## Visits -/

/-- **A manager in front of a pool with trouble**, which hands out leases as they are. -/
structure Fronts (manager : Manager World) (trouble : Trouble) (settings : Settings) : Prop where
  pool : manager.pool = besetPool trouble settings
  wrapping : manager.wrapping = none

/-- **Asking for a lease.** -/
lemma lease_obeys (fronts : Fronts manager trouble settings)
    (hgone : ∀ f : World → World, (∀ s, Elsewhere s (f s)) → gone .outside f) :
    manager.lease.run.Obeys (stageDiscipline trouble settings) gone
      (fun r p => match r with
        | .ok conn => ∃ base number next,
            conn = ((besetPool trouble settings).lease base number).connection
              ∧ p = .holder base number (Page.stage { next })
        | .error _ => p = .outside) .outside := by
  obtain ⟨pool, closed, wrapping, timeout⟩ := manager
  obtain ⟨hpool, hwrapping⟩ := fronts
  obtain rfl : pool = besetPool trouble settings := hpool
  obtain rfl : wrapping = none := hwrapping
  have hensure : (Manager.ensureOpen ⟨besetPool trouble settings, closed, none, timeout⟩).run.Obeys
      (stageDiscipline trouble settings) gone (fun _ p => p = .outside) .outside := by
    refine fun s _ => ⟨_, .aside (.refl s), ?_⟩
    dsimp only
    split <;> rfl
  let stage : Option Nat → TaskStage := fun base => base.elim .outside .opened
  have hcheckout : (checkout settings : Attempt World Nat).run.Obeys
    (stageDiscipline trouble settings) gone
      (fun r p => p = stage r.toOption) .outside := by
    refine Task.Obeys.map (D := seekers) stage (fun _ _ _ => trivial) ?_
      (fun _ _ _ => trivial) ?_ ?_
      (checkout_seeks settings)
    · rintro (_ | base) s (_ | base') s' _ hmay
      · exact .aside (Untouched.elsewhere hmay)
      · exact .take (Takes.taken hmay)
      · exact hmay.elim
      · obtain ⟨rfl, h⟩ := hmay
        exact .aside h.elsewhere
    · rintro _ f ⟨rfl, hf⟩
      exact hgone f fun s => (hf s).elsewhere
    · rintro (fault | base) _ rfl <;> rfl
  refine Attempt.obeys_bind hensure ?_ fun _ _ h => h
  rintro _ p rfl
  refine Attempt.obeys_bind hcheckout ?_ fun _ _ h => h
  rintro base p rfl s ⟨next, hkept⟩
  exact ⟨_, .lease hkept, base, s.leaseCount, next, rfl, rfl⟩

lemma holder_obeys {task : Task World α} {away : LeaseState × Hold → (World → World) → Prop}
    {ends : α → LeaseState × Hold → Prop}
    (h : task.Obeys (lodging trouble settings base number) away ends x)
    (hgone : ∀ y f, away y f → gone (.holder base number y) f) :
    task.Obeys (stageDiscipline trouble settings) gone
      (fun a p => ∃ y, p = .holder base number y ∧ ends a y)
      (.holder base number x) :=
  Task.Obeys.map (D := lodging trouble settings base number) (TaskStage.holder base number)
    (fun _ _ hs => hs) (fun _ _ _ _ _ h => .use h) (fun _ _ _ => trivial) hgone
    (fun _ y hy => ⟨y, rfl, hy⟩) h

/-- **Letting go of a lease.** -/
lemma part_may (hs : (lodging trouble settings base number).knows page.stage s) :
    TaskStage.May trouble settings (.holder base number page.stage) s .outside
      (((besetPool trouble settings).lease base number).connection.drop s) := by
  have hopen : ((LeaseHost.leases number).get s).closed = false := congrArg LeaseState.closed hs.1
  have hdrop : ((besetPool trouble settings).lease base number).connection.drop s
      = Host.spawn (.close base number) s := if_neg (Bool.eq_false_iff.mp hopen)
  rw [hdrop]
  exact .part

/-- **A visit keeps to the discipline**; one that ends with a close may not be given up. -/
theorem visit_obeys (opens : trouble.OpensNothing) (fronts : Fronts manager trouble settings)
    {visit : Visit} (hplain : visit.usage.Plain)
    (hgone : ∀ p f, (visit.parting = .drop → Company.Leaves (stageDiscipline trouble settings)
      TaskStage.Past p f) →
      gone p f) :
    (visit.task manager).Obeys (stageDiscipline trouble settings) gone
      (fun r p => p.Past ∧ ∀ taken ∈ r, ∃ next, Page.HeedsAll { next } taken) .outside := by
  have houtside : ∀ f : World → World, (∀ s, Elsewhere s (f s)) → gone .outside f := fun f hf =>
    hgone _ f fun _ s _ => ⟨.outside, .aside (hf s), trivial⟩
  refine (lease_obeys fronts houtside).bind ?_
  rintro (fault | conn) p hp
  · obtain rfl := hp
    exact ⟨trivial, nofun⟩
  obtain ⟨base, number, next, rfl, rfl⟩ := hp
  obtain ⟨usage, parting⟩ := visit
  let away : LeaseState × Hold → (World → World) → Prop :=
    fun y f => f = id ∧ ∃ page : Page, y = page.stage
  have husage : (usage.on ((besetPool trouble settings).lease base number).connection).Obeys
      (lodging trouble settings base number) away
      (fun x y => Page.HeedsAll { next } x.2 ∧ ∃ page : Page, y = page.stage)
        (Page.stage { next }) :=
    usage_lodges opens usage hplain fun page => ⟨rfl, page, rfl⟩
  cases parting with
  | close =>
    refine (holder_obeys husage fun y f _ => hgone _ f nofun).bind ?_
    rintro x _ ⟨_, rfl, hheeds, page, rfl⟩
    refine (holder_obeys (close_lodges opens)
      fun y f _ => hgone _ f nofun).bind ?_
    rintro _ _ ⟨_, rfl, rfl⟩
    exact ⟨rfl, fun taken htaken => ⟨next, Option.some.inj htaken ▸ hheeds⟩⟩
  | drop =>
    have hdrop : ∀ page : Page, ∀ s,
        (stageDiscipline trouble settings).knows (.holder base number page.stage) s →
        TaskStage.May trouble settings (.holder base number page.stage) s .outside
          (((besetPool trouble settings).lease base number).connection.drop s) :=
            fun page s hs => part_may hs
    let conn : Connection World := ((besetPool trouble settings).lease base number).connection
    have hheld : (Task.holding conn.drop (usage.on conn)).Obeys
      (stageDiscipline trouble settings) gone
        (fun x p => p = TaskStage.outside ∧ Page.HeedsAll { next } x.2)
          (.holder base number (Page.stage { next })) := by
      refine Task.Obeys.holding (holder_obeys husage ?_) ?_
      · rintro y f ⟨rfl, page, rfl⟩
        exact hgone _ _ fun _ s hs => ⟨.outside, hdrop page s hs, trivial⟩
      · rintro x _ s ⟨_, rfl, hheeds, page, rfl⟩ hs
        exact ⟨.outside, hdrop page s hs, rfl, hheeds⟩
    refine hheld.bind ?_
    rintro x _ ⟨rfl, hheeds⟩
    exact ⟨trivial, fun taken htaken => ⟨next, Option.some.inj htaken ▸ hheeds⟩⟩

/-! ## Jobs -/

/-- **Closing a lease for somebody who has let go of it.** -/
lemma closer_keeps (opens : trouble.OpensNothing) :
    Company.Keeps (stageDiscipline trouble settings) TaskStage.Past
      ⟨((besetPool trouble settings).lease base number).shutdown .closed, false⟩
      (.holder base number page.stage) := by
  refine (holder_obeys (close_lodges opens) ?_).imp ?_
  · rintro _ _ _ ⟨⟩
  · rintro _ _ ⟨_, rfl, rfl⟩
    rfl

lemma elsewhere_register (self : TaskId) (s : World) :
    Elsewhere s (((besetPool trouble settings).lease base number).eitherEnd.register self s) := by
  let word : Link → Link := fun l => { l with signal := l.signal.join self }
  let note : LeaseState → LeaseState := fun state => { state with signal := state.signal.join self }
  have hlinks : ∀ m, ((link m).get s).Alike ((link m).get ((link base).modify word s)) := by
    intro m
    by_cases hm : m = base
    · subst hm
      rw [(link m).get_modify]
      refine ⟨rfl, ?_, rfl, id, rfl, rfl, id⟩
      simp only [Link.isTerminated, word, Signal.status_join]
    · exact .of_eq (Table.get_put_of_ne hm s.links _)
  have hleases : ∀ n, ((LeaseHost.leases n).get ((LeaseHost.leases number).modify note s)).plain
      = ((LeaseHost.leases n).get s).plain := by
    intro n
    by_cases hn : n = number
    · subst hn
      rw [(LeaseHost.leases n).get_modify]
      simp only [LeaseState.plain, note, Signal.join]
      split <;> rfl
    · exact congrArg LeaseState.plain (Table.get_put_of_ne hn s.leases _)
  exact ⟨hleases, rfl, rfl, Nat.le_refl _, .refl _, fun m _ => hlinks m, fun m _ => hlinks m,
    fun m => .inl (hlinks m)⟩

lemma shutdown_late (status : Status) :
    (((besetPool trouble settings).lease base number).shutdown status).Obeys
      (stageDiscipline trouble settings)
      gone (fun _ => TaskStage.Past) (.late number) := by
  intro s hs
  have hclosed : ((LeaseHost.leases number).get s).closed = true := hs
  refine ⟨.late number, .aside ⟨fun n => ?_, rfl, rfl, Nat.le_refl _, .refl _, fun _ _ => .refl _,
    fun _ _ => .refl _, fun _ => .inl (.refl _)⟩, ?_⟩
  · by_cases hn : n = number
    · subst hn
      have hsame : ({ (LeaseHost.leases n).get s with closed := true } : LeaseState)
          = (LeaseHost.leases n).get s := by rw [← hclosed]
      exact congrArg LeaseState.plain ((Cell.get_modify _ _ s).trans hsame)
    · exact congrArg LeaseState.plain (Table.get_put_of_ne hn s.leases _)
  · have hcell : (((besetPool trouble settings).lease base number).cell.get s).closed
      = true := hclosed
    simp only [hcell]
    trivial

/-- **Looking after a lease.** -/
lemma keeper_keeps (ownFirst : Bool) :
    Company.Keeps (stageDiscipline trouble settings) TaskStage.Past
      ⟨((besetPool trouble settings).lease base number).watch ownFirst, false⟩
        (.keeper base number) := by
  refine ⟨trivial, nofun, fun self s _ => .aside (elsewhere_register self s),
    fun s _ _ => ⟨_, .aside (.refl s), fun s hs => ?_⟩⟩
  cases hend : ((besetPool trouble settings).lease base number).base.watch.ending? s with
  | none => exact ⟨.keeper base number, .aside (.refl s), by simp only [hend]; trivial⟩
  | some status =>
    by_cases hown :
        (ownFirst && (((besetPool trouble settings).lease base number).watching.ending? s).isSome)
          = true
    · exact ⟨.keeper base number, .aside (.refl s), by simp only [hend, hown, if_true]; trivial⟩
    simp only [hend, hown]
    have hclosed : ((LeaseHost.leases number).get s).closed = true := by
      refine hs.resolve_left fun ⟨hplace, hlives⟩ => ?_
      have hopen : ((link base).get s).signal.status.isTerminal = false := hlives
      have hnone : ((besetPool trouble settings).lease base number).base.watch.ending? s
        = none := by
        show (connection base : Connection World).watch.ending? s = none
        simp [Watch.ending?, connection, hplace, hopen]
      rw [hnone] at hend
      cases hend
    exact ⟨.late number, .notice hclosed, shutdown_late status⟩

/-- **Opening another connection.** -/
lemma replenish_keeps :
    Company.Keeps (stageDiscipline trouble settings) TaskStage.Past ⟨replenish, false⟩
      .outside := by
  intro s _
  let counted : World := EngineHost.books.modify
    (fun b =>
      { b with idle := b.idle ++ [s.linkCount], count := b.count + 1, opening := b.opening - 1 })
    (newLink .idle s).2
  have hnotify : Elsewhere counted (notifyOne counted) := (Untouched.notifyOne counted).elsewhere
  obtain ⟨hspares, hidle, hlinks, -⟩ := notifyOne_spares s.linkCount 0 counted
  have hnew : (link s.linkCount).get counted = { place := .idle } :=
    Table.get_put s.links s.linkCount { place := .idle }
  refine ⟨.outside, .replenish ⟨fun m hm => ?_, hnotify.leases, hnotify.leaseCount, hnotify.jobs⟩
    hspares.linkCount hidle ((hlinks _).trans hnew), trivial⟩
  exact .of_eq ((hlinks m).trans (Table.get_put_of_ne hm s.links _))

end Engine

end Transactional
