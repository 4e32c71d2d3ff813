import Transactional.Proofs.Lease.Release
import Transactional.Proofs.Usage.Stay

/-!
# What a connection has seen of a lease in the end

At each moment one task has the lease in hand, or a job is due that closes it, or it has been given
back.  So its end is always the same, whoever comes to it.

* `Hands`, `Fair` — who has the lease in hand, and what is true at each moment.
* `Stay.kept` — it is true, because each change upholds it.
* **`left_as_found`** — what the connection beneath has seen in the end.
-/

namespace Transactional

namespace Station

def closing? : Station → Option (Mirror × (LeaseState × Possession))
  | .closer m x => some (m, x)
  | _ => none

def IsJob : Station → Prop
  | .user _ | .parted _ => False
  | .closer _ _ | .keeper | .late => True

end Station

/-- **Who has a lease in hand**: whoever uses it, a job that is due, the one that closes it, or
nobody any longer. -/
inductive Hands (base : Nat) : LeaseState × Possession → Station → List Station → Nat → Prop where
  | user {x : LeaseState × Possession} {ps : List Station}
      (h : ps.filterMap Station.closing? = []) :
      Hands base x (.user x) ps 0
  | due {m : Mirror} {ps : List Station} (h : ps.filterMap Station.closing? = []) :
      Hands base m.stage (.parted m) ps 1
  | closer {m : Mirror} {x : LeaseState × Possession} {ps : List Station}
      (h : ps.filterMap Station.closing? = [(m, x)]) : Hands base x (.parted m) ps 0
  | ended {m : Mirror} {ps : List Station} (h : ps.filterMap Station.closing? = []) :
      Hands base (m.final base) (.parted m) ps 0

/-- **What is true at each moment** of a lease, with all that is known of it and of its connection.
-/
structure FairOf (permit : Bool) (base number given : Nat) (p : Station) (ps : List Station)
    (s : World)
    (x : LeaseState × Possession) : Prop where
  hands : Hands base x p ps (s.closings base number)
  jobs : ∀ q ∈ ps, q.IsJob
  knows : (lending permit base number).knows x s
  given : given = x.2.count
  closed : x.2.count = 1 → x.1.closed = true ∧ x.2.connState.statements = []
  late : .late ∈ ps → x.1.closed = true

/-- **What is true at each moment.** -/
def Fair (permit : Bool) (base number given : Nat) (p : Station) (ps : List Station)
    (s : World) : Prop :=
  ∃ x, FairOf permit base number given p ps s x

variable {permit : Bool} {base number given : Nat} {m : Mirror} {x y : LeaseState × Possession}
  {p q p' q' : Station} {ps before after : List Station} {s s' : World} {α : Type}

lemma Possession.Knows.ended {k : Possession} (hs : k.Knows permit base s)
    (hended : ((Memory.connection base).watch.ending? s).isSome = true) : k.count = 1 := by
  cases k with
  | returned connState => rfl
  | kept connState =>
    have hstatus : ((Memory.link base).get s).signal.status = .open :=
      congrArg (fun l : Memory.Link => l.signal.status) hs.link
    have halive : ((Memory.link base).get s).alive = true := congrArg Memory.Link.alive hs.link
    simp [Watch.ending?, Memory.connection, hstatus, halive, Status.isTerminal] at hended

lemma World.closings_spawn (job : Job) (s : World) :
    (Host.spawn job s).closings base number
      = s.closings base number + if job = .close base number then 1 else 0 := by
  have hstarts : (Host.spawn job s).schedule.starts = s.schedule.starts
    ++ [(s.schedule.nextTask, job)] :=
    Schedule.starts_spawn _ s.schedule
  rw [closings, hstarts, List.countP_append, List.countP_singleton, closings]
  simp only [decide_eq_true_eq]

lemma World.closings_takeOff {n : TaskId} {job : Job} (h : Company.Due n job s) :
    s.closings base number
      = (Company.takeOff (.start n job) s).closings base number
        + if job = .close base number then 1 else 0 := by
  have hready : s.schedule.ready.Perm
      (.start n job :: (Company.takeOff (.start n job) s).schedule.ready) := List.perm_cons_erase h
  have hstarts : s.schedule.starts.Perm
      ((n, job) :: (Company.takeOff (.start n job) s).schedule.starts) := hready.filterMap _
  rw [closings, hstarts.countP_eq, List.countP_cons, closings]
  simp only [decide_eq_true_eq]

namespace Hands

variable {n : Nat}

lemma of_user (h : Hands base x (.user y) ps n) :
    x = y ∧ n = 0 ∧ ps.filterMap Station.closing? = [] := by
  cases h with
  | user h => exact ⟨rfl, rfl, h⟩

lemma of_closer (h : Hands base x p (before ++ .closer m y :: after) n) :
    x = y ∧ n = 0 ∧ p = .parted m
      ∧ before.filterMap Station.closing? = [] ∧ after.filterMap Station.closing? = [] := by
  have hsplit : (before ++ Station.closer m y :: after).filterMap Station.closing?
      = before.filterMap Station.closing? ++ (m, y) :: after.filterMap Station.closing? := by
    rw [List.filterMap_append, List.filterMap_cons]
    rfl
  cases h with
  | user h | due h | ended h => simp [hsplit] at h
  | closer h =>
    rw [hsplit, List.append_eq_singleton_iff] at h
    rcases h with ⟨hbefore, h⟩ | ⟨-, h⟩
    · obtain ⟨h, hafter⟩ := List.cons.inj h
      obtain ⟨rfl, rfl⟩ := Prod.mk.inj h
      exact ⟨rfl, rfl, rfl, hbefore, hafter⟩
    · cases h

lemma congr (h : Hands base x p ps n) {ps' : List Station}
    (hsame : ps'.filterMap Station.closing? = ps.filterMap Station.closing?) :
    Hands base x p ps' n := by
  cases h with
  | user h => exact .user (hsame.trans h)
  | due h => exact .due (hsame.trans h)
  | closer h => exact .closer (hsame.trans h)
  | ended h => exact .ended (hsame.trans h)

lemma of_pos (h : Hands base x p ps n) (hpos : 0 < n) :
    n = 1 ∧ ps.filterMap Station.closing? = [] ∧ ∃ m : Mirror, x = m.stage ∧ p = .parted m := by
  cases h with
  | due h => exact ⟨rfl, h, _, rfl, rfl⟩
  | user | closer | ended => exact absurd hpos (Nat.lt_irrefl 0)

end Hands

namespace FairOf

lemma knows_job (hf : FairOf permit base number given p ps s x) (hq : q ∈ ps) :
    (stations permit base number).knows q s := by
  cases q with
  | user | parted => exact (hf.jobs _ hq).elim
  | keeper =>
    intro hended
    exact (congrArg LeaseState.closed hf.knows.1).trans (hf.closed (hf.knows.2.ended hended)).1
  | late => exact (congrArg LeaseState.closed hf.knows.1).trans (hf.late hq)
  | closer m y =>
    obtain ⟨before, after, rfl⟩ := List.append_of_mem hq
    obtain ⟨rfl, -⟩ := hf.hands.of_closer
    exact hf.knows

lemma knows_front (hf : FairOf permit base number given p ps s x) :
    (stations permit base number).knows p s := by
  cases p with
  | user y =>
    obtain ⟨rfl, -⟩ := hf.hands.of_user
    exact hf.knows
  | parted m => trivial
  | closer | keeper | late => exact nomatch hf.hands

lemma around (hf : FairOf permit base number given p ps s x) (h : World.Around base number s s') :
    FairOf permit base number given p ps s' x :=
  ⟨h.closings ▸ hf.hands, hf.jobs, h.knows hf.knows, hf.given, hf.closed, hf.late⟩

/-- **Whoever has the lease in hand moves.** -/
lemma move {ps' : List Station} (hf : FairOf permit base number given p ps s x)
    (hmay : (lending permit base number).may x s y s')
    (hhands : Hands base y p' ps' (s.closings base number)) (hjobs : ∀ q ∈ ps', q.IsJob)
    (hlate : .late ∈ ps' → .late ∈ ps) :
    FairOf permit base number (given + (s'.accounts.released - s.accounts.released)) p' ps'
      s' y := by
  obtain ⟨hlease, hclosed, hknows, hdue, hback⟩ := hmay
  refine ⟨hdue ▸ hhands, hjobs, ⟨hlease, hknows⟩, ?_, fun hcount => ?_,
    fun h => hclosed (hf.late (hlate h))⟩
  · rcases hback with ⟨hcount, hreleased, -⟩ | ⟨hcount, hreleased, -⟩ <;>
      rw [hf.given, hcount, hreleased] <;> omega
  · rcases hback with ⟨hsame, -, hstays⟩ | ⟨-, -, hshut, hempty⟩
    · obtain ⟨hshut, hempty⟩ := hf.closed (hsame ▸ hcount)
      exact ⟨hclosed hshut, hstays hcount ▸ hempty⟩
    · exact ⟨(congrArg LeaseState.closed hlease).symm.trans hshut, hempty⟩

/-- **Whoever has let go of the lease** has left it to a job. -/
lemma part (hf : FairOf permit base number given (.user m.stage) ps s x) :
    FairOf permit base number given (.parted m) ps (Host.spawn (.close base number) s) x := by
  obtain ⟨rfl, hnone, hps⟩ := hf.hands.of_user
  refine ⟨?_, hf.jobs, ⟨hf.knows.1, hf.knows.2.link, hf.knows.2.calls⟩, hf.given,
    hf.closed, hf.late⟩
  rw [World.closings_spawn, hnone, if_pos rfl]
  exact .due hps

/-- **A job begins.** -/
lemma start (hf : FairOf permit base number given p ps s x) {n : TaskId} {job : Job}
    {task : Task World Unit} (hdue : Company.Due n job s)
    (hjob : Memory.pool.Jobs base number job task) :
    ∃ q, Company.Keeps (stations permit base number) (Station.Past base) ⟨task, false⟩ q
      ∧ FairOf permit base number given p (ps ++ [q]) (Company.takeOff (.start n job) s) x := by
  have hclosings : s.closings base number = _ := World.closings_takeOff hdue
  have hknows : (lending permit base number).knows x (Company.takeOff (.start n job) s) :=
    ⟨hf.knows.1, hf.knows.2.link, hf.knows.2.calls⟩
  have hjobs : ∀ {q : Station}, q.IsJob → ∀ r ∈ ps ++ [q], r.IsJob := by
    intro q hq r hr
    rcases List.mem_append.mp hr with hr | hr
    · exact hf.jobs r hr
    · exact List.mem_singleton.mp hr ▸ hq
  rcases hjob with ⟨rfl, rfl⟩ | ⟨rfl, ownFirst, rfl⟩
  · rw [if_pos rfl] at hclosings
    obtain ⟨hone, hps, m, rfl, rfl⟩ := hf.hands.of_pos (hclosings ▸ Nat.succ_pos _)
    have hnone : (Company.takeOff (.start n (.close base number)) s).closings base number = 0 :=
      Nat.succ.inj (hclosings.symm.trans hone)
    refine ⟨.closer m m.stage, closer_keeps, hnone ▸ .closer ?_, hjobs trivial, hknows, hf.given,
      hf.closed, fun h => hf.late (by simpa using h)⟩
    rw [List.filterMap_append, hps]
    rfl
  · refine ⟨.keeper, keeper_keeps ownFirst, ?_, hjobs trivial, hknows, hf.given, hf.closed,
      fun h => hf.late (by simpa using h)⟩
    rw [if_neg (by simp)] at hclosings
    have hhands := hclosings ▸ hf.hands
    exact hhands.congr (by rw [List.filterMap_append]; exact List.append_nil _)

end FairOf

namespace Fair

/-- **Every change upholds it.** -/
lemma upheld {β : Type} {ends : β → Station → Prop} (s s' : World) :
    Company.Upheld (stations permit base number) ends (Station.Past base)
      (Memory.pool.Jobs base number)
      (Fair permit base number given)
      (Fair permit base number (given + (s'.accounts.released - s.accounts.released))) s s' where
  knows := fun ⟨_, hf⟩ => hf.knows_front
  knows_beside := fun ⟨_, hf⟩ hq => hf.knows_job hq
  front := by
    rintro p q ps ⟨x, hf⟩ hmay
    cases hmay with
    | use h =>
      obtain ⟨rfl, hnone, hps⟩ := hf.hands.of_user
      exact ⟨_, hf.move h (hnone ▸ .user hps) hf.jobs id⟩
    | part =>
      refine ⟨x, ?_⟩
      rw [show (Host.spawn (.close base number) s).accounts = s.accounts from rfl, Nat.sub_self]
      exact hf.part
    | close | notice => exact nomatch hf.hands
    | glance hp => rcases hp with rfl | rfl <;> exact nomatch hf.hands
  beside := by
    rintro p q q' before after - ⟨x, hf⟩ hmay
    have hothers : ∀ {r : Station}, r.IsJob → ∀ q ∈ before ++ r :: after, q.IsJob := by
      intro r hr q hq
      rcases List.mem_append.mp hq with hq | hq
      · exact hf.jobs q (by simp [hq])
      · rcases List.mem_cons.mp hq with rfl | hq
        · exact hr
        · exact hf.jobs q (by simp [hq])
    cases hmay with
    | use | part => exact (hf.jobs _ (List.mem_append_right _ List.mem_cons_self) : False).elim
    | close h =>
      obtain ⟨rfl, hnone, rfl, hbefore, hafter⟩ := hf.hands.of_closer
      refine ⟨_, hf.move h (hnone ▸ .closer ?_) (hothers trivial) (by simp)⟩
      rw [List.filterMap_append, List.filterMap_cons, hbefore, hafter]
      rfl
    | glance _ h hreleased =>
      rw [hreleased, Nat.sub_self]
      exact ⟨x, hf.around h⟩
    | notice h =>
      rw [Nat.sub_self]
      refine ⟨x, hf.hands.congr ?_, hothers trivial, hf.knows, hf.given, hf.closed, fun _ => ?_⟩
      · rw [List.filterMap_append, List.filterMap_append]
        rfl
      · exact (congrArg LeaseState.closed hf.knows.1).symm.trans h
  gone := by
    rintro p q before after hpast ⟨x, hf⟩
    have hjobs : ∀ r ∈ before ++ after, r.IsJob := fun r hr =>
      hf.jobs r ((List.mem_append.mp hr).elim (by simp +contextual) (by simp +contextual))
    have hlate : .late ∈ before ++ after → x.1.closed = true := fun h =>
      hf.late ((List.mem_append.mp h).elim (by simp +contextual) (by simp +contextual))
    refine ⟨x, ?_, hjobs, hf.knows, hf.given, hf.closed, hlate⟩
    cases q with
    | user | parted => exact hpast.elim
    | keeper | late =>
      refine hf.hands.congr ?_
      rw [List.filterMap_append, List.filterMap_append]
      rfl
    | closer m y =>
      obtain ⟨rfl, hnone, rfl, hbefore, hafter⟩ := hf.hands.of_closer
      obtain rfl : x = _ := hpast
      rw [hnone]
      refine .ended ?_
      rw [List.filterMap_append, hbefore, hafter]
      rfl
  start := by
    rintro p ps n job task ⟨x, hf⟩ hdue hjob rfl
    obtain ⟨q, hkeeps, hf⟩ := hf.start hdue hjob
    refine ⟨q, hkeeps, x, ?_⟩
    rw [show (Company.takeOff (.start n job) s).accounts = s.accounts from rfl, Nat.sub_self]
    exact hf

end Fair

/-! ## The whole time of a lease -/

/-- **A connection that can be lent**: it has not ended, nobody has let go of it, and no statement
is prepared on it; and no job is due that closes the lease to come. -/
structure World.Lendable (base : Nat) (s : World) : Prop where
  link : ∃ next permit,
    ((Memory.link base).get s).plain = { nextStatement := next, hasPermit := permit }
  closings : s.closings base s.leaseCount = 0

/-- **What a connection has seen of a lease in the end**: the calls of its usage, the end of a
transaction that was not finished, and the end of each statement that was left, in order, the
statements of one number at once; then it has been given back, once, with no statement on it, and
the lease is closed. -/
structure LeftAsFound (base number : Nat) (s₀ s : World) (taken : List Answered) (given : Nat) :
    Prop where
  calls : s.callsOn base = s₀.callsOn base ++ Answered.made base [] taken
    ++ (if Answered.Unfinished taken then [.rollback base] else [])
    ++ (StatementHandle.firsts [] (Answered.leftOver taken)).map fun handle =>
      .destroy base handle.sql
  /-- Unless there have been more statements than numbers, each of those that are left has its own.
  -/
  each : taken.countP (·.prepares) ≤ 2 ^ 64 →
    StatementHandle.firsts [] (Answered.leftOver taken) = Answered.leftOver taken
  statements : ((Memory.link base).get s).statements = []
  given : given = 1
  status : ((LeaseHost.leases number).get s).signal.status = .closed

variable {s₀ : World} {next : UInt64} {usage : Usage α} {parting : Parting}
  {c : Company World (α × List Answered)}

/-- The books of a lease that has just been started. -/
def World.opening (base : Nat) (next : UInt64) (s₀ : World) : Mirror where
  next := next
  calls := s₀.callsOn base

lemma fair_begin
    (hlink : ((Memory.link base).get s₀).plain = { nextStatement := next, hasPermit := permit })
    (hclosings : s₀.closings base s₀.leaseCount = 0) :
    Fair permit base s₀.leaseCount 0 (.user (s₀.opening base next).stage) []
      (Pool.startWatchedLease base s₀).2 := by
  have hnone : (Pool.startWatchedLease base s₀).2.closings base s₀.leaseCount = 0 := by
    refine (World.closings_spawn _ _).trans ?_
    rw [if_neg (by simp)]
    exact hclosings
  have hlease : (LeaseHost.leases s₀.leaseCount).get (Pool.startWatchedLease base s₀).2 = {} :=
    Pool.get_begin (Memory.apart base s₀.leaseCount) fun _ _ => rfl
  refine ⟨(s₀.opening base next).stage, ?_, by simp, ⟨?_, hlink, rfl⟩, rfl, nofun, by simp⟩
  · rw [hnone]
    exact .user rfl
  · exact congrArg LeaseState.plain hlease

/-- **Everybody keeps to the discipline, at each moment.** -/
theorem Stay.kept
    (hlink : ((Memory.link base).get s₀).plain = { nextStatement := next, hasPermit := permit })
    (hclosings : s₀.closings base s₀.leaseCount = 0)
    (story : Stay base s₀.leaseCount
      (usage.until parting (Memory.pool.lease base s₀.leaseCount : Lease World).connection)
      (Pool.startWatchedLease base s₀).2 given c) :
    c.Kept (stations permit base s₀.leaseCount)
      (fun x p => (s₀.opening base next).Follows base x.2 ∧ match parting with
        | .close => p = .user (((s₀.opening base next).play base x.2).final base)
        | .drop => p = .parted ((s₀.opening base next).play base x.2))
      (Station.Past base) (Fair permit base s₀.leaseCount given) := by
  induction story with
  | start =>
    exact ⟨_, [], until_obeys parting usage, rfl, by simp, fair_begin hlink hclosings⟩
  | step _ hstep ih => exact ih.step hstep (Fair.upheld _ _)
  | around _ hout ih => exact ih.around fun _ _ ⟨x, hf⟩ => ⟨x, hf.around hout⟩

/-- When nobody has anything left to do, whoever has let go of a lease has had it closed. -/
lemma FairOf.settled {number : Nat} {β : Type} {c : Company World β}
    (hf : FairOf permit base number given (.parted m) ps c.state x)
    {staged : List (Strand World × Station)} (hbeside : c.beside = staged.map Prod.fst)
    (hkeeps : ∀ y ∈ staged, Company.Keeps (stations permit base number) (Station.Past base) y.1 y.2)
    (hps : ps = staged.map Prod.snd)
    (hsettled : Memory.pool.Settled base number ⟨c.state, .done (), c.beside⟩) :
    x = m.final base := by
  have hclosings : c.state.closings base number = 0 := by
    refine List.countP_eq_zero.mpr fun entry hentry hjob => ?_
    rw [decide_eq_true_eq] at hjob
    exact hsettled.jobs entry.1 _ _ (.inl ⟨rfl, rfl⟩) (Company.due_iff.mpr (hjob ▸ hentry))
  have hhands := hf.hands
  rw [hclosings] at hhands
  cases hhands with
  | ended => rfl
  | closer h =>
    have hmem : (m, x) ∈ ps.filterMap Station.closing? := by simp [h]
    obtain ⟨q, hq, hclosing⟩ := List.mem_filterMap.mp hmem
    obtain ⟨y, hy, rfl⟩ := List.mem_map.mp (hps ▸ hq)
    have hkeep := hkeeps y hy
    have hstrand : y.1 ∈ c.beside := hbeside ▸ List.mem_map_of_mem hy
    obtain ⟨⟨task, optional⟩, q⟩ := y
    cases q with
    | closer m' x' =>
      obtain ⟨rfl, rfl⟩ := Prod.mk.inj (Option.some.inj hclosing)
      rcases hsettled.rest _ hstrand with hdone | ⟨on, next, hwait, hready, -⟩
      · obtain rfl : task = .done () := hdone
        exact hkeep
      · obtain rfl : task = .wait on next := hwait
        have hpause : on.ready = (Task.pause : Wait World).ready := hkeep.1
        rw [hpause, Pool.pause_ready] at hready
        cases hready
    | _ => cases hclosing

/-- **A lease leaves its connection as it found it.**  Whatever is done with a lease of a connection
that does not end, also with the operations of a program, which are put together from the same
calls, and whichever failures are injected meanwhile: the connection is given back once at most, and
with no statement on it.  When the lease has been closed, or when nobody holds it any longer and
nothing is left to do, the connection beneath has seen the end of a transaction exactly if some
begin has succeeded with no successful commit or rollback after it, then the end of each statement
that had been prepared and not been destroyed, in order, and it has been given back. -/
theorem left_as_found {base : Nat} {s₀ : World} (fresh : s₀.Lendable base) {usage : Usage α}
    {parting : Parting} {given : Nat} {c : Company World (α × List Answered)}
    (story : Stay base s₀.leaseCount
      (usage.until parting (Memory.pool.lease base s₀.leaseCount : Lease World).connection)
      (Pool.startWatchedLease base s₀).2 given c) :
    (∀ operation, IsUsage fun _ conn => (conn.perform operation).run)
    ∧ given ≤ 1 ∧ (given = 1 → ((Memory.link base).get c.state).statements = [])
    ∧ ∀ a taken, c.front = .done (a, taken) →
        (parting = .drop →
          Memory.pool.Settled base s₀.leaseCount ⟨c.state, .done (), c.beside⟩) →
        LeftAsFound base s₀.leaseCount s₀ c.state taken given := by
  obtain ⟨⟨next, permit, hlink⟩, hclosings⟩ := fresh
  obtain ⟨p, staged, hfront, hbeside, hkeeps, x, hf⟩ := story.kept hlink hclosings
  have hstatements : ((Memory.link base).get c.state).statements = x.2.connState.statements := by
    refine (congrArg Memory.Link.statements hf.knows.2.link :).trans ?_
    cases x.2 <;> rfl
  refine ⟨Usage.of_perform, ?_, fun hgiven => ?_, fun a taken hdone hsettled => ?_⟩
  · rw [hf.given]
    cases x.2 <;> simp [Possession.count]
  · rw [hstatements]
    exact (hf.closed (hf.given ▸ hgiven)).2
  rw [hdone] at hfront
  let m : Mirror := (s₀.opening base next).play base taken
  have hfinal : x = m.final base := by
    cases parting with
    | close =>
      obtain ⟨-, rfl⟩ := hfront
      exact hf.hands.of_user.1
    | drop =>
      obtain ⟨-, rfl⟩ := hfront
      exact hf.settled hbeside hkeeps rfl (hsettled rfl)
  have hhandles : m.handles = Answered.leftOver taken :=
    Mirror.handles_play.trans (Answered.handles_foldl taken [])
  have htransaction : m.transaction = true ↔ Answered.Unfinished taken := by
    rw [Mirror.transaction_play, Answered.transaction_foldl]
    exact or_iff_left fun h => Bool.false_ne_true h.1
  subst hfinal
  refine ⟨?_, fun hcount => ?_, hstatements, hf.given, ?_⟩
  · refine hf.knows.2.calls.trans ?_
    show m.calls ++ m.farewell base = _
    rw [Mirror.calls_play, Mirror.farewell, Mirror.undo, hhandles, ← List.append_assoc]
    simp only [htransaction]
    rfl
  · refine StatementHandle.firsts_of_nodup ?_ (by simp)
    rw [← hhandles]
    exact Mirror.nodup_play rfl rfl hfront.1 hcount
  · exact congrArg (fun state => state.signal.status) hf.knows.1

/-- A transaction begun and a statement prepared, and no more. -/
def Usage.abandoned : Usage Unit :=
  .use .begin fun _ => .use (.prepare "select 1" .select) fun _ => .done ()

def Usage.heard : List Answered :=
  [⟨.begin, .ok ()⟩, ⟨.prepare "select 1" .select, .ok ⟨1, "select 1", .select⟩⟩]

/-- Both are left to a lease that is closed, and to one that nobody holds any longer, while rolling
back fails. -/
theorem left_as_found_abandoned : World.lent.Lendable 1 ∧ ∀ parting : Parting,
    ∃ (given : Nat) (c : Company World (Unit × List Answered)),
      Stay 1 World.lent.leaseCount (Usage.abandoned.until parting
        (Memory.pool.lease 1 World.lent.leaseCount : Lease World).connection)
        (Pool.startWatchedLease 1 World.lent).2 given c
      ∧ c.front = .done ((), Usage.heard)
      ∧ LeftAsFound 1 World.lent.leaseCount World.lent c.state Usage.heard given := by
  have fresh : World.lent.Lendable 1 := ⟨⟨1, true, rfl⟩, rfl⟩
  refine ⟨fresh, fun parting => ?_⟩
  have begun : Stay 1 World.lent.leaseCount (Usage.abandoned.until parting
      (Memory.pool.lease 1 World.lent.leaseCount : Lease World).connection)
      (Pool.startWatchedLease 1 World.lent).2 0 _ := .start
  have troubled := begun.around (.script (f := Memory.Backend.inject fun failures =>
    { failures with rollback := some "no" }) (fun _ => rfl) _)
  obtain ⟨_, used⟩ := troubled.turn 0
  cases parting with
  | close =>
    exact ⟨_, _, used, rfl, (left_as_found fresh used).2.2.2 () Usage.heard rfl nofun⟩
  | drop =>
    have watched := used.step (.start trivial (show Company.Due 1 (.watch 1 0) _ from .head _)
      (.inr ⟨rfl, false, rfl⟩))
    have started := watched.step (.start trivial (show Company.Due 2 (.close 1 0) _ from .head _)
      (.inl ⟨rfl, rfl⟩))
    obtain ⟨_, closed⟩ := started.turn_beside 2 [_] [] (by exact trivial)
    obtain ⟨given, story⟩ := closed.turn_beside 1 [] [_] (by exact trivial)
    refine ⟨given, _, story, rfl, (left_as_found fresh story).2.2.2 () Usage.heard rfl fun _ => ?_⟩
    refine ⟨fun strand hstrand => .inl ?_, fun n job task _ hdue => ?_⟩
    · simp only [List.nil_append, List.mem_cons, List.not_mem_nil, or_false] at hstrand
      rcases hstrand with rfl | rfl <;> rfl
    · exact List.not_mem_nil hdue

end Transactional
