import Transactional.Proofs.Lease.Attendance

/-!
# Nobody uses the connection beneath a lease that has ended

However those who hold a lease use, close and drop it, and whenever the connection beneath ends:
when the pool has got the connection back nobody visits it any more, and all visits that had begun
are over.  A call that comes when the lease is closed, or that was still waiting to come in, never
comes in, and an operation is refused.

* `Asked`, `Pool.Next`, `Pool.Goes` — everything that can happen to a lease, and to one call on it.
* `Pool.Hosted` — what is true at each moment.
* **`closed_lease_refuses`** — the result.
-/

namespace Transactional

/-- **How far the call of interest has come.** -/
inductive Asked where
  | notYet
  | going
  | givenUp
deriving DecidableEq

namespace Pool

variable [LeaseHost σ]

/-! ## Everything that can happen -/

/-- **What can happen next to a lease, and to one call on it**: others use, close and drop the
lease, at any time and at the same time; somebody makes the call, it takes a step, or is given up
where it waits; all others take their steps, one change at a time and in any order; and whatever
happens elsewhere. -/
inductive Next (pool : Pool σ) (base number : Nat) (diary : Cell σ (List Visit))
    (asked : LeaseCall) :
    Asked × Company σ (Option Fault) → Asked × Company σ (Option Fault) → Prop where
  | call {stage : Asked} {c : Company σ (Option Fault)} (call : LeaseCall) :
      Next pool base number diary asked (stage, c)
        (stage, { c with
          beside := c.beside ++
            [⟨call.task ((pool.noted diary false).lease base number).connection, !call.ends⟩] })
  | ask {c : Company σ (Option Fault)} :
      Next pool base number diary asked (.notYet, c)
        (.going,
          { c with front := asked.answer ((pool.noted diary true).lease base number).connection })
  | move {stage : Asked} {s s' : σ} {front front' : Task σ (Option Fault)}
      {beside : List (Strand σ)}
      (h : front.Moves s front' s') :
      Next pool base number diary asked (stage, ⟨s, front, beside⟩) (stage, ⟨s', front', beside⟩)
  | giveUp {s : σ} {on : Wait σ} {next : Task σ (Option Fault)} {beside : List (Strand σ)} :
      Next pool base number diary asked (.going, ⟨s, .wait on next, beside⟩)
        (.givenUp, ⟨on.abandon s, .done none, beside⟩)
  | others {stage : Asked} {s s' : σ} {front : Task σ (Option Fault)}
      {beside beside' : List (Strand σ)}
      (h : Company.Step ((pool.noted diary false).Jobs base number) ⟨s, Task.done (), beside⟩
        ⟨s', Task.done (), beside'⟩) :
      Next pool base number diary asked (stage, ⟨s, front, beside⟩) (stage, ⟨s', front, beside'⟩)
  | elsewhere {stage : Asked} {c : Company σ (Option Fault)} {s' : σ}
      (h : pool.Elsewhere base number diary.get c.state s') :
      Next pool base number diary asked (stage, c) (stage, { c with state := s' })

/-- Whatever happens from one moment to a later one. -/
abbrev Goes (pool : Pool σ) (base number : Nat) (diary : Cell σ (List Visit)) (asked : LeaseCall) :
    Asked × Company σ (Option Fault) → Asked × Company σ (Option Fault) → Prop :=
  Relation.ReflTransGen (pool.Next base number diary asked)

def begun (base : Nat) (s₀ : σ) : Asked × Company σ (Option Fault) :=
  (.notYet, ⟨(startWatchedLease base s₀).2, .done none, []⟩)

/-- Everybody who is on a lease, the call of interest included. -/
def everybody (c : Company σ (Option Fault)) : Company σ Unit :=
  ⟨c.state, .done (), c.beside ++ [⟨c.front.bind fun _ => .done (), false⟩]⟩

namespace Goes

variable {pool : Pool σ} {base number : Nat} {diary : Cell σ (List Visit)} {asked : LeaseCall}
  {m : Asked × Company σ (Option Fault)} {stage : Asked} {s : σ} {front : Task σ (Option Fault)}

lemma turn (self : TaskId) {beside : List (Strand σ)}
    (h : pool.Goes base number diary asked m (stage, ⟨s, front, beside⟩)) :
    pool.Goes base number diary asked m
      (stage, ⟨(front.poll self s).2, (front.poll self s).1, beside⟩) := by
  induction front generalizing s with
  | done a => exact h
  | act update next ih => exact ih s (h.tail (.move (.act update next s)))
  | wait on next ih =>
    rw [Task.poll]
    split
    next hready => exact ih (h.tail (.move (.pass on next s hready)))
    next => exact h.tail (.move (.register on next self s))

lemma move_beside {before after : List (Strand σ)} {task task' : Task σ Unit}
    {optional : Bool} {s' : σ}
    (h : pool.Goes base number diary asked m
      (stage, ⟨s, front, before ++ ⟨task, optional⟩ :: after⟩))
    (hmove : task.Moves s task' s') :
    pool.Goes base number diary asked m
      (stage, ⟨s', front, before ++ ⟨task', optional⟩ :: after⟩) :=
  h.tail (.others (.beside trivial hmove))

lemma turn_beside (self : TaskId) (before after : List (Strand σ)) {task : Task σ Unit}
    {optional : Bool}
    (h : pool.Goes base number diary asked m
      (stage, ⟨s, front, before ++ ⟨task, optional⟩ :: after⟩)) :
    pool.Goes base number diary asked m (stage,
      ⟨(task.poll self s).2, front, before ++ ⟨(task.poll self s).1, optional⟩ :: after⟩) := by
  induction task generalizing s with
  | done a => exact h
  | act update next ih => exact ih s (h.move_beside (.act update next s))
  | wait on next ih =>
    rw [Task.poll]
    split
    next hready => exact ih (h.move_beside (.pass on next s hready))
    next => exact h.move_beside (.register on next self s)

end Goes

/-! ## What is true at each moment -/

variable {pool : Pool σ} {base number : Nat} {diary : Cell σ (List Visit)} {asked : LeaseCall}
  {barred : Prop} {m m' : Asked × Company σ (Option Fault)}

/-- **Where the call of interest ends**, or where nobody is while it has not been made. -/
def Reached (asked : LeaseCall) : Asked → Option Fault → Stage × Bool × Post → Prop
  | .notYet, _, x => x = ({}, true, .outside)
  | .going, a, x => Unaware.Answered asked a x
  | .givenUp, _, x => Away x

/-- **What is true at each moment**: everybody keeps to the discipline of visitors. -/
def Hosted (pool : Pool σ) (base number : Nat) (diary : Cell σ (List Visit)) (asked : LeaseCall)
    (barred : Prop) (m : Asked × Company σ (Option Fault)) : Prop :=
  ∃ x, m.2.front.Obeys (pool.visitors base number diary) (Unaware.Parts pool base number diary)
      (Reached asked m.1) x
    ∧ (m.1 ≠ .going → m.2.front = .done none)
    ∧ (⟨m.2.state, .done (), m.2.beside⟩ : Company σ Unit).Kept (pool.visitors base number diary)
      (fun _ p => p = x) Away (pool.Attended base number diary barred)

namespace Hosted

/-- **Whatever happens, it stays true.** -/
lemma next (K : pool.Unaware base number diary) (hends : asked.ends = false)
    (hm : pool.Hosted base number diary asked barred m)
    (h : pool.Next base number diary asked m m') :
    pool.Hosted base number diary asked barred m' := by
  obtain ⟨x, hfront, hidle, hkept⟩ := hm
  cases h with
  | @call stage c call =>
    refine ⟨x, hfront, hidle, hkept.join (K.call_keeps call) fun p ps ha => ha.join ⟨rfl, by simp⟩
      ?_ rfl rfl⟩
    refine ha.orderly.sound.join rfl rfl ?_ rfl .inl .inl False.elim
    cases call.ends <;> simp
  | @ask c =>
    obtain rfl : x = ({}, true, .outside) := by
      have hdone : c.front = .done none := hidle (by simp)
      have hreached := hfront
      simp only [hdone] at hreached
      exact hreached
    refine ⟨_, ?_, fun h => absurd rfl h, hkept⟩
    have hanswer := K.answer_visits true asked
    rw [hends] at hanswer
    exact hanswer.mono (fun _ _ h => h rfl) fun _ _ => id
  | @move stage s s' front front' beside hmove =>
    have hgoing : stage = .going := by
      by_contra hne
      obtain rfl : front = .done none := hidle hne
      cases hmove
    obtain ⟨p, staged, rfl, hbeside, hkeeps, ha⟩ := hkept
    obtain ⟨y, hmay, hfront'⟩ := hfront.moves (ha.orderly.knows List.mem_cons_self) hmove
    exact ⟨y, hfront', fun h => absurd hgoing h, y, staged, rfl, hbeside, hkeeps, ha.moves hmay⟩
  | @giveUp s on next beside =>
    obtain ⟨p, staged, rfl, hbeside, hkeeps, ha⟩ := hkept
    obtain ⟨y, hmay, haway⟩ := hfront.2.1.2 s (ha.orderly.knows List.mem_cons_self)
    exact ⟨y, haway, fun _ => rfl, y, staged, rfl, hbeside, hkeeps, ha.moves hmay⟩
  | others h => exact ⟨x, hfront, hidle, hkept.step h (K.upheld _ _)⟩
  | @elsewhere stage c s' h =>
    exact ⟨x, hfront, hidle, hkept.around fun p ps ha => ha.elsewhere h⟩

lemma start {s₀ : σ} (K : pool.Unaware base (LeaseHost.leaseCount.get s₀) diary)
    (hclean : diary.get s₀ = []) :
    pool.Hosted base (LeaseHost.leaseCount.get s₀) diary asked False (begun base s₀) := by
  have hdiary : diary.get (startWatchedLease base s₀).2 = [] := by
    show diary.get (Host.schedule.set _ _) = _
    rw [K.diary_schedule]
    exact (K.diary_count _ _).trans ((K.diary_lease _ _).trans hclean)
  have hlease := get_begin K.apart K.count
  refine ⟨({}, true, .outside), rfl, fun _ => rfl, ({}, true, .outside), [], rfl, rfl, by simp, ?_⟩
  refine ⟨⟨fun y hy => ?_, sound_begin K.apart K.count (by simp), fun y hy hpost => ?_,
    fun m => ?_, ?_⟩,
    rfl, by simp, rfl, by simp, fun _ => by simp [begun, hdiary], False.elim⟩
  · rw [List.mem_singleton.mp hy]
    exact ⟨rfl, by simp⟩
  · rw [List.mem_singleton.mp hy] at hpost
    simp at hpost
  · simp [begun, hdiary]
  · exact .inl ⟨congrArg LeaseState.listening hlease, by simp [begun, hdiary]⟩

lemma goes (K : pool.Unaware base number diary) (hends : asked.ends = false)
    (hm : pool.Hosted base number diary asked barred m)
    (h : pool.Goes base number diary asked m m') :
    pool.Hosted base number diary asked barred m' := by
  induction h with
  | refl => exact hm
  | tail _ h ih => exact ih.next K hends h

/-- **Whoever finds the lease closed before it has come in does not come in.** -/
lemma bar (hm : pool.Hosted base number diary asked False m)
    (hclosed : ((LeaseHost.leases number).get m.2.state).closed = true)
    (houtside : m.1 = .notYet ∨ (∃ on next, m.2.front = .wait on next)
      ∧ .enters true ∉ diary.get m.2.state) :
    pool.Hosted base number diary asked True m := by
  obtain ⟨x, hfront, hidle, p, staged, rfl, hbeside, hkeeps, ha⟩ := hm
  have hpost : p.2.2 = .outside := by
    rcases houtside with hstage | ⟨⟨on, next, hwait⟩, hnot⟩
    · rw [hidle (by simp [hstage]), hstage] at hfront
      exact congrArg (fun x => x.2.2) (show p = ({}, true, .outside) from hfront)
    · rw [hwait] at hfront
      exact hfront.2.1.1.resolve_right fun hinside => hnot (ha.entered (.inl hinside))
  exact ⟨p, hfront, hidle, p, staged, rfl, hbeside, hkeeps,
    { ha with barred := fun _ => ⟨hclosed, hpost⟩ }⟩

/-- Whoever is barred has not come in, and an operation that ends is refused. -/
lemma refused (hm : pool.Hosted base number diary asked True m) :
    .enters true ∉ diary.get m.2.state
      ∧ ∀ a, m.1 = .going → m.2.front = .done a → asked.operates = true → a
        = some .closedConnection := by
  obtain ⟨x, hfront, hidle, p, staged, rfl, hbeside, hkeeps, ha⟩ := hm
  have houtside := (ha.barred trivial).2
  refine ⟨ha.unentered houtside, fun a hstage hdone => ?_⟩
  rw [hdone, hstage] at hfront
  exact hfront.2 houtside

/-- **Nobody waits for ever to come in**: when nobody has anything left to do, the call of interest
is over. -/
lemma settled (K : pool.Unaware base number diary)
    (hm : pool.Hosted base number diary asked barred m)
    (hrest : pool.Settled base number (everybody m.2)) : ∃ a, m.2.front = .done a := by
  obtain ⟨x, hfront, hidle, p, staged, rfl, hbeside, hkeeps, ha⟩ := hm
  have hsound := ha.orderly.sound
  have hawaits : ∀ (x : Stage × Bool × Post) ready,
    (pool.visiting base number diary).waits x ready →
      (pool.connection base).Awaits ready := fun _ _ h => h.2
  -- What is left of the call of interest, as one of all.
  have hrests : (∃ a, m.2.front = .done a) ∨ ∃ on next, m.2.front = .wait on next
      ∧ on.ready (Host.schedule.modify Schedule.refresh m.2.state) = false
      ∧ ¬(pool.connection base).Awaits on.ready := by
    have hlast := hrest.rest ⟨m.2.front.bind fun _ => .done (), false⟩ (by simp [everybody])
    cases hf : m.2.front with
    | done a => exact .inl ⟨a, rfl⟩
    | act update next => simp [hf, Task.bind] at hlast
    | wait on next =>
      simp only [hf, Task.bind, reduceCtorEq, false_or, Task.wait.injEq] at hlast
      obtain ⟨_, _, ⟨rfl, -⟩, h⟩ := hlast
      exact .inr ⟨on, next, rfl, h⟩
  refine hrests.resolve_right ?_
  rintro ⟨on, next, hwait, hready, hbase⟩
  have hover : ∀ a, Reached asked m.1 a p → p.1.Over := by
    intro a h
    cases hstage : m.1 with
    | notYet =>
      rw [hstage] at h
      rw [show p = ({}, true, .outside) from h]
      exact ⟨rfl, .inl rfl⟩
    | going =>
      rw [hstage] at h
      exact h.1.1
    | givenUp =>
      rw [hstage] at h
      exact h.1
  have hidle : ∀ q ∈ (p :: staged.map Prod.snd).map Prod.fst,
      q.Idle ((pool.lease base number).aspect (.watch base number) m.2.state) := by
    intro q hq
    obtain ⟨x, hx, rfl⟩ := List.mem_map.mp hq
    rcases List.mem_cons.mp hx with rfl | hx
    · exact idle_of_rests K.apart hawaits hfront hover hrests hsound.unshut
    · obtain ⟨y, hy, rfl⟩ := List.mem_map.mp hx
      have hstrand : y.1 ∈ m.2.beside := hbeside ▸ List.mem_map_of_mem hy
      exact idle_of_rests K.apart hawaits (hkeeps y hy) (fun _ h => h.1)
        ((hrest.rest y.1 (List.mem_append_left _ hstrand)).imp_left fun h => ⟨(), h⟩) hsound.unshut
  have hbystander := ha.bystander
  have hplace : p.1.place = .away :=
    (hsound.nobody_waits hidle p.1 (by simp)).elim And.left And.left
  rw [hwait] at hfront
  obtain ⟨-, hfor | hvisit⟩ := hfront.1
  · generalize on.ready = ready at hfor hready
    cases hfor with
    | turn => simp [pause_ready] at hready
    | line t hline => simp [hplace] at hline
    | either _ hlookout => simp [hbystander] at hlookout
  · exact hbase hvisit.2

/-- **The pool has got the connection back when nobody is inside**, and nobody comes in afterwards.
-/
lemma given_back (hm : pool.Hosted base number diary asked barred m) {early late : List Visit}
    (h : diary.get m.2.state = early ++ .back :: late) :
    late = [] ∧ ∀ who, early.count (.enters who) = early.count (.leaves who) := by
  obtain ⟨x, hfront, hidle, p, staged, rfl, hbeside, hkeeps, ha⟩ := hm
  rcases ha.orderly.received with ⟨-, hnot⟩ | ⟨hlistening, before, hback, hnot⟩
  · simp [h] at hnot
  obtain rfl : late = [] := by
    have hends := h.symm.trans hback
    rcases List.eq_nil_or_concat late with rfl | ⟨init, last, rfl⟩
    · rfl
    · have hconcat : (early ++ .back :: init) ++ [last] = before ++ [.back] := by simpa using hends
      obtain ⟨rfl, -⟩ := List.append_inj' hconcat rfl
      simp at hnot
  refine ⟨rfl, fun who => ?_⟩
  have hcount := ha.orderly.nobody_inside hlistening who
  rw [show diary.get m.2.state = _ from h] at hcount
  simpa [List.count_append] using hcount

end Hosted

/-- **It has not come in**: nobody has made the call of interest, or it still waits to come in. -/
def Outside (diary : Cell σ (List Visit)) (m : Asked × Company σ (Option Fault)) : Prop :=
  m.1 = .notYet ∨ (∃ on next, m.2.front = .wait on next) ∧ .enters true ∉ diary.get m.2.state

end Pool

/-- **A lease that is closed refuses whoever has not come in, and one that has been given back is
never used again.**  For any connection beneath that knows nothing of the lease, whatever its
operations wait for, and however calls, closes, drops, the job that looks out, and the end of the
connection beneath come together:

* when the pool has got the connection back nothing reaches it through the lease any more, and every
  call that had begun on it is over;
* if the lease is closed when a call comes, or while it still waits to come in, then the call never
  reaches the connection beneath; if it is an operation and ends, it has been refused as on a closed
  connection; and it has ended when nobody has anything left to do. -/
theorem closed_lease_refuses [LeaseHost σ] {pool : Pool σ} {base : Nat}
    {diary : Cell σ (List Visit)}
    {s₀ : σ} (K : pool.Unaware base (LeaseHost.leaseCount.get s₀) diary)
    (hclean : diary.get s₀ = [])
    {asked : LeaseCall} (hasked : asked.ends = false) {m m' : Asked × Company σ (Option Fault)}
    (before : pool.Goes base (LeaseHost.leaseCount.get s₀) diary asked (Pool.begun base s₀) m)
    (after : pool.Goes base (LeaseHost.leaseCount.get s₀) diary asked m m') :
    (∀ early late, diary.get m.2.state = early ++ .back :: late →
        late = [] ∧ ∀ who, early.count (.enters who) = early.count (.leaves who))
      ∧ (((LeaseHost.leases (LeaseHost.leaseCount.get s₀)).get m.2.state).closed = true →
          Pool.Outside diary m →
          .enters true ∉ diary.get m'.2.state
            ∧ (m'.1 = .going → asked.operates = true →
                ∀ a, m'.2.front = .done a → a = some .closedConnection)
            ∧ (pool.Settled base (LeaseHost.leaseCount.get s₀) (Pool.everybody m'.2) →
                ∃ a, m'.2.front = .done a)) := by
  have hm : pool.Hosted base (LeaseHost.leaseCount.get s₀) diary asked False m :=
    (Pool.Hosted.start K hclean).goes K hasked before
  refine ⟨fun early late h => hm.given_back h, fun hclosed houtside => ?_⟩
  have hbarred := (hm.bar hclosed houtside).goes K hasked after
  obtain ⟨hnot, hrefused⟩ := hbarred.refused
  exact ⟨hnot, fun hstage hoperates a hdone => hrefused a hstage hdone hoperates, hbarred.settled K⟩

def Visit.line : Visit → String
  | .enters true => "I come in"
  | .enters false => "somebody comes in"
  | .leaves true => "I leave"
  | .leaves false => "somebody leaves"
  | .back => "the connection is given back"

def Visit.ofLine (line : String) : Visit :=
  if line = Visit.line (.enters true) then .enters true
  else if line = Visit.line (.enters false) then .enters false
  else if line = Visit.line (.leaves true) then .leaves true
  else if line = Visit.line (.leaves false) then .leaves false
  else .back

lemma Visit.ofLine_line (visit : Visit) : Visit.ofLine visit.line = visit := by
  rcases visit with (_ | _) | (_ | _) | _ <;> decide

def World.diary : Cell World (List Visit) :=
  (LogHost.lines 0).comp
    ⟨fun lines => lines.map Visit.ofLine, fun visits _ => visits.map Visit.line,
      fun visits _ => by simp [Function.comp_def, Visit.ofLine_line], fun _ _ _ => rfl⟩

/-- The scripted backend and its pool know nothing of a lease, nor of a diary. -/
lemma Memory.pool_unaware (base number : Nat) : Memory.pool.Unaware base number World.diary where
  apart := Memory.apart base number
  count _ _ := rfl
  diary_lease _ _ := rfl
  diary_count _ _ := rfl
  diary_schedule _ _ := rfl
  diary_traces _ _ := rfl
  lease_diary _ _ := rfl
  schedule_diary _ _ := rfl
  ended_diary _ _ := rfl
  beneath := Memory.beneath_elsewhere (fun _ _ => rfl) base number
  giveBack _ s := ⟨Memory.grows_giveBack base number s,
    Memory.drop_same World.diary.get base _ (fun _ _ => rfl) (fun _ _ => rfl) (fun _ _ _ => rfl)
      fun _ _ => rfl⟩

/-- A transaction is begun on a lease that has been closed. -/
theorem closed_lease_refuses_begin : ∃ m m' : Asked × Company World (Option Fault),
    Memory.pool.Goes 1 0 World.diary .begin (Pool.begun 1 World.lent) m
      ∧ Memory.pool.Goes 1 0 World.diary .begin m m'
      ∧ World.diary.get m.2.state = [.back] ∧ m'.2.front = .done (some .closedConnection)
      ∧ .enters true ∉ World.diary.get m'.2.state := by
  have unaware : Memory.pool.Unaware 1 (LeaseHost.leaseCount.get World.lent) World.diary :=
    Memory.pool_unaware 1 0
  have begun : Memory.pool.Goes 1 0 World.diary .begin (Pool.begun 1 World.lent) _ := .refl
  have closed := Pool.Goes.turn_beside 1 [] [] (begun.tail (.call .close))
  have asked : ∀ c, Memory.pool.Goes 1 0 World.diary .begin (.notYet, c) (.going, _) :=
    fun c => Pool.Goes.turn 2 (.single (.ask (c := c)))
  have refused := closed_lease_refuses unaware rfl rfl closed (asked _)
  exact ⟨_, _, closed, asked _, by decide, rfl, (refused.2 rfl (.inl rfl)).1⟩

end Transactional
