import Transactional.Proofs.Memory.Work

/-!
# A lease gives its connection back once

However those who hold a lease use, close and drop it, and whenever the connection beneath ends: the
pool hears of the lease at most once, and it hears of that connection.  When the lease has been
closed or dropped, or the connection beneath has ended, and nobody has anything left to do, the pool
has heard of it.

* `Pool.Fair` — what is true at each moment of a lease's story, of the lease and of the stages of
  all tasks on it.
* `Pool.Story.kept` — it is true, because each change upholds it.
* `Pool.Story.turn` — a turn of a task is a part of such a story, so these are the stories that the
  executor tells, and more.
* **`given_back_once`** — the pool hears of the lease at most once, and in the end exactly once.
-/

namespace Transactional

namespace Pool

variable [LeaseHost σ] {ρ : Type} {pool : Pool σ} {base number : Nat} {heard : σ → List ρ}
  {mark : Connection σ → ρ}

/-- **A job of a lease begins**: what was due is what the newcomer is about. -/
lemma sound_start {called : Prop} {stages : List Stage} {s : σ} {job : Job}
    {errand : Errand}
    (hs : Aspect.Sound called stages ((pool.lease base number).aspect (.watch base number) s))
    (apart : (pool.lease base number).Apart)
    (hjob : job = .close base number ∧ errand = .pledged ∨ job = .watch base number ∧ errand
      = .lookout)
    (n : TaskId) :
    Aspect.Sound called (stages ++ [{ errand := errand }])
      ((pool.lease base number).aspect (.watch base number)
        (Company.takeOff (.start n job) s)) := by
  have haspect := apart.aspect_schedule (.watch base number)
    (fun c => { c with ready := c.ready.erase (.start n job) }) s
  -- Every other job that was due is due still.
  have hkeeps : ∀ j, j ≠ job → (∃ m, Company.Due m j s) →
      ∃ m, (m, j) ∈ ({ Host.schedule.get s with
        ready := (Host.schedule.get s).ready.erase (.start n job) } : Schedule).starts := by
    rintro j hj ⟨m, hm⟩
    exact ⟨m, Schedule.mem_starts_erase (Company.due_iff.mp hm) (by simp [hj.symm])⟩
  rw [Company.takeOff, haspect]
  rcases hjob with ⟨rfl, rfl⟩ | ⟨rfl, rfl⟩
  · exact hs.join rfl rfl (.inr (.inl rfl)) rfl (fun h => .inl (hkeeps _ (by simp) h))
      (fun _ => .inr rfl) .inl
  · exact hs.join rfl rfl (.inr (.inr rfl)) rfl (fun _ => .inr rfl)
      (fun h => .inl (hkeeps _ (by simp [lease]) h)) .inl

lemma get_begin {s₀ : σ} (apart : (pool.lease base (LeaseHost.leaseCount.get s₀)).Apart)
    (count : ∀ n s, (LeaseHost.leases (LeaseHost.leaseCount.get s₀)).get
      (LeaseHost.leaseCount.set n s)
      = (LeaseHost.leases (LeaseHost.leaseCount.get s₀)).get (s : σ)) :
    (LeaseHost.leases (LeaseHost.leaseCount.get s₀)).get (startWatchedLease base s₀).2 = {} := by
  show (pool.lease base _).cell.get (Host.schedule.set _ _) = _
  rw [apart.schedule]
  exact (count _ _).trans (Cell.get_set _ _ _)

/-- **When a lease is started** the job that looks after it is due. -/
lemma sound_begin {called : Prop} {s₀ : σ}
    (apart : (pool.lease base (LeaseHost.leaseCount.get s₀)).Apart)
    (count : ∀ n s, (LeaseHost.leases (LeaseHost.leaseCount.get s₀)).get
      (LeaseHost.leaseCount.set n s)
      = (LeaseHost.leases (LeaseHost.leaseCount.get s₀)).get (s : σ)) (hcalled : ¬called) :
    Aspect.Sound called [{}] ((pool.lease base (LeaseHost.leaseCount.get s₀)).aspect
      (.watch base (LeaseHost.leaseCount.get s₀)) (startWatchedLease base s₀).2) := by
  have hdue : ∃ n, Company.Due n (.watch base (LeaseHost.leaseCount.get s₀))
      (startWatchedLease base s₀).2 := Company.due_spawn _ _
  have haspect : (pool.lease base (LeaseHost.leaseCount.get s₀)).aspect
      (.watch base (LeaseHost.leaseCount.get s₀)) (startWatchedLease base s₀).2
        = LeaseState.aspect {} _ _ _ :=
    congrArg (LeaseState.aspect · _ _ _) (get_begin apart count)
  rw [haspect]
  refine ⟨.fresh_free 1 rfl rfl, rfl, ?_, ⟨by simp, by simp⟩⟩
  constructor <;> simp [LeaseState.aspect, Status.isTerminal, hcalled]
  exact .inl hdue

/-- **What is true at each moment**: nobody relies on not being interrupted, the lease and the
stages of all tasks agree, and the pool has heard of the lease if it no longer listens. -/
structure Fair (pool : Pool σ) (base number : Nat) (heard : σ → List ρ) (mark : Connection σ → ρ)
    (before : List ρ) (called : Bool) (x : Stage × Unit) (xs : List (Stage × Unit)) (s : σ) :
    Prop where
  modest : ∀ y ∈ x :: xs, y.1.Modest
  sound : Aspect.Sound (called = true) ((x :: xs).map Prod.fst)
    ((pool.lease base number).aspect (.watch base number) s)
  told : heard s = before ++
    if ((LeaseHost.leases number).get s).listening then [] else [mark (pool.connection base)]

namespace Fair

variable {before : List ρ} {called : Bool} {x y : Stage × Unit}
  {xs front back : List (Stage × Unit)}
  {s s' : σ}

lemma told_of_may (hf : pool.Fair base number heard mark before called x xs s)
    (h : (pool.listener base number heard mark).may () s () s') :
    heard s' = before ++ if ((LeaseHost.leases number).get s').listening then []
      else [mark (pool.connection base)] := by
  have htold := hf.told
  rcases h with ⟨hheard, hlistening⟩ | ⟨hbefore, hafter, hheard⟩
  · rw [hheard, hlistening]
    exact htold
  · rw [hbefore] at htold
    rw [hheard, hafter, htold]
    simp

/-- **Whoever moves, it stays true.** -/
lemma step (hf : pool.Fair base number heard mark before called x xs s)
    (hlist : x :: xs = front ++ y :: back) {y' x' : Stage × Unit} {xs' : List (Stage × Unit)}
    (hlist' : x' :: xs' = front ++ y' :: back)
    (hmay : (pool.taskDiscipline base number heard mark).may y s y' s') :
    pool.Fair base number heard mark before called x' xs' s' := by
  obtain ⟨hmodest, hsound, -⟩ := id hf
  rw [hlist] at hmodest hsound
  rw [List.map_append, List.map_cons] at hsound
  refine ⟨?_, ?_, hf.told_of_may hmay.2⟩
  · rw [hlist']
    intro z hz
    rcases List.mem_append.mp hz with hz | hz
    · exact hmodest z (by simp [hz])
    · rcases List.mem_cons.mp hz with rfl | hz
      · exact hmay.1.modest (hmodest y (by simp))
      · exact hmodest z (by simp [hz])
  · rw [hlist', List.map_append, List.map_cons]
    refine hsound.step hmay.1 fun r hr => ?_
    rw [← List.map_append] at hr
    obtain ⟨z, hz, rfl⟩ := List.mem_map.mp hr
    refine (hmodest z ?_).2
    rcases List.mem_append.mp hz with hz | hz <;> simp [hz]

lemma join (hf : pool.Fair base number heard mark before called x xs s) {called' : Bool} {p : Stage}
    (hmodest : p.Modest)
    (hsound : Aspect.Sound (called' = true) ((x :: xs).map Prod.fst ++ [p])
      ((pool.lease base number).aspect (.watch base number) s'))
    (hcell : (LeaseHost.leases number).get s' = (LeaseHost.leases number).get s)
    (hheard : heard s' = heard s) :
    pool.Fair base number heard mark before called' x (xs ++ [(p, ())]) s' := by
  refine ⟨fun y hy => ?_, ?_, ?_⟩
  · rcases List.mem_append.mp (List.cons_append ▸ hy : y ∈ (x :: xs) ++ [_]) with hy | hy
    · exact hf.modest y hy
    · rw [List.mem_singleton.mp hy]
      exact hmodest
  · rw [← List.cons_append, List.map_append]
    exact hsound
  · rw [hheard, hcell]
    exact hf.told

/-- **Every change upholds it.** -/
lemma upheld (H : pool.Hears base number heard mark) (s s' : σ) :
    Company.Upheld (pool.taskDiscipline base number heard mark) (fun (_ : Unit) => Done) Done
      (pool.Jobs base number) (pool.Fair base number heard mark before called)
      (pool.Fair base number heard mark before called) s s' where
  knows hf := ⟨hf.sound.knows (by simp), trivial⟩
  knows_beside hf hq := ⟨hf.sound.knows (List.mem_map_of_mem (List.mem_cons_of_mem _ hq)), trivial⟩
  front {p q ps} hf hmay :=
    hf.step (List.nil_append (p :: ps)).symm (List.nil_append (q :: ps)).symm hmay
  beside {p q q' front back} _ hf hmay :=
    hf.step (List.cons_append : p :: front ++ _ = _).symm List.cons_append.symm hmay
  gone {p q front back} hover hf := by
    refine ⟨fun y hy => hf.modest y ?_, ?_, hf.told⟩
    · rcases List.mem_cons.mp hy with rfl | hy
      · simp
      · rcases List.mem_append.mp hy with hy | hy <;> simp [hy]
    · have hsound := hf.sound
      rw [← List.cons_append, List.map_append] at hsound ⊢
      exact hsound.leave hover
  start {p ps n job task} hf due hjob hs' := by
    subst hs'
    rcases hjob with ⟨rfl, rfl⟩ | ⟨rfl, ownFirst, rfl⟩
    · exact ⟨({ errand := .pledged }, ()), H.shutdown_keeps rfl rfl rfl,
        hf.join ⟨rfl, by simp⟩ (sound_start hf.sound H.apart (.inl ⟨rfl, rfl⟩) n)
          (H.apart.schedule _ s)
          (H.heard_schedule _ s)⟩
    · exact ⟨({ errand := .lookout }, ()), H.watch_keeps ownFirst,
        hf.join ⟨rfl, by simp⟩ (sound_start hf.sound H.apart (.inr ⟨rfl, rfl⟩) n)
          (H.apart.schedule _ s)
          (H.heard_schedule _ s)⟩

end Fair

namespace Story

variable {s₀ : σ} {called : Bool} {c : Company σ Unit}

lemma fair_start (H : pool.Hears base (LeaseHost.leaseCount.get s₀) heard mark) :
    pool.Fair base (LeaseHost.leaseCount.get s₀) heard mark (heard (startWatchedLease base s₀).2)
      false ({}, ()) [] (startWatchedLease base s₀).2 := by
  refine ⟨fun y hy => ?_, sound_begin H.apart H.count
    (by simp), by simp [get_begin H.apart H.count]⟩
  rw [List.mem_singleton.mp hy]
  exact ⟨rfl, by simp⟩

/-- **Everybody keeps to the discipline, at each moment of the story.** -/
theorem kept (H : pool.Hears base (LeaseHost.leaseCount.get s₀) heard mark)
    (story : pool.Story base heard s₀ called c) :
    c.Kept (pool.taskDiscipline base (LeaseHost.leaseCount.get s₀) heard mark) (fun _ => Done) Done
      (pool.Fair base (LeaseHost.leaseCount.get s₀) heard mark
        (heard (startWatchedLease base s₀).2) called) := by
  induction story with
  | start =>
    refine ⟨({}, ()), [], ⟨rfl, .inl rfl⟩, rfl, by simp, fair_start H⟩
  | @call called c call _ ih =>
    refine ih.join (H.call_keeps call) fun p ps hfair => hfair.join ⟨rfl, by simp⟩ ?_ rfl rfl
    refine hfair.sound.join rfl rfl ?_ rfl .inl .inl fun h => ?_
    · cases call.ends <;> simp
    · cases hends : call.ends
      · simpa [hends] using h
      · exact .inr rfl
  | step _ hstep ih => exact ih.step hstep (Fair.upheld H _ _)
  | @elsewhere called c s' _ helse ih =>
    refine ih.around fun p ps hfair => ⟨hfair.modest, hfair.sound.grows helse.grows, ?_⟩
    rw [helse.heard, helse.listening]
    exact hfair.told

lemma front (story : pool.Story base heard s₀ called c) : c.front = .done () := by
  induction story with
  | start => rfl
  | call _ _ ih => exact ih
  | step _ hstep ih => exact hstep.front_of_done ih
  | elsewhere _ _ ih => exact ih

lemma turn (self : TaskId) (before after : List (Strand σ)) {front : Task σ Unit}
    {task : Task σ Unit} {optional : Bool} {s : σ}
    (story : pool.Story base heard s₀ called ⟨s, front, before ++ ⟨task, optional⟩ :: after⟩) :
    pool.Story base heard s₀ called
      ⟨(task.poll self s).2, front, before ++ ⟨(task.poll self s).1, optional⟩ :: after⟩ := by
  have hrest : front.Rests := by
    rw [show front = .done () from story.front]
    trivial
  induction task generalizing s with
  | done a => exact story
  | act update next ih => exact ih s (story.step (.beside hrest (.act update next s)))
  | wait on next ih =>
    rw [Task.poll]
    split
    next hready => exact ih (story.step (.beside hrest (.pass on next s hready)))
    next => exact story.step (.beside hrest (.register on next self s))

end Story

/-! ## When nobody has anything left to do -/

lemma pause_ready (s : σ) :
    (Task.pause : Wait σ).ready (Host.schedule.modify Schedule.refresh s) = true := by
  simp [Task.pause, Schedule.refresh, Schedule.fullTurn]

/-- **Where a task stands that waits in vain** on a lease: in line, and not called, or looking out
for an end that has not come. -/
lemma idle_of_waitsFor (apart : (pool.lease base number).Apart) {p : Stage} {ready : σ → Bool}
    {s : σ} (hfor : (pool.lease base number).WaitsFor p ready)
    (hready : ready (Host.schedule.modify Schedule.refresh s) = false)
    (hshut : (((pool.lease base number).aspect (.watch base number) s).lock).shut = false) :
    p.Idle ((pool.lease base number).aspect (.watch base number) s) := by
  have hlock : (pool.lease base number).lock.get (Host.schedule.modify Schedule.refresh s)
      = ((pool.lease base number).aspect (.watch base number) s).lock :=
    congrArg LeaseState.lock (apart.schedule _ s)
  cases hfor with
  | turn => simp [pause_ready] at hready
  | line t hplace =>
    refine .inr (.inl ⟨t, hplace, ?_⟩)
    simpa [Task.paced, pause_ready, Semaphore.inLine, hlock, hshut] using hready
  | either hplace herrand =>
    refine .inr (.inr ⟨hplace, herrand, ?_⟩)
    have hended := (Bool.or_eq_false_iff.mp hready).1
    have hsame : (pool.lease base number).base.watch.ending?
        (Host.schedule.modify Schedule.refresh s)
        = (pool.lease base number).base.watch.ending? s :=
      apart.ended_schedule _ s
    rwa [hsame] at hended

/-- **Where a task stands that has nothing left to do**: it is over, or waits in line and has not
been called, or looks out for an end that has not come. -/
lemma idle_of_rests {G : Discipline σ (Stage × κ)} (apart : (pool.lease base number).Apart)
    (hawaits : ∀ x ready, G.waits x ready → (pool.connection base).Awaits ready) {task : Task σ α}
    {gone : Stage × κ → (σ → σ) → Prop} {ends : α → Stage × κ → Prop} {x : Stage × κ} {s : σ}
    (h : task.Obeys ((pool.lease base number).discipline (.watch base number) G) gone ends x)
    (hends : ∀ a, ends a x → x.1.Over)
    (hrest : (∃ a, task = .done a) ∨ ∃ on next, task = .wait on next
      ∧ on.ready (Host.schedule.modify Schedule.refresh s) = false
      ∧ ¬(pool.connection base).Awaits on.ready)
    (hshut : (((pool.lease base number).aspect (.watch base number) s).lock).shut = false) :
    x.1.Idle ((pool.lease base number).aspect (.watch base number) s) := by
  rcases hrest with ⟨a, rfl⟩ | ⟨on, next, rfl, hready, hbase⟩
  · exact .inl (hends a h)
  obtain ⟨-, hfor | hwaits⟩ := h.1
  · exact idle_of_waitsFor apart hfor hready hshut
  · exact absurd (hawaits _ _ hwaits) hbase

end Pool

/-- **A lease gives its connection back once.**  For any connection beneath that knows nothing of
the lease, whatever its operations wait for, and however calls, closes, drops, the job that looks
out, and the end of the connection beneath come together: the pool hears of the lease at most once,
and only of that connection; and when the lease has been closed or dropped, or the connection
beneath has ended, and nobody has anything left to do, it has heard of it exactly once. -/
theorem given_back_once [LeaseHost σ] {ρ : Type} {pool : Pool σ} {base : Nat} {s₀ : σ}
    {heard : σ → List ρ} {mark : Connection σ → ρ}
    (H : pool.Hears base (LeaseHost.leaseCount.get s₀) heard mark) {called : Bool}
    {c : Company σ Unit} (story : pool.Story base heard s₀ called c) :
    (heard c.state = heard (Pool.startWatchedLease base s₀).2
      ∨ heard c.state
        = heard (Pool.startWatchedLease base s₀).2 ++ [mark (pool.connection base)])
    ∧ (pool.Settled base (LeaseHost.leaseCount.get s₀) c →
        called = true ∨ ((pool.connection base).watch.ending? c.state).isSome = true →
        heard c.state
          = heard (Pool.startWatchedLease base s₀).2 ++ [mark (pool.connection base)]) := by
  obtain ⟨p, staged, hfront, hbeside, hkeeps, hmodest, hsound, htold⟩ := story.kept H
  rw [story.front] at hfront
  refine ⟨?_, fun hrest hcause => ?_⟩
  · rw [htold]
    split
    · exact .inl (List.append_nil _)
    · exact .inr rfl
  have hidle : ∀ q ∈ (p :: staged.map Prod.snd).map Prod.fst,
      q.Idle ((pool.lease base (LeaseHost.leaseCount.get s₀)).aspect
        (.watch base (LeaseHost.leaseCount.get s₀)) c.state) := by
    intro q hq
    obtain ⟨x, hx, rfl⟩ := List.mem_map.mp hq
    rcases List.mem_cons.mp hx with rfl | hx
    · exact .inl hfront
    · obtain ⟨y, hy, rfl⟩ := List.mem_map.mp hx
      have hstrand : y.1 ∈ c.beside := hbeside ▸ List.mem_map_of_mem hy
      exact Pool.idle_of_rests H.apart (fun _ _ h => h) (hkeeps y hy) (fun _ h => h)
        ((hrest.rest y.1 hstrand).imp_left fun h => ⟨(), h⟩) hsound.unshut
  have hlistening : ((LeaseHost.leases (LeaseHost.leaseCount.get s₀)).get c.state).listening
    = false :=
    hsound.settled hidle
      (fun ⟨n, hn⟩ => hrest.jobs n _ _ (.inr ⟨rfl, false, rfl⟩) hn)
      (fun ⟨n, hn⟩ => hrest.jobs n _ _ (.inl ⟨rfl, rfl⟩) hn) hcause
  rw [htold, hlistening]
  rfl

/-- A world with one connection, which has just been checked out. -/
def World.lent : World :=
  (Memory.newLink true (World.withMemory 1 {})).2

/-- A lease that is closed, and whose own task is over. -/
theorem given_back_once_after_close : ∃ c : Company World Unit,
    Memory.pool.Story 1 Memory.returned World.lent true c ∧ Memory.pool.Settled 1 0 c
      ∧ Memory.returned c.state
          = Memory.returned (Pool.startWatchedLease 1 World.lent).2 ++ [()] := by
  obtain ⟨c, story, hover, hready⟩ : ∃ c : Company World Unit,
      Memory.pool.Story 1 Memory.returned World.lent true c
        ∧ (∀ strand ∈ c.beside, strand.task = .done ()) ∧ c.state.schedule.ready = [] := by
    have begun : Memory.pool.Story 1 Memory.returned World.lent false _ := .start
    have closed := (begun.call .close).turn 1 [] []
    have started := closed.step (.start trivial (show Company.Due 1 _ _ from .head _)
      (.inr ⟨rfl, false, rfl⟩))
    refine ⟨_, started.turn 1 [_] [], ?_, rfl⟩
    simp only [List.mem_append, List.mem_singleton]
    rintro strand (rfl | rfl) <;> rfl
  have settled : Memory.pool.Settled 1 0 c := by
    refine ⟨fun strand hstrand => .inl (hover strand hstrand), fun n job task _ hdue => ?_⟩
    rw [Company.Due, show (Host.schedule.get c.state).ready = [] from hready] at hdue
    exact List.not_mem_nil hdue
  exact ⟨c, story, settled, (given_back_once (Memory.pool_hears 1 0) story).2 settled (.inl rfl)⟩

end Transactional
