import Transactional.Proofs.Run.Milestones
import Transactional.Proofs.Run.Tracked
import Transactional.Proofs.Task.Reach

/-!
# The program of a run, and what follows it

A run gets hold of a lease and begins a transaction, before its program begins; a limit counts from
there.  What follows the program depends on what it has come to, and not on the limit.

* `Company.limited` — a company with a limit for the task in front.
* `Run.Begins`, `Run.phase` — what happens until the program of a run begins, and the program then.
* **`Run.same_before`** — until then a limit makes no difference.
* **`Run.travelled_of_begins`**, **`Run.travelled_of_limited`** — from then on a run is its program,
  without a limit and with one, and what follows.
* `Company.Ends.heeds`, `Run.Begins.heeds` — what may happen to a run may happen in each of its
  phases.
-/

namespace Transactional

lemma Task.result_bind {task : Task σ α} (F : α → Task σ β) (h : task.result? = none) :
    (task.bind F).result? = none := by
  cases task with
  | done a => cases h
  | act | wait => rfl

lemma Task.result_map (g : α → β) (task : Task σ α) :
    (task.bind fun a => .done (g a)).result? = task.result?.map g := by
  cases task <;> rfl

namespace Company

section

variable [Host σ] {jobs : Job → Task σ Unit} {c : Company σ α}

/-- **A limit for the task in front**, in milliseconds: a timer is taken. -/
def limited (ms : Nat) (c : Company σ α) : Company σ (Option α) :=
  ⟨(Host.takeTicket c.state).2,
    c.front.race (Task.timer (Host.takeTicket c.state).1 (Host.now c.state + ms)), c.beside⟩

lemma limited_followed (jobs : Job → Task σ Unit) (ms : Nat) (tidy : σ → σ)
    (X : Option α → Task σ β)
    (c : Company σ α) (moves : List (Move σ)) :
    (c.led (((c.front.within ms).bind X).holding tidy)).play jobs (.front :: moves)
      = ((c.limited ms).followed tidy fun r => (X r).holding tidy).play jobs (.front :: moves) := by
  rw [Task.holding_bind]
  rfl

omit [Host σ] in
lemma result_followed (tidy : σ → σ) (G : α → Task σ β) (h : c.front.result? = none) :
    (c.followed tidy G).front.result? = none := by
  refine Task.result_bind G ?_
  cases hfront : c.front with
  | done a => rw [hfront] at h; cases h
  | act | wait => rfl

end

/-! ## What may happen -/

variable [LeaseHost σ] {jobs : Job → Task σ Unit} {may : σ → Move σ → Prop}
  {c : Company σ α} {a : α}
  {early late moves : List (Move σ)}

lemma heeds_append : Heeds jobs may c (early ++ late)
    ↔ Heeds jobs may c early ∧ Heeds jobs may (c.play jobs early) late := by
  induction early generalizing c with
  | nil => exact ⟨fun h => ⟨trivial, h⟩, fun h => h.2⟩
  | cons move rest ih =>
    simp only [List.cons_append, Heeds, ih, and_assoc]
    rfl

lemma heeds_map (g : α → β) :
    Heeds jobs may (c.led (c.front.bind fun a => .done (g a))) moves ↔ Heeds jobs may c moves := by
  induction moves generalizing c with
  | nil => exact Iff.rfl
  | cons move rest ih =>
    have htake : (c.led (c.front.bind fun a => .done (g a))).take jobs move
        = (c.take jobs move).led ((c.take jobs move).front.bind fun a => .done (g a)) :=
          play_map jobs g c [move]
    rw [Heeds, htake, ih]
    exact Iff.rfl

lemma Heeds.of_followed {tidy : σ → σ} {G : α → Task σ β}
    (h : Heeds jobs may (c.followed tidy G) moves)
    (hnone : (c.play jobs moves).front.result? = none) : Heeds jobs may c moves := by
  induction moves generalizing c with
  | nil => trivial
  | cons move rest ih =>
    refine ⟨h.1, ih (c := c.take jobs move) ?_ hnone⟩
    have htake : (c.followed tidy G).take jobs move = (c.take jobs move).followed tidy G := by
      by_cases hmove : move = .front
      · subst hmove
        exact followed_wait jobs
          (result_of_play (show ((c.take jobs .front).play jobs rest).front.result?
            = none from hnone))
      · exact followed_aside jobs hmove
    rw [← htake]
    exact h.2

/-- **What may happen to a task and to what follows it** may happen to each of the two. -/
lemma Ends.heeds (hown : ∀ s, may s .front) {tidy : σ → σ} {G : α → Task σ β}
    (hends : Ends jobs c early a)
    (h : Heeds jobs may (c.followed tidy G) (early ++ late)) :
    Heeds jobs may c early ∧ Heeds jobs may ((c.play jobs early).led (G a)) (.front :: late) := by
  have hplay := hends.play_followed tidy G
  obtain ⟨-, before, rfl, hnone⟩ := hends
  obtain ⟨hearly, hlate⟩ := heeds_append.mp h
  rw [hplay] at hlate
  exact ⟨heeds_append.mpr ⟨(heeds_append.mp hearly).1.of_followed hnone, hown _, trivial⟩,
    hown _, hlate⟩

end Company

namespace Run

variable [LeaseHost σ]

/-! ## Beginning -/

section

variable (manager : Manager σ) (program : Program σ) (s₀ : σ) (hand : Nat × Nat)
  (early middle : List (Company.Move σ))

/-- A run that has got hold of a lease and asks for a transaction. -/
def asking : Company σ (Except Fault Unit) :=
  (grabbing manager s₀ early).led (manager.handedOut hand).begin.run

/-- **What happens until the program of a run begins**: it gets hold of a lease, and then it gets
its transaction. -/
structure Begins : Prop where
  grabbed : Until manager s₀ (.ok hand) early
  begun : Company.Ends manager.pool.perform (asking manager s₀ hand early)
    (.front :: middle) (.ok ())

/-- **The program of a run**, when it begins. -/
def phase : Company σ Walk.Ending :=
  ((asking manager s₀ hand early).play manager.pool.perform (.front :: middle)).led
    (program.runOn (manager.handedOut hand))

end

/-- **What follows the program of a run**, with its milestones. -/
def ensuing (conn : Connection σ) (sink : Sink σ) :
    Walk.Ending → Task σ (Except Fault Value × List Milestone)
  | (.ok value, events) => concluding conn sink value events
      [.checkedOut (.ok ()), .begun (.ok ()), .performed (.ok value)]
  | (.error fault, _) => undoing conn fault
      [.checkedOut (.ok ()), .begun (.ok ()), .performed (.error fault)]

/-- What follows the answer to the demand for a transaction. -/
def answered (conn : Connection σ) (sink : Sink σ) (limit : Option Duration) (program : Program σ) :
    Except Fault Unit → Task σ (Except Fault Value × List Milestone)
  | .error fault => conn.close.bind fun _ =>
      .done (.error fault, [.checkedOut (.ok ()), .begun (.error fault), .closed])
  | .ok () => (verdict conn limit program).bind (ensuing conn sink)

/-- How a program ends that has been given up. -/
def cutShort (d : Duration) (ending : Option Walk.Ending) : Walk.Ending :=
  ending.getD (.error (.timeout d), [])

variable {manager : Manager σ} {sink : Sink σ} {limit : Option Duration}
  {program : Program σ} {s₀ : σ}
  {hand : Nat × Nat} {early middle late moves : List (Company.Move σ)}

lemma onMilestones_eq_answered (conn : Connection σ) (sink : Sink σ) (limit : Option Duration)
    (program : Program σ) :
    onMilestones conn sink limit program = conn.begin.run.bind
      (answered conn sink limit program) := by
  show conn.begin.run.bind _ = _
  refine congrArg _ (funext fun opened => ?_)
  rcases opened with fault | ⟨⟨⟩⟩
  · rfl
  · show (verdict conn limit program).bind _ = (verdict conn limit program).bind _
    refine congrArg _ (funext fun ending => ?_)
    rcases ending with ⟨fault | value, events⟩ <;> rfl

lemma answered_none (conn : Connection σ) (sink : Sink σ) (program : Program σ) :
    answered conn sink none program (.ok ()) = (program.runOn conn).bind (ensuing conn sink) := by
  rw [answered, verdict, program.runOn_eq_result]

lemma answered_some (conn : Connection σ) (sink : Sink σ) (d : Duration) (program : Program σ) :
    answered conn sink (some d) program (.ok ())
      = ((program.runOn conn).within d.ceilMillis).bind fun ending => ensuing conn sink
        (cutShort d ending) := by
  rw [answered, verdict, program.runOn_eq_result, Task.bind_assoc]
  refine congrArg _ (funext fun ending => ?_)
  cases ending <;> rfl

lemma journey_ok (manager : Manager σ) (sink : Sink σ) (limit : Option Duration)
    (program : Program σ)
    (hand : Nat × Nat) :
    journey manager sink limit program (.ok hand)
      = ((manager.handedOut hand).begin.run.guarded (manager.handedOut hand).drop).bind
        fun opened =>
        (answered (manager.handedOut hand) sink limit program opened).holding
          (manager.handedOut hand).drop := by
  rw [journey, onMilestones_eq_answered, Task.holding_bind]

lemma travelled_of_until (sink : Sink σ) (limit : Option Duration) (program : Program σ)
    {grabbed : Except Fault (Nat × Nat)} (huntil : Until manager s₀ grabbed early)
    (late : List (Company.Move σ)) :
    travelled manager sink limit program s₀ (early ++ late)
      = ((grabbing manager s₀ early).led (journey manager sink limit program grabbed)).play
        manager.pool.perform
        (.front :: late) := by
  rw [travelled, milestones_eq_grab, Company.play_append, play_of_until _ huntil]
  rfl

lemma travelled_of_hand (sink : Sink σ) (limit : Option Duration) (program : Program σ)
    (huntil : Until manager s₀ (.ok hand) early) (late : List (Company.Move σ)) :
    travelled manager sink limit program s₀ (early ++ late)
      = ((asking manager s₀ hand early).followed (manager.handedOut hand).drop fun opened =>
          (answered (manager.handedOut hand) sink limit program opened).holding
            (manager.handedOut hand).drop).play manager.pool.perform (.front :: late) := by
  rw [travelled_of_until sink limit program huntil, journey_ok]
  rfl

lemma travelled_of_answer (sink : Sink σ) (limit : Option Duration) (program : Program σ)
    (huntil : Until manager s₀ (.ok hand) early) {opened : Except Fault Unit}
    (hopened : Company.Ends manager.pool.perform (asking manager s₀ hand early)
      (.front :: middle) opened)
    (late : List (Company.Move σ)) :
    travelled manager sink limit program s₀ (early ++ middle ++ late)
      = (((asking manager s₀ hand early).play manager.pool.perform (.front :: middle)).led
          ((answered (manager.handedOut hand) sink limit program opened).holding
            (manager.handedOut hand).drop)).play manager.pool.perform (.front :: late) := by
  rw [List.append_assoc, travelled_of_hand sink limit program huntil, ← List.cons_append,
    Company.play_append,
    hopened.play_followed]
  rfl

/-- **When its program has begun** a run without a limit is its program, and what follows. -/
theorem travelled_of_begins (sink : Sink σ) (program : Program σ)
    (h : Begins manager s₀ hand early middle)
    (late : List (Company.Move σ)) :
    travelled manager sink none program s₀ (early ++ middle ++ late)
      = ((phase manager program s₀ hand early middle).followed (manager.handedOut hand).drop
        fun ending =>
          (ensuing (manager.handedOut hand) sink ending).holding (manager.handedOut hand).drop).play
        manager.pool.perform (.front :: late) := by
  rw [travelled_of_answer sink none program h.grabbed h.begun, answered_none, Task.holding_bind]
  rfl

/-- **With a limit** it is its program with a timer, and what follows. -/
theorem travelled_of_limited (sink : Sink σ) (d : Duration) (program : Program σ)
    (h : Begins manager s₀ hand early middle) (late : List (Company.Move σ)) :
    travelled manager sink (some d) program s₀ (early ++ middle ++ late)
      = (((phase manager program s₀ hand early middle).limited d.ceilMillis).followed
          (manager.handedOut hand).drop fun ending =>
            (ensuing (manager.handedOut hand) sink (cutShort d ending)).holding
              (manager.handedOut hand).drop).play manager.pool.perform (.front :: late) := by
  rw [← Company.limited_followed, travelled_of_answer sink (some d) program h.grabbed h.begun,
    answered_some]
  rfl

/-- **Where its program waits** a run without a limit waits. -/
theorem travelled_of_wait (sink : Sink σ) (program : Program σ)
    (h : Begins manager s₀ hand early middle)
    {before taken : List (Company.Move σ)} (htaken : .front :: taken = before ++ [.front])
    {on : Wait σ}
    {next : Task σ Walk.Ending} {s : σ} :
    let c := (phase manager program s₀ hand early middle).play manager.pool.perform before
    c.front.reach c.state = (.wait on next, s) →
      (travelled manager sink none program s₀ (early ++ middle ++ taken)).front.result? = none
        ∧ (travelled manager sink none program s₀ (early ++ middle ++ taken)).state
          = on.register Company.frontTask s := by
  intro c hreach
  have hturn := Task.poll_of_reach_wait Company.frontTask hreach
  have hnone : ((phase manager program s₀ hand early middle).play manager.pool.perform
      (before ++ [.front])).front.result? = none := by
    rw [Company.play_concat]
    exact Task.result_of_reach_wait Company.frontTask hreach
  rw [travelled_of_begins sink program h, htaken, Company.followed_play _ hnone]
  refine ⟨Company.result_followed _ _ hnone, ?_⟩
  rw [Company.followed, Company.led, Company.play_concat]
  exact congrArg Prod.snd hturn

/-! ## Before that -/

lemma unfolded_eq_travelled (manager : Manager σ) (sink : Sink σ) (limit : Option Duration)
    (program : Program σ)
    (s₀ : σ) (moves : List (Company.Move σ)) :
    unfolded manager sink limit program s₀ moves
      = (travelled manager sink limit program s₀ moves).led
        ((travelled manager sink limit program s₀ moves).front.bind fun told => .done told.1) := by
  rw [unfolded, runWith_eq_milestones, Company.play_opening_map]
  rfl

lemma result_unfolded (manager : Manager σ) (sink : Sink σ) (limit : Option Duration)
    (program : Program σ)
    (s₀ : σ) (moves : List (Company.Move σ)) :
    (unfolded manager sink limit program s₀ moves).front.result?
      = (travelled manager sink limit program s₀ moves).front.result?.map Prod.fst := by
  rw [unfolded_eq_travelled, Company.led, Task.result_map]

lemma state_unfolded (manager : Manager σ) (sink : Sink σ) (limit : Option Duration)
    (program : Program σ)
    (s₀ : σ) (moves : List (Company.Move σ)) :
    (unfolded manager sink limit program s₀ moves).state
      = (travelled manager sink limit program s₀ moves).state := by
  rw [unfolded_eq_travelled, Company.led]

/-- **Until its program begins** a limit makes no difference to a run. -/
theorem same_before (manager : Manager σ)
    (hbegin : ∀ hand, (manager.handedOut hand).begin.run.result? = none) (sink : Sink σ)
    (limit : Option Duration) (program : Program σ) (s₀ : σ) (moves : List (Company.Move σ)) :
    (∃ hand early middle late, moves = early ++ middle ++ late ∧ Begins manager s₀ hand
      early middle)
      ∨ (travelled manager sink limit program s₀ moves).state
        = (travelled manager sink none program s₀ moves).state
        ∧ (travelled manager sink limit program s₀ moves).front.result?
          = (travelled manager sink none program s₀ moves).front.result? := by
  rcases grabbing_splits manager s₀ moves with hnone | ⟨early, late, grabbed, rfl, huntil⟩
  · refine .inr ?_
    simp only [travelled, milestones_eq_grab, play_of_wait _ hnone, Company.led,
      Task.result_bind _ hnone, and_self]
  rcases grabbed with fault | hand
  · refine .inr ?_
    rw [travelled_of_until sink limit program huntil, travelled_of_until sink none program huntil]
    exact ⟨rfl, rfl⟩
  rcases Company.splits_at_end (c := asking manager s₀ hand early) (hbegin hand)
    (.front :: late) with
    hnone | ⟨until', after, opened, hmoves, hends⟩
  · refine .inr ?_
    rw [travelled_of_hand sink limit program huntil, travelled_of_hand sink none program huntil,
      Company.followed_play _ hnone, Company.followed_play _ hnone,
        Company.result_followed _ _ hnone,
      Company.result_followed _ _ hnone]
    exact ⟨rfl, rfl⟩
  obtain ⟨middle, rfl⟩ : ∃ middle, until' = .front :: middle := by
    obtain ⟨-, before, rfl, -⟩ := hends
    cases before with
    | nil => exact ⟨[], rfl⟩
    | cons first before =>
      exact ⟨before ++ [.front], by rw [List.cons_append, (List.cons.inj hmoves).1]⟩
  obtain rfl : late = middle ++ after := (List.cons.inj hmoves).2
  rcases opened with fault | ⟨⟨⟩⟩
  · refine .inr ?_
    rw [← List.append_assoc, travelled_of_answer sink limit program huntil hends,
      travelled_of_answer sink none program huntil hends]
    exact ⟨rfl, rfl⟩
  · exact .inl ⟨hand, early, middle, after, (List.append_assoc ..).symm, huntil, hends⟩

/-! ## What may happen in each phase -/

variable {may : σ → Company.Move σ → Prop}

/-- **What may happen to a run with a limit** may happen while it looks for a lease, while it asks
for a transaction, and while its program goes on. -/
theorem Begins.heeds (hown : ∀ s, may s .front) (h : Begins manager s₀ hand early middle)
    {d : Duration}
    (hheeds : Company.Heeds manager.pool.perform may
      (Company.opening (runWith manager sink (some d) program).run s₀) (early ++ middle ++ late)) :
    Company.Heeds manager.pool.perform may (asking manager s₀ hand early) (.front :: middle)
      ∧ Company.Heeds manager.pool.perform may
        (((phase manager program s₀ hand early middle).limited d.ceilMillis).followed
          (manager.handedOut hand).drop fun ending =>
            (ensuing (manager.handedOut hand) sink (cutShort d ending)).holding
              (manager.handedOut hand).drop)
        (.front :: late) := by
  -- What is recorded of the run goes as the run does.
  have hrecorded : Company.Heeds manager.pool.perform may
      (Company.opening (milestones manager sink (some d) program) s₀)
        (early ++ (middle ++ late)) := by
    rw [runWith_eq_milestones, List.append_assoc] at hheeds
    have hmap := Company.play_opening_map manager.pool.perform Prod.fst
      (milestones manager sink (some d) program) s₀ []
    rw [show Company.opening ((milestones manager sink (some d) program).bind fun told =>
      .done told.1) s₀ = _
      from hmap] at hheeds
    exact (Company.heeds_map Prod.fst).mp hheeds
  have hlate := (Company.heeds_append.mp hrecorded).2
  rw [milestones_eq_grab, play_of_until _ h.grabbed, journey_ok] at hlate
  have hasking : Company.Heeds manager.pool.perform may
      ((asking manager s₀ hand early).followed (manager.handedOut hand).drop fun opened =>
        (answered (manager.handedOut hand) sink (some d) program opened).holding
          (manager.handedOut hand).drop)
      (.front :: middle ++ late) := ⟨hown _, hlate⟩
  obtain ⟨hmiddle, -, hrest⟩ := h.begun.heeds hown hasking
  refine ⟨hmiddle, hown _, ?_⟩
  let follows (ending : Option Walk.Ending) : Task σ (Except Fault Value × List Milestone) :=
    ensuing (manager.handedOut hand) sink (cutShort d ending)
  let start := phase manager program s₀ hand early middle
  have hlimited : (start.led (((start.front.within d.ceilMillis).bind follows).holding
        (manager.handedOut hand).drop)).take manager.pool.perform .front
      = ((start.limited d.ceilMillis).followed (manager.handedOut hand).drop fun ending =>
        (follows ending).holding (manager.handedOut hand).drop).take manager.pool.perform .front :=
    Company.limited_followed manager.pool.perform d.ceilMillis _ follows start []
  rw [answered_some] at hrest
  exact hlimited ▸ hrest

end Run

end Transactional
