import Transactional.Proofs.Limit.InTime
import Transactional.Proofs.Limit.Undoing

/-!
# When the time of a run is up

The program of a run is given up where it would have waited, and what is left is to undo what has
been begun.  What is known of the lease while the program goes on says what becomes of it then.

* `Run.Begins.attended`, `Run.Begins.lodged` — how the lease stands while the program goes on, and
  its books.
* `Run.GivesUp` — the turn in which a run is given up; **`Run.Begins.out_of_time`** says that there
  is one.
* `Run.GivesUp.travelled_eq` — from then on nothing is left of its program.
* **`Run.GivesUp.promptly`**, **`Run.GivesUp.undone`** — it ends promptly, and its transaction has
  been undone then.
* `Run.Spent`, **`Run.Begins.spent`** — what has become of a run whose time was up.
-/

namespace Transactional

/-! ## What happens peacefully -/

variable {base number ticket deadline : Nat} {s s' t t' : World} {α : Type}

/-- **What leaves a lease alone** does so whatever the tickets. -/
lemma World.Undisturbed.across (h : World.Undisturbed base number s t)
    (hs : World.Ahead ticket s s')
    (ht : World.Ahead ticket t t') : World.Undisturbed base number s' t' := by
  have hcalls : ∀ {s s' : World}, World.Ahead ticket s s' → s.callsOn base = s'.callsOn base :=
    fun h => h.same (fun s => s.callsOn base) fun _ _ => rfl
  have hlink : ∀ {s s' : World}, World.Ahead ticket s s' → (Memory.link base).get s
    = (Memory.link base).get s' :=
    fun h => h.same (Memory.link base).get fun _ _ => rfl
  have hlease : ∀ {s s' : World}, World.Ahead ticket s s' →
      (LeaseHost.leases number).get s = (LeaseHost.leases number).get s' :=
    fun h => h.same (LeaseHost.leases number).get fun _ _ => rfl
  have hdue : ∀ {s s' : World} (job : Job), World.Ahead ticket s s' →
      ((∃ n, Company.Due n job s) ↔ ∃ n, Company.Due n job s') := by
    intro s s' job h
    have hstarts : (Host.schedule.get s).starts = (Host.schedule.get s').starts := h.schedule.starts
    simp only [Company.due_iff, hstarts]
  refine ⟨⟨?_, ?_, ?_, ?_, ?_, ?_, fun job hjob => ?_⟩, ?_⟩
  · rw [← hcalls hs, ← hcalls ht, h.calls]
  · rw [← hlink hs, ← hlink ht]
    exact h.status
  · rw [← hlink hs, ← hlink ht, h.alive]
  · rw [← hlease hs, ← hlease ht, h.lease]
  · rw [← hs.same (fun s => s.backend.linkCount) fun _ _ => rfl,
      ← ht.same (fun s => s.backend.linkCount) fun _ _ => rfl]
    exact h.linkCount
  · rw [← hs.same World.leaseCount fun _ _ => rfl, ← ht.same World.leaseCount fun _ _ => rfl]
    exact h.leaseCount
  · rw [← hdue job hs, ← hdue job ht, h.due job hjob]
  · rw [← hlink hs, ← hlink ht, h.link]

/-- **What happens peacefully to a task with a limit** happens peacefully to the same task without
one. -/
lemma Company.Abreast.peaceful {clock : Nat} {q : Company World (Option α)} {p : Company World α}
    (h : Abreast ticket (Racing ticket (Task.timer clock deadline)) q p) {moves : List (Move World)}
    (hmoves : ∀ move ∈ moves, move.Blind (World.Ahead ticket))
    (htime : InTime Memory.pool.perform deadline p moves)
    (hnone : (p.play Memory.pool.perform moves).front.result? = none)
    (hheeds : Heeds Memory.pool.perform (Run.Peaceful base number) q moves) :
    Heeds Memory.pool.perform (Run.Peaceful base number) p moves := by
  induction moves generalizing q p with
  | nil => trivial
  | cons move rest ih =>
    have hblind := hmoves move List.mem_cons_self
    have hnext := h.waiting_take hblind htime (result_of_play hnone)
    refine ⟨?_, ih hnext (fun m hm => hmoves m (List.mem_cons_of_mem _ hm)) htime.tail
      hnone hheeds.2⟩
    cases move with
    | front | beside => trivial
    | start n job => exact hheeds.1
    | around change => exact World.Undisturbed.across hheeds.1 h.state (hblind h.state)

/-- **Where somebody who has the lease waits**, the books are the same when he has left word, and
when he has been given up. -/
lemma Run.Lodged.waits {permit : Bool} {P : Mirror → Prop} {ends : α → Lodging → Prop}
    {c : Company World α}
    {on : Wait World} {next : Task World α} (h : Run.Lodged permit base number P ends c)
    (hreach : c.front.reach c.state = (.wait on next, s)) (self : TaskId) :
    ∃ m : Mirror, (lending permit base number).knows m.stage (on.register self s)
      ∧ (lending permit base number).knows m.stage (on.abandon s) := by
  obtain ⟨x, -, hs, hobeys⟩ := h.front
  obtain ⟨y, hy, hknows, -⟩ := hobeys.reach (R := fun _ _ _ _ => True) (fun _ _ => trivial)
    (fun _ _ => trivial) (fun _ hmay => ⟨hmay, trivial⟩) hs
  rw [hreach] at hy hknows
  obtain ⟨-, ⟨⟨m, hm, -⟩, hkept⟩, hregister, -⟩ := hy
  exact ⟨m, hm ▸ Lodges.lent (hregister self s hknows), hm ▸ Lodges.lent (hkept s hknows)⟩

lemma lending_timewise {P : Schedule → Schedule → Prop} {permit : Bool}
    {y : LeaseState × Possession}
    (h : World.Timewise P s s') (hs : (lending permit base number).knows y s') :
    (lending permit base number).knows y s :=
  ⟨(h.same (fun s => ((LeaseHost.leases number).get s).plain) fun _ _ => rfl).trans hs.1,
    (h.same (fun s => ((Memory.link base).get s).plain) fun _ _ => rfl).trans hs.2.link,
    (h.same (fun s => s.callsOn base) fun _ _ => rfl).trans hs.2.calls⟩

namespace Run

variable {manager : Manager World} {sink : Sink World} {program : Program World} {d : Duration}
  {s₀ : World}
  {early middle late : List (Company.Move World)}

/-! ## What is known of the program of a run -/

/-- **How the lease stands** while the program of a run goes on, with a limit. -/
lemma Begins.attended (hmanager : manager.Scripted)
    (hfutures : program.Lifts fun task => task.Respects (World.Has base number)
      (World.Spared base number))
    (hundue : Undue base number s₀) (h : Begins manager s₀ (base, number) early middle)
    (hheeds : Company.Heeds manager.pool.perform (Considerate base number)
      (Company.opening (runWith manager sink (some d) program).run s₀) (early ++ middle ++ late)) :
    Attended atRest (· = .calm) base number
      ((phase manager program s₀ (base, number) early middle).limited d.ceilMillis) := by
  have hplain : manager.Plain base number (World.Spared base number) := by
    refine ⟨hmanager.pool, hmanager.wrapping.imp_right ?_⟩
    rintro ⟨log, hsome⟩
    exact ⟨log.write, hsome, fun line s _ => (log.undisturbed line s).toSpared⟩
  have hcalm := handedOut_calm hplain
  obtain ⟨hasking, -⟩ := h.heeds (fun _ => trivial) hheeds
  have hbegun := h.begun
  rw [hmanager.pool] at hasking hheeds hbegun
  obtain ⟨hstood, -, hnobody⟩ := fresh_of_until hmanager.pool (fun _ => trivial)
    (fun h => h.take) hundue
    (by rwa [List.append_assoc] at hheeds) h.grabbed
  have hstart : Attended atRest (· = .calm) base number
    (asking manager s₀ (base, number) early) := by
    refine ⟨⟨.calm, .inl rfl, hstood, turnwise_of_swift hcalm.begin⟩, fun strand hstrand => ?_⟩
    rw [asking, Company.led, hnobody] at hstrand
    cases hstrand
  have hcome := hstart.play (fun _ _ => id) (fun _ => .inl) hasking
  obtain ⟨x, -, hs, hobeys⟩ := hcome.front
  rw [hbegun.1] at hobeys
  obtain rfl : x = .calm := hobeys
  have hbody : ((program.runOn (manager.handedOut (base, number))).Obeys (turnwise base number)
      (Company.Leaves (turnwise base number) (· = .calm)) (fun _ y => y = .calm) .calm) := by
    rw [program.runOn_eq_result, program.result_eq_account]
    refine Task.Obeys.bind (hcalm.stays.account program (fun _ _ => trivial)
      (hfutures.imp ?_) _ rfl) ?_
    · exact fun task htask => Task.Stays.of_respects htask (fun _ _ _ hs => hs.has)
        (fun _ _ _ _ hs h => hs.spared h) fun _ _ hx _ => .inl hx
    · rintro _ _ ⟨rfl, -⟩
      rfl
  rw [← hmanager.pool] at hs hcome
  refine ⟨⟨.calm, .inl rfl, hs.schedule fun c => { c with nextTicket := c.nextTicket + 1 }, ?_⟩,
    hcome.beside⟩
  refine (hbody.raced turnwise_timeless _ _).mono (fun _ _ _ => trivial) ?_
  rintro (_ | a) y ⟨hsome, hnone⟩
  · exact hnone rfl
  · exact hsome a rfl

/-- **What is known of the lease and of its connection** while the program of a run goes on, with a
limit and without. -/
lemma Begins.lodged (hmanager : manager.Scripted)
    (hfutures : program.Lifts fun task =>
      task.Respects (World.Has base number) (World.Undisturbed base number))
    (hundue : Undue base number s₀) (h : Begins manager s₀ (base, number) early middle)
    (hheeds : Company.Heeds manager.pool.perform (Peaceful base number)
      (Company.opening (runWith manager sink (some d) program).run s₀) (early ++ middle ++ late)) :
    Lodged true base number Mirror.Open (fun _ y => ∃ m : Mirror, y.2 = m.stage ∧ m.Open)
        ((phase manager program s₀ (base, number) early middle).limited d.ceilMillis)
      ∧ Lodged true base number Mirror.Open (fun _ y => ∃ m : Mirror, y = m.lodging ∧ m.Open)
        (phase manager program s₀ (base, number) early middle) := by
  have L : Lodger true base number (manager.handedOut (base, number)) := handedOut_lodger hmanager
  obtain ⟨hasking, -⟩ := h.heeds (fun _ => trivial) hheeds
  have hbegun := h.begun
  rw [hmanager.pool] at hasking hheeds hbegun
  obtain ⟨hstood, hfresh, hnobody⟩ :=
    fresh_of_until hmanager.pool (fun _ => trivial) (fun h => h.peaceful) hundue
    (by rwa [List.append_assoc] at hheeds) h.grabbed
  let m : Mirror := World.opening base 1 (grabbing manager s₀ early).state
  let answers (r : Except Fault Unit) (y : Lodging) : Prop :=
    ∃ m : Mirror, y = m.lodging ∧ (r = .ok () → m.Open)
  have hstart : Lodged true base number (fun _ => True) answers
    (asking manager s₀ (base, number) early) := by
    refine ⟨⟨m.lodging, ⟨m, rfl⟩, hfresh.lodges hstood, L.begin m⟩, fun strand hstrand => ?_⟩
    rw [asking, Company.led, hnobody] at hstrand
    cases hstrand
  have hbooks : ∀ r y, answers r y → ∃ m : Mirror, y.2 = m.stage := by
    rintro _ _ ⟨m, rfl, -⟩
    exact ⟨m, rfl⟩
  have hcome := hstart.play hbooks hasking
  obtain ⟨x, -, hs, hobeys⟩ := hcome.front
  rw [hbegun.1] at hobeys
  obtain ⟨m', rfl, hopen⟩ : answers (.ok ()) x := hobeys
  have hopen := hopen rfl
  rw [← hmanager.pool] at hs hcome
  refine ⟨⟨⟨m'.lodging, ⟨m', rfl⟩, ?_, L.raced hfutures hopen _ _⟩, hcome.beside⟩,
    ⟨⟨m'.lodging, ⟨m', rfl⟩, hs, L.runOn hfutures hopen⟩, hcome.beside⟩⟩
  exact hs.undisturbed (.takeTicket _)

/-! ## When its time is up -/

/-- **A run whose connection does not end**: nobody has heard of its lease before, the futures of
its program leave the lease and its connection alone, and so does everybody else, apart from those
who look after the lease. -/
structure Sheltered (base number : Nat) (manager : Manager World) (sink : Sink World)
    (limit : Option Duration)
    (program : Program World) (s₀ : World) (moves : List (Company.Move World)) : Prop where
  futures : program.Lifts fun task => task.Respects (World.Has base number)
    (World.Undisturbed base number)
  undue : Undue base number s₀
  heeds : Company.Heeds manager.pool.perform (Peaceful base number)
    (Company.opening (runWith manager sink limit program).run s₀) moves

/-- **A run whose program has been given up**: nothing is left but to undo what has been begun. -/
def givenUp (manager : Manager World) (hand : Nat × Nat) (d : Duration) (cut : World)
    (beside : List (Strand World)) :
    Company World (Except Fault Value) :=
  ⟨Task.spend cut, Task.holding (manager.handedOut hand).drop
    (undo (manager.handedOut hand) (.timeout d)), beside⟩

def abandoned (manager : Manager World) (hand : Nat × Nat) (d : Duration) (cut : World)
    (beside : List (Strand World)) : Company World (Except Fault Value × List Milestone) :=
  ⟨Task.spend cut, Task.holding (manager.handedOut hand).drop
    (undoing (manager.handedOut hand) (.timeout d)
    [.checkedOut (.ok ()), .begun (.ok ()), .performed (.error (.timeout d))]), beside⟩

lemma givenUp_eq_abandoned (manager : Manager World) (hand : Nat × Nat) (d : Duration) (cut : World)
    (beside : List (Strand World)) :
    givenUp manager hand d cut beside
      = (abandoned manager hand d cut beside).led
        ((abandoned manager hand d cut beside).front.bind fun told => .done told.1) := by
  rw [givenUp, undo_eq_undoing _ _ [.checkedOut (.ok ()), .begun (.ok ()),
    .performed (.error (.timeout d))],
    Task.holding_map]
  rfl

/-- **What has become of a run whose time was up** in the last turn of `moves`, when its program
would have waited for `on` at `s`; afterwards `after` has happened. -/
structure Spent (manager : Manager World) (sink : Sink World) (d : Duration)
    (program : Program World) (s₀ : World)
    (moves after : List (Company.Move World)) (base number ticket : Nat) (on : Wait World)
    (s cut : World)
    (beside : List (Strand World)) : Prop where
  without : (unfolded manager sink none program s₀ moves).front.result? = none
    ∧ (unfolded manager sink none program s₀ moves).state = on.register Company.frontTask s
  /-- With the limit it came to the same point, and gave up its wait. -/
  same : World.Ahead ticket cut (on.abandon s)
  /-- From then on nothing was left of its program, and nothing for those who receive events. -/
  rest : unfolded manager sink (some d) program s₀ (moves ++ after)
    = (givenUp manager (base, number) d cut beside).play manager.pool.perform (.front :: after)
  outcome : ∀ outcome, (unfolded manager sink (some d) program s₀ (moves ++ after)).front
    = .done outcome →
    outcome = .error (.timeout d)
  /-- It does so in the first turn in which enough is left, which may be this one. -/
  promptly : Secluded base number manager sink (some d) program s₀ (moves ++ after) →
    ∀ soon later, .front :: after = soon ++ .front :: later →
      2 < ((givenUp manager (base, number) d cut beside).play manager.pool.perform
        soon).state.schedule.allowance →
        (unfolded manager sink (some d) program s₀ (moves ++ after)).front
          = .done (.error (.timeout d))
  /-- By then its transaction has been undone, and its connection has been given back once; what the
  connection has seen before is what it would have seen without the limit. -/
  cutOff : Sheltered base number manager sink (some d) program s₀ (moves ++ after) →
    ∀ outcome, (unfolded manager sink (some d) program s₀ (moves ++ after)).front = .done outcome →
      ∃ rolled, (travelled manager sink (some d) program s₀ (moves ++ after)).front
          = .done (.error (.timeout d), [.checkedOut (.ok ()), .begun (.ok ()),
            .performed (.error (.timeout d)), .rolledBack rolled, .closed])
        ∧ CutOff base number rolled (unfolded manager sink none program s₀ moves).state
          (unfolded manager sink (some d) program s₀ (moves ++ after)).state
        ∧ (givenUp manager (base, number) d cut beside).returns manager.pool.perform
          (.front :: after) = 1

/-- **A run is given up** in a turn in which its program would have waited for `on` at `s`. -/
structure GivesUp (manager : Manager World) (program : Program World) (d : Duration) (s₀ : World)
    (hand : Nat × Nat)
    (early middle before : List (Company.Move World)) (on : Wait World) (s cut : World)
    (beside : List (Strand World)) : Prop where
  same : World.Ahead (phase manager program s₀ hand early middle).state.schedule.nextTicket cut
    (on.abandon s)
  until_then : (((phase manager program s₀ hand early middle).limited d.ceilMillis).play
    manager.pool.perform
    before).front.result? = none
  reach :
    let c := ((phase manager program s₀ hand early middle).limited d.ceilMillis).play
      manager.pool.perform before
    c.front.reach c.state = (.done none, Task.spend cut)
  beside : (((phase manager program s₀ hand early middle).limited d.ceilMillis).play
    manager.pool.perform
    before).beside = beside

section

variable {hand : Nat × Nat} (hbegins : Begins manager s₀ hand early middle) (d : Duration)
  {before after : List (Company.Move World)} {on : Wait World} {s cut : World}
    {beside : List (Strand World)}
  (hsplit : .front :: late = before ++ .front :: after)

include hbegins

/-- **The turn in which the time of a run is up**: its program is given up where it would have
waited. -/
theorem Begins.out_of_time (h : Oblivious manager sink program)
    (hmoves : ∀ ticket, ∀ move ∈ before, move.Blind (World.Ahead ticket)) :
    let start := phase manager program s₀ hand early middle
    start.state.schedule.Drawn →
    Company.Expires manager.pool.perform (start.state.schedule.now + d.ceilMillis) start
      before on s →
      ∃ cut beside, GivesUp manager program d s₀ hand early middle before on s cut beside := by
  intro start hdrawn hexpires
  obtain ⟨pool, closed, wrapping⟩ := manager
  obtain rfl : pool = Memory.pool := h.scripted.pool
  obtain ⟨htime, ⟨next, hreach⟩, hlate⟩ := hexpires
  have hwaits := (Begins.abreast h hand d hdrawn).waiting (hmoves _) htime
    (Task.result_of_waits hreach)
  obtain ⟨cut, hcut, hreach'⟩ := hwaits.late_turn hreach hlate
  exact ⟨cut, _, hcut, hwaits.front.result, hreach', rfl⟩

namespace GivesUp

include hsplit

variable (hgives : GivesUp manager program d s₀ hand early middle before on s cut beside)

include hgives

/-- **From then on** there is nothing left but to undo what has been begun. -/
theorem travelled_eq (sink : Sink World) :
    travelled manager sink (some d) program s₀ (early ++ middle ++ late)
    = (abandoned manager hand d cut beside).play manager.pool.perform (.front :: after) := by
  obtain ⟨hends, hstate, hbeside⟩ := Company.Ends.of_reach hgives.until_then hgives.reach
  rw [travelled_of_limited sink d program hbegins, hsplit, List.append_cons, Company.play_append,
    hends.play_followed, Company.led, hstate, hbeside, hgives.beside]
  rfl

lemma unfolded_eq (sink : Sink World) :
    unfolded manager sink (some d) program s₀ (early ++ middle ++ late)
    = (givenUp manager hand d cut beside).play manager.pool.perform (.front :: after) := by
  rw [unfolded_eq_travelled, hgives.travelled_eq hbegins d hsplit, givenUp_eq_abandoned,
    Company.play_map]

/-- **What may happen to a run that is given up** may happen until then, and afterwards. -/
lemma heeds {may : World → Company.Move World → Prop} (hown : ∀ s, may s .front)
    (hheeds : Company.Heeds manager.pool.perform may
      (Company.opening (runWith manager sink (some d) program).run s₀) (early ++ middle ++ late)) :
    Company.Heeds manager.pool.perform may
      ((phase manager program s₀ hand early middle).limited d.ceilMillis) before
      ∧ Company.Heeds manager.pool.perform may (givenUp manager hand d cut beside)
        (.front :: after) := by
  obtain ⟨-, hlimited⟩ := hbegins.heeds hown hheeds
  obtain ⟨hends, hstate, hbeside⟩ := Company.Ends.of_reach hgives.until_then hgives.reach
  rw [hsplit, List.append_cons] at hlimited
  obtain ⟨hbefore, hafter⟩ := hends.heeds hown hlimited
  rw [Company.led, hstate, hbeside, hgives.beside] at hafter
  refine ⟨(Company.heeds_append.mp hbefore).1, ?_⟩
  rw [givenUp_eq_abandoned]
  exact (Company.heeds_map Prod.fst).mpr hafter

end GivesUp

end

namespace GivesUp

variable {base number : Nat} (hbegins : Begins manager s₀ (base, number) early middle)
  (d : Duration)
  {before after : List (Company.Move World)} {on : Wait World} {s cut : World}
    {beside : List (Strand World)}
  (hsplit : .front :: late = before ++ .front :: after)
  (hgives : GivesUp manager program d s₀ (base, number) early middle before on s cut beside)

include hbegins hsplit hgives

/-- **A run that has been given up ends promptly** if everybody leaves its lease alone. -/
theorem promptly (hmanager : manager.Scripted)
    (hsecluded : Secluded base number manager sink (some d) program s₀ (early ++ middle ++ late))
    {soon later : List (Company.Move World)} (hturn : .front :: after = soon ++ .front :: later)
    (hallowance : 2 < ((givenUp manager (base, number) d cut beside).play
      manager.pool.perform soon).state.schedule.allowance) :
    ((givenUp manager (base, number) d cut beside).play manager.pool.perform
      (.front :: after)).front
      = .done (.error (.timeout d)) := by
  obtain ⟨pool, closed, wrapping⟩ := manager
  obtain rfl : pool = Memory.pool := hmanager.pool
  obtain ⟨hbefore, hafter⟩ := hgives.heeds hbegins d hsplit (fun _ => trivial) hsecluded.heeds
  have hstart := Begins.attended hmanager hsecluded.futures hsecluded.undue hbegins hsecluded.heeds
  have hcutting := hstart.play (fun _ _ => id) (fun _ => .inl) hbefore
  obtain ⟨x, rfl, hs⟩ := hcutting.reach hgives.reach
  rw [hturn] at hafter ⊢
  exact undone_promptly (handedOut_calm hsecluded.plain) (handedOut_spends hmanager) (.timeout d) hs
    (hgives.beside ▸ hcutting.beside) (Company.heeds_append.mp hafter).1 hallowance

/-- **Its transaction has been undone then** if nothing ends its connection, and the connection has
seen of its program what it would have seen without the limit. -/
theorem undone (h : Oblivious manager sink program)
    (hsheltered : Sheltered base number manager sink (some d) program s₀ (early ++ middle ++ late))
    (hmoves : ∀ ticket, ∀ move ∈ before, move.Blind (World.Ahead ticket))
    {told : Except Fault Value × List Milestone}
    (hdone : ((abandoned manager (base, number) d cut beside).play manager.pool.perform
      (.front :: after)).front = .done told) :
    let start := phase manager program s₀ (base, number) early middle
    start.state.schedule.Drawn →
    Company.Expires manager.pool.perform (start.state.schedule.now + d.ceilMillis) start
      before on s →
      ∃ rolled, told = (.error (.timeout d), [.checkedOut (.ok ()), .begun (.ok ()),
            .performed (.error (.timeout d)), .rolledBack rolled, .closed])
        ∧ CutOff base number rolled (on.register Company.frontTask s)
          ((abandoned manager (base, number) d cut beside).play manager.pool.perform
            (.front :: after)).state
        ∧ (abandoned manager (base, number) d cut beside).returns manager.pool.perform
          (.front :: after) = 1 := by
  intro start hdrawn hexpires
  obtain ⟨pool, closed, wrapping⟩ := manager
  obtain rfl : pool = Memory.pool := h.scripted.pool
  obtain ⟨htime, ⟨next, hwaits⟩, -⟩ := hexpires
  obtain ⟨hlimited, hunlimited⟩ :=
    Begins.lodged h.scripted hsheltered.futures hsheltered.undue hbegins hsheltered.heeds
  obtain ⟨hbefore, hafter⟩ := hgives.heeds hbegins d hsplit (fun _ => trivial) hsheltered.heeds
  rw [givenUp_eq_abandoned, Company.heeds_map Prod.fst] at hafter
  -- Without the limit it has the lease where it waits, and the books are the same if it is given up
  -- there.
  have hpeaceful := (Begins.abreast h (base, number) d hdrawn).peaceful (hmoves _) htime
    (Task.result_of_waits hwaits) hbefore
  have hends : ∀ (a : Walk.Ending) (y : Lodging), (∃ m : Mirror, y = m.lodging ∧ m.Open) →
      ∃ m : Mirror, y.2 = m.stage := by
    rintro _ _ ⟨m, rfl, -⟩
    exact ⟨m, rfl⟩
  obtain ⟨m, hwait, hgone⟩ := (hunlimited.play hends hpeaceful).waits hwaits Company.frontTask
  -- With the limit it has the lease where it is given up.
  have hbooks : ∀ (r : Option Walk.Ending) (y : Lodging), (∃ m : Mirror, y.2 = m.stage ∧ m.Open) →
      ∃ m : Mirror, y.2 = m.stage := by
    rintro _ _ ⟨m, hm, -⟩
    exact ⟨m, hm⟩
  have hcutting := hlimited.play hbooks hbefore
  obtain ⟨x, ⟨m', hx, hopen⟩, hs⟩ := hcutting.reach hgives.reach
  obtain ⟨rolled, htold, hseen, hreturns⟩ :=
    cutOff_of_undone (handedOut_lodger h.scripted) hs hx hopen
    (hgives.beside ▸ hcutting.beside) hafter hdone
  exact ⟨rolled, htold, hseen.of_spend.since (lending_timewise hgives.same hgone) hwait, hreturns⟩

end GivesUp

/-- **What becomes of a run whose time is up.** -/
theorem Begins.spent (h : Oblivious manager sink program) {base number : Nat}
    (hbegins : Begins manager s₀ (base, number) early middle) (d : Duration)
    {before taken after : List (Company.Move World)} {on : Wait World} {s : World}
    (htaken : .front :: taken = before ++ [.front])
    (hmoves : ∀ ticket, ∀ move ∈ before, move.Blind (World.Ahead ticket)) :
    let start := phase manager program s₀ (base, number) early middle
    start.state.schedule.Drawn →
    Company.Expires manager.pool.perform (start.state.schedule.now + d.ceilMillis) start
      before on s →
      ∃ cut beside, Spent manager sink d program s₀ (early ++ middle ++ taken) after base number
        start.state.schedule.nextTicket on s cut beside := by
  intro start hdrawn hexpires
  have hsplit : .front :: (taken ++ after) = before ++ .front :: after := by
    rw [← List.cons_append, htaken, List.append_assoc]
    rfl
  obtain ⟨next, hwaits⟩ := hexpires.waits
  obtain ⟨cut, beside, hgives⟩ := hbegins.out_of_time d h hmoves hdrawn hexpires
  have hwithout : (unfolded manager sink none program s₀ (early ++ middle ++ taken)).front.result?
    = none
      ∧ (unfolded manager sink none program s₀ (early ++ middle ++ taken)).state
        = on.register Company.frontTask s := by
    obtain ⟨hnone, hstate⟩ := travelled_of_wait sink program hbegins htaken hwaits
    rw [result_unfolded, state_unfolded, hnone]
    exact ⟨rfl, hstate⟩
  have hrest := hgives.unfolded_eq hbegins d hsplit sink
  have htravelled := hgives.travelled_eq hbegins d hsplit sink
  rw [← List.append_assoc] at hrest htravelled
  refine ⟨cut, beside, hwithout, hgives.same, hrest, fun outcome hover => ?_,
    fun hsecluded soon later hturn hallowance => ?_, fun hsheltered outcome hover => ?_⟩
  · have hends : ((givenUp manager (base, number) d cut beside).play manager.pool.perform
      (.front :: after)).front.Gives
        (· = .error (.timeout d)) := Company.gives_play (undo_gives _ (.timeout d)) _
    rw [← hrest, hover] at hends
    exact hends
  · rw [hrest]
    rw [List.append_assoc] at hsecluded
    exact hgives.promptly hbegins d hsplit h.scripted hsecluded hturn hallowance
  · obtain ⟨path, hdone, hstate⟩ := travelled_of_unfolded manager sink (some d) program s₀ _ hover
    rw [htravelled] at hdone
    rw [List.append_assoc] at hsheltered
    obtain ⟨rolled, htold, hseen, hreturns⟩ :=
      hgives.undone hbegins d hsplit h hsheltered hmoves hdone hdrawn hexpires
    refine ⟨rolled, ?_, ?_, ?_⟩
    · rw [htravelled, hdone, htold]
    · rw [← hstate, htravelled, hwithout.2]
      exact hseen
    · rw [givenUp_eq_abandoned, Company.returns_map]
      exact hreturns

end Run

end Transactional
