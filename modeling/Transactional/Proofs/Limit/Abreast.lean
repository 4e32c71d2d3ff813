import Transactional.Proofs.Limit.Budget
import Transactional.Proofs.Task.Reach

/-!
# Keeping abreast

Two companies to which the same happens keep abreast, though one of them has drawn one more ticket;
and so does a task with a limit with the same task without one, until the task has come to its end
or the time is up.

* `Company.Level` — tasks beside the two companies that go alike and draw no tickets.
* `Company.Abreast` — two companies that are abreast; `Company.Abreast.play` says that they stay so.
* `Company.Racing`, `Company.InTime` — a task with a limit in front, and moves in which its time is
  not up.
* **`Company.Abreast.race`** — a task with a limit, and what follows it, keeps abreast as long as it
  is in time.
* **`Company.Abreast.late_turn`** — what happens in the turn in which its time is up.
-/

namespace Transactional

namespace Company

/-- **Two tasks beside others** that go alike on worlds that differ in their tickets, and draw none.
-/
structure Level (strand strand' : Strand World) : Prop where
  alike : strand.task.Mirrors World.Akin Eq strand'.task
  spends : ∃ n, strand.task.SpendsAtMost n
  spends' : ∃ n, strand'.task.SpendsAtMost n

variable {strand strand' : Strand World} {s s' : World} {ticket : Nat}

lemma tickets_poll {task : Task World Unit} {n : Nat} (self : TaskId)
    (h : task.SpendsAtMost n) (s : World) :
    (∃ m, (task.poll self s).1.SpendsAtMost m)
      ∧ (task.poll self s).2.schedule.tickets = s.schedule.tickets := by
  have hnext : ∀ {p s q s'}, budget.knows p s → budget.may p s q s' →
      budget.knows q s' ∧ s'.schedule.tickets = s.schedule.tickets :=
        fun _ hmay => ⟨trivial, hmay.1⟩
  obtain ⟨m, hm, -, hsame⟩ := h.poll (R := fun s s' : World => s'.schedule.tickets
    = s.schedule.tickets)
    (fun _ => rfl) (fun h h' => h'.trans h) hnext self (s := s) trivial
  exact ⟨⟨m, hm⟩, hsame⟩

namespace Level

lemma job (job : Job) : Level ⟨Memory.pool.perform job, false⟩
    ⟨Memory.pool.perform job, false⟩ := by
  obtain ⟨n, hn⟩ := Memory.perform_spends job
  have hn : (Memory.pool.perform job : Task World Unit).SpendsAtMost n :=
    hn.imp fun _ _ _ => trivial
  exact ⟨Memory.perform_blind (World.timewise_alike Schedule.Akin.coarse).near job,
    ⟨n, hn⟩, ⟨n, hn⟩⟩

lemma poll (h : Level strand strand') (self : TaskId) (hs : World.Akin s s') :
    Level { strand with task := (strand.task.poll self s).1 }
      { strand' with task := (strand'.task.poll self s').1 }
      ∧ World.Akin (strand.task.poll self s).2 (strand'.task.poll self s').2 := by
  obtain ⟨⟨n, hn⟩, ⟨n', hn'⟩⟩ := h.spends, h.spends'
  obtain ⟨halike, hakin⟩ := h.alike.poll self hs
  exact ⟨⟨halike, (tickets_poll self hn s).1, (tickets_poll self hn' s').1⟩, hakin⟩

lemma ahead_poll (h : Level strand strand') (self : TaskId) (hs : World.Ahead ticket s s') :
    World.Ahead ticket (strand.task.poll self s).2 (strand'.task.poll self s').2 := by
  obtain ⟨⟨n, hn⟩, ⟨n', hn'⟩⟩ := h.spends, h.spends'
  obtain ⟨-, hakin⟩ := h.poll self (⟨hs.schedule.toAkin, hs.rest⟩ : World.Akin s s')
  have hsame := (tickets_poll self hn s).2
  have hsame' := (tickets_poll self hn' s').2
  exact ⟨hs.schedule.change hakin.schedule ⟨congrArg Prod.fst hsame, congrArg Prod.snd hsame⟩
    ⟨congrArg Prod.fst hsame', congrArg Prod.snd hsame'⟩, hakin.rest⟩

end Level

variable {α β : Type}

/-- **Whoever is beside a company draws no tickets.** -/
def Ticketless (c : Company World α) : Prop :=
  List.Forall₂ Level c.beside c.beside

lemma Ticketless.play {c : Company World α} (h : c.Ticketless) (moves : List (Move World)) :
    (c.play Memory.pool.perform moves).Ticketless := by
  induction moves generalizing c with
  | nil => exact h
  | cons move rest ih =>
    refine ih (c := c.take Memory.pool.perform move) ?_
    cases move with
    | front | around => exact h
    | beside place self =>
      have hfound := agree_of_forall₂ h place
      simp only [Company.take]
      cases hplace : c.beside[place]? with
      | none => exact h
      | some strand =>
        rw [hplace] at hfound
        exact forall₂_set h (Level.poll hfound self (World.akin_refl _)).1 place
    | start number job =>
      simp only [Company.take]
      split
      · exact forall₂_concat h (.job job)
      · exact h

/-- **Two companies that are abreast**: in the first one more ticket has been drawn, and `X` holds
of the two in front. -/
structure Abreast (ticket : Nat) (X : Task World α → Task World β → Prop) (c : Company World α)
    (c' : Company World β) : Prop where
  state : World.Ahead ticket c.state c'.state
  front : X c.front c'.front
  beside : List.Forall₂ Level c.beside c'.beside

namespace Abreast

variable {X : Task World α → Task World β → Prop} {c : Company World α} {c' : Company World β}

/-- Both of those in front have come to the same end, or neither has come to any. -/
lemma outcome {c c' : Company World α}
    (h : Abreast ticket (Task.Mirrors (World.Ahead ticket) Eq) c c')
    (hrest : c.front.Rests) : c.front.result? = c'.front.result? := by
  have hagree := h.front.result fun update next heq => by simp [heq, Task.Rests] at hrest
  revert hagree
  cases c.front.result? <;> cases c'.front.result? <;> simp [Task.Agree]

lemma aside (h : Abreast ticket X c c') {move : Move World}
    (hmove : move.Blind (World.Ahead ticket))
    (hne : move ≠ .front) :
    Abreast ticket X (c.take Memory.pool.perform move) (c'.take Memory.pool.perform move) := by
  cases move with
  | front => exact absurd rfl hne
  | beside place self =>
    have hfound := agree_of_forall₂ h.beside place
    simp only [Company.take]
    cases hleft : c.beside[place]? <;> cases hright : c'.beside[place]? <;>
      rw [hleft, hright] at hfound
    case none.none => exact h
    case none.some | some.none => exact hfound.elim
    case some.some strand strand' =>
      have hakin : World.Akin c.state c'.state := ⟨h.state.schedule.toAkin, h.state.rest⟩
      exact ⟨Level.ahead_poll hfound self h.state, h.front,
        forall₂_set h.beside (Level.poll hfound self hakin).1 place⟩
  | start number job =>
    have hstarts : (Host.schedule.get c.state).starts = (Host.schedule.get c'.state).starts :=
      h.state.schedule.starts
    have hdue : Turn.start number job ∈ (Host.schedule.get c.state).ready
        ↔ Turn.start number job ∈ (Host.schedule.get c'.state).ready :=
      due_iff.trans (hstarts ▸ due_iff.symm)
    let takeOff : Schedule → Schedule :=
      fun c => { c with ready := c.ready.erase (.start number job) }
    simp only [Company.take, hdue]
    split
    · exact ⟨h.state.reschedule (f := takeOff) (g := takeOff) fun hs => hs.erase number
        job, h.front,
        forall₂_concat h.beside (.job job)⟩
    · exact h
  | around change => exact ⟨hmove h.state, h.front, h.beside⟩

/-- **Companies that go alike stay abreast.** -/
theorem play {S : α → β → Prop} (h : Abreast ticket (Task.Mirrors (World.Ahead ticket) S) c c')
    {moves : List (Move World)} (hmoves : ∀ move ∈ moves, move.Blind (World.Ahead ticket)) :
    Abreast ticket (Task.Mirrors (World.Ahead ticket) S) (c.play Memory.pool.perform moves)
      (c'.play Memory.pool.perform moves) := by
  induction moves generalizing c c' with
  | nil => exact h
  | cons move rest ih =>
    refine ih ?_ fun m hm => hmoves m (List.mem_cons_of_mem _ hm)
    by_cases hmove : move = .front
    · subst hmove
      have hpoll := h.front.poll frontTask h.state
      exact ⟨hpoll.2, hpoll.1, h.beside⟩
    · exact h.aside (hmoves move List.mem_cons_self) hmove

end Abreast

/-! ## Tasks with a limit -/

/-- **A task with a limit is in front.** -/
def Racing (ticket : Nat) (clock : Wait World) (front : Task World (Option α))
    (task : Task World α) : Prop :=
  ∃ task' : Task World α, task'.Mirrors (World.Ahead ticket) Eq task ∧ front = task'.race clock

/-- Whoever has a limit has no result before its time is up, and none before that of the task. -/
lemma Racing.result {clock : Wait World} {front : Task World (Option α)} {task : Task World α}
    (h : Racing ticket clock front task) : front.result? = none := by
  obtain ⟨task', -, rfl⟩ := h
  cases task' <;> rfl

/-- **The time of the task in front is not up**: whenever it has to wait in a turn of its own, it is
before the deadline. -/
def InTime [Host σ] (jobs : Job → Task σ Unit) (deadline : Nat) (c : Company σ α)
    (moves : List (Move σ)) :
    Prop :=
  ∀ early late, moves = early ++ .front :: late → ∀ on next s,
    (c.play jobs early).front.reach (c.play jobs early).state = (.wait on next, s) → Host.now s
      < deadline

/-- **The time of the task in front is up** where it waits for `on` at `s`: before it was not. -/
structure Expires [Host σ] (jobs : Job → Task σ Unit) (deadline : Nat) (c : Company σ α)
    (before : List (Move σ))
    (on : Wait σ) (s : σ) : Prop where
  inTime : InTime jobs deadline c before
  waits : ∃ next, (c.play jobs before).front.reach (c.play jobs before).state = (.wait on next, s)
  late : deadline ≤ Host.now s

/-- **Its time is never up, or there is a turn** in which it is up for the first time. -/
theorem inTime_or_expires [Host σ] (jobs : Job → Task σ Unit) (deadline : Nat) (c : Company σ α)
    (moves : List (Move σ)) :
    InTime jobs deadline c moves
      ∨ ∃ before after on s, moves = before ++ .front :: after ∧ Expires jobs deadline c before
        on s := by
  induction moves using List.reverseRecOn with
  | nil => exact .inl fun early late heq => by simp at heq
  | append_singleton moves move ih =>
    rcases ih with hin | ⟨before, after, on, s, rfl, hexpires⟩
    · by_cases hlate : move = .front ∧ ∃ on next s,
        (c.play jobs moves).front.reach (c.play jobs moves).state = (.wait on next, s) ∧ deadline
          ≤ Host.now s
      · obtain ⟨rfl, on, next, s, hreach, hlate⟩ := hlate
        exact .inr ⟨moves, [], on, s, rfl, hin, ⟨next, hreach⟩, hlate⟩
      · refine .inl fun early late heq on next s hreach => ?_
        rcases List.eq_nil_or_concat late with rfl | ⟨late, last, rfl⟩
        · obtain ⟨rfl, hlast⟩ := List.append_inj' heq rfl
          obtain rfl : move = .front := (List.cons.inj hlast).1
          exact Nat.lt_of_not_le fun hle => hlate ⟨rfl, on, next, s, hreach, hle⟩
        · have heq : moves ++ [move] = (early ++ .front :: late) ++ [last] := by simpa using heq
          exact hin early late (List.append_inj' heq rfl).1 on next s hreach
    · exact .inr ⟨before, after ++ [move], on, s, by simp, hexpires⟩

lemma InTime.nil [Host σ] (jobs : Job → Task σ Unit) (deadline : Nat) (c : Company σ α) :
    InTime jobs deadline c [] :=
  fun early late heq => by simp at heq

/-- It is in time in a turn of its own if it is where it comes to, and afterwards. -/
lemma InTime.turn [Host σ] {jobs : Job → Task σ Unit} {deadline : Nat} {c : Company σ α}
    {rest : List (Move σ)}
    (hnow : Host.now (c.front.reach c.state).2 < deadline)
    (h : InTime jobs deadline (c.take jobs .front) rest) :
    InTime jobs deadline c (.front :: rest) := by
  rintro (_ | ⟨first, early⟩) late heq on next s hreach
  · rwa [show c.front.reach c.state = (.wait on next, s) from hreach] at hnow
  · obtain ⟨rfl, hrest⟩ := List.cons.inj heq
    exact h early late hrest on next s hreach

lemma InTime.aside [Host σ] {jobs : Job → Task σ Unit} {deadline : Nat} {c : Company σ α}
    {move : Move σ}
    {rest : List (Move σ)} (hmove : move ≠ .front)
    (h : InTime jobs deadline (c.take jobs move) rest) :
    InTime jobs deadline c (move :: rest) := by
  rintro (_ | ⟨first, early⟩) late heq on next s hreach
  · exact absurd (List.cons.inj heq).1 hmove
  · obtain ⟨rfl, hrest⟩ := List.cons.inj heq
    exact h early late hrest on next s hreach

lemma InTime.before [Host σ] {jobs : Job → Task σ Unit} {deadline : Nat} {c : Company σ α}
    {moves rest : List (Move σ)} (h : InTime jobs deadline c (moves ++ rest)) :
    InTime jobs deadline c moves :=
  fun early late heq => h early (late ++ rest) (by rw [heq, List.append_assoc, List.cons_append])

lemma InTime.tail [Host σ] {jobs : Job → Task σ Unit} {deadline : Nat} {c : Company σ α}
    {move : Move σ}
    {rest : List (Move σ)} (h : InTime jobs deadline c (move :: rest)) :
    InTime jobs deadline (c.take jobs move) rest :=
  fun early late heq => h (move :: early) late (by rw [heq]; rfl)

namespace Abreast

variable {number deadline : Nat} {q : Company World (Option α)} {p : Company World α}
  (h : Abreast ticket (Racing ticket (Task.timer number deadline)) q p)

lemma reach_wait {R : σ → σ → Prop} {task task' : Task σ α} {s s' t : σ} {on : Wait σ}
    {next : Task σ α}
    (h : task'.Mirrors R Eq task) (hs : R s' s) (hreach : task.reach s = (.wait on next, t)) :
    ∃ on' next' t', task'.reach s' = (.wait on' next', t') ∧ on'.Mirrors R on
      ∧ next'.Mirrors R Eq next
      ∧ R t' t := by
  obtain ⟨htask, hstate⟩ := h.reach hs
  rw [hreach] at htask hstate
  rcases Task.reach_cases task' s' with ⟨a, t', heq⟩ | ⟨on', next', t', heq, -⟩
  · rw [heq] at htask
    cases htask
  · rw [heq] at htask hstate
    cases htask with
    | wait hon hnext => exact ⟨on', next', t', heq, hon, hnext, hstate⟩

include h

/-- Where the task has to wait before its time is up, it waits with a limit, too, and the timer is
set. -/
lemma poll_wait {on : Wait World} {next : Task World α}
    (hreach : p.front.reach p.state = (.wait on next, s))
    (htime : Host.now s < deadline) :
    ∃ on' next' s', q.front.poll frontTask q.state
      = ((Task.wait on' next').race (Task.timer number deadline),
        (Task.timer number deadline : Wait World).register frontTask (on'.register frontTask s'))
      ∧ on'.Mirrors (World.Ahead ticket) on ∧ next'.Mirrors (World.Ahead ticket) Eq next
      ∧ World.Ahead ticket s' s := by
  obtain ⟨task', halike, hfront⟩ := h.front
  obtain ⟨on', next', s', hreach', hon, hnext, hs⟩ := reach_wait halike h.state hreach
  have hclock : (Task.timer number deadline : Wait World).ready s' = false := by
    have hnow : s'.schedule.now = s.schedule.now := hs.schedule.now
    exact decide_eq_false (Nat.not_le.mpr (hnow ▸ htime : s'.schedule.now < deadline))
  exact ⟨on', next', s', hfront ▸ Task.poll_race_of_wait frontTask hreach' hclock, hon, hnext, hs⟩

/-- **A turn in which the task has to wait** before its time is up. -/
lemma wait_turn {on : Wait World} {next : Task World α}
    (hreach : p.front.reach p.state = (.wait on next, s))
    (htime : Host.now s < deadline) :
    Abreast ticket (Racing ticket (Task.timer number deadline)) (q.take Memory.pool.perform .front)
      (p.take Memory.pool.perform .front) := by
  obtain ⟨on', next', s', hturn, hon, hnext, hs⟩ := h.poll_wait hreach htime
  refine ⟨?_, ⟨.wait on' next', ?_, ?_⟩, h.beside⟩
  · simp only [Company.take, hturn, Task.poll_of_reach_wait frontTask hreach]
    exact (hon.register frontTask hs).reschedule (g := id) fun hs =>
      (Schedule.Ahead.coarse ticket).twin hs (.arm _ _) (.refl _)
  · simp only [Company.take, Task.poll_of_reach_wait frontTask hreach]
    exact .wait hon hnext
  · simp only [Company.take, hturn]

/-- **A turn in which the task comes to its end.** -/
lemma done_turn {a : α} (hreach : p.front.reach p.state = (.done a, s)) :
    ∃ s', World.Ahead ticket s' s ∧ q.front.reach q.state = (.done (some a), s') := by
  obtain ⟨task', halike, hfront⟩ := h.front
  obtain ⟨htask, hstate⟩ := halike.reach h.state
  rw [hreach] at htask hstate
  rcases Task.reach_cases task' q.state with ⟨a', s', heq⟩ | ⟨on', next', s', heq, -⟩
  · rw [heq] at htask hstate
    cases htask with
    | done heq' =>
      subst heq'
      refine ⟨(Task.timer number deadline : Wait World).abandon s', ?_, ?_⟩
      · exact hstate.reschedule (g := id) fun hs => (Schedule.Ahead.coarse ticket).twin hs
          (.disarm _ _) (.refl _)
      · rw [hfront]
        exact Task.reach_of_poll (Task.poll_race_of_done frontTask heq)
  · rw [heq] at htask
    cases htask

/-- **The turn in which its time is up**: the task is given up where it waits. -/
theorem late_turn {on : Wait World} {next : Task World α}
    (hreach : p.front.reach p.state = (.wait on next, s))
    (htime : deadline ≤ Host.now s) :
    ∃ s', World.Ahead ticket s' (on.abandon s) ∧ q.front.reach q.state
      = (.done none, Task.spend s') := by
  obtain ⟨task', halike, hfront⟩ := h.front
  obtain ⟨on', next', s', hreach', hon, -, hs⟩ := reach_wait halike h.state hreach
  have hclock : (Task.timer number deadline : Wait World).ready s' = true := by
    have hnow : s'.schedule.now = s.schedule.now := hs.schedule.now
    exact decide_eq_true (hnow ▸ htime : deadline ≤ s'.schedule.now)
  refine ⟨(Task.timer number deadline : Wait World).abandon (on'.abandon s'), ?_, ?_⟩
  · exact (hon.abandon hs).reschedule (g := id) fun hs =>
      (Schedule.Ahead.coarse ticket).twin hs (.disarm _ _) (.refl _)
  · rw [hfront]
    exact Task.reach_of_poll (Task.poll_race_of_late frontTask hreach' hclock)

/-- **As long as the task in front waits in time**, it keeps abreast. -/
lemma waiting_take {move : Move World} (hmove : move.Blind (World.Ahead ticket))
    {rest : List (Move World)}
    (htime : InTime Memory.pool.perform deadline p (move :: rest))
    (hnone : (p.take Memory.pool.perform move).front.result? = none) :
    Abreast ticket (Racing ticket (Task.timer number deadline)) (q.take Memory.pool.perform move)
      (p.take Memory.pool.perform move) := by
  by_cases hfront : move = .front
  · subst hfront
    rcases Task.reach_cases p.front p.state with ⟨a, s, hreach⟩ | ⟨on, next, s, hreach, -⟩
    · have hdone : (p.take Memory.pool.perform .front).front = .done a :=
        congrArg Prod.fst (Task.poll_of_reach_done frontTask hreach)
      rw [hdone] at hnone
      cases hnone
    · exact h.wait_turn hreach (htime [] rest rfl on next s hreach)
  · exact h.aside hmove hfront

end Abreast

/-! ## With a limit and without -/

namespace Abreast

variable {number deadline : Nat} (tidy : World → World) {F : Option α → Task World β}
  {G : α → Task World β}
  {S : β → β → Prop} {q : Company World (Option α)} {p : Company World α}

lemma waiting (h : Abreast ticket (Racing ticket (Task.timer number deadline)) q p)
    {moves : List (Move World)}
    (hmoves : ∀ move ∈ moves, move.Blind (World.Ahead ticket))
    (htime : InTime Memory.pool.perform deadline p moves)
    (hnone : (p.play Memory.pool.perform moves).front.result? = none) :
    Abreast ticket (Racing ticket (Task.timer number deadline)) (q.play Memory.pool.perform moves)
      (p.play Memory.pool.perform moves) := by
  induction moves generalizing q p with
  | nil => exact h
  | cons move rest ih =>
    have hnext := h.waiting_take (hmoves move List.mem_cons_self) htime (result_of_play hnone)
    exact ih hnext (fun m hm => hmoves m (List.mem_cons_of_mem _ hm)) htime.tail hnone

variable (hFG : ∀ a, (F (some a)).Mirrors (World.Ahead ticket) S (G a))

include hFG

/-- **A turn of the two** that is in time: the task waits, or what follows begins. -/
lemma race_turn (h : Abreast ticket (Racing ticket (Task.timer number deadline)) q p)
    {rest : List (Move World)}
    (htime : InTime Memory.pool.perform deadline p (.front :: rest)) :
    Abreast ticket (Racing ticket (Task.timer number deadline)) (q.take Memory.pool.perform .front)
          (p.take Memory.pool.perform .front)
        ∧ (p.take Memory.pool.perform .front).front.result? = none
      ∨ Abreast ticket (Task.Mirrors (World.Ahead ticket) S)
        ((q.followed tidy F).take Memory.pool.perform .front)
        ((p.followed tidy G).take Memory.pool.perform .front) := by
  rcases Task.reach_cases p.front p.state with ⟨a, s, hreach⟩ | ⟨on, next, s, hreach, -⟩
  · refine .inr ?_
    obtain ⟨s', hs, hreach'⟩ := h.done_turn hreach
    have hpoll := (hFG a).poll frontTask hs
    rw [followed_done Memory.pool.perform hreach', followed_done Memory.pool.perform hreach]
    exact ⟨hpoll.2, hpoll.1, h.beside⟩
  · exact .inl ⟨h.wait_turn hreach (htime [] rest rfl on next s hreach),
      Task.result_of_reach_wait frontTask hreach⟩

/-- **As long as it is in time**, a task with a limit keeps abreast of itself without one, and so
does what follows on the two. -/
theorem race (h : Abreast ticket (Racing ticket (Task.timer number deadline)) q p)
    (hwaits : p.front.result? = none) {moves : List (Move World)}
    (hmoves : ∀ move ∈ moves, move.Blind (World.Ahead ticket))
    (htime : InTime Memory.pool.perform deadline p moves) :
    Abreast ticket (Racing ticket (Task.timer number deadline)) (q.play Memory.pool.perform moves)
          (p.play Memory.pool.perform moves)
        ∧ (p.play Memory.pool.perform moves).front.result? = none
      ∨ Abreast ticket (Task.Mirrors (World.Ahead ticket) S)
        ((q.followed tidy F).play Memory.pool.perform moves)
        ((p.followed tidy G).play Memory.pool.perform moves) := by
  induction moves generalizing q p with
  | nil => exact .inl ⟨h, hwaits⟩
  | cons move rest ih =>
    have hrest : ∀ m ∈ rest, m.Blind (World.Ahead ticket) :=
      fun m hm => hmoves m (List.mem_cons_of_mem _ hm)
    by_cases hmove : move = .front
    · subst hmove
      rcases h.race_turn tidy hFG htime with ⟨hnext, hnone⟩ | hnext
      · have hkeeps := ih hnext hnone hrest htime.tail
        rw [← followed_wait Memory.pool.perform hnext.front.result, ← followed_wait
          Memory.pool.perform hnone] at hkeeps
        exact hkeeps
      · exact .inr (hnext.play hrest)
    · have hnone : (p.take Memory.pool.perform move).front.result? = none :=
        (front_take Memory.pool.perform p hmove).symm ▸ hwaits
      have hkeeps := ih (h.aside (hmoves move List.mem_cons_self) hmove) hnone hrest htime.tail
      rw [← followed_aside Memory.pool.perform hmove, ← followed_aside Memory.pool.perform
        hmove] at hkeeps
      exact hkeeps

/-- **From its first turn on.** -/
theorem race_on (h : Abreast ticket (Racing ticket (Task.timer number deadline)) q p)
    {moves : List (Move World)}
    (hmoves : ∀ move ∈ moves, move.Blind (World.Ahead ticket))
    (htime : InTime Memory.pool.perform deadline p (.front :: moves)) :
    Abreast ticket (Racing ticket (Task.timer number deadline))
      (q.play Memory.pool.perform (.front :: moves))
          (p.play Memory.pool.perform (.front :: moves))
        ∧ (p.play Memory.pool.perform (.front :: moves)).front.result? = none
      ∨ Abreast ticket (Task.Mirrors (World.Ahead ticket) S)
        ((q.followed tidy F).play Memory.pool.perform (.front :: moves))
        ((p.followed tidy G).play Memory.pool.perform (.front :: moves)) := by
  rcases h.race_turn tidy hFG htime with ⟨hnext, hnone⟩ | hnext
  · have hkeeps := hnext.race tidy hFG hnone hmoves htime.tail
    rw [← followed_wait Memory.pool.perform hnext.front.result, ← followed_wait Memory.pool.perform
      hnone] at hkeeps
    exact hkeeps
  · exact .inr (hnext.play hmoves)

end Abreast

end Company

end Transactional
