import Transactional.Proofs.Task.Phases

/-!
# How far a task goes in a turn

In a turn a task comes to its result, or to a wait that is not over, and leaves word there.  A task
with a limit comes to the same point; whether it waits there or is given up is decided by the clock.

* `Task.reach` — how far a task goes.
* `Task.Mirrors.reach`, `Task.Obeys.reach` — tasks that go alike, and tasks that keep to a
  discipline.
* **`Task.poll_race_of_done`**, **`Task.poll_race_of_wait`**, **`Task.poll_race_of_late`** — a turn
  of a task with a limit.
* `Company.Ends` — what happens until a task comes to its end.
-/

namespace Transactional

namespace Task

/-- **How far a task goes in a turn**: to its result, or to a wait that is not over. -/
def reach : Task σ α → σ → Task σ α × σ
  | .done a, s => (.done a, s)
  | .act update next, s => (next s).reach (update s)
  | .wait on next, s => if on.ready s then next.reach s else (.wait on next, s)

variable {task : Task σ α} {s s' : σ}

lemma reach_cases (task : Task σ α) (s : σ) :
    (∃ a s', task.reach s = (.done a, s'))
      ∨ ∃ on next s', task.reach s = (.wait on next, s') ∧ on.ready s' = false := by
  induction task generalizing s with
  | done a => exact .inl ⟨a, s, rfl⟩
  | act update next ih => exact ih s (update s)
  | wait on next ih =>
    by_cases hready : on.ready s = true
    · simpa only [reach, hready, if_true] using ih s
    · exact .inr ⟨on, next, s, by simp only [reach, hready, if_false, Bool.false_eq_true],
        Bool.eq_false_iff.mpr hready⟩

lemma poll_of_reach_done (self : TaskId) {a : α} (h : task.reach s = (.done a, s')) :
    task.poll self s = (.done a, s') := by
  induction task generalizing s with
  | done b => exact h
  | act update next ih => exact ih s h
  | wait on next ih =>
    rw [reach] at h
    split at h
    next hready => rw [poll, if_pos hready, ih h]
    next => cases h

lemma poll_of_reach_wait (self : TaskId) {on : Wait σ} {next : Task σ α}
    (h : task.reach s = (.wait on next, s')) :
    task.poll self s = (.wait on next, on.register self s') := by
  induction task generalizing s with
  | done b => cases h
  | act update rest ih => exact ih s h
  | wait on' rest ih =>
    rw [reach] at h
    split at h
    next hready => rw [poll, if_pos hready, ih h]
    next hready =>
      obtain ⟨htask, rfl⟩ := Prod.mk.inj h
      obtain ⟨rfl, rfl⟩ := Task.wait.inj htask
      rw [poll, if_neg hready]

lemma result_of_waits {on : Wait σ} {next : Task σ α} (h : task.reach s = (.wait on next, s')) :
    task.result? = none := by
  cases task with
  | done a => cases h
  | act | wait => rfl

lemma result_of_reach_wait (self : TaskId) {on : Wait σ} {next : Task σ α}
    (h : task.reach s = (.wait on next, s')) : (task.poll self s).1.result? = none := by
  rw [poll_of_reach_wait self h]
  rfl

lemma reach_of_poll {self : TaskId} {a : α} (h : task.poll self s = (.done a, s')) :
    task.reach s = (.done a, s') := by
  rcases reach_cases task s with ⟨b, t, heq⟩ | ⟨on, next, t, heq, -⟩
  · rw [heq, ← h, poll_of_reach_done self heq]
  · rw [poll_of_reach_wait self heq] at h
    cases h

/-- **Tasks that go alike come equally far.** -/
theorem Mirrors.reach {R : σ → σ → Prop} {S : α → β → Prop} {task : Task σ α} {task' : Task σ β}
    (h : Mirrors R S task task') (hs : R s s') :
    Mirrors R S (task.reach s).1 (task'.reach s').1 ∧ R (task.reach s).2 (task'.reach s').2 := by
  induction h generalizing s s' with
  | done h => exact ⟨.done h, hs⟩
  | act h _ ih => exact ih hs (h hs)
  | aside h _ ih => exact ih s (h hs)
  | wait h hnext ih =>
    rw [Task.reach, Task.reach, ← h.ready hs]
    split
    · exact ih hs
    · exact ⟨.wait h hnext, hs⟩

/-- **A task that keeps to a discipline** does so as far as it goes, and whatever single changes do
to a stage and a state, all of them do. -/
theorem Obeys.reach {D : Discipline σ φ} {gone : φ → (σ → σ) → Prop} {ends : α → φ → Prop}
    {R : φ → σ → φ → σ → Prop} (hrefl : ∀ p s, R p s p s)
    (htrans : ∀ {p s q s' r s''}, R p s q s' → R q s' r s'' → R p s r s'')
    (hnext : ∀ {p s q s'}, D.knows p s → D.may p s q s' → D.knows q s' ∧ R p s q s')
    {p : φ} (h : task.Obeys D gone ends p) (hs : D.knows p s) :
    ∃ q, (task.reach s).1.Obeys D gone ends q ∧ D.knows q (task.reach s).2 ∧ R p s q
      (task.reach s).2 := by
  induction task generalizing p s with
  | done a => exact ⟨p, h, hs, hrefl p s⟩
  | act update next ih =>
    obtain ⟨q, hmay, hq⟩ := h s hs
    obtain ⟨hknows, hchange⟩ := hnext hs hmay
    obtain ⟨r, hr, hknows, hrest⟩ := ih s hq hknows
    exact ⟨r, hr, hknows, htrans hchange hrest⟩
  | wait on next ih =>
    rw [Task.reach]
    split
    next hready =>
      obtain ⟨q, hmay, hq⟩ := h.2.2.2 s hs hready
      obtain ⟨hknows, hchange⟩ := hnext hs hmay
      obtain ⟨r, hr, hknows, hrest⟩ := ih hq hknows
      exact ⟨r, hr, hknows, htrans hchange hrest⟩
    next => exact ⟨p, h, hs, hrefl p s⟩

/-! ## Tasks with a limit -/

section

variable [Host σ] {clock : Wait σ}

/-- **A task that comes to its result** does so whatever the clock says: the task goes first. -/
theorem poll_race_of_done (self : TaskId) {a : α} (h : task.reach s = (.done a, s')) :
    (task.race clock).poll self s = (.done (some a), clock.abandon s') := by
  induction task generalizing s with
  | done b =>
    obtain ⟨htask, rfl⟩ := Prod.mk.inj h
    obtain rfl := Task.done.inj htask
    rfl
  | act update next ih => exact ih s h
  | wait on next ih =>
    rw [reach] at h
    split at h
    next hready => simp only [race, poll, either, hready, Bool.true_or, if_true, id, ih h]
    next => cases h

/-- **A task that has to wait before its time is up** waits, and the clock runs beside it. -/
theorem poll_race_of_wait (self : TaskId) {on : Wait σ} {next : Task σ α}
    (h : task.reach s = (.wait on next, s')) (hclock : clock.ready s' = false) :
    (task.race clock).poll self s
      = ((Task.wait on next).race clock, clock.register self (on.register self s')) := by
  induction task generalizing s with
  | done b => cases h
  | act update rest ih => exact ih s h
  | wait on' rest ih =>
    rw [reach] at h
    split at h
    next hready => simp only [race, poll, either, hready, Bool.true_or, if_true, id, ih h]
    next hready =>
      obtain ⟨htask, rfl⟩ := Prod.mk.inj h
      obtain ⟨rfl, rfl⟩ := Task.wait.inj htask
      simp only [race, poll, either, hready, hclock, Bool.false_or, Bool.false_eq_true, if_false]

/-- **A task that has to wait when its time is up** is given up where it waits. -/
theorem poll_race_of_late (self : TaskId) {on : Wait σ} {next : Task σ α}
    (h : task.reach s = (.wait on next, s')) (hclock : clock.ready s' = true) :
    (task.race clock).poll self s = (.done none, spend (clock.abandon (on.abandon s'))) := by
  induction task generalizing s with
  | done b => cases h
  | act update rest ih => exact ih s h
  | wait on' rest ih =>
    rw [reach] at h
    split at h
    next hready => simp only [race, poll, either, hready, Bool.true_or, if_true, id, ih h]
    next hready =>
      obtain ⟨htask, rfl⟩ := Prod.mk.inj h
      obtain ⟨rfl, rfl⟩ := Task.wait.inj htask
      simp only [race, poll, either, hready, hclock, Bool.or_true, if_true, id, Bool.false_eq_true,
        if_false]

end

lemma poll_guarded (tidy : σ → σ) (self : TaskId) (task : Task σ α) (s : σ) :
    (task.guarded tidy).poll self s = ((task.poll self s).1.guarded tidy,
      (task.poll self s).2) := by
  induction task generalizing s with
  | done a => rfl
  | act update next ih => exact ih s (update s)
  | wait on next ih =>
    simp only [guarded, poll]
    split
    · exact ih s
    · rfl

end Task

namespace Company

variable [Host σ] (jobs : Job → Task σ Unit)

/-! ## What follows -/

omit [Host σ] in
/-- **A company in which something is to follow the task in front**, with something to tidy up until
then. -/
def followed (tidy : σ → σ) (G : α → Task σ β) (c : Company σ α) : Company σ β :=
  c.led ((c.front.guarded tidy).bind G)

lemma result_of_play {jobs : Job → Task σ Unit} {c : Company σ α} {moves : List (Move σ)}
    (h : (c.play jobs moves).front.result? = none) : c.front.result? = none := by
  cases hresult : c.front.result? with
  | none => rfl
  | some a =>
    rw [front_play_of_done jobs (Task.done_of_result hresult) moves] at h
    cases h

section

variable {tidy : σ → σ} {G : α → Task σ β} {c : Company σ α}

lemma followed_aside {move : Move σ} (hmove : move ≠ .front) :
    (c.followed tidy G).take jobs move = (c.take jobs move).followed tidy G := by
  rw [followed, take_led jobs c _ hmove, followed, front_take jobs c hmove]

lemma followed_wait (h : (c.take jobs .front).front.result? = none) :
    (c.followed tidy G).take jobs .front = (c.take jobs .front).followed tidy G := by
  have hguarded : ((c.front.guarded tidy).poll frontTask c.state).1.result? = none := by
    rw [Task.poll_guarded]
    revert h
    simp only [take]
    cases (c.front.poll frontTask c.state).1 <;> exact id
  simp only [followed, led, take, Task.poll_bind_of_wait G frontTask hguarded]
  rw [Task.poll_guarded]

/-- **The turn in which it comes to its end**: there what follows begins. -/
lemma followed_done {a : α} {s : σ} (h : c.front.reach c.state = (.done a, s)) :
    (c.followed tidy G).take jobs .front = (⟨s, G a, c.beside⟩ : Company σ β).take jobs .front := by
  have hpoll := Task.poll_guarded tidy frontTask c.front c.state
  rw [Task.poll_of_reach_done frontTask h] at hpoll
  simp only [followed, led, take]
  rw [Task.poll_bind_of_done G frontTask (congrArg Prod.fst hpoll), hpoll]

/-- **Until then** what is to follow makes no difference. -/
lemma followed_play {moves : List (Move σ)} (h : (c.play jobs moves).front.result? = none) :
    (c.followed tidy G).play jobs moves = (c.play jobs moves).followed tidy G := by
  induction moves using List.reverseRecOn with
  | nil => rfl
  | append_singleton moves move ih =>
    rw [play_concat, ih (result_of_concat jobs h), play_concat]
    rw [play_concat] at h
    by_cases hmove : move = .front
    · subst hmove
      rw [followed_wait jobs h]
    · rw [followed_aside jobs hmove]

end

/-! ## Coming to an end -/

/-- **What happens until the task in front has come to its end**: the last turn is its own. -/
def Ends (c : Company σ α) (moves : List (Move σ)) (a : α) : Prop :=
  (c.play jobs moves).front = .done a
    ∧ ∃ before, moves = before ++ [.front] ∧ (c.play jobs before).front.result? = none

variable {jobs} {c : Company σ α} {moves : List (Move σ)} {a : α}

/-- **In that turn** whatever follows it begins. -/
lemma Ends.play_followed (h : Ends jobs c moves a) (tidy : σ → σ) (G : α → Task σ β) :
    (c.followed tidy G).play jobs moves = ((c.play jobs moves).led (G a)).take jobs .front := by
  obtain ⟨hdone, before, rfl, hnone⟩ := h
  rw [play_concat] at hdone ⊢
  have hpoll : (c.play jobs before).front.poll frontTask (c.play jobs before).state
      = (.done a, ((c.play jobs before).take jobs .front).state) := Prod.ext hdone rfl
  rw [followed_play jobs hnone, followed_done jobs (Task.reach_of_poll hpoll), play_concat]
  rfl

/-- **The turn in which it comes to its end** is the last one until then. -/
lemma Ends.of_reach {s : σ} (hnone : (c.play jobs moves).front.result? = none)
    (hreach : (c.play jobs moves).front.reach (c.play jobs moves).state = (.done a, s)) :
    Ends jobs c (moves ++ [.front]) a ∧ (c.play jobs (moves ++ [.front])).state = s
      ∧ (c.play jobs (moves ++ [.front])).beside = (c.play jobs moves).beside := by
  have hpoll := Task.poll_of_reach_done frontTask hreach
  rw [Ends, play_concat]
  exact ⟨⟨congrArg Prod.fst hpoll, moves, rfl, hnone⟩, congrArg Prod.snd hpoll, rfl⟩

/-- **Whatever happens**, a task has not come to its end, or there was a turn in which it has. -/
lemma splits_at_end (hc : c.front.result? = none) (moves : List (Move σ)) :
    (c.play jobs moves).front.result? = none ∨ ∃ early late a, moves = early ++ late
      ∧ Ends jobs c early a := by
  rcases play_splits jobs hc moves with h | ⟨before, late, a, rfl, hnone, hdone⟩
  · exact .inl h
  · exact .inr ⟨before ++ [.front], late, a, by simp, hdone, before, rfl, hnone⟩

end Company

end Transactional
