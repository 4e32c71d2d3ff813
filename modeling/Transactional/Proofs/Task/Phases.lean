import Mathlib.Data.List.Induction
import Transactional.Proofs.Task.Play

/-!
# Tasks in phases

A task that is followed by another one takes its turns as it would by itself, and what follows
begins in the very turn in which it has come to its end.  So what happens to the two is what happens
to the first, and from then on what happens to the second.

* `Task.Obeys.poll` — a task that keeps to a discipline does so in each of its turns.
* `Task.poll_bind_of_wait`, `Task.poll_bind_of_done` — a turn of a task that is followed by another
  one.
* `Company.led` — a company with another task in front.
* `Company.play_splits` — the turn in which a task comes to its end.
* **`Company.play_bind_of_wait`**, **`Company.play_bind_of_done`** — a task that is followed by
  another one, until that turn and in it.
-/

namespace Transactional

namespace Task

/-- **A task that keeps to a discipline does so in each of its turns**, and whatever single changes
do to a state, a turn does. -/
lemma Obeys.poll {D : Discipline σ φ} {gone : φ → (σ → σ) → Prop} {ends : α → φ → Prop}
    {R : σ → σ → Prop} (hrefl : ∀ s, R s s) (htrans : ∀ {s s' s''}, R s s' → R s' s'' → R s s'')
    (hnext : ∀ {p s q s'}, D.knows p s → D.may p s q s' → D.knows q s' ∧ R s s') (self : TaskId)
    {task : Task σ α} {p : φ} {s : σ} (h : task.Obeys D gone ends p) (hs : D.knows p s) :
    ∃ q, (task.poll self s).1.Obeys D gone ends q ∧ D.knows q (task.poll self s).2
      ∧ R s (task.poll self s).2 := by
  induction task generalizing p s with
  | done a => exact ⟨p, h, hs, hrefl s⟩
  | act update next ih =>
    obtain ⟨q, hmay, hq⟩ := h s hs
    obtain ⟨hknows, hchange⟩ := hnext hs hmay
    obtain ⟨r, hr, hknows, hrest⟩ := ih s hq hknows
    exact ⟨r, hr, hknows, htrans hchange hrest⟩
  | wait on next ih =>
    rw [Task.poll]
    split
    next hready =>
      obtain ⟨q, hmay, hq⟩ := h.2.2.2 s hs hready
      obtain ⟨hknows, hchange⟩ := hnext hs hmay
      obtain ⟨r, hr, hknows, hrest⟩ := ih hq hknows
      exact ⟨r, hr, hknows, htrans hchange hrest⟩
    next =>
      obtain ⟨hknows, hchange⟩ := hnext hs (h.2.2.1 self s hs)
      exact ⟨p, h, hknows, hchange⟩

lemma poll_bind_of_wait (F : α → Task σ β) (self : TaskId) {task : Task σ α} {s : σ}
    (h : (task.poll self s).1.result? = none) :
    (task.bind F).poll self s = ((task.poll self s).1.bind F, (task.poll self s).2) := by
  induction task generalizing s with
  | done a => simp [poll, result?] at h
  | act update next ih => exact ih s h
  | wait on next ih =>
    simp only [bind, poll] at h ⊢
    split
    next hready => exact ih (by rwa [if_pos hready] at h)
    next => rfl

/-- **The turn in which a task comes to its end** is also the first one of what follows. -/
lemma poll_bind_of_done (F : α → Task σ β) (self : TaskId) {task : Task σ α} {s : σ} {a : α}
    (h : (task.poll self s).1 = .done a) :
    (task.bind F).poll self s = (F a).poll self (task.poll self s).2 := by
  induction task generalizing s with
  | done b =>
    obtain rfl : b = a := by simpa [poll] using h
    rfl
  | act update next ih => exact ih s h
  | wait on next ih =>
    simp only [bind, poll] at h ⊢
    split
    next hready => exact ih (by rwa [if_pos hready] at h)
    next hready => simp [hready] at h

lemma done_of_result {task : Task σ α} {a : α} (h : task.result? = some a) : task = .done a := by
  cases task with
  | done b => rw [Option.some.inj h]
  | act | wait => cases h

/-- A task whose result is changed afterwards is over when it is over itself. -/
lemma done_of_map {g : α → β} {task : Task σ α} {b : β}
    (h : (task.bind fun a => .done (g a)) = .done b) :
    ∃ a, task = .done a ∧ g a = b := by
  cases task with
  | done a => exact ⟨a, rfl, Task.done.inj h⟩
  | act | wait => cases h

lemma poll_map (g : α → β) (self : TaskId) (task : Task σ α) (s : σ) :
    (task.bind fun a => .done (g a)).poll self s
      = ((task.poll self s).1.bind fun a => .done (g a), (task.poll self s).2) := by
  cases h : (task.poll self s).1.result? with
  | none => exact poll_bind_of_wait _ self h
  | some a =>
    rw [poll_bind_of_done _ self (done_of_result h), done_of_result h]
    rfl

end Task

namespace Company

variable [Host σ] (jobs : Job → Task σ Unit)

omit [Host σ] in
/-- **A company with another task in front.** -/
def led (c : Company σ α) (front : Task σ β) : Company σ β :=
  ⟨c.state, front, c.beside⟩

lemma take_led (c : Company σ α) (front : Task σ β) {move : Move σ} (h : move ≠ .front) :
    (c.led front).take jobs move = (c.take jobs move).led front := by
  cases move with
  | front => exact absurd rfl h
  | beside place self =>
    simp only [take, led]
    cases c.beside[place]? <;> rfl
  | start number job =>
    simp only [take, led]
    by_cases hdue : Turn.start number job ∈ (Host.schedule.get c.state).ready <;>
      simp only [hdue, if_true, if_false]
  | around change => rfl

lemma front_take (c : Company σ α) {move : Move σ} (h : move ≠ .front) :
    (c.take jobs move).front = c.front := by
  cases move with
  | front => exact absurd rfl h
  | beside place self =>
    simp only [take]
    cases c.beside[place]? <;> rfl
  | start number job =>
    simp only [take]
    split <;> rfl
  | around change => rfl

lemma play_append (c : Company σ α) (moves more : List (Move σ)) :
    c.play jobs (moves ++ more) = (c.play jobs moves).play jobs more :=
  List.foldl_append

lemma play_concat (c : Company σ α) (moves : List (Move σ)) (move : Move σ) :
    c.play jobs (moves ++ [move]) = (c.play jobs moves).take jobs move :=
  play_append jobs c moves [move]

lemma front_take_of_done {c : Company σ α} {a : α} (h : c.front = .done a) (move : Move σ) :
    (c.take jobs move).front = .done a := by
  by_cases hmove : move = .front
  · subst hmove
    simp only [take, h, Task.poll]
  · rw [front_take jobs c hmove, h]

lemma front_play_of_done {c : Company σ α} {a : α} (h : c.front = .done a) (moves : List (Move σ)) :
    (c.play jobs moves).front = .done a := by
  induction moves generalizing c with
  | nil => exact h
  | cons move rest ih => exact ih (front_take_of_done jobs h move)

lemma result_of_concat {c : Company σ α} {moves : List (Move σ)} {move : Move σ}
    (h : (c.play jobs (moves ++ [move])).front.result? = none) :
    (c.play jobs moves).front.result? = none := by
  rw [play_concat] at h
  cases hresult : (c.play jobs moves).front.result? with
  | none => rfl
  | some a =>
    rw [front_take_of_done jobs (Task.done_of_result hresult) move] at h
    cases h

/-- **The turn in which the task in front comes to its end**, if it has. -/
theorem play_splits {c : Company σ α} (hc : c.front.result? = none) (moves : List (Move σ)) :
    (c.play jobs moves).front.result? = none
      ∨ ∃ early late a, moves = early ++ .front :: late
        ∧ (c.play jobs early).front.result? = none
        ∧ (c.play jobs (early ++ [.front])).front = .done a := by
  induction moves using List.reverseRecOn with
  | nil => exact .inl hc
  | append_singleton moves move ih =>
    rcases ih with hnone | ⟨early, late, a, rfl, hnone, hdone⟩
    · cases hresult : (c.play jobs (moves ++ [move])).front.result? with
      | none => exact .inl rfl
      | some a =>
        have hdone := Task.done_of_result hresult
        by_cases hmove : move = .front
        · subst hmove
          exact .inr ⟨moves, [], a, rfl, hnone, hdone⟩
        · rw [play_concat, front_take jobs _ hmove] at hdone
          rw [hdone] at hnone
          cases hnone
    · exact .inr ⟨early, late ++ [move], a, by simp, hnone, hdone⟩

/-- **Until the task in front has come to its end**, what is to follow it makes no difference. -/
theorem play_bind_of_wait (F : α → Task σ β) {c : Company σ α} {moves : List (Move σ)}
    (h : (c.play jobs moves).front.result? = none) :
    (c.led (c.front.bind F)).play jobs moves
      = (c.play jobs moves).led ((c.play jobs moves).front.bind F) := by
  induction moves using List.reverseRecOn with
  | nil => rfl
  | append_singleton moves move ih =>
    rw [play_concat, ih (result_of_concat jobs h), play_concat]
    rw [play_concat] at h
    by_cases hmove : move = .front
    · subst hmove
      simp only [take, led, Task.poll_bind_of_wait F frontTask h]
    · rw [take_led jobs _ _ hmove, front_take jobs _ hmove]

/-- **In the turn in which it comes to its end**, what follows it begins. -/
theorem play_bind_of_done (F : α → Task σ β) {c : Company σ α} {moves : List (Move σ)} {a : α}
    (h : (c.play jobs moves).front.result? = none)
    (hdone : (c.play jobs (moves ++ [.front])).front = .done a) :
    (c.led (c.front.bind F)).play jobs (moves ++ [.front])
      = ((c.play jobs (moves ++ [.front])).led (F a)).take jobs .front := by
  rw [play_concat] at hdone ⊢
  rw [play_bind_of_wait jobs F h, play_concat]
  simp only [take, led, Task.poll_bind_of_done F frontTask hdone]

lemma play_map (g : α → β) (c : Company σ α) (moves : List (Move σ)) :
    (c.led (c.front.bind fun a => .done (g a))).play jobs moves
      = (c.play jobs moves).led ((c.play jobs moves).front.bind fun a => .done (g a)) := by
  induction moves generalizing c with
  | nil => rfl
  | cons move rest ih =>
    refine Eq.trans (congrArg (play jobs · rest) ?_) (ih (c.take jobs move))
    by_cases hmove : move = .front
    · subst hmove
      simp only [take, led, Task.poll_map]
    · rw [take_led jobs c _ hmove, front_take jobs c hmove]

lemma play_opening_map (g : α → β) (task : Task σ α) (s : σ) (moves : List (Move σ)) :
    (opening (task.bind fun a => .done (g a)) s).play jobs moves
      = ((opening task s).play jobs moves).led
        (((opening task s).play jobs moves).front.bind fun a => .done (g a)) := by
  rw [← play_map]
  simp only [opening, led, Task.poll_map]

end Company

end Transactional
