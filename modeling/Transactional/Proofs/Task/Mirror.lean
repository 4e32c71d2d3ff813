import Mathlib.Tactic.Common
import Transactional.Task.Schedule

/-!
# Tasks that go alike

Two tasks on two states go alike if nobody can tell one from the other: each change of the one has
its like in the other, and they wait for the same things.  The first may also make changes that
leave no trace in what the states have in common, such as a line in a log.

* `Wait.Mirrors`, `Task.Mirrors` — waits and tasks that go alike.
* `Task.Mirrors.bind`, `Task.Mirrors.guarded`, `Task.Mirrors.race` — what is put together from tasks
  that go alike goes alike.
* **`Task.Mirrors.poll`** — tasks that go alike do so in each of their turns.
-/

namespace Transactional

/-- **Two waits that nobody can tell apart**, on states that `R` says are alike. -/
structure Wait.Mirrors (R : σ → σ → Prop) (on on' : Wait σ) : Prop where
  ready : ∀ {s s'}, R s s' → on.ready s = on'.ready s'
  register : ∀ {s s'} (self : TaskId), R s s' → R (on.register self s) (on'.register self s')
  abandon : ∀ {s s'}, R s s' → R (on.abandon s) (on'.abandon s')

namespace Task

/-- **Two tasks that go alike**, with results of which `S` is true. -/
inductive Mirrors (R : σ → σ → Prop) (S : α → β → Prop) : Task σ α → Task σ β → Prop where
  | done {a : α} {b : β} (h : S a b) : Mirrors R S (.done a) (.done b)
  | act {update update' : σ → σ} {next : σ → Task σ α} {next' : σ → Task σ β}
      (h : ∀ {s s'}, R s s' → R (update s) (update' s'))
      (hnext : ∀ {s s'}, R s s' → Mirrors R S (next s) (next' s')) :
      Mirrors R S (.act update next) (.act update' next')
  | aside {update : σ → σ} {next : σ → Task σ α} {task : Task σ β}
      (h : ∀ {s s'}, R s s' → R (update s) s') (hnext : ∀ s, Mirrors R S (next s) task) :
      Mirrors R S (.act update next) task
  | wait {on on' : Wait σ} {next : Task σ α} {next' : Task σ β} (h : on.Mirrors R on')
      (hnext : Mirrors R S next next') : Mirrors R S (.wait on next) (.wait on' next')

/-- A task that cannot tell apart two states that are alike. -/
abbrev Blind (R : σ → σ → Prop) (task : Task σ α) : Prop :=
  task.Mirrors R Eq task

/-- Both have a result, of which `S` is true, or none has. -/
def Agree (S : α → β → Prop) : Option α → Option β → Prop
  | some a, some b => S a b
  | none, none => True
  | _, _ => False

lemma guarded_id (task : Task σ α) : task.guarded id = task := by
  induction task with
  | done a => rfl
  | act update next ih => simp only [guarded, ih]
  | wait on next ih =>
    simp only [guarded, ih]
    rfl

namespace Mirrors

variable {R : σ → σ → Prop} {S : α → β → Prop} {task : Task σ α} {task' : Task σ β}

/-- **One task after the other.** -/
lemma bind {S' : γ → δ → Prop} {f : α → Task σ γ} {g : β → Task σ δ} (h : Mirrors R S task task')
    (hfg : ∀ a b, S a b → Mirrors R S' (f a) (g b)) :
    Mirrors R S' (task.bind f) (task'.bind g) := by
  induction h with
  | done h => exact hfg _ _ h
  | act h _ ih => exact .act h ih
  | aside h _ ih => exact .aside h ih
  | wait h _ ih => exact .wait h ih

lemma change {update update' : σ → σ} (h : ∀ {s s'}, R s s' → R (update s) (update' s')) :
    Mirrors R Eq (Task.change update) (Task.change update') :=
  .act h fun _ => .done rfl

lemma step {f : σ → α × σ} {g : σ → β × σ} (h : ∀ {s s'}, R s s' → S (f s).1 (g s').1)
    (h' : ∀ {s s'}, R s s' → R (f s).2 (g s').2) : Mirrors R S (Task.step f) (Task.step g) :=
  .act h' fun hs => .done (h hs)

/-- **A task with something to tidy up** if it is given up while it waits. -/
lemma guarded {tidy tidy' : σ → σ} (htidy : ∀ {s s'}, R s s' → R (tidy s) (tidy' s'))
    (h : Mirrors R S task task') : Mirrors R S (task.guarded tidy) (task'.guarded tidy') := by
  induction h with
  | done h => exact .done h
  | act h _ ih => exact .act h ih
  | aside h _ ih => exact .aside h ih
  | wait h _ ih =>
    exact .wait
      { ready := h.ready, register := h.register, abandon := fun hs => htidy (h.abandon hs) } ih

lemma holding {tidy tidy' : σ → σ} (htidy : ∀ {s s'}, R s s' → R (tidy s) (tidy' s'))
    (h : Mirrors R S task task') : Mirrors R S (task.holding tidy) (task'.holding tidy') :=
  (h.guarded htidy).bind fun _ _ hab => .act htidy fun _ => .done hab

/-- **Tasks that are given up when the clock strikes.** -/
lemma race [Host σ] {clock clock' : Wait σ} (hclock : clock.Mirrors R clock')
    (hspend : ∀ {s s'}, R s s' → R (Task.spend s) (Task.spend s')) (h : Mirrors R S task task') :
    Mirrors R (Agree S) (task.race clock) (task'.race clock') := by
  induction h with
  | done h => exact .act hclock.abandon fun _ => .done h
  | act h _ ih => exact .act h ih
  | aside h _ ih => exact .aside h ih
  | @wait on on' next next' h _ ih =>
    have heither : (either on clock).Mirrors R (either on' clock') :=
      { ready := fun hs => by simp only [either, h.ready hs, hclock.ready hs]
        register := fun self hs => hclock.register self (h.register self hs)
        abandon := fun hs => hclock.abandon (h.abandon hs) }
    refine .wait heither (.act id fun {s s'} hs => ?_)
    rw [h.ready hs]
    cases on'.ready s' with
    | true => exact ih
    | false => exact .act (fun hs => hspend (hclock.abandon (h.abandon hs))) fun _ => .done trivial

/-- **Tasks that go alike do so in each turn.** -/
theorem poll (self : TaskId) (h : Mirrors R S task task') {s s' : σ} (hs : R s s') :
    Mirrors R S (task.poll self s).1 (task'.poll self s').1
      ∧ R (task.poll self s).2 (task'.poll self s').2 := by
  induction h generalizing s s' with
  | done h => exact ⟨.done h, hs⟩
  | act h _ ih => exact ih hs (h hs)
  | aside h _ ih => exact ih s (h hs)
  | wait h hnext ih =>
    rw [Task.poll, Task.poll, ← h.ready hs]
    split
    · exact ih hs
    · exact ⟨.wait h hnext, h.register self hs⟩

lemma result (h : Mirrors R S task task') (hrest : ∀ update next, task ≠ .act update next) :
    Agree S task.result? task'.result? := by
  cases h with
  | done h => exact h
  | act => exact absurd rfl (hrest _ _)
  | aside => exact absurd rfl (hrest _ _)
  | wait => trivial

end Mirrors

end Task

end Transactional
