import Transactional.Cell

/-!
# Tasks

A task is a computation on a shared state that may have to wait.  It is a finite tree: each node
is a result, a change of the state, or a wait, and what comes after a change may depend on the
state.  A task runs without interruption until it waits; between two of its waits other tasks may
change the state.

* `Task` — the trees, with `Task.bind` and the monad laws.
* `Wait` — what a task waits for.
* `Task.poll` — run a task as far as it goes.
* `Task.guarded` — what has to be done when a task is given up while it waits.
-/

namespace Transactional

/-- The number of a task. -/
abbrev TaskId : Type := Nat

/-- **What a task waits for.** -/
structure Wait (σ : Type) where
  ready : σ → Bool
  register : TaskId → σ → σ
  abandon : σ → σ

/-- **A computation that may have to wait.** -/
inductive Task (σ α : Type) where
  | done (value : α)
  /-- Change the state and go on; both look at the state as it was before. -/
  | act (update : σ → σ) (next : σ → Task σ α)
  | wait (on : Wait σ) (next : Task σ α)

namespace Task

/-! ## Putting tasks together -/

/-- One task after the other. -/
def bind (task : Task σ α) (f : α → Task σ β) : Task σ β :=
  match task with
  | .done a => f a
  | .act update next => .act update fun s => (next s).bind f
  | .wait on next => .wait on (next.bind f)

instance : Monad (Task σ) where
  pure := .done
  bind := bind

/-- Look at the state. -/
def look (f : σ → α) : Task σ α :=
  .act id fun s => .done (f s)

/-- Change the state. -/
def change (update : σ → σ) : Task σ Unit :=
  .act update fun _ => .done ()

/-- Change the state and give a result that depends on it. -/
def step (f : σ → α × σ) : Task σ α :=
  .act (fun s => (f s).2) fun s => .done (f s).1

/-- Wait. -/
def await (on : Wait σ) : Task σ Unit :=
  .wait on (.done ())

/-! ## The monad laws -/

@[simp] theorem done_bind (a : α) (f : α → Task σ β) : (Task.done a).bind f = f a := rfl

@[simp] theorem bind_done (task : Task σ α) : task.bind .done = task := by
  induction task with
  | done a => rfl
  | act update next ih => simp only [bind, ih]
  | wait on next ih => simp only [bind, ih]

theorem bind_assoc (task : Task σ α) (f : α → Task σ β) (g : β → Task σ γ) :
    (task.bind f).bind g = task.bind fun a => (f a).bind g := by
  induction task with
  | done a => rfl
  | act update next ih => simp only [bind, ih]
  | wait on next ih => simp only [bind, ih]

instance : LawfulMonad (Task σ) :=
  LawfulMonad.mk' (Task σ) (fun task => bind_done task) (fun a f => done_bind a f)
    fun task f g => bind_assoc task f g

/-! ## Running a task -/

/-- **Run a task as far as it goes**: to its result, or to a wait that is not over, at which it is
registered. -/
def poll (self : TaskId) : Task σ α → σ → Task σ α × σ
  | .done a, s => (.done a, s)
  | .act update next, s => (next s).poll self (update s)
  | .wait on next, s => if on.ready s then next.poll self s else (.wait on next, on.register self s)

/-- The result of a task that has one. -/
def result? : Task σ α → Option α
  | .done a => some a
  | _ => none

/-- **Give a task up** where it waits. -/
def abandon : Task σ α → σ → σ
  | .wait on _, s => on.abandon s
  | _, s => s

/-- **A task with something to tidy up** if it is given up while it waits.  The tidying follows that
of the task itself. -/
def guarded (tidy : σ → σ) : Task σ α → Task σ α
  | .done a => .done a
  | .act update next => .act update fun s => (next s).guarded tidy
  | .wait on next => .wait { on with abandon := fun s => tidy (on.abandon s) } (next.guarded tidy)

/-- A task with something to tidy up at its end, however it ends. -/
def holding (tidy : σ → σ) (task : Task σ α) : Task σ α :=
  (task.guarded tidy).bind fun a => .act tidy fun _ => .done a

end Task

end Transactional
