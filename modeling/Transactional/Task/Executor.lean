import Transactional.Task.Schedule

/-!
# Taking turns

The executor has the tasks that have begun, and lets them run in the order of their turns.  When
nobody has a turn left, it first calls back those who stepped aside, then wakes those who waited for
nobody to have a turn, and then moves the clock to the next timer.

* `Executor` — a state and the tasks on it.
* `Executor.launch`, `Executor.abort` — set a task off, give one up.
* `Executor.drive` — run one task to its end, with all the others beside it, unless nothing can
  happen any more within a span of time.
-/

namespace Transactional

/-- Whether a task can go on. -/
def Task.canGoOn : Task σ α → σ → Bool
  | .wait on _, s => on.ready s
  | _, _ => true

/-- **A state, and the tasks that have begun on it.** -/
structure Executor (σ : Type) where
  state : σ
  tasks : List (TaskId × Task σ Unit) := []
  called : Bool := false

namespace Executor

variable [Host σ]

/-- Change the state. -/
def update (f : σ → σ) (executor : Executor σ) : Executor σ :=
  { executor with state := f executor.state }

/-- Begin a turn. -/
def refresh : Executor σ → Executor σ :=
  update (Host.schedule.modify Schedule.refresh)

/-- Poll a task for a turn, and keep it if it waits. -/
def advance (number : TaskId) (task : Task σ Unit) (executor : Executor σ) : Executor σ :=
  let (task, state) := task.poll number executor.refresh.state
  match task.result? with
  | some () => { executor with state }
  | none => { executor with state, tasks := executor.tasks ++ [(number, task)] }

/-- The number of the task that is run to its end, with the others beside it. -/
def mainTask : TaskId := 0

/-- Take a turn.  That of the task that is run to its end is only noted. -/
def takeTurn (jobs : Job → Task σ Unit) (turn : Turn) (executor : Executor σ) : Executor σ :=
  match turn with
  | .start number job => executor.advance number (jobs job)
  | .resume number =>
      match executor.tasks.find? (·.1 == number) with
      | some (_, task) =>
          { executor with tasks := executor.tasks.filter (·.1 != number) }.advance number task
      | none => if number = mainTask then { executor with called := true } else executor

/-- **Let everybody take their turns**, at most `fuel` of them, until nobody has one left. -/
def takeTurns (jobs : Job → Task σ Unit) : Nat → Executor σ → Executor σ
  | 0, executor => executor
  | fuel + 1, executor =>
      match (Host.schedule.get executor.state).ready with
      | [] => executor
      | turn :: rest =>
          takeTurns jobs fuel <| takeTurn jobs turn <|
            executor.update (Host.schedule.modify fun c => { c with ready := rest })

/-- **Set a task off.** -/
def launch (task : Task σ Unit) (executor : Executor σ) : TaskId × Executor σ :=
  let number := (Host.schedule.get executor.state).nextTask
  (number,
    { executor with
      state := Host.schedule.modify
        (fun c => { c with nextTask := number + 1, ready := c.ready ++ [.resume number] })
        executor.state
      tasks := executor.tasks ++ [(number, task)] })

/-- **Give a task up.** -/
def abort (number : TaskId) (executor : Executor σ) : Executor σ :=
  match executor.tasks.find? (·.1 == number) with
  | some (_, task) =>
      { executor with
        state := task.abandon executor.state
        tasks := executor.tasks.filter (·.1 != number) }
  | none => executor

/-- What happens when nobody has a turn left: those who stepped aside are called back, or else those
who waited for that are woken, or else the clock moves to the next timer before `horizon`. -/
def proceed? (horizon : Nat) (executor : Executor σ) : Option (Executor σ) :=
  let schedule := Host.schedule.get executor.state
  if !schedule.aside.isEmpty then
    some (executor.update (Host.schedule.modify Schedule.callBack))
  else if !schedule.settling.isEmpty then
    some (executor.update (Host.schedule.modify Schedule.calm))
  else
    match schedule.timers with
    | [] => none
    | timer :: _ =>
        if timer.deadline < horizon then
          some (executor.update (Host.schedule.modify (Schedule.advance timer.deadline)))
        else none

/-- How many turns may be taken between two looks at the clock. -/
def turnLimit : Nat := 1000000

/-- The last turn of the task that is run to its end, at `horizon`; if that does not bring it to its
end it is given up. -/
def lastTurn (horizon : Nat) (task : Task σ α) (executor : Executor σ) : Option α × Executor σ :=
  let executor := executor.update (Host.schedule.modify (Schedule.advance horizon))
  let (task, state) := task.poll mainTask executor.state
  match task.result? with
  | some a => (some a, { executor with state })
  | none => (none, { executor with state := task.abandon state })

/-- Run one task to its end, in at most `fuel` rounds.  In each round it goes first, and the others
follow in the order of their turns.  The clock stands still while it has been given a turn or can go
on. -/
def driveRounds (jobs : Job → Task σ Unit) (horizon : Nat) :
    Nat → Task σ α → Executor σ → Option α × Executor σ
  | 0, task, executor => (none, executor.update task.abandon)
  | fuel + 1, task, executor =>
      let (task, state) := task.poll mainTask executor.state
      match task.result? with
      | some a => (some a, { executor with state })
      | none =>
          let executor := takeTurns jobs turnLimit { executor with state, called := false }
          let executor := executor.refresh
          let idle := (Host.schedule.get executor.state).aside.isEmpty
          if idle && (executor.called || task.canGoOn executor.state) then
            driveRounds jobs horizon fuel task executor
          else
            match executor.proceed? horizon with
            | some executor => driveRounds jobs horizon fuel task executor
            | none => lastTurn horizon task executor

/-- How many rounds a task may take. -/
def roundLimit : Nat := 100000

/-- **Run one task to its end**, with the others beside it.  If it does not come to its end within
`span` milliseconds, that much time passes and the task is given up.  What is left of its turn when
it has come to its end is left for the next one. -/
def drive (jobs : Job → Task σ Unit) (span : Nat) (task : Task σ α) (executor : Executor σ) :
    Option α × Executor σ :=
  driveRounds jobs (Host.now executor.state + span) roundLimit task executor

end Executor

end Transactional
