import Transactional.Task.Basic
import Transactional.Trace

/-!
# The schedule

Tasks take turns.  The schedule holds the turns to come, first come first served, and the timers;
the clock counts milliseconds and moves only when no turn is left.

A turn does not last for ever.  A task that has come through a hundred and twenty-eight permits,
gates and timers in one turn steps aside in front of the next one, until nobody else has a turn
left.

* `Schedule` — turns, timers, clock.
* `Host` — a state that has a schedule and a place for reports.
* `Host.wake`, `Host.spawn` — give a task its next turn, start a task.
* `Task.pause`, `Task.paced`, `Task.spend` — what makes a long turn end.
* `Task.sleep`, `Task.within`, `Task.settle` — waiting for the clock, giving up at a deadline, and
  letting everybody else run first.
-/

namespace Transactional

/-- **Work that the library starts on its own**: to look after a lease until it ends, to close one
that nobody holds any longer, and to open a connection that somebody waits for.  The first two name
the connection beneath and the lease. -/
inductive Job where
  | watch (base lease : Nat)
  | close (base lease : Nat)
  | replenish
deriving DecidableEq

/-- **A turn to come.** -/
inductive Turn where
  | resume (task : TaskId)
  | start (task : TaskId) (job : Job)
deriving DecidableEq

/-- Whether a turn is that of a task. -/
def Turn.isOf (task : TaskId) : Turn → Bool
  | .resume t => t == task
  | .start t _ => t == task

/-- A timer that somebody waits for. -/
structure Timer where
  deadline : Nat
  ticket : Nat
  sleeper : TaskId
deriving DecidableEq

/-- How much there is in a turn. -/
def Schedule.fullTurn : Nat := 128

/-- **Turns, timers and the clock.** -/
structure Schedule where
  now : Nat := 0
  ready : List Turn := []
  timers : List Timer := []
  settling : List (Nat × Option TaskId) := []
  allowance : Nat := Schedule.fullTurn
  aside : List TaskId := []
  nextTicket : Nat := 0
  nextTask : TaskId := 1

namespace Schedule

/-- Give a task a turn, unless one is due to it already. -/
def wake (task : TaskId) (schedule : Schedule) : Schedule :=
  if schedule.ready.any (·.isOf task) then schedule
  else { schedule with ready := schedule.ready ++ [.resume task] }

/-- Begin a turn. -/
def refresh (schedule : Schedule) : Schedule :=
  { schedule with allowance := fullTurn }

/-- Use up a part of a turn. -/
def spend (schedule : Schedule) : Schedule :=
  { schedule with allowance := schedule.allowance - 1 }

/-- Step aside. -/
def stepAside (task : TaskId) (schedule : Schedule) : Schedule :=
  if schedule.aside.head? = some task then schedule
  else { schedule with aside := task :: schedule.aside }

/-- Give those who stepped aside their turns, the last one first. -/
def callBack (schedule : Schedule) : Schedule :=
  schedule.aside.foldl (fun s task => s.wake task) { schedule with aside := [] }

/-- Start a task. -/
def spawn (job : Job) (schedule : Schedule) : Schedule :=
  { schedule with
    ready := schedule.ready ++ [.start schedule.nextTask job]
    nextTask := schedule.nextTask + 1 }

/-- Put a timer among others, behind those that fire at the same time. -/
def insertTimer (timer : Timer) : List Timer → List Timer
  | [] => [timer]
  | t :: rest =>
      if t.deadline ≤ timer.deadline then t :: insertTimer timer rest else timer :: t :: rest

/-- Set a timer, unless it is set. -/
def arm (timer : Timer) (schedule : Schedule) : Schedule :=
  if schedule.timers.any (·.ticket == timer.ticket) then schedule
  else { schedule with timers := insertTimer timer schedule.timers }

/-- Take a timer back. -/
def disarm (ticket : Nat) (schedule : Schedule) : Schedule :=
  { schedule with timers := schedule.timers.filter (·.ticket != ticket) }

/-- Move the clock, and wake those whose time has come. -/
def advance (time : Nat) (schedule : Schedule) : Schedule :=
  let due := schedule.timers.takeWhile (·.deadline ≤ time)
  let later := schedule.timers.dropWhile (·.deadline ≤ time)
  due.foldl (fun s timer => s.wake timer.sleeper) { schedule with now := time, timers := later }

/-- Wake those who waited for everybody else. -/
def calm (schedule : Schedule) : Schedule :=
  schedule.settling.foldl
    (fun s entry => match entry.2 with
      | some task => s.wake task
      | none => s)
    { schedule with settling := [] }

end Schedule

/-- **A state with a schedule** and a place for reports. -/
class Host (σ : Type) where
  schedule : Cell σ Schedule
  traces : Cell σ (List Trace)

namespace Host

variable [Host σ]

/-- Give a task a turn. -/
def wake (task : TaskId) : σ → σ :=
  schedule.modify (Schedule.wake task)

/-- Give tasks their turns, in order. -/
def wakeAll (tasks : List TaskId) (s : σ) : σ :=
  tasks.foldl (fun s task => wake task s) s

/-- Start a task. -/
def spawn (job : Job) : σ → σ :=
  schedule.modify (Schedule.spawn job)

/-- Report something. -/
def report (trace : Trace) : σ → σ :=
  traces.modify (· ++ [trace])

/-- The time in milliseconds. -/
def now (s : σ) : Nat :=
  (schedule.get s).now

/-- Take a ticket. -/
def takeTicket (s : σ) : Nat × σ :=
  ((schedule.get s).nextTicket,
    schedule.modify (fun c => { c with nextTicket := c.nextTicket + 1 }) s)

end Host

namespace Task

variable [Host σ]

/-! ## The length of a turn -/

/-- Use up a part of a turn. -/
def spend : σ → σ :=
  Host.schedule.modify Schedule.spend

/-- Waiting for another turn, if nothing is left of this one. -/
def pause : Wait σ where
  ready s := 0 < (Host.schedule.get s).allowance
  register self := Host.schedule.modify (Schedule.stepAside self)
  abandon := id

/-- **A wait that is only looked at while something is left of the turn.** -/
def paced (on : Wait σ) : Wait σ where
  ready s := pause.ready s && on.ready s
  register self s := if pause.ready s then on.register self s else pause.register self s
  abandon := on.abandon

/-! ## Waiting for the clock -/

/-- Waiting for a point in time. -/
def timer (ticket deadline : Nat) : Wait σ where
  ready s := deadline ≤ Host.now s
  register self := Host.schedule.modify (Schedule.arm ⟨deadline, ticket, self⟩)
  abandon := Host.schedule.modify (Schedule.disarm ticket)

/-- Take a timer that fires after a number of milliseconds. -/
def takeTimer (ms : Nat) : Task σ (Wait σ) :=
  step fun s =>
    let (ticket, s') := Host.takeTicket s
    (timer ticket (Host.now s + ms), s')

/-- **Wait for a number of milliseconds.** -/
def sleep (ms : Nat) : Task σ Unit :=
  (takeTimer ms).bind fun clock =>
    .wait (paced clock) (.act (fun s => spend (clock.abandon s)) fun _ => .done ())

/-- Waiting for one thing or another. -/
def either (a b : Wait σ) : Wait σ where
  ready s := a.ready s || b.ready s
  register self s := b.register self (a.register self s)
  abandon s := b.abandon (a.abandon s)

/-- Run a task while a wait is not over.  The task comes first: it is given up only where it waits
itself. -/
def race (clock : Wait σ) : Task σ α → Task σ (Option α)
  | .done a => .act clock.abandon fun _ => .done (some a)
  | .act update next => .act update fun s => (next s).race clock
  | .wait on next =>
      .wait (either on clock) (.act id fun s =>
        if on.ready s then next.race clock
        else .act (fun s => spend (clock.abandon (on.abandon s))) fun _ => .done none)

/-- **Run a task for at most a number of milliseconds**; nothing comes back if it was given up. -/
def within (ms : Nat) (task : Task σ α) : Task σ (Option α) :=
  (takeTimer ms).bind fun clock => task.race clock

/-! ## Waiting for everybody else -/

/-- Waiting until nobody has a turn to come. -/
def calm (ticket : Nat) : Wait σ where
  ready s := !(Host.schedule.get s).settling.any (·.1 == ticket)
  register self := Host.schedule.modify fun c =>
    { c with settling := c.settling.map fun e => if e.1 = ticket then (ticket, some self) else e }
  abandon := Host.schedule.modify fun c =>
    { c with settling := c.settling.filter (·.1 != ticket) }

/-- **Let everybody else run** until they wait. -/
def settle : Task σ Unit :=
  (step fun s : σ =>
    let (ticket, s) := Host.takeTicket s
    (ticket, Host.schedule.modify
      (fun c => { c with settling := c.settling ++ [(ticket, none)] }) s)).bind
    fun ticket => await (calm ticket)

end Task

end Transactional
