import Transactional.Task.Schedule

/-!
# How a connection ends

A connection is open until it ends, and it ends once: it is closed, or it fails.  Everybody who
looks, however late, sees the same ending.

* `Status`, `Signal` — the state of a connection and who wants to know of its end.
* `Signal.finish` — the end, of which only the first counts.
* `Subscription` — an observer who can tell whether something has changed since.
-/

namespace Transactional

/-- **Whether a connection can be used.** -/
inductive Status where
  | open
  | closed
  | failed
deriving DecidableEq

namespace Status

instance : Inhabited Status := ⟨.open⟩

/-- Whether the connection has ended. -/
def isTerminal (status : Status) : Bool :=
  status ≠ .open

/-- The structural text. -/
def structural : Status → String
  | .open => "Open"
  | .closed => "Closed"
  | .failed => "Failed"

end Status

/-- **The state of a connection**, and who waits for its end. -/
structure Signal where
  status : Status := .open
  version : Nat := 0
  waiting : List TaskId := []

namespace Signal

instance : Inhabited Signal := ⟨{}⟩

/-- **The end.**  Only the first one counts; the answer is whether this was it. -/
def finish (status : Status) (signal : Signal) : Bool × Signal :=
  if signal.status.isTerminal then (false, signal)
  else (true, { signal with status, version := signal.version + 1, waiting := [] })

/-- Wait for the end. -/
def join (task : TaskId) (signal : Signal) : Signal :=
  if signal.waiting.contains task then signal
  else { signal with waiting := signal.waiting ++ [task] }

/-- **The end of a connection**, of which those who wait for it hear. -/
def finishAt [Host σ] (cell : Cell σ Signal) (status : Status) (s : σ) : σ :=
  let signal := cell.get s
  let (first, ended) := signal.finish status
  if first then Host.wakeAll signal.waiting (cell.set ended s) else s

end Signal

/-- **An observer of a signal.** -/
structure Subscription where
  seen : Nat

namespace Subscription

/-- Start observing. -/
def of (signal : Signal) : Subscription :=
  ⟨signal.version⟩

/-- Whether the signal has changed since. -/
def hasChanged (subscription : Subscription) (signal : Signal) : Bool :=
  subscription.seen ≠ signal.version

end Subscription

end Transactional
