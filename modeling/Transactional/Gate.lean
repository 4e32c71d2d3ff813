import Transactional.Task.Schedule

/-!
# Gates

A gate holds up one task until somebody opens it.  If it is taken away instead, the task that waits,
and everybody who comes later, is turned back.

* `Gate.pass` — the task that waits at a gate.
* `Gate.raise`, `Gate.remove` — what others do with it.
-/

namespace Transactional

/-- What has become of a gate. -/
inductive GateState where
  | closed
  | opened
  | removed
deriving DecidableEq

/-- **A gate**, at which one task can wait. -/
structure Gate where
  state : GateState := .closed
  claimed : Bool := false
  deserted : Bool := false
  sleeper : Option TaskId := none

namespace Gate

instance : Inhabited Gate := ⟨{}⟩

/-- Open a gate; the answer is whether somebody passes, or still can. -/
def opening (gate : Gate) : Bool × Gate :=
  match gate.state with
  | .closed => (!gate.deserted, { gate with state := .opened })
  | _ => (false, gate)

/-- Take a gate away, unless it is open. -/
def removing (gate : Gate) : Gate :=
  match gate.state with
  | .closed => { gate with state := .removed }
  | _ => gate

variable [Host σ]

/-- Wake whoever waits at a gate. -/
def rouse (cell : Cell σ Gate) (s : σ) : σ :=
  Host.wakeAll (cell.get s).sleeper.toList s

/-- **Open a gate.** -/
def raise (cell : Cell σ Gate) : Task σ Bool :=
  Task.step fun s =>
    let (received, gate) := (cell.get s).opening
    (received, rouse cell (cell.set gate s))

/-- **Take a gate away.** -/
def remove (cell : Cell σ Gate) : Task σ Unit :=
  Task.change fun s => rouse cell (cell.modify removing s)

/-- Waiting at a gate. -/
def atGate (cell : Cell σ Gate) : Wait σ where
  ready s := (cell.get s).state ≠ .closed
  register self := cell.modify fun gate => { gate with sleeper := some self }
  abandon := cell.modify fun gate => { gate with deserted := true, sleeper := none }

/-- **Pass a gate**, waiting for it to open.  The answer is whether it did. -/
def pass (cell : Cell σ Gate) : Task σ Bool :=
  .act id fun s =>
    if (cell.get s).claimed then .done false
    else
      .act (cell.modify fun gate => { gate with claimed := true }) fun _ =>
        .wait (Task.paced (atGate cell))
          (.act (fun s => Task.spend (cell.modify (fun gate => { gate with sleeper := none }) s))
            fun s => .done ((cell.get s).state = .opened))

end Gate

end Transactional
