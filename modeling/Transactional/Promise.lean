import Transactional.Task.Schedule

/-!
# Promises

A task that was set off can leave its result where another task waits for it.
-/

namespace Transactional

/-- **A result that may still be missing.** -/
structure Promise (α : Type) where
  result : Option α := none
  waiting : Option TaskId := none

namespace Promise

instance : Inhabited (Promise α) := ⟨{}⟩

variable [Host σ]

/-- Leave a result. -/
def fulfil (cell : Cell σ (Promise α)) (a : α) (s : σ) : σ :=
  let waiting := (cell.get s).waiting
  Host.wakeAll waiting.toList (cell.modify (fun p => { p with result := some a }) s)

/-- **A task that leaves its result.** -/
def keep (cell : Cell σ (Promise α)) (task : Task σ α) : Task σ Unit :=
  task.bind fun a => Task.change (fulfil cell a)

/-- Waiting for a result. -/
def kept (cell : Cell σ (Promise α)) : Wait σ where
  ready s := (cell.get s).result.isSome
  register self := cell.modify fun p => { p with waiting := some self }
  abandon := cell.modify fun p => { p with waiting := none }

/-- **Wait for a result.** -/
def await (cell : Cell σ (Promise α)) : Task σ (Option α) :=
  .wait (Task.paced (kept cell)) (.act Task.spend fun s => .done (cell.get s).result)

end Promise

end Transactional
