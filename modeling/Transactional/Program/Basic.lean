import Transactional.Connection
import Transactional.Program.Operation
import Transactional.Value

/-!
# Programs

A program describes what is to happen inside one transaction.  It is a value: putting programs
together performs nothing, and a continuation is called only when the program is run.

* `Program` — the trees.
* `Program.scope`, `Program.skip` — a scope, and leaving it early with a value.
* `Program.andThen`, `Program.map`, `Program.tryThen`, `Program.maybeSkip` — putting programs
  together.
* `Program.structural` — what can be shown of a program without running it.
-/

namespace Transactional

/-- **A program**, run on a state `σ`. -/
inductive Program (σ : Type) where
  | finish (value : Value)
  | fail (fault : Fault)
  /-- Leave the innermost scope with a value, or the whole program if there is none. -/
  | skip (value : Value)
  | perform (operation : Operation)
  | await (task : Task σ (Except Fault Value))
  | scope (inner : Program σ)
  | andThen (first : Program σ) (next : Value → Program σ)

namespace Program

instance : Inhabited (Program σ) := ⟨.finish .unit⟩

/-- Fail with a message of the program's own. -/
def abort (message : String) : Program σ :=
  .fail (.aborted message)

/-- Announce an event whose payload may be impossible to write; then the program fails here. -/
def emitEncoded (type : String) (payload : Except Fault Json) : Program σ :=
  match payload with
  | .ok json => .perform (.emit ⟨type, json⟩)
  | .error fault => .fail fault

/-- Wait for something outside that fails with a message of its own. -/
def awaitFallible (task : Task σ (Except String Value)) : Program σ :=
  .await (task.bind fun
    | .ok value => .done (.ok value)
    | .error message => .done (.error (.awaited message)))

/-- Go on with a program that may not exist; then the reason is the failure. -/
def tryThen (first : Program σ) (next : Value → Except Fault (Program σ)) : Program σ :=
  .andThen first fun value =>
    match next value with
    | .ok program => program
    | .error fault => .fail fault

/-- Change the value. -/
def map (first : Program σ) (f : Value → Value) : Program σ :=
  .andThen first fun value => .finish (f value)

/-- Run one program after the other, forgetting the value of the first. -/
def next (first second : Program σ) : Program σ :=
  .andThen first fun _ => second

/-- Leave the scope if the program read nothing. -/
def maybeSkip (first : Program σ) : Program σ :=
  .andThen first fun value => if value.isNothing then .skip value else .finish value

/-- The structural text: what is known without calling a continuation. -/
def structural : Program σ → String
  | .finish value => Text.call "Return" [value.structural]
  | .fail fault => Text.call "Fail" [fault.structural]
  | .skip value => Text.call "Skip" [value.structural]
  | .perform operation => Text.call "Op" [operation.structural]
  | .await _ => "Lift(<future>)"
  | .scope inner => Text.call "Continue" [inner.structural]
  | .andThen first _ => Text.call "Bind" [first.structural]

end Program

end Transactional
