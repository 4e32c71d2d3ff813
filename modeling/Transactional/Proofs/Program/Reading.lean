import Mathlib.Logic.Function.Iterate
import Transactional.Program.Machine
import Transactional.Program.Meaning

/-!
# The walk does what the program means

`Walk.run` keeps one flat stack of continuations and ends of scopes; `Program.meaning` recurses on
the program and knows no stack.  What connects them is `Walk.deliver`: it hands the exit of a part
of a program to a stack, and a walk is then the meaning of the part that runs now, with its exit
delivered to what is pending.

* `Deed`, `Program.account` — the recursive reading once more, with a list of what was done on the
  way: the operations performed and the futures awaited, in order and with their outcomes.
* `Task.onward`, `Task.ends` — a task by itself, while others change the state whenever it waits;
  it comes to its end.
* **`runOn_agrees`** — the walk and the two readings are the same task, and the walk ends with what
  the account says, whatever the connection and the futures do.
-/

namespace Transactional

/-! ## What a program does, as a list -/

/-- **One thing done on the way through a program.** -/
inductive Deed (σ : Type) where
  | performed (operation : Operation) (outcome : Except Fault Value)
  | awaited (task : Task σ (Except Fault Value)) (outcome : Except Fault Value)

/-- The events that a deed adds to the buffer: a failed one adds nothing. -/
def Deed.emitted : Deed σ → List Event
  | .performed operation (.ok _) => operation.emitted
  | _ => []

lemma Operation.mem_emitted {operation : Operation} {event : Event} :
    event ∈ operation.emitted ↔ operation = .emit event := by
  cases operation <;> simp [Operation.emitted, eq_comm]

/-- **An event is emitted by the emit of that event**, if it has succeeded, and by nothing else. -/
lemma Deed.mem_emitted {deed : Deed σ} {event : Event} :
    event ∈ deed.emitted ↔ ∃ value, deed = .performed (.emit event) (.ok value) := by
  cases deed with
  | performed operation outcome =>
    cases outcome with
    | ok value => simp [Deed.emitted, Operation.mem_emitted]
    | error fault => simp [Deed.emitted]
  | awaited task outcome => simp [Deed.emitted]

/-- **What is emitted on the way** are the events of the emits that have succeeded. -/
lemma Deed.mem_flatMap_emitted {deeds : List (Deed σ)} {event : Event} :
    event ∈ deeds.flatMap Deed.emitted
      ↔ ∃ value, Deed.performed (.emit event) (.ok value) ∈ deeds := by
  simp only [List.mem_flatMap, Deed.mem_emitted]
  constructor
  · rintro ⟨_, hmem, value, rfl⟩
    exact ⟨value, hmem⟩
  · rintro ⟨value, hmem⟩
    exact ⟨_, hmem, value, rfl⟩

/-- **The account of a program**: how it exits, and everything done until then. -/
def Program.account (conn : Connection σ) : Program σ → Task σ (Exit × List (Deed σ))
  | .finish v => .done (.value v, [])
  | .fail fault => .done (.failed fault, [])
  | .skip v => .done (.skipped v, [])
  | .perform operation =>
      (conn.perform operation).run.bind fun outcome =>
        .done (.ofExcept outcome, [.performed operation outcome])
  | .await task =>
      task.bind fun outcome => .done (.ofExcept outcome, [.awaited task outcome])
  | .scope inner => (inner.account conn).bind fun (exit, deeds) => .done (exit.closeScope, deeds)
  | .andThen first next =>
      (first.account conn).bind fun (exit, deeds) =>
        match exit with
        | .value v => ((next v).account conn).bind fun (exit, more) => .done (exit, deeds ++ more)
        | other => .done (other, deeds)

/-- What a run keeps of an account: the result, and the events in the buffer. -/
def Exit.ending (told : Exit × List (Deed σ)) : Walk.Ending :=
  (told.1.result, told.2.flatMap Deed.emitted)

/-- **The buffer of events is what the account says was emitted**, behind what was there before. -/
theorem Program.meaning_eq_account (conn : Connection σ) (program : Program σ) :
    ∀ events : List Event, program.meaning conn events =
      (program.account conn).bind fun told =>
        .done (told.1, events ++ told.2.flatMap Deed.emitted) := by
  induction program with
  | finish v => intro events; simp [meaning, account]
  | fail fault => intro events; simp [meaning, account]
  | skip v => intro events; simp [meaning, account]
  | perform operation =>
      intro events
      simp only [meaning, account, Task.bind_assoc, Task.done_bind]
      refine congrArg _ (funext fun outcome => ?_)
      cases outcome <;> simp [Exit.ofExcept, Deed.emitted]
  | await task =>
      intro events
      simp only [meaning, account, Task.bind_assoc, Task.done_bind]
      simp [Deed.emitted]
  | scope inner ih =>
      intro events
      simp only [meaning, account, ih events, Task.bind_assoc, Task.done_bind]
  | andThen first next ihf ihn =>
      intro events
      simp only [meaning, account, ihf events, Task.bind_assoc, Task.done_bind]
      refine congrArg _ (funext fun told => ?_)
      obtain ⟨exit, deeds⟩ := told
      cases exit with
      | value v =>
          simp only [ihn v, Task.bind_assoc, Task.done_bind]
          simp [List.append_assoc]
      | skipped v => rfl
      | failed fault => rfl

/-! ## The stack -/

namespace Walk

/-- **Hand an exit to a stack.**  A value goes to the innermost continuation, a skip beyond the
innermost end of a scope, a failure to nobody. -/
def deliver (conn : Connection σ) (frames : List (Frame σ)) : Exit → List Event → Task σ Ending
  | .value v, events =>
      match Frame.receiver? frames with
      | none => .done (.ok v, events)
      | some (k, rest) => run conn (k v) rest events
  | .skipped v, events =>
      match Frame.afterSkip? frames with
      | none => .done (.ok v, events)
      | some beyond =>
          match Frame.receiver? beyond with
          | none => .done (.ok v, events)
          | some (k, rest) => run conn (k v) rest events
  | .failed fault, events => .done (.error fault, events)

/-- Under an empty stack nothing is pending: the exit is the end. -/
theorem deliver_nil (conn : Connection σ) (exit : Exit) (events : List Event) :
    deliver conn [] exit events = .done (exit.result, events) := by
  cases exit <;> rfl

/-- The end of a scope does to an exit what `Exit.closeScope` does. -/
theorem deliver_scopeEnd (conn : Connection σ) (frames : List (Frame σ)) (exit : Exit)
    (events : List Event) :
    deliver conn (.scopeEnd :: frames) exit events
      = deliver conn frames exit.closeScope events := by
  cases exit <;> rfl

/-- A continuation receives a value and lets every other exit pass. -/
theorem deliver_pending (conn : Connection σ) (k : Value → Program σ) (frames : List (Frame σ))
    (exit : Exit) (events : List Event) :
    deliver conn (.pending k :: frames) exit events =
      match exit with
      | .value v => run conn (k v) frames events
      | other => deliver conn frames other events := by
  cases exit <;> rfl

/-- A value is delivered as it is walked on with. -/
theorem run_finish (conn : Connection σ) (v : Value) (frames : List (Frame σ))
    (events : List Event) :
    run conn (.finish v) frames events = deliver conn frames (.value v) events := by
  rw [run, deliver]
  split
  next h => rw [h]
  next k rest h => rw [h]

theorem run_skip (conn : Connection σ) (v : Value) (frames : List (Frame σ))
    (events : List Event) :
    run conn (.skip v) frames events = deliver conn frames (.skipped v) events := by
  rw [run, deliver]
  split
  next h => rw [h]
  next beyond h =>
    rw [h]
    dsimp only
    split
    next h' => rw [h']
    next k rest h' => rw [h']

/-- **A walk is the meaning of what runs now, delivered to what is pending.**  The induction is on
the program alone, for all stacks at once: the continuation of a bind is met again under the stack
that the bind itself had. -/
theorem run_eq_deliver (conn : Connection σ) (program : Program σ) :
    ∀ (frames : List (Frame σ)) (events : List Event), run conn program frames events =
      (program.meaning conn events).bind fun reached => deliver conn frames reached.1
        reached.2 := by
  induction program with
  | finish v => exact run_finish conn v
  | fail fault => intro frames events; rw [run]; rfl
  | skip v => exact run_skip conn v
  | perform operation =>
      intro frames events
      rw [run]
      simp only [Program.meaning, Task.bind_assoc]
      refine congrArg _ (funext fun outcome => ?_)
      cases outcome with
      | error fault => rfl
      | ok v =>
          have hv := run_finish conn v frames (events ++ operation.emitted)
          rw [run] at hv
          exact hv
  | await task =>
      intro frames events
      rw [run]
      simp only [Program.meaning, Task.bind_assoc]
      refine congrArg _ (funext fun outcome => ?_)
      cases outcome with
      | error fault => rfl
      | ok v =>
          have hv := run_finish conn v frames events
          rw [run] at hv
          exact hv
  | scope inner ih =>
      intro frames events
      rw [run, ih]
      simp only [Program.meaning, Task.bind_assoc, Task.done_bind, deliver_scopeEnd]
  | andThen first next ihf ihn =>
      intro frames events
      rw [run, ihf]
      simp only [Program.meaning, Task.bind_assoc, deliver_pending]
      refine congrArg _ (funext fun reached => ?_)
      obtain ⟨exit, events'⟩ := reached
      cases exit with
      | value v => exact ihn v frames events'
      | skipped v => rfl
      | failed fault => rfl

end Walk

/-- The walk of a whole program is its meaning. -/
theorem Program.runOn_eq_result (conn : Connection σ) (program : Program σ) :
    program.runOn conn = program.result conn := by
  simp only [Program.runOn, Program.result, Walk.run_eq_deliver, Walk.deliver_nil]

/-- The meaning of a whole program is what a run keeps of its account. -/
theorem Program.result_eq_account (conn : Connection σ) (program : Program σ) :
    program.result conn = (program.account conn).bind fun told => .done (Exit.ending told) := by
  simp only [Program.result, Program.meaning_eq_account, Task.bind_assoc, Task.done_bind]
  rfl

/-! ## A task by itself -/

namespace Task

/-- **One step of a task by itself.**  The number counts the waits that are over; `meanwhile` says
what others have made of the state until the wait of that number was over. -/
def onward (meanwhile : Nat → σ → σ) : Nat × Task σ α × σ → Nat × Task σ α × σ
  | (waits, .done a, s) => (waits, .done a, s)
  | (waits, .act update next, s) => (waits, next s, update s)
  | (waits, .wait _ next, s) => (waits + 1, next, meanwhile waits s)

/-- **A task comes to its end**, whatever others do while it waits, provided that each wait is
over at some time. -/
theorem ends (meanwhile : Nat → σ → σ) (task : Task σ α) :
    ∀ (waits : Nat) (s : σ), ∃ (steps waits' : Nat) (a : α) (s' : σ),
      (onward meanwhile)^[steps] (waits, task, s) = (waits', .done a, s') := by
  induction task with
  | done a => exact fun waits s => ⟨0, waits, a, s, rfl⟩
  | act update next ih =>
      intro waits s
      obtain ⟨steps, waits', a, s', h⟩ := ih s waits (update s)
      exact ⟨steps + 1, waits', a, s', h⟩
  | wait on next ih =>
      intro waits s
      obtain ⟨steps, waits', a, s', h⟩ := ih (waits + 1) (meanwhile waits s)
      exact ⟨steps + 1, waits', a, s', h⟩

/-- Changing the result of a task changes none of its steps. -/
theorem onward_map (meanwhile : Nat → σ → σ) (f : α → β) (steps : Nat) :
    ∀ (waits : Nat) (task : Task σ α) (s : σ),
      (onward meanwhile)^[steps] (waits, task.bind fun a => .done (f a), s) =
        let (waits', task', s') := (onward meanwhile)^[steps] (waits, task, s)
        (waits', task'.bind fun a => .done (f a), s') := by
  induction steps with
  | zero => intro waits task s; rfl
  | succ steps ih =>
      intro waits task s
      cases task with
      | done a => exact ih waits (.done a) s
      | act update next => exact ih waits (next s) (update s)
      | wait on next => exact ih (waits + 1) next (meanwhile waits s)

end Task

/-! ## The agreement -/

/-- **The walk agrees with the recursive reading of the program.**  On any connection whatever the
walk is the same task as the meaning, change for change and wait for wait, so the same calls are
made with the same arguments and the same futures are awaited, in the same order; and the meaning
is the account without its list.  By itself the walk comes to its end, in as many steps, over as
many waits and in the same state as the account: with the result of the account's exit, and with
the events of the emits in the account, in order. -/
theorem runOn_agrees (conn : Connection σ) (program : Program σ) :
    program.runOn conn = program.result conn
      ∧ program.result conn
          = (program.account conn).bind (fun told => .done (Exit.ending told))
      ∧ ∀ (meanwhile : Nat → σ → σ) (s : σ),
          ∃ (steps waits : Nat) (exit : Exit) (deeds : List (Deed σ)) (s' : σ),
            (Task.onward meanwhile)^[steps] (0, program.account conn, s)
                = (waits, .done (exit, deeds), s')
              ∧ (Task.onward meanwhile)^[steps] (0, program.runOn conn, s)
                = (waits, .done (exit.result, deeds.flatMap Deed.emitted), s') := by
  refine ⟨program.runOn_eq_result conn, program.result_eq_account conn, fun meanwhile s => ?_⟩
  obtain ⟨steps, waits, told, s', h⟩ := (program.account conn).ends meanwhile 0 s
  refine ⟨steps, waits, told.1, told.2, s', h, ?_⟩
  rw [program.runOn_eq_result, program.result_eq_account, Task.onward_map, h]
  rfl

end Transactional
