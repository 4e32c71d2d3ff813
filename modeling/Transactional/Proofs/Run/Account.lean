import Transactional.Proofs.Program.Reading
import Transactional.Run

/-!
# Accounts of runs

A run gives its result and nothing else.  Its account is the same task, which also gives the list of
everything that the body has done, as `Program.account` tells it.

* `Run.account` — a run with its account.
* `runWith_eq_account` — without the account it is the run, change for change and wait for wait.
-/

namespace Transactional

namespace Task

/-- One task after the other, with something to tidy up. -/
theorem guarded_bind (tidy : σ → σ) (task : Task σ α) (F : α → Task σ β) :
    (task.bind F).guarded tidy = (task.guarded tidy).bind fun a => (F a).guarded tidy := by
  induction task with
  | done a => rfl
  | act update next ih => simp only [bind, guarded, ih]
  | wait on next ih => simp only [bind, guarded, ih]

/-- Tidying up after the second of them. -/
theorem holding_bind (tidy : σ → σ) (task : Task σ α) (F : α → Task σ β) :
    (task.bind F).holding tidy = (task.guarded tidy).bind fun a => (F a).holding tidy := by
  rw [holding, guarded_bind, bind_assoc]
  rfl

theorem holding_map (tidy : σ → σ) (f : α → β) (task : Task σ α) :
    (task.bind fun a => .done (f a)).holding tidy
      = (task.holding tidy).bind fun a => .done (f a) := by
  rw [holding, guarded_bind, bind_assoc, holding, bind_assoc]
  rfl

variable [Host σ]

/-- It loses its race at the same moments. -/
theorem race_map (clock : Wait σ) (f : α → β) (task : Task σ α) :
    (task.bind fun a => .done (f a)).race clock
      = (task.race clock).bind fun r => .done (r.map f) := by
  induction task with
  | done a => rfl
  | act update next ih => simp only [bind, race, ih]
  | wait on next ih =>
    simp only [bind, race, ih]
    refine congrArg _ (congrArg _ (funext fun s => ?_))
    split <;> rfl

theorem within_map (ms : Nat) (f : α → β) (task : Task σ α) :
    (task.bind fun a => .done (f a)).within ms
      = (task.within ms).bind fun r => .done (r.map f) := by
  rw [within, within, bind_assoc]
  exact congrArg _ (funext fun clock => race_map clock f task)

end Task

namespace Run

variable [Host σ]

/-- **The body of a run with its account.**  If it is cut off nobody knows what it has done. -/
def bodyAccount (conn : Connection σ) (limit : Option Duration) (program : Program σ) :
    Task σ (Except Fault Value × List (Deed σ)) :=
  match limit with
  | none => (program.account conn).bind fun told => .done (told.1.result, told.2)
  | some d =>
      ((program.account conn).within d.ceilMillis).bind fun
        | some told => .done (told.1.result, told.2)
        | none => .done (.error (.timeout d), [])

/-- **A transaction on a connection with its account.** -/
def onAccount (conn : Connection σ) (sink : Sink σ) (limit : Option Duration)
    (program : Program σ) : Task σ (Except Fault Value × List (Deed σ)) :=
  conn.begin.run.bind fun
    | .error fault => conn.close.bind fun _ => .done (.error fault, [])
    | .ok () =>
        (bodyAccount conn limit program).bind fun
          | (.ok value, deeds) =>
              (conclude conn sink value (deeds.flatMap Deed.emitted)).bind fun outcome =>
                .done (outcome, deeds)
          | (.error fault, deeds) => (undo conn fault).bind fun outcome => .done (outcome, deeds)

theorem body_eq_account (conn : Connection σ) (limit : Option Duration) (program : Program σ) :
    body conn limit program
      = (bodyAccount conn limit program).bind fun told =>
          .done (told.1, told.2.flatMap Deed.emitted) := by
  have hrun : program.runOn conn
      = (program.account conn).bind fun told => .done (Exit.ending told) := by
    rw [program.runOn_eq_result, program.result_eq_account]
  cases limit with
  | none =>
    rw [body, bodyAccount, hrun, Task.bind_assoc]
    rfl
  | some d =>
    rw [body, bodyAccount, hrun, Task.within_map, Task.bind_assoc, Task.bind_assoc]
    refine congrArg _ (funext fun told => ?_)
    cases told <;> rfl

theorem on_eq_account (conn : Connection σ) (sink : Sink σ) (limit : Option Duration)
    (program : Program σ) :
    on conn sink limit program
      = (onAccount conn sink limit program).bind fun told => .done told.1 := by
  rw [on, onAccount, Task.bind_assoc]
  refine congrArg _ (funext fun opened => ?_)
  cases opened with
  | error fault => rw [Task.bind_assoc]; rfl
  | ok u =>
    obtain ⟨⟩ := u
    dsimp only
    rw [body_eq_account, Task.bind_assoc, Task.bind_assoc]
    refine congrArg _ (funext fun told => ?_)
    obtain ⟨result, deeds⟩ := told
    cases result <;> simp only [Task.bind_assoc, Task.done_bind, Task.bind_done]

end Run

/-- **A run with its account.** -/
def Run.account [LeaseHost σ] (manager : Manager σ) (sink : Sink σ) (limit : Option Duration)
    (program : Program σ) : Task σ (Except Fault Value × List (Deed σ)) :=
  manager.lease.run.bind fun
    | .error fault => .done (.error fault, [])
    | .ok conn => Task.holding conn.drop (onAccount conn sink limit program)

/-- **Without its account it is the run.** -/
theorem runWith_eq_account [LeaseHost σ] (manager : Manager σ) (sink : Sink σ)
    (limit : Option Duration) (program : Program σ) :
    (runWith manager sink limit program).run
      = (Run.account manager sink limit program).bind fun told => .done told.1 := by
  rw [Run.account, Task.bind_assoc]
  show manager.lease.run.bind _ = _
  refine congrArg _ (funext fun leased => ?_)
  cases leased with
  | error fault => rfl
  | ok conn =>
    show Task.holding conn.drop (Run.on conn sink limit program) = _
    rw [Run.on_eq_account, Task.holding_map]

end Transactional
