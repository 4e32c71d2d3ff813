import Transactional.Mapping.Perform
import Transactional.Program.Basic

/-!
# Running the body of a transaction

A program is walked with a stack of what is pending: continuations that wait for a value, and the
ends of scopes.  Neither a long program nor one whose binds lie deep inside each other makes the
walk itself deeper.

* `Frame`, `Walk` — the stack, and a program together with it.
* `Walk.Next` — how one position follows another; `Walk.next_wellFounded` says that no walk goes
  on for ever, so that the walk is a total function.
* `Walk.run` — the walk, as a task that gives the result and the events announced on the way.
-/

namespace Transactional

/-- **What is pending.** -/
inductive Frame (σ : Type) where
  | pending (next : Value → Program σ)
  | scopeEnd

/-- Where a value goes: to the innermost continuation, past the ends of scopes. -/
def Frame.receiver? : List (Frame σ) → Option ((Value → Program σ) × List (Frame σ))
  | [] => none
  | .pending next :: rest => some (next, rest)
  | .scopeEnd :: rest => receiver? rest

/-- What is left after a skip: everything beyond the innermost end of a scope, if there is one. -/
def Frame.afterSkip? : List (Frame σ) → Option (List (Frame σ))
  | [] => none
  | .pending _ :: rest => afterSkip? rest
  | .scopeEnd :: rest => some rest

/-- **A position of a walk**: a program, and what is pending after it. -/
structure Walk (σ : Type) where
  program : Program σ
  frames : List (Frame σ)

namespace Walk

/-! ## No walk goes on for ever -/

/-- **How one position follows another.** -/
inductive Next : Walk σ → Walk σ → Prop where
  | first (p : Program σ) (k : Value → Program σ) (frames : List (Frame σ)) :
      Next ⟨p, .pending k :: frames⟩ ⟨.andThen p k, frames⟩
  | enter (p : Program σ) (frames : List (Frame σ)) :
      Next ⟨p, .scopeEnd :: frames⟩ ⟨.scope p, frames⟩
  | resume (p : Program σ) (frames : List (Frame σ)) (v : Value) (k : Value → Program σ)
      (rest : List (Frame σ)) (h : Frame.receiver? frames = some (k, rest)) :
      Next ⟨k v, rest⟩ ⟨p, frames⟩
  | leave (p : Program σ) (frames beyond : List (Frame σ)) (v : Value) (k : Value → Program σ)
      (rest : List (Frame σ)) (h : Frame.afterSkip? frames = some beyond)
      (h' : Frame.receiver? beyond = some (k, rest)) :
      Next ⟨k v, rest⟩ ⟨p, frames⟩

/-- Every continuation of a stack leads to positions from which no walk goes on for ever. -/
inductive Grounded : List (Frame σ) → Prop where
  | nil : Grounded []
  | scopeEnd {frames : List (Frame σ)} (h : Grounded frames) : Grounded (.scopeEnd :: frames)
  | pending {k : Value → Program σ} {frames : List (Frame σ)}
      (hk : ∀ v, Acc Next (⟨k v, frames⟩ : Walk σ)) (h : Grounded frames) :
      Grounded (.pending k :: frames)

theorem Grounded.receiver {frames : List (Frame σ)} (h : Grounded frames) {k : Value → Program σ}
    {rest : List (Frame σ)} (hr : Frame.receiver? frames = some (k, rest)) (v : Value) :
    Acc Next (⟨k v, rest⟩ : Walk σ) := by
  induction h with
  | nil => simp [Frame.receiver?] at hr
  | scopeEnd _ ih => exact ih (by simpa [Frame.receiver?] using hr)
  | pending hk _ _ =>
    simp only [Frame.receiver?, Option.some.injEq, Prod.mk.injEq] at hr
    obtain ⟨rfl, rfl⟩ := hr
    exact hk v

theorem Grounded.afterSkip {frames beyond : List (Frame σ)} (h : Grounded frames)
    (hs : Frame.afterSkip? frames = some beyond) : Grounded beyond := by
  induction h with
  | nil => simp [Frame.afterSkip?] at hs
  | scopeEnd h _ =>
    simp only [Frame.afterSkip?, Option.some.injEq] at hs
    exact hs ▸ h
  | pending _ _ ih => exact ih (by simpa [Frame.afterSkip?] using hs)

/-- A position whose stack is grounded is accessible, whatever its program. -/
theorem acc_of_grounded (p : Program σ) :
    ∀ {frames : List (Frame σ)}, Grounded frames → Acc Next (⟨p, frames⟩ : Walk σ) := by
  induction p with
  | finish _ | fail _ | skip _ | perform _ | await _ =>
    intro frames h
    refine ⟨_, fun w hw => ?_⟩
    cases hw with
    | resume _ _ v k rest hr => exact h.receiver hr v
    | leave _ _ beyond v k rest hs hr => exact (h.afterSkip hs).receiver hr v
  | scope p ih =>
    intro frames h
    refine ⟨_, fun w hw => ?_⟩
    cases hw with
    | enter => exact ih (.scopeEnd h)
    | resume _ _ v k rest hr => exact h.receiver hr v
    | leave _ _ beyond v k rest hs hr => exact (h.afterSkip hs).receiver hr v
  | andThen p k ihp ihk =>
    intro frames h
    refine ⟨_, fun w hw => ?_⟩
    cases hw with
    | first => exact ihp (.pending (fun v => ihk v h) h)
    | resume _ _ v k rest hr => exact h.receiver hr v
    | leave _ _ beyond v k rest hs hr => exact (h.afterSkip hs).receiver hr v

/-- Every stack is grounded. -/
theorem grounded (frames : List (Frame σ)) : Grounded frames := by
  induction frames with
  | nil => exact .nil
  | cons frame rest ih =>
    cases frame with
    | scopeEnd => exact .scopeEnd ih
    | pending k => exact .pending (fun v => acc_of_grounded (k v) ih) ih

/-- **No walk goes on for ever.** -/
theorem next_wellFounded : WellFounded (Next (σ := σ)) :=
  ⟨fun w => acc_of_grounded w.program (grounded w.frames)⟩

instance : WellFoundedRelation (Walk σ) :=
  ⟨Next, next_wellFounded⟩

/-! ## The walk -/

/-- What a walk ends with: a result, and the events announced on the way, oldest first. -/
abbrev Ending : Type :=
  Except Fault Value × List Event

/-- **Walk a program**, with what is pending after it. -/
def run (conn : Connection σ) (program : Program σ) (frames : List (Frame σ))
    (events : List Event) : Task σ Ending :=
  match program with
  | .andThen p k => run conn p (.pending k :: frames) events
  | .scope p => run conn p (.scopeEnd :: frames) events
  | .finish v =>
      match _received : Frame.receiver? frames with
      | none => .done (.ok v, events)
      | some (k, rest) => run conn (k v) rest events
  | .fail fault => .done (.error fault, events)
  | .skip v =>
      match _left : Frame.afterSkip? frames with
      | none => .done (.ok v, events)
      | some beyond =>
          match _received : Frame.receiver? beyond with
          | none => .done (.ok v, events)
          | some (k, rest) => run conn (k v) rest events
  | .perform operation =>
      (conn.perform operation).run.bind fun
        | .error fault => .done (.error fault, events)
        | .ok v =>
            match _received : Frame.receiver? frames with
            | none => .done (.ok v, events ++ operation.emitted)
            | some (k, rest) => run conn (k v) rest (events ++ operation.emitted)
  | .await task =>
      task.bind fun
        | .error fault => .done (.error fault, events)
        | .ok v =>
            match _received : Frame.receiver? frames with
            | none => .done (.ok v, events)
            | some (k, rest) => run conn (k v) rest events
termination_by (⟨program, frames⟩ : Walk σ)
decreasing_by
  · exact .first p k frames
  · exact .enter p frames
  · exact .resume _ frames v k rest _received
  · exact .leave _ frames beyond v k rest _left _received
  · exact .resume _ frames v k rest _received
  · exact .resume _ frames v k rest _received

end Walk

/-- **Run the body of a transaction** on a connection. -/
def Program.runOn (program : Program σ) (conn : Connection σ) : Task σ Walk.Ending :=
  Walk.run conn program [] []

end Transactional
