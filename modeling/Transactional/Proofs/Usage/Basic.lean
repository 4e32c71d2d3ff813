import Mathlib.Tactic.Common
import Transactional.Mapping.Perform

/-!
# Ways of using a connection

Whoever has a connection uses it as he likes, one operation after the other, and goes by what he
hears.  A way of using a connection is the same for every connection, be it one to a backend or a
lease; so what has been heard on it can be told apart from what the connection makes of it.

* `Use`, `Answered` — a single use, and what has been heard of it.
* `Usage`, `Usage.on` — a way of using a connection, and the task of doing so.
* `Usage.of_perform` — every operation of a program is one.
-/

namespace Transactional

/-- **A single use of a connection.** -/
inductive Use where
  | connect
  | begin
  | commit
  | rollback
  | prepare (sql : String) (kind : StatementKind)
  | execute (handle : StatementHandle) (bindings : List Scalar)
  | destroy (handle : StatementHandle)

namespace Use

/-- What can be heard of a use. -/
abbrev Answer : Use → Type
  | .prepare _ _ => Except Fault StatementHandle
  | .execute _ _ => Except Fault Outcome
  | .destroy _ => Unit
  | .connect | .begin | .commit | .rollback => Except Fault Unit

def on (conn : Connection σ) : (use : Use) → Task σ use.Answer
  | .connect => conn.connect.run
  | .begin => conn.begin.run
  | .commit => conn.commit.run
  | .rollback => conn.rollback.run
  | .prepare sql kind => (conn.prepare sql kind).run
  | .execute handle bindings => (conn.execute handle bindings).run
  | .destroy handle => Task.change (conn.destroy handle)

end Use

/-- **A use, and what has been heard of it.** -/
structure Answered where
  use : Use
  answer : use.Answer

/-- **A way of using a connection**: finitely many uses, each of which may depend on what has been
heard of those before. -/
inductive Usage (α : Type) where
  | done (a : α)
  | use (first : Use) (next : first.Answer → Usage α)

namespace Usage

def bind : Usage α → (α → Usage β) → Usage β
  | .done a, f => f a
  | .use first next, f => .use first fun answer => (next answer).bind f

/-- **Using a connection**, with a record of what has been heard. -/
def on (conn : Connection σ) : Usage α → Task σ (α × List Answered)
  | .done a => .done (a, [])
  | .use first next =>
      (first.on conn).bind fun answer =>
        ((next answer).on conn).bind fun x => .done (x.1, ⟨first, answer⟩ :: x.2)

def result (conn : Connection σ) (usage : Usage α) : Task σ α :=
  (usage.on conn).bind fun x => .done x.1

lemma result_use (conn : Connection σ) (first : Use) (next : first.Answer → Usage α) :
    (Usage.use first next).result conn = (first.on conn).bind fun answer =>
      (next answer).result conn := by
  simp only [result, on, Task.bind_assoc, Task.done_bind]

lemma result_bind (conn : Connection σ) (usage : Usage α) (f : α → Usage β) :
    (usage.bind f).result conn = (usage.result conn).bind fun a => (f a).result conn := by
  induction usage with
  | done a => rfl
  | use first next ih => simp only [bind, result_use, Task.bind_assoc, ih]

end Usage

/-! ## What programs do -/

/-- **Something is done with a connection as a way of using it**, whichever connection that is. -/
def IsUsage (task : (σ : Type) → Connection σ → Task σ α) : Prop :=
  ∃ usage : Usage α, ∀ (σ : Type) (conn : Connection σ), usage.result conn = task σ conn

namespace IsUsage

lemma done (a : α) : IsUsage fun _ _ => .done a :=
  ⟨.done a, fun _ _ => rfl⟩

lemma use (use : Use) : IsUsage fun _ conn => use.on conn :=
  ⟨.use use .done, fun _ conn => (Usage.result_use conn use .done).trans (Task.bind_done _)⟩

lemma bind {task : (σ : Type) → Connection σ → Task σ α}
    {f : α → (σ : Type) → Connection σ → Task σ β} (h : IsUsage task) (hf : ∀ a, IsUsage (f a)) :
    IsUsage fun σ conn => (task σ conn).bind fun a => f a σ conn := by
  obtain ⟨usage, h⟩ := h
  choose next hf using hf
  refine ⟨usage.bind next, fun σ conn => ?_⟩
  simp only [Usage.result_bind, h, hf]

lemma andThen {attempt : (σ : Type) → Connection σ → Attempt σ α}
    {f : α → (σ : Type) → Connection σ → Attempt σ β}
    (h : IsUsage fun σ conn => (attempt σ conn).run)
    (hf : ∀ a, IsUsage fun σ conn => (f a σ conn).run) :
    IsUsage fun σ conn => (attempt σ conn >>= fun a => f a σ conn).run := by
  refine h.bind fun r => ?_
  cases r with
  | ok a => exact hf a
  | error fault => exact done (Except.error fault)

lemma pure (r : Except Fault α) : IsUsage fun σ _ => (Attempt.pureResult r : Attempt σ α).run :=
  done r

lemma query (kind : StatementKind) (sql : String) (bindings : List Scalar) :
    IsUsage fun _ conn => (conn.query kind sql bindings).run := by
  refine andThen (use (.prepare sql kind)) fun handle => ?_
  exact (use (.execute handle bindings)).bind fun outcome => (use (.destroy handle)).bind fun _ =>
    done outcome

lemma built (statement : Except Fault BoundStatement) :
    IsUsage fun _ conn => (conn.runBuilt statement).run :=
  andThen (pure statement) fun statement => query statement.kind statement.sql statement.params

end IsUsage

/-- **Every operation of a program is a way of using its connection.** -/
theorem Usage.of_perform (operation : Operation) :
    IsUsage fun _ conn => (conn.perform operation).run := by
  cases operation with
  | query kind sql bindings =>
    exact (IsUsage.query kind sql bindings).andThen fun _ => .pure (.ok _)
  | insert table row =>
    refine IsUsage.andThen ((IsUsage.built (insertStatement table row)).andThen fun outcome => ?_)
      fun _ => .pure (.ok _)
    cases outcome with
    | inserted number => exact .pure (.ok _)
    | _ => exact .pure (.error _)
  | update table row =>
    exact (IsUsage.andThen ((IsUsage.built (updateStatement table row)).andThen fun _ =>
      .pure (.ok ()))
      fun _ => .pure (.ok _))
  | delete table target =>
    exact (IsUsage.andThen ((IsUsage.built (deleteStatement table target)).andThen fun _ =>
      .pure (.ok ()))
      fun _ => .pure (.ok _))
  | read table key =>
    refine IsUsage.andThen (IsUsage.andThen (IsUsage.query _ _ _) fun outcome => ?_)
      fun _ => .pure (.ok _)
    cases outcome with
    | rows set => exact .pure (.ok _)
    | _ => exact .pure (.error _)
  | prepare kind sql => exact (IsUsage.use (.prepare sql kind)).andThen fun _ => .pure (.ok _)
  | execute statement bindings =>
    exact (IsUsage.use (.execute statement bindings)).andThen fun _ => .pure (.ok _)
  | emit event => exact .pure (.ok _)

end Transactional
