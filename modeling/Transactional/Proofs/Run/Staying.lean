import Transactional.Memory.Backend
import Transactional.Proofs.Run.Account
import Transactional.Proofs.Task.Still

/-!
# Staying in the body of a run

While the body of a run goes on, its stage stays inside of some bounds.  That is a property of tasks
that passes from one to the next, so it is proved of whatever is put together from operations of a
connection and from futures, if it is true of these; and it survives when the body is cut off.

* `Operation.calls`, `Program.Asks` — the calls that an operation and a program ask for.
* `Program.Lifts` — a property of all the futures in a program.
* `Task.Abides`, `Task.Stays` — staying inside of the bounds, where it is said by the way how a task
  is given up, and where they hold also then.
* `Connection.Abides`, `Connection.Stays` — the operations of a connection stay inside of them.
* `Connection.Stays.bodyAccount` — so does the whole body, also if it is cut off.
-/

namespace Transactional

/-! ## What a program asks for -/

/-- The calls that it takes to run a statement once. -/
def BoundStatement.calls (base : Nat) (statement : BoundStatement) : List Memory.Call :=
  [.prepare base statement.sql, .execute base statement.sql statement.params,
    .destroy base statement.sql]

/-- The calls that it takes if the statement exists. -/
def BoundStatement.builtCalls (base : Nat) : Except Fault BoundStatement → List Memory.Call
  | .ok statement => statement.calls base
  | .error _ => []

/-- **The calls that an operation asks for** on a connection.  A statement that is prepared is also
destroyed at some time. -/
def Operation.calls (base : Nat) : Operation → List Memory.Call
  | .query kind sql bindings => BoundStatement.calls base ⟨kind, sql, bindings⟩
  | .insert table row => BoundStatement.builtCalls base (insertStatement table row)
  | .update table row => BoundStatement.builtCalls base (updateStatement table row)
  | .delete table target => BoundStatement.builtCalls base (deleteStatement table target)
  | .read table key => (readStatement table key).calls base
  | .prepare _ sql => [.prepare base sql, .destroy base sql]
  | .execute statement bindings => [.execute base statement.sql bindings]
  | .emit _ => []

namespace Program

/-- **The calls that a program asks for**, whatever its continuations are given. -/
def Asks (base : Nat) : Program σ → Memory.Call → Prop
  | .perform operation, call => call ∈ operation.calls base
  | .scope inner, call => inner.Asks base call
  | .andThen first next, call => first.Asks base call ∨ ∃ v, (next v).Asks base call
  | _, _ => False

/-- **A property of all futures of a program.** -/
def Lifts (P : Task σ (Except Fault Value) → Prop) : Program σ → Prop
  | .await task => P task
  | .scope inner => inner.Lifts P
  | .andThen first next => first.Lifts P ∧ ∀ v, (next v).Lifts P
  | _ => True

end Program

lemma Attempt.obeys_bind {D : Discipline σ φ} {gone : φ → (σ → σ) → Prop} {p : φ}
    {attempt : Attempt σ α} {f : α → Attempt σ β} {ends : Except Fault α → φ → Prop}
    {ends' : Except Fault β → φ → Prop} (h : attempt.run.Obeys D gone ends p)
    (hok : ∀ a q, ends (.ok a) q → (f a).run.Obeys D gone ends' q)
    (herror : ∀ fault q, ends (.error fault) q → ends' (.error fault) q) :
    (attempt >>= f).run.Obeys D gone ends' p := by
  refine Task.Obeys.bind h ?_
  rintro (fault | a) q hq
  · exact herror fault q hq
  · exact hok a q hq

/-! ## Staying inside of bounds -/

namespace Task

variable {D : Discipline σ φ} {gone : φ → (σ → σ) → Prop} {I : φ → Prop} {Q : α → Prop}
  {Q' : β → Prop}

/-- **Staying inside of the bounds `I`** with a result of which `Q` is true, and being given up only
as `gone` says. -/
def Abides (D : Discipline σ φ) (gone : φ → (σ → σ) → Prop) (I : φ → Prop) (Q : α → Prop)
    (task : Task σ α) : Prop :=
  ∀ x, I x → task.Obeys D gone (fun a y => I y ∧ Q a) x

/-- **Staying inside of the bounds `I`**, also when it is given up, with a result of which `Q` is
true. -/
def Stays (D : Discipline σ φ) (I : φ → Prop) (Q : α → Prop) (task : Task σ α) : Prop :=
  ∀ x, I x → task.Obeys D (Company.Leaves D I) (fun a y => I y ∧ Q a) x

namespace Abides

lemma done {a : α} (h : Q a) : Abides D gone I Q (.done a) :=
  fun _ hx => ⟨hx, h⟩

lemma bind {task : Task σ α} {f : α → Task σ β} (h : Abides D gone I Q task)
    (hf : ∀ a, Q a → Abides D gone I Q' (f a)) : Abides D gone I Q' (task.bind f) :=
  fun x hx => (h x hx).bind fun a y hy => hf a hy.2 y hy.1

lemma andThen {Q : Except Fault α → Prop} {attempt : Attempt σ α} {f : α → Attempt σ β}
    (h : Abides D gone I Q attempt.run)
    (hf : ∀ a, Q (.ok a) → Abides D gone I (fun _ => True) (f a).run) :
    Abides D gone I (fun _ => True) (attempt >>= f).run :=
  fun x hx => Attempt.obeys_bind (h x hx) (fun a y hy => hf a hy.2 y hy.1)
    fun _ _ hy => ⟨hy.1, trivial⟩

end Abides

namespace Stays

lemma done {a : α} (h : Q a) : Stays D I Q (.done a) :=
  Abides.done h

lemma bind {task : Task σ α} {f : α → Task σ β} (h : Stays D I Q task)
    (hf : ∀ a, Q a → Stays D I Q' (f a)) : Stays D I Q' (task.bind f) :=
  Abides.bind h hf

lemma act {update : σ → σ} {next : σ → Task σ α}
    (h : ∀ x s, I x → D.knows x s → D.may x s x (update s))
    (hnext : ∀ s, Stays D I Q (next s)) : Stays D I Q (.act update next) :=
  fun x hx s hs => ⟨x, h x s hx hs, hnext s x hx⟩

/-- **A task whose changes are all of one kind**, if that kind leaves it at its stage. -/
lemma of_respects {P : σ → Prop} {R : σ → σ → Prop} {task : Task σ α} (h : task.Respects P R)
    (knows : ∀ x s, I x → D.knows x s → P s)
    (may : ∀ x s s', I x → D.knows x s → R s s' → D.may x s x s')
    (waits : ∀ x ready, I x → task.Waits ready → D.waits x ready) :
    Stays D I (fun _ => True) task := by
  intro x hx
  have hobeys : task.Obeys D (Company.Leaves D I) (fun _ y => y = x) x :=
    Task.Obeys.of_respects h (fun s => knows x s hx) (fun s s' => may x s s' hx)
      (fun ready => waits x ready hx)
      fun f hf s hs => ⟨x, may x s _ hx hs (hf s (knows x s hx hs)), hx⟩
  refine hobeys.imp ?_
  rintro a y rfl
  exact ⟨hx, trivial⟩

end Stays

end Task

/-- **The clock is none of a discipline's business**: turns and timers may change at any time, and a
task may also wait until a timer fires. -/
structure Discipline.Timeless [Host σ] (D : Discipline σ φ) : Prop where
  stay : ∀ {x s}, D.knows x s → D.may x s x s
  after : ∀ {x s y s'} {f : Schedule → Schedule}, (∀ c, (f c).starts = c.starts) →
    D.may x s y s' → D.may x s y (Host.schedule.modify f s')
  either : ∀ {x ready} (other : σ → Bool), D.waits x ready → D.waits x fun s => ready s || other s

namespace Task

variable [Host σ] {D : Discipline σ φ} {I J : φ → Prop} {Q : α → Prop}

/-- **A task with a timer** ends as it does without, or it is given up. -/
theorem Obeys.raced (hD : D.Timeless) {ends : α → φ → Prop} {task : Task σ α} {x : φ}
    (h : task.Obeys D (Company.Leaves D J) ends x) (ticket deadline : Nat) :
    (task.race (timer ticket deadline)).Obeys D (Company.Leaves D J)
      (fun r y => (∀ a, r = some a → ends a y) ∧ (r = none → J y)) x := by
  refine Task.Obeys.race h (fun _ _ => hD.stay) (fun _ _ => hD.either _)
    (fun _ _ _ _ => hD.after (Schedule.starts_arm _)) ?_ ?_ ?_
  · intro y f hleaves s hs
    obtain ⟨z, hmay, hz⟩ := hleaves s hs
    exact ⟨z, hD.after (Schedule.starts_disarm _) hmay, hz⟩
  · rintro a y s hy hs
    refine ⟨y, hD.after (Schedule.starts_disarm _) (hD.stay hs), ?_, by simp⟩
    rintro _ ⟨⟩
    exact hy
  · intro y f s hleaves hs
    obtain ⟨z, hmay, hz⟩ := hleaves s hs
    exact ⟨z, hD.after Schedule.starts_spend (hD.after (Schedule.starts_disarm _) hmay), by simp,
      fun _ => hz⟩

/-- **So does a task that is cut off at its limit.** -/
theorem Obeys.within (hD : D.Timeless) {ends : α → φ → Prop} {task : Task σ α} {x : φ}
    (h : task.Obeys D (Company.Leaves D J) ends x) (ms : Nat) :
    (task.within ms).Obeys D (Company.Leaves D J)
      (fun r y => (∀ a, r = some a → ends a y) ∧ (r = none → J y)) x := by
  have hticket : ∀ c : Schedule, ({ c with nextTicket := c.nextTicket + 1 } : Schedule).starts
      = c.starts := fun _ => rfl
  exact fun s hs => ⟨x, hD.after hticket (hD.stay hs), h.raced hD _ _⟩

/-- It stays inside of its bounds, or it is given up. -/
theorem Abides.within (hD : D.Timeless) {task : Task σ α}
    (h : Abides D (Company.Leaves D J) I Q task)
    (ms : Nat) {x : φ} (hx : I x) :
    (task.within ms).Obeys D (Company.Leaves D J)
      (fun r y => (∀ a, r = some a → I y ∧ Q a) ∧ (r = none → J y)) x :=
  Obeys.within hD (h x hx) ms

/-- It stays inside of bounds that hold also when it is given up. -/
theorem Stays.within (hD : D.Timeless) {task : Task σ α} (h : Stays D I Q task) (ms : Nat) :
    Stays D I (fun _ => True) (task.within ms) := by
  refine fun x hx => (Abides.within hD h ms hx).imp ?_
  rintro (_ | a) y ⟨hsome, hnone⟩
  · exact ⟨hnone rfl, trivial⟩
  · exact ⟨(hsome a rfl).1, trivial⟩

end Task

/-! ## Programs that stay inside of bounds -/

/-- **The operations of a connection stay inside of the bounds**, as far as they are `asked`, and
are given up only as `gone` says. -/
structure Connection.Abides (D : Discipline σ φ) (gone : φ → (σ → σ) → Prop) (I : φ → Prop)
    (asked : Memory.Call → Prop) (base : Nat) (conn : Connection σ) : Prop where
  prepare : ∀ (sql : String) (kind : StatementKind),
    asked (.prepare base sql) → asked (.destroy base sql) →
    Task.Abides D gone I (fun r => ∀ handle, r = .ok handle → handle.sql = sql)
      (conn.prepare sql kind).run
  execute : ∀ (handle : StatementHandle) (bindings : List Scalar),
    asked (.execute base handle.sql bindings) →
    Task.Abides D gone I (fun _ => True) (conn.execute handle bindings).run
  destroy : ∀ handle : StatementHandle, asked (.destroy base handle.sql) →
    Task.Abides D gone I (fun _ => True) (Task.change (conn.destroy handle))

namespace Connection.Abides

variable {D : Discipline σ φ} {gone : φ → (σ → σ) → Prop} {I : φ → Prop}
  {asked : Memory.Call → Prop} {base : Nat} {conn : Connection σ}
  (S : conn.Abides D gone I asked base)

include S

lemma query {statement : BoundStatement} (h : ∀ call ∈ statement.calls base, asked call) :
    Task.Abides D gone I (fun _ => True)
      (conn.query statement.kind statement.sql statement.params).run := by
  simp only [BoundStatement.calls, List.mem_cons, List.not_mem_nil, or_false,
    forall_eq_or_imp, forall_eq] at h
  obtain ⟨hprepare, hexecute, hdestroy⟩ := h
  refine (S.prepare statement.sql statement.kind hprepare hdestroy).andThen fun handle hsql => ?_
  have hsql := hsql handle rfl
  refine Task.Abides.bind (S.execute handle statement.params (hsql ▸ hexecute)) fun outcome _ => ?_
  refine Task.Abides.bind (S.destroy handle (hsql ▸ hdestroy)) (f := fun _ => .done outcome)
    fun _ _ => .done trivial

lemma built {statement : Except Fault BoundStatement}
    (h : ∀ call ∈ BoundStatement.builtCalls base statement, asked call) :
    Task.Abides D gone I (fun _ => True) (conn.runBuilt statement).run := by
  refine Task.Abides.andThen (Q := fun r => r = statement) (.done rfl) fun statement' hok => ?_
  obtain rfl := hok
  exact S.query h

/-- **Every operation stays inside of the bounds.** -/
lemma perform (operation : Operation) (h : ∀ call ∈ operation.calls base, asked call) :
    Task.Abides D gone I (fun _ => True) (conn.perform operation).run := by
  have hpure : ∀ {α : Type} (r : Except Fault α),
      Task.Abides D gone I (fun _ => True) (Attempt.pureResult r : Attempt σ α).run :=
    fun _ => .done trivial
  cases operation with
  | query kind sql bindings => exact (S.query h).andThen fun _ _ => hpure (.ok _)
  | insert table row =>
    refine Task.Abides.andThen (Q := fun _ => True) ?_ fun _ _ => hpure (.ok _)
    refine (S.built h).andThen fun outcome _ => ?_
    cases outcome with
    | inserted number => exact hpure (.ok _)
    | _ => exact hpure (.error _)
  | update table row =>
    refine Task.Abides.andThen (Q := fun _ => True) ?_ fun _ _ => hpure (.ok _)
    exact (S.built h).andThen fun _ _ => hpure (.ok _)
  | delete table target =>
    refine Task.Abides.andThen (Q := fun _ => True) ?_ fun _ _ => hpure (.ok _)
    exact (S.built h).andThen fun _ _ => hpure (.ok _)
  | read table key =>
    refine Task.Abides.andThen (Q := fun _ => True) ?_ fun _ _ => hpure (.ok _)
    refine Task.Abides.andThen (S.query h) fun outcome _ => ?_
    cases outcome with
    | rows set => exact hpure (.ok _)
    | _ => exact hpure (.error _)
  | prepare kind sql =>
    have hprepare := h (.prepare base sql) (by simp [Operation.calls])
    have hdestroy := h (.destroy base sql) (by simp [Operation.calls])
    exact (S.prepare sql kind hprepare hdestroy).andThen fun _ _ => hpure (.ok _)
  | execute statement bindings =>
    have hexecute := h (.execute base statement.sql bindings) (by simp [Operation.calls])
    exact (S.execute statement bindings hexecute).andThen fun _ _ => hpure (.ok _)
  | emit event => exact hpure (.ok _)

/-- **Every program stays inside of the bounds**, if its futures do. -/
theorem account (program : Program σ) (hasked : ∀ call, program.Asks base call → asked call)
    (hlifts : program.Lifts fun task => task.Abides D gone I fun _ => True) :
    Task.Abides D gone I (fun _ => True) (program.account conn) := by
  induction program with
  | finish v => exact .done trivial
  | fail fault => exact .done trivial
  | skip v => exact .done trivial
  | perform operation => exact (S.perform operation hasked).bind fun _ _ => .done trivial
  | await task => exact Task.Abides.bind hlifts fun _ _ => .done trivial
  | scope inner ih => exact (ih hasked hlifts).bind fun _ _ => .done trivial
  | andThen first next ihf ihn =>
    unfold Program.account
    refine Task.Abides.bind (ihf (fun call hcall => hasked call (.inl hcall)) hlifts.1) ?_
    rintro ⟨exit, deeds⟩ -
    cases exit with
    | value v =>
      refine (ihn v (fun call hcall => hasked call (.inr ⟨v, hcall⟩)) (hlifts.2 v)).bind ?_
      exact fun _ _ => .done trivial
    | skipped v => exact .done trivial
    | failed fault => exact .done trivial

end Connection.Abides

/-- **The operations of a connection stay inside of the bounds**, as far as they are `asked`. -/
structure Connection.Stays (D : Discipline σ φ) (I : φ → Prop) (asked : Memory.Call → Prop)
    (base : Nat) (conn : Connection σ) : Prop where
  prepare : ∀ (sql : String) (kind : StatementKind),
    asked (.prepare base sql) → asked (.destroy base sql) →
    Task.Stays D I (fun r => ∀ handle, r = .ok handle → handle.sql = sql)
      (conn.prepare sql kind).run
  execute : ∀ (handle : StatementHandle) (bindings : List Scalar),
    asked (.execute base handle.sql bindings) →
    Task.Stays D I (fun _ => True) (conn.execute handle bindings).run
  destroy : ∀ handle : StatementHandle, asked (.destroy base handle.sql) →
    Task.Stays D I (fun _ => True) (Task.change (conn.destroy handle))

namespace Connection.Stays

variable {D : Discipline σ φ} {I : φ → Prop} {asked : Memory.Call → Prop} {base : Nat}
  {conn : Connection σ} (S : conn.Stays D I asked base)

include S

lemma abides : conn.Abides D (Company.Leaves D I) I asked base :=
  ⟨S.prepare, S.execute, S.destroy⟩

/-- **Every program stays inside of the bounds**, if its futures do. -/
theorem account (program : Program σ) (hasked : ∀ call, program.Asks base call → asked call)
    (hlifts : program.Lifts fun task => task.Stays D I fun _ => True) :
    Task.Stays D I (fun _ => True) (program.account conn) :=
  S.abides.account program hasked hlifts

/-- **The body of a run stays inside of the bounds**, also if it is cut off at its limit. -/
theorem bodyAccount [Host σ] (hD : D.Timeless) (limit : Option Duration) (program : Program σ)
    (hasked : ∀ call, program.Asks base call → asked call)
    (hlifts : program.Lifts fun task => task.Stays D I fun _ => True) :
    Task.Stays D I (fun _ => True) (Run.bodyAccount conn limit program) := by
  have hprogram := S.account program hasked hlifts
  cases limit with
  | none => exact hprogram.bind fun _ _ => .done trivial
  | some d =>
    refine (hprogram.within hD d.ceilMillis).bind ?_
    rintro (_ | told) - <;> exact .done trivial

end Connection.Stays

namespace Program.Lifts

variable {P P' : Task σ (Except Fault Value) → Prop} {program : Program σ}

lemma of_forall (h : ∀ task, P task) : program.Lifts P := by
  induction program with
  | await task => exact h task
  | scope inner ih => exact ih
  | andThen first next ihf ihn => exact ⟨ihf, fun v => ihn v⟩
  | _ => trivial

lemma and (h : program.Lifts P) (h' : program.Lifts P') :
    program.Lifts fun task => P task ∧ P' task := by
  induction program with
  | await task => exact ⟨h, h'⟩
  | scope inner ih => exact ih h h'
  | andThen first next ihf ihn => exact ⟨ihf h.1 h'.1, fun v => ihn v (h.2 v) (h'.2 v)⟩
  | _ => trivial

lemma imp (h : program.Lifts P) (himp : ∀ task, P task → P' task) : program.Lifts P' := by
  induction program with
  | await task => exact himp task h
  | scope inner ih => exact ih h
  | andThen first next ihf ihn => exact ⟨ihf h.1, fun v => ihn v (h.2 v)⟩
  | _ => trivial

end Program.Lifts

end Transactional
