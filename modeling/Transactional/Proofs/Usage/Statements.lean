import Transactional.Proofs.Lease.Release
import Transactional.Proofs.Run.Staying
import Transactional.Proofs.Usage.Tally

/-!
# Statements that are run once

Most operations of a program prepare a statement, execute it and destroy it again.  On whichever
layer they are performed, and whatever becomes of the calls, no statement is left behind by them:
what a whole program leaves is what its own preparing has added.

* `Operation.statement?`, `Operation.usage` — the statement that an operation runs once, and any
  operation as a way of using a connection.
* `Counts.usage`, `Counts.account` — the count after a usage, and after a program.
* `Underway` — a task, and what others do meanwhile.
* `Block` — what an operation hears, and the calls that it makes.
* `statements_balanced` — what becomes of the statements on a connection.
* `closing_interferes` — a lease that is closed in the middle of an operation.
-/

namespace Transactional

/-! ## Usages -/

namespace Usage

def OnStatements : Usage α → Prop
  | .done _ => True
  | .use first next => first.OnStatements ∧ ∀ answer, (next answer).OnStatements

/-- **What can be heard of a usage**, and what it ends with then. -/
inductive Hears : Usage α → α → List Answered → Prop where
  | done (a : α) : Hears (.done a) a []
  | use {first : Use} {next : first.Answer → Usage α} {a : α} {taken : List Answered}
      (answer : first.Answer)
      (rest : Hears (next answer) a taken) : Hears (.use first next) a (⟨first, answer⟩ :: taken)

lemma OnStatements.bind {usage : Usage α} {f : α → Usage β} (h : usage.OnStatements)
    (hf : ∀ a, (f a).OnStatements) : (usage.bind f).OnStatements := by
  induction usage with
  | done a => exact hf a
  | use first next ih => exact ⟨h.1, fun answer => ih answer (h.2 answer)⟩

lemma Hears.first {first : Use} {next : first.Answer → Usage α} {a : α} {taken : List Answered}
    (h : Hears (.use first next) a taken) :
    ∃ answer rest, taken = ⟨first, answer⟩ :: rest ∧ Hears (next answer) a rest := by
  cases h with
  | use answer rest => exact ⟨answer, _, rfl, rest⟩

lemma Hears.of_map {usage : Usage α} {f : α → β} {b : β} {taken : List Answered}
    (h : (usage.bind fun a => .done (f a)).Hears b taken) : ∃ a, b = f a ∧ usage.Hears a taken := by
  induction usage generalizing taken with
  | done a =>
    cases h
    exact ⟨a, rfl, .done a⟩
  | use first next ih =>
    cases h with
    | use answer rest =>
      obtain ⟨a, rfl, hears⟩ := ih answer rest
      exact ⟨a, rfl, .use answer hears⟩

/-- **Running a statement once.** -/
def once (statement : BoundStatement) : Usage (Except Fault Outcome) :=
  .use (.prepare statement.sql statement.kind) fun
    | .error fault => .done (.error fault)
    | .ok handle =>
        .use (.execute handle statement.params) fun outcome =>
          .use (.destroy handle) fun _ => .done outcome

/-- Running a statement once, if there is one. -/
def built : Except Fault BoundStatement → Usage (Except Fault Outcome)
  | .error fault => .done (.error fault)
  | .ok statement => once statement

lemma built_onStatements (statement : Except Fault BoundStatement) :
    (built statement).OnStatements := by
  cases statement with
  | error fault => trivial
  | ok statement =>
    refine ⟨trivial, fun answer => ?_⟩
    cases answer with
    | error fault => trivial
    | ok handle => exact ⟨trivial, fun outcome => ⟨trivial, fun _ => trivial⟩⟩

lemma result_built (conn : Connection σ) (statement : Except Fault BoundStatement) :
    (built statement).result conn = (conn.runBuilt statement).run := by
  cases statement with
  | error fault => rfl
  | ok statement =>
    refine (result_use conn _ _).trans (congrArg _ (funext fun answer => ?_))
    cases answer with
    | error fault => rfl
    | ok handle =>
      refine (result_use conn _ _).trans (congrArg _ (funext fun outcome => ?_))
      exact result_use conn _ _

end Usage

/-! ## Operations -/

namespace Operation

/-- **The statement that an operation runs once**, or why there is none, if it is an operation of
that kind. -/
def statement? : Operation → Option (Except Fault BoundStatement)
  | .query kind sql bindings => some (.ok ⟨kind, sql, bindings⟩)
  | .insert table row => some (insertStatement table row)
  | .update table row => some (updateStatement table row)
  | .delete table target => some (deleteStatement table target)
  | .read table key => some (.ok (readStatement table key))
  | .prepare _ _ | .execute _ _ | .emit _ => none

/-- What such an operation makes of an outcome. -/
def ofOutcome : Operation → Outcome → Except Fault Value
  | .insert _ _, .inserted number => .ok (.id number)
  | .insert table _, outcome =>
      .error (Connection.unexpectedOutcome ("insert into " ++ table) "an id" outcome)
  | .update _ _, _ | .delete _ _, _ => .ok .unit
  | .read _ _, .rows set => .ok (.record (set.first?.map Row.toRecord))
  | .read table _, outcome =>
      .error (Connection.unexpectedOutcome ("read from " ++ table) "rows" outcome)
  | _, outcome => .ok (.ofOutcome outcome)

/-- **An operation as a way of using a connection.** -/
def usage : Operation → Usage (Except Fault Value)
  | .prepare kind sql => .use (.prepare sql kind) fun r => .done (r.map .statement)
  | .execute statement bindings =>
    .use (.execute statement bindings) fun r => .done (r.map .ofOutcome)
  | .emit _ => .done (.ok .unit)
  | operation =>
      (Usage.built (operation.statement?.getD (.error .closedConnection))).bind fun r =>
        .done (r.bind operation.ofOutcome)

lemma usage_of_statement {operation : Operation} {built : Except Fault BoundStatement}
    (h : operation.statement? = some built) :
    operation.usage = (Usage.built built).bind fun r => .done (r.bind operation.ofOutcome) := by
  cases operation with
  | prepare | execute | emit => cases h
  | _ =>
    obtain rfl := Option.some.inj h
    rfl

lemma usage_onStatements (operation : Operation) : operation.usage.OnStatements := by
  cases operation with
  | prepare | execute => exact ⟨trivial, fun _ => trivial⟩
  | emit => trivial
  | _ => exact (Usage.built_onStatements _).bind fun _ => trivial

lemma perform_of_statement {operation : Operation} {built : Except Fault BoundStatement}
    (h : operation.statement? = some built) (conn : Connection σ) :
    (conn.perform operation).run
      = (conn.runBuilt built).run.bind fun r => .done (r.bind operation.ofOutcome) := by
  cases operation with
  | prepare | execute | emit => cases h
  | query kind sql bindings =>
    obtain rfl := Option.some.inj h
    refine congrArg (Task.bind (conn.query kind sql bindings).run) (funext fun r => ?_)
    cases r <;> rfl
  | insert table row =>
    obtain rfl := Option.some.inj h
    refine (Task.bind_assoc _ _ _).trans (congrArg (Task.bind _) (funext fun r => ?_))
    rcases r with fault | (set | number | count) <;> rfl
  | update table row | delete table target =>
    obtain rfl := Option.some.inj h
    refine (Task.bind_assoc _ _ _).trans (congrArg (Task.bind _) (funext fun r => ?_))
    cases r <;> rfl
  | read table key =>
    obtain rfl := Option.some.inj h
    refine (Task.bind_assoc _ _ _).trans (congrArg (Task.bind _) (funext fun r => ?_))
    rcases r with fault | (set | number | count) <;> rfl

/-- **Performing an operation** is using the connection in its way. -/
theorem result_usage (operation : Operation) (conn : Connection σ) :
    operation.usage.result conn = (conn.perform operation).run := by
  cases hstatement : operation.statement? with
  | some built =>
    rw [usage_of_statement hstatement, perform_of_statement hstatement, Usage.result_bind,
      Usage.result_built]
    rfl
  | none =>
    cases operation with
    | prepare kind sql =>
      refine (Usage.result_use conn _ _).trans (congrArg _ (funext fun r => ?_))
      cases r <;> rfl
    | execute statement bindings =>
      refine (Usage.result_use conn _ _).trans (congrArg _ (funext fun r => ?_))
      cases r <;> rfl
    | emit event => rfl
    | _ => cases hstatement

end Operation

/-! ## What is heard, and what becomes of the count -/

def Deed.added : Deed σ → List StatementHandle
  | .performed (.prepare _ _) (.ok (.statement handle)) => [handle]
  | _ => []

/-- **What an operation that runs a statement once hears, and the calls that it makes.** -/
inductive Block (base : Nat) (shut : Bool) :
    Except Fault BoundStatement → List Answered → List Memory.Call → Prop where
  | refused (fault : Fault) : Block base shut (.error fault) [] []
  | closed (statement : BoundStatement) (h : shut = true) :
      Block base shut (.ok statement) [⟨.prepare statement.sql statement.kind,
        .error .closedConnection⟩] []
  | failed (statement : BoundStatement) (fault : Fault) (h : shut = false) :
      Block base shut (.ok statement) [⟨.prepare statement.sql statement.kind, .error fault⟩]
        [.prepare base statement.sql]
  /-- It is prepared, executed with whatever success, and destroyed. -/
  | whole (statement : BoundStatement) (handle : StatementHandle) (answer : Except Fault Outcome)
      (h : shut = false) :
      Block base shut (.ok statement)
        [⟨.prepare statement.sql statement.kind, .ok handle⟩,
          ⟨.execute handle statement.params, answer⟩,
          ⟨.destroy handle, ()⟩] (statement.calls base)

namespace Tally

variable {base : Nat} {shut : Bool} {t t' t'' : Tally} {taken : List Answered}
  {n count count' : Nat}
  {added added' : List StatementHandle}

/-- **The count after a usage.** -/
def play (base : Nat) (shut : Bool) (t : Tally) (taken : List Answered) : Tally :=
  taken.foldl (after base shut) t

/-- Everything that has been heard is what can be heard. -/
def Follows (base : Nat) (shut : Bool) (t : Tally) : List Answered → Prop
  | [] => True
  | x :: rest => t.Allows shut x ∧ (t.after base shut x).Follows base shut rest

/-- **There are numbers left** for as many statements, none of which has been given out. -/
structure HasNumbers (count : Nat) (t : Tally) : Prop where
  enough : t.connState.next.toNat + count < 2 ^ 64
  statements : ∀ id ∈ t.connState.statements, id < t.connState.next
  handles : ∀ handle ∈ t.handles, handle.id < t.connState.next

/-- **As long as there are numbers left**, statements have been added and none has gone. -/
def Gains (t t' : Tally) (added : List StatementHandle) (count : Nat) : Prop :=
  ∀ n, t.HasNumbers (n + count) → t'.HasNumbers n
    ∧ t'.connState.statements = t.connState.statements ++ added.map (·.id) ∧ t'.handles
      = t.handles ++ added

lemma HasNumbers.mono (h : t.HasNumbers count) (hle : n ≤ count) : t.HasNumbers n :=
  ⟨by have := h.enough; omega, h.statements, h.handles⟩

lemma HasNumbers.fresh (h : t.HasNumbers n) :
    t.connState.next ∉ t.connState.statements ∧ ∀ handle ∈ t.handles, handle.id
      ≠ t.connState.next :=
  ⟨fun hmem => UInt64.lt_irrefl _ (h.statements _ hmem),
    fun handle hmem heq => UInt64.lt_irrefl _ (heq ▸ h.handles handle hmem)⟩

lemma next_lt (h : t.connState.next.toNat + 1 < 2 ^ 64) {id : UInt64}
    (hid : id ≤ t.connState.next) :
    (t.connState.next + 1).toNat = t.connState.next.toNat + 1 ∧ id < t.connState.next + 1 := by
  have hnext : (t.connState.next + 1).toNat = t.connState.next.toNat + 1 := by
    rw [UInt64.toNat_add]
    exact Nat.mod_eq_of_lt h
  refine ⟨hnext, UInt64.lt_iff_toNat_lt.mpr ?_⟩
  rw [hnext]
  exact Nat.lt_succ_of_le (UInt64.le_iff_toNat_le.mp hid)

namespace Gains

lemma refl (t : Tally) : t.Gains t [] 0 :=
  fun _ hnums => ⟨hnums, by simp, by simp⟩

lemma trans (h : t.Gains t' added count) (h' : t'.Gains t'' added' count') :
    t.Gains t'' (added ++ added') (count + count') := by
  intro n hnums
  obtain ⟨hnums, hstatements, hhandles⟩ :=
    h (n + count') (by rwa [Nat.add_assoc, Nat.add_comm count'])
  obtain ⟨hnums, hstatements', hhandles'⟩ := h' n hnums
  refine ⟨hnums, ?_, ?_⟩
  · rw [hstatements', hstatements, List.map_append, List.append_assoc]
  · rw [hhandles', hhandles, List.append_assoc]

lemma of_same (hstatements : t'.connState.statements = t.connState.statements)
    (hhandles : t'.handles = t.handles)
    (hnext : t'.connState.next = t.connState.next) : t.Gains t' [] count := by
  intro n hnums
  refine ⟨⟨?_, ?_, ?_⟩, by simpa using hstatements, by simpa using hhandles⟩
  · have := hnums.enough
    rw [hnext]
    omega
  · rw [hstatements, hnext]
    exact hnums.statements
  · rw [hhandles, hnext]
    exact hnums.handles

end Gains

/-- **Running a statement once** leaves the count as it was, and uses up one number at most. -/
lemma block_of_hears {built : Except Fault BoundStatement} {outcome : Except Fault Outcome}
    (hnums : t.HasNumbers 1) (hears : (Usage.built built).Hears outcome taken)
    (hfollows : t.Follows base shut taken) :
    ∃ block, Block base shut built taken block
      ∧ (t.play base shut taken).connState.calls = t.connState.calls ++ block
      ∧ (t.play base shut taken).connState.statements = t.connState.statements
      ∧ (t.play base shut taken).handles = t.handles
      ∧ ((t.play base shut taken).connState.next = t.connState.next
        ∨ (t.play base shut taken).connState.next = t.connState.next + 1) := by
  cases built with
  | error fault =>
    cases hears
    exact ⟨[], .refused fault, (List.append_nil _).symm, rfl, rfl, .inl rfl⟩
  | ok statement =>
    obtain ⟨prepared, rest, rfl, hrest⟩ := hears.first
    clear hears
    obtain ⟨⟨hshut, hhandle⟩, -⟩ := hfollows
    cases prepared with
    | error fault =>
      cases hrest
      cases shut with
      | true =>
        obtain rfl := Except.error.inj (hshut rfl)
        exact ⟨[], .closed statement rfl, (List.append_nil _).symm, rfl, rfl, .inl rfl⟩
      | false => exact ⟨_, .failed statement fault rfl, rfl, rfl, rfl, .inl rfl⟩
    | ok handle =>
      obtain rfl : shut = false := by
        cases shut with
        | true => exact nomatch hshut rfl
        | false => rfl
      obtain rfl := hhandle handle rfl
      obtain ⟨executed, rest, rfl, hexecuted⟩ := hrest.first
      obtain ⟨⟨⟩, rest, rfl, hdestroyed⟩ := hexecuted.first
      cases hdestroyed
      obtain ⟨hstatements, hhandles⟩ := hnums.fresh
      let handle : StatementHandle := ⟨t.connState.next, statement.sql, statement.kind⟩
      have hfilter : (t.connState.statements ++ [handle.id]).filter (· != handle.id)
        = t.connState.statements := by
        have hold : t.connState.statements.filter (· != handle.id) = t.connState.statements :=
          List.filter_eq_self.mpr fun id hid =>
            bne_iff_ne.mpr fun heq => hstatements ((show id = t.connState.next from heq) ▸ hid)
        rw [List.filter_append, hold]
        simp
      have hplay : (t.play base false [⟨.prepare statement.sql statement.kind, .ok handle⟩,
          ⟨.execute handle statement.params, outcome⟩, ⟨.destroy handle, ()⟩]).connState
          = ⟨t.connState.statements, t.connState.next + 1, t.connState.calls ++ statement.calls
            base⟩ := by
        show ((t.connState.prepared base statement.sql).call
          (.execute base statement.sql statement.params)).destroyed base handle = _
        have hcontains : ((t.connState.prepared base statement.sql).call
            (.execute base statement.sql statement.params)).statements.contains handle.id
              = true := by
          simp [ConnState.prepared, ConnState.call, handle]
        rw [ConnState.destroyed, if_pos hcontains]
        simp only [ConnState.prepared, ConnState.call, List.append_assoc]
        exact congrArg (fun statements => (⟨statements, t.connState.next + 1, _⟩ : ConnState))
          hfilter
      refine ⟨_, .whole statement handle outcome rfl, (congrArg ConnState.calls hplay :),
        (congrArg ConnState.statements hplay :), ?_, .inr (congrArg ConnState.next hplay :)⟩
      show (t.handles ++ [handle]).filter (·.id != handle.id) = t.handles
      have hold : t.handles.filter (·.id != handle.id) = t.handles :=
        List.filter_eq_self.mpr fun other hother => bne_iff_ne.mpr (hhandles other hother)
      rw [List.filter_append, hold]
      simp

lemma HasNumbers.spend (hnums : t.HasNumbers (n + 1))
    (hnext : t'.connState.next = t.connState.next + 1)
    (hstatements : ∀ id ∈ t'.connState.statements, id ∈ t.connState.statements ∨ id
      = t.connState.next)
    (hhandles : ∀ handle ∈ t'.handles, handle ∈ t.handles ∨ handle.id = t.connState.next) :
    t'.HasNumbers n := by
  have henough : t.connState.next.toNat + 1 < 2 ^ 64 := by
    have := hnums.enough
    omega
  refine ⟨?_, fun id hid => ?_, fun handle hhandle => ?_⟩
  · have := hnums.enough
    rw [hnext, (next_lt henough (UInt64.le_refl _)).1]
    omega
  · rw [hnext]
    refine (next_lt henough ?_).2
    rcases hstatements id hid with h | rfl
    · exact UInt64.le_of_lt (hnums.statements id h)
    · exact UInt64.le_refl _
  · rw [hnext]
    refine (next_lt henough ?_).2
    rcases hhandles handle hhandle with h | h
    · exact UInt64.le_of_lt (hnums.handles handle h)
    · exact h ▸ UInt64.le_refl _

/-- **Every operation** adds the statement that it prepares, if it is one that does, and no other.
-/
lemma gains_of_hears {operation : Operation} {outcome : Except Fault Value}
    (hears : operation.usage.Hears outcome taken) (hfollows : t.Follows base shut taken) :
    t.Gains (t.play base shut taken) (Deed.added (σ := World) (.performed operation outcome))
      1 := by
  cases hstatement : operation.statement? with
  | some built =>
    have hadded : Deed.added (σ := World) (.performed operation outcome) = [] := by
      cases operation with
      | prepare => cases hstatement
      | _ => rfl
    rw [hadded]
    intro n hnums
    rw [Operation.usage_of_statement hstatement] at hears
    obtain ⟨r, -, hears⟩ := hears.of_map
    obtain ⟨block, -, -, hstatements, hhandles, hnext | hnext⟩ :=
      block_of_hears (hnums.mono (Nat.le_add_left 1 n)) hears hfollows
    · exact Gains.of_same hstatements hhandles hnext n hnums
    · refine ⟨hnums.spend hnext ?_ ?_, by simpa using hstatements, by simpa using hhandles⟩
      · exact fun id hid => .inl (hstatements ▸ hid)
      · exact fun handle hhandle => .inl (hhandles ▸ hhandle)
  | none =>
    cases operation with
    | prepare kind sql =>
      obtain ⟨answer, rest, rfl, hrest⟩ := hears.first
      cases hrest
      obtain ⟨⟨hshut, hhandle⟩, -⟩ := hfollows
      cases answer with
      | error fault => cases shut <;> exact Gains.of_same rfl rfl rfl
      | ok handle =>
        obtain rfl : shut = false := by
          cases shut with
          | true => exact nomatch hshut rfl
          | false => rfl
        obtain rfl := hhandle handle rfl
        intro n hnums
        refine ⟨hnums.spend rfl (fun id hid => ?_) fun handle hhandle => ?_, rfl, rfl⟩
        · simpa [play, after, ConnState.after, ConnState.prepared, ConnState.call] using hid
        · rcases List.mem_append.mp hhandle with h | h
          · exact .inl h
          · exact .inr (congrArg StatementHandle.id (List.mem_singleton.mp h))
    | execute statement bindings =>
      obtain ⟨answer, rest, rfl, hrest⟩ := hears.first
      cases hrest
      cases shut <;> exact Gains.of_same rfl rfl rfl
    | emit event =>
      cases hears
      exact Gains.of_same rfl rfl rfl
    | _ => cases hstatement

end Tally

/-! ## Keeping the count -/

namespace Counts

variable {φ : Type} {base number : Nat} {shut : Bool} {D : Discipline World φ} {stage : Tally → φ}
  {conn : Connection World} (C : Counts base number shut D stage conn)

include C

/-- **The count after a usage.** -/
theorem usage (usage : Usage α) (husage : usage.OnStatements) (t : Tally) :
    (usage.on conn).Obeys D (fun _ _ => True)
      (fun x y => usage.Hears x.1 x.2 ∧ t.Follows base shut x.2 ∧ y = stage (t.play base shut x.2))
      (stage t) := by
  induction usage generalizing t with
  | done a => exact ⟨.done a, trivial, rfl⟩
  | use first next ih =>
    refine (C.use first t husage.1).bind ?_
    rintro answer _ ⟨hallows, rfl⟩
    refine (ih answer (husage.2 answer) _).bind ?_
    rintro x _ ⟨hears, hfollows, rfl⟩
    exact ⟨.use answer hears, ⟨hallows, hfollows⟩, rfl⟩

/-- **After an operation** there is what it has added. -/
lemma perform (operation : Operation) (t : Tally) :
    (conn.perform operation).run.Obeys D (fun _ _ => True)
      (fun outcome y => ∃ t', y = stage t'
        ∧ t.Gains t' (Deed.added (σ := World) (.performed operation outcome)) 1) (stage t) := by
  rw [← operation.result_usage]
  refine (C.usage operation.usage operation.usage_onStatements t).bind ?_
  rintro x _ ⟨hears, hfollows, rfl⟩
  exact ⟨_, rfl, Tally.gains_of_hears hears hfollows⟩

/-- **After a program** there is what its operations have added. -/
theorem account (program : Program World)
    (hlifts : program.Lifts fun task => task.Respects (fun _ => True) (World.ByOthers base number))
    (t : Tally) :
    (program.account conn).Obeys D (fun _ _ => True)
      (fun told y => ∃ t', y = stage t' ∧ t.Gains t' (told.2.flatMap Deed.added) told.2.length)
        (stage t) := by
  induction program generalizing t with
  | finish v | fail fault | skip v => exact ⟨t, rfl, .refl t⟩
  | perform operation =>
    refine (C.perform operation t).bind ?_
    rintro outcome _ ⟨t', rfl, hgains⟩
    exact ⟨t', rfl, by simpa using hgains⟩
  | await task =>
    have hobeys : task.Obeys D (fun _ _ => True) (fun _ y => y = stage t) (stage t) :=
      Task.Obeys.of_respects hlifts (fun _ _ => trivial) (fun _ _ hs => C.byOthers hs)
        (fun _ _ => C.waits _ _)
        fun _ _ => trivial
    refine hobeys.bind ?_
    rintro outcome _ rfl
    exact ⟨t, rfl, Tally.Gains.of_same rfl rfl rfl⟩
  | scope inner ih =>
    refine (ih hlifts t).bind ?_
    rintro told _ hgains
    exact hgains
  | andThen first next ihf ihn =>
    unfold Program.account
    refine (ihf hlifts.1 t).bind ?_
    rintro ⟨exit, deeds⟩ _ ⟨t', rfl, hgains⟩
    cases exit with
    | value v =>
      refine (ihn v (hlifts.2 v) t').bind ?_
      rintro ⟨exit', more⟩ _ ⟨t'', rfl, hgains'⟩
      refine ⟨t'', rfl, ?_⟩
      rw [List.flatMap_append, List.length_append]
      exact hgains.trans hgains'
    | skipped v | failed fault => exact ⟨t', rfl, hgains⟩

end Counts

/-! ## What others do meanwhile -/

/-- **A task is under way**: it takes its steps, and in between others do what has nothing to do
with the connection and the lease. -/
inductive Underway (base number : Nat) (task : Task World α) (s₀ : World) :
    Task World α → World → Prop where
  | start : Underway base number task s₀ task s₀
  | move {rest rest' : Task World α} {s s' : World} (before : Underway base number task s₀ rest s)
      (h : rest.Moves s rest' s') : Underway base number task s₀ rest' s'
  | byOthers {rest : Task World α} {s s' : World} (before : Underway base number task s₀ rest s)
      (h : World.ByOthers base number s s') : Underway base number task s₀ rest s'

namespace Underway

variable {base number : Nat} {task rest : Task World α} {s₀ s : World}

/-- **A task that keeps the count** keeps it whatever others do meanwhile. -/
lemma obeys {φ : Type} {shut : Bool} {D : Discipline World φ} {stage : Tally → φ}
    {conn : Connection World}
    (C : Counts base number shut D stage conn) {ends : α → φ → Prop} {x : φ} (hs₀ : D.knows x s₀)
    (h : task.Obeys D (fun _ _ => True) ends x) (story : Underway base number task s₀ rest s) :
    ∃ y, D.knows y s ∧ rest.Obeys D (fun _ _ => True) ends y := by
  induction story with
  | start => exact ⟨x, hs₀, h⟩
  | move before hmove ih =>
    obtain ⟨y, hs, hrest⟩ := ih
    obtain ⟨z, hmay, hrest⟩ := hrest.moves hs hmove
    exact ⟨z, C.knows hmay, hrest⟩
  | byOthers before hothers ih =>
    obtain ⟨y, hs, hrest⟩ := ih
    exact ⟨y, C.knows (C.byOthers hs hothers), hrest⟩

/-- A task of which only a part of the result is kept is under way as the whole is. -/
lemma of_map {whole : Task World β} {g : β → α} (htask : task = whole.bind fun b => .done (g b))
    (story : Underway base number task s₀ rest s) :
    ∃ rest', rest = rest'.bind (fun b => .done (g b)) ∧ Underway base number whole s₀ rest' s := by
  induction story with
  | start => exact ⟨whole, htask, .start⟩
  | move before hmove ih =>
    obtain ⟨rest', rfl, hbefore⟩ := ih
    obtain ⟨rest'', rfl, hmoves⟩ := hmove.of_map
    exact ⟨rest'', rfl, .move hbefore hmoves⟩
  | byOthers before hothers ih =>
    obtain ⟨rest', rfl, hbefore⟩ := ih
    exact ⟨rest', rfl, .byOthers hbefore hothers⟩

lemma done_of_map {whole : Task World β} {g : β → α} {a : α}
    (story : Underway base number (whole.bind fun b => .done (g b)) s₀ (.done a) s) :
    ∃ b, a = g b ∧ Underway base number whole s₀ (.done b) s := by
  obtain ⟨rest, hrest, hstory⟩ := story.of_map rfl
  cases rest with
  | done b => exact ⟨b, Task.done.inj hrest, hstory⟩
  | act | wait => cases hrest

/-- **A turn of the task.** -/
lemma turn (self : TaskId) (story : Underway base number task s₀ rest s) :
    Underway base number task s₀ (rest.poll self s).1 (rest.poll self s).2 := by
  induction rest generalizing s with
  | done a => exact story
  | act update next ih => exact ih s (story.move (.act update next s))
  | wait on next ih =>
    rw [Task.poll]
    split
    next hready => exact ih (story.move (.pass on next s hready))
    next => exact story.move (.register on next self s)

end Underway

/-! ## Layers -/

/-- Something that does not see the lines of logs, files and reports. -/
structure LogBlind (o : World → β) : Prop where
  lines : ∀ n v s, o ((LogHost.lines n).set v s) = o s
  disk : ∀ d s, o (LogHost.disk.set d s) = o s
  traces : ∀ t s, o (Host.traces.set t s) = o s

mutual

/-- **A log** changes nothing but lines, files and reports. -/
theorem LogBlind.write {o : World → β} (h : LogBlind o) (line : String) :
    ∀ (log : StatementLog) (s : World), o (log.write line s) = o s
  | .memory number, s => h.lines number _ s
  | .file path, s => by
      rw [StatementLog.write, StatementLog.writeFile]
      split
      · exact h.disk _ s
      · exact h.traces _ s
  | .reports, s => h.traces _ s
  | .several logs, s => h.writeAll line logs s

theorem LogBlind.writeAll {o : World → β} (h : LogBlind o) (line : String) :
    ∀ (logs : List StatementLog) (s : World), o (StatementLog.writeAll line logs s) = o s
  | [], _ => rfl
  | log :: rest, s => by
      rw [StatementLog.writeAll, h.writeAll line rest, h.write line log s]

end

/-- **What can be upon a connection to the scripted backend.** -/
inductive Layer where
  | bare
  | leased
  | logged (log : StatementLog)

namespace Layer

def connection (base number : Nat) : Layer → Connection World
  | .bare => Memory.connection base
  | .leased => (Memory.pool.lease base number).connection
  | .logged log => (Memory.pool.lease base number).connection.logged fun line => log.write line

def list? (number : Nat) (s : World) : Layer → Option (List StatementHandle)
  | .bare => none
  | .leased | .logged _ => some ((LeaseHost.leases number).get s).statements

/-- Whether there is a lease that has been closed. -/
def shut (number : Nat) (s : World) : Layer → Bool
  | .bare => false
  | .leased | .logged _ => ((LeaseHost.leases number).get s).closed

/-- **A lease has been closed, or nobody else is using it.** -/
def Ready (number : Nat) (s : World) : Layer → Prop
  | .bare => True
  | .leased | .logged _ =>
      ((LeaseHost.leases number).get s).closed = true
        ∨ ∃ transaction, ((LeaseHost.leases number).get s).plain
          = .held transaction ((LeaseHost.leases number).get s).statements

/-- **The count** at a moment. -/
def tally (base number : Nat) (s : World) (layer : Layer) : Tally :=
  ⟨ConnState.of base s, (layer.list? number s).getD []⟩

variable {base number : Nat} {s₀ : World}

lemma write_byOthers (log : StatementLog) (line : String) (s : World) :
    World.ByOthers base number s (log.write line s) :=
  ⟨LogBlind.write (o := ConnState.of base) ⟨fun _ _ _ => rfl, fun _ _ => rfl, fun _ _ => rfl⟩
    line log s,
    LogBlind.write (o := fun s => ((LeaseHost.leases number).get s).plain)
      ⟨fun _ _ _ => rfl, fun _ _ => rfl, fun _ _ => rfl⟩ line log s⟩

lemma lease_counted
    (ready : ((LeaseHost.leases number).get s₀).closed = true
      ∨ ∃ transaction, ((LeaseHost.leases number).get s₀).plain
        = .held transaction ((LeaseHost.leases number).get s₀).statements) :
    ∃ (D : Discipline World (LeaseState × ConnState)) (stage : Tally → LeaseState × ConnState),
      Counts base number ((LeaseHost.leases number).get s₀).closed D stage
        (Memory.pool.lease base number : Lease World).connection
      ∧ D.knows (stage ⟨ConnState.of base s₀, ((LeaseHost.leases number).get s₀).statements⟩) s₀
      ∧ ∀ t s, D.knows (stage t) s → ((LeaseHost.leases number).get s).statements = t.handles := by
  by_cases hclosed : ((LeaseHost.leases number).get s₀).closed = true
  · rw [hclosed]
    have hshut : ((LeaseHost.leases number).get s₀).plain.closed = true := hclosed
    refine ⟨_, _, closed_counts hshut, ⟨rfl, rfl⟩, ?_⟩
    exact fun t s hs => congrArg LeaseState.statements hs.1
  · obtain ⟨transaction, hplain⟩ := ready.resolve_left hclosed
    rw [Bool.eq_false_iff.mpr hclosed]
    refine ⟨_, _, lease_counts transaction, ⟨hplain, rfl⟩, ?_⟩
    exact fun t s hs => congrArg LeaseState.statements hs.1

/-- **On each layer the count is kept.** -/
lemma counted (layer : Layer) (ready : layer.Ready number s₀) :
    ∃ (φ : Type) (D : Discipline World φ) (stage : Tally → φ),
      Counts base number (layer.shut number s₀) D stage (layer.connection base number)
      ∧ D.knows (stage (layer.tally base number s₀)) s₀
      ∧ ∀ t s, D.knows (stage t) s → layer.list? number s = (layer.list? number s₀).map fun _ =>
        t.handles := by
  cases layer with
  | bare => exact ⟨ConnState, _, _, base_counts, rfl, fun _ _ _ => rfl⟩
  | leased =>
    obtain ⟨D, stage, C, hs₀, hlist⟩ := lease_counted ready
    exact ⟨_, D, stage, C, hs₀, fun t s hs => congrArg some (hlist t s hs)⟩
  | logged log =>
    obtain ⟨D, stage, C, hs₀, hlist⟩ := lease_counted ready
    exact ⟨_, D, stage, C.logged fun line s => write_byOthers log line s, hs₀,
      fun t s hs => congrArg some (hlist t s hs)⟩

end Layer

/-! ## The balance -/

/-- **Statements are balanced** on a connection to the scripted backend, on a lease of it, and on a
lease with a log; in every state of the connection and of the statements on it, whichever calls
fail, and whatever others do meanwhile, short of using the connection or the lease or closing the
lease, as long as there are numbers left.

An operation that runs a statement once ends with the statements on the connection and on the list
of the lease as they were; it has made no call if there was no statement or the lease had been
closed, one call if preparing it failed, and otherwise the statement has been prepared, executed and
destroyed, with whatever success it was executed.

A program ends with the statements that its own preparing has added, and no others. -/
theorem statements_balanced {base number : Nat} {s₀ : World} (layer : Layer)
    (ready : layer.Ready number s₀) :
    let conn := layer.connection base number
    let calls := fun s : World => s.callsOn base
    let live := fun s => ((Memory.link base).get s).statements
    (∀ operation built, operation.statement? = some built →
      (layer.tally base number s₀).HasNumbers 1 →
      ∀ result s, Underway base number (conn.perform operation).run s₀ (.done result) s →
        live s = live s₀ ∧ layer.list? number s = layer.list? number s₀
          ∧ ∃ taken block, Underway base number (operation.usage.on conn) s₀
            (.done (result, taken)) s
            ∧ Block base (layer.shut number s₀) built taken block ∧ calls s = calls s₀ ++ block)
    ∧ ∀ program : Program World,
      (program.Lifts fun task => task.Respects (fun _ => True) (World.ByOthers base number)) →
      ∀ ending s, Underway base number (program.runOn conn) s₀ (.done ending) s →
        ∃ exit deeds, Underway base number (program.account conn) s₀ (.done (exit, deeds)) s
          ∧ ending = Exit.ending (exit, deeds)
          ∧ ((layer.tally base number s₀).HasNumbers deeds.length →
            live s = live s₀ ++ (deeds.flatMap Deed.added).map (·.id)
              ∧ layer.list? number s = (layer.list? number s₀).map
                (· ++ deeds.flatMap Deed.added)) := by
  intro conn calls live
  obtain ⟨φ, D, stage, C, hs₀, hlist⟩ := @layer.counted base number s₀ ready
  refine ⟨fun operation built hbuilt hnums result s story => ?_,
    fun program hlifts ending s story => ?_⟩
  · rw [← operation.result_usage] at story
    obtain ⟨⟨_, taken⟩, rfl, recorded⟩ := story.done_of_map
    obtain ⟨_, hs, hears, hfollows, rfl⟩ :=
      recorded.obeys C hs₀ (C.usage operation.usage operation.usage_onStatements _)
    rw [Operation.usage_of_statement hbuilt] at hears
    obtain ⟨r, -, hears⟩ := hears.of_map
    obtain ⟨block, hblock, hcalls, hstatements, hhandles, -⟩ :=
      Tally.block_of_hears hnums hears hfollows
    have hconnState := C.connState hs
    refine ⟨(congrArg ConnState.statements hconnState).trans hstatements, ?_, taken, block,
      recorded, hblock,
      (congrArg ConnState.calls hconnState).trans hcalls⟩
    rw [hlist _ s hs, hhandles]
    cases layer <;> rfl
  · rw [program.runOn_eq_result, program.result_eq_account] at story
    obtain ⟨⟨exit, deeds⟩, rfl, told⟩ := story.done_of_map
    obtain ⟨_, hs, t', rfl, hgains⟩ := told.obeys C hs₀ (C.account program hlifts _)
    refine ⟨exit, deeds, told, rfl, fun hnums => ?_⟩
    obtain ⟨-, hstatements, hhandles⟩ := hgains 0 (by simpa using hnums)
    refine ⟨(congrArg ConnState.statements (C.connState hs)).trans hstatements, ?_⟩
    rw [hlist t' s hs, hhandles]
    cases layer <;> rfl

def Operation.removal : Operation := .query .delete "D" []

/-- A lease that has just been checked out, of a connection on which one text cannot be executed. -/
def World.contrary : World :=
  MemoryHost.backend.modify (Memory.Backend.respond "F" (.error "refused"))
    (Pool.startWatchedLease 1 World.lent).2

/-- Prepares a statement and runs two others once, the second of them in vain. -/
def Program.inVain : Program World :=
  .andThen (.perform (.prepare .other "P")) fun _ =>
    .andThen (.perform .removal) fun _ => .perform (.query .delete "F" [])

lemma Program.inVain_polled : ∃ s : World,
    ((inVain.account (Layer.leased.connection 1 0)).bind fun told => .done (Exit.ending told)).poll
      5 World.contrary = (.done (.error (.execution "refused"), []), s)
    ∧ ((Memory.link 1).get s).statements = [1] :=
  ⟨_, by cbv, by rfl⟩

/-- A query that cannot be executed leaves no statement behind, and a program that it ends leaves
the one that it has prepared. -/
theorem statements_balanced_query :
    let s₀ : World := World.contrary
    let conn : Connection World := Layer.leased.connection 1 0
    let failed : Except Fault Value := .error (.execution "refused")
    let live := fun s => ((Memory.link 1).get s).statements
    Layer.leased.Ready 0 s₀ ∧ (Layer.leased.tally 1 0 s₀).HasNumbers 1
      ∧ (∃ s, Underway 1 0 (conn.perform (.query .delete "F" [])).run s₀ (.done failed) s
        ∧ live s = live s₀
        ∧ s.callsOn 1 = [.prepare 1 "F", .execute 1 "F" [], .destroy 1 "F"])
      ∧ ∃ s exit deeds, Underway 1 0 (Program.inVain.runOn conn) s₀ (.done (failed, [])) s
        ∧ Underway 1 0 (Program.inVain.account conn) s₀ (.done (exit, deeds)) s
        ∧ ((Layer.leased.tally 1 0 s₀).HasNumbers deeds.length →
          live s = live s₀ ++ (deeds.flatMap Deed.added).map (·.id))
        ∧ live s = [1] := by
  intro s₀ conn failed live
  have ready : Layer.leased.Ready 0 s₀ := .inr ⟨false, rfl⟩
  have numbers : (Layer.leased.tally 1 0 s₀).HasNumbers 1 := ⟨by decide, nofun, nofun⟩
  obtain ⟨hquery, hprogram⟩ := statements_balanced .leased ready
  refine ⟨ready, numbers, ?_, ?_⟩
  · let task : Task World (Except Fault Value) := (conn.perform (.query .delete "F" [])).run
    obtain ⟨s, hpoll, hcalls⟩ : ∃ s, task.poll 5 s₀ = (.done failed, s)
        ∧ s.callsOn 1 = [.prepare 1 "F", .execute 1 "F" [], .destroy 1 "F"] :=
      ⟨_, by cbv, by rfl⟩
    have story : Underway 1 0 task s₀ (task.poll 5 s₀).1 (task.poll 5 s₀).2 := Underway.start.turn 5
    rw [hpoll] at story
    exact ⟨s, story, (hquery _ _ rfl numbers _ s story).1, hcalls⟩
  · obtain ⟨s, hpoll, hlive⟩ := Program.inVain_polled
    have begun : Underway 1 0
        ((Program.inVain.account conn).bind fun told => .done (Exit.ending told)) s₀ _ s₀ := .start
    have story := begun.turn 5
    rw [hpoll, ← Program.result_eq_account, ← Program.runOn_eq_result] at story
    obtain ⟨exit, deeds, told, -, hadded⟩ := hprogram Program.inVain
      ⟨trivial, fun _ => ⟨trivial, fun _ => trivial⟩⟩ _ s story
    exact ⟨s, exit, deeds, story, told, fun hnums => (hadded hnums).1, hlive⟩

def World.late : World :=
  Host.schedule.modify (fun c => { c with allowance := 1 }) (Pool.startWatchedLease 1 World.lent).2

/-- **A lease that is closed in the middle of an operation.**  The statement has been prepared, and
the operation has come to the end of its turn.  Before the next one the connection ends, and the
lease's own task closes the lease: the statement is neither executed nor destroyed. -/
theorem closing_interferes :
    let lease : Lease World := Memory.pool.lease 1 0
    let handle : StatementHandle := ⟨1, "D", .delete⟩
    let turn : World → World := Host.schedule.modify Schedule.refresh
    ∃ rest s s' s'', (Operation.removal.usage.on lease.connection).poll 5 World.late = (rest, s)
      ∧ (lease.watch false).poll 1 (turn (Memory.terminate 1 s)) = (.done (), s')
      ∧ rest.poll 5 (turn s')
        = (.done (.error .closedConnection, [⟨.prepare "D" .delete, .ok handle⟩,
            ⟨.execute handle [], .error .closedConnection⟩, ⟨.destroy handle, ()⟩]), s'')
      ∧ World.late.callsOn 1 = [] ∧ s''.callsOn 1 = [.prepare 1 "D"]
      ∧ ((Memory.link 1).get World.late).statements = []
      ∧ ((Memory.link 1).get s'').statements = [1] := by
  refine ⟨_, _, _, _, rfl, rfl, rfl, rfl, ?_, rfl, ?_⟩ <;> rfl

end Transactional
