import Transactional.Proofs.Usage.Possession
import Transactional.Proofs.Usage.Handles

/-!
# Statements counted

Whoever uses a connection through the layers that are put upon it can count the statements on it:
those that the backend has, and those that a lease has on its list.  What is heard of a use decides
what becomes of both, whether the connection has ended or not; and a lease that has been closed
leaves them alone.

* `ConnState.of`, `ConnState.after` — what is on a connection at a moment, and after a use of
  statements.
* `Tally`, `Tally.after` — the same with the list of a lease.
* `counting` — the discipline of counting what is on a connection.
* `Counts` — a connection on which the count is kept; `base_counts`, `lease_counts`,
  `closed_counts`, `Counts.logged` — the layers.
-/

namespace Transactional

namespace ConnState

/-- **What is on a connection** at a moment. -/
def of (base : Nat) (s : World) : ConnState :=
  ⟨((Memory.link base).get s).statements, ((Memory.link base).get s).nextStatement, s.callsOn base⟩

/-- **What is on a connection** after a use of statements. -/
def after (base : Nat) (connState : ConnState) : Answered → ConnState
  | ⟨.prepare sql _, .ok _⟩ => connState.prepared base sql
  | ⟨.prepare sql _, .error _⟩ => connState.call (.prepare base sql)
  | ⟨.execute handle bindings, _⟩ => connState.call (.execute base handle.sql bindings)
  | ⟨.destroy handle, _⟩ => connState.destroyed base handle
  | _ => connState

lemma of_note {base : Nat} {call : Memory.Call} (hcall : call.number = base) (s : World) :
    of base (Memory.note call s) = (of base s).call call := by
  have hcalls : (Memory.note call s).callsOn base = s.callsOn base ++ [call] :=
    (World.Works.note hcall s).callsOn
  unfold of ConnState.call
  rw [hcalls]
  rfl

lemma of_modify (base : Nat) (f : Memory.Link → Memory.Link) (s : World) :
    of base ((Memory.link base).modify f s)
      = ⟨(f ((Memory.link base).get s)).statements, (f ((Memory.link base).get s)).nextStatement,
        s.callsOn base⟩ := by
  unfold of
  rw [Cell.get_modify]
  rfl

end ConnState

def Use.OnStatements : Use → Prop
  | .prepare _ _ | .execute _ _ | .destroy _ => True
  | .connect | .begin | .commit | .rollback => False

/-- **The statements on a connection**, and those on the list of a lease. -/
structure Tally where
  connState : ConnState
  handles : List StatementHandle

namespace Tally

/-- **The count after a use**; a lease that is shut passes nothing on. -/
def after (base : Nat) (shut : Bool) (t : Tally) (x : Answered) : Tally :=
  ⟨if shut then t.connState else t.connState.after base x, x.handles t.handles⟩

/-- **What can be heard**: a statement that is prepared gets the next number, and a lease that is
shut refuses. -/
def Allows (shut : Bool) (t : Tally) : Answered → Prop
  | ⟨.prepare sql kind, answer⟩ =>
      (shut = true → answer = .error .closedConnection)
        ∧ ∀ handle, answer = .ok handle → handle = ⟨t.connState.next, sql, kind⟩
  | ⟨.execute _ _, answer⟩ => shut = true → answer = .error .closedConnection
  | _ => True

end Tally

/-- **The discipline of counting** what is on a connection. -/
def counting (base : Nat) : Discipline World ConnState where
  knows connState s := ConnState.of base s = connState
  may _ _ connState' s' := ConnState.of base s' = connState'
  waits _ _ := True

/-- **What others may do meanwhile**: anything but use the connection, or use or close the lease. -/
structure World.ByOthers (base number : Nat) (s s' : World) : Prop where
  connState : ConnState.of base s' = ConnState.of base s
  lease : ((LeaseHost.leases number).get s').plain = ((LeaseHost.leases number).get s).plain

/-- **A connection on which the count is kept.** -/
structure Counts (base number : Nat) (shut : Bool) (D : Discipline World φ) (stage : Tally → φ)
    (conn : Connection World) : Prop where
  use : ∀ (use : Use) (t : Tally), use.OnStatements →
    (use.on conn).Obeys D (fun _ _ => True)
      (fun answer y => t.Allows shut ⟨use, answer⟩ ∧ y
        = stage (t.after base shut ⟨use, answer⟩)) (stage t)
  byOthers : ∀ {x s s'}, D.knows x s → World.ByOthers base number s s' → D.may x s x s'
  knows : ∀ {x s y s'}, D.may x s y s' → D.knows y s'
  waits : ∀ x ready, D.waits x ready
  connState : ∀ {t s}, D.knows (stage t) s → ConnState.of base s = t.connState

variable {base number : Nat} {connState : ConnState} {t : Tally} {s s' : World} {α : Type}
  {gone : ConnState → (World → World) → Prop}

/-! ## The connection itself -/

lemma counting_tolerates : (Memory.pool.lease base number).Tolerates (counting base) where
  still hs h :=
    (h.same (ConnState.of base) (fun _ _ => rfl) (fun _ _ _ => rfl) fun _ _ => rfl).trans hs
  keeps hs h :=
    (h.same (ConnState.of base) (fun _ _ => rfl) (fun _ _ _ => rfl) fun _ _ => rfl).trans hs
  before _ _ h := h
  pause _ := trivial

/-- **A call is noted down**, and refused if the connection has ended, or answered. -/
lemma answering_counts {call : Memory.Call} {answer : World → Except Fault α × World}
    {ends : Except Fault α → ConnState → Prop} (hcall : call.number = base)
    (hended : ends (.error (Memory.hasEnded base)) (connState.call call))
    (h : ∀ s, ConnState.of base s = connState.call call →
      (LeaseHost.leases number).get (answer s).2 = (LeaseHost.leases number).get s
        ∧ ends (answer s).1 (ConnState.of base (answer s).2)) :
    (Memory.answering base call answer).run.Obeys
      ((Memory.pool.lease base number).besides (counting base))
      gone ends connState := by
  rintro s rfl
  let D : Discipline World ConnState := (Memory.pool.lease base number).besides (counting base)
  have hnoted := ConnState.of_note hcall s
  obtain ⟨hlease, hends⟩ := h _ hnoted
  by_cases hend : ((Memory.link base).get (Memory.note call s)).signal.status.isTerminal = true
  · have hmay : D.may (ConnState.of base s) s ((ConnState.of base s).call call)
      (Memory.note call s) := ⟨rfl, hnoted⟩
    exact ⟨_, by simpa [hend] using hmay, by simpa [hend, Task.Obeys] using hended⟩
  · have hmay : D.may (ConnState.of base s) s _ (answer (Memory.note call s)).2 :=
      ⟨congrArg LeaseState.plain hlease, rfl⟩
    exact ⟨_, by simpa [hend] using hmay, by simpa [hend, Task.Obeys] using hends⟩

lemma prepare_counts (sql : String) (kind : StatementKind) :
    (Memory.prepare base sql kind : Attempt World StatementHandle).run.Obeys
      ((Memory.pool.lease base number).besides (counting base)) gone
      (fun r connState' => (∀ handle, r = .ok handle → handle = ⟨connState.next, sql, kind⟩)
        ∧ connState' = connState.after base ⟨.prepare sql kind, r⟩) connState := by
  refine answering_counts rfl ⟨nofun, rfl⟩ fun s hs => ?_
  have hnext : ((Memory.link base).get s).nextStatement = connState.next :=
    congrArg ConnState.next hs
  have hstatements : ((Memory.link base).get s).statements = connState.statements :=
    congrArg ConnState.statements hs
  have hcalls : s.callsOn base = connState.calls ++ [.prepare base sql] :=
    congrArg ConnState.calls hs
  refine ⟨rfl, ?_, ?_⟩
  · rintro handle ⟨⟩
    rw [hnext]
  · refine (ConnState.of_modify base _ s).trans ?_
    simp only [hnext, hstatements, hcalls]
    rfl

lemma execute_counts (handle : StatementHandle) (bindings : List Scalar) :
    (Memory.execute base handle bindings : Attempt World Outcome).run.Obeys
      ((Memory.pool.lease base number).besides (counting base)) gone
      (fun _ connState' => connState' = connState.call (.execute base handle.sql bindings))
        connState := by
  refine answering_counts rfl rfl fun s hs => ?_
  split
  · obtain ⟨id, hid⟩ := Memory.answer_backend handle.sql handle.kind s.backend
    refine ⟨rfl, Eq.trans ?_ hs⟩
    have hsame := congrArg (fun b : Memory.Backend => (⟨(b.links.get base).statements,
      (b.links.get base).nextStatement, b.journal.filter (·.number = base)⟩ : ConnState)) hid
    exact hsame
  · exact ⟨rfl, hs⟩

lemma destroy_counts (handle : StatementHandle) (s : World) :
    (LeaseHost.leases number).get (Memory.destroy base handle s) = (LeaseHost.leases number).get s
      ∧ ConnState.of base (Memory.destroy base handle s) = (ConnState.of base s).destroyed base
        handle := by
  unfold Memory.destroy ConnState.destroyed
  rw [show (ConnState.of base s).statements = ((Memory.link base).get s).statements from rfl]
  split
  · have hcall : (Memory.Call.destroy base handle.sql).number = base := rfl
    refine ⟨rfl, (ConnState.of_note hcall _).trans ?_⟩
    rw [ConnState.of_modify]
    rfl
  · exact ⟨rfl, rfl⟩

/-- **The connection itself** keeps the count. -/
theorem base_counts : Counts base number false
    ((Memory.pool.lease base number).besides (counting base))
    Tally.connState (Memory.connection base) where
  use use t huse := by
    cases use with
    | connect | begin | commit | rollback => exact huse.elim
    | prepare sql kind =>
      refine (prepare_counts sql kind).imp ?_
      rintro r _ ⟨hr, rfl⟩
      exact ⟨⟨nofun, hr⟩, rfl⟩
    | execute handle bindings =>
      refine (execute_counts handle bindings).imp ?_
      rintro r _ rfl
      exact ⟨nofun, rfl⟩
    | destroy handle =>
      intro s hs
      obtain ⟨hlease, hconnState⟩ := @destroy_counts base number handle s
      exact ⟨_, ⟨congrArg LeaseState.plain hlease, hconnState.trans (congrArg _ hs)⟩, trivial, rfl⟩
  byOthers hs h := ⟨h.lease, h.connState.trans hs⟩
  knows h := h.2
  waits _ _ := trivial
  connState hs := hs

/-! ## Layers upon it -/

/-- **An open lease** that nobody else is using keeps the count. -/
theorem lease_counts (transaction : Bool) :
    Counts base number false ((Memory.pool.lease base number).alone (counting base))
      (fun t => (.held transaction t.handles, t.connState))
        (Memory.pool.lease base number : Lease World).connection
    where
  use use t huse := by
    cases use with
    | connect | begin | commit | rollback => exact huse.elim
    | prepare sql kind =>
      refine (Lease.operate_alone (Memory.apart base number) counting_tolerates (fun _ => id)
        (fun handle handles => handles ++ [handle]) (fun _ => rfl) (prepare_counts sql kind)
          trivial).imp ?_
      rintro (fault | handle) ⟨_, _⟩ ⟨⟨hr, rfl⟩, rfl⟩ <;> exact ⟨⟨nofun, hr⟩, rfl⟩
    | execute handle bindings =>
      refine (Lease.operate_alone (Memory.apart base number) counting_tolerates (fun _ => id)
        (fun _ => id) (fun _ => rfl) (execute_counts handle bindings) trivial).imp ?_
      rintro (fault | outcome) ⟨_, _⟩ ⟨rfl, rfl⟩ <;> exact ⟨nofun, rfl⟩
    | destroy handle =>
      intro s hs
      have hdestroy : ∀ s, (counting base).knows t.connState s → ∃ connState,
          ((Memory.pool.lease base number).besides (counting base)).may t.connState s connState
              (Memory.destroy base handle s)
            ∧ connState = t.connState.destroyed base handle := by
        intro s hs
        obtain ⟨hlease, hconnState⟩ := @destroy_counts base number handle s
        exact ⟨_, ⟨congrArg LeaseState.plain hlease, hconnState.trans (congrArg _ hs)⟩, rfl⟩
      obtain ⟨⟨_, _⟩, hmay, rfl, rfl⟩ := Lease.destroy_alone counting_tolerates hdestroy hs
      exact ⟨_, hmay, trivial, rfl⟩
  byOthers hs h := ⟨h.lease.trans hs.1, id, h.connState.trans hs.2⟩
  knows h := ⟨h.1, h.2.2⟩
  waits _ _ := trivial
  connState hs := hs.2

lemma closed_operate {state : LeaseState} (hclosed : state.closed = true)
    {operation : Attempt World α}
    {after : α → LeaseState → LeaseState} {connState : ConnState}
    {gone : LeaseState × ConnState → (World → World) → Prop} :
    ((Memory.pool.lease base number).operate operation after).run.Obeys
      ((Memory.pool.lease base number).alone (counting base)) gone
      (fun r y => r = .error .closedConnection ∧ y = (state, connState)) (state, connState) := by
  intro s hs
  have hshut : ((LeaseHost.leases number).get s).closed = true :=
    (congrArg LeaseState.closed hs.1).trans hclosed
  refine ⟨_, ⟨hs.1, id, hs.2⟩, ?_⟩
  simp only [show ((Memory.pool.lease base number : Lease World).cell.get s).closed
    = true from hshut]
  exact ⟨rfl, rfl⟩

/-- **A lease that has been closed** keeps the count as well: there is nothing to count. -/
theorem closed_counts {state : LeaseState} (hclosed : state.closed = true) :
    Counts base number true ((Memory.pool.lease base number).alone (counting base))
      (fun t => ({ state with statements := t.handles }, t.connState))
      (Memory.pool.lease base number : Lease World).connection where
  use use t huse := by
    cases use with
    | connect | begin | commit | rollback => exact huse.elim
    | prepare sql kind =>
      refine (closed_operate
        (show ({ state with statements := t.handles } : LeaseState).closed
          = true from hclosed)).imp ?_
      rintro _ _ ⟨rfl, rfl⟩
      exact ⟨⟨fun _ => rfl, nofun⟩, rfl⟩
    | execute handle bindings =>
      refine (closed_operate
        (show ({ state with statements := t.handles } : LeaseState).closed
          = true from hclosed)).imp ?_
      rintro _ _ ⟨rfl, rfl⟩
      exact ⟨fun _ => rfl, rfl⟩
    | destroy handle =>
      intro s hs
      let lease : Lease World := Memory.pool.lease base number
      have hget : (lease.cell.get (lease.cell.modify (LeaseState.forget handle) s)).plain
          = { state with statements := t.handles.filter (·.id != handle.id) } := by
        rw [lease.cell.get_modify]
        exact congrArg (LeaseState.forget handle) hs.1
      have hshut : (lease.cell.get (lease.cell.modify (LeaseState.forget handle) s)).closed
        = true :=
        (congrArg LeaseState.closed hget).trans hclosed
      have hnothing : lease.destroy handle s = lease.cell.modify (LeaseState.forget handle) s := by
        unfold Lease.destroy
        dsimp only
        rw [hshut]
        rfl
      refine ⟨(_, t.connState), ⟨(congrArg (fun s => (lease.cell.get s).plain) hnothing).trans hget,
        fun _ => hclosed, ?_⟩, trivial, rfl⟩
      have hconnState : ConnState.of base (lease.destroy handle s) = ConnState.of base s := by
        rw [hnothing]; rfl
      exact hconnState.trans hs.2
  byOthers hs h := ⟨h.lease.trans hs.1, id, h.connState.trans hs.2⟩
  knows h := ⟨h.1, h.2.2⟩
  waits _ _ := trivial
  connState hs := hs.2

/-- **A log upon a connection** makes no difference. -/
theorem Counts.logged {shut : Bool} {D : Discipline World φ} {stage : Tally → φ}
    {conn : Connection World}
    (h : Counts base number shut D stage conn) {write : String → World → World}
    (hwrite : ∀ line s, World.ByOthers base number s (write line s)) :
    Counts base number shut D stage (conn.logged write) where
  use use t huse := by
    cases use with
    | connect | begin | commit | rollback => exact huse.elim
    | prepare sql kind => exact h.use (.prepare sql kind) t trivial
    | execute handle bindings =>
      exact fun s hs => ⟨_, h.byOthers hs (hwrite _ s), h.use (.execute handle bindings) t trivial⟩
    | destroy handle => exact h.use (.destroy handle) t trivial
  byOthers := h.byOthers
  knows := h.knows
  waits := h.waits
  connState := h.connState

end Transactional
