import Transactional.Proofs.Usage.Possession

/-!
# Using a lease, and ending it

A lease keeps books on its transaction and on its statements, and the connection beneath keeps its
own.  Whoever has a lease to himself finds the two in step after every use, whatever the connection
has answered; so the end of the lease leaves nothing behind.

* `Mirror.stage`, `Mirror.final` — a lease in use, and after its end, with the connection beneath.
* `Use.obeys`, `Usage.obeys` — after a use, and after a usage, the books say what has been heard.
* `close_obeys` — closing a lease rolls back what is open, destroys what is left, and gives the
  connection back.
-/

namespace Transactional

namespace Mirror

def connState (m : Mirror) : ConnState :=
  ⟨m.handles.map (·.id), m.next, m.calls⟩

/-- **A lease in use**, and the connection beneath. -/
def stage (m : Mirror) : LeaseState × Possession :=
  (.held m.transaction m.handles, .kept m.connState)

def undo (base : Nat) (m : Mirror) : List Memory.Call :=
  if m.transaction then [.rollback base] else []

/-- **The calls with which a lease ends**: a transaction that is open is rolled back, and every
statement that is left is destroyed. -/
def farewell (base : Nat) (m : Mirror) : List Memory.Call :=
  m.undo base ++ (StatementHandle.firsts [] m.handles).map fun handle => .destroy base handle.sql

/-- **A lease that has ended**, and the connection beneath. -/
def final (base : Nat) (m : Mirror) : LeaseState × Possession :=
  (.emptied false false, .returned ⟨[], m.next, m.calls ++ m.farewell base⟩)

end Mirror

/-- **The discipline of somebody who has a lease to himself.** -/
abbrev lending (permit : Bool) (base number : Nat) : Discipline World (LeaseState × Possession) :=
  (Memory.pool.lease base number).alone (possession permit base number)

variable {permit : Bool} {base number : Nat} {m : Mirror} {α : Type}
  {gone : LeaseState × Possession → (World → World) → Prop}

/-! ## Using a lease -/

section

variable (hgone : gone m.stage id)

include hgone

lemma plain_lent {call : Memory.Call} (hcall : call.number = base)
    (pick : Memory.Failures → Option String) (tr : Bool → Bool) :
    ((Memory.pool.lease base number : Lease World).operate (Memory.plainCall base call pick)
      fun _ => LeaseState.noting tr id).run.Obeys (lending permit base number) gone
      (fun r y => y = (.held (if r.toBool then tr m.transaction else m.transaction) m.handles,
        .kept (m.connState.call call))) m.stage := by
  refine (Lease.operate_alone (Memory.apart base number) possession_tolerates (fun _ => tr)
    (fun _ => id)
    (fun _ => rfl) (plainCall_kept hcall pick) hgone).imp ?_
  rintro (fault | _) ⟨_, _⟩ ⟨rfl, rfl⟩ <;> rfl

/-- **After a use** the books say what has been heard. -/
theorem Use.obeys (use : Use) :
    (use.on (Memory.pool.lease base number : Lease World).connection).Obeys
      (lending permit base number)
      gone (fun answer y => m.Allows ⟨use, answer⟩ ∧ y = (m.after base ⟨use, answer⟩).stage)
      m.stage := by
  cases use with
  | connect =>
    have hcall : (Memory.Call.connect base).number = base := rfl
    refine (plain_lent hgone hcall Memory.Failures.connect id).imp ?_
    rintro (fault | _) y rfl <;> exact ⟨trivial, rfl⟩
  | begin =>
    have hcall : (Memory.Call.begin base).number = base := rfl
    refine (plain_lent hgone hcall Memory.Failures.begin fun _ => true).imp ?_
    rintro (fault | _) y rfl <;> exact ⟨trivial, rfl⟩
  | commit =>
    have hcall : (Memory.Call.commit base).number = base := rfl
    refine (plain_lent hgone hcall Memory.Failures.commit fun _ => false).imp ?_
    rintro (fault | _) y rfl <;> exact ⟨trivial, rfl⟩
  | rollback =>
    have hcall : (Memory.Call.rollback base).number = base := rfl
    refine (plain_lent hgone hcall Memory.Failures.rollback fun _ => false).imp ?_
    rintro (fault | _) y rfl <;> exact ⟨trivial, rfl⟩
  | prepare sql kind =>
    refine (Lease.operate_alone (Memory.apart base number) possession_tolerates (fun _ => id)
      (fun handle handles => handles ++ [handle]) (fun _ => rfl) (prepare_kept sql kind)
        hgone).imp ?_
    rintro r ⟨_, _⟩ ⟨⟨rfl, rfl⟩, rfl⟩
    refine ⟨rfl, ?_⟩
    simp only [Mirror.stage, Mirror.connState, Mirror.after, Answered.handles, List.map_append,
      List.map_singleton]
    rfl
  | execute handle bindings =>
    refine (Lease.operate_alone (Memory.apart base number) possession_tolerates (fun _ => id)
      (fun _ => id) (fun _ => rfl) (execute_kept handle bindings) hgone).imp ?_
    rintro (fault | _) ⟨_, _⟩ ⟨rfl, rfl⟩ <;> exact ⟨trivial, rfl⟩
  | destroy handle =>
    intro s hs
    obtain ⟨⟨_, _⟩, hmay, rfl, rfl⟩ := Lease.destroy_alone possession_tolerates
      (fun s hs => ⟨_, destroy_kept handle hs, rfl⟩) hs
    refine ⟨_, hmay, trivial, ?_⟩
    have hcontains : m.connState.statements.contains handle.id
      = m.handles.any (·.id == handle.id) := by
      rw [Mirror.connState, List.contains_eq_any_beq, List.any_map]
      congr 1
      funext other
      exact Bool.beq_comm
    simp only [Mirror.stage, Mirror.after, Answered.handles, Answered.transaction, Answered.calls,
      Answered.prepares, ConnState.destroyed, hcontains]
    split
    · simp only [Mirror.connState, ConnState.call, List.filter_map]
      rfl
    next hnone =>
      have hsame : m.handles.filter (·.id != handle.id) = m.handles := by
        refine List.filter_eq_self.mpr fun other hother => ?_
        simp only [List.any_eq_true, not_exists, not_and] at hnone
        simpa using hnone other hother
      rw [hsame, List.append_nil]
      rfl

end

section

variable (hgone : ∀ y, gone y id)

include hgone

/-- **After a usage** the books say what has been heard. -/
theorem Usage.obeys (usage : Usage α) :
    (usage.on (Memory.pool.lease base number : Lease World).connection).Obeys
      (lending permit base number)
      gone (fun x y => m.Follows base x.2 ∧ y = (m.play base x.2).stage) m.stage := by
  induction usage generalizing m with
  | done a => exact ⟨trivial, rfl⟩
  | use first next ih =>
    refine (Use.obeys (hgone _) first).bind ?_
    rintro answer _ ⟨hallows, rfl⟩
    refine (ih answer).bind ?_
    rintro x _ ⟨hfollows, rfl⟩
    exact ⟨⟨hallows, hfollows⟩, rfl⟩

/-! ## Ending it -/

/-- **Closing a lease.** -/
theorem close_obeys :
    ((Memory.pool.lease base number : Lease World).shutdown .closed).Obeys
      (lending permit base number) gone
      (fun _ y => y = m.final base) m.stage := by
  let tidied : ConnState := { m.connState with calls := m.calls ++ m.undo base }
  have hcleared : tidied.cleared base m.handles = ⟨[], m.next, m.calls ++ m.farewell base⟩ := by
    have hall : ∀ id ∈ tidied.statements, ∃ handle ∈ m.handles, handle.id = id :=
      fun id hid => List.mem_map.mp hid
    have hseen : ∀ handle ∈ m.handles,
        handle.id ∈ tidied.statements ↔ handle.id ∉ ([] : List UInt64) := fun handle hhandle =>
      ⟨fun _ => List.not_mem_nil, fun _ => List.mem_map_of_mem hhandle⟩
    rw [ConnState.cleared_eq base hall hseen]
    simp only [tidied, Mirror.connState, Mirror.farewell, List.append_assoc]
  have hrollback : m.transaction = true →
      (Memory.plainCall base (.rollback base) Memory.Failures.rollback : Attempt World
        Unit).run.Obeys
        (underneath permit base number) (fun _ _ => False) (fun _ k => k = .kept tidied)
        (.kept m.connState) := by
    intro hopen
    have hcall : (Memory.Call.rollback base).number = base := rfl
    refine (plainCall_kept hcall _).imp ?_
    rintro _ _ rfl
    simp only [tidied, Mirror.undo, hopen, if_true]
    rfl
  have hnothing : m.transaction = false → Possession.kept m.connState = .kept tidied := by
    intro hnone
    simp only [tidied, Mirror.undo, hnone, Bool.false_eq_true, if_false, List.append_nil]
    rfl
  have hback : ∀ k s, k = Possession.kept tidied →
      (lending permit base number).knows (.emptied false true, k) s →
      ∃ k', (lending permit base number).may (.emptied false true, k) s (.emptied false false, k')
          ((Memory.pool.lease base number).release
            ((Memory.pool.lease base number).destroyAll m.handles s))
        ∧ k' = .returned (tidied.cleared base m.handles) := by
    rintro _ s rfl hs
    exact ⟨_, release_kept m.handles (congrArg ConnState.statements hcleared) hs, rfl⟩
  refine (Lease.shutdown_alone (Memory.apart base number) possession_tolerates
    (· = .kept tidied) hgone
    hrollback hnothing hback).imp ?_
  · rintro _ ⟨_, _⟩ ⟨rfl, rfl⟩
    rw [hcleared]
    rfl

end

end Transactional
