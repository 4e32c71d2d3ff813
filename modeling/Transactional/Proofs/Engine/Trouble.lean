import Transactional.Proofs.Lease.Alone
import Transactional.World

/-!
# Trouble with the SQL engine

The engine may fail a call for reasons of its own, and then the call has had the effect that it had
by then.  A connection does not get that far if it has ended, nor with a statement that has not been
prepared on it.

* `Engine.Mishap`, `Engine.Trouble` — what goes wrong with a call, and with which calls when.
* `Engine.beset`, `Engine.besetPool` — a connection with trouble, and the pool of such connections;
  `Engine.Settings.single` — one that has room for a single connection.
* `Engine.apart` — a lease on such a connection is a part of the state of its own.
-/

namespace Transactional

namespace Engine

/-- **What goes wrong with a call.** -/
structure Mishap where
  fault : Fault
  change : Database → Database := id

/-- **Which calls** on which connection **go wrong when.** -/
abbrev Trouble : Type :=
  Memory.Call → World → Option Mishap

namespace Trouble

/-- **No transaction is opened by a call that fails.** -/
def OpensNothing (trouble : Trouble) : Prop :=
  ∀ call s mishap, trouble call s = some mishap →
    ∀ database : Database, database.saved = none → (mishap.change database).saved = none

/-- **A call that fails has no effect.** -/
def Harmless (trouble : Trouble) : Prop :=
  ∀ call s mishap, trouble call s = some mishap → mishap.change = id

end Trouble

/-- **A call that may go wrong.** -/
def failing (mishap : Option Mishap) (f : Link → Except Fault α × Link) (l : Link) :
    Except Fault α × Link :=
  match mishap with
  | some mishap => (.error mishap.fault, { l with database := mishap.change l.database })
  | none => f l

/-- **A connection with trouble.** -/
def beset (trouble : Trouble) (number : Nat) : Connection World :=
  { (connection number : Connection World) with
    connect := .step fun s => onOpen number
      (failing (trouble (.connect number) s) fun l => (.ok (), l)) s
    begin := .step fun s =>
      onOpen number (failing (trouble (.begin number) s) (command .begin fun _ => true)) s
    commit := .step fun s =>
      onOpen number (failing (trouble (.commit number) s) (command .commit fun _ => false)) s
    rollback := .step fun s =>
      onOpen number (failing (trouble (.rollback number) s) (command .rollback fun _ => false)) s
    prepare := fun sql kind => .step fun s =>
      onOpen number (failing (trouble (.prepare number sql) s) (prepareOn sql kind)) s
    execute := fun handle bindings => .step fun s =>
      onOpen number (fun l =>
        failing (if l.statements.contains handle.id then
            trouble (.execute number handle.sql bindings) s
          else none) (executeOn handle bindings) l) s }

/-- **The pool of connections with trouble.** -/
def besetPool (trouble : Trouble) (settings : Settings) : Pool World :=
  { (pool settings : Pool World) with connection := beset trouble }

lemma besetPool_none (settings : Settings) :
    besetPool (fun _ _ => none) settings = (pool settings : Pool World) := by
  have hbeset : beset (fun _ _ => none) = (connection : Nat → Connection World) := by
    funext number
    simp only [beset, ite_self]
    rfl
  rw [besetPool, hbeset]
  rfl

def Settings.single : Settings := ⟨1, 1000, by decide, by decide⟩

/-- **A lease on a connection with trouble** is a part of the state of its own. -/
lemma apart (trouble : Trouble) (settings : Settings) (base number : Nat) :
    ((besetPool trouble settings).lease base number).Apart where
  schedule _ _ := rfl
  traces _ _ := rfl
  schedule_cell _ _ := rfl
  schedule_traces _ _ := rfl
  ended_cell _ _ := rfl
  ended_schedule _ _ := rfl
  ended_traces _ _ := rfl

end Engine

end Transactional
