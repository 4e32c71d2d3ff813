import Transactional.Engine.Pool
import Transactional.Gate
import Transactional.Memory.Pool
import Transactional.Promise
import Transactional.Run

/-!
# The world

One state with everything in it: the schedule, the backends and their pools, leases, logs, and what
programs and those who run them share: gates, promised results and a board for notes.

* `World` — the state; the instances say where each component finds its part.
* `World.memory`, `World.engine` — a fresh world around either pool.
-/

namespace Transactional

/-- **Everything that changes.** -/
structure World where
  schedule : Schedule := {}
  traces : List Trace := []
  backend : Memory.Backend := {}
  accounts : Memory.Accounts := {}
  links : Table Nat Engine.Link := {}
  linkCount : Nat := 0
  books : Engine.Books := {}
  leases : Table Nat LeaseState := {}
  leaseCount : Nat := 0
  managerClosed : Bool := false
  lines : Table Nat (List String) := {}
  disk : Disk := {}
  gates : Table String Gate := {}
  promises : Table Nat (Promise (Except Fault Value)) := {}
  notes : List Json := []

namespace World

instance : Host World where
  schedule :=
    ⟨World.schedule, fun v s => { s with schedule := v }, fun _ _ => rfl, fun _ _ _ => rfl⟩
  traces := ⟨World.traces, fun v s => { s with traces := v }, fun _ _ => rfl, fun _ _ _ => rfl⟩

instance : MemoryHost World where
  backend := ⟨World.backend, fun v s => { s with backend := v }, fun _ _ => rfl, fun _ _ _ => rfl⟩
  accounts :=
    ⟨World.accounts, fun v s => { s with accounts := v }, fun _ _ => rfl, fun _ _ _ => rfl⟩

instance : EngineHost World where
  links := ⟨World.links, fun v s => { s with links := v }, fun _ _ => rfl, fun _ _ _ => rfl⟩
  linkCount :=
    ⟨World.linkCount, fun v s => { s with linkCount := v }, fun _ _ => rfl, fun _ _ _ => rfl⟩
  books := ⟨World.books, fun v s => { s with books := v }, fun _ _ => rfl, fun _ _ _ => rfl⟩

instance : LeaseHost World where
  leases number :=
    Cell.comp ⟨World.leases, fun v s => { s with leases := v }, fun _ _ => rfl, fun _ _ _ => rfl⟩
      (Table.entry number)
  leaseCount :=
    ⟨World.leaseCount, fun v s => { s with leaseCount := v }, fun _ _ => rfl, fun _ _ _ => rfl⟩

instance : LogHost World where
  lines number :=
    Cell.comp ⟨World.lines, fun v s => { s with lines := v }, fun _ _ => rfl, fun _ _ _ => rfl⟩
      (Table.entry number)
  disk := ⟨World.disk, fun v s => { s with disk := v }, fun _ _ => rfl, fun _ _ _ => rfl⟩

/-- Whether the manager has been closed, as a part of the world. -/
def managerCell : Cell World Bool :=
  ⟨World.managerClosed, fun v s => { s with managerClosed := v }, fun _ _ => rfl, fun _ _ _ => rfl⟩

/-- A gate, by name. -/
def gate (name : String) : Cell World Gate :=
  Cell.comp ⟨World.gates, fun v s => { s with gates := v }, fun _ _ => rfl, fun _ _ _ => rfl⟩
    (Table.entry name)

/-- A promised result, by number. -/
def promise (number : Nat) : Cell World (Promise (Except Fault Value)) :=
  Cell.comp ⟨World.promises, fun v s => { s with promises := v }, fun _ _ => rfl, fun _ _ _ => rfl⟩
    (Table.entry number)

/-- Pin a note to the board. -/
def note (j : Json) (s : World) : World :=
  { s with notes := s.notes ++ [j] }

/-- **A fresh scripted backend** with a pool of that capacity. -/
def withMemory (capacity : Nat) (s : World) : World :=
  { s with backend := {}, accounts := { permits := { free := capacity } } }

/-- A fresh pool of the SQL engine. -/
def withEngine (s : World) : World :=
  { s with books := {} }

/-- A manager of a pool. -/
def manager (pool : Pool World) : Manager World where
  pool := pool
  closed := managerCell

end World

end Transactional
