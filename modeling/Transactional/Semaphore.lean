import Transactional.Task.Schedule

/-!
# Permits

A number of permits, handed out one at a time.  A permit that comes back goes to whoever has waited
longest, so nobody overtakes; only when nobody waits does it become free.

* `Semaphore` — free permits and those who wait.
* `Semaphore.acquire` — the task that waits for a permit.
* `Semaphore.release`, `Semaphore.shutDown` — give a permit back, and refuse everybody from now on.
-/

namespace Transactional

/-- **Permits and those who wait for them.** -/
structure Semaphore where
  free : Nat
  /-- Those who wait, by ticket, the one who has waited longest first. -/
  waiting : List (Nat × Option TaskId) := []
  /-- Those who have been given a permit and have not taken their turn since. -/
  granted : List Nat := []
  shut : Bool := false
  nextTicket : Nat := 0

namespace Semaphore

/-- Who waits for a ticket's permit. -/
def sleeper? (ticket : Nat) (semaphore : Semaphore) : Option TaskId :=
  (semaphore.waiting.find? (·.1 == ticket)).bind (·.2)

/-- Wait in line, with the next ticket. -/
def enqueue (semaphore : Semaphore) : Semaphore :=
  { semaphore with
    waiting := semaphore.waiting ++ [(semaphore.nextTicket, none)]
    nextTicket := semaphore.nextTicket + 1 }

/-- Take a free permit. -/
def take (semaphore : Semaphore) : Semaphore :=
  { semaphore with free := semaphore.free - 1 }

/-- Give a permit to whoever has waited longest, or keep it free; also say who is to be woken. -/
def handOver (semaphore : Semaphore) : List TaskId × Semaphore :=
  match semaphore.waiting with
  | [] => ([], { semaphore with free := semaphore.free + 1 })
  | (ticket, sleeper) :: rest =>
      (sleeper.toList, { semaphore with waiting := rest, granted := semaphore.granted ++ [ticket] })

/-- Leave the line; a permit that had been granted goes to the next. -/
def withdraw (ticket : Nat) (semaphore : Semaphore) : List TaskId × Semaphore :=
  if semaphore.granted.contains ticket then
    handOver { semaphore with granted := semaphore.granted.filter (· != ticket) }
  else ([], { semaphore with waiting := semaphore.waiting.filter (·.1 != ticket) })

/-- Take a permit that was granted. -/
def collect (ticket : Nat) (semaphore : Semaphore) : Semaphore :=
  { semaphore with granted := semaphore.granted.filter (· != ticket) }

/-- Refuse everybody. -/
def refuseAll (semaphore : Semaphore) : List TaskId × Semaphore :=
  (semaphore.waiting.filterMap (·.2), { semaphore with waiting := [], shut := true })

variable [Host σ]

/-- Change the permits and wake those whom this concerns. -/
def updating (cell : Cell σ Semaphore) (f : Semaphore → List TaskId × Semaphore) (s : σ) : σ :=
  let (woken, semaphore) := f (cell.get s)
  Host.wakeAll woken (cell.set semaphore s)

/-- **Give a permit back.** -/
def release (cell : Cell σ Semaphore) : σ → σ :=
  updating cell handOver

/-- **Hand out no more permits.**  Those who wait are refused, also those who have been granted one
and have not taken their turn since. -/
def shutDown (cell : Cell σ Semaphore) : σ → σ :=
  updating cell refuseAll

/-- Waiting in line. -/
def inLine (cell : Cell σ Semaphore) (ticket : Nat) : Wait σ where
  ready s := (cell.get s).shut || (cell.get s).granted.contains ticket
  register self := cell.modify fun semaphore =>
    { semaphore with
      waiting := semaphore.waiting.map fun e => if e.1 = ticket then (ticket, some self) else e }
  abandon := updating cell (withdraw ticket)

/-- Take the permit for which one has waited, unless everybody is refused. -/
def afterWait (cell : Cell σ Semaphore) (ticket : Nat) : Task σ Bool :=
  .act
    (fun s =>
      if (cell.get s).shut then updating cell (withdraw ticket) (Task.spend s)
      else Task.spend (cell.modify (collect ticket) s))
    fun s => .done (!(cell.get s).shut)

/-- Ask for a permit: take one that is free, or else wait in line.  Nobody comes between the look
and the taking. -/
def ask (cell : Cell σ Semaphore) (s : σ) : σ :=
  let semaphore := cell.get s
  if semaphore.shut then Task.spend s
  else if 0 < semaphore.free then Task.spend (cell.modify take s)
  else cell.set semaphore.enqueue s

/-- **Wait for a permit.**  The answer is whether one was had. -/
def acquire (cell : Cell σ Semaphore) : Task σ Bool :=
  .wait Task.pause <| .act (ask cell) fun s =>
    let semaphore := cell.get s
    if semaphore.shut then .done false
    else if 0 < semaphore.free then .done true
    else
      .wait (Task.paced (inLine cell semaphore.nextTicket)) (afterWait cell semaphore.nextTicket)

end Semaphore

end Transactional
