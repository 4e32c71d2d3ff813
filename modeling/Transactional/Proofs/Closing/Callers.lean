import Transactional.Proofs.Closing.Holders
import Transactional.Proofs.Closing.Queue
import Transactional.Proofs.Traffic.Accounts

/-!
# Everything that can happen to a manager that is closed

Any number of clones of one manager are used and closed at the same time, by any number of callers.
Each caller has his own business: he asks for a connection, waits for a permit, works on what he has
got, looks after a lease, or closes the manager.

* `Closer` — how far somebody has come who closes the manager.
* `CallerStage`, `CallerStage.Goes` — what a caller is about, and what can become of it;
  `CallerStage.goes_iff` says that these are the steps of his task.
* `CallerSystem`, `CallerSystem.Step`, `CallerSystem.Story` — the world with all callers, and
  everything that can happen.
-/

namespace Transactional

/-! ## Callers -/

/-- **How far somebody has come who closes the manager.** -/
inductive Closer where
  | asked
  | shutting
  | finished
deriving DecidableEq

namespace Closer

def task (clone : Manager World) : Closer → Task World Unit
  | .asked => clone.close
  | .shutting => clone.pool.shutDown
  | .finished => .done ()

def next (clone : Manager World) (s : World) : Closer → Closer
  | .asked => if clone.closed.get s then .finished else .shutting
  | .shutting | .finished => .finished

end Closer

/-- The fault of a manager that has been closed. -/
def Manager.closedFault : Fault :=
  .pool "connection manager is closed"

/-- **What a caller is about.** -/
inductive CallerStage where
  /-- He asks a clone for a connection, with which he has something in mind. -/
  | asking (clone : Manager World) (use : Connection World → Task World (Except Fault Value))
  | waiting (clone : Manager World) (rest : Task World Bool)
      (use : Connection World → Task World (Except Fault Value))
  | working (rest : Task World (Except Fault Value))
  | refused (fault : Fault)
  | helper (rest : Task World Unit)
  | closer (clone : Manager World) (phase : Closer)
  | gone

namespace CallerStage

def task : CallerStage → Task World Unit
  | .asking clone use => (clone.lease.run.bind (Connection.whenLeased use)).bind fun _ => .done ()
  | .waiting clone rest use =>
      (rest.bind fun had => (clone.resume had).run.bind (Connection.whenLeased use)).bind
        fun _ => .done ()
  | .working rest => rest.bind fun _ => .done ()
  | .helper rest => rest
  | .closer clone phase => phase.task clone
  | .refused _ | .gone => .done ()

/-- What somebody is about who waits, or has just been answered. -/
def answered (clone : Manager World) (use : Connection World → Task World (Except Fault Value)) :
    Task World Bool → CallerStage
  | .done true => .working ((clone.resume true).run.bind (Connection.whenLeased use))
  | .done false => .refused Memory.poolShut
  | rest => .waiting clone rest use

/-- **What can become of a caller** with one step. -/
inductive Goes : CallerStage → World → CallerStage → World → Prop where
  | turnedAway {clone : Manager World} {use : Connection World → Task World (Except Fault Value)}
      {s : World}
      (h : clone.closed.get s = true) : Goes (.asking clone use) s (.refused Manager.closedFault) s
  | queue {clone : Manager World} {use : Connection World → Task World (Except Fault Value)}
      {s : World}
      (h : clone.closed.get s = false) :
      Goes (.asking clone use) s (.waiting clone (Semaphore.acquire Memory.permits) use) s
  | wait {clone : Manager World} {use : Connection World → Task World (Except Fault Value)}
      {s s' : World}
      {rest rest' : Task World Bool} (h : rest.Moves s rest' s') :
      Goes (.waiting clone rest use) s (answered clone use rest') s'
  | work {s s' : World} {rest rest' : Task World (Except Fault Value)} (h : rest.Moves s rest' s') :
      Goes (.working rest) s (.working rest') s'
  | help {s s' : World} {rest rest' : Task World Unit} (h : rest.Moves s rest' s') :
      Goes (.helper rest) s (.helper rest') s'
  | close {clone : Manager World} {phase : Closer} {s s' : World} {rest : Task World Unit}
      (h : (phase.task clone).Moves s rest s') :
      Goes (.closer clone phase) s (.closer clone (phase.next clone s)) s'

/-- Whether he is about to shut the pool down. -/
def shuts : CallerStage → Bool
  | .closer _ .shutting => true
  | _ => false

/-- **A caller as he comes to be**: he uses a clone of the manager, and waits where one can wait. -/
def Proper : CallerStage → Prop
  | .asking clone _ | .closer clone _ => clone.Clone
  | .waiting clone rest _ => clone.Clone ∧ Memory.Queueing rest
  | _ => True

variable {b b' : CallerStage} {s s' : World}

lemma task_answered (clone : Manager World)
    (use : Connection World → Task World (Except Fault Value))
    (rest : Task World Bool) :
    (answered clone use rest).task = (CallerStage.waiting clone rest use).task := by
  unfold answered
  split <;> rfl

lemma closer_moves {clone : Manager World} (hclone : clone.Clone) {phase : Closer}
    {rest : Task World Unit}
    (h : (phase.task clone).Moves s rest s') : rest = (phase.next clone s).task clone := by
  cases phase with
  | asked =>
    cases h
    show (if _ then _ else _) = _
    unfold Closer.next
    split <;> rfl
  | shutting =>
    rw [Closer.task, hclone.pool] at h
    cases h
    rfl
  | finished => cases h

lemma asking_task {clone : Manager World} (hpool : clone.pool = Memory.pool)
    (use : Connection World → Task World (Except Fault Value)) :
    (CallerStage.asking clone use).task = .act id fun s =>
      if clone.closed.get s then (CallerStage.refused Manager.closedFault).task
      else (CallerStage.waiting clone (Semaphore.acquire Memory.permits) use).task := by
  show Task.bind (Task.bind clone.lease.run _) _ = _
  rw [Manager.lease_eq_resume hpool]
  refine congrArg (Task.act id) (funext fun s => ?_)
  dsimp only
  split
  · rfl
  · exact congrArg (fun task => task.bind fun _ => Task.done ())
      (Task.bind_assoc (Semaphore.acquire Memory.permits) _ (Connection.whenLeased use))

/-- **What can become of a caller** is what his task does. -/
theorem goes_iff (hproper : b.Proper) {rest : Task World Unit} :
    b.task.Moves s rest s' ↔ ∃ b', b.Goes s b' s' ∧ b'.task = rest := by
  constructor
  · intro hmove
    cases b with
    | asking clone use =>
      rw [asking_task hproper.pool] at hmove
      cases hmove
      cases hclosed : clone.closed.get s with
      | true => exact ⟨_, .turnedAway hclosed, (if_pos hclosed).symm⟩
      | false => exact ⟨_, .queue hclosed, (if_neg (by simp [hclosed])).symm⟩
    | waiting clone rest use =>
      obtain ⟨bound, rfl, hbound⟩ := hmove.of_map
      obtain ⟨rest', hrest, rfl⟩ := hbound.of_bind hproper.2.ne_done
      exact ⟨_, .wait hrest, task_answered clone use rest'⟩
    | working rest =>
      obtain ⟨rest', rfl, hrest⟩ := hmove.of_map
      exact ⟨_, .work hrest, rfl⟩
    | helper rest => exact ⟨_, .help hmove, rfl⟩
    | closer clone phase => exact ⟨_, .close hmove, (closer_moves hproper hmove).symm⟩
    | refused | gone => cases hmove
  · rintro ⟨b', hgoes, rfl⟩
    cases hgoes with
    | turnedAway hclosed =>
      rw [asking_task hproper.pool]
      exact .of_act (if_pos hclosed)
    | queue hclosed =>
      rw [asking_task hproper.pool]
      exact .of_act (if_neg (Bool.eq_false_iff.mp hclosed))
    | wait h =>
      rw [task_answered]
      exact (h.bind _).bind _
    | work h => exact h.bind _
    | help h => exact h
    | close h =>
      show Task.Moves _ s (Closer.task _ _) s'
      rwa [← closer_moves hproper h]

lemma answered_of_queueing {clone : Manager World}
    {use : Connection World → Task World (Except Fault Value)}
    {rest : Task World Bool} (h : Memory.Queueing rest) :
    answered clone use rest = .waiting clone rest use := by
  unfold answered
  split
  · exact absurd rfl (h.ne_done true)
  · exact absurd rfl (h.ne_done false)
  · rfl

lemma Goes.proper (h : b.Goes s b' s') (hproper : b.Proper) : b'.Proper := by
  cases h with
  | turnedAway | work | help => trivial
  | queue => exact ⟨hproper, .arriving⟩
  | close => exact hproper
  | wait h =>
    obtain ⟨-, hrest | rfl⟩ := hproper.2.goes_on h
    · rw [answered_of_queueing hrest]
      exact ⟨hproper.1, hrest⟩
    · cases s.accounts.permits.shut <;> trivial

end CallerStage

/-- **A caller.** -/
structure Caller where
  business : CallerStage
  optional : Bool
  lease : Option (Nat × Nat)

def World.newLease (s s' : World) : Option (Nat × Nat) :=
  (World.tenancies (World.newJobs s s')).head?

namespace Caller

/-- Somebody who asks for a connection and keeps it. -/
def checkout (clone : Manager World) : Caller :=
  ⟨.asking clone fun _ => .done (.ok .unit), true, none⟩

def run (clone : Manager World) (sink : Sink World) (limit : Option Duration)
    (program : Program World) :
    Caller :=
  ⟨.asking clone fun conn => Task.holding conn.drop (Run.on conn sink limit program), false, none⟩

/-- Somebody who uses, closes or drops a connection that has been leased. -/
def call (clone : Manager World) (base number : Nat) (call : LeaseCall) : Caller :=
  ⟨.helper (call.task (clone.wrap (Memory.pool.lease base number).connection)), !call.ends, none⟩

lemma checkout_task (clone : Manager World) :
    (checkout clone).business.task = clone.lease.run.bind fun _ => .done () := by
  show Task.bind (Task.bind _ _) _ = _
  rw [Task.bind_assoc]
  exact congrArg _ (funext fun r => by cases r <;> rfl)

lemma run_task (clone : Manager World) (sink : Sink World) (limit : Option Duration)
    (program : Program World) :
    (run clone sink limit program).business.task
      = (runWith clone sink limit program).run.bind fun _ => .done () := by
  refine congrArg (fun task => Task.bind task fun _ => .done ()) (congrArg _ (funext fun r => ?_))
  cases r <;> rfl

end Caller

lemma forall₂_split {α β : Type} {R : α → β → Prop} {before after : List α} {a : α} {bs : List β}
    (h : List.Forall₂ R (before ++ a :: after) bs) :
    ∃ before' b after', bs = before' ++ b :: after' ∧ R a b
      ∧ ∀ {R' : α → β → Prop} {x y}, (∀ x y, R x y → R' x y) → R' x y →
        List.Forall₂ R' (before ++ x :: after) (before' ++ y :: after') := by
  induction before generalizing bs with
  | nil =>
    cases h with
    | @cons _ b _ after' hfirst hrest =>
      exact ⟨[], b, after', rfl, hfirst, fun hlater hxy => .cons hxy (hrest.imp hlater)⟩
  | cons first before ih =>
    cases h with
    | @cons _ first' _ bs' hfirst hrest =>
      obtain ⟨before', b, after', rfl, hb, hreplaced⟩ := ih hrest
      exact ⟨first' :: before', b, after', rfl, hb,
        fun hlater hxy => .cons (hlater _ _ hfirst) (hreplaced hlater hxy)⟩

/-! ## The system -/

/-- **The world and all callers**; the jobs that have been due, and how often the pool has been told
to shut down. -/
structure CallerSystem where
  state : World
  callers : List Caller := []
  jobs : List Job := []
  shutdowns : Nat := 0

namespace CallerSystem

def addCaller (system : CallerSystem) (caller : Caller) : CallerSystem :=
  { system with callers := system.callers ++ [caller] }

/-- **Everything that can happen**: checkouts and runs, calls by those who hold a lease, and closes,
on any clones; steps of all tasks, one change at a time and in any order; jobs that begin; and
whatever these tasks do not see.  If nobody is `closing`, then a close does nothing. -/
inductive Step (closing : Bool) : CallerSystem → CallerSystem → Prop where
  | checkout {system : CallerSystem} {clone : Manager World} (hclone : clone.Clone) :
      Step closing system (system.addCaller (.checkout clone))
  | run {system : CallerSystem} {clone : Manager World} (hclone : clone.Clone) {sink : Sink World}
      (hsink : sink.Foreign)
      (limit : Option Duration) {program : Program World} (hprogram : program.Foreign) :
      Step closing system (system.addCaller (.run clone sink limit program))
  | call {system : CallerSystem} {clone : Manager World} (hclone : clone.Clone) {base number : Nat}
      (hin : (base, number) ∈ World.tenancies system.jobs) (call : LeaseCall) :
      Step closing system (system.addCaller (.call clone base number call))
  | close {system : CallerSystem} {clone : Manager World} (hclone : clone.Clone) :
      Step closing system (system.addCaller ⟨.closer clone (if closing then .asked else .finished),
        false, none⟩)
  | move {s s' : World} (before after : List Caller) {b b' : CallerStage} {optional : Bool}
      {lease : Option (Nat × Nat)} {jobs : List Job} {shutdowns : Nat} (h : b.Goes s b' s') :
      Step closing ⟨s, before ++ ⟨b, optional, lease⟩ :: after, jobs, shutdowns⟩
        ⟨s', before ++ ⟨b', optional, lease.or (World.newLease s s')⟩ :: after,
          jobs ++ World.newJobs s s',
          shutdowns + b.shuts.toNat⟩
  | giveUp {s : World} {before after : List Caller} {b : CallerStage} {lease : Option (Nat × Nat)}
      {on : Wait World} {next : Task World Unit} {jobs : List Job} {shutdowns : Nat}
      (h : b.task = .wait on next) :
      Step closing ⟨s, before ++ ⟨b, true, lease⟩ :: after, jobs, shutdowns⟩
        ⟨on.abandon s, before ++ ⟨.gone, true, lease.or (World.newLease s (on.abandon s))⟩ :: after,
          jobs ++ World.newJobs s (on.abandon s), shutdowns⟩
  | begin {s : World} {callers : List Caller} {number : TaskId} {job : Job} {task : Task World Unit}
      {jobs : List Job} {shutdowns : Nat} (due : Company.Due number job s)
      (h : ∃ base number, Memory.pool.Jobs base number job task) :
      Step closing ⟨s, callers, jobs, shutdowns⟩
        ⟨Company.takeOff (.start number job) s, callers ++ [⟨.helper task, false, none⟩],
          jobs ++ World.newJobs s (Company.takeOff (.start number job) s), shutdowns⟩
  | aside {system : CallerSystem} {s' : World} (h : World.Aside system.state s')
      (hclosed : s'.managerClosed = system.state.managerClosed) :
      Step closing system { system with state := s' }

/-- **Everything that can have happened** since a pool of a given capacity was set up. -/
def Story (closing : Bool) (capacity : Nat) (w : World) : CallerSystem → Prop :=
  Relation.ReflTransGen (Step closing) { state := w.withMemory capacity }

def Proper (system : CallerSystem) : Prop :=
  ∀ caller ∈ system.callers, caller.business.Proper

variable {closing : Bool} {capacity : Nat} {w : World} {system system' : CallerSystem}

lemma Proper.addCaller (h : system.Proper) {caller : Caller} (hcaller : caller.business.Proper) :
    (system.addCaller caller).Proper := by
  intro x hx
  rcases List.mem_append.mp hx with hx | hx
  · exact h x hx
  · rwa [List.mem_singleton.mp hx]

lemma Proper.replace {before after : List Caller} {caller caller' : Caller} {s s' : World}
    {jobs jobs' : List Job} {n n' : Nat} (h : Proper ⟨s, before ++ caller :: after, jobs, n⟩)
    (hcaller : caller.business.Proper → caller'.business.Proper) :
    Proper ⟨s', before ++ caller' :: after, jobs', n'⟩ := by
  intro x hx
  rcases List.mem_append.mp hx with hx | hx
  · exact h x (List.mem_append_left _ hx)
  · rcases List.mem_cons.mp hx with rfl | hx
    · exact hcaller (h caller (by simp))
    · exact h x (by simp [hx])

lemma Step.proper (hstep : Step closing system system') (h : system.Proper) : system'.Proper := by
  cases hstep with
  | checkout hclone => exact h.addCaller hclone
  | run hclone => exact h.addCaller hclone
  | call => exact h.addCaller trivial
  | close hclone => exact h.addCaller hclone
  | move _ _ hgoes => exact h.replace hgoes.proper
  | giveUp => exact h.replace fun _ => trivial
  | begin => exact h.addCaller trivial
  | aside => exact h

lemma Story.proper (story : Story closing capacity w system) : system.Proper := by
  induction story with
  | refl => exact fun _ h => absurd h List.not_mem_nil
  | tail _ hstep ih => exact hstep.proper ih

end CallerSystem

end Transactional
