import Transactional.Proofs.Program.Scopes
import Transactional.Proofs.Run.Publishing
import Transactional.Proofs.Run.Returned

/-!
# The first failure of a run

A run comes to a connection, to its transaction, to the end of its program and to the commit, and
each of these may fail.  The failure that it ends with is the first one.  That a rollback has failed
as well, by itself or when the connection is given back, changes nothing about it; and the
connection is given back on every path, unless whoever looks out for its end is in the middle of
that.

* `Milestone` — what a run comes to on its way.
* `Run.milestones` — a run that keeps a record of it; `runWith_eq_milestones` says that it is the
  run.
* `Run.Path` — the paths that there are.
* **`Run.first_fault_prevails`** — what a run ends with, and what it has left behind, if those who
  look after its lease move only while it waits.
* **`Run.returned_before_release`** — if they may move at any time, then a run may be over before
  its connection has been given back.
-/

namespace Transactional

/-- **What a run comes to on its way**, and what comes of it. -/
inductive Milestone where
  | checkedOut (result : Except Fault Unit)
  | begun (result : Except Fault Unit)
  | performed (result : Except Fault Value)
  | committed (result : Except Fault Unit)
  | rolledBack (result : Except Fault Unit)
  | closed

/-- The failure that a milestone is for a run.  A rollback that fails is none. -/
def Milestone.fault? : Milestone → Option Fault
  | .checkedOut (.error fault) | .begun (.error fault) | .performed (.error fault)
  | .committed (.error fault) => some fault
  | _ => none

namespace Task

lemma Gives.guarded {P : α → Prop} {tidy : σ → σ} {task : Task σ α} (h : task.Gives P) :
    (task.guarded tidy).Gives P := by
  induction task with
  | done a => exact h
  | act update next ih => exact fun s => ih s (h s)
  | wait on next ih => exact ih h

lemma Gives.holding {P : α → Prop} {tidy : σ → σ} {task : Task σ α} (h : task.Gives P) :
    (task.holding tidy).Gives P :=
  h.guarded.bind fun _ ha _ => ha

lemma Gives.after {P : β → Prop} {task : Task σ α} {F : α → Task σ β} (hF : ∀ a, (F a).Gives P) :
    (task.bind F).Gives P :=
  (Gives.trivial task).bind fun a _ => hF a

lemma Gives.poll {P : α → Prop} {task : Task σ α} (h : task.Gives P) (self : TaskId) (s : σ) :
    (task.poll self s).1.Gives P := by
  induction task generalizing s with
  | done a => exact h
  | act update next ih => exact ih s (h s) (update s)
  | wait on next ih =>
    rw [Task.poll]
    split
    · exact ih h s
    · exact h

end Task

lemma Company.gives_play [Host σ] {jobs : Job → Task σ Unit} {P : α → Prop} {c : Company σ α}
    (h : c.front.Gives P) (moves : List (Company.Move σ)) : (c.play jobs moves).front.Gives P := by
  induction moves generalizing c with
  | nil => exact h
  | cons move rest ih =>
    refine ih (c := c.take jobs move) ?_
    by_cases hmove : move = .front
    · subst hmove
      exact h.poll frontTask c.state
    · rw [front_take jobs c hmove]
      exact h

namespace Run

section

variable [Host σ]

/-! ## A run with its milestones -/

/-- **What the program of a run means**, or that it has been cut off. -/
def verdict (conn : Connection σ) (limit : Option Duration) (program : Program σ) :
    Task σ (Except Fault Value × List Event) :=
  match limit with
  | none => program.result conn
  | some d =>
      ((program.result conn).within d.ceilMillis).bind fun
        | some ending => .done ending
        | none => .done (.error (.timeout d), [])

/-- Undo everything, and give the connection back. -/
def undoing (conn : Connection σ) (cause : Fault) (path : List Milestone) :
    Task σ (Except Fault Value × List Milestone) :=
  conn.rollback.run.bind fun rolled =>
    (match rolled with
      | .ok () => Task.done ()
      | .error fault => Task.change <| Host.report
          { level := .warn
            message := "rollback failed"
            fields := [("error", fault.message), ("cause", cause.message)] }).bind fun _ =>
    conn.close.bind fun _ => .done (.error cause, path ++ [Milestone.rolledBack rolled, .closed])

/-- Make everything permanent, give the connection back, and publish the events. -/
def concluding (conn : Connection σ) (sink : Sink σ) (value : Value) (events : List Event)
    (path : List Milestone) : Task σ (Except Fault Value × List Milestone) :=
  conn.commit.run.bind fun
    | .error fault =>
        .act (reportCommit fault) fun _ => undoing conn fault (path ++ [.committed (.error fault)])
    | .ok () => conn.close.bind fun _ => .act (sink.publishAll events) fun _ =>
        .done (.ok value, path ++ [Milestone.committed (.ok ()), .closed])

/-- **A transaction on a connection with its milestones.** -/
def onMilestones (conn : Connection σ) (sink : Sink σ) (limit : Option Duration)
    (program : Program σ) :
    Task σ (Except Fault Value × List Milestone) :=
  conn.begin.run.bind fun
    | .error fault => conn.close.bind fun _ =>
        .done (.error fault, [.checkedOut (.ok ()), .begun (.error fault), .closed])
    | .ok () =>
        (verdict conn limit program).bind fun
          | (.ok value, events) => concluding conn sink value events
              [.checkedOut (.ok ()), .begun (.ok ()), .performed (.ok value)]
          | (.error fault, _) => undoing conn fault
              [.checkedOut (.ok ()), .begun (.ok ()), .performed (.error fault)]

lemma body_eq_verdict (conn : Connection σ) (limit : Option Duration) (program : Program σ) :
    body conn limit program = verdict conn limit program := by
  cases limit <;> simp only [body, verdict, program.runOn_eq_result]
  rfl

lemma undo_eq_undoing (conn : Connection σ) (cause : Fault) (path : List Milestone) :
    undo conn cause = (undoing conn cause path).bind fun told => .done told.1 := by
  simp only [undo, rollbackQuietly, undoing, Task.bind_assoc]
  refine congrArg _ (funext fun rolled => ?_)
  rcases rolled with fault | ⟨⟨⟩⟩ <;> rfl

lemma conclude_eq_concluding (conn : Connection σ) (sink : Sink σ) (value : Value)
    (events : List Event)
    (path : List Milestone) :
    conclude conn sink value events
      = (concluding conn sink value events path).bind fun told => .done told.1 := by
  simp only [conclude, concluding, Task.bind_assoc]
  refine congrArg _ (funext fun result => ?_)
  rcases result with fault | ⟨⟨⟩⟩
  · exact congrArg (Task.act (reportCommit fault)) (funext fun _ => undo_eq_undoing conn fault _)
  · simp only [Task.bind_assoc]
    rfl

lemma on_eq_milestones (conn : Connection σ) (sink : Sink σ) (limit : Option Duration)
    (program : Program σ) :
    on conn sink limit program
      = (onMilestones conn sink limit program).bind fun told => .done told.1 := by
  simp only [on, onMilestones, Task.bind_assoc]
  refine congrArg _ (funext fun opened => ?_)
  rcases opened with fault | ⟨⟨⟩⟩
  · simp only [Task.bind_assoc]
    rfl
  · simp only [body_eq_verdict, Task.bind_assoc]
    refine congrArg _ (funext fun ending => ?_)
    rcases ending with ⟨fault | value, events⟩
    · exact undo_eq_undoing conn fault _
    · exact conclude_eq_concluding conn sink value events _

end

/-- **A run with its milestones.** -/
def milestones [LeaseHost σ] (manager : Manager σ) (sink : Sink σ) (limit : Option Duration)
    (program : Program σ) : Task σ (Except Fault Value × List Milestone) :=
  manager.lease.run.bind fun
    | .error fault => .done (.error fault, [.checkedOut (.error fault)])
    | .ok conn => Task.holding conn.drop (onMilestones conn sink limit program)

end Run

/-- **Without its milestones it is the run.** -/
theorem runWith_eq_milestones [LeaseHost σ] (manager : Manager σ) (sink : Sink σ)
    (limit : Option Duration) (program : Program σ) :
    (runWith manager sink limit program).run
      = (Run.milestones manager sink limit program).bind fun told => .done told.1 := by
  rw [Run.milestones, Task.bind_assoc]
  show manager.lease.run.bind _ = _
  refine congrArg _ (funext fun leased => ?_)
  cases leased with
  | error fault => rfl
  | ok conn =>
    show Task.holding conn.drop (Run.on conn sink limit program) = _
    rw [Run.on_eq_milestones, Task.holding_map]

namespace Run

/-! ## The paths -/

/-- **The paths of a run**, with what it ends with. -/
inductive Path : Except Fault Value → List Milestone → Prop where
  | unleased (fault : Fault) : Path (.error fault) [.checkedOut (.error fault)]
  | unbegun (fault : Fault) : Path (.error fault)
      [.checkedOut (.ok ()), .begun (.error fault), .closed]
  /-- The program fails or is cut off, and the transaction is rolled back with whatever success. -/
  | failed (fault : Fault) (rolled : Except Fault Unit) :
      Path (.error fault) [.checkedOut (.ok ()), .begun (.ok ()), .performed (.error fault),
        .rolledBack rolled, .closed]
  /-- The commit fails, and the transaction is rolled back with whatever success. -/
  | uncommitted (value : Value) (fault : Fault) (rolled : Except Fault Unit) :
      Path (.error fault) [.checkedOut (.ok ()), .begun (.ok ()), .performed (.ok value),
        .committed (.error fault), .rolledBack rolled, .closed]
  | committed (value : Value) :
      Path (.ok value) [.checkedOut (.ok ()), .begun (.ok ()), .performed (.ok value),
        .committed (.ok ()), .closed]

namespace Path

variable {outcome : Except Fault Value} {path : List Milestone}

/-- **A run fails with the first failure on its path.** -/
lemma fault_iff (h : Path outcome path) (fault : Fault) :
    outcome = .error fault ↔ path.findSome? Milestone.fault? = some fault := by
  cases h <;> simp [List.findSome?, Milestone.fault?]

/-- **A run succeeds with what its program gives** if there is no failure on its path. -/
lemma value_iff (h : Path outcome path) (value : Value) :
    outcome = .ok value
      ↔ path.findSome? Milestone.fault? = none ∧ .performed (.ok value) ∈ path := by
  cases h <;> simp [List.findSome?, Milestone.fault?, eq_comm]

end Path

/-- **A run takes one of these paths**, whatever comes of its calls. -/
theorem milestones_path [LeaseHost σ] (manager : Manager σ) (sink : Sink σ)
    (limit : Option Duration)
    (program : Program σ) :
    (milestones manager sink limit program).Gives fun told => Path told.1 told.2 := by
  refine .after ?_
  rintro (fault | conn)
  · exact .unleased fault
  refine Task.Gives.holding (.after ?_)
  rintro (fault | ⟨⟨⟩⟩)
  · exact .after fun _ => .unbegun fault
  refine .after ?_
  rintro ⟨fault | value, events⟩
  · exact .after fun rolled => .after fun _ => .after fun _ => .failed fault rolled
  refine .after ?_
  rintro (fault | ⟨⟨⟩⟩)
  · exact fun _ => .after fun rolled => .after fun _ => .after fun _ => .uncommitted value
      fault rolled
  · exact .after fun _ _ => .committed value

/-! ## From beginning to end -/

section

variable [LeaseHost σ] (manager : Manager σ) (sink : Sink σ) (limit : Option Duration)
  (program : Program σ)
  (s₀ : σ) (moves : List (Company.Move σ))

/-- **A run with its milestones and everything that happens to it.** -/
def travelled : Company σ (Except Fault Value × List Milestone) :=
  (Company.opening (milestones manager sink limit program) s₀).play manager.pool.perform moves

lemma travelled_of_unfolded {outcome : Except Fault Value}
    (h : (unfolded manager sink limit program s₀ moves).front = .done outcome) :
    ∃ path, (travelled manager sink limit program s₀ moves).front = .done (outcome, path)
      ∧ (travelled manager sink limit program s₀ moves).state
        = (unfolded manager sink limit program s₀ moves).state := by
  rw [unfolded, runWith_eq_milestones, Company.play_opening_map] at h ⊢
  obtain ⟨⟨_, path⟩, hfront, rfl⟩ := Task.done_of_map h
  exact ⟨path, hfront, rfl⟩

/-- What a run does with a lease, or without one. -/
def journey : Except Fault (Nat × Nat) → Task σ (Except Fault Value × List Milestone)
  | .error fault => .done (.error fault, [.checkedOut (.error fault)])
  | .ok hand =>
      Task.holding (manager.handedOut hand).drop
        (onMilestones (manager.handedOut hand) sink limit program)

lemma milestones_eq_grab :
    milestones manager sink limit program
      = manager.grab.run.bind (journey manager sink limit program) := by
  rw [milestones, Manager.lease_eq_grab]
  show (manager.grab.run.bind _).bind _ = _
  rw [Task.bind_assoc]
  refine congrArg _ (funext fun grabbed => ?_)
  cases grabbed <;> rfl

variable {manager sink limit program s₀ moves}

/-- **A run that has come past its checkout has a lease.** -/
lemma hand_of_checkedOut {told : Except Fault Value × List Milestone}
    (h : (travelled manager sink limit program s₀ moves).front = .done told)
    (hpath : .checkedOut (.ok ()) ∈ told.2) : ∃ hand', hand manager s₀ moves = some hand' := by
  unfold travelled at h
  rw [milestones_eq_grab] at h
  rcases grabbing_splits manager s₀ moves with hnone | ⟨early, late, grabbed, rfl, huntil⟩
  · rw [play_of_wait _ hnone] at h
    cases hgrabbing : (grabbing manager s₀ moves).front with
    | done grabbed => rw [hgrabbing] at hnone; cases hnone
    | act | wait => rw [hgrabbing] at h; cases h
  cases grabbed with
  | ok hand' => exact ⟨hand', hand_of_done huntil.1 late⟩
  | error fault =>
    rw [Company.play_append, play_of_until _ huntil] at h
    have hrefused := Company.front_play_of_done manager.pool.perform
      (Company.front_take_of_done manager.pool.perform (c := (grabbing manager s₀ early).led
        (journey manager sink limit program (.error fault))) rfl .front) late
    obtain rfl := Task.done.inj (hrefused.symm.trans h)
    simp at hpath

end

/-- **A run ends with the first failure on its way**: of the checkout, of the begin, of what its
program means or of the time limit, or of the commit.  A rollback that fails, and whatever comes of
giving the connection back, makes no difference; and in the end a connection that was checked out
has been given back.  Whoever looks after the lease moves only while the run waits. -/
theorem first_fault_prevails (manager : Manager World) (sink : Sink World) (limit : Option Duration)
    (program : Program World) (s₀ : World) (moves : List (Company.Move World))
    {outcome : Except Fault Value}
    (hover : (unfolded manager sink limit program s₀ moves).front = .done outcome) :
    (∃ path, (travelled manager sink limit program s₀ moves).front = .done (outcome, path)
        ∧ (travelled manager sink limit program s₀ moves).state
          = (unfolded manager sink limit program s₀ moves).state
        ∧ Path outcome path
        ∧ (∀ fault, outcome = .error fault ↔ path.findSome? Milestone.fault? = some fault)
        ∧ (∀ value, outcome = .ok value
          ↔ path.findSome? Milestone.fault? = none ∧ .performed (.ok value) ∈ path)
        ∧ (.checkedOut (.ok ()) ∈ path → ∃ hand', hand manager s₀ moves = some hand'))
      ∧ ∀ base number, hand manager s₀ moves = some (base, number) →
        Secluded base number manager sink limit program s₀ moves →
          ((LeaseHost.leases number).get
              (unfolded manager sink limit program s₀ moves).state).listening = false
            ∧ ((Memory.link base).get (unfolded manager sink limit program s₀ moves).state).alive
              = false := by
  obtain ⟨path, hfront, hstate⟩ := travelled_of_unfolded manager sink limit program s₀ moves hover
  have hpath : Path outcome path := by
    have hgives : (travelled manager sink limit program s₀ moves).front.Gives fun told =>
        Path told.1 told.2 :=
      Company.gives_play ((milestones_path manager sink limit program).poll
        Company.frontTask s₀) moves
    rw [hfront] at hgives
    exact hgives
  exact ⟨⟨path, hfront, hstate, hpath, hpath.fault_iff, hpath.value_iff, hand_of_checkedOut hfront⟩,
    fun base number hhand h => h.returned hhand hover⟩

end Run

/-- The failure of a rollback, which is none of the run. -/
def Milestone.setback? : Milestone → Option Fault
  | .rolledBack (.error fault) => some fault
  | _ => none

namespace World

/-- A program that waits for a note on the board, and then gives up. -/
def givingUp : Program World :=
  .andThen (.await (.wait ⟨fun s => !s.notes.isEmpty, fun _ => id, id⟩ (.done (.ok .unit))))
    fun _ => .fail (.aborted "enough")

/-- The connection breaks while it waits, and those who look after the lease notice. -/
def breaking : List (Company.Move World) :=
  [.start 1 (.watch 1 0), .beside 0 1, .around (Memory.terminate 1), .beside 0 1,
    .around (World.note .null),
    .front]

/-- A run of that program, as it is recorded. -/
def brokenOff : Company World (Except Fault Value × List Milestone) :=
  Run.travelled (manager Memory.pool) board none givingUp (withMemory 1 {}) breaking

lemma brokenOff_done : ∃ path, brokenOff.front = .done (.error (.aborted "enough"), path)
    ∧ path.filterMap Milestone.setback? = [.closedConnection] := by
  have hrecord : (brokenOff.front.result?.map fun told =>
      (Milestone.fault? (.performed told.1), told.2.filterMap Milestone.setback?))
        = some (some (.aborted "enough"), [.closedConnection]) := by
    decide +kernel
  obtain ⟨⟨outcome, path⟩, hresult, htold⟩ := Option.map_eq_some_iff.mp hrecord
  obtain ⟨hfault, hsetback⟩ := Prod.mk.inj htold
  cases outcome with
  | ok value => cases hfault
  | error fault =>
    obtain rfl : fault = .aborted "enough" := Option.some.inj hfault
    exact ⟨path, Task.done_of_result hresult, hsetback⟩

end World

namespace Run

/-- A run whose connection breaks, and which cannot roll back what it has begun. -/
theorem first_fault_prevails_breaking :
    (∃ path, World.brokenOff.front = .done (.error (.aborted "enough"), path)
        ∧ path.findSome? Milestone.fault? = some (.aborted "enough")
        ∧ path.filterMap Milestone.setback? = [.closedConnection])
      ∧ ((LeaseHost.leases 0).get World.brokenOff.state).listening = false
      ∧ ((Memory.link 1).get World.brokenOff.state).alive = false := by
  obtain ⟨path, hfront, hsetback⟩ := World.brokenOff_done
  have hover : (unfolded (World.manager Memory.pool) World.board none World.givingUp
    (World.withMemory 1 {})
      World.breaking).front = .done (.error (.aborted "enough")) := by
    rw [unfolded, runWith_eq_milestones, Company.play_opening_map]
    exact congrArg (Task.bind · _) hfront
  have hhand : hand (World.manager Memory.pool) (World.withMemory 1 {}) World.breaking
    = some (1, 0) := by
    decide +kernel
  have hheard : World.Unheard fun _ => ([] : List Unit) := by constructor <;> intros <;> rfl
  have hspared : ∀ (note : Json) (s : World), World.Spared 1 0 s (World.note note s) := fun _ _ =>
    ⟨rfl, .inl rfl, rfl, rfl, Nat.le_refl _, Nat.le_refl _, fun _ _ => Iff.rfl⟩
  have hsecluded : Secluded 1 0 (World.manager Memory.pool) World.board none World.givingUp
      (World.withMemory 1 {}) World.breaking := by
    refine ⟨⟨rfl, .inl rfl⟩, fun _ s _ => hspared _ s, ⟨?_, fun _ => trivial⟩, ?_, ?_⟩
    · exact ⟨trivial, fun s _ => .refl s, fun _ s _ => .refl s, fun s _ _ => ⟨(), .refl s, trivial⟩⟩
    · rintro _ _ ⟨_, hn⟩
      exact List.not_mem_nil hn
    · rw [runWith_eq_milestones]
      refine ⟨.inl rfl, ?_, ?_, ?_, hspared .null _, trivial, trivial⟩
      · show 0 < _
        decide +kernel
      · exact (World.outside_terminate hheard 1 _).toSpared
      · show 0 < _
        decide +kernel
  obtain ⟨⟨path', hfront', hstate, -, hfault, -⟩, hback⟩ :=
    first_fault_prevails (World.manager Memory.pool) World.board none World.givingUp
      (World.withMemory 1 {})
      World.breaking hover
  obtain rfl : path = path' := (Prod.mk.inj (Task.done.inj (hfront.symm.trans hfront'))).2
  have hreturned := hback 1 0 hhand hsecluded
  rw [← hstate] at hreturned
  exact ⟨⟨path, hfront, (hfault _).mp rfl, hsetback⟩, hreturned⟩

/-- **A run may be over before its connection has been given back**, when the connection ends during
the commit and whoever looks out for that has come no further than to mark the lease as closed. -/
theorem returned_before_release : ∃ jobs c rest,
    Traffic.Story (World.manager Memory.pool) 1 {} jobs c
      ∧ c.beside = ⟨.done (), false⟩ :: rest
      ∧ ((LeaseHost.leases 0).get c.state).listening = true
      ∧ c.state.accounts.acquired = 1 ∧ c.state.accounts.released = 0 := by
  obtain ⟨jobs, story⟩ := World.overtaken_story 3
  have hover : (World.overtaken 3).1 = .done () := by
    rw [World.overtaken, World.noticed, World.committed_eq]
    cbv
  rw [hover] at story
  refine ⟨jobs, _, [⟨World.noticed.1, false⟩], story, rfl, ?_, ?_, ?_⟩
  all_goals
    rw [World.overtaken, World.noticed, World.committed_eq]
    cbv

end Run

end Transactional
