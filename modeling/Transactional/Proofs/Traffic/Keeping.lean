import Transactional.Proofs.Traffic.Leasing

/-!
# The tasks that share a pool keep to its discipline

Whoever asks the manager for a connection waits for a permit, opens a connection with it, has it
counted and starts a lease on it, unless the connection does not answer; then it lets go of it at
once.  A run is such a task, which goes on to work on the lease and to close it.

* `Manager.Shared`, `Sink.Aside` — managers and sinks that are none of the other tasks' business.
* `checkout_obeys`, `lease_obeys` — asking for a connection.
* `run_obeys` — a run has closed its lease when it is over.
* `checkout_keeps`, `run_keeps`, `close_keeps` — checkouts, runs and the closing of the manager keep
  to the discipline.
-/

namespace Transactional

/-- **A manager that several tasks share**: it stands in front of the pool of the scripted backend,
and hands out leases as they are or with a log. -/
structure Manager.Shared (manager : Manager World) : Prop where
  pool : manager.pool = Memory.pool
  wrapping : manager.wrapping = none ∨ ∃ write, manager.wrapping = some (Connection.logged write)
    ∧ ∀ line s, World.Aside s (write line s)
  closed : ∀ v s, World.Aside s (manager.closed.set v s)

/-- **A sink that tasks do not share the pool with.** -/
def Sink.Aside (sink : Sink World) : Prop :=
  ∀ event s, World.Aside s (sink.publish event s)

lemma Sink.Aside.publishAll {sink : Sink World} (h : sink.Aside) (events : List Event) (s : World) :
    World.Aside s (sink.publishAll events s) := by
  induction events generalizing s with
  | nil => exact .refl s
  | cons event rest ih => exact (h event s).trans (ih (sink.publish event s))

/-- **A program whose futures do nothing that the tasks that share a pool see.** -/
def Program.Aside (program : Program World) : Prop :=
  program.Lifts fun task => task.Respects (fun _ => True) World.Aside

/-- **A program whose futures wait for nothing else** than what is `awaited`. -/
def Program.Awaits (awaited : (World → Bool) → Prop) (program : Program World) : Prop :=
  program.Lifts fun task => ∀ ready, task.Waits ready → awaited ready

lemma Program.awaits_anything (program : Program World) : program.Awaits fun _ => True :=
  .of_forall fun _ _ _ => trivial

variable {awaited : (World → Bool) → Prop} {base number : Nat} {loyal : Bool} {r : Role}
  {gone : Role → (World → World) → Prop}

lemma Manager.Shared.trades {manager : Manager World} (h : manager.Shared) (base number : Nat) :
    (manager.wrap (Memory.pool.lease base number).connection).Trades base number := by
  obtain hnone | ⟨write, hsome, hwrite⟩ := h.wrapping
  · simp only [Manager.wrap, hnone]
    exact lease_trades base number
  · simp only [Manager.wrap, hsome]
    exact (lease_trades base number).logged hwrite

/-! ## Asking for a connection -/

lemma trade_usable : Semaphore.Usable (trade awaited) Memory.permits Role.seeking True where
  apart _ _ := rfl
  shut _ _ _ _ := trivial
  moves _ _ _ _ _ hshift hstill := trade_of_deal (.ask hshift hstill)
  pause := ⟨_, fun _ => id, .inl ⟨rfl, rfl⟩⟩
  line t := ⟨_, fun _ => id, .inr ⟨t, rfl, rfl⟩⟩

/-- **Opening a connection with a permit**: one that does not answer is let go of at once. -/
lemma openLink_obeys :
    (Memory.openLink true : Attempt World Nat).run.Obeys (trade awaited) gone
      (fun
        | .ok base => (· = .opened base false)
        | .error _ => (· = .seeking .away)) (.seeking .inside) := by
  have hopen : (Attempt.always (Task.step (Memory.newLink true)) : Attempt World Nat).run.Obeys
      (trade awaited) gone (fun
        | .ok base => (· = .opened base false)
        | .error _ => fun _ => False) (.seeking .inside) :=
    fun s _ => ⟨_, trade_of_deal .reach, rfl⟩
  refine Attempt.obeys_bind hopen ?_ fun _ _ h => h.elim
  rintro base r rfl
  have hcall : (Memory.Call.connect base).number = base := rfl
  have hconnect : (Memory.connection base : Connection World).connect.run.Obeys (trade awaited) gone
      (fun _ => (· = .opened base false)) (.opened base false) :=
    Memory.plainCall_obeys fun s _ => ⟨_, trade_of_deal (.call (.note hcall s)), rfl⟩
  refine hconnect.bind ?_
  rintro (fault | _) r rfl
  · exact fun s _ => ⟨_, trade_of_deal .part, rfl⟩
  · exact rfl

/-- **Checking a connection out.** -/
lemma checkout_obeys (hgone : ∀ r f, Company.Leaves (trade awaited) Role.Past r f → gone r f) :
    (Memory.checkout : Attempt World Nat).run.Obeys (trade awaited) gone
      (fun
        | .ok base => (· = .opened base true)
        | .error _ => (· = .seeking .away)) (.seeking .away) := by
  have hpermit : (Attempt.always (Semaphore.acquire Memory.permits) : Attempt World Bool).run.Obeys
      (trade awaited) gone (fun
        | .ok had => (· = .seeking (if had then .inside else .away))
        | .error _ => fun _ => False) (.seeking .away) := by
    refine (Semaphore.acquire_obeys trade_usable ?_ fun t => ?_).bind ?_
    · exact hgone _ _ fun s _ => ⟨_, .refl, rfl⟩
    · exact hgone _ _ fun s hs => ⟨_, trade_usable.withdraw hs, rfl⟩
    · rintro had r (⟨rfl, rfl⟩ | ⟨rfl, -, rfl⟩) <;> rfl
  refine Attempt.obeys_bind hpermit ?_ fun _ _ h => h.elim
  rintro had r rfl
  cases had with
  | false => exact rfl
  | true =>
    refine Attempt.obeys_bind openLink_obeys ?_ fun _ _ h => h
    rintro base r rfl
    exact fun s _ => ⟨_, trade_of_deal .count, rfl⟩

/-- **Asking for a lease**, which one is going to close or leaves to others. -/
lemma lease_obeys {manager : Manager World} (hpool : manager.pool = Memory.pool) {errand : Errand}
    (herrand : errand = .bystander ∨ errand = .pledged)
    (hgone : ∀ r f, Company.Leaves (trade awaited) Role.Past r f → gone r f) :
    manager.lease.run.Obeys (trade awaited) gone
      (fun outcome r => match outcome with
        | .ok conn => ∃ base number,
          conn = manager.wrap (Memory.pool.lease base number).connection
            ∧ r = .leased base number { errand } false false
        | .error _ => r = .seeking .away) (.seeking .away) := by
  obtain ⟨pool, closed, wrapping, timeout⟩ := manager
  obtain rfl : pool = Memory.pool := hpool
  have hensure : (Manager.ensureOpen ⟨Memory.pool, closed, wrapping, timeout⟩).run.Obeys
      (trade awaited) gone (fun _ r => r = .seeking .away) (.seeking .away) := by
    refine fun s _ => ⟨_, .refl, ?_⟩
    dsimp only
    split <;> rfl
  refine Attempt.obeys_bind hensure ?_ fun _ _ h => h
  rintro _ r rfl
  refine Attempt.obeys_bind (checkout_obeys hgone) ?_ fun _ _ h => h
  rintro base r rfl
  exact fun s _ => ⟨_, trade_of_deal (.lease herrand), base, s.traffic.leaseCount, rfl, rfl⟩

/-- **A checkout keeps to the discipline**, and may be given up while it waits. -/
theorem checkout_keeps {manager : Manager World} (hmanager : manager.Shared) :
    Company.Keeps (trade awaited) Role.Past ⟨manager.lease.run.bind fun _ => .done (), true⟩
      (.seeking .away) := by
  refine (lease_obeys hmanager.pool (.inl rfl) fun r f h _ => h).bind ?_
  rintro (fault | conn) r hr
  · obtain rfl := hr
    rfl
  · obtain ⟨base, number, -, rfl⟩ := hr
    exact ⟨⟨rfl, .inl rfl⟩, rfl⟩

/-! ## Runs -/

/-- Being in a run, between two operations. -/
abbrev Role.Runs (base number : Nat) : Role → Prop :=
  Role.Attends base number .pledged false

/-- What a run waits for between two operations may be anything that is awaited. -/
lemma future_stays {task : Task World α} (h : task.Respects (fun _ => True) World.Aside)
    (hawaits : ∀ ready, task.Waits ready → awaited ready) :
    Task.Stays (trade awaited) (Role.Runs base number) (fun _ => True) task := by
  refine .of_respects h (fun _ _ _ _ => trivial) (fun _ _ _ _ _ haside => trade_aside haside) ?_
  rintro r ready ⟨sight, -, rfl⟩ hready
  exact .inr ⟨rfl, rfl, rfl, ready, fun _ => id, hawaits ready hready⟩

section Runs

variable {conn : Connection World} (T : conn.Trades base number)

include T

lemma trades_stays : conn.Stays (trade awaited) (Role.Runs base number) (fun _ => True) base :=
  ⟨fun sql kind _ _ => T.prepare _ _ sql kind,
    fun handle bindings _ => T.execute _ _ handle bindings, fun handle _ => T.destroy _ _ handle⟩

lemma undo_obeys (cause : Fault) (hr : Role.Runs base number r) :
    (Run.undo conn cause).Obeys (trade awaited) (fun _ _ => True)
      (fun _ => Role.Left base number false) r := by
  unfold Run.undo Run.rollbackQuietly
  rw [Task.bind_assoc]
  refine ((T.rollback _ _ r hr).mono (fun _ _ _ => trivial) fun _ _ h => h).bind ?_
  rintro (fault | _) x ⟨hx, -⟩
  · exact fun s _ => ⟨_, trade_aside (.report _ s), (T.close _ _ hx).bind fun _ _ h => h⟩
  · exact (T.close _ _ hx).bind fun _ _ h => h

lemma conclude_obeys {sink : Sink World} (hsink : sink.Aside) (value : Value) (events : List Event)
    (hr : Role.Runs base number r) :
    (Run.conclude conn sink value events).Obeys (trade awaited) (fun _ _ => True)
      (fun _ => Role.Left base number false) r := by
  unfold Run.conclude
  refine ((T.commit _ _ r hr).mono (fun _ _ _ => trivial) fun _ _ h => h).bind ?_
  rintro (fault | _) x ⟨hx, -⟩
  · exact fun s _ => ⟨_, trade_aside (.report _ s), undo_obeys T fault hx⟩
  · exact (T.close _ _ hx).bind fun _ y hy s _ =>
      ⟨y, trade_aside (hsink.publishAll events s), hy⟩

/-- **A transaction on its lease.** -/
lemma onAccount_obeys {sink : Sink World} (hsink : sink.Aside) (limit : Option Duration)
    {program : Program World} (hprogram : program.Aside) (hawaits : program.Awaits awaited)
    (hr : Role.Runs base number r) :
    (Run.onAccount conn sink limit program).Obeys (trade awaited) (fun _ _ => True)
      (fun _ => Role.Left base number false) r := by
  unfold Run.onAccount
  refine ((T.begin _ _ r hr).mono (fun _ _ _ => trivial) fun _ _ h => h).bind ?_
  rintro (fault | _) x ⟨hx, -⟩
  · exact (T.close _ _ hx).bind fun _ _ h => h
  have hbody := (trades_stays T).bodyAccount trade_timeless limit program (fun _ _ => trivial)
    ((hprogram.and hawaits).imp fun _ h => future_stays h.1 h.2)
  refine ((hbody x hx).mono (fun _ _ _ => trivial) fun _ _ h => h).bind ?_
  rintro ⟨fault | value, deeds⟩ y ⟨hy, -⟩
  · exact (undo_obeys T fault hy).bind fun _ _ h => h
  · exact (conclude_obeys T hsink value _ hy).bind fun _ _ h => h

end Runs

/-- **A run**, which gets no lease, or closes the one that it has got. -/
theorem run_obeys {manager : Manager World} (hmanager : manager.Shared) {sink : Sink World}
    (hsink : sink.Aside) (limit : Option Duration) {program : Program World}
    (hprogram : program.Aside) (hawaits : program.Awaits awaited) :
    (runWith manager sink limit program).run.Obeys (trade awaited) (fun _ _ => True)
      (fun _ r => r = .seeking .away ∨ ∃ base number, Role.Left base number false r)
        (.seeking .away) := by
  rw [runWith_eq_account, Run.account, Task.bind_assoc]
  refine (lease_obeys hmanager.pool (.inr rfl) fun _ _ _ => trivial).bind ?_
  rintro (fault | conn) r hr
  · exact .inl hr
  obtain ⟨base, number, rfl, rfl⟩ := hr
  have T := hmanager.trades base number
  have hon := onAccount_obeys T hsink limit hprogram hawaits
    (r := .leased base number { errand := .pledged } false false) ⟨.unsure, by simp, rfl⟩
  -- Nobody needs to close a lease that is closed.
  have htidy : ∀ (told : Except Fault Value × List (Deed World)) r s,
      Role.Left base number false r → (trade awaited).knows r s → ∃ r',
        (trade awaited).may r s r'
          ((manager.wrap (Memory.pool.lease base number).connection).drop s)
          ∧ Role.Left base number false r' := by
    rintro told _ s ⟨q, hover, hsight, rfl⟩ hs
    refine ⟨_, ?_, q, hover, hsight, rfl⟩
    rw [T.drop, show (Memory.pool.lease base number).drop s
      = s from if_pos (hs.1.seenClosed hsight)]
    exact .refl
  refine (Task.Obeys.holding ?_ htidy).bind fun told r hr => .inr ⟨base, number, hr⟩
  exact hon.mono (fun _ _ _ => trivial) fun _ _ h => h

/-- **A run keeps to the discipline.** -/
theorem run_keeps {manager : Manager World} (hmanager : manager.Shared) {sink : Sink World}
    (hsink : sink.Aside) (limit : Option Duration) {program : Program World}
    (hprogram : program.Aside) (hawaits : program.Awaits awaited) :
    Company.Keeps (trade awaited) Role.Past
      ⟨(runWith manager sink limit program).run.bind fun _ => .done (), false⟩
        (.seeking .away) := by
  refine ((run_obeys hmanager hsink limit hprogram hawaits).mono
    (fun _ _ _ hfalse => by cases hfalse)
    fun _ _ h => h).bind ?_
  rintro _ r (rfl | ⟨base, number, q, hover, -, rfl⟩)
  · rfl
  · exact ⟨hover, rfl⟩

/-! ## Closing the manager -/

/-- **Closing the manager keeps to the discipline.** -/
theorem close_keeps {manager : Manager World} (hmanager : manager.Shared) :
    Company.Keeps (trade awaited) Role.Past ⟨manager.close, false⟩ (.seeking .away) := by
  intro s _
  refine ⟨_, trade_aside (hmanager.closed true s), ?_⟩
  dsimp only
  split
  · rfl
  · rw [hmanager.pool]
    exact fun s _ => ⟨_, trade_of_deal .refuse, rfl⟩

end Transactional
