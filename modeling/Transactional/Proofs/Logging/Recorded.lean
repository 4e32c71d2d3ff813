import Transactional.Proofs.Logging.LogState

/-!
# The log of a whole run

A run opens a connection, makes its calls, and closes its lease.  What is added to the log on the
way are its calls, one after the other, and at most one rollback more, at the end; one of its calls
at most has been given up, and only if the body was cut off at its limit.

* `Since`, `Concludes` — what has been added.
* `KeepsLog.bodyAccount`, `KeepsLog.onAccount` — the body, and a transaction.
* **`account_keepsLog`** — a run from beginning to end.
* `watch_keepsLog` — whoever looks after the lease adds nothing.
-/

namespace Transactional

variable {log : StatementLog} {diary base number n : Nat} {lines : World → List String}
  {s s' s'' : World} {m : LogState} {x y : LogStage} {k : Nat}

/-- **Some calls have been made**, and at most so many of them have been given up. -/
def Since (m : LogState) (k : Nat) (y : LogStage) : Prop :=
  ∃ notes : List (String × Fate), notes.countP (·.2 = .forsaken) ≤ k ∧ y
    = .taking (m.after notes [])

/-- **The lease has been closed after that.** -/
def Concludes (m : LogState) (k : Nat) (y : LogStage) : Prop :=
  ∃ (notes : List (String × Fate)) (extra : List String), notes.countP (·.2 = .forsaken) ≤ k
    ∧ (extra = [] ∨ extra = ["ROLLBACK"]) ∧ y = .taking (m.after notes extra)

lemma since_start : Since m 0 (.taking m) :=
  ⟨[], Nat.le_refl 0, by simp⟩

lemma Since.mono {k' : Nat} (h : Since m k y) (hle : k ≤ k') : Since m k' y := by
  obtain ⟨notes, hcount, rfl⟩ := h
  exact ⟨notes, Nat.le_trans hcount hle, rfl⟩

lemma Since.call {notes : List (String × Fate)} {line : String} {fate : Fate}
    (hcount : notes.countP (·.2 = .forsaken) + (if fate = .forsaken then 1 else 0) ≤ k) :
    Since m k (.taking ((m.after notes []).after [(line, fate)] [])) := by
  refine ⟨notes ++ [(line, fate)], ?_, by rw [m.after_after]⟩
  rw [List.countP_append]
  refine Nat.le_trans (Nat.add_le_add_left ?_ _) hcount
  by_cases h : fate = .forsaken <;> simp [h]

lemma Since.noted {line : String} (h : Since m k (.taking m')) (hnoted : Noted m' line y) :
    Since m k y := by
  obtain ⟨notes, hcount, hm⟩ := h
  obtain rfl := LogStage.taking.inj hm
  obtain ⟨fate, hfate, rfl⟩ := hnoted
  exact .call (by rwa [if_neg hfate])

lemma Since.close (h : Since m k (.taking m')) {extra : List String}
    (hextra : extra = [] ∨ extra = ["ROLLBACK"]) : Concludes m k (.taking (m'.say extra)) := by
  obtain ⟨notes, hcount, hm⟩ := h
  obtain rfl := LogStage.taking.inj hm
  exact ⟨notes, extra, hcount, hextra, by rw [m.after_say]⟩

/-! ## A transaction -/

namespace World

/-- **What may happen around a run with a log and a diary**: its connection and its lease are left
alone, and nothing is written. -/
structure Unwritten (base number diary : Nat) (lines : World → List String) (s s' : World) : Prop
    extends Spared base number s s' where
  lines : lines s' = lines s
  diary : (LogHost.lines diary).get s' = (LogHost.lines diary).get s

lemma Unwritten.logState (h : Unwritten base number diary lines s s') :
    s'.logState base diary lines = s.logState base diary lines :=
  logState_of_same h.lines h.diary h.calls

end World

lemma World.Unwritten.taking (h : World.Unwritten base number diary lines s s')
    (hs : s.Taking base number diary lines m) : s'.Taking base number diary lines m :=
  ⟨hs.toHas.mono h.linkCount h.leaseCount, h.logState.trans hs.logState⟩

namespace KeepsLog

variable {conn : Connection World} (M : KeepsLog base number diary lines conn)
  (K : log.Keeps diary lines)

include K

lemma forsakes {m' : LogState} (h : Since m 0 (.taking m')) :
    Forsakes base number diary lines (Company.Leaves (logKeeping base number diary lines)
      (Since m 1)) m' where
  silent f hf s hs := ⟨_, (hf s).stay hs, h.mono (Nat.zero_le 1)⟩
  noted line f hf s hs := by
    obtain ⟨notes, hcount, hm⟩ := h
    obtain rfl := LogStage.taking.inj hm
    have hmarked := marked_taking K line .forsaken ((hf s).taking hs)
    rw [LogState.mark_unanswered _ line (by simp)] at hmarked
    exact ⟨.taking _, hmarked, Since.call (Nat.add_le_add_right hcount 1)⟩

include M

/-- **The operations of a program** add calls to the log. -/
lemma abides : conn.Abides (logKeeping base number diary lines)
    (Company.Leaves (logKeeping base number diary lines) (Since m 1)) (Since m 0)
      (fun _ => True) base where
  prepare sql kind _ _ x hx := by
    obtain ⟨notes, hcount, rfl⟩ := id hx
    refine (M.prepare sql kind (forsakes K hx)).imp ?_
    rintro r y ⟨rfl, hsql⟩
    exact ⟨hx, hsql⟩
  execute handle bindings _ x hx := by
    obtain ⟨notes, hcount, rfl⟩ := id hx
    exact (M.execute handle bindings (forsakes K hx)).imp fun r y hy => ⟨hx.noted hy, trivial⟩
  destroy handle _ x hx := by
    obtain ⟨notes, hcount, rfl⟩ := id hx
    exact fun s hs => ⟨_, (M.destroy handle s).stay hs, hx, trivial⟩

/-- **The body of a run** adds calls to the log, of which the last may have been given up at its
limit. -/
lemma bodyAccount (limit : Option Duration) (program : Program World)
    (hlifts : program.Lifts fun task =>
      task.Respects (World.Has base number) (World.Unwritten base number diary lines))
        (hx : Since m 0 x) :
    (Run.bodyAccount conn limit program).Obeys (logKeeping base number diary lines)
      (fun _ _ => True)
      (fun told y => Since m 0 y ∨ Since m 1 y ∧ ∃ d, limit = some d ∧ told.1
        = .error (.timeout d)) x := by
  have hprogram := (M.abides K (m := m)).account program (fun _ _ => trivial)
    (hlifts.imp fun task h => ?_)
  · cases limit with
    | none =>
      refine ((hprogram x hx).mono (fun _ _ _ => trivial) fun _ _ => id).bind fun told y hy => ?_
      exact .inl hy.1
    | some d =>
      have hwithin := Task.Abides.within (logKeeping_timeless K) hprogram d.ceilMillis hx
      refine (hwithin.mono (fun _ _ _ => trivial) fun _ _ => id).bind ?_
      rintro (_ | told) y ⟨hsome, hnone⟩
      · exact .inr ⟨hnone rfl, d, rfl, rfl⟩
      · exact .inl (hsome told rfl).1
  · -- A future writes nothing.
    rintro x ⟨notes, hcount, rfl⟩
    have hkeeps : ∀ {s s'}, s.Taking base number diary lines (m.after notes []) →
        World.Unwritten base number diary lines s s' → s'.Taking base number diary lines
          (m.after notes []) :=
      fun hs h => h.taking hs
    refine (Task.Obeys.of_respects h (fun s (hs : s.Taking base number diary lines _) => hs.toHas)
      (fun _ _ => hkeeps) (fun _ _ => trivial) fun f hf s hs =>
        ⟨.taking (m.after notes []), hkeeps hs (hf s (World.Taking.toHas hs)), ?_⟩).imp ?_
    · rintro a _ rfl
      exact ⟨⟨notes, hcount, rfl⟩, trivial⟩
    · exact ⟨notes, Nat.le_succ_of_le hcount, rfl⟩

omit M K in
lemma noted_since {task : Task World α} {line : String} (hx : Since m k x)
    (h : ∀ {m' : LogState} {gone : LogStage → (World → World) → Prop}, Forsakes base number diary
      lines gone m' →
      task.Obeys (logKeeping base number diary lines) gone (fun _ => Noted m' line) (.taking m')) :
    task.Obeys (logKeeping base number diary lines) (fun _ _ => True) (fun _ => Since m k) x := by
  obtain ⟨notes, hcount, rfl⟩ := id hx
  exact (h ⟨fun _ _ => trivial, fun _ _ _ => trivial⟩).imp fun _ _ hy => hx.noted hy

omit K in
lemma close_concludes (hx : Since m k x) :
    conn.close.Obeys (logKeeping base number diary lines) (fun _ _ => True)
      (fun _ => Concludes m k) x := by
  obtain ⟨notes, hcount, rfl⟩ := id hx
  refine M.close.imp ?_
  rintro _ y ⟨extra, hextra, rfl⟩
  exact hx.close hextra

lemma undo (hx : Since m k x) (cause : Fault) :
    (Run.undo conn cause).Obeys (logKeeping base number diary lines) (fun _ _ => True)
      (fun r y => r = .error cause ∧ Concludes m k y) x := by
  have hquiet : (Run.rollbackQuietly conn cause).Obeys (logKeeping base number diary lines)
    (fun _ _ => True)
      (fun _ => Since m k) x := by
    refine (noted_since hx M.rollback).bind ?_
    rintro (fault | _) y hy
    · exact fun s hs => ⟨y, (World.Hushed.report K _ s).stay hs, hy⟩
    · exact hy
  exact hquiet.bind fun _ y hy => (M.close_concludes hy).bind fun _ z hz => ⟨rfl, hz⟩

lemma conclude {sink : Sink World}
    (hsink : ∀ event s, World.Unwritten base number diary lines s (sink.publish event s))
    (hx : Since m 0 x) (value : Value) (events : List Event) :
    (Run.conclude conn sink value events).Obeys (logKeeping base number diary lines)
      (fun _ _ => True)
      (fun _ => Concludes m 0) x := by
  have hpublished : ∀ {m' s}, s.Taking base number diary lines m' →
      (sink.publishAll events s).Taking base number diary lines m' := by
    unfold Sink.publishAll
    induction events with
    | nil => exact id
    | cons event rest ih => exact fun hs => ih ((hsink event _).taking hs)
  refine (noted_since hx M.commit).bind ?_
  rintro (fault | _) y hy
  · exact fun s hs => ⟨y, (World.Hushed.report K _ s).stay hs,
      (M.undo K hy fault).imp fun _ _ h => h.2⟩
  · refine (M.close_concludes hy).bind ?_
    rintro _ z ⟨notes, extra, hcount, hextra, rfl⟩ s hs
    exact ⟨.taking _, hpublished hs, notes, extra, hcount, hextra, rfl⟩

/-- **A transaction** adds its calls to the log, and one rollback more at most. -/
lemma onAccount {sink : Sink World}
    (hsink : ∀ event s, World.Unwritten base number diary lines s (sink.publish event s))
    (limit : Option Duration) (program : Program World)
    (hlifts : program.Lifts fun task =>
      task.Respects (World.Has base number) (World.Unwritten base number diary lines)) :
    (Run.onAccount conn sink limit program).Obeys (logKeeping base number diary lines)
      (fun _ _ => True)
      (fun told y => Concludes m 0 y
        ∨ Concludes m 1 y ∧ ∃ d, limit = some d ∧ told.1 = .error (.timeout d)) (.taking m) := by
  refine (noted_since since_start M.begin).bind ?_
  rintro (fault | _) y hy
  · exact (M.close_concludes hy).bind fun _ z hz => .inl hz
  refine (M.bodyAccount K limit program hlifts hy).bind ?_
  rintro ⟨fault | value, deeds⟩ y (hy | ⟨hy, d, hlimit, htold⟩)
  · exact (M.undo K hy fault).bind fun _ z hz => .inl hz.2
  · obtain rfl := Except.error.inj htold
    exact (M.undo K hy (.timeout d)).bind fun r z hz => .inr ⟨hz.2, d, hlimit, hz.1⟩
  · exact (M.conclude K hsink hy value _).bind fun _ z hz => .inl hz
  · cases htold

end KeepsLog

/-! ## From beginning to end -/

/-- **Where a run ends.** -/
def Ended (m : LogState) (limit : Option Duration) (outcome : Except Fault Value)
    (y : LogStage) : Prop :=
  y = .stray ∨ y = .seeking m ∨ y = .opened m ∨ Concludes m 0 y
    ∨ Concludes m 1 y ∧ ∃ d, limit = some d ∧ outcome = .error (.timeout d)

lemma stray_keepsLog (task : Task World α) :
    task.Obeys (logKeeping base number diary lines) (fun _ _ => True)
      (fun _ y => y = .stray) .stray := by
  induction task with
  | done a => rfl
  | act update next ih => exact fun s _ => ⟨.stray, trivial, ih s⟩
  | wait on next ih =>
    exact ⟨trivial, trivial, fun _ _ _ => trivial, fun _ _ _ => ⟨.stray, trivial, ih⟩⟩

/-- What has become of opening a connection, or of asking for a lease. -/
def Obtained (m : LogState) (P : α → Prop) (x : LogStage) (r : Except Fault α)
    (y : LogStage) : Prop :=
  y = .stray ∨ (∃ a, r = .ok a ∧ P a ∧ y = x) ∨ (∃ fault, r = .error fault)
    ∧ (y = .seeking m ∨ y = .opened m)

section Seeking

variable (K : log.Keeps diary lines)

include K

lemma openLink_keepsLog :
    (Memory.openLink true : Attempt World Nat).run.Obeys (logKeeping base number diary lines)
      (fun _ _ => True)
      (Obtained m (fun number => number = base) (.opened m)) (.seeking m) := by
  have hnew : (Attempt.always (Task.step (Memory.newLink true)) : Attempt World Nat).run.Obeys
      (logKeeping base number diary lines) (fun _ _ => True)
      (fun r y => y = .stray ∨ r = .ok base ∧ y = .opened m) (.seeking m) := by
    intro s hs
    by_cases h : (Memory.newLink true s).1 = base
    · refine ⟨.opened m, ⟨⟨Eq.trans ?_ hs, Nat.le_of_eq h.symm⟩, rfl⟩, .inr ⟨congrArg _ h, rfl⟩⟩
      exact World.logState_of_same ((K.unheard.backend _ _).trans (K.unheard.backend _ _)) rfl rfl
    · exact ⟨.stray, ⟨Nat.succ_ne_self _, h⟩, .inl rfl⟩
  refine Task.Obeys.bind hnew ?_
  rintro r y (rfl | ⟨rfl, rfl⟩)
  · exact (stray_keepsLog _).imp fun _ _ => .inl
  refine (plainCall_quiet K (.connect base) rfl rfl _).bind ?_
  rintro (fault | _) y rfl
  · exact fun s hs => ⟨_, (World.Hushed.drop K base s).stay hs, .inr (.inr ⟨⟨_, rfl⟩, .inr rfl⟩)⟩
  · exact .inr (.inl ⟨base, rfl, rfl, rfl⟩)

lemma checkout_keepsLog :
    (Memory.checkout : Attempt World Nat).run.Obeys (logKeeping base number diary lines)
      (fun _ _ => True)
      (Obtained m (fun number => number = base) (.opened m)) (.seeking m) := by
  have hpermit : (Semaphore.acquire Memory.permits : Task World Bool).Obeys
    (logKeeping base number diary lines)
      (fun _ _ => True) (fun _ y => y = .seeking m) (.seeking m) :=
    quiet_obeys ((Semaphore.acquire_respects _).imp fun _ _ _ => .of_permits K) fun _ _ => trivial
  have hhad : (Attempt.always (Semaphore.acquire Memory.permits) : Attempt World Bool).run.Obeys
      (logKeeping base number diary lines) (fun _ _ => True)
      (fun r y => (∃ had, r = .ok had) ∧ y = .seeking m) (.seeking m) :=
    hpermit.bind fun had y hy => ⟨⟨had, rfl⟩, hy⟩
  refine Task.Obeys.bind hhad ?_
  rintro r y ⟨⟨had, rfl⟩, rfl⟩
  cases had with
  | false => exact .inr (.inr ⟨⟨_, rfl⟩, .inl rfl⟩)
  | true =>
    refine (openLink_keepsLog K).bind ?_
    rintro r y (rfl | ⟨number, rfl, rfl, rfl⟩ | ⟨⟨fault, rfl⟩, hy⟩)
    · exact (stray_keepsLog _).imp fun _ _ => .inl
    · exact fun s hs => ⟨_, (World.Hushed.accounts K _ s).stay hs, .inr (.inl ⟨_, rfl, rfl, rfl⟩)⟩
    · exact .inr (.inr ⟨⟨fault, rfl⟩, hy⟩)

/-- **Asking for a lease** adds nothing, and gives a connection on which every call is in the log.
-/
lemma obtains_keepsLog {manager : Manager World} (hpool : manager.pool = Memory.pool) :
    (manager.following log diary).lease.run.Obeys (logKeeping base number diary lines)
      (fun _ _ => True)
      (Obtained m (KeepsLog base number diary lines) (.taking m)) (.seeking m) := by
  obtain ⟨pool, closed, wrapping, timeout⟩ := manager
  obtain rfl : pool = Memory.pool := hpool
  have hensure : (Manager.ensureOpen
      (Manager.following log diary ⟨Memory.pool, closed, wrapping, timeout⟩)).run.Obeys
      (logKeeping base number diary lines) (fun _ _ => True) (fun _ y => y = .seeking m)
        (.seeking m) := by
    intro s hs
    refine ⟨.seeking m, (World.Hushed.refl s).stay hs, ?_⟩
    dsimp only
    split <;> rfl
  refine Task.Obeys.bind hensure ?_
  rintro (fault | _) y rfl
  · exact .inr (.inr ⟨⟨fault, rfl⟩, .inl rfl⟩)
  refine Task.Obeys.bind (checkout_keepsLog K) ?_
  rintro r y (rfl | ⟨_, rfl, rfl, rfl⟩ | ⟨⟨fault, rfl⟩, hy⟩)
  · exact (stray_keepsLog _).imp fun _ _ => .inl
  · intro s hs
    by_cases h : s.leaseCount = number
    · refine ⟨.taking m, ⟨⟨hs.2, ?_⟩, Eq.trans ?_ hs.1⟩,
        .inr (.inl ⟨_, rfl, lease_keepsLog K _, rfl⟩)⟩
      · exact Nat.lt_succ_of_le h.ge
      · refine World.logState_of_same ?_ rfl rfl
        refine (K.unheard.schedule _ _).trans ?_
        exact (K.unheard.leaseCount _ _).trans (K.unheard.leases _ _ _)
    · exact ⟨.stray, ⟨Nat.succ_ne_self _, h⟩, .inl rfl⟩
  · exact .inr (.inr ⟨⟨fault, rfl⟩, hy⟩)

/-- **A run from beginning to end.** -/
theorem account_keepsLog {manager : Manager World} (hpool : manager.pool = Memory.pool)
    {sink : Sink World}
    (hsink : ∀ event s, World.Unwritten base number diary lines s (sink.publish event s))
    (limit : Option Duration) (program : Program World)
    (hlifts : program.Lifts fun task =>
      task.Respects (World.Has base number) (World.Unwritten base number diary lines)) :
    (Run.account (manager.following log diary) sink limit program).Obeys
      (logKeeping base number diary lines)
      (fun _ _ => True) (fun told => Ended m limit told.1) (.seeking m) := by
  refine (obtains_keepsLog K hpool).bind ?_
  rintro r y (rfl | ⟨conn, rfl, M, rfl⟩ | ⟨⟨fault, rfl⟩, hy⟩)
  · exact (stray_keepsLog _).imp fun _ _ => .inl
  · refine Task.Obeys.holding (M.onAccount K hsink limit program hlifts) fun told y s hy hs => ?_
    exact ⟨y, (M.drop s).stay hs, .inr (.inr (.inr hy))⟩
  · exact .inr (hy.imp id .inl)

/-! ## Looking after the lease -/

omit K in
lemma unclosed_of_ending {status : Status} (hs : ((Memory.link base).get s).signal.status ≠ .closed)
    (h : (Memory.connection base).watch.ending? s = some status) : status ≠ .closed := by
  unfold Watch.ending? at h
  rintro rfl
  split at h
  · exact hs (Option.some.inj h)
  · split at h <;> simp at h

lemma shutdown_aide {status : Status} (hstatus : status ≠ .closed)
    {gone : LogStage → (World → World) → Prop} (hgone : ∀ y f, gone y f) :
    ((Memory.pool.lease base number : Lease World).shutdown status).Obeys
      (logKeeping base number diary lines) gone
      (fun _ y => y = .aide) .aide := by
  refine fun s _ => ⟨.aide, quiet_cell K (.modify _ s), ?_⟩
  dsimp only
  split
  · rfl
  refine (acquire_keepsLog K fun f _ => hgone .aide f).bind ?_
  rintro _ _ rfl s -
  refine ⟨.aide, quiet_cell K (Lease.still_surrender status s), ?_⟩
  dsimp only
  split
  · rfl
  · exact fun s _ => ⟨.aide, release_quiet K number s, rfl⟩

/-- **Whoever looks after the lease** adds nothing. -/
lemma watch_keepsLog (ownFirst : Bool) :
    Company.Keeps (logKeeping base number diary lines) (fun y => y = .aide)
      ⟨(Memory.pool.lease base number).watch ownFirst, false⟩ .aide := by
  have hlease : ∀ (f : LeaseState → LeaseState) (s : World), World.Hushed base diary lines s
      ((Memory.pool.lease base number : Lease World).cell.modify f s) :=
        fun f s => quiet_cell K (.modify f s)
  have hjoin : ∀ self s, World.Hushed base diary lines s
      ((Memory.pool.lease base number : Lease World).eitherEnd.register self s) := fun self s => by
    have hbase : World.Hushed base diary lines s
        ((Memory.signal base).modify (Signal.join self) s) :=
      ⟨World.logState_of_same (K.unheard.backend _ s) rfl rfl, rfl, rfl⟩
    exact hbase.trans (hlease _ _)
  refine ⟨trivial, fun h => Bool.noConfusion h, fun self s _ => hjoin self s, fun s _ _ =>
    ⟨.aide, .refl s, fun s hs => ⟨.aide, .refl s, ?_⟩⟩⟩
  dsimp only
  cases hending : (Memory.pool.lease base number : Lease World).base.watch.ending? s with
  | none => rfl
  | some status =>
    dsimp only
    split
    · rfl
    · exact shutdown_aide K (unclosed_of_ending hs hending) fun _ _ h => Bool.noConfusion h

end Seeking

end Transactional
