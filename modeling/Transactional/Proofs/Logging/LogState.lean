import Transactional.Proofs.Logging.Diary

/-!
# The log of a run

The state of the log are the lines of the log, the diary, and what the journal says of beginning and
ending transactions and of executing statements on one connection.  Every call that a run makes adds
a line and a word in the diary, and an entry in the journal exactly if it is answered; nothing else
that is done on a lease adds anything, but for a rollback when the lease is closed.

* `LogState`, `World.logState` — the state of the log; `LogState.after` says what calls add.
* `logKeeping` — the discipline of adding to them.
* `KeepsLog` — a connection on which every call is in the log.
* **`lease_keepsLog`** — a lease with a log and a diary is such a connection.
-/

namespace Transactional

/-- **The line about a call**, if a log has one. -/
def Memory.Call.line? : Memory.Call → Option String
  | .begin _ => some "BEGIN"
  | .commit _ => some "COMMIT"
  | .rollback _ => some "ROLLBACK"
  | .execute _ sql bindings => some (renderStatement sql bindings)
  | _ => none

/-- **A log that somebody can read**: each line comes behind the others, and nothing else is a line.
-/
structure StatementLog.Keeps (log : StatementLog) (diary : Nat)
    (lines : World → List String) : Prop where
  unheard : World.Unheard lines
  write : ∀ line (s : World), lines (log.write line s) = lines s ++ [line]
  apart : ∀ line (s : World), (LogHost.lines diary).get (log.write line s)
    = (LogHost.lines diary).get s
  unmarked : ∀ v (s : World), lines ((LogHost.lines diary).set v s) = lines s

lemma StatementLog.keeps_memory {number diary : Nat} (h : number ≠ diary) :
    (StatementLog.memory number).Keeps diary (LogHost.lines number).get where
  unheard := ⟨fun _ _ => rfl, fun _ _ => rfl, fun _ _ => rfl, fun _ _ => rfl, fun _ _ _ => rfl,
    fun _ _ => rfl⟩
  write line s := (LogHost.lines number).get_modify (· ++ [line]) s
  apart _ s := Table.get_put_of_ne (Ne.symm h) s.lines _
  unmarked _ s := Table.get_put_of_ne h s.lines _

/-- **Two worlds that are the same but for reports and other logs.** -/
def World.SameLog (lines : World → List String) (s s' : World) : Prop :=
  s.SameSilent s' ∧ lines s = lines s'

/-- They are alike in a part that they are alike in without the log, and that is not in the log. -/
lemma Cell.Alike.withLog {cell : Cell World τ} {lines : World → List String}
    (h : cell.Alike World.SameSilent)
    (hlines : ∀ v s, lines (cell.set v s) = lines s) : cell.Alike (World.SameLog lines) where
  get hs := h.get hs.1
  set v hs := ⟨h.set v hs.1, by rw [hlines, hlines, hs.2]⟩

lemma World.schedule_sameLog {lines : World → List String} (h : World.Unheard lines) :
    Host.schedule.Alike (SameLog lines) :=
  schedule_silent.withLog h.schedule

lemma World.sameLog_alike {lines : World → List String} (h : World.Unheard lines) :
    World.Alike (SameLog lines) :=
  { Host.alike_of_schedule (schedule_sameLog h) fun _ hs =>
      ⟨hs.1, (h.traces _ _).trans (hs.2.trans (h.traces _ _).symm)⟩ with
    backend := sameSilent_alike.backend.withLog h.backend
    accounts := sameSilent_alike.accounts.withLog h.accounts
    leases := fun n => (sameSilent_alike.leases n).withLog (h.leases n)
    leaseCount := sameSilent_alike.leaseCount.withLog h.leaseCount }

/-! ## LogState -/

/-- **The state of the log.** -/
structure LogState where
  lines : List String
  fates : List String
  spoken : List String

namespace LogState

/-- The lines about calls that were answered. -/
def answered (notes : List (String × Fate)) : List String :=
  (notes.filter (·.2 = .answered)).map (·.1)

/-- **The log after some calls**, and after something more was said. -/
def after (m : LogState) (notes : List (String × Fate)) (extra : List String) : LogState :=
  ⟨m.lines ++ notes.map (·.1), m.fates ++ notes.map fun note => note.2.entry note.1, m.spoken
    ++ answered notes ++ extra⟩

def write (m : LogState) (line : String) : LogState :=
  { m with lines := m.lines ++ [line] }

def say (m : LogState) (spoken : List String) : LogState :=
  { m with spoken := m.spoken ++ spoken }

/-- It is noted down what has become of a call. -/
def mark (m : LogState) (line : String) (fate : Fate) : LogState :=
  { m with fates := m.fates ++ [fate.entry line] }

variable (m : LogState) (line : String)

@[simp] lemma after_nil : m.after [] [] = m := by
  simp [after, answered]

lemma after_after (notes more : List (String × Fate)) (extra : List String) :
    (m.after notes []).after more extra = m.after (notes ++ more) extra := by
  simp [after, answered]

lemma say_nil : m.say [] = m := by
  simp [say]

lemma after_say (notes : List (String × Fate)) (extra : List String) :
    (m.after notes []).say extra = m.after notes extra := by
  simp [after, say]

lemma mark_unanswered {fate : Fate} (h : fate ≠ .answered) :
    (m.write line).mark line fate = m.after [(line, fate)] [] := by
  simp [after, answered, write, mark, h]

lemma mark_answered : ((m.write line).say [line]).mark line .answered = m.after
    [(line, .answered)] [] := by
  simp [after, answered, write, mark, say]

end LogState

/-- **The log of a connection.** -/
def World.logState (base diary : Nat) (lines : World → List String) (s : World) : LogState :=
  ⟨lines s, (LogHost.lines diary).get s, (s.callsOn base).filterMap Memory.Call.line?⟩

/-- **A change that adds nothing to the log**, opens no connection, and starts no lease. -/
structure World.Hushed (base diary : Nat) (lines : World → List String) (s s' : World) : Prop where
  logState : s'.logState base diary lines = s.logState base diary lines
  linkCount : s'.backend.linkCount = s.backend.linkCount
  leaseCount : s'.leaseCount = s.leaseCount

variable {log : StatementLog} {diary base number n : Nat} {lines : World → List String}
  {s s' s'' : World}

namespace World

lemma logState_of_same (hlines : lines s' = lines s)
    (hdiary : (LogHost.lines diary).get s' = (LogHost.lines diary).get s)
    (hcalls : s'.callsOn base = s.callsOn base) :
    s'.logState base diary lines = s.logState base diary lines := by
  rw [logState, hlines, hdiary, hcalls, logState]

namespace Hushed

lemma refl (s : World) : Hushed base diary lines s s := ⟨rfl, rfl, rfl⟩

lemma trans (h : Hushed base diary lines s s') (h' : Hushed base diary lines s' s'') :
    Hushed base diary lines s s'' :=
  ⟨h'.logState.trans h.logState, h'.linkCount.trans h.linkCount, h'.leaseCount.trans h.leaseCount⟩

variable (K : log.Keeps diary lines)

include K

/-- Only turns, reports and a part that nothing is written in have changed. -/
lemma of_still {cell : Cell World τ} (hcalls : ∀ v s, (cell.set v s).backend = s.backend)
    (hleases : ∀ v s, (cell.set v s).leaseCount = s.leaseCount)
    (hlogs : ∀ v s, (cell.set v s).lines = s.lines) (hlines : ∀ v s, lines (cell.set v s) = lines s)
    (h : Host.Still cell s s') : Hushed base diary lines s s' := by
  have hbackend : s'.backend = s.backend :=
    h.same World.backend hcalls (fun _ _ _ => rfl) fun _ _ => rfl
  have hdiary : s'.lines = s.lines := h.same World.lines hlogs (fun _ _ _ => rfl) fun _ _ => rfl
  refine ⟨logState_of_same ?_ ?_ ?_, congrArg Memory.Backend.linkCount hbackend,
    h.same World.leaseCount hleases (fun _ _ _ => rfl) fun _ _ => rfl⟩
  · exact h.same lines hlines (fun c s _ => K.unheard.schedule c s) K.unheard.traces
  · exact congrArg (fun t : Table Nat (List String) => t.get diary) hdiary
  · rw [callsOn, hbackend, callsOn]

lemma of_permits (h : Host.Still Memory.permits s s') : Hushed base diary lines s s' :=
  of_still K (fun _ _ => rfl) (fun _ _ => rfl) (fun _ _ => rfl) K.unheard.accounts h.of_comp

lemma of_lease (h : Host.Still (LeaseHost.leases n) s s') : Hushed base diary lines s s' :=
  of_still K (fun _ _ => rfl) (fun _ _ => rfl) (fun _ _ => rfl) (K.unheard.leases n) h

lemma schedule (f : Schedule → Schedule) (s : World) :
    Hushed base diary lines s (Host.schedule.modify f s) :=
  ⟨logState_of_same (K.unheard.schedule _ s) rfl rfl, rfl, rfl⟩

lemma report (trace : Trace) (s : World) : Hushed base diary lines s (Host.report trace s) :=
  ⟨logState_of_same (K.unheard.traces _ s) rfl rfl, rfl, rfl⟩

lemma accounts (f : Memory.Accounts → Memory.Accounts) (s : World) :
    Hushed base diary lines s (MemoryHost.accounts.modify f s) :=
  ⟨logState_of_same (K.unheard.accounts _ s) rfl rfl, rfl, rfl⟩

lemma drop (m : Nat) (s : World) : Hushed base diary lines s (Memory.drop m s) := by
  cases halive : ((Memory.link m).get s).alive with
  | false => rw [Memory.drop_of_gone halive]; exact .refl s
  | true =>
    have hlink : Hushed base diary lines s ((Memory.link m).modify Memory.Link.forsaken s) :=
      ⟨logState_of_same (K.unheard.backend _ s) rfl rfl, rfl, rfl⟩
    exact hlink.trans (of_permits K (Memory.still_drop halive))

end Hushed

/-- **Calls are in the log** as far as a log has lines about them. -/
lemma Works.logState (K : log.Keeps diary lines) {calls : List Memory.Call}
    (h : Works base calls s s') :
    s'.logState base diary lines
      = (s.logState base diary lines).say (calls.filterMap Memory.Call.line?) := by
  have hlines : lines s' = lines s := by
    rw [h.same]
    exact K.unheard.backend _ s
  have hdiary : (LogHost.lines diary).get s' = (LogHost.lines diary).get s := by
    rw [h.same]
    rfl
  rw [World.logState, hlines, hdiary, h.callsOn, List.filterMap_append]
  rfl

lemma Works.quiet (K : log.Keeps diary lines) {calls : List Memory.Call} (h : Works base calls s s')
    (hcalls : ∀ call ∈ calls, call.line? = none) : Hushed base diary lines s s' := by
  refine ⟨?_, h.linkCount, h.leaseCount⟩
  rw [h.logState K, List.filterMap_eq_nil_iff.mpr hcalls, LogState.say_nil]

end World

/-! ## Adding to the log -/

/-- **Whoever adds to this log** has the connection and a lease for it. -/
structure World.Taking (base number diary : Nat) (lines : World → List String) (m : LogState)
    (s : World) : Prop
    extends Has base number s where
  logState : s.logState base diary lines = m

/-- **What whoever adds to the log knows of it.** -/
inductive LogStage where
  | seeking (m : LogState)
  | opened (m : LogState)
  | taking (m : LogState)
  /-- A run that has opened another connection, or started another lease. -/
  | stray
  | aide

/-- **The discipline of adding to the log.** -/
def logKeeping (base number diary : Nat) (lines : World → List String) :
    Discipline World LogStage where
  knows
    | .seeking m, s => s.logState base diary lines = m
    | .opened m, s => s.logState base diary lines = m ∧ base ≤ s.backend.linkCount
    | .taking m, s => s.Taking base number diary lines m
    | .stray, _ => True
    | .aide, s => ((Memory.link base).get s).signal.status ≠ .closed
  may
    | .seeking _, s, .seeking m, s' =>
        s'.logState base diary lines = m ∧ s'.backend.linkCount = s.backend.linkCount
          ∧ s'.leaseCount = s.leaseCount
    | .seeking _, s, .opened m, s' | .opened _, s, .opened m, s' =>
        (s'.logState base diary lines = m ∧ base ≤ s'.backend.linkCount) ∧ s'.leaseCount
          = s.leaseCount
    | .seeking _, s, .stray, s' =>
        s'.backend.linkCount ≠ s.backend.linkCount ∧ s'.backend.linkCount ≠ base
    | .opened _, _, .taking m, s' | .taking _, _, .taking m, s' =>
      s'.Taking base number diary lines m
    | .opened _, s, .stray, s' => s'.leaseCount ≠ s.leaseCount ∧ s.leaseCount ≠ number
    | .stray, _, .stray, _ => True
    | .aide, s, .aide, s' => World.Hushed base diary lines s s'
    | _, _, _, _ => False
  waits _ _ := True

variable {m m' : LogState} {x : LogStage} {gone : LogStage → (World → World) → Prop}

lemma World.Has.mono (h : s.Has base number) (hlink : s.backend.linkCount ≤ s'.backend.linkCount)
    (hlease : s.leaseCount ≤ s'.leaseCount) : s'.Has base number :=
  ⟨Nat.le_trans h.linkCount hlink, Nat.lt_of_lt_of_le h.leaseCount hlease⟩

namespace World.Hushed

lemma taking (h : Hushed base diary lines s s') (hs : s.Taking base number diary lines m) :
    s'.Taking base number diary lines m :=
  ⟨hs.toHas.mono h.linkCount.ge h.leaseCount.ge, h.logState.trans hs.logState⟩

lemma stay (h : Hushed base diary lines s s')
    (hs : (logKeeping base number diary lines).knows x s) :
    (logKeeping base number diary lines).may x s x s' := by
  cases x with
  | seeking m => exact ⟨h.logState.trans hs, h.linkCount, h.leaseCount⟩
  | opened m => exact ⟨⟨h.logState.trans hs.1, h.linkCount ▸ hs.2⟩, h.leaseCount⟩
  | taking m => exact h.taking hs
  | stray => trivial
  | aide => exact h

lemma after {y : LogStage} (hmay : (logKeeping base number diary lines).may x s y s')
    (h : Hushed base diary lines s' s'') : (logKeeping base number diary lines).may x s y s'' := by
  cases x <;> cases y
  case seeking.seeking =>
    exact ⟨h.logState.trans hmay.1, h.linkCount.trans hmay.2.1, h.leaseCount.trans hmay.2.2⟩
  case seeking.opened | opened.opened =>
    exact ⟨⟨h.logState.trans hmay.1.1, h.linkCount ▸ hmay.1.2⟩, h.leaseCount.trans hmay.2⟩
  case opened.taking | taking.taking => exact h.taking hmay
  case seeking.stray => exact ⟨h.linkCount ▸ hmay.1, h.linkCount ▸ hmay.2⟩
  case opened.stray => exact ⟨h.leaseCount ▸ hmay.1, hmay.2⟩
  case stray.stray => trivial
  case aide.aide => exact hmay.trans h
  all_goals exact hmay.elim

end World.Hushed

lemma logKeeping_timeless (K : log.Keeps diary lines) :
    (logKeeping base number diary lines).Timeless where
  stay hs := (World.Hushed.refl _).stay hs
  after _ hmay := World.Hushed.after hmay (.schedule K _ _)
  either _ _ := trivial

/-- **A task that adds nothing** leaves a run where it is. -/
lemma quiet_obeys {task : Task World α}
    (h : task.Respects (fun _ => True) (World.Hushed base diary lines))
    (hgone : ∀ f, (∀ s, World.Hushed base diary lines s (f s)) → gone x f) :
    task.Obeys (logKeeping base number diary lines) gone (fun _ y => y = x) x :=
  Task.Obeys.of_respects h (fun _ _ => trivial) (fun _ _ hs h => h.stay hs) (fun _ _ => trivial)
    fun f hf => hgone f fun s => hf s trivial

/-! ## Through a lease -/

lemma answer_ne_refused (backend : Memory.Backend) (sql : String) (kind : StatementKind) :
    (backend.answer sql kind).1 ≠ .error .closedConnection := by
  unfold Memory.Backend.answer
  split <;> simp

lemma plainAnswer_ne_refused (pick : Memory.Failures → Option String) (s : World) :
    Memory.plainAnswer base pick s ≠ .error .closedConnection := by
  unfold Memory.plainAnswer
  split
  · simp [Memory.hasEnded]
  · split <;> simp

section Leasing

variable (K : log.Keeps diary lines)

include K

lemma quiet_cell (h : Host.Still (Memory.pool.lease base n : Lease World).cell s s') :
    World.Hushed base diary lines s s' :=
  .of_lease K h

lemma quiet_lock (h : Host.Still (Memory.pool.lease base n : Lease World).lock s s') :
    World.Hushed base diary lines s s' :=
  .of_lease K h.of_comp

lemma acquire_keepsLog (hgone : ∀ f, (∀ s, World.Hushed base diary lines s (f s)) → gone x f) :
    (Semaphore.acquire (Memory.pool.lease base n : Lease World).lock).Obeys
      (logKeeping base number diary lines) gone (fun _ y => y = x) x :=
  quiet_obeys ((Semaphore.acquire_respects _).imp fun _ _ _ => quiet_lock K) hgone

/-- **An operation on the connection beneath, through the lease**: it is refused and adds nothing,
or the connection adds what it adds. -/
lemma operate_keepsLog {operation : Attempt World α} {after : α → LeaseState → LeaseState}
    {Q : Except Fault α → Prop} (hgone : ∀ f, (∀ s, World.Hushed base diary lines s (f s)) →
      gone (.taking m) f)
    (h : operation.run.Obeys (logKeeping base number diary lines) (fun _ _ => False)
      (fun r y => r ≠ .error .closedConnection ∧ y = .taking m' ∧ Q r) (.taking m)) :
    ((Memory.pool.lease base n).operate operation after).run.Obeys
      (logKeeping base number diary lines) gone
      (fun r y => r = .error .closedConnection ∧ y = .taking m
        ∨ r ≠ .error .closedConnection ∧ y = .taking m' ∧ Q r) (.taking m) := by
  have hrelease : ∀ s : World, World.Hushed base diary lines s
      (Semaphore.release (Memory.pool.lease base n : Lease World).lock s) :=
    fun s => quiet_lock K (Semaphore.Usable.still_updating _ s)
  have henter : (Memory.pool.lease base n : Lease World).enter.run.Obeys
    (logKeeping base number diary lines) gone
      (fun r y => (∀ fault, r = .error fault → fault = .closedConnection) ∧ y = .taking m)
      (.taking m) := by
    refine fun s hs => ⟨_, (World.Hushed.refl s).stay hs, ?_⟩
    dsimp only
    split
    · exact ⟨by simp, rfl⟩
    refine (acquire_keepsLog K hgone).bind ?_
    rintro _ _ rfl s hs
    refine ⟨_, (World.Hushed.refl s).stay hs, ?_⟩
    dsimp only
    split
    · exact fun s hs => ⟨_, (hrelease s).stay hs, by simp, rfl⟩
    · exact ⟨by simp, rfl⟩
  refine henter.bind ?_
  rintro (fault | _) y ⟨hfault, rfl⟩
  · obtain rfl := hfault fault rfl
    exact .inl ⟨rfl, rfl⟩
  refine Task.Obeys.holding ((h.mono (fun _ _ h => h.elim) fun _ _ => id).bind ?_)
    fun r y s (hr : r ≠ .error .closedConnection ∧ y = .taking m' ∧ Q r) hs => ?_
  · rintro (fault | a) y ⟨hr, rfl, hQ⟩
    · exact ⟨hr, rfl, hQ⟩
    · exact fun s hs => ⟨_, (quiet_cell K (.modify _ s)).stay hs, hr, rfl, hQ⟩
  · obtain ⟨hr, rfl, hQ⟩ := hr
    exact ⟨_, (hrelease s).stay hs, .inr ⟨hr, rfl, hQ⟩⟩

/-! ## Calls -/

lemma works_taking {call : Memory.Call} (hs : s.Taking base number diary lines m)
    (h : World.Works base [call] s s') :
    s'.Taking base number diary lines (m.say (call.line?.toList)) := by
  refine ⟨hs.toHas.mono h.linkCount.ge h.leaseCount.ge, ?_⟩
  rw [h.logState K, hs.logState]
  cases hline : call.line? <;> simp [hline]

lemma plainCall_keepsLog (call : Memory.Call) (hcall : call.number = base)
    (pick : Memory.Failures → Option String) :
    (Memory.plainCall base call pick : Attempt World Unit).run.Obeys
      (logKeeping base number diary lines) gone
      (fun r y => r ≠ .error .closedConnection ∧ y = .taking (m.say call.line?.toList) ∧ True)
        (.taking m) :=
  Memory.plainCall_obeys fun s hs =>
    ⟨.taking _, works_taking K hs (.note hcall s), plainAnswer_ne_refused pick s, rfl, trivial⟩

lemma plainCall_quiet (call : Memory.Call) (hcall : call.number = base) (hline : call.line? = none)
    (pick : Memory.Failures → Option String) :
    (Memory.plainCall base call pick : Attempt World Unit).run.Obeys
      (logKeeping base number diary lines) gone
      (fun _ y => y = x) x :=
  Memory.plainCall_obeys fun s hs =>
    ⟨x, ((World.Works.note hcall s).quiet K (by simp [hline])).stay hs, rfl⟩

lemma execute_keepsLog (handle : StatementHandle) (bindings : List Scalar) :
    (Memory.execute base handle bindings : Attempt World Outcome).run.Obeys
      (logKeeping base number diary lines) gone
      (fun r y => r ≠ .error .closedConnection
        ∧ y = .taking (m.say [renderStatement handle.sql bindings]) ∧ True) (.taking m) := by
  have hcall : (Memory.Call.execute base handle.sql bindings).number = base := rfl
  refine Memory.answering_obeys hcall (fun s => ?_) fun s s' hs hworks outcome houtcome =>
    ⟨.taking _, works_taking K hs hworks, ?_, rfl, trivial⟩
  · dsimp only
    split
    · exact Memory.answer_works _ _ s
    · exact .refl s
  · rcases houtcome with rfl | rfl
    · simp [Memory.hasEnded]
    · dsimp only
      split
      · exact answer_ne_refused _ _ _
      · simp

lemma prepare_keepsLog (sql : String) (kind : StatementKind) :
    (Memory.prepare base sql kind : Attempt World StatementHandle).run.Obeys
      (logKeeping base number diary lines) gone
      (fun r y => r ≠ .error .closedConnection ∧ y = .taking m
        ∧ ∀ handle, r = .ok handle → handle.sql = sql) (.taking m) := by
  have hcall : (Memory.Call.prepare base sql).number = base := rfl
  refine Memory.answering_obeys hcall (fun s => ?_) fun s s' hs hworks outcome houtcome =>
    ⟨.taking m, m.say_nil ▸ works_taking K hs hworks, ?_, rfl, ?_⟩
  · dsimp only
    refine .link (fun l => ?_) s
    rfl
  · rcases houtcome with rfl | rfl <;> simp [Memory.hasEnded]
  · rcases houtcome with rfl | rfl
    · simp
    · rintro _ ⟨⟩
      rfl

/-! ## Closing -/

lemma destroy_quiet (handle : StatementHandle) (s : World) :
    World.Hushed base diary lines s (Memory.destroy base handle s) := by
  rcases Memory.destroy_works base handle s with h | h
  · exact h.quiet K (by simp)
  · exact h.quiet K (by simp [Memory.Call.line?])

lemma release_quiet (n : Nat) (s : World) :
    World.Hushed base diary lines s ((Memory.pool.lease base n).release s) := by
  unfold Lease.release
  split
  · have hdeaf : World.Hushed base diary lines s ((LeaseHost.leases n).modify
        (fun state => { state with listening := false }) s) := .of_lease K (.modify _ s)
    exact hdeaf.trans ((World.Hushed.accounts K _ _).trans (.drop K base _))
  · exact .drop K base s

lemma tidied_quiet (n : Nat) (handles : List StatementHandle) (s : World) :
    World.Hushed base diary lines s
      ((Memory.pool.lease base n).release ((Memory.pool.lease base n).destroyAll handles s)) := by
  have hall : ∀ s, World.Hushed base diary lines s
    ((Memory.pool.lease base n).destroyAll handles s) := by
    induction handles with
    | nil => exact .refl
    | cons handle rest ih => exact fun s => (destroy_quiet K handle s).trans (ih _)
  exact (hall s).trans (release_quiet K n _)

/-- **Closing a lease** adds a rollback to the journal, or nothing. -/
lemma close_keepsLog (n : Nat) :
    ((Memory.pool.lease base n : Lease World).shutdown .closed).Obeys
      (logKeeping base number diary lines)
      (fun _ _ => True)
      (fun _ y => ∃ extra, (extra = [] ∨ extra = ["ROLLBACK"]) ∧ y = .taking (m.say extra))
        (.taking m) := by
  have hlease : ∀ (f : LeaseState → LeaseState) (s : World), World.Hushed base diary lines s
      ((Memory.pool.lease base n : Lease World).cell.modify f s) :=
    fun f s => quiet_cell K (.modify f s)
  have hsurrender : ∀ s, World.Hushed base diary lines s
    ((Memory.pool.lease base n).surrender .closed s) :=
    fun s => quiet_cell K (Lease.still_surrender .closed s)
  have hsilent : ∃ extra, (extra = [] ∨ extra = ["ROLLBACK"]) ∧ LogStage.taking m
    = .taking (m.say extra) :=
    ⟨[], .inl rfl, by rw [m.say_nil]⟩
  refine fun s hs => ⟨_, (hlease _ s).stay hs, ?_⟩
  dsimp only
  split
  · exact hsilent
  have hacquire : (Semaphore.acquire (Memory.pool.lease base n : Lease World).lock).Obeys
      (logKeeping base number diary lines) (fun _ _ => True) (fun _ y => y = .taking m)
        (.taking m) :=
    acquire_keepsLog K fun _ _ => trivial
  refine hacquire.bind ?_
  rintro _ _ rfl s hs
  refine ⟨_, (hsurrender s).stay hs, ?_⟩
  dsimp only
  split
  · exact hsilent
  have htransaction : (Memory.pool.lease base n : Lease World).tidyTransaction.Obeys
      (logKeeping base number diary lines) (fun _ _ => True)
      (fun _ y => ∃ extra, (extra = [] ∨ extra = ["ROLLBACK"]) ∧ y = .taking (m.say extra))
      (.taking m) := by
    refine fun s hs => ⟨_, (hlease _ s).stay hs, ?_⟩
    dsimp only
    split
    · refine (plainCall_keepsLog K (.rollback base) rfl _).bind ?_
      rintro (fault | _) _ ⟨-, rfl, -⟩
      · exact fun s hs => ⟨_, (World.Hushed.report K _ s).stay hs, _, .inr rfl, rfl⟩
      · exact ⟨_, .inr rfl, rfl⟩
    · exact hsilent
  refine (Task.Obeys.guarded htransaction).bind ?_
  rintro _ y ⟨extra, hextra, rfl⟩ s hs
  exact ⟨_, (tidied_quiet K n _ s).stay hs, extra, hextra, rfl⟩

end Leasing

/-! ## Connections -/

/-- **A call is in the log**: its line, and what has become of it. -/
def Noted (m : LogState) (line : String) (y : LogStage) : Prop :=
  ∃ fate, fate ≠ Fate.forsaken ∧ y = .taking (m.after [(line, fate)] [])

/-- **Whoever gives up a call** has it noted down, and may give up at any time where there is
nothing to be noted down. -/
structure Forsakes (base number diary : Nat) (lines : World → List String)
    (gone : LogStage → (World → World) → Prop) (m : LogState) : Prop where
  silent : ∀ f : World → World, (∀ s, World.Hushed base diary lines s (f s)) → gone (.taking m) f
  noted : ∀ line (f : World → World), (∀ s, World.Hushed base diary lines s (f s)) →
    gone (.taking (m.write line)) fun s => Manager.jot diary line .forsaken (f s)

/-- **A connection on which every call is in the log.** -/
structure KeepsLog (base number diary : Nat) (lines : World → List String)
    (conn : Connection World) : Prop where
  begin : ∀ {m gone}, Forsakes base number diary lines gone m →
    conn.begin.run.Obeys (logKeeping base number diary lines) gone (fun _ => Noted m "BEGIN")
      (.taking m)
  commit : ∀ {m gone}, Forsakes base number diary lines gone m →
    conn.commit.run.Obeys (logKeeping base number diary lines) gone (fun _ => Noted m "COMMIT")
      (.taking m)
  rollback : ∀ {m gone}, Forsakes base number diary lines gone m →
    conn.rollback.run.Obeys (logKeeping base number diary lines) gone (fun _ => Noted m "ROLLBACK")
      (.taking m)
  prepare : ∀ {m gone} sql kind, Forsakes base number diary lines gone m →
    (conn.prepare sql kind).run.Obeys (logKeeping base number diary lines) gone
      (fun r y => y = .taking m ∧ ∀ handle, r = .ok handle → handle.sql = sql) (.taking m)
  execute : ∀ {m gone} handle bindings, Forsakes base number diary lines gone m →
    (conn.execute handle bindings).run.Obeys (logKeeping base number diary lines) gone
      (fun _ => Noted m (renderStatement handle.sql bindings)) (.taking m)
  destroy : ∀ handle s, World.Hushed base diary lines s (conn.destroy handle s)
  close : ∀ {m}, conn.close.Obeys (logKeeping base number diary lines) (fun _ _ => True)
    (fun _ y => ∃ extra, (extra = [] ∨ extra = ["ROLLBACK"]) ∧ y = .taking (m.say extra))
      (.taking m)
  drop : ∀ s, World.Hushed base diary lines s (conn.drop s)

section Calls

variable (K : log.Keeps diary lines)

include K

lemma logState_write (line : String) (s : World) :
    (log.write line s).logState base diary lines = (s.logState base diary lines).write line := by
  have hcalls : (log.write line s).silenced.callsOn base = s.silenced.callsOn base :=
    congrArg (World.callsOn base) (log.silenced_write line s)
  rw [World.logState, K.write, K.apart, show (log.write line s).callsOn base
    = s.callsOn base from hcalls]
  rfl

lemma logState_jot (line : String) (fate : Fate) (s : World) :
    (Manager.jot diary line fate s).logState base diary lines
      = (s.logState base diary lines).mark line fate := by
  have hlines : lines (Manager.jot diary line fate s) = lines s := K.unmarked _ s
  have hcalls : (Manager.jot diary line fate s).callsOn base = s.callsOn base := rfl
  rw [World.logState, hlines, hcalls, Manager.jot, Cell.get_modify]
  rfl

lemma written_taking (line : String) (hs : s.Taking base number diary lines m) :
    (log.write line s).Taking base number diary lines (m.write line) := by
  have hoff : (log.write line s).SameSilent s := log.silenced_write line s
  exact ⟨hs.toHas.mono hoff.linkCount.ge hoff.leaseCount.ge, by rw [logState_write K, hs.logState]⟩

lemma marked_taking (line : String) (fate : Fate) (hs : s.Taking base number diary lines m) :
    (Manager.jot diary line fate s).Taking base number diary lines (m.mark line fate) :=
  ⟨⟨hs.linkCount, hs.leaseCount⟩, by rw [logState_jot K, hs.logState]⟩

/-- **A call with a line and a word in the diary.** -/
lemma followed_keepsLog {attempt : Attempt World α} {line : String}
    (hgone : Forsakes base number diary lines gone m)
    (h : ∀ {gone : LogStage → (World → World) → Prop},
      (∀ f, (∀ s, World.Hushed base diary lines s (f s)) → gone (.taking (m.write line)) f) →
      attempt.run.Obeys (logKeeping base number diary lines) gone
        (fun r y => r = .error .closedConnection ∧ y = .taking (m.write line)
          ∨ r ≠ .error .closedConnection ∧ y = .taking ((m.write line).say [line]) ∧ True)
        (.taking (m.write line))) :
    ((Attempt.of (.act (log.write line) fun _ => attempt.run)).followed
        (Manager.jot diary line)).run.Obeys (logKeeping base number diary lines) gone
          (fun _ => Noted m line)
      (.taking m) := by
  have hwritten : (Attempt.of (.act (log.write line) fun _ => attempt.run)).run.Obeys
      (logKeeping base number diary lines)
        (fun x f => gone x fun s => Manager.jot diary line .forsaken (f s)) _
      (.taking m) := fun s hs =>
    ⟨.taking (m.write line), written_taking K line hs, h (hgone.noted line)⟩
  refine (Task.Obeys.guarded hwritten).bind ?_
  rintro r y (⟨rfl, rfl⟩ | ⟨hr, rfl, -⟩) s hs
  · refine ⟨.taking (m.after [(line, .refused)] []), ?_, .refused, by simp, rfl⟩
    rw [← m.mark_unanswered line (by simp : Fate.refused ≠ .answered)]
    exact marked_taking K line .refused hs
  · refine ⟨.taking (m.after [(line, .answered)] []), ?_, .answered, by simp, rfl⟩
    have hfate : Fate.of r = .answered := by
      unfold Fate.of
      split
      · exact absurd rfl hr
      · rfl
    rw [hfate]
    rw [← m.mark_answered line]
    exact marked_taking K line .answered hs

/-- **A lease with a log and a diary** is a connection on which every call is in the log. -/
theorem lease_keepsLog (n : Nat) :
    KeepsLog base number diary lines ((Connection.logged log.write
      (Memory.pool.lease base n : Lease World).connection).followed (Manager.jot diary)) where
  begin h :=
    followed_keepsLog K h fun hgone => operate_keepsLog K hgone
      (plainCall_keepsLog K (.begin base) rfl _)
  commit h :=
    followed_keepsLog K h fun hgone => operate_keepsLog K hgone
      (plainCall_keepsLog K (.commit base) rfl _)
  rollback h :=
    followed_keepsLog K h fun hgone => operate_keepsLog K hgone
      (plainCall_keepsLog K (.rollback base) rfl _)
  prepare sql kind h := by
    refine (operate_keepsLog K h.silent (prepare_keepsLog K sql kind)).imp ?_
    rintro r y (⟨rfl, rfl⟩ | ⟨-, rfl, hsql⟩)
    · exact ⟨rfl, by simp⟩
    · exact ⟨rfl, hsql⟩
  execute handle bindings h :=
    followed_keepsLog K h fun hgone => operate_keepsLog K hgone (execute_keepsLog K handle bindings)
  destroy handle s := by
    show World.Hushed base diary lines s ((Memory.pool.lease base n).destroy handle s)
    have hforget : World.Hushed base diary lines s
        ((Memory.pool.lease base n : Lease World).cell.modify (LeaseState.forget handle) s) :=
      quiet_cell K (.modify _ s)
    unfold Lease.destroy
    dsimp only
    split
    · exact hforget.trans (destroy_quiet K handle _)
    · exact hforget
  close := close_keepsLog K n
  drop s := by
    show World.Hushed base diary lines s ((Memory.pool.lease base n).drop s)
    unfold Lease.drop
    split
    · exact .refl s
    · exact .schedule K _ s

end Calls

end Transactional
