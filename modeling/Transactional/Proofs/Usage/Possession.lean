import Transactional.Proofs.Isolation.Calls
import Transactional.Proofs.Usage.Record

/-!
# A connection in somebody's hands

Whoever alone uses a connection to the scripted backend knows at each moment which statements are
prepared on it, which number comes next, and which calls have been made.  What calls are answered is
another matter: failures may be injected at any time.

* `ConnState`, `Possession`, `possession` — what is on the connection, and the discipline of knowing
  it until it has been given back.
* `plainCall_kept`, `prepare_kept`, `execute_kept`, `destroy_kept` — the calls.
* `ConnState.cleared_eq` — what destroying statements one after the other comes to.
* `release_kept` — destroying what is left, and giving the connection back.
-/

namespace Transactional

/-- **What is on a connection.** -/
structure ConnState where
  statements : List UInt64
  next : UInt64
  calls : List Memory.Call

namespace ConnState

def call (call : Memory.Call) (connState : ConnState) : ConnState :=
  { connState with calls := connState.calls ++ [call] }

def prepared (base : Nat) (sql : String) (connState : ConnState) : ConnState :=
  { connState.call (.prepare base sql) with
    statements := connState.statements ++ [connState.next]
    next := connState.next + 1 }

/-- A statement is destroyed, if it is alive. -/
def destroyed (base : Nat) (handle : StatementHandle) (connState : ConnState) : ConnState :=
  if connState.statements.contains handle.id then
    { connState.call (.destroy base handle.sql) with
      statements := connState.statements.filter (· != handle.id) }
  else connState

/-- Statements are destroyed, one after the other. -/
def cleared (base : Nat) (handles : List StatementHandle) (connState : ConnState) : ConnState :=
  handles.foldl (fun connState handle => connState.destroyed base handle) connState

end ConnState

/-- The first handle of each number, without the numbers that have been seen. -/
def StatementHandle.firsts (seen : List UInt64) : List StatementHandle → List StatementHandle
  | [] => []
  | handle :: rest =>
      if seen.contains handle.id then firsts seen rest
      else handle :: firsts (handle.id :: seen) rest

lemma StatementHandle.firsts_of_nodup {seen : List UInt64} {handles : List StatementHandle}
    (h : (handles.map (·.id)).Nodup) (hseen : ∀ handle ∈ handles, handle.id ∉ seen) :
    firsts seen handles = handles := by
  induction handles generalizing seen with
  | nil => rfl
  | cons handle rest ih =>
    rw [List.map_cons, List.nodup_cons] at h
    have hfresh : seen.contains handle.id = false := by simpa using hseen handle List.mem_cons_self
    rw [firsts, hfresh, if_neg Bool.false_ne_true, ih h.2]
    intro other hother
    rw [List.mem_cons, not_or]
    refine ⟨fun heq => h.1 (heq ▸ List.mem_map_of_mem hother),
      hseen other (List.mem_cons_of_mem _ hother)⟩

/-- **Destroying all statements one after the other**: each number is destroyed once, and none is
left. -/
lemma ConnState.cleared_eq (base : Nat) {handles : List StatementHandle} {seen : List UInt64}
    {connState : ConnState}
    (hall : ∀ id ∈ connState.statements, ∃ handle ∈ handles, handle.id = id)
    (hseen : ∀ handle ∈ handles, handle.id ∈ connState.statements ↔ handle.id ∉ seen) :
    connState.cleared base handles =
      { connState with
        statements := []
        calls := connState.calls
          ++ (StatementHandle.firsts seen handles).map fun handle => .destroy base
            handle.sql } := by
  induction handles generalizing connState seen with
  | nil =>
    have hnone : connState.statements = [] :=
      List.eq_nil_iff_forall_not_mem.mpr fun id hid => by simpa using hall id hid
    simp [cleared, StatementHandle.firsts, ← hnone]
  | cons handle rest ih =>
    have hhandle := hseen handle List.mem_cons_self
    rw [cleared, List.foldl_cons, StatementHandle.firsts]
    by_cases hthere : handle.id ∈ connState.statements
    · have hcontains : connState.statements.contains handle.id = true := by simpa using hthere
      have hfresh : seen.contains handle.id = false := by simpa using hhandle.mp hthere
      rw [destroyed, if_pos hcontains, hfresh, if_neg Bool.false_ne_true]
      have hrest : ∀ other ∈ rest, other.id ∈ connState.statements.filter (· != handle.id)
          ↔ other.id ∉ handle.id :: seen := by
        intro other hother
        have hother := hseen other (List.mem_cons_of_mem _ hother)
        rw [List.mem_filter, hother, List.mem_cons, not_or, bne_iff_ne, and_comm]
      refine (ih (fun id hid => ?_) hrest).trans ?_
      · obtain ⟨hid, hne⟩ := List.mem_filter.mp hid
        obtain ⟨other, hother, rfl⟩ := hall id hid
        rcases List.mem_cons.mp hother with rfl | hother
        · simp at hne
        · exact ⟨other, hother, rfl⟩
      · simp [call]
    · have hcontains : ¬connState.statements.contains handle.id = true := by simpa using hthere
      have hseen' : seen.contains handle.id = true := by
        simpa using fun h => hthere (hhandle.mpr h)
      rw [destroyed, if_neg hcontains, if_pos hseen']
      refine ih (fun id hid => ?_) fun other hother => hseen other (List.mem_cons_of_mem _ hother)
      obtain ⟨other, hother, rfl⟩ := hall id hid
      rcases List.mem_cons.mp hother with rfl | hother
      · exact absurd hid hthere
      · exact ⟨other, hother, rfl⟩

/-- **A connection that somebody has, or has given back.** -/
inductive Possession where
  | kept (connState : ConnState)
  | returned (connState : ConnState)

/-- How many jobs are due that close a lease. -/
def World.closings (base number : Nat) (s : World) : Nat :=
  s.schedule.starts.countP (·.2 = .close base number)

namespace Possession

def connState : Possession → ConnState
  | .kept connState | .returned connState => connState

def count : Possession → Nat
  | .kept _ => 0
  | .returned _ => 1

/-- What the backend knows of the connection. -/
def link (permit : Bool) : Possession → Memory.Link
  | .kept connState =>
      { statements := connState.statements, nextStatement := connState.next, hasPermit := permit }
  | .returned connState =>
      { statements := connState.statements, nextStatement := connState.next, alive := false }

/-- What is known. -/
structure Knows (permit : Bool) (base : Nat) (k : Possession) (s : World) : Prop where
  link : ((Memory.link base).get s).plain = k.link permit
  calls : s.callsOn base = k.connState.calls

end Possession

/-- **The discipline of having a connection**, of which a lease is the only user. -/
def possession (permit : Bool) (base number : Nat) : Discipline World Possession where
  knows := Possession.Knows permit base
  may k s k' s' := k'.Knows permit base s'
    ∧ s'.closings base number = s.closings base number
    ∧ (k'.count = k.count ∧ s'.accounts.released = s.accounts.released
        ∧ (k'.count = 1 → k' = k)
      ∨ k'.count = k.count + 1 ∧ s'.accounts.released = s.accounts.released + 1
        ∧ ((LeaseHost.leases number).get s').closed = true ∧ k'.connState.statements = [])
  waits _ ready := ready = (Task.pause : Wait World).ready

variable {permit : Bool} {base number : Nat} {k k'' : Possession} {s s' s'' : World}
  {connState connState' : ConnState} {α : Type}

lemma Possession.Knows.still (h : Host.Still (LeaseHost.leases number) s s')
    (hs : k.Knows permit base s) : k.Knows permit base s' := by
  have hbackend : s'.backend = s.backend :=
    h.same World.backend (fun _ _ => rfl) (fun _ _ _ => rfl) fun _ _ => rfl
  have hlink : (Memory.link base).get s' = (Memory.link base).get s :=
    congrArg (fun b => b.links.get base) hbackend
  refine ⟨hlink ▸ hs.link, ?_⟩
  rw [World.callsOn, hbackend]
  exact hs.calls

lemma World.closings_still {τ : Type} {cell : Cell World τ} (h : Host.Still cell s s')
    (hcell : ∀ v s, (cell.set v s).schedule = s.schedule) :
    s'.closings base number = s.closings base number := by
  refine h.same (World.closings base number) (fun v s => ?_) (fun c s hc => ?_) fun _ _ => rfl
  · rw [closings, hcell, closings]
  · exact congrArg (List.countP _) hc

/-- **The lease makes no difference** to what is known of the connection. -/
lemma possession_tolerates : (Memory.pool.lease base number).Tolerates
    (possession permit base number) where
  still hs h :=
    ⟨hs.still h, World.closings_still h fun _ _ => rfl, .inl ⟨rfl,
      h.same (fun s => s.accounts.released) (fun _ _ => rfl) (fun _ _ _ => rfl) fun _ _ => rfl,
      fun _ => rfl⟩⟩
  keeps hs h := hs.still h
  before {k s m k' s'} _ h hmay := by
    have hreleased : m.accounts.released = s.accounts.released :=
      h.same (fun s => s.accounts.released) (fun _ _ => rfl) (fun _ _ _ => rfl) fun _ _ => rfl
    have hclosings : m.closings base number = s.closings base number :=
      World.closings_still h fun _ _ => rfl
    obtain ⟨hknows, hdue, hback⟩ := hmay
    rw [hreleased] at hback
    exact ⟨hknows, hdue.trans hclosings, hback⟩
  pause _ := rfl

lemma possession_trans (h : (possession permit base number).may k s (.kept connState) s')
    (h' : (possession permit base number).may (.kept connState) s' k'' s'') :
    (possession permit base number).may k s k'' s'' := by
  obtain ⟨-, hdue, ⟨hcount, hreleased, -⟩ | ⟨hcount, -⟩⟩ := h
  · obtain ⟨hknows, hdue', hback⟩ := h'
    refine ⟨hknows, hdue'.trans hdue, ?_⟩
    rw [hcount, hreleased] at hback
    exact hback.imp_left fun ⟨hcount', hreleased', hsame⟩ => ⟨hcount', hreleased', fun hgone =>
      absurd (hsame hgone ▸ hgone) (show (Possession.kept connState).count ≠ 1 from nofun)⟩
  · exact absurd hcount.symm (Nat.succ_ne_zero _)

/-- The discipline for the connection while its lease stays as it is. -/
abbrev underneath (permit : Bool) (base number : Nat) : Discipline World Possession :=
  (Memory.pool.lease base number).besides (possession permit base number)

lemma underneath_trans (h : (underneath permit base number).may k s (.kept connState) s')
    (h' : (underneath permit base number).may (.kept connState) s' k'' s'') :
    (underneath permit base number).may k s k'' s'' :=
  ⟨h'.1.trans h.1, possession_trans h.2 h'.2⟩

/-- **A change of the backend alone.** -/
lemma kept_may (hsame : s' = { s with backend := s'.backend })
    (hknows : (Possession.kept connState').Knows permit base s') :
    (underneath permit base number).may (.kept connState) s (.kept connState') s' := by
  refine ⟨?_, hknows, ?_, .inl ⟨rfl, ?_, nofun⟩⟩
  · rw [hsame]
    rfl
  · rw [hsame]
    rfl
  · rw [hsame]

lemma kept_stay (hs : (Possession.kept connState).Knows permit base s) :
    (underneath permit base number).may (.kept connState) s (.kept connState) s :=
  kept_may rfl hs

lemma Possession.Knows.note {call : Memory.Call} (hcall : call.number = base)
    (hs : (Possession.kept connState).Knows permit base s) :
    (Possession.kept (connState.call call)).Knows permit base (Memory.note call s) :=
  ⟨hs.link, by rw [(World.Works.note hcall s).callsOn, hs.calls]; rfl⟩

lemma Possession.Knows.modify {f : Memory.Link → Memory.Link}
    (hs : (Possession.kept connState).Knows permit base s)
    (hf : ∀ l, l.plain = (Possession.kept connState).link permit →
      (f l).plain = (Possession.kept connState').link permit)
        (hcalls : connState'.calls = connState.calls) :
    (Possession.kept connState').Knows permit base ((Memory.link base).modify f s) := by
  refine ⟨?_, hs.calls.trans hcalls.symm⟩
  rw [Cell.get_modify]
  exact hf _ hs.link

/-- **A call is answered**, since the connection has not ended. -/
lemma answering_kept {call : Memory.Call} {answer : World → Except Fault α × World}
    {ends : Except Fault α → Possession → Prop}
    (h : ∀ s, (Possession.kept connState).Knows permit base s →
      ∃ k, (underneath permit base number).may (.kept connState) s k (answer (Memory.note call s)).2
        ∧ ends (answer (Memory.note call s)).1 k) :
    (Memory.answering base call answer).run.Obeys (underneath permit base number)
      (fun _ _ => False) ends (.kept connState) := by
  intro s hs
  have hopen : ((Memory.link base).get (Memory.note call s)).signal.status.isTerminal = false :=
    congrArg (fun l : Memory.Link => l.signal.status.isTerminal) hs.link
  obtain ⟨k, hmay, hends⟩ := h s hs
  refine ⟨k, ?_, ?_⟩
  · simpa [hopen] using hmay
  · simpa [hopen, Task.Obeys] using hends

/-- **A call that does nothing but fail if it is told to.** -/
lemma plainCall_kept {call : Memory.Call} (hcall : call.number = base)
    (pick : Memory.Failures → Option String) :
    (Memory.plainCall base call pick : Attempt World Unit).run.Obeys (underneath permit base number)
      (fun _ _ => False) (fun _ k => k = .kept (connState.call call)) (.kept connState) :=
  Memory.plainCall_obeys fun _ hs => ⟨_, kept_may rfl (hs.note hcall), rfl⟩

/-- **Preparing a statement.** -/
lemma prepare_kept (sql : String) (kind : StatementKind) :
    (Memory.prepare base sql kind : Attempt World StatementHandle).run.Obeys
      (underneath permit base number) (fun _ _ => False)
      (fun r k => r = .ok ⟨connState.next, sql, kind⟩ ∧ k = .kept (connState.prepared base sql))
      (.kept connState) := by
  refine answering_kept fun s hs => ⟨.kept (connState.prepared base sql), ?_, ?_, rfl⟩
  all_goals
    have hnext : ((Memory.link base).get (Memory.note (.prepare base sql) s)).nextStatement
        = connState.next := congrArg Memory.Link.nextStatement hs.link
    rw [hnext]
  have hnoted : (Possession.kept (connState.call (.prepare base sql))).Knows permit base
      (Memory.note (.prepare base sql) s) := hs.note rfl
  let f : Memory.Link → Memory.Link := fun l =>
    { l with statements := l.statements ++ [connState.next], nextStatement := l.nextStatement + 1 }
  have hprepared : (Possession.kept (connState.prepared base sql)).Knows permit base
      ((Memory.link base).modify f (Memory.note (.prepare base sql) s)) := by
    refine hnoted.modify (fun l hl => ?_) rfl
    rw [Memory.Link.eq_of_plain hl]
    rfl
  exact kept_may rfl hprepared

/-- **Executing a statement.** -/
lemma execute_kept (handle : StatementHandle) (bindings : List Scalar) :
    (Memory.execute base handle bindings : Attempt World Outcome).run.Obeys
      (underneath permit base number) (fun _ _ => False)
      (fun _ k => k = .kept (connState.call (.execute base handle.sql bindings)))
        (.kept connState) := by
  refine answering_kept fun s hs => ⟨_, ?_, rfl⟩
  have hnoted : (Possession.kept (connState.call (.execute base handle.sql bindings))).Knows
    permit base
      (Memory.note (.execute base handle.sql bindings) s) := hs.note rfl
  split
  · obtain ⟨id, hid⟩ := Memory.answer_backend handle.sql handle.kind
      (Memory.note (.execute base handle.sql bindings) s).backend
    refine kept_may rfl ⟨?_, ?_⟩
    · refine (congrArg (fun b : Memory.Backend => (b.links.get base).plain) hid).trans ?_
      exact hnoted.link
    · refine (congrArg (fun b : Memory.Backend => b.journal.filter (·.number = base)) hid).trans ?_
      exact hnoted.calls
  · exact kept_may rfl hnoted

/-- **Destroying a statement**, if it is alive. -/
lemma destroy_kept (handle : StatementHandle)
    (hs : (Possession.kept connState).Knows permit base s) :
    (underneath permit base number).may (.kept connState) s
      (.kept (connState.destroyed base handle))
      (Memory.destroy base handle s) := by
  have hstatements : ((Memory.link base).get s).statements = connState.statements :=
    congrArg Memory.Link.statements hs.link
  unfold Memory.destroy ConnState.destroyed
  rw [hstatements]
  split
  · let left : ConnState :=
      { connState with statements := connState.statements.filter (· != handle.id) }
    let f : Memory.Link → Memory.Link := fun l =>
      { l with statements := l.statements.filter (· != handle.id) }
    have hleft : (Possession.kept left).Knows permit base ((Memory.link base).modify f s) := by
      refine hs.modify (fun l hl => ?_) rfl
      rw [Memory.Link.eq_of_plain hl]
      rfl
    have hnoted : (Possession.kept (left.call (.destroy base handle.sql))).Knows permit base
        (Memory.note (.destroy base handle.sql) ((Memory.link base).modify f s)) := hleft.note rfl
    exact kept_may rfl hnoted
  · exact kept_stay hs

lemma destroyAll_kept (handles : List StatementHandle)
    (hs : (Possession.kept connState).Knows permit base s) :
    (underneath permit base number).may (.kept connState) s (.kept (connState.cleared base handles))
      ((Memory.pool.lease base number).destroyAll handles s) := by
  induction handles generalizing connState s with
  | nil => exact kept_stay hs
  | cons handle rest ih =>
    have hfirst : (underneath permit base number).may _ s _ (Memory.destroy base handle s) :=
      destroy_kept handle hs
    exact underneath_trans hfirst (ih hfirst.2.1)

/-- **A lease that has been closed gives the connection back.** -/
lemma giveBack_kept (hclosed : ((LeaseHost.leases number).get s).closed = true)
    (hempty : connState.statements = []) (hs : (Possession.kept connState).Knows permit base s) :
    (underneath permit base number).may (.kept connState) s (.returned connState)
      (Memory.giveBack (Memory.connection base) s) := by
  let counted : World := MemoryHost.accounts.modify
    (fun a => { a with released := a.released + 1 }) s
  have halive : ((Memory.link base).get counted).alive = true := congrArg Memory.Link.alive hs.link
  have hstill := Memory.still_drop halive
  have hbackend := Memory.drop_backend halive
  have hlease : (LeaseHost.leases number).get (Memory.drop base counted)
      = (LeaseHost.leases number).get s :=
    hstill.same (LeaseHost.leases number).get (fun _ _ => rfl) (fun _ _ _ => rfl) fun _ _ => rfl
  refine ⟨congrArg LeaseState.plain hlease, ⟨?_, ?_⟩, ?_, .inr ⟨rfl, ?_, ?_, hempty⟩⟩
  · have hget : (Memory.link base).get (Memory.drop base counted)
        = ((Memory.link base).get counted).forsaken :=
      (congrArg (fun b : Memory.Backend => b.links.get base) hbackend).trans
        (Cell.get_modify (Memory.link base) Memory.Link.forsaken counted)
    show ((Memory.link base).get (Memory.drop base counted)).plain = _
    have hlink : ((Memory.link base).get counted).plain = _ := hs.link
    rw [hget, Memory.Link.eq_of_plain hlink]
    rfl
  · refine (congrArg (fun b : Memory.Backend => b.journal.filter (·.number = base))
      hbackend).trans ?_
    exact hs.calls
  · have hsame : (Memory.drop base counted).closings base number
        = ((Memory.link base).modify Memory.Link.forsaken counted).closings base number :=
      World.closings_still hstill fun _ _ => rfl
    exact hsame
  · exact hstill.same (fun s => s.accounts.released) (fun _ _ => rfl) (fun _ _ _ => rfl)
      fun _ _ => rfl
  · exact (congrArg LeaseState.closed hlease).trans hclosed

/-- **Destroying what is left, and giving the connection back.** -/
lemma release_kept (handles : List StatementHandle)
    (hempty : (connState.cleared base handles).statements = [])
    (hs : ((Memory.pool.lease base number).alone (possession permit base number)).knows
      (.emptied false true, .kept connState) s) :
    ((Memory.pool.lease base number).alone (possession permit base number)).may
      (.emptied false true, .kept connState) s
      (.emptied false false, .returned (connState.cleared base handles))
      ((Memory.pool.lease base number).release
        ((Memory.pool.lease base number).destroyAll handles s)) := by
  let lease : Lease World := Memory.pool.lease base number
  let cleared : World := lease.destroyAll handles s
  have hcleared : (underneath permit base number).may (.kept connState) s
      (.kept (connState.cleared base handles)) cleared := destroyAll_kept handles hs.2
  have hlease : (lease.cell.get cleared).plain = .emptied false true := hcleared.1.trans hs.1
  have hlistening : (lease.cell.get cleared).listening = true :=
    congrArg LeaseState.listening hlease
  let deaf : World := lease.cell.modify (fun state => { state with listening := false }) cleared
  have hstill : Host.Still lease.cell cleared deaf := .modify _ cleared
  have hdeaf : (lease.cell.get deaf).plain = .emptied false false := by
    rw [lease.cell.get_modify, LeaseState.eq_of_plain hlease]
    rfl
  have hback := giveBack_kept (congrArg LeaseState.closed hdeaf) hempty (hcleared.2.1.still hstill)
  have hrelease : lease.release cleared = Memory.giveBack (Memory.connection base) deaf :=
    if_pos hlistening
  have hlast := possession_tolerates.before hcleared.2.1 hstill hback.2
  rw [← hrelease] at hlast
  refine ⟨?_, fun _ => rfl, possession_trans hcleared.2 hlast⟩
  show (lease.cell.get (lease.release cleared)).plain = _
  rw [hrelease]
  exact hback.1.trans hdeaf

end Transactional
