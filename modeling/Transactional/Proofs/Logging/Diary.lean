import Transactional.Proofs.Alike.Run
import Transactional.Proofs.Run.Course
import Transactional.Proofs.Task.Play

/-!
# Diaries

To say which lines of a log are about calls that were refused, somebody has to follow the calls.  A
diary tells, for each call of which there is a line, what has become of it.  It is another log in
memory, and it changes nothing: nobody can tell from anything else whether there is a diary, or a
log.

* `Fate`, `Connection.followed` — what becomes of a call, and a connection with a diary.
* `World.SameSilent` — two worlds that are the same but for logs and reports;
  `World.SameSilent.outside` says that a run does not mind.
* `Connection.Mirrors.logged`, `Connection.Mirrors.followed` — logs and diaries are not noticed.
* `Run.Serves.followed` — a connection with a diary is as good as the lease for a run.
-/

namespace Transactional

/-- **What has become of a call.** -/
inductive Fate where
  | answered
  | refused
  | forsaken
deriving DecidableEq

namespace Fate

def name : Fate → String
  | .answered => "answered"
  | .refused => "refused"
  | .forsaken => "given up"

def entry (line : String) (fate : Fate) : String :=
  fate.name ++ ": " ++ line

def of : Except Fault α → Fate
  | .error .closedConnection => .refused
  | _ => .answered

end Fate

/-- **An attempt that is followed**: it is noted down how it ends, also if it is given up. -/
def Attempt.followed (mark : Fate → σ → σ) (attempt : Attempt σ α) : Attempt σ α :=
  .of ((Task.guarded (mark .forsaken) attempt.run).bind fun r => .act (mark (.of r))
    fun _ => .done r)

/-- **A connection with a diary** of the calls that a log has lines about. -/
def Connection.followed (mark : String → Fate → σ → σ) (inner : Connection σ) : Connection σ :=
  { inner with
    begin := inner.begin.followed (mark "BEGIN")
    commit := inner.commit.followed (mark "COMMIT")
    rollback := inner.rollback.followed (mark "ROLLBACK")
    execute := fun handle bindings =>
      (inner.execute handle bindings).followed (mark (renderStatement handle.sql bindings)) }

namespace Manager

def logging (log : StatementLog) (manager : Manager World) : Manager World :=
  { manager with wrapping := some (Connection.logged log.write) }

/-- Note down in a diary what has become of a call. -/
def jot (diary : Nat) (line : String) (fate : Fate) : World → World :=
  (LogHost.lines diary).modify (· ++ [fate.entry line])

/-- A manager whose connections write a log and a diary. -/
def following (log : StatementLog) (diary : Nat) (manager : Manager World) : Manager World :=
  { manager with
    wrapping := some fun conn => (Connection.logged log.write conn).followed (jot diary) }

end Manager

/-! ## Nobody notices -/

namespace World

def silenced (s : World) : World :=
  { s with traces := [], lines := {}, disk := {} }

/-- **Two worlds that are the same but for logs and reports.** -/
def SameSilent (s s' : World) : Prop :=
  s.silenced = s'.silenced

lemma alike_silent {cell : Cell World τ} (hget : ∀ s : World, cell.get s.silenced = cell.get s)
    (hset : ∀ (v : τ) (s : World), (cell.set v s).silenced = cell.set v s.silenced) :
    cell.Alike SameSilent where
  get {s s'} hs := by rw [← hget s, show s.silenced = s'.silenced from hs, hget]
  set {s s'} v hs := by
    show (cell.set v s).silenced = (cell.set v s').silenced
    rw [hset, hset, show s.silenced = s'.silenced from hs]

lemma schedule_silent : Host.schedule.Alike SameSilent :=
  alike_silent (fun _ => rfl) fun _ _ => rfl

lemma sameSilent_alike : World.Alike SameSilent :=
  { Host.alike_of_schedule schedule_silent fun _ hs => hs with
    backend := alike_silent (fun _ => rfl) fun _ _ => rfl
    accounts := alike_silent (fun _ => rfl) fun _ _ => rfl
    leases := fun _ => alike_silent (fun _ => rfl) fun _ _ => rfl
    leaseCount := alike_silent (fun _ => rfl) fun _ _ => rfl }

namespace SameSilent

variable {s s' : World}

lemma same (h : s'.SameSilent s) (part : World → τ) (hpart : ∀ s, part s.silenced = part s) :
    part s' = part s := by
  rw [← hpart s', ← hpart s, show s'.silenced = s.silenced from h]

lemma linkCount (h : s'.SameSilent s) : s'.backend.linkCount = s.backend.linkCount :=
  h.same (fun s => s.backend.linkCount) fun _ => rfl

lemma leaseCount (h : s'.SameSilent s) : s'.leaseCount = s.leaseCount :=
  h.same World.leaseCount fun _ => rfl

lemma outside {ρ : Type} {base number : Nat} {heard : World → List ρ} (h : s'.SameSilent s)
    (hheard : heard s' = heard s) : Outside base number heard s s' where
  calls := h.same (fun s => s.callsOn base) fun _ => rfl
  status := .inl (h.same (fun s => ((Memory.link base).get s).signal.status) fun _ => rfl)
  alive := h.same (fun s => ((Memory.link base).get s).alive) fun _ => rfl
  lease := h.same (LeaseHost.leases number).get fun _ => rfl
  linkCount := h.linkCount.ge
  leaseCount := h.leaseCount.ge
  due job _ := by simp only [Company.Due, h.same Host.schedule.get fun _ => rfl]
  heard := hheard

end SameSilent

end World

namespace StatementLog

mutual

/-- **A log changes nothing but logs and reports.** -/
theorem silenced_write (line : String) : ∀ (log : StatementLog) (s : World),
    (log.write line s).silenced = s.silenced
  | .memory _, _ => rfl
  | .file path, s => by
    show (writeFile path line s).silenced = _
    unfold writeFile
    split <;> rfl
  | .reports, _ => rfl
  | .several logs, s => silenced_writeAll line logs s

theorem silenced_writeAll (line : String) : ∀ (logs : List StatementLog) (s : World),
    (writeAll line logs s).silenced = s.silenced
  | [], _ => rfl
  | log :: rest, s => (silenced_writeAll line rest _).trans (silenced_write line log s)

end

end StatementLog

namespace Connection.Mirrors

variable {R : σ → σ → Prop} {conn conn' : Connection σ}

/-- **Nobody notices a log.** -/
lemma logged (M : conn.Mirrors R conn') {write : String → σ → σ}
    (hwrite : ∀ line {s s'}, R s s' → R (write line s) s') :
    (Connection.logged write conn).Mirrors R conn' where
  begin := .aside (hwrite _) fun _ => M.begin
  commit := .aside (hwrite _) fun _ => M.commit
  rollback := .aside (hwrite _) fun _ => M.rollback
  prepare := M.prepare
  execute handle bindings := .aside (hwrite _) fun _ => M.execute handle bindings
  destroy := M.destroy
  close := M.close
  drop := M.drop

lemma logging (M : conn.Mirrors R conn') {write : String → σ → σ}
    (hwrite : ∀ line {s s'}, R s s' → R (write line s) (write line s')) :
    (Connection.logged write conn).Mirrors R (Connection.logged write conn') where
  begin := .act (hwrite _) fun _ => M.begin
  commit := .act (hwrite _) fun _ => M.commit
  rollback := .act (hwrite _) fun _ => M.rollback
  prepare := M.prepare
  execute handle bindings := .act (hwrite _) fun _ => M.execute handle bindings
  destroy := M.destroy
  close := M.close
  drop := M.drop

/-- **Nobody notices a diary.** -/
lemma followed (M : conn.Mirrors R conn') {mark : String → Fate → σ → σ}
    (hmark : ∀ line fate {s s'}, R s s' → R (mark line fate s) s') :
    (Connection.followed mark conn).Mirrors R conn' := by
  have hfollowed : ∀ {α : Type} {attempt attempt' : Attempt σ α} (line : String),
      attempt.run.Mirrors R Eq attempt'.run →
      (attempt.followed (mark line)).run.Mirrors R Eq attempt'.run := by
    intro α attempt attempt' line h
    have hguarded : (attempt.run.guarded (mark line .forsaken)).Mirrors R Eq
      (attempt'.run.guarded id) :=
      h.guarded (hmark line .forsaken)
    rw [Task.guarded_id] at hguarded
    have hbound := hguarded.bind (f := fun r => .act (mark line (.of r)) fun _ => .done r)
      (g := .done) fun r r' hr => .aside (hmark _ _) fun _ => .done hr
    rwa [Task.bind_done] at hbound
  exact
    { begin := hfollowed _ M.begin
      commit := hfollowed _ M.commit
      rollback := hfollowed _ M.rollback
      prepare := M.prepare
      execute := fun handle bindings => hfollowed _ (M.execute handle bindings)
      destroy := M.destroy
      close := M.close
      drop := M.drop }

end Connection.Mirrors

/-! ## As good as the lease -/

/-- **A connection with a diary serves** whom the connection serves. -/
lemma Run.Serves.followed {ρ : Type} {asked : Memory.Call → Prop} {base number : Nat}
    {heard : World → List ρ} {conn : Connection World} (h : Serves asked base number heard conn)
    {mark : String → Fate → World → World}
    (hmark : ∀ line fate s, World.Outside base number heard s (mark line fate s)) :
    Serves asked base number heard (Connection.followed mark conn) := by
  have hfollowed : ∀ {α : Type} {attempt : Attempt World α}
    {ends : Except Fault α → Stage × Part ρ → Prop}
      {x : Stage × Part ρ} (line : String),
      attempt.run.Obeys (leaseDiscipline asked base number heard) (fun _ _ => True) ends x →
      (attempt.followed (mark line)).run.Obeys (leaseDiscipline asked base number heard)
        (fun _ _ => True) ends x := by
    intro α attempt ends x line hattempt
    refine (Task.Obeys.guarded hattempt).bind fun r q hq s hs => ?_
    exact ⟨q, may_outside hs (hmark _ _ s), hq⟩
  exact
    { begin := fun hplace hprompt => hfollowed _ (h.begin hplace hprompt)
      commit := fun hplace hprompt => hfollowed _ (h.commit hplace hprompt)
      rollback := fun hplace hprompt => hfollowed _ (h.rollback hplace hprompt)
      prepare := h.prepare
      execute := fun {b} handle bindings hexecute x hx => by
        have hgone : ∀ y f, Cut asked base number heard b y f →
            Cut asked base number heard b y fun s =>
              mark (renderStatement handle.sql bindings) .forsaken (f s) := by
          intro y f hleaves s hs
          obtain ⟨z, hmay, hz⟩ := hleaves s hs
          exact ⟨z, may_then_outside hmay (hmark _ _ _), hz⟩
        refine (Task.Obeys.guarded ((h.execute handle bindings hexecute x hx).mono hgone fun _ _ =>
          id)).bind ?_
        exact fun r q hq s hs => ⟨q, may_outside hs (hmark _ _ s), hq⟩
      destroy := h.destroy
      close := h.close
      drop := h.drop }

end Transactional
