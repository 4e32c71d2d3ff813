import Transactional.Proofs.Isolation.Confined
import Transactional.Proofs.Lease.Alone

/-!
# What a run knows of its connection

Nobody else touches the connection of a run, so the run knows exactly which statements are prepared
on it and which calls have been made, and what comes of the next call.  That does not depend on
which connection it is, but for the fault of a statement that is not prepared, which names the
connection.  The one exception is the id that an insert without a script is given: it comes from a
counter that all connections share.

* `RunState` — what a run has on its connection, whichever it is.
* `Reply` — what comes of something, whichever connection it is done on.
* `Knowledge`, `knowledge` — how much a run knows, and the discipline of knowing it.
* `knowledge_tolerates` — that is not affected by the lease.
-/

namespace Transactional

namespace Memory

def Call.onto (number : Nat) : Call → Call
  | .connect _ => .connect number
  | .begin _ => .begin number
  | .commit _ => .commit number
  | .rollback _ => .rollback number
  | .prepare _ sql => .prepare number sql
  | .execute _ sql bindings => .execute number sql bindings
  | .destroy _ sql => .destroy number sql
  | .close _ => .close number

@[simp] lemma Call.onto_onto (m n : Nat) (call : Call) : (call.onto m).onto n = call.onto n := by
  cases call <;> rfl

lemma Call.onto_number (call : Call) : call.onto call.number = call := by
  cases call <;> rfl

/-- What the backend says of a call that is told to fail, or not to. -/
def verdict : Option String → Except Fault Unit
  | some message => .error (.connection message)
  | none => .ok ()

/-- **What a statement produces**, unless it takes an id from the counter. -/
def scripted? (responses : List (String × Except String Outcome)) (sql : String)
    (kind : StatementKind) : Option (Except Fault Outcome) :=
  match responses.find? (·.1 == sql) with
  | some (_, .ok outcome) => some (.ok outcome)
  | some (_, .error message) => some (.error (.execution message))
  | none =>
      match kind with
      | .select => some (.ok (.rows {}))
      | .insert => none
      | .update | .delete | .other => some (.ok (.affected 1))

lemma answer_of_scripted {backend : Backend} {sql : String} {kind : StatementKind}
    {outcome : Except Fault Outcome} (h : scripted? backend.responses sql kind = some outcome) :
    backend.answer sql kind = (outcome, backend) := by
  unfold scripted? at h
  unfold Backend.answer
  cases hfind : backend.responses.find? (·.1 == sql) with
  | none =>
    simp only [hfind] at h ⊢
    cases kind <;> simp at h <;> subst h <;> rfl
  | some found =>
    obtain ⟨found, outcome | message⟩ := found <;> simp only [hfind] at h ⊢ <;>
      rw [Option.some.inj h]

lemma answer_of_unscripted {backend : Backend} {sql : String} {kind : StatementKind}
    (h : scripted? backend.responses sql kind = none) :
    (backend.answer sql kind).2 = { backend with lastInsertId := backend.lastInsertId + 1 } := by
  unfold scripted? at h
  unfold Backend.answer
  cases hfind : backend.responses.find? (·.1 == sql) with
  | none =>
    simp only [hfind] at h ⊢
    cases kind <;> simp at h
    rfl
  | some found =>
    obtain ⟨found, outcome | message⟩ := found <;> simp only [hfind, reduceCtorEq] at h

/-- The fault of a statement that is not prepared on a connection. -/
def notPrepared (id : UInt64) (number : Nat) : Fault :=
  .execution ("statement " ++ Text.natural id.toNat
    ++ " is not prepared on connection " ++ Text.natural number)

end Memory

/-- **What comes of something**, whichever connection it is done on: that shows only in the fault of
a statement that is not prepared. -/
inductive Reply (α : Type) where
  | same (a : α)
  /-- What is made of the fault of a statement that is not prepared. -/
  | unprepared (fail : Fault → α) (id : UInt64)

namespace Reply

def on (number : Nat) : Reply α → α
  | .same a => a
  | .unprepared fail id => fail (Memory.notPrepared id number)

def map (f : α → β) : Reply α → Reply β
  | .same a => .same (f a)
  | .unprepared fail id => .unprepared (f ∘ fail) id

@[simp] lemma on_map (f : α → β) (number : Nat) (reply : Reply α) :
    (reply.map f).on number = f (reply.on number) := by
  cases reply <;> rfl

/-- What is made of the fault of a statement that is not prepared is one of those things. -/
def Fails (made : (Fault → α) → Prop) : Reply α → Prop
  | .same _ => True
  | .unprepared fail _ => made fail

/-- Nothing is made of it but the end of an attempt. -/
def Plain (reply : Reply (Except Fault α)) : Prop :=
  reply.Fails (· = .error)

end Reply

/-- **What a run has on its connection**, and what it has published.  The calls are those on
connection zero. -/
structure RunState (ρ : Type) where
  statements : List UInt64 := []
  next : UInt64 := 1
  calls : List Memory.Call := []
  told : List ρ := []

namespace RunState

variable {ρ : Type}

/-- What the backend knows of the connection. -/
def link (runState : RunState ρ) : Memory.Link where
  statements := runState.statements
  nextStatement := runState.next
  hasPermit := true

def call (call : Memory.Call) (runState : RunState ρ) : RunState ρ :=
  { runState with calls := runState.calls ++ [call.onto 0] }

def prepared (sql : String) (runState : RunState ρ) : RunState ρ :=
  { runState.call (.prepare 0 sql) with
    statements := runState.statements ++ [runState.next]
    next := runState.next + 1 }

/-- **What comes of executing a statement**, unless that takes an id from the counter. -/
def reply? (responses : List (String × Except String Outcome)) (handle : StatementHandle)
    (runState : RunState ρ) : Option (Reply (Except Fault Outcome)) :=
  if runState.statements.contains handle.id then
    (Memory.scripted? responses handle.sql handle.kind).map .same
  else some (.unprepared .error handle.id)

lemma plain_of_reply? {responses : List (String × Except String Outcome)}
    {handle : StatementHandle} {reply : Reply (Except Fault Outcome)} (runState : RunState ρ)
    (h : runState.reply? responses handle = some reply) : reply.Plain := by
  unfold reply? at h
  split at h
  · obtain ⟨outcome, -, rfl⟩ := Option.map_eq_some_iff.mp h
    trivial
  · obtain rfl := Option.some.inj h
    rfl

/-- A statement is destroyed, if it is alive. -/
def destroyed (handle : StatementHandle) (runState : RunState ρ) : RunState ρ :=
  if runState.statements.contains handle.id then
    { runState.call (.destroy 0 handle.sql) with
      statements := runState.statements.filter (· != handle.id) }
  else runState

/-- Statements are destroyed, one after the other. -/
def cleared (handles : List StatementHandle) (runState : RunState ρ) : RunState ρ :=
  handles.foldl (fun runState handle => runState.destroyed handle) runState

def telling (more : List ρ) (runState : RunState ρ) : RunState ρ :=
  { runState with told := runState.told ++ more }

lemma calls_call {call : Memory.Call} (runState : RunState ρ) :
    (runState.call call).calls.map (Memory.Call.onto call.number)
      = runState.calls.map (Memory.Call.onto call.number) ++ [call] := by
  rw [RunState.call, List.map_append, List.map_singleton, Memory.Call.onto_onto,
    Memory.Call.onto_number]

end RunState

/-- **How much a run knows of its connection.** -/
inductive Knowledge (ρ ψ : Type) where
  | informed (runState : RunState ρ) (e : ψ)
  | left (runState : RunState ρ) (e : ψ)
  | unsure

/-- **What the futures of a run do is nobody else's business**: they change other parts of the world
than the pool does, and publish nothing. -/
structure Discipline.Discreet (E : Discipline World ψ) (heard : World → List ρ) : Prop
    extends E.Private where
  unheard : World.Unheard heard
  may : ∀ {e s e' s'}, E.may e s e' s' →
    World.Elsewhere s s' ∧ E.knows e' s' ∧ heard s' = heard s

/-- **What a run can rely on at any time**: the scripts and the failures, that the manager is open,
and what its futures rely on. -/
structure Outlook.Steady (responses : List (String × Except String Outcome))
    (failures : Memory.Failures) (e : ψ) (o : Outlook ψ) : Prop where
  responses : o.responses = responses
  failures : o.failures = failures
  unclosed : o.managerClosed = false
  relied : o.relied e

/-- **A run sees no change but on its connection and its lease.** -/
structure World.Quiet (E : Discipline World ψ) (number : Nat) (s s' : World) : Prop where
  linkCount : (s'.outlook E).linkCount = (s.outlook E).linkCount
  leaseCount : (s'.outlook E).leaseCount = (s.outlook E).leaseCount
  leases : ∀ l, l ≠ number → (s'.outlook E).leases l = (s.outlook E).leases l
  due : (s'.outlook E).due = (s.outlook E).due

/-- **What a run is set off with**: the discipline of its futures, what has been published, what
statements produce, and the failures that have been injected; and what is settled about the runs
beside it, which is what all futures wait for, and whether those runs may be given up. -/
structure Setting (ρ ψ : Type) where
  futures : Discipline World ψ
  heard : World → List ρ
  responses : List (String × Except String Outcome) := []
  failures : Memory.Failures := {}
  awaited : (World → Bool) → Prop := fun _ => True
  optional : Bool := true

/-- **On which terms a run goes on.** -/
structure Terms (ρ ψ : Type) extends Setting ρ ψ where
  draws : Bool

section

variable {ψ ρ : Type} (S : Terms ρ ψ)

/-- **What a run knows from then on**: what it can rely on, that nobody is refused a permit, and its
calls. -/
structure RunState.Known (base : Nat) (runState : RunState ρ) (e : ψ) (s : World) : Prop where
  steady : (s.outlook S.futures).Steady S.responses S.failures e
  unshut : s.accounts.permits.shut = false
  calls : (s.outlook S.futures).calls base = runState.calls.map (Memory.Call.onto base)

namespace Knowledge

/-- Whether a run has let go of its connection. -/
def gone : Knowledge ρ ψ → Bool
  | .left _ _ => true
  | _ => false

def told : Knowledge ρ ψ → List ρ
  | .informed runState _ | .left runState _ => runState.told
  | .unsure => []

def Knows (base : Nat) : Knowledge ρ ψ → World → Prop
  | .informed runState e, s => runState.Known S base e s
      ∧ ((s.outlook S.futures).links base).plain = runState.link
  | .left runState e, s => runState.Known S base e s
  | .unsure, _ => False

/-- What a run knows after a change of its own, and what it has published by it; or it has taken an
id from the counter. -/
def Knowing (base : Nat) (k : Knowledge ρ ψ) (s : World) (k' : Knowledge ρ ψ) (s' : World) : Prop :=
  S.draws = true ∧ k' = .unsure ∧ s'.backend.lastInsertId ≠ s.backend.lastInsertId
    ∨ k'.Knows S base s'
      ∧ s'.backend.lastInsertId = s.backend.lastInsertId
      ∧ ∃ more, S.heard s' = S.heard s ++ more ∧ k'.told = k.told ++ more

/-- What a run may wait for: its next turn, and what its futures wait for. -/
def Waits : Knowledge ρ ψ → (World → Bool) → Prop
  | .informed _ e, ready => ready = (Task.pause : Wait World).ready ∨ S.futures.waits e ready
  | .left _ _, ready => ready = (Task.pause : Wait World).ready
  | .unsure, _ => True

end Knowledge

/-- **The discipline of knowing one's connection**, and of letting go of it only when the lease has
been closed. -/
def knowledge (base number : Nat) : Discipline World (Knowledge ρ ψ) where
  knows := Knowledge.Knows S base
  may k s k' s' := World.Quiet S.futures number s s' ∧ Knowledge.Knowing S base k s k' s'
    ∧ (k'.gone = true → k.gone = true ∨ ((s'.outlook S.futures).leases number).closed = true)
  waits := Knowledge.Waits S

end

variable {ψ ρ : Type} {S : Terms ρ ψ} {E : Discipline World ψ} {heard : World → List ρ}
  {responses : List (String × Except String Outcome)} {failures : Memory.Failures}
  {b n : Nat} {s s' s'' : World} {runState runState' : RunState ρ} {e : ψ}
    {k k' k'' : Knowledge ρ ψ}

lemma Outlook.Touched.steady {base number : Option Nat} {o o' : Outlook ψ}
    (h : o.Touched base number o') (hs : o.Steady responses failures e) :
    o'.Steady responses failures e :=
  ⟨h.responses.trans hs.responses, h.failures.trans hs.failures,
    h.managerClosed.trans hs.unclosed, h.relied e hs.relied⟩

namespace World.Quiet

lemma refl (s : World) : Quiet E n s s := ⟨rfl, rfl, fun _ _ => rfl, rfl⟩

lemma trans (h : Quiet E n s s') (h' : Quiet E n s' s'') : Quiet E n s s'' :=
  ⟨h'.linkCount.trans h.linkCount, h'.leaseCount.trans h.leaseCount,
    fun l hl => (h'.leases l hl).trans (h.leases l hl), h'.due.trans h.due⟩

lemma lease (hE : E.Private) (h : Host.Still (LeaseHost.leases n) s s') : Quiet E n s s' := by
  have houtlook := outlook_lease hE h
  refine ⟨?_, ?_, fun l hl => ?_, ?_⟩ <;> rw [houtlook]
  exact Function.update_of_ne hl _ _

end World.Quiet

lemma World.Unheard.still (hheard : World.Unheard heard)
    (h : Host.Still (LeaseHost.leases n) s s') : heard s' = heard s :=
  h.same heard (fun v s => hheard.leases n v s) (fun c s _ => hheard.schedule c s) hheard.traces

lemma Knowledge.Knows.still (hS : S.futures.Private) (h : Host.Still (LeaseHost.leases n) s s')
    (hs : k.Knows S b s) : k.Knows S b s' := by
  have houtlook := World.outlook_lease hS h
  have hshut : s'.accounts.permits.shut = s.accounts.permits.shut :=
    h.same (fun s => s.accounts.permits.shut) (fun _ _ => rfl) (fun _ _ _ => rfl) fun _ _ => rfl
  have hknown : ∀ {runState : RunState ρ} {e : ψ}, runState.Known S b e s →
      runState.Known S b e s' := by
    intro runState e hs
    refine ⟨?_, hshut.trans hs.unshut, ?_⟩ <;> rw [houtlook]
    · exact ⟨hs.steady.responses, hs.steady.failures, hs.steady.unclosed, hs.steady.relied⟩
    · exact hs.calls
  cases k with
  | informed runState e =>
    refine ⟨hknown hs.1, ?_⟩
    rw [houtlook]
    exact hs.2
  | left runState e => exact hknown hs
  | unsure => exact hs

/-- **The lease makes no difference** to what a run knows of its connection. -/
lemma knowledge_tolerates (hS : S.futures.Discreet S.heard) :
    (Memory.pool.lease b n).Tolerates (knowledge S b n) where
  still {k s s'} hs h := by
    refine ⟨.lease hS.toPrivate h, .inr ⟨hs.still hS.toPrivate h, ?_, [], ?_⟩, .inl⟩
    · exact h.same (fun s => s.backend.lastInsertId) (fun _ _ => rfl) (fun _ _ _ => rfl)
        fun _ _ => rfl
    · exact ⟨(hS.unheard.still h).trans (List.append_nil _).symm, (List.append_nil _).symm⟩
  keeps hs h := hs.still hS.toPrivate h
  before {k s m k' s'} hs h hmay := by
    have hid : m.backend.lastInsertId = s.backend.lastInsertId :=
      h.same (fun s => s.backend.lastInsertId) (fun _ _ => rfl) (fun _ _ _ => rfl) fun _ _ => rfl
    refine ⟨(World.Quiet.lease hS.toPrivate h).trans hmay.1, ?_, hmay.2.2⟩
    have hknowing := hmay.2.1
    rw [Knowledge.Knowing, hid, hS.unheard.still h] at hknowing
    exact hknowing
  pause k := by
    cases k with
    | informed runState e => exact .inl rfl
    | left runState e => rfl
    | unsure => trivial

lemma Knowledge.Knowing.trans (h : Knowing S b k s (.informed runState e) s')
    (h' : Knowing S b (.informed runState e) s' k' s'') : Knowing S b k s k' s'' := by
  obtain ⟨-, hid, more, hheard, htold⟩ := h.resolve_left (by simp)
  rcases h' with ⟨hdraws, hunsure, hid'⟩ | ⟨hknows, hid', more', hheard', htold'⟩
  · exact .inl ⟨hdraws, hunsure, hid ▸ hid'⟩
  · refine .inr ⟨hknows, hid'.trans hid, more ++ more', ?_, ?_⟩
    · rw [hheard', hheard, List.append_assoc]
    · rw [htold', htold, List.append_assoc]

lemma knowledge_trans (h : (knowledge S b n).may k s (.informed runState e) s')
    (h' : (knowledge S b n).may (.informed runState e) s' k' s'') :
    (knowledge S b n).may k s k' s'' :=
  ⟨h.1.trans h'.1, h.2.1.trans h'.2.1,
    fun hgone => .inr ((h'.2.2 hgone).resolve_left (by simp [Knowledge.gone]))⟩

lemma knows_of_may (h : (knowledge S b n).may k s (.informed runState e) s') :
    (Knowledge.informed runState e).Knows S b s' :=
  (h.2.1.resolve_left (by simp)).1

end Transactional
