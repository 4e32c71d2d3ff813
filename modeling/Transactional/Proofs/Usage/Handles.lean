import Transactional.Proofs.Engine.Kept
import Transactional.Proofs.Isolation.RunState
import Transactional.Proofs.Memory.Work
import Transactional.Proofs.Usage.Record

/-!
# Whose handle it is

A handle carries the number that a connection gave to a statement, and every connection counts its
statements from the same number.  A connection looks at the number alone.  So, over any history of
calls on any number of connections, a handle is let through exactly if its number is in force on the
connection: a prepare on that very connection has returned some handle of that number, and since
then none of that number has been destroyed on it, nor has it been closed.  Whether it is the same
handle, nobody asks.

* `Issuer`, `Memory.issuer`, `Engine.issuer` — connections that give out handles.
* `Incident`, `History` — what happens on them.
* `Issued`, `InForce` — a handle that a connection has returned, and a number that is in force.
* `History.live_iff` — a connection keeps the numbers that are in force.
* `execute_goes_by_number` — what becomes of a handle.
* `another_handle_runs` — a handle of another connection is let through.
-/

namespace Transactional

/-! ## Incidents -/

namespace Answered

def numbers : Answered → List UInt64 → List UInt64
  | ⟨.prepare _ _, .ok handle⟩, before => before ++ [handle.id]
  | ⟨.destroy handle, _⟩, before => before.filter (· != handle.id)
  | _, before => before

lemma mem_numbers (x : Answered) {before : List UInt64} {id : UInt64} :
    id ∈ x.numbers before
      ↔ (∃ handle, x.prepared? = some handle ∧ handle.id = id) ∨ id ∈ before ∧ x.destroys id
        = false := by
  obtain ⟨use, answer⟩ := x
  cases use with
  | prepare sql kind =>
    cases answer with
    | error fault => simp [numbers, prepared?, destroys]
    | ok handle => simp [numbers, prepared?, destroys, or_comm, eq_comm]
  | destroy handle =>
    have hne : (id != handle.id) = !(handle.id == id) := by rw [bne, Bool.beq_comm]
    simp only [numbers, prepared?, destroys, List.mem_filter, hne, Bool.not_eq_true']
    simp
  | _ => simp [numbers, prepared?, destroys]

end Answered

/-- **Something that happens on one of several connections**, which goes by its number. -/
inductive Incident where
  | used (number : Nat) (answered : Answered)
  | closed (number : Nat)

namespace Incident

/-- The handle that a connection has returned. -/
def issued? (number : Nat) : Incident → Option StatementHandle
  | .used n x => if n = number then x.prepared? else none
  | .closed _ => none

/-- Whether the handles of a number are void on a connection from then on. -/
def revokes (number : Nat) (id : UInt64) : Incident → Bool
  | .used n x => n = number && x.destroys id
  | .closed n => n = number

/-- The numbers that are alive on a connection afterwards. -/
def numbers (number : Nat) (before : List UInt64) : Incident → List UInt64
  | .used n x => if n = number then x.numbers before else before
  | .closed n => if n = number then [] else before

/-- **A number is alive** if it has just been given out, or was alive and has not been revoked. -/
lemma mem_numbers {number : Nat} {before : List UInt64} {id : UInt64} (incident : Incident) :
    id ∈ incident.numbers number before
      ↔ (∃ handle, incident.issued? number = some handle ∧ handle.id = id)
        ∨ id ∈ before ∧ incident.revokes number id = false := by
  cases incident with
  | closed n => by_cases h : n = number <;> simp [numbers, issued?, revokes, h]
  | used n x =>
    by_cases h : n = number
    · simpa [numbers, issued?, revokes, h] using x.mem_numbers
    · simp [numbers, issued?, revokes, h]

/-- A use that neither gives out a number nor takes one back makes no difference. -/
lemma numbers_same {x : Answered} (hx : ∀ before, x.numbers before = before) (number m : Nat)
    (before : List UInt64) : (Incident.used number x).numbers m before = before := by
  rw [numbers, hx, ite_self]

end Incident

/-- **A handle that is still good**: a connection has returned it, and since then neither has a
statement of its number been destroyed there nor has the connection been closed. -/
def Issued (number : Nat) (handle : StatementHandle) (incidents : List Incident) : Prop :=
  ∃ before incident after, incidents = before ++ incident :: after ∧ incident.issued? number
    = some handle
    ∧ ∀ e ∈ after, e.revokes number handle.id = false

/-- **A number that is in force on a connection**: some handle of that number is still good there.
-/
def InForce (number : Nat) (id : UInt64) (incidents : List Incident) : Prop :=
  ∃ handle, Issued number handle incidents ∧ handle.id = id

variable {number : Nat} {handle : StatementHandle} {id : UInt64} {incidents : List Incident}
  {incident : Incident}

lemma not_inForce_nil : ¬InForce number id [] := by
  rintro ⟨handle, ⟨before, incident, after, hincidents, -⟩, -⟩
  exact List.append_ne_nil_of_right_ne_nil before (List.cons_ne_nil incident after) hincidents.symm

lemma issued_concat :
    Issued number handle (incidents ++ [incident])
      ↔ incident.issued? number = some handle
        ∨ Issued number handle incidents ∧ incident.revokes number handle.id = false := by
  constructor
  · rintro ⟨before, e, after, hincidents, hissued, hafter⟩
    rcases List.eq_nil_or_concat after with rfl | ⟨after, last, rfl⟩
    · obtain ⟨-, heq⟩ := List.append_inj' hincidents rfl
      obtain rfl := (List.cons.inj heq).1
      exact .inl hissued
    · rw [List.concat_eq_append, ← List.cons_append, ← List.append_assoc] at hincidents
      obtain ⟨rfl, heq⟩ := List.append_inj' hincidents rfl
      obtain rfl := (List.cons.inj heq).1
      exact .inr ⟨⟨before, e, after, rfl, hissued, fun x hx => hafter x (by simp [hx])⟩,
        hafter incident (by simp)⟩
  · rintro (hissued | ⟨⟨before, e, after, rfl, hissued, hafter⟩, hrevokes⟩)
    · exact ⟨incidents, incident, [], rfl, hissued, nofun⟩
    · refine ⟨before, e, after ++ [incident], by simp, hissued, ?_⟩
      simpa [or_imp, forall_and] using ⟨hafter, hrevokes⟩

lemma inForce_concat :
    InForce number id (incidents ++ [incident])
      ↔ (∃ handle, incident.issued? number = some handle ∧ handle.id = id)
        ∨ InForce number id incidents ∧ incident.revokes number id = false := by
  simp only [InForce, issued_concat]
  constructor
  · rintro ⟨handle, hissued | ⟨hissued, hrevokes⟩, rfl⟩
    exacts [.inl ⟨handle, hissued, rfl⟩, .inr ⟨⟨handle, hissued, rfl⟩, hrevokes⟩]
  · rintro (⟨handle, hissued, rfl⟩ | ⟨⟨handle, hissued, rfl⟩, hrevokes⟩)
    exacts [⟨handle, .inl hissued, rfl⟩, ⟨handle, .inr ⟨hissued, hrevokes⟩, rfl⟩]

/-! ## Histories -/

/-- **Connections that give out handles**, and which numbers each of them keeps: nothing but a use
of a connection or its end makes a difference to that, and to none but its own. -/
structure Issuer where
  connection : Nat → Connection World
  live : Nat → World → List UInt64
  /-- A use never waits, and changes the numbers of its own connection. -/
  use : ∀ (n : Nat) (use : Use) (self : TaskId) (s : World), ∃ answer s',
    (use.on (connection n)).poll self s = (.done answer, s')
      ∧ ∀ m, live m s' = (Incident.used n ⟨use, answer⟩).numbers m (live m s)
  /-- Closing a connection never waits, and leaves no number on it. -/
  close : ∀ (n : Nat) (self : TaskId) (s : World), ∃ s',
    (connection n).close.poll self s = (.done (), s')
      ∧ ∀ m, live m s' = (Incident.closed n).numbers m (live m s)

/-- **What has happened on connections** that at first have no statements.  In between anything may
happen that makes no difference to their statements. -/
inductive History (issuer : Issuer) : List Incident → World → Prop where
  | start {s : World} (fresh : ∀ n, issuer.live n s = []) : History issuer [] s
  | used {incidents : List Incident} {s s' : World} {n : Nat} {use : Use} {self : TaskId}
      {answer : use.Answer}
      (before : History issuer incidents s)
      (happens : (use.on (issuer.connection n)).poll self s = (.done answer, s')) :
      History issuer (incidents ++ [.used n ⟨use, answer⟩]) s'
  | closed {incidents : List Incident} {s s' : World} {n : Nat} {self : TaskId}
      (before : History issuer incidents s)
      (happens : (issuer.connection n).close.poll self s = (.done (), s')) :
      History issuer (incidents ++ [.closed n]) s'
  | around {incidents : List Incident} {s s' : World} (before : History issuer incidents s)
      (same : ∀ n, issuer.live n s' = issuer.live n s) : History issuer incidents s'

lemma History.prepared {issuer : Issuer} {s : World} {answer : Except Fault StatementHandle}
    (h : History issuer incidents s) (n : Nat) (sql : String) (kind : StatementKind) (self : TaskId)
    (hanswer : (((issuer.connection n).prepare sql kind).run.poll self s).1 = .done answer) :
    History issuer (incidents ++ [.used n ⟨.prepare sql kind, answer⟩])
      (((issuer.connection n).prepare sql kind).run.poll self s).2 :=
  .used h (Prod.ext hanswer rfl)

/-- **A connection keeps the numbers that are in force.** -/
theorem History.live_iff {issuer : Issuer} {s : World} (h : History issuer incidents s) :
    id ∈ issuer.live number s ↔ InForce number id incidents := by
  induction h with
  | start fresh => simp [fresh number, not_inForce_nil]
  | around before same ih => rw [same, ih]
  | @used incidents s s' n use self answer before happens ih =>
    obtain ⟨answer', s'', hpoll, hlive⟩ := issuer.use n use self s
    obtain ⟨hanswer, rfl⟩ := Prod.mk.inj (hpoll.symm.trans happens)
    obtain rfl := Task.done.inj hanswer
    rw [hlive, Incident.mem_numbers, ih, inForce_concat]
  | @closed incidents s s' n self before happens ih =>
    obtain ⟨s'', hpoll, hlive⟩ := issuer.close n self s
    obtain ⟨-, rfl⟩ := Prod.mk.inj (hpoll.symm.trans happens)
    rw [hlive, Incident.mem_numbers, ih, inForce_concat]

/-! ## The two backends -/

lemma Host.Still.finishAt [Host σ] {cell : Cell σ Signal} (status : Status) (s : σ) :
    Host.Still cell s (Signal.finishAt cell status s) := by
  unfold Signal.finishAt
  dsimp only
  split
  · exact (Host.Still.set _ s).trans (.wakeAll _ _)
  · exact .refl s

namespace Memory

variable {s : World} {number : Nat}

/-- The numbers of the statements that are alive on a connection. -/
def live (number : Nat) (s : World) : List UInt64 :=
  ((link number).get s).statements

lemma live_modify (f : Link → Link) (number m : Nat) (s : World) :
    live m ((link number).modify f s)
      = if number = m then (f ((link number).get s)).statements else live m s := by
  unfold live
  rw [link_get_modify]
  by_cases h : m = number
  · rw [if_pos h, if_pos h.symm, h]
  · rw [if_neg h, if_neg (Ne.symm h)]

/-- A connection that is opened under a number without statements has none. -/
lemma live_newLink (permit : Bool) (hnone : live (s.backend.linkCount + 1) s = []) (m : Nat) :
    live m (newLink permit s).2 = live m s := by
  let counted : World :=
    { s with backend := { s.backend with linkCount := s.backend.linkCount + 1 } }
  have hopened : (newLink permit s).2
      = (link (s.backend.linkCount + 1)).modify (fun _ => { hasPermit := permit }) counted := rfl
  rw [hopened, live_modify]
  split
  next h => exact (h ▸ hnone).symm
  next => rfl

/-- **What becomes of a call**: it is noted down, and answered unless the connection has ended. -/
lemma answering_poll (call : Call) (answer : World → Except Fault α × World) (self : TaskId) :
    (answering number call answer).run.poll self s
      = if ((link number).get s).signal.status.isTerminal then (.done (.error (hasEnded number)),
        note call s)
        else (.done (answer (note call s)).1, (answer (note call s)).2) := by
  show (Task.done (if ((link number).get s).signal.status.isTerminal then _ else _ : Except Fault α
    × World).1,
    (if ((link number).get s).signal.status.isTerminal then _ else _ : Except Fault α
      × World).2) = _
  split <;> rfl

lemma live_plainCall (call : Call) (pick : Failures → Option String) (self : TaskId) (s : World) :
    ∃ answer s', (plainCall number call pick : Attempt World Unit).run.poll self s
      = (.done answer, s')
      ∧ ∀ m, live m s' = live m s := by
  unfold plainCall
  rw [answering_poll]
  split
  · exact ⟨_, _, rfl, fun _ => rfl⟩
  · split <;> exact ⟨_, _, rfl, fun _ => rfl⟩

lemma live_prepare (sql : String) (kind : StatementKind) (self : TaskId) (s : World) :
    ∃ answer s', (prepare number sql kind : Attempt World _).run.poll self s = (.done answer, s')
      ∧ ∀ m, live m s' = (Incident.used number ⟨.prepare sql kind, answer⟩).numbers m
        (live m s) := by
  unfold prepare
  rw [answering_poll]
  split
  · exact ⟨_, _, rfl, fun m => (Incident.numbers_same (fun _ => rfl) number m _).symm⟩
  · refine ⟨_, _, rfl, fun m => ?_⟩
    rw [live_modify, Incident.numbers]
    split
    next h => subst h; rfl
    next => rfl

/-- **Executing a statement**: it is answered if its number is alive on the connection. -/
lemma execute_poll (handle : StatementHandle) (bindings : List Scalar) (self : TaskId)
    (s noted : World)
    (hnoted : noted = note (.execute number handle.sql bindings) s) :
    (execute number handle bindings).run.poll self s
      = if ((link number).get s).signal.status.isTerminal then
        (.done (.error (hasEnded number)), noted)
        else if handle.id ∈ live number s then
          (.done (noted.backend.answer handle.sql handle.kind).1,
            { noted with backend := (noted.backend.answer handle.sql handle.kind).2 })
        else (.done (.error (notPrepared handle.id number)), noted) := by
  subst hnoted
  rw [execute, answering_poll]
  have hknown : ((link number).get (note (.execute number handle.sql bindings)
    s)).statements.contains
      handle.id = true ↔ handle.id ∈ live number s := List.contains_iff_mem
  simp only [hknown]
  congr 1
  split <;> rfl

lemma live_execute (handle : StatementHandle) (bindings : List Scalar) (self : TaskId) (s : World) :
    ∃ answer s', (execute number handle bindings : Attempt World _).run.poll self s
      = (.done answer, s')
      ∧ ∀ m, live m s' = live m s := by
  rw [execute_poll handle bindings self s _ rfl]
  split
  · exact ⟨_, _, rfl, fun _ => rfl⟩
  · split
    · refine ⟨_, _, rfl, fun m => ?_⟩
      obtain ⟨id, hid⟩ := answer_backend handle.sql handle.kind
        (note (.execute number handle.sql bindings) s).backend
      have hlinks := congrArg (fun b : Backend => (b.links.get m).statements) hid
      exact hlinks
    · exact ⟨_, _, rfl, fun _ => rfl⟩

lemma live_destroy (handle : StatementHandle) (s : World) (m : Nat) :
    live m (destroy number handle s)
      = (Incident.used number ⟨.destroy handle, ()⟩).numbers m (live m s) := by
  rw [destroy, Incident.numbers]
  split
  · refine (live_modify (fun l => { l with statements := l.statements.filter (· != handle.id) })
      number m
      s).trans ?_
    split
    next h => subst h; rfl
    next => rfl
  next hnot =>
    split
    next h =>
      subst h
      refine (List.filter_eq_self.mpr fun id hid => bne_iff_ne.mpr ?_).symm
      rintro rfl
      exact hnot (List.contains_iff_mem.mpr hid)
    next => rfl

lemma live_close (self : TaskId) (s : World) :
    ∃ s', (close number : Task World Unit).poll self s = (.done (), s')
      ∧ ∀ m, live m s' = (Incident.closed number).numbers m (live m s) := by
  refine ⟨_, rfl, fun m => ?_⟩
  refine ((Host.Still.finishAt .closed _).same (live m) (fun g s => ?_) (fun _ _ _ => rfl)
    fun _ _ => rfl).trans ?_
  · unfold live
    rw [link_get_signal]
    split <;> rfl
  · exact live_modify (fun l => { l with statements := [] }) number m (note (.close number) s)

/-- **The connections to the scripted backend** give out handles. -/
def issuer : Issuer where
  connection := connection
  live := live
  use n use self s := by
    cases use with
    | connect | begin | commit | rollback =>
      obtain ⟨answer, s', hpoll, hlive⟩ := @live_plainCall n _ _ self s
      exact ⟨answer, s', hpoll, fun m => (hlive m).trans
        (Incident.numbers_same (fun _ => rfl) n m _).symm⟩
    | prepare sql kind => exact live_prepare sql kind self s
    | execute handle bindings =>
      obtain ⟨answer, s', hpoll, hlive⟩ := @live_execute n handle bindings self s
      exact ⟨answer, s', hpoll, fun m => (hlive m).trans
        (Incident.numbers_same (fun _ => rfl) n m _).symm⟩
    | destroy handle => exact ⟨(), _, rfl, live_destroy handle s⟩
  close n self s := live_close self s

end Memory

namespace Engine

variable {s : World} {number : Nat}

/-- The numbers of the statements that are alive on a connection. -/
def live (number : Nat) (s : World) : List UInt64 :=
  ((link number).get s).statements

lemma link_get_set (l : Link) (number m : Nat) (s : World) :
    (link m).get ((link number).set l s) = if m = number then l else (link m).get s := by
  by_cases h : m = number
  · rw [if_pos h, h, Cell.get_set]
  · rw [if_neg h]
    exact Table.get_put_of_ne h _ _

lemma live_set (l : Link) (number m : Nat) (s : World) :
    live m ((link number).set l s) = if number = m then l.statements else live m s := by
  unfold live
  rw [link_get_set]
  by_cases h : m = number
  · rw [if_pos h, if_pos h.symm]
  · rw [if_neg h, if_neg (Ne.symm h)]

/-- **What becomes of a call** on a connection: nothing at all if it has ended. -/
lemma onOpen_eq (f : Link → Except Fault α × Link) (s : World) :
    onOpen number f s
      = if ((link number).get s).isTerminated then (.error closedFault, s)
        else ((f ((link number).get s)).1, (link number).set (f ((link number).get s)).2 s) := rfl

lemma live_onOpen {f : Link → Except Fault α × Link} (hf : ∀ l, (f l).2.statements = l.statements)
    (m : Nat) (s : World) : live m (onOpen number f s).2 = live m s := by
  rw [onOpen_eq]
  split
  · rfl
  · rw [live_set, hf]
    split
    next h => subst h; rfl
    next => rfl

lemma statements_command (statement : Sql) (after : Bool → Bool) (l : Link) :
    (command statement after l).2.statements = l.statements := by
  unfold command
  split <;> rfl

lemma statements_executeOn (handle : StatementHandle) (bindings : List Scalar) (l : Link) :
    (executeOn handle bindings l).2.statements = l.statements := by
  unfold executeOn run
  split
  · dsimp only
    split <;> rfl
  · rfl

lemma statements_prepareOn (sql : String) (kind : StatementKind) (l : Link) :
    (prepareOn sql kind l).2.statements
      = (Answered.mk (.prepare sql kind) (prepareOn sql kind l).1).numbers l.statements := by
  unfold prepareOn
  dsimp only
  cases l.cache.compile l.database (trimmed sql) <;> rfl

lemma live_prepare (sql : String) (kind : StatementKind) (m : Nat) (s : World) :
    live m (onOpen number (prepareOn sql kind) s).2
      = (Incident.used number ⟨.prepare sql kind, (onOpen number (prepareOn sql kind) s).1⟩).numbers
        m
        (live m s) := by
  rw [onOpen_eq]
  split
  · exact (Incident.numbers_same (fun _ => rfl) number m _).symm
  · rw [live_set, statements_prepareOn, Incident.numbers]
    split
    next h => subst h; rfl
    next => rfl

lemma live_rollbackAtClose (m : Nat) (s : World) :
    live m (rollbackAtClose number s) = live m s := by
  have hcommand : live m (onOpen number (command .rollback fun _ => false) s).2 = live m s :=
    live_onOpen (statements_command .rollback fun _ => false) m s
  unfold rollbackAtClose
  split
  · split
    next h => exact (congrArg (fun x => live m x.2) h).symm.trans hcommand
    next h => exact (congrArg (fun x => live m x.2) h).symm.trans hcommand
  · rfl

lemma live_close (m : Nat) (s : World) :
    live m (Signal.finishAt (signal number) .closed <|
        rollbackAtClose number <| (link number).modify (fun l => { l with statements := [] }) s)
      = (Incident.closed number).numbers m (live m s) := by
  refine ((Host.Still.finishAt .closed _).same (live m) (fun g s => ?_) (fun _ _ _ => rfl)
    fun _ _ => rfl).trans ((live_rollbackAtClose m _).trans (live_set _ number m s))
  refine (live_set { (link number).get s with signal := g } number m s).trans ?_
  split
  next h => subst h; rfl
  next => rfl

/-- **The connections to the SQL engine** give out handles. -/
def issuer : Issuer where
  connection := connection
  live := live
  use n use self s := by
    cases use with
    | connect =>
      exact ⟨_, _, rfl, fun m => (live_onOpen (fun _ => rfl) m s).trans
        (Incident.numbers_same (fun _ => rfl) n m _).symm⟩
    | begin | commit | rollback =>
      exact ⟨_, _, rfl, fun m => (live_onOpen (statements_command _ _) m s).trans
        (Incident.numbers_same (fun _ => rfl) n m _).symm⟩
    | prepare sql kind => exact ⟨_, _, rfl, fun m => live_prepare sql kind m s⟩
    | execute handle bindings =>
      exact ⟨_, _, rfl, fun m => (live_onOpen (statements_executeOn handle bindings) m s).trans
        (Incident.numbers_same (fun _ => rfl) n m _).symm⟩
    | destroy handle =>
      refine ⟨(), _, rfl, fun m => ?_⟩
      refine (live_set _ n m s).trans ?_
      rw [Incident.numbers]
      split
      next h => subst h; rfl
      next => rfl
  close n self s := ⟨_, rfl, fun m => live_close m s⟩

/-- Nothing has been done to any connection, nor to anything else. -/
def Undisturbed (s s' : World) : Prop :=
  s' = { s with links := s'.links } ∧ ∀ m, (link m).get s' = (link m).get s

/-- **Executing a statement**: it is run if its number is alive on the connection. -/
lemma execute_poll (handle : StatementHandle) (bindings : List Scalar) (self : TaskId) (s : World) :
    ((connection number).execute handle bindings).run.poll self s
      = if ((link number).get s).isTerminated then (.done (.error closedFault), s)
        else if handle.id ∈ live number s then
          (.done (run handle.sql handle.kind bindings ((link number).get s)).1,
            (link number).set (run handle.sql handle.kind bindings ((link number).get s)).2 s)
        else (.done (.error handle.unknown), (link number).modify (fun l => l) s) := by
  show (Task.done (onOpen number (executeOn handle bindings) s).1,
    (onOpen number (executeOn handle bindings) s).2) = _
  have hknown : ((link number).get s).statements.contains handle.id = true ↔ handle.id
    ∈ live number s :=
    List.contains_iff_mem
  rw [onOpen_eq, executeOn]
  simp only [hknown]
  split
  · rfl
  · split <;> rfl

lemma undisturbed_modify (number : Nat) (s : World) :
    Undisturbed s ((link number).modify (fun l => l) s) := by
  refine ⟨rfl, fun m => ?_⟩
  unfold Cell.modify
  rw [link_get_set]
  split
  next h => rw [h]
  next => rfl

end Engine

/-! ## What becomes of a handle -/

/-- **A handle goes by its number**, after whatever has happened on any number of connections.  On a
connection that has ended it is refused as such.  On one that has not, it is let through if its
number is in force there, whatever else it says and wherever it comes from; and otherwise it is
refused as not prepared there.  Whatever is refused does nothing, but for the note that the scripted
backend takes of every call. -/
theorem execute_goes_by_number (incidents : List Incident) (s : World) (number : Nat)
    (handle : StatementHandle) (bindings : List Scalar) (self : TaskId) :
    (History Memory.issuer incidents s →
      let ended := ((Memory.link number).get s).signal.status.isTerminal
      let noted := Memory.note (.execute number handle.sql bindings) s
      let answer := noted.backend.answer handle.sql handle.kind
      let heard := ((Memory.connection number).execute handle bindings).run.poll self s
      (ended = true → heard = (.done (.error (Memory.hasEnded number)), noted))
        ∧ (ended = false → InForce number handle.id incidents →
          heard = (.done answer.1, { noted with backend := answer.2 }))
        ∧ (ended = false → ¬InForce number handle.id incidents →
          heard = (.done (.error (Memory.notPrepared handle.id number)), noted)))
    ∧ (History Engine.issuer incidents s →
      let link := (Engine.link number).get s
      let result := Engine.run handle.sql handle.kind bindings link
      let heard := ((Engine.connection number).execute handle bindings).run.poll self s
      (link.isTerminated = true → heard = (.done (.error Engine.closedFault), s))
        ∧ (link.isTerminated = false → InForce number handle.id incidents →
          heard = (.done result.1, (Engine.link number).set result.2 s))
        ∧ (link.isTerminated = false → ¬InForce number handle.id incidents →
          ∃ s', heard = (.done (.error handle.unknown), s') ∧ Engine.Undisturbed s s')) := by
  constructor
  · intro h ended noted answer heard
    have hheard := @Memory.execute_poll number handle bindings self s noted rfl
    have hlive : handle.id ∈ Memory.live number s ↔ InForce number handle.id incidents := h.live_iff
    refine ⟨fun hended => hheard.trans (if_pos hended), fun hopen hin => ?_, fun hopen hout => ?_⟩
    · exact hheard.trans ((if_neg (Bool.not_eq_true _ ▸ hopen)).trans (if_pos (hlive.mpr hin)))
    · exact hheard.trans ((if_neg (Bool.not_eq_true _ ▸ hopen)).trans (if_neg (mt hlive.mp hout)))
  · intro h link result heard
    have hheard := @Engine.execute_poll number handle bindings self s
    have hlive : handle.id ∈ Engine.live number s ↔ InForce number handle.id incidents := h.live_iff
    refine ⟨fun hended => hheard.trans (if_pos hended), fun hopen hin => ?_, fun hopen hout => ?_⟩
    · exact hheard.trans ((if_neg (Bool.not_eq_true _ ▸ hopen)).trans (if_pos (hlive.mpr hin)))
    · exact ⟨_, hheard.trans ((if_neg (Bool.not_eq_true _ ▸ hopen)).trans
        (if_neg (mt hlive.mp hout))),
        Engine.undisturbed_modify number s⟩

namespace Memory

/-- Two connections to the scripted backend, on each of which a statement has been prepared. -/
def twoPrepared : World :=
  let opened : World := (newLink false (newLink false (({} : World).withMemory 2)).2).2
  let first : World := (((connection 1).prepare "A" .other).run.poll 0 opened).2
  (((connection 2).prepare "B" .other).run.poll 0 first).2

def twoIncidents : List Incident :=
  [.used 1 ⟨.prepare "A" .other, .ok ⟨1, "A", .other⟩⟩,
    .used 2 ⟨.prepare "B" .other, .ok ⟨1, "B", .other⟩⟩]

lemma twoPrepared_history : History issuer twoIncidents twoPrepared := by
  let empty : World := ({} : World).withMemory 2
  have hempty : History issuer [] empty := .start fun n => rfl
  have hone : History issuer [] (newLink false empty).2 := .around hempty (live_newLink false rfl)
  have htwo : History issuer [] (newLink false (newLink false empty).2).2 :=
    .around hone (live_newLink false rfl)
  have hfirst := htwo.prepared 1 "A" .other 0 rfl
  exact hfirst.prepared 2 "B" .other 0 rfl

end Memory

namespace Engine

/-- Two connections to the SQL engine, on each of which a statement has been prepared. -/
def twoPrepared : World :=
  let opened : World := (newLink .owned (newLink .owned ({} : World)).2).2
  let first : World := (((connection 0).prepare "BEGIN" .other).run.poll 0 opened).2
  (((connection 1).prepare "SELECT 1" .select).run.poll 0 first).2

def twoIncidents : List Incident :=
  [.used 0 ⟨.prepare "BEGIN" .other, .ok ⟨1, "BEGIN", .other⟩⟩,
    .used 1 ⟨.prepare "SELECT 1" .select, .ok ⟨1, "SELECT 1", .select⟩⟩]

lemma twoPrepared_history : History issuer twoIncidents twoPrepared := by
  have hempty : History issuer [] ({} : World) := .start fun n => rfl
  have hone : History issuer [] (newLink .owned ({} : World)).2 := .around hempty fun m => by
    refine (live_set _ 0 m _).trans ?_
    split
    next h => subst h; rfl
    next => rfl
  have htwo : History issuer [] (newLink .owned (newLink .owned ({} : World)).2).2 :=
    .around hone fun m => by
      refine (live_set _ 1 m _).trans ?_
      split
      next h => subst h; rfl
      next => rfl
  have hfirst := htwo.prepared 0 "BEGIN" .other 0
    (show _ = Task.done (Except.ok (StatementHandle.mk 1 "BEGIN" .other)) by cbv)
  exact hfirst.prepared 1 "SELECT 1" .select 0
    (show _ = Task.done (Except.ok (StatementHandle.mk 1 "SELECT 1" .select)) by cbv)

end Engine

lemma Issued.mem (h : Issued number handle incidents) :
    ∃ e ∈ incidents, e.issued? number = some handle := by
  obtain ⟨before, e, after, rfl, hissued, -⟩ := h
  exact ⟨e, by simp, hissued⟩

/-- On the second connection the number of the first one's handle is in force, so it is answered. -/
theorem second_connection_answers :
    ((Memory.connection 2).execute ⟨1, "A", .other⟩ [] |>.run.poll 0 Memory.twoPrepared).1
      = .done (.ok (.affected 1)) := by
  have hforce : InForce 2 1 Memory.twoIncidents := by
    exact ⟨⟨1, "B", .other⟩, ⟨[_], _, [], rfl, rfl, nofun⟩, rfl⟩
  have hheard :=
    ((execute_goes_by_number Memory.twoIncidents Memory.twoPrepared 2 ⟨1, "A", .other⟩ [] 0).1
    Memory.twoPrepared_history).2.1 rfl hforce
  exact congrArg Prod.fst hheard

/-- **A handle of another connection is let through** by either backend. -/
theorem another_handle_runs :
    (∃ incidents s, History Memory.issuer incidents s ∧ ¬Issued 2 ⟨1, "A", .other⟩ incidents
      ∧ ((Memory.connection 2).execute ⟨1, "A", .other⟩ [] |>.run.poll 0 s).1 = .done
        (.ok (.affected 1)))
    ∧ ∃ incidents s, History Engine.issuer incidents s ∧ ¬Issued 1 ⟨1, "BEGIN", .other⟩ incidents
      ∧ ((Engine.connection 1).execute ⟨1, "BEGIN", .other⟩ [] |>.run.poll 0 s).1
        = .done (.ok (.affected 0)) := by
  refine ⟨⟨_, _, Memory.twoPrepared_history, fun h => ?_, rfl⟩, ⟨_, _, Engine.twoPrepared_history,
    fun h => ?_, ?_⟩⟩
  · obtain ⟨e, hmem, hissued⟩ := h.mem
    rw [Memory.twoIncidents, List.mem_pair] at hmem
    rcases hmem with rfl | rfl <;> simp [Incident.issued?, Answered.prepared?] at hissued
  · obtain ⟨e, hmem, hissued⟩ := h.mem
    rw [Engine.twoIncidents, List.mem_pair] at hmem
    rcases hmem with rfl | rfl <;> simp [Incident.issued?, Answered.prepared?] at hissued
  · cbv

end Transactional
