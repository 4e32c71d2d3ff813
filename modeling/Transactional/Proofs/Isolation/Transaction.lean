import Transactional.Proofs.Isolation.Decided

/-!
# Transactions that are decided

A program performs operations and waits for futures.  If what comes of each of these is decided, so
is what comes of the program, and of the transaction that it is the body of: its result, its calls
and what it publishes.

* `Sink.Tells` — a sink that publishes what it is given, and leaves everything else alone.
* `Connection.Assures.meaning` — what comes of a program is decided.
* `Connection.Assures.on` — so is what comes of a transaction.
-/

namespace Transactional

variable {ψ ρ α β : Type} {S : Setting ρ ψ} {T : Terms ρ ψ} {b n : Nat} {s s' : World}
  {runState : RunState ρ} {e e' : ψ} {x y : LeaseState × Knowledge ρ ψ} {state : LeaseState}
    {more : List ρ}

/-! ## Changes elsewhere -/

namespace Knowledge

/-- Something has been published, and the futures rely on something else. -/
def moved (more : List ρ) (e : ψ) : Knowledge ρ ψ → Knowledge ρ ψ
  | .informed runState _ => .informed (runState.telling more) e
  | .left runState _ => .left (runState.telling more) e
  | .unsure => .unsure

end Knowledge

/-- **A change that has nothing to do with the pool.** -/
lemma working_elsewhere (hs : (working T b n).knows x s) (h : World.Elsewhere s s')
    (hrelied : T.futures.knows e s') (hheard : T.heard s' = T.heard s ++ more) :
    (working T b n).may x s (x.1, x.2.moved more e) s' := by
  obtain ⟨state, k⟩ := x
  obtain ⟨hlease, hknows⟩ := hs
  have houtlook := h.outlook (E := T.futures)
  have hknown : ∀ {runState : RunState ρ} {e' : ψ}, runState.Known T b e' s →
      (runState.telling more).Known T b e s' := by
    intro runState e' hs
    refine ⟨?_, (congrArg (fun a => a.permits.shut) h.accounts).trans hs.unshut, ?_⟩ <;>
      rw [houtlook]
    · exact ⟨hs.steady.responses, hs.steady.failures, hs.steady.unclosed, hrelied⟩
    · exact hs.calls
  have hmoved : (k.moved more e).Knows T b s' ∧ (k.moved more e).told = k.told ++ more := by
    cases k with
    | informed runState e' =>
      refine ⟨⟨hknown hknows.1, ?_⟩, rfl⟩
      rw [houtlook]
      exact hknows.2
    | left runState e' => exact ⟨hknown hknows, rfl⟩
    | unsure => exact hknows.elim
  refine ⟨?_, id, ?_, .inr ⟨hmoved.1, ?_, more, hheard, hmoved.2⟩, fun hgone => .inl ?_⟩
  · exact (congrArg (fun t => (Table.get t n).plain) h.leases).trans hlease
  · refine ⟨?_, ?_, fun _ _ => ?_, ?_⟩ <;> rw [houtlook]
  · exact congrArg Memory.Backend.lastInsertId h.backend
  · cases k <;> first | rfl | exact hgone

lemma working_harmless (h : World.Harmless T.futures s s') (hheard : T.heard s' = T.heard s)
    (hs : (working T b n).knows (state, .informed runState e) s) :
    (working T b n).may (state, .informed runState e) s (state, .informed runState e) s' := by
  have hsame : T.heard s' = T.heard s ++ [] := hheard.trans (List.append_nil _).symm
  have hmay := working_elsewhere hs h.elsewhere (h.relied e hs.2.1.steady.relied) hsame
  rwa [show (Knowledge.informed runState e).moved [] e = .informed runState
    e by simp [Knowledge.moved, RunState.telling]]
    at hmay

lemma working_report (hS : T.futures.Discreet T.heard) (trace : Trace)
    (hs : (working T b n).knows x s) : (working T b n).may x s x (Host.report trace s) := by
  have hlease : ((Memory.pool.lease b n : Lease World).cell.get (Host.report trace s)).plain
    = x.1 :=
    (congrArg LeaseState.plain ((Memory.apart b n).traces _ s)).trans hs.1
  exact Lease.alone_still (knowledge_tolerates hS) hs (.report _ s) hlease id

section

variable (hS : S.futures.Discreet S.heard)

include hS

/-- **What comes of a future is decided.** -/
lemma future_decided {task : Task World α} (h : S.futures.Settles task) (hx : Held x) :
    Decided S (fun reply y => (∃ a, reply = .same a) ∧ Held y) (fun _ _ => task) x := by
  obtain ⟨transaction, handles, runState, e, rfl⟩ := hx
  obtain ⟨a, e', hobeys⟩ := h e
  refine .inr ⟨.same a, (.held transaction handles, .informed runState e'),
    ⟨⟨a, rfl⟩, _, _, _, _, rfl⟩,
    fun draws b n => ?_⟩
  refine Task.Obeys.map (D := S.futures)
    (fun e => (LeaseState.held transaction handles, Knowledge.informed runState e)) ?_ ?_
      (fun _ _ => .inr)
    (fun _ _ => id) ?_ hobeys
  · exact fun e s hs => hs.2.1.steady.relied
  · intro e s e' s' hs hmay
    obtain ⟨helse, hknows, hheard⟩ := hS.may hmay
    have hsame : S.heard s' = S.heard s ++ [] := hheard.trans (List.append_nil _).symm
    have hmoved := working_elsewhere hs helse hknows hsame
    rwa [show (Knowledge.informed runState e).moved [] e' = .informed runState e' by
      simp [Knowledge.moved, RunState.telling]] at hmoved
  · rintro _ _ ⟨rfl, rfl⟩
    exact ⟨rfl, rfl⟩

end

/-- A part of a program is over, and the run still holds its lease. -/
def Reached (reply : Reply (Exit × List Event)) (y : LeaseState × Knowledge ρ ψ) : Prop :=
  reply.Fails (∃ events, · = fun fault => (.failed fault, events)) ∧ Held y

lemma reached_done (reply : Reply (Exit × List Event)) (h : Reached reply x) :
    Decided S Reached (fun b _ => .done (reply.on b)) x :=
  .done reply h

/-- A transaction is over, and the run has given its connection back. -/
def Finished (reply : Reply (Except Fault Value)) (y : LeaseState × Knowledge ρ ψ) : Prop :=
  reply.Plain ∧ Parted y

lemma finished_done (reply : Reply (Except Fault Value)) (h : Finished reply x) :
    Decided S Finished (fun b _ => .done (reply.on b)) x :=
  .done reply h

/-- **A sink that publishes** what it is given, and leaves everything else alone. -/
structure Sink.Tells (S : Setting ρ ψ) (sink : Sink World) (mark : Event → List ρ) : Prop where
  harmless : ∀ event s, World.Harmless S.futures s (sink.publish event s)
  heard : ∀ event s, S.heard (sink.publish event s) = S.heard s ++ mark event

lemma Sink.Tells.publishAll {sink : Sink World} {mark : Event → List ρ} (h : sink.Tells S mark)
    (events : List Event) (s : World) :
    World.Harmless S.futures s (sink.publishAll events s)
      ∧ S.heard (sink.publishAll events s) = S.heard s ++ events.flatMap mark := by
  induction events generalizing s with
  | nil => exact ⟨.refl s, (List.append_nil _).symm⟩
  | cons event rest ih =>
    obtain ⟨hharmless, hheard⟩ := ih (sink.publish event s)
    refine ⟨(h.harmless event s).trans hharmless, ?_⟩
    rw [List.flatMap_cons, ← List.append_assoc, ← h.heard event s]
    exact hheard

namespace Connection.Assures

variable {conn : Nat → Nat → Connection World} (C : Connection.Assures S conn)

include C

lemma logged {write : String → World → World}
    (hwrite : ∀ line s, World.Harmless S.futures s (write line s))
    (hheard : ∀ line s, S.heard (write line s) = S.heard s) :
    Connection.Assures S fun b n => Connection.logged write (conn b n) := by
  have hline : ∀ {α : Type} (line : String) {attempt : Nat → Nat → Task World (Except Fault α)},
      Assured S attempt → Assured S fun b n => .act (write line) fun _ => attempt b n := by
    rintro α line attempt h x ⟨transaction, handles, runState, e, rfl⟩
    refine Decided.act (fun draws b n s hs => working_harmless (hwrite line s)
      (hheard line s) hs) ?_
    exact h _ ⟨transaction, handles, runState, e, rfl⟩
  exact {
    begin := hline _ C.begin
    commit := hline _ C.commit
    rollback := hline _ C.rollback
    prepare := C.prepare
    execute := fun handle bindings => hline _ (C.execute handle bindings)
    destroy := C.destroy
    close := C.close
    drop := C.drop }

/-! ## Programs -/

lemma query (kind : StatementKind) (sql : String) (bindings : List Scalar) :
    Assured S fun b n => ((conn b n).query kind sql bindings).run := by
  refine (C.prepare sql kind).andThen fun handle x hx => ?_
  refine (C.execute handle bindings x hx).bind fun reply y hy => ?_
  obtain ⟨z, hz, hmay⟩ := C.destroy handle hy.2
  exact Decided.act hmay (settled_done reply ⟨hy.1, hz⟩)

lemma runBuilt (built : Except Fault BoundStatement) :
    Assured S fun b n => ((conn b n).runBuilt built).run :=
  (Assured.pure built).andThen fun statement => C.query statement.kind statement.sql
    statement.params

/-- **What comes of an operation is decided.** -/
lemma perform (operation : Operation) :
    Assured S fun b n => ((conn b n).perform operation).run := by
  cases operation with
  | query kind sql bindings => exact (C.query kind sql bindings).andThen fun _ => .pure (.ok _)
  | insert table row =>
    refine Assured.andThen ?_ fun _ => .pure (.ok _)
    refine (C.runBuilt _).andThen fun outcome => ?_
    cases outcome with
    | inserted number => exact .pure (.ok _)
    | _ => exact .pure (.error _)
  | update table row =>
    exact ((C.runBuilt _).andThen fun _ => .pure (.ok _)).andThen fun _ => .pure (.ok _)
  | delete table target =>
    exact ((C.runBuilt _).andThen fun _ => .pure (.ok _)).andThen fun _ => .pure (.ok _)
  | read table key =>
    refine Assured.andThen ?_ fun _ => .pure (.ok _)
    refine Assured.andThen (C.query _ _ _) fun outcome => ?_
    cases outcome with
    | rows set => exact .pure (.ok _)
    | _ => exact .pure (.error _)
  | prepare kind sql => exact (C.prepare sql kind).andThen fun _ => .pure (.ok _)
  | execute statement bindings =>
    exact (C.execute statement bindings).andThen fun _ => .pure (.ok _)
  | emit event => exact .pure (.ok _)

/-- **What comes of a program is decided**, if what comes of its futures is. -/
lemma meaning (hS : S.futures.Discreet S.heard) {program : Program World}
    (hprogram : program.Lifts S.futures.Settles) (events : List Event) (hx : Held x) :
    Decided S Reached (fun b n => program.meaning (conn b n) events) x := by
  induction program generalizing x events with
  | finish v => exact reached_done (.same (.value v, events)) ⟨trivial, hx⟩
  | fail fault => exact reached_done (.same (.failed fault, events)) ⟨trivial, hx⟩
  | skip v => exact reached_done (.same (.skipped v, events)) ⟨trivial, hx⟩
  | perform operation =>
    refine (C.perform operation x hx).bind ?_
    rintro ((fault | v) | ⟨fail, id⟩) y ⟨hplain, hy⟩
    · exact reached_done (.same (.failed fault, events)) ⟨trivial, hy⟩
    · exact reached_done (.same (.value v, events ++ operation.emitted)) ⟨trivial, hy⟩
    · obtain rfl : fail = .error := hplain
      exact reached_done (.unprepared (.failed ·, events) id) ⟨⟨events, rfl⟩, hy⟩
  | await task =>
    refine (future_decided hS hprogram hx).bind ?_
    rintro _ y ⟨⟨outcome, rfl⟩, hy⟩
    exact reached_done (.same (.ofExcept outcome, events)) ⟨trivial, hy⟩
  | scope inner ih =>
    refine (ih hprogram events hx).bind ?_
    rintro (⟨exit, events⟩ | ⟨fail, id⟩) y ⟨hfails, hy⟩
    · exact reached_done (.same (exit.closeScope, events)) ⟨trivial, hy⟩
    · obtain ⟨events, rfl⟩ := hfails
      exact reached_done (.unprepared (.failed ·, events) id) ⟨⟨events, rfl⟩, hy⟩
  | andThen first next ihf ihn =>
    unfold Program.meaning
    refine (ihf hprogram.1 events hx).bind ?_
    rintro (⟨exit, events⟩ | ⟨fail, id⟩) y ⟨hfails, hy⟩
    · cases exit with
      | value v => exact ihn v (hprogram.2 v) events hy
      | skipped v => exact reached_done (.same (.skipped v, events)) ⟨trivial, hy⟩
      | failed fault => exact reached_done (.same (.failed fault, events)) ⟨trivial, hy⟩
    · obtain ⟨events, rfl⟩ := hfails
      exact reached_done (.unprepared (.failed ·, events) id) ⟨⟨events, rfl⟩, hy⟩

/-! ## Transactions -/

lemma undo (hS : S.futures.Discreet S.heard) (reply : Reply (Except Fault Value))
    (hplain : reply.Plain) {cause : Nat → Fault} (hcause : ∀ b, reply.on b = .error (cause b))
    (hx : Held x) :
    Decided S Finished (fun b n => Run.undo (conn b n) (cause b)) x := by
  have hclose : ∀ {y : LeaseState × Knowledge ρ ψ}, Held y → Decided S Finished
      (fun b n => (conn b n).close.bind fun _ => .done (.error (cause b))) y := by
    intro y hy
    simp only [← hcause]
    exact (C.close hy).bind fun _ _ hz => finished_done reply ⟨hplain, hz⟩
  unfold Run.undo Run.rollbackQuietly
  simp only [Task.bind_assoc]
  refine (C.rollback x hx).bind ?_
  rintro ((fault | ⟨⟩) | ⟨fail, id⟩) y ⟨hfails, hy⟩
  · exact Decided.act (fun draws b n s hs => working_report hS _ hs) (hclose hy)
  · exact hclose hy
  · obtain rfl : fail = .error := hfails
    exact Decided.act (fun draws b n s hs => working_report hS _ hs) (hclose hy)

lemma conclude (hS : S.futures.Discreet S.heard) {sink : Sink World} {mark : Event → List ρ}
    (hsink : sink.Tells S mark) (value : Value) (events : List Event) (hx : Held x) :
    Decided S Finished (fun b n => Run.conclude (conn b n) sink value events) x := by
  refine (C.commit x hx).bind ?_
  rintro ((fault | ⟨⟩) | ⟨fail, id⟩) y ⟨hfails, hy⟩
  · refine Decided.act (fun draws b n s hs => working_report hS _ hs) ?_
    exact C.undo hS (.same (.error fault)) trivial (fun _ => rfl) hy
  · refine (C.close hy).bind ?_
    rintro _ _ ⟨runState, e, rfl⟩
    have hparted : Parted ((.emptied false false, .left (runState.telling (events.flatMap mark)) e)
        : LeaseState × Knowledge ρ ψ) := ⟨_, e, rfl⟩
    refine Decided.act (fun draws b n s hs => ?_)
      (finished_done (.same (.ok value)) ⟨trivial, hparted⟩)
    obtain ⟨hharmless, hheard⟩ := hsink.publishAll events s
    exact working_elsewhere hs hharmless.elsewhere (hharmless.relied e hs.2.steady.relied) hheard
  · obtain rfl : fail = .error := hfails
    refine Decided.act (fun draws b n s hs => working_report hS _ hs) ?_
    exact C.undo hS (.unprepared .error id) rfl (fun _ => rfl) hy

/-- **What comes of a transaction is decided**, and the connection has been given back. -/
theorem on (hS : S.futures.Discreet S.heard) {sink : Sink World} {mark : Event → List ρ}
    (hsink : sink.Tells S mark) {program : Program World}
    (hprogram : program.Lifts S.futures.Settles) (hx : Held x) :
    Decided S Finished (fun b n => Run.on (conn b n) sink none program) x := by
  refine (C.begin x hx).bind ?_
  rintro ((fault | ⟨⟩) | ⟨fail, id⟩) y ⟨hfails, hy⟩
  · exact (C.close hy).bind fun _ _ hz => finished_done (.same (.error fault)) ⟨trivial, hz⟩
  · have hbody : Decided S Reached (fun b n => program.meaning (conn b n) []) y :=
      C.meaning hS hprogram [] hy
    simp only [Run.body, program.runOn_eq_result, Program.result, Task.bind_assoc, Task.done_bind]
    refine hbody.bind ?_
    rintro (⟨exit, events⟩ | ⟨fail, id⟩) z ⟨hfails, hz⟩
    · cases exit with
      | value v => exact C.conclude hS hsink v events hz
      | skipped v => exact C.conclude hS hsink v events hz
      | failed fault => exact C.undo hS (.same (.error fault)) trivial (fun _ => rfl) hz
    · obtain ⟨events, rfl⟩ := hfails
      exact C.undo hS (.unprepared .error id) rfl (fun _ => rfl) hz
  · obtain rfl : fail = .error := hfails
    exact (C.close hy).bind fun _ _ hz => finished_done (.unprepared .error id) ⟨rfl, hz⟩

end Connection.Assures

end Transactional
