import Transactional.Proofs.Isolation.Outlook
import Transactional.Proofs.Lease.Alone
import Transactional.Proofs.Run.Staying

/-!
# What working on a lease touches

Whoever works on a lease touches that lease and the connection beneath, and beyond that nobody sees
any change, whatever is done with the lease, and however a program fails.

* `World.Elsewhere`, `World.Harmless` — changes that have nothing to do with the pool, and that a
  run does not see.
* `Task.Confined`, `Connection.Confined` — tasks that touch one connection and one lease at most,
  and a connection by which only its own lease is touched.
* `lease_confined`, `Connection.Confined.onAccount` — a lease is such a connection, and a
  transaction on such a connection is such a task.
-/

namespace Transactional

namespace World

/-- **A change that has nothing to do with the pool.** -/
structure Elsewhere (s s' : World) : Prop where
  backend : s'.backend = s.backend
  accounts : s'.accounts = s.accounts
  leases : s'.leases = s.leases
  leaseCount : s'.leaseCount = s.leaseCount
  managerClosed : s'.managerClosed = s.managerClosed
  due : s'.schedule.starts = s.schedule.starts

/-- **A change that a run does not see**: nor do its futures mind it. -/
structure Harmless (E : Discipline World ψ) (s s' : World) : Prop where
  elsewhere : Elsewhere s s'
  relied : ∀ e, E.knows e s → E.knows e s'

variable {E : Discipline World ψ} {base number : Option Nat} {s s' s'' : World} {b n : Nat}

lemma Elsewhere.outlook (h : Elsewhere s s') :
    s'.outlook E = { s.outlook E with relied := fun e => E.knows e s' } := by
  have hlinks : ∀ m, (Memory.link m).get s' = (Memory.link m).get s := fun m =>
    congrArg (fun b : Memory.Backend => b.links.get m) h.backend
  have hcalls : ∀ m, s'.callsOn m = s.callsOn m := fun m => by
    rw [callsOn, h.backend, callsOn]
  have hleases : ∀ l, (LeaseHost.leases l).get s' = (LeaseHost.leases l).get s := fun l =>
    congrArg (fun t : Table Nat LeaseState => t.get l) h.leases
  show Outlook.mk _ _ _ _ _ _ _ _ _ _ = Outlook.mk _ _ _ _ _ _ _ _ _ _
  rw [Outlook.mk.injEq]
  exact ⟨congrArg (·.responses) h.backend, congrArg (·.failures) h.backend, funext hlinks,
    funext hcalls, congrArg (·.linkCount) h.backend, funext hleases, h.leaseCount, h.due,
    h.managerClosed, rfl⟩

lemma Elsewhere.aside (h : Elsewhere s s') : Aside s s' where
  traffic := by
    have hlink : ∀ m, (Memory.link m).get s' = (Memory.link m).get s := fun m =>
      congrArg (fun b : Memory.Backend => b.links.get m) h.backend
    have hlease : ∀ l, (LeaseHost.leases l).get s' = (LeaseHost.leases l).get s := fun l =>
      congrArg (fun leases : Table Nat LeaseState => leases.get l) h.leases
    show Traffic.mk _ _ _ _ _ _ _ = Traffic.mk _ _ _ _ _ _ _
    rw [Traffic.mk.injEq]
    refine ⟨by rw [h.backend], by rw [h.backend], funext fun m => by rw [hlink m], h.accounts,
      funext hlease, h.leaseCount, h.due⟩
  ages := .of_eq fun m => by
    have hlink : (Memory.link m).get s' = (Memory.link m).get s :=
      congrArg (fun b : Memory.Backend => b.links.get m) h.backend
    exact congrArg Option.isSome (Memory.ending_of_same (by rw [hlink]) (by rw [hlink]))

namespace Harmless

lemma refl (s : World) : Harmless E s s := ⟨⟨rfl, rfl, rfl, rfl, rfl, rfl⟩, fun _ => id⟩

lemma trans (h : Harmless E s s') (h' : Harmless E s' s'') : Harmless E s s'' where
  elsewhere :=
    { backend := h'.elsewhere.backend.trans h.elsewhere.backend
      accounts := h'.elsewhere.accounts.trans h.elsewhere.accounts
      leases := h'.elsewhere.leases.trans h.elsewhere.leases
      leaseCount := h'.elsewhere.leaseCount.trans h.elsewhere.leaseCount
      managerClosed := h'.elsewhere.managerClosed.trans h.elsewhere.managerClosed
      due := h'.elsewhere.due.trans h.elsewhere.due }
  relied e := h'.relied e ∘ h.relied e

lemma touches (h : Harmless E s s') : Touches E base number s s' := by
  refine ⟨?_, congrArg (fun a => a.permits.shut) h.elsewhere.accounts⟩
  rw [h.elsewhere.outlook]
  exact { Outlook.Touched.refl _ with relied := h.relied }

end Harmless

end World

variable {ψ : Type}

/-! ## Touching one connection and one lease -/

/-- The discipline of those who touch one connection and one lease at most. -/
abbrev touching (E : Discipline World ψ) (base number : Nat) : Discipline World Unit where
  knows _ _ := True
  may _ s _ s' := World.Touches E (some base) (some number) s s'
  waits _ _ := True

variable {E : Discipline World ψ} {b n : Nat} {s s' : World} {α β : Type}

/-- **A task that touches one connection and one lease at most**, with a result of which `Q` is
true. -/
def Task.Confined (E : Discipline World ψ) (base number : Nat) (Q : α → Prop)
    (task : Task World α) :
    Prop :=
  task.Obeys (touching E base number)
    (fun _ f => ∀ s, World.Touches E (some base) (some number) s (f s))
    (fun a _ => Q a) ()

namespace Task.Confined

variable {Q : α → Prop} {Q' : β → Prop} {task : Task World α}

lemma done {a : α} (h : Q a) : Confined E b n Q (.done a) := h

lemma act {update : World → World} {next : World → Task World α}
    (h : ∀ s, World.Touches E (some b) (some n) s (update s))
    (hnext : ∀ s, Confined E b n Q (next s)) : Confined E b n Q (.act update next) :=
  fun s _ => ⟨(), h s, hnext s⟩

lemma bind {f : α → Task World β} (h : Confined E b n Q task)
    (hf : ∀ a, Q a → Confined E b n Q' (f a)) : Confined E b n Q' (task.bind f) :=
  Obeys.bind h fun a _ ha => hf a ha

lemma guarded {tidy : World → World} (htidy : ∀ s, World.Touches E (some b) (some n) s (tidy s))
    (h : Confined E b n Q task) : Confined E b n Q (task.guarded tidy) :=
  Obeys.guarded (h.mono (fun _ _ hf s => (hf s).trans (htidy _)) fun _ _ => id)

lemma holding {tidy : World → World} (htidy : ∀ s, World.Touches E (some b) (some n) s (tidy s))
    (h : Confined E b n Q task) : Confined E b n Q (task.holding tidy) :=
  (h.guarded htidy).bind fun _ ha => .act htidy fun _ => .done ha

lemma of_respects {R : World → World → Prop} (h : task.Respects (fun _ => True) R)
    (hR : ∀ s s', R s s' → World.Touches E (some b) (some n) s s') :
    Confined E b n (fun _ => True) task := by
  refine Obeys.map (D := ⟨fun _ _ => True, fun _ s _ s' => R s s', fun _ _ => True⟩) (fun _ => ())
    (fun _ _ => id) (fun _ s _ s' _ h => hR s s' h) (fun _ _ => id) ?_ (fun _ _ => id) h
  exact fun _ f hf s => hR s _ (hf s trivial)

lemma stays (h : Confined E b n Q task) : Task.Stays (touching E b n) (fun _ => True) Q task :=
  fun _ _ => h.mono (fun _ _ hf s _ => ⟨(), hf s, trivial⟩) fun _ _ ha => ⟨trivial, ha⟩

lemma of_stays (h : Task.Stays (touching E b n) (fun _ => True) Q task) : Confined E b n Q task :=
  (h () trivial).mono (fun _ _ hf s => (hf s trivial).choose_spec.1) fun _ _ ha => ha.2

end Task.Confined

/-- **A connection by which only its own lease is touched.** -/
structure Connection.Confined (E : Discipline World ψ) (base number : Nat)
    (conn : Connection World) : Prop where
  begin : conn.begin.run.Confined E base number fun _ => True
  commit : conn.commit.run.Confined E base number fun _ => True
  rollback : conn.rollback.run.Confined E base number fun _ => True
  prepare : ∀ sql kind, (conn.prepare sql kind).run.Confined E base number
    fun r => ∀ handle, r = .ok handle → handle.sql = sql
  execute : ∀ handle bindings, (conn.execute handle bindings).run.Confined E base number
    fun _ => True
  destroy : ∀ handle s, World.Touches E (some base) (some number) s (conn.destroy handle s)
  close : conn.close.Confined E base number fun _ => True
  drop : ∀ s, World.Touches E (some base) (some number) s (conn.drop s)

/-! ## Working on a lease -/

section Working

variable (hE : E.Private)

include hE

lemma plainCall_confined (call : Memory.Call) (hcall : call.number = b)
    (pick : Memory.Failures → Option String) :
    (Memory.plainCall b call pick : Attempt World Unit).run.Confined E b n fun _ => True :=
  Memory.plainCall_obeys fun s _ => ⟨(), .note hE hcall s, trivial⟩

lemma answering_confined {call : Memory.Call} (hcall : call.number = b) {Q : Except Fault α → Prop}
    {answer : World → Except Fault α × World} (hended : Q (.error (Memory.hasEnded b)))
    (hanswer : ∀ s, World.Touches E (some b) (some n) s (answer s).2 ∧ Q (answer s).1) :
    (Memory.answering b call answer).run.Confined E b n Q := by
  intro s _
  have hnote : World.Touches E (some b) (some n) s (Memory.note call s) := .note hE hcall s
  refine ⟨(), ?_, ?_⟩
  · dsimp only
    split
    · exact hnote
    · exact hnote.trans (hanswer _).1
  · show Q _
    dsimp only
    split
    · exact hended
    · exact (hanswer _).2

lemma prepare_confined (sql : String) (kind : StatementKind) :
    (Memory.prepare b sql kind : Attempt World StatementHandle).run.Confined E b n
      fun r => ∀ handle, r = .ok handle → handle.sql = sql := by
  have hcall : (Memory.Call.prepare b sql).number = b := rfl
  refine answering_confined hE hcall (by simp) fun s => ⟨?_, ?_⟩
  · dsimp only
    exact .link hE _ b s
  · rintro _ ⟨⟩
    rfl

lemma execute_confined (handle : StatementHandle) (bindings : List Scalar) :
    (Memory.execute b handle bindings : Attempt World Outcome).run.Confined E b n
      fun _ => True := by
  have hcall : (Memory.Call.execute b handle.sql bindings).number = b := rfl
  refine answering_confined hE hcall trivial fun s => ⟨?_, trivial⟩
  split
  · obtain ⟨id, hid⟩ : ∃ id, (s.backend.answer handle.sql handle.kind).2
        = { s.backend with lastInsertId := id } := by
      unfold Memory.Backend.answer
      split
      · exact ⟨_, rfl⟩
      · exact ⟨_, rfl⟩
      · cases handle.kind <;> exact ⟨_, rfl⟩
    refine .of_same ?_ rfl
    show (MemoryHost.backend.set (s.backend.answer handle.sql handle.kind).2 s : World).outlook E
      = _
    rw [hid, World.outlook_lastInsertId hE]
  · exact .refl s

lemma destroy_touches (handle : StatementHandle) (s : World) :
    World.Touches E (some b) (some n) s (Memory.destroy b handle s) := by
  unfold Memory.destroy
  have hcall : (Memory.Call.destroy b handle.sql).number = b := rfl
  split
  · exact (World.Touches.link hE _ b s).trans (.note hE hcall _)
  · exact .refl s

lemma lock_touches (h : Host.Still (Memory.pool.lease b n : Lease World).lock s s') :
    World.Touches E (some b) (some n) s s' := by
  refine .lease hE h.of_comp fun hclosed => ?_
  have hget := (Memory.apart b n).get_of_still_lock h
  exact (congrArg LeaseState.closed hget).trans hclosed

lemma acquire_confined :
    (Semaphore.acquire (Memory.pool.lease b n : Lease World).lock).Confined E b n fun _ => True :=
  .of_respects (Semaphore.acquire_respects _) fun _ _ => lock_touches hE

lemma enter_confined :
    (Memory.pool.lease b n : Lease World).enter.run.Confined E b n fun _ => True := by
  refine .act .refl fun s => ?_
  split
  · exact .done trivial
  refine (acquire_confined hE).bind fun _ _ => .act .refl fun s => ?_
  split
  · exact .act (fun s => lock_touches hE (Semaphore.Usable.still_updating _ s)) fun _ =>
      .done trivial
  · exact .done trivial

lemma operate_confined {operation : Attempt World α} {after : α → LeaseState → LeaseState}
    {Q : Except Fault α → Prop} (hrefused : ∀ fault, Q (.error fault))
    (h : operation.run.Confined E b n Q)
    (hafter : ∀ a state, (after a state).closed = state.closed) :
    ((Memory.pool.lease b n).operate operation after).run.Confined E b n Q := by
  refine (enter_confined hE).bind ?_
  rintro (fault | _) -
  · exact .done (hrefused fault)
  refine .holding (fun s => lock_touches hE (Semaphore.Usable.still_updating _ s)) (h.bind ?_)
  rintro (fault | a) ha
  · exact .done ha
  · exact .act (fun s => .modify hE (fun state h => (hafter a state).trans h) s) fun _ => .done ha

lemma release_touches (s : World) :
    World.Touches E (some b) (some n) s ((Memory.pool.lease b n).release s) := by
  unfold Lease.release
  split
  · have hdeaf : World.Touches E (some b) (some n) s ((LeaseHost.leases n).modify
        (fun state => { state with listening := false }) s) := by
      refine .modify hE ?_ s
      exact fun _ => id
    have hcounted : ∀ s, World.Touches E (some b) (some n) s
        (MemoryHost.accounts.modify (fun a => { a with released := a.released + 1 }) s) :=
      fun s => by
        refine .count hE _ ?_ s
        exact fun _ => rfl
    exact hdeaf.trans ((hcounted _).trans (.drop hE b _))
  · exact .drop hE b s

lemma destroyAll_touches (handles : List StatementHandle) (s : World) :
    World.Touches E (some b) (some n) s ((Memory.pool.lease b n).destroyAll handles s) := by
  induction handles generalizing s with
  | nil => exact .refl s
  | cons handle rest ih => exact (destroy_touches hE handle s).trans (ih _)

lemma tidy_confined (handles : List StatementHandle) :
    ((Memory.pool.lease b n).tidy handles).Confined E b n fun _ => True := by
  have hended : ∀ state, state.closed = true → (LeaseState.ended state).closed = true := fun _ => id
  have htransaction : (Memory.pool.lease b n : Lease World).tidyTransaction.Confined E b n
      fun _ => True := by
    refine .act (.modify hE hended) fun s => ?_
    split
    · refine (plainCall_confined hE (.rollback b) rfl _).bind ?_
      rintro (fault | _) -
      · exact .act (.report hE _) fun _ => .done trivial
      · exact .done trivial
    · exact .done trivial
  refine (htransaction.guarded (.drop hE b)).bind fun _ _ => .act (fun s => ?_) fun _ =>
    .done trivial
  exact (destroyAll_touches hE handles s).trans (release_touches hE _)

lemma shutdown_confined (status : Status) :
    ((Memory.pool.lease b n).shutdown status).Confined E b n fun _ => True := by
  have hsurrender : ∀ s, World.Touches E (some b) (some n) s
      ((Memory.pool.lease b n).surrender status s) := fun s => by
    have hstill : Host.Still (Memory.pool.lease b n : Lease World).cell s _ :=
      Lease.still_surrender status s
    refine .lease hE hstill fun h => ?_
    exact (congrArg LeaseState.closed ((Memory.apart b n).get_surrender status s)).trans h
  refine .act (.modify hE fun _ _ => rfl) fun s => ?_
  split
  · exact .done trivial
  refine (acquire_confined hE).bind fun _ _ => .act hsurrender fun s => ?_
  dsimp only
  split
  · exact .done trivial
  · split
    · exact tidy_confined hE _
    · exact .act (release_touches hE) fun _ => .done trivial

lemma lease_destroy_touches (handle : StatementHandle) (s : World) :
    World.Touches E (some b) (some n) s ((Memory.pool.lease b n).destroy handle s) := by
  have hforget : World.Touches E (some b) (some n) s
      ((LeaseHost.leases n).modify (LeaseState.forget handle) s) := by
    refine .modify hE ?_ s
    exact fun _ => id
  unfold Lease.destroy
  dsimp only
  split
  · exact hforget.trans (destroy_touches hE handle _)
  · exact hforget

/-- **By a lease of the pool only itself is touched.** -/
theorem lease_confined (b n : Nat) :
    (Memory.pool.lease b n : Lease World).connection.Confined E b n where
  begin :=
    operate_confined hE (fun _ => trivial) (plainCall_confined hE (.begin b) rfl _) fun _ _ => rfl
  commit :=
    operate_confined hE (fun _ => trivial) (plainCall_confined hE (.commit b) rfl _) fun _ _ => rfl
  rollback :=
    operate_confined hE (fun _ => trivial) (plainCall_confined hE (.rollback b) rfl _)
      fun _ _ => rfl
  prepare sql kind := operate_confined hE (by simp) (prepare_confined hE sql kind) fun _ _ => rfl
  execute handle bindings :=
    operate_confined hE (fun _ => trivial) (execute_confined hE handle bindings) fun _ _ => rfl
  destroy := lease_destroy_touches hE
  close := shutdown_confined hE .closed
  drop := .leave hE b n

end Working

namespace Connection.Confined

variable {conn : Connection World} (C : conn.Confined E b n)

include C

lemma logged {write : String → World → World}
    (hwrite : ∀ line s, World.Harmless E s (write line s)) :
    (Connection.logged write conn).Confined E b n where
  begin := .act (fun s => (hwrite _ s).touches) fun _ => C.begin
  commit := .act (fun s => (hwrite _ s).touches) fun _ => C.commit
  rollback := .act (fun s => (hwrite _ s).touches) fun _ => C.rollback
  prepare := C.prepare
  execute handle bindings := .act (fun s => (hwrite _ s).touches) fun _ => C.execute handle bindings
  destroy := C.destroy
  close := C.close
  drop := C.drop

/-! ## Runs -/

/-- **The body of a run**, also if it is cut off at its limit. -/
lemma bodyAccount (hE : E.Private) (limit : Option Duration) {program : Program World}
    (hprogram : program.Lifts fun task => task.Respects (fun _ => True) (World.Harmless E)) :
    (Run.bodyAccount conn limit program).Confined E b n fun _ => True := by
  have htimeless : (touching E b n).Timeless :=
    ⟨fun _ => .refl _, fun hf h => h.trans (.schedule hE hf _), fun _ _ => trivial⟩
  have hstays : conn.Stays (touching E b n) (fun _ => True) (fun _ => True) b :=
    ⟨fun sql kind _ _ => (C.prepare sql kind).stays,
      fun handle bindings _ => (C.execute handle bindings).stays,
      fun handle _ => .act (fun _ s _ _ => C.destroy handle s) fun _ => .done trivial⟩
  refine .of_stays (hstays.bodyAccount htimeless limit program (fun _ _ => trivial) ?_)
  exact hprogram.imp fun task h => (Task.Confined.of_respects h fun _ _ =>
    World.Harmless.touches).stays

lemma undo (hE : E.Private) (cause : Fault) :
    (Run.undo conn cause).Confined E b n fun _ => True := by
  refine .bind (Q := fun _ => True) (C.rollback.bind ?_) fun _ _ => C.close.bind fun _ _ =>
    .done trivial
  rintro (fault | _) -
  · exact .act (.report hE _) fun _ => .done trivial
  · exact .done trivial

/-- **A transaction on a lease.** -/
lemma onAccount (hE : E.Private) {sink : Sink World}
    (hsink : ∀ event s, World.Harmless E s (sink.publish event s)) (limit : Option Duration)
    {program : Program World}
    (hprogram : program.Lifts fun task => task.Respects (fun _ => True) (World.Harmless E)) :
    (Run.onAccount conn sink limit program).Confined E b n fun _ => True := by
  have hpublish : ∀ events s, World.Harmless E s (sink.publishAll events s) := by
    intro events
    induction events with
    | nil => exact .refl
    | cons event rest ih => exact fun s => (hsink event s).trans (ih _)
  refine C.begin.bind ?_
  rintro (fault | _) -
  · exact C.close.bind fun _ _ => .done trivial
  refine (C.bodyAccount hE limit hprogram).bind ?_
  rintro ⟨fault | value, deeds⟩ -
  · exact (C.undo hE fault).bind fun _ _ => .done trivial
  refine .bind (Q := fun _ => True) (C.commit.bind ?_) fun _ _ => .done trivial
  rintro (fault | _) -
  · exact .act (.report hE _) fun _ => C.undo hE fault
  · exact C.close.bind fun _ _ => .act (fun s => (hpublish _ s).touches) fun _ => .done trivial

end Connection.Confined

end Transactional
