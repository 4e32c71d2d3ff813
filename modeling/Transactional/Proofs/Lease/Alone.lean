import Transactional.Proofs.Lease.Discipline

/-!
# A lease that one has to oneself

Whoever is the only one to use a lease knows exactly what it remembers: the lock is free whenever
one comes, so nobody has to wait for it, and the lease is open until one closes it oneself.  So
every operation does to the connection beneath what it would do without the lease, and it is known
what the lease remembers afterwards.

* `Lease.alone` — the discipline of somebody alone, beside that for the connection beneath.
* `Lease.Tolerates` — the discipline for the connection beneath does not mind the lease.
* `Lease.operate_alone`, `Lease.destroy_alone` — using the lease.
* `Lease.shutdown_alone` — closing it: a transaction that is still open is rolled back, the
  statements are destroyed, and the connection beneath is given back.
-/

namespace Transactional

namespace LeaseState

/-- **What a lease remembers**, up to those who watch it. -/
def plain (state : LeaseState) : LeaseState :=
  { state with signal := { state.signal with waiting := [] } }

/-- A lease that is open and that nobody is using. -/
def held (transaction : Bool) (handles : List StatementHandle) : LeaseState :=
  { inTransaction := transaction, statements := handles }

/-- A lease that has been closed, and whose connection has been taken out. -/
def emptied (transaction listening : Bool) : LeaseState where
  closed := true
  inTransaction := transaction
  holdsBase := false
  listening := listening
  signal := { status := .closed, version := 1 }

def locked (state : LeaseState) : LeaseState :=
  { state with lock := { free := 0 } }

/-- What a lease remembers of its own accord changes. -/
def noting (transaction : Bool → Bool) (handles : List StatementHandle → List StatementHandle)
    (state : LeaseState) : LeaseState :=
  { state with
    inTransaction := transaction state.inTransaction
    statements := handles state.statements }

/-- A lease after an operation, which is noted down if it has succeeded. -/
def heldAfter (tr : α → Bool → Bool) (st : α → List StatementHandle → List StatementHandle)
    (transaction : Bool) (handles : List StatementHandle) : Except Fault α → LeaseState
  | .ok a => .held (tr a transaction) (st a handles)
  | .error _ => .held transaction handles

lemma lock_heldAfter (tr : α → Bool → Bool) (st : α → List StatementHandle → List StatementHandle)
    (transaction : Bool) (handles : List StatementHandle) (r : Except Fault α) :
    (heldAfter tr st transaction handles r).lock = { free := 1 } := by
  cases r <;> rfl

lemma eq_of_plain {state x : LeaseState} (h : state.plain = x) :
    state = { x with signal := { x.signal with waiting := state.signal.waiting } } := by
  rw [← h]
  rfl

end LeaseState

namespace Lease

/-- **The discipline of somebody who has a lease to himself**, beside that for the connection
beneath. -/
def alone (lease : Lease σ) (B : Discipline σ κ) : Discipline σ (LeaseState × κ) where
  knows x s := (lease.cell.get s).plain = x.1 ∧ B.knows x.2 s
  may x s y s' := (lease.cell.get s').plain = y.1 ∧ (x.1.closed = true → y.1.closed = true)
    ∧ B.may x.2 s y.2 s'
  waits x := B.waits x.2

/-- **The discipline for the connection beneath** while the lease stays as it is. -/
def besides (lease : Lease σ) (B : Discipline σ κ) : Discipline σ κ where
  knows := B.knows
  may k s k' s' := (lease.cell.get s').plain = (lease.cell.get s).plain ∧ B.may k s k' s'
  waits := B.waits

variable {lease : Lease σ} {B : Discipline σ κ} {gone : LeaseState × κ → (σ → σ) → Prop} {k : κ}
  {state state' : LeaseState} {transaction : Bool} {handles : List StatementHandle} {s s' : σ}

lemma obeys_of_besides {task : Task σ α} {beyond : κ → (σ → σ) → Prop} {ends : α → κ → Prop}
    (h : task.Obeys (lease.besides B) beyond ends k)
    (hgone : ∀ k f, beyond k f → gone (state, k) f) :
    task.Obeys (lease.alone B) gone (fun a y => y.1 = state ∧ ends a y.2) (state, k) := by
  refine Task.Obeys.map (D := lease.besides B) (fun k => (state, k)) (fun _ _ hs => hs.2) ?_
    (fun _ _ => id) hgone (fun _ _ h => ⟨rfl, h⟩) h
  rintro k s k' s' ⟨hstate, -⟩ ⟨hsame, hmay⟩
  exact ⟨hsame.trans hstate, id, hmay⟩

variable [Host σ]

/-- **The discipline for the connection beneath does not mind the lease**: it bears every change
that concerns nothing else, and it bears with waiting for the next turn. -/
structure Tolerates (lease : Lease σ) (B : Discipline σ κ) : Prop where
  still : ∀ {k s s'}, B.knows k s → Host.Still lease.cell s s' → B.may k s k s'
  keeps : ∀ {k s s'}, B.knows k s → Host.Still lease.cell s s' → B.knows k s'
  before : ∀ {k s m k' s'}, B.knows k s → Host.Still lease.cell s m → B.may k m k' s' →
    B.may k s k' s'
  pause : ∀ k, B.waits k (Task.pause : Wait σ).ready

section

variable (A : lease.Apart) (T : lease.Tolerates B)

include T

lemma alone_still (hs : (lease.alone B).knows (state, k) s) (h : Host.Still lease.cell s s')
    (hget : (lease.cell.get s').plain = state')
    (hclosed : state.closed = true → state'.closed = true) :
    (lease.alone B).may (state, k) s (state', k) s' :=
  ⟨hget, hclosed, T.still hs.2 h⟩

lemma alone_stay (hs : (lease.alone B).knows (state, k) s) :
    (lease.alone B).may (state, k) s (state, k) s :=
  alone_still T hs (.refl s) hs.1 id

lemma alone_noting (tr : Bool → Bool) (st : List StatementHandle → List StatementHandle)
    (hs : (lease.alone B).knows (state, k) s) :
    (lease.alone B).may (state, k) s (state.noting tr st, k)
      (lease.cell.modify (LeaseState.noting tr st) s) := by
  refine alone_still T hs (.modify _ s) ?_ id
  have hstate : (lease.cell.get s).plain = state := hs.1
  rw [lease.cell.get_modify, ← hstate]
  rfl

include A

lemma alone_schedule {f : Schedule → Schedule} (hf : ∀ c, (f c).starts = c.starts)
    (hs : (lease.alone B).knows (state, k) s) :
    (lease.alone B).may (state, k) s (state, k) (Host.schedule.modify f s) :=
  alone_still T hs (.schedule f hf s)
    ((congrArg LeaseState.plain (A.schedule _ s)).trans hs.1) id

/-- **The lock is there** for whoever is alone. -/
lemma acquire_alone (hlock : state.lock = { free := 1 }) (hgone : gone (state, k) id) :
    (Semaphore.acquire lease.lock).Obeys (lease.alone B) gone
      (fun had y => had = true ∧ y = (state.locked, k)) (state, k) := by
  refine ⟨T.pause k, hgone, fun self s hs => alone_schedule A T (Schedule.starts_stepAside self) hs,
    fun s hs _ => ⟨_, alone_stay T hs, fun s hs => ?_⟩⟩
  have hstate : (lease.cell.get s).plain = state := hs.1
  have hfree : lease.lock.get s = { free := 1 } := by
    rw [← hlock, ← hstate]
    rfl
  have hask : Semaphore.ask lease.lock s = Task.spend (lease.lock.modify Semaphore.take s) := by
    simp [Semaphore.ask, hfree]
  refine ⟨(state.locked, k), ?_, ?_⟩
  · rw [hask]
    have htake : Host.Still lease.lock s (lease.lock.modify Semaphore.take s) := .modify _ s
    refine alone_still T hs (htake.of_comp.trans (.spend _)) ?_ id
    have hget : lease.cell.get (Task.spend (lease.lock.modify Semaphore.take s))
        = (lease.cell.get s).locked := by
      refine (A.schedule _ _).trans ((lease.cell.get_set _ s).trans ?_)
      show { lease.cell.get s with lock := (lease.lock.get s).take } = (lease.cell.get s).locked
      rw [hfree]
      rfl
    rw [hget, ← hstate]
    rfl
  · simp only [hfree]
    exact ⟨rfl, rfl⟩

lemma alone_release (hlock : state.lock = { free := 1 })
    (hs : (lease.alone B).knows (state.locked, k) s) :
    (lease.alone B).may (state.locked, k) s (state, k) (Semaphore.release lease.lock s) := by
  refine alone_still T hs (Semaphore.Usable.still_updating _ s).of_comp ?_ id
  have hstate : (lease.cell.get s).plain = state.locked := hs.1
  have hwaiting : state.signal.waiting = [] :=
    (congrArg (fun state => state.signal.waiting) hstate).symm
  rw [A.get_release, LeaseState.eq_of_plain hstate]
  show { state with lock := { free := 1 }, signal := { state.signal with waiting := [] } } = state
  rw [← hlock, ← hwaiting]

lemma enter_alone (hgone : gone (.held transaction handles, k) id) :
    lease.enter.run.Obeys (lease.alone B) gone
      (fun r y => r = .ok () ∧ y = ((LeaseState.held transaction handles).locked, k))
      (.held transaction handles, k) := by
  intro s hs
  have hclosed : (lease.cell.get s).closed = false := congrArg LeaseState.closed hs.1
  refine ⟨_, alone_stay T hs, ?_⟩
  simp only [hclosed]
  refine (acquire_alone A T rfl hgone).bind ?_
  rintro _ _ ⟨rfl, rfl⟩ s hs
  have hclosed : (lease.cell.get s).closed = false := congrArg LeaseState.closed hs.1
  have hholds : (lease.cell.get s).holdsBase = true := congrArg LeaseState.holdsBase hs.1
  refine ⟨_, alone_stay T hs, ?_⟩
  simp only [hclosed, hholds]
  exact ⟨rfl, rfl⟩

/-- **Using the connection beneath.** -/
theorem operate_alone {operation : Attempt σ α} {after : α → LeaseState → LeaseState}
    (tr : α → Bool → Bool) (st : α → List StatementHandle → List StatementHandle)
    (hafter : ∀ a, after a = LeaseState.noting (tr a) (st a)) {ends : Except Fault α → κ → Prop}
    (hoperation : operation.run.Obeys (lease.besides B) (fun _ _ => False) ends k)
    (hgone : gone (.held transaction handles, k) id) :
    (lease.operate operation after).run.Obeys (lease.alone B) gone
      (fun r y => ends r y.2 ∧ y.1 = .heldAfter tr st transaction handles r)
      (.held transaction handles, k) := by
  refine (enter_alone A T hgone).bind ?_
  rintro _ _ ⟨rfl, rfl⟩
  let outcome : Except Fault α → LeaseState := .heldAfter tr st transaction handles
  have hreturn : ∀ (r : Except Fault α) (y : LeaseState × κ) s,
      ends r y.2 ∧ y.1 = (outcome r).locked → (lease.alone B).knows y s →
        ∃ z, (lease.alone B).may y s z (Semaphore.release lease.lock s)
          ∧ ends r z.2 ∧ z.1 = outcome r := by
    rintro r ⟨_, k'⟩ s ⟨hends, rfl⟩ hs
    exact ⟨(outcome r, k'), alone_release A T (LeaseState.lock_heldAfter ..) hs, hends, rfl⟩
  refine Task.Obeys.holding ?_ hreturn
  refine (obeys_of_besides hoperation fun _ _ h => h.elim).bind ?_
  rintro (fault | a) ⟨_, k'⟩ ⟨rfl, hends⟩
  · exact ⟨hends, rfl⟩
  · intro s hs
    rw [hafter]
    exact ⟨_, alone_noting T (tr a) (st a) hs, hends, rfl⟩

omit A in
/-- **Destroying a statement.** -/
lemma destroy_alone {handle : StatementHandle} {ends : κ → Prop}
    (hdestroy : ∀ s, B.knows k s →
      ∃ k', (lease.besides B).may k s k' (lease.base.destroy handle s) ∧ ends k')
    (hs : (lease.alone B).knows (.held transaction handles, k) s) :
    ∃ y, (lease.alone B).may (.held transaction handles, k) s y (lease.destroy handle s)
      ∧ ends y.2 ∧ y.1 = .held transaction (handles.filter (·.id != handle.id)) := by
  have hnoted := alone_noting T id (List.filter (·.id != handle.id)) hs
  have hstill : Host.Still lease.cell s (lease.cell.modify (LeaseState.forget handle) s) :=
    .modify _ s
  have hget : (lease.cell.get (lease.cell.modify (LeaseState.forget handle) s)).plain
      = .held transaction (handles.filter (·.id != handle.id)) := hnoted.1
  have hdo : lease.destroy handle s
      = lease.base.destroy handle (lease.cell.modify (LeaseState.forget handle) s) := by
    unfold destroy
    rw [if_pos]
    rw [LeaseState.eq_of_plain hget]
    rfl
  obtain ⟨k', ⟨hsame, hmay⟩, hends⟩ := hdestroy _ (T.keeps hs.2 hstill)
  refine ⟨(.held transaction (handles.filter (·.id != handle.id)), k'), ⟨?_, id, ?_⟩, hends, rfl⟩
  · rw [hdo, hsame, hget]
  · rw [hdo]
    exact T.before hs.2 hstill hmay

/-! ## Closing the lease -/

/-- **Rolling back a transaction that is still open.** -/
lemma tidyTransaction_alone {listening : Bool} {tidied : κ → Prop}
    (hrollback : transaction = true →
      lease.base.rollback.run.Obeys (lease.besides B) (fun _ _ => False) (fun _ => tidied) k)
    (hnothing : transaction = false → tidied k) :
    lease.tidyTransaction.Obeys (lease.alone B) gone
      (fun _ y => y.1 = .emptied false listening ∧ tidied y.2)
      (.emptied transaction listening, k) := by
  intro s hs
  have hopen : (lease.cell.get s).inTransaction = transaction :=
    congrArg LeaseState.inTransaction hs.1
  refine ⟨(.emptied false listening, k), alone_noting T (fun _ => false) id hs, ?_⟩
  simp only [hopen]
  cases transaction with
  | false => exact ⟨rfl, hnothing rfl⟩
  | true =>
    refine (obeys_of_besides (hrollback rfl) fun _ _ h => h.elim).bind ?_
    rintro (fault | _) ⟨_, k'⟩ ⟨rfl, htidied⟩
    · refine fun s hs => ⟨_, alone_still T hs (.report _ s) ?_ id, rfl, htidied⟩
      exact (congrArg LeaseState.plain (A.traces _ s)).trans hs.1
    · exact ⟨rfl, htidied⟩

/-- **Closing the lease**: a transaction that is still open is rolled back, the statements are
destroyed, and the connection beneath is given back. -/
theorem shutdown_alone (tidied : κ → Prop) {ends : κ → Prop} (hgone : ∀ y, gone y id)
    (hrollback : transaction = true →
      lease.base.rollback.run.Obeys (lease.besides B) (fun _ _ => False) (fun _ => tidied) k)
    (hnothing : transaction = false → tidied k)
    (hback : ∀ k s, tidied k → (lease.alone B).knows (.emptied false true, k) s →
      ∃ k', (lease.alone B).may (.emptied false true, k) s (.emptied false false, k')
        (lease.release (lease.destroyAll handles s)) ∧ ends k') :
    (lease.shutdown .closed).Obeys (lease.alone B) gone
      (fun _ y => y.1 = .emptied false false ∧ ends y.2) (.held transaction handles, k) := by
  intro s hs
  have hclosed : (lease.cell.get s).closed = false := congrArg LeaseState.closed hs.1
  let closing : LeaseState := { LeaseState.held transaction handles with closed := true }
  refine ⟨(closing, k), alone_still T hs (.modify _ s) ?_ fun _ => rfl, ?_⟩
  · rw [lease.cell.get_modify, LeaseState.eq_of_plain hs.1]
    rfl
  simp only [hclosed]
  have hacquire := acquire_alone A T (show closing.lock = { free := 1 } from rfl)
    (hgone (closing, k))
  refine hacquire.bind ?_
  rintro _ _ ⟨rfl, rfl⟩ s hs
  have hholds : (lease.cell.get s).holdsBase = true := congrArg LeaseState.holdsBase hs.1
  have hhandles : (lease.cell.get s).statements = handles := congrArg LeaseState.statements hs.1
  refine ⟨(.emptied transaction true, k), alone_still T hs (still_surrender _ s) ?_
    fun _ => rfl, ?_⟩
  · rw [A.get_surrender, LeaseState.eq_of_plain hs.1]
    rfl
  simp only [hholds, hhandles]
  refine (tidyTransaction_alone A T hrollback hnothing).guarded.bind ?_
  rintro _ ⟨_, k'⟩ ⟨rfl, htidied⟩ s hs
  obtain ⟨k'', hmay, hends⟩ := hback k' s htidied hs
  exact ⟨(_, k''), hmay, rfl, hends⟩

end

end Lease

end Transactional
