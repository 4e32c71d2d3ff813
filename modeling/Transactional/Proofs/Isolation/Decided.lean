import Transactional.Proofs.Isolation.Calls
import Transactional.Proofs.Run.Account

/-!
# What comes of a transaction

What comes of a task on a lease is decided when it begins, whichever connection and whichever lease
it is, if the task is put together from operations of the lease and from futures that are decided by
what they rely on; unless it takes an id from the counter.

* `Decided` — a task comes to the same end on every connection.
* `Discipline.Settles` — what comes of a future is decided by what it relies on.
* `Connection.Assures` — connections on which every operation is decided: `lease_assures`,
  `Connection.Assures.logged`.
* `Connection.Assures.transaction` — so is a transaction on them.
-/

namespace Transactional

variable {ψ ρ α β : Type}

/-- **What comes of a future is decided by what it relies on**, and so is what can be relied on
afterwards. -/
def Discipline.Settles (E : Discipline World ψ) (task : Task World α) : Prop :=
  ∀ e, ∃ a e', task.Obeys E (fun _ _ => True) (fun r q => r = a ∧ q = e') e

/-- **The discipline of a run that works on its lease.** -/
abbrev working (S : Terms ρ ψ) (base number : Nat) :
    Discipline World (LeaseState × Knowledge ρ ψ) :=
  (Memory.pool.lease base number).alone (knowledge S base number)

/-- A run holds its lease, and knows everything about its connection. -/
def Held (x : LeaseState × Knowledge ρ ψ) : Prop :=
  ∃ transaction handles runState e, x = (.held transaction handles, .informed runState e)

/-- An attempt is over, and the run still holds its lease. -/
def Settled (reply : Reply (Except Fault α)) (y : LeaseState × Knowledge ρ ψ) : Prop :=
  reply.Plain ∧ Held y

/-- A run has closed its lease and let go of its connection. -/
def Parted (x : LeaseState × Knowledge ρ ψ) : Prop :=
  ∃ runState e, x = (.emptied false false, .left runState e)

section

variable (S : Setting ρ ψ)

/-- **A task comes to the same end on every connection**, of which `Q` is true, unless it takes an
id from the counter. -/
def Decided (Q : Reply α → LeaseState × Knowledge ρ ψ → Prop) (task : Nat → Nat → Task World α)
    (x : LeaseState × Knowledge ρ ψ) : Prop :=
  (∀ b n, (task b n).Obeys (working ⟨S, true⟩ b n) (fun _ _ => True) (fun _ y => y.2 = .unsure) x)
    ∨ ∃ reply y, Q reply y ∧ ∀ draws b n, (task b n).Obeys (working ⟨S, draws⟩ b n)
        (fun _ _ => True) (fun a z => a = reply.on b ∧ z = y) x

/-- An attempt that is decided while one holds the lease, and leaves one holding it. -/
def Assured (attempt : Nat → Nat → Task World (Except Fault α)) : Prop :=
  ∀ x : LeaseState × Knowledge ρ ψ, Held x → Decided S Settled attempt x

end

variable {S : Setting ρ ψ} {b n : Nat} {s s' : World} {runState : RunState ρ} {e : ψ}
  {x y : LeaseState × Knowledge ρ ψ}
  {Q : Reply α → LeaseState × Knowledge ρ ψ → Prop}
    {Q' : Reply β → LeaseState × Knowledge ρ ψ → Prop}
  {task : Nat → Nat → Task World α}

lemma unsure_obeys {T : Terms ρ ψ} (hx : x.2 = .unsure) (task : Task World α) :
    task.Obeys (working T b n) (fun _ _ => True) (fun _ y => y.2 = .unsure) x := by
  have hnever : ∀ s, ¬(working T b n).knows x s := by
    rintro s ⟨-, hs⟩
    rw [hx] at hs
    exact hs
  induction task with
  | done a => exact hx
  | act update next ih => exact fun s hs => absurd hs (hnever s)
  | wait on next ih =>
    refine ⟨?_, trivial, fun _ s hs => absurd hs (hnever s), fun s hs => absurd hs (hnever s)⟩
    show Knowledge.Waits T x.2 _
    rw [hx]
    trivial

namespace Decided

lemma done (reply : Reply α) (h : Q reply x) : Decided S Q (fun b _ => .done (reply.on b)) x :=
  .inr ⟨reply, x, h, fun _ _ _ => ⟨rfl, rfl⟩⟩

/-- **One task after the other.** -/
lemma bind {f : Nat → Nat → α → Task World β} (h : Decided S Q task x)
    (hf : ∀ reply y, Q reply y → Decided S Q' (fun b n => f b n (reply.on b)) y) :
    Decided S Q' (fun b n => (task b n).bind (f b n)) x := by
  rcases h with hunsure | ⟨reply, y, hQ, hobeys⟩
  · exact .inl fun b n => (hunsure b n).bind fun _ _ hy => unsure_obeys hy _
  · refine (hf reply y hQ).imp (fun h b n => ?_) ?_
    · refine (hobeys true b n).bind ?_
      rintro _ _ ⟨rfl, rfl⟩
      exact h b n
    · rintro ⟨reply', z, hQ', h⟩
      refine ⟨reply', z, hQ', fun draws b n => (hobeys draws b n).bind ?_⟩
      rintro _ _ ⟨rfl, rfl⟩
      exact h draws b n

lemma act {update : Nat → Nat → World → World} {next : Nat → Nat → Task World α}
    (hmay : ∀ draws b n s, (working ⟨S, draws⟩ b n).knows x s →
      (working ⟨S, draws⟩ b n).may x s y (update b n s))
    (h : Decided S Q next y) :
    Decided S Q (fun b n => .act (update b n) fun _ => next b n) x :=
  Or.imp (fun h b n s hs => ⟨y, hmay true b n s hs, h b n⟩)
    (fun ⟨reply, z, hz, h⟩ =>
      ⟨reply, z, hz, fun draws b n s hs => ⟨y, hmay draws b n s hs, h draws b n⟩⟩) h

end Decided

lemma settled_done (reply : Reply (Except Fault α)) (h : Settled reply x) :
    Decided S Settled (fun b _ => .done (reply.on b)) x :=
  .done reply h

namespace Assured

/-- **One attempt after the other.** -/
lemma andThen {attempt : Nat → Nat → Attempt World α} {f : Nat → Nat → α → Attempt World β}
    (h : Assured S fun b n => (attempt b n).run)
    (hf : ∀ a, Assured S fun b n => (f b n a).run) :
    Assured S fun b n => (attempt b n >>= f b n).run := by
  intro x hx
  refine (h x hx).bind ?_
  rintro (r | ⟨fail, id⟩) y ⟨hplain, hy⟩
  · cases r with
    | error fault => exact settled_done (.same (.error fault)) ⟨trivial, hy⟩
    | ok a => exact hf a y hy
  · obtain rfl := hplain
    exact settled_done (.unprepared .error id) ⟨rfl, hy⟩

lemma pure (r : Except Fault α) :
    Assured S fun _ _ => (Attempt.pureResult r : Attempt World α).run :=
  fun _ hx => settled_done (.same r) ⟨trivial, hx⟩

end Assured

/-- **Connections on which every operation is decided.** -/
structure Connection.Assures (S : Setting ρ ψ) (conn : Nat → Nat → Connection World) : Prop where
  begin : Assured S fun b n => (conn b n).begin.run
  commit : Assured S fun b n => (conn b n).commit.run
  rollback : Assured S fun b n => (conn b n).rollback.run
  prepare : ∀ sql kind, Assured S fun b n => ((conn b n).prepare sql kind).run
  execute : ∀ handle bindings, Assured S fun b n => ((conn b n).execute handle bindings).run
  destroy : ∀ handle {x}, Held x → ∃ y, Held y ∧ ∀ draws b n s,
    (working ⟨S, draws⟩ b n).knows x s →
      (working ⟨S, draws⟩ b n).may x s y ((conn b n).destroy handle s)
  close : ∀ {x}, Held x → Decided S (fun _ => Parted) (fun b n => (conn b n).close) x
  drop : ∀ b n s, ((LeaseHost.leases n).get s).closed = true → (conn b n).drop s = s

/-! ## Operations of a lease -/

section Leasing

variable (hS : S.futures.Discreet S.heard)

include hS

/-- **An operation of a lease** is decided if the call on the connection beneath is. -/
lemma operate_assured {operation : Nat → Attempt World α} {after : α → LeaseState → LeaseState}
    (tr : α → Bool → Bool) (st : α → List StatementHandle → List StatementHandle)
    (hafter : ∀ a, after a = LeaseState.noting (tr a) (st a))
    (h : ∀ (runState : RunState ρ) (e : ψ),
      (∀ b n, (operation b).run.Obeys (beneath ⟨S, true⟩ b n) (fun _ _ => False)
          (fun _ k => k = .unsure) (.informed runState e))
        ∨ ∃ (reply : Reply (Except Fault α)) (runState' : RunState ρ), reply.Plain ∧ ∀ draws b n,
            (operation b).run.Obeys (beneath ⟨S, draws⟩ b n) (fun _ _ => False)
              (fun r k => r = reply.on b ∧ k = .informed runState' e) (.informed runState e)) :
    Assured S fun b n => ((Memory.pool.lease b n).operate (operation b) after).run := by
  rintro x ⟨transaction, handles, runState, e, rfl⟩
  rcases h runState e with hunsure | ⟨reply, runState', hplain, hreply⟩
  · refine .inl fun b n => ?_
    exact (Lease.operate_alone (Memory.apart b n) (knowledge_tolerates hS) tr st hafter
      (hunsure b n)
      trivial).imp fun _ _ h => h.1
  · have hobeys : ∀ draws b n, ((Memory.pool.lease b n).operate (operation b) after).run.Obeys
        (working ⟨S, draws⟩ b n) (fun _ _ => True)
        (fun r y => (r = reply.on b ∧ y.2 = .informed runState' e)
          ∧ y.1 = .heldAfter tr st transaction handles r)
        (.held transaction handles, .informed runState e) := fun draws b n =>
      Lease.operate_alone (Memory.apart b n) (knowledge_tolerates hS) tr st hafter
        (hreply draws b n) trivial
    -- What the lease remembers afterwards depends on how the call ended, but not on the connection.
    rcases reply with (fault | a) | ⟨fail, id⟩
    · refine .inr ⟨_, (.held transaction handles, .informed runState' e), ⟨hplain, _, _, _, _, rfl⟩,
        fun draws b n => (hobeys draws b n).imp ?_⟩
      rintro _ ⟨_, _⟩ ⟨⟨rfl, rfl⟩, rfl⟩
      exact ⟨rfl, rfl⟩
    · refine .inr ⟨_, (.held (tr a transaction) (st a handles), .informed runState' e),
        ⟨hplain, _, _, _, _, rfl⟩, fun draws b n => (hobeys draws b n).imp ?_⟩
      rintro _ ⟨_, _⟩ ⟨⟨rfl, rfl⟩, rfl⟩
      exact ⟨rfl, rfl⟩
    · obtain rfl : fail = .error := hplain
      refine .inr ⟨.unprepared .error id, (.held transaction handles, .informed runState' e),
        ⟨rfl, _, _, _, _, rfl⟩, fun draws b n => (hobeys draws b n).imp ?_⟩
      rintro _ ⟨_, _⟩ ⟨⟨rfl, rfl⟩, rfl⟩
      exact ⟨rfl, rfl⟩

lemma plain_assured {call : Nat → Memory.Call} (hcall : ∀ b, (call b).number = b)
    (honto : ∀ b, (call b).onto 0 = call 0) (pick : Memory.Failures → Option String)
    {after : Unit → LeaseState → LeaseState} (tr : Unit → Bool → Bool)
    (hafter : ∀ a, after a = LeaseState.noting (tr a) id) :
    Assured S fun b n =>
      ((Memory.pool.lease b n).operate (Memory.plainCall b (call b) pick) after).run := by
  refine operate_assured hS tr (fun _ => id) hafter fun runState e => .inr ?_
  refine ⟨.same (Memory.verdict (pick S.failures)), runState.call (call 0), trivial,
    fun draws b n => ?_⟩
  have hrunState : runState.call (call b) = runState.call (call 0) := by
    simp only [RunState.call, honto]
  rw [← hrunState]
  exact plainCall_informed hS (hcall b) pick

/-- **Closing the lease.** -/
lemma close_decided (hx : Held x) :
    Decided S (fun _ => Parted)
      (fun b n => (Memory.pool.lease b n : Lease World).connection.close) x := by
  obtain ⟨transaction, handles, runState, e, rfl⟩ := hx
  let tidied : RunState ρ := if transaction then runState.call (.rollback 0) else runState
  refine .inr ⟨.same (), (.emptied false false, .left (tidied.cleared handles) e), ⟨_, _, rfl⟩,
    fun draws b n => ?_⟩
  let T : Terms ρ ψ := ⟨S, draws⟩
  have hrollback : transaction = true → (Memory.plainCall b (.rollback b) Memory.Failures.rollback
      : Attempt World Unit).run.Obeys (beneath T b n) (fun _ _ => False)
        (fun _ k => k = .informed tidied e) (.informed runState e) := by
    rintro rfl
    have hcall : (Memory.Call.rollback b).number = b := rfl
    exact (plainCall_informed hS hcall _).imp fun _ _ h => h.2
  have hback : ∀ k s, k = Knowledge.informed tidied e → (working T b n).knows
    (.emptied false true, k) s →
      ∃ k', (working T b n).may (.emptied false true, k) s (.emptied false false, k')
          ((Memory.pool.lease b n).release ((Memory.pool.lease b n).destroyAll handles s))
        ∧ k' = .left (tidied.cleared handles) e := by
    rintro _ s rfl hs
    exact ⟨_, release_informed hS handles hs, rfl⟩
  refine (Lease.shutdown_alone (Memory.apart b n) (knowledge_tolerates hS) (· = .informed tidied e)
    (fun _ => trivial) hrollback ?_ hback).imp ?_
  · rintro rfl
    rfl
  · rintro _ ⟨_, _⟩ ⟨rfl, rfl⟩
    exact ⟨rfl, rfl⟩

/-- **A lease of the pool assures that.** -/
theorem lease_assures :
    Connection.Assures S fun b n => (Memory.pool.lease b n : Lease World).connection where
  begin := plain_assured hS (fun _ => rfl) (fun _ => rfl) _ (fun _ _ => true) fun _ => rfl
  commit := plain_assured hS (fun _ => rfl) (fun _ => rfl) _ (fun _ _ => false) fun _ => rfl
  rollback := plain_assured hS (fun _ => rfl) (fun _ => rfl) _ (fun _ _ => false) fun _ => rfl
  prepare sql kind := by
    refine operate_assured hS (fun _ => id) (fun handle handles => handles ++ [handle])
      (fun _ => rfl) fun runState e => .inr ⟨.same (.ok ⟨runState.next, sql, kind⟩),
        runState.prepared sql,
        trivial, fun draws b n => prepare_informed hS sql kind⟩
  execute handle bindings := by
    refine operate_assured hS (fun _ => id) (fun _ => id) (fun _ => rfl) fun runState e => ?_
    cases hreply : runState.reply? S.responses handle with
    | none => exact .inl fun b n => execute_unsure hS rfl bindings hreply
    | some reply =>
      exact .inr ⟨reply, runState.call (.execute 0 handle.sql bindings),
        runState.plain_of_reply? hreply,
        fun draws b n => execute_informed hS bindings hreply⟩
  destroy := by
    rintro handle x ⟨transaction, handles, runState, e, rfl⟩
    refine ⟨(.held transaction (handles.filter (·.id != handle.id)),
      .informed (runState.destroyed handle) e),
      ⟨_, _, _, _, rfl⟩, fun T b n s hs => ?_⟩
    have hdestroy : ∀ s, (knowledge ⟨S, T⟩ b n).knows (.informed runState e) s →
        ∃ k, (beneath ⟨S, T⟩ b n).may (.informed runState e) s k
            ((Memory.pool.lease b n : Lease World).base.destroy handle s)
          ∧ k = .informed (runState.destroyed handle) e :=
            fun s hs => ⟨_, destroy_informed hS handle hs, rfl⟩
    obtain ⟨⟨_, _⟩, hmay, rfl, rfl⟩ := Lease.destroy_alone (knowledge_tolerates hS) hdestroy hs
    exact hmay
  close := close_decided hS
  drop b n s hclosed := if_pos hclosed

end Leasing

end Transactional
