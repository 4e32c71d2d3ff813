import Transactional.Proofs.Run.Ledger

/-!
# The operations of a run, one at a time

What a run does with its connection goes through its lease: an operation is refused if the lease is
closed, and otherwise it is a call on the connection beneath, entered in the books.

* `Run.leaseDiscipline` — the discipline of the run and of those who look after its lease.
* `Run.plain_obeys`, `Run.prepare_obeys`, `Run.execute_obeys`, `Run.destroy_may` — each operation.
-/

namespace Transactional.Run

variable {ρ : Type}

/-- **The discipline of a run on its lease**, and of those who look after the lease. -/
abbrev leaseDiscipline (asked : Memory.Call → Prop) (base number : Nat) (heard : World → List ρ) :
    Discipline World (Stage × Part ρ) :=
  (Memory.pool.lease base number).discipline (.watch base number)
    (ledger asked base number heard).blind

variable {asked : Memory.Call → Prop} {base number : Nat} {heard : World → List ρ}
  {s s' s'' : World} {b : Book ρ} {p : Stage} {k : Part ρ} {x y : Stage × Part ρ}
  {gone : Stage × Part ρ → (World → World) → Prop}

/-! ## Changes -/

lemma holds_of_knows (hs : (leaseDiscipline asked base number heard).knows x s) :
    Holds base number s := by
  obtain ⟨p, k⟩ := x
  cases k with
  | runner b => exact hs.2.1
  | helper => exact hs.2

lemma may_outside (hs : (leaseDiscipline asked base number heard).knows x s)
    (h : World.Outside base number heard s s') :
    (leaseDiscipline asked base number heard).may x s x s' :=
  ⟨Lease.step_of_grows h.grows, (silent_of_outside h).may hs.2⟩

lemma may_then_outside (h : (leaseDiscipline asked base number heard).may x s y s')
    (h' : World.Outside base number heard s' s'') :
    (leaseDiscipline asked base number heard).may x s y s'' := by
  obtain ⟨⟨m, hdoes, hgrows⟩, hmay⟩ := h
  refine ⟨⟨m, hdoes, hgrows.trans h'.grows⟩, ?_⟩
  obtain ⟨p, k⟩ := x
  obtain ⟨q, k'⟩ := y
  cases k with
  | runner b =>
    cases k' with
    | runner b' => exact Records.silent hmay (silent_of_outside h')
    | helper => exact hmay.elim
  | helper =>
    cases k' with
    | runner b' => exact hmay.elim
    | helper => exact Silent.trans hmay (silent_of_outside h')

lemma records_modify (hheard : World.Unheard heard)
    (hs : (ledger asked base number heard).knows (.runner b) s) (pending : Bool)
    {f : LeaseState → LeaseState} (hlistening : ∀ state, (f state).listening = state.listening)
    (htransaction : (f ((LeaseHost.leases number).get s)).inTransaction = pending)
    (hstatements : ∀ handle ∈ (f ((LeaseHost.leases number).get s)).statements,
      asked (.destroy base handle.sql)) :
    Records asked base number heard b s { b with pending := pending }
      ((Memory.pool.lease base number).cell.modify f s) := by
  obtain ⟨⟨hhas, hstatus, halive⟩, -⟩ := hs
  have hget : (LeaseHost.leases number).get ((Memory.pool.lease base number).cell.modify f s)
      = f ((LeaseHost.leases number).get s) := Cell.get_modify _ _ _
  refine ⟨.of_same rfl rfl, ⟨[], ?_, ?_⟩, ⟨[], ?_, ?_, fun hne => absurd rfl hne⟩,
    ⟨⟨hhas.linkCount, hhas.leaseCount⟩, hstatus, ?_⟩, ?_, ?_⟩
  · rw [List.append_nil]
    rfl
  · rw [List.map_nil, List.append_nil]
  · rw [List.append_nil]
  · rw [List.append_nil]
    exact hheard.leases number _ s
  · rw [hget, hlistening]
    exact halive
  · rw [hget]
    exact htransaction
  · rw [hget]
    exact hstatements

/-- A call on the connection beneath is entered in the books, and the lease sees nothing of it. -/
lemma beneath_works (hheard : World.Unheard heard) {firm : Bool} {calls : List Memory.Call}
    (hs : (ledger asked base number heard).knows (.runner b) s) (h : World.Works base calls s s') :
    ((Memory.pool.lease base number).beneath (.watch base number)
        (ledger asked base number heard).blind p firm).may (.runner b) s
      (.runner { b with calls := b.calls ++ calls.map fun call => (call, call.granted s) }) s' := by
  refine ⟨?_, records_of_works hheard h hs⟩
  rw [h.aspect]
  exact .refl _

/-! ## Calls through the lease -/

/-- The books after a call that begins or ends the transaction. -/
def Book.after (b : Book ρ) (call : Memory.Call) (pending : Bool) (r : Except Fault Unit) :
    Book ρ :=
  { b with
    calls := b.calls ++ [(call, r.toBool)]
    pending := if r.toBool then pending else b.pending }

/-- **What becomes of an operation**: it is refused, or it is over and the books say `ends`. -/
def Comes (p : Stage) (firm keep : Bool) (b : Book ρ) (ends : Except Fault α → Book ρ → Prop)
    (r : Except Fault α) (x : Stage × Part ρ) : Prop :=
  r = .error .closedConnection ∧ x = (p.refused, .runner b)
    ∨ p.sight ≠ .closed ∧ ∃ b',
      x = (p.returned (if r.toBool then keep else firm), .runner b') ∧ ends r b'

section Calls

variable (hheard : World.Unheard heard) {firm keep : Bool}
  (hfirm : firm = true → p.prompt = true) (hkeep : keep = true → firm = true)
  (hplace : p.place = .away) (haway : gone ({ p with sight := .unsure }, .runner b) id)
  (hline : ∀ t, gone ({ p with place := .inLine t, sight := .unsure }, .runner b)
    (Semaphore.updating (Memory.pool.lease base number : Lease World).lock (Semaphore.withdraw t)))

include hheard hfirm hkeep hplace haway hline

/-- **An operation on the connection beneath, through the lease.** -/
lemma call_obeys {operation : Attempt World α} {after : α → LeaseState → LeaseState}
    (reached : Except Fault α → Book ρ → Prop) {ends : Except Fault α → Book ρ → Prop}
    (hnotes : ∀ a, Lease.Notes (after a))
    (hoperation : operation.run.Obeys ((Memory.pool.lease base number).beneath
        (.watch base number) (ledger asked base number heard).blind (p.entered firm) firm)
      (fun _ _ => False) (fun r k => ∃ b', k = .runner b' ∧ reached r b') (.runner b))
    (hok : ∀ a b' s, reached (.ok a) b' → (ledger asked base number heard).knows (.runner b') s →
      ∃ b'', Records asked base number heard b' s b''
          ((Memory.pool.lease base number).cell.modify (after a) s)
        ∧ ends (.ok a) b'')
    (herror : ∀ fault b', reached (.error fault) b' → ends (.error fault) b') :
    ((Memory.pool.lease base number).operate operation after).run.Obeys
      (leaseDiscipline asked base number heard) gone (Comes p firm keep b ends) (p, .runner b) := by
  have hignores (k : Part ρ) :
      (Memory.pool.lease base number).Ignores (ledger asked base number heard).blind k :=
    ignores hheard k
  have hobeys := Lease.operate_obeys (Memory.apart base number) (hignores _)
    (Lease.grants_of_ignores (hignores _)) hfirm hkeep hplace haway hline
    (fun r k => ∃ b', k = .runner b' ∧ ends r b') (fun r k => ∃ b', k = .runner b' ∧ ends r b')
    hoperation (fun _ _ h => h.elim) hnotes ?_ ?_ ?_
  · refine hobeys.imp ?_
    rintro r ⟨q, k⟩ (hrefused | ⟨rfl, hsight, b', rfl, hends⟩)
    · exact .inl hrefused
    · exact .inr ⟨hsight, b', rfl, hends⟩
  · rintro a k ⟨b', rfl, hreached⟩ s hs
    obtain ⟨b'', hrecords, hends⟩ := hok a b' s hreached hs
    exact ⟨.runner b'', hrecords, b'', rfl, hends⟩
  · rintro fault k ⟨b', rfl, hreached⟩
    exact ⟨b', rfl, herror fault b' hreached⟩
  · intro r k s keep hends hs
    exact ⟨k, hignores k _ _ s _ hs ((Memory.apart base number).inward_release s), hends⟩

/-- **Beginning and ending a transaction.** -/
lemma plain_obeys {call : Memory.Call} {pick : Memory.Failures → Option String} {pending : Bool}
    {after : LeaseState → LeaseState} (hcall : call.number = base)
    (hgranted : ∀ s, (Memory.plainAnswer base pick s).toBool = call.granted s)
    (hafter : ∀ state, after state = { state with inTransaction := pending }) :
    ((Memory.pool.lease base number).operate (Memory.plainCall base call pick)
      fun _ => after).run.Obeys (leaseDiscipline asked base number heard) gone
      (Comes p firm keep b fun r b' => b' = b.after call pending r) (p, .runner b) := by
  have hnotes : ∀ _ : Unit, Lease.Notes after := by
    intro _ state
    rw [hafter]
  refine call_obeys hheard hfirm hkeep hplace haway hline
    (fun r b' => b' = { b with calls := b.calls ++ [(call, r.toBool)] }) hnotes
    (Memory.plainCall_obeys fun s hs => ?_) ?_ ?_
  · refine ⟨_, beneath_works hheard hs (.note hcall s), _, rfl, ?_⟩
    rw [hgranted]
    rfl
  · rintro ⟨⟩ b' s rfl hs
    refine ⟨_, records_modify hheard hs pending (fun state => ?_) ?_ ?_, rfl⟩
    · rw [hafter]
    · rw [hafter]
    · rw [hafter]
      exact hs.2.statements
  · rintro fault b' rfl
    rfl

/-- **Preparing a statement** that the program asks for. -/
lemma prepare_obeys {sql : String} (kind : StatementKind) (hasked : asked (.destroy base sql)) :
    ((Memory.pool.lease base number : Lease World).connection.prepare sql kind).run.Obeys
      (leaseDiscipline asked base number heard) gone
      (Comes p firm keep b fun r b' =>
        b' = { b with calls := b.calls ++ [(.prepare base sql, true)] }
          ∧ ∀ handle, r = .ok handle → handle.sql = sql) (p, .runner b) := by
  refine call_obeys hheard hfirm hkeep hplace haway hline
    (fun r b' => b' = { b with calls := b.calls ++ [(.prepare base sql, true)] }
      ∧ ∀ handle, r = .ok handle → handle.sql = sql) (fun _ _ => rfl)
    (Memory.prepare_obeys fun s s' hs hworks outcome hsql => ?_) ?_ fun _ _ => id
  · exact ⟨_, beneath_works hheard hs hworks, _, rfl, rfl, hsql⟩
  · rintro handle b' s ⟨rfl, hsql⟩ hs
    refine ⟨_, records_modify hheard hs b.pending (fun state => rfl) hs.2.transaction ?_, rfl, hsql⟩
    intro other hother
    rcases List.mem_append.mp hother with hother | hother
    · exact hs.2.statements other hother
    · rw [List.mem_singleton.mp hother, hsql handle rfl]
      exact hasked

/-- **Executing a statement.** -/
lemma execute_obeys (handle : StatementHandle) (bindings : List Scalar) :
    ((Memory.pool.lease base number : Lease World).connection.execute handle bindings).run.Obeys
      (leaseDiscipline asked base number heard) gone
      (Comes p firm keep b fun _ b' =>
        b' = { b with calls := b.calls ++ [(.execute base handle.sql bindings, true)] })
      (p, .runner b) := by
  refine call_obeys hheard hfirm hkeep hplace haway hline
    (fun _ b' => b' = { b with calls := b.calls ++ [(.execute base handle.sql bindings, true)] })
    (fun _ _ => rfl) (Memory.execute_obeys fun s s' hs hworks outcome => ?_) ?_ fun _ _ => id
  · exact ⟨_, beneath_works hheard hs hworks, _, rfl, rfl⟩
  · rintro outcome b' s rfl hs
    exact ⟨_, records_modify hheard hs b.pending (fun state => rfl) hs.2.transaction
      hs.2.statements, rfl⟩

end Calls

/-! ## Destroying statements -/

lemma records_destroyed (hheard : World.Unheard heard)
    (hs : (ledger asked base number heard).knows (.runner b) s)
    (hsilent : Silent asked base number heard s s') {calls : List Memory.Call}
    (h : World.Works base calls s' s'') (hcalls : ∀ call ∈ calls, ∃ sql, call = .destroy base sql) :
    Records asked base number heard b s
      { b with calls := b.calls ++ calls.map fun call => (call, true) } s'' := by
  have hgranted : ∀ s : World, (calls.map fun call => (call, call.granted s))
      = calls.map fun call => (call, true) := by
    intro s
    refine List.map_congr_left fun call hcall => ?_
    obtain ⟨sql, rfl⟩ := hcalls call hcall
    rfl
  have hrecords := records_of_works hheard h ⟨hsilent.holds hs.1, hsilent.remembers _ hs.2⟩
  rw [hgranted] at hrecords
  obtain ⟨hlasting, -, ⟨told, htold, hheard', -⟩, hholds, hremembers⟩ := hrecords
  refine ⟨hsilent.toLasting.trans hlasting, ⟨calls, ?_, ?_⟩,
    ⟨[], ?_, ?_, fun hne => absurd rfl hne⟩, hholds, hremembers⟩
  · rw [h.callsOn, hsilent.calls]
  · rw [hgranted]
  · rw [List.append_nil]
  · rw [hheard', hsilent.heard, List.append_cancel_left (htold.symm.trans (List.append_nil _).symm)]

lemma inward_forget (handle : StatementHandle) (s : World) :
    (Memory.pool.lease base number).Inward s
      ((Memory.pool.lease base number).cell.modify (LeaseState.forget handle) s) :=
  Lease.inward_modify _ s rfl (List.filter_subset_self _) rfl

/-- **Destroying a statement through the lease.** -/
lemma destroy_may (hheard : World.Unheard heard) (handle : StatementHandle)
    (hs : (leaseDiscipline asked base number heard).knows (p, .runner b) s) :
    ∃ calls : List Memory.Call, (∀ call ∈ calls, call = .destroy base handle.sql)
      ∧ (leaseDiscipline asked base number heard).may (p, .runner b) s
        (p, .runner { b with calls := b.calls ++ calls.map fun call => (call, true) })
        ((Memory.pool.lease base number : Lease World).connection.destroy handle s) := by
  have hsilent : Silent asked base number heard s
      ((Memory.pool.lease base number).cell.modify (LeaseState.forget handle) s) :=
    silent_of_inward hheard (inward_forget handle s)
  have hworks : ∃ calls, (∀ call ∈ calls, call = Memory.Call.destroy base handle.sql)
      ∧ World.Works base calls
        ((Memory.pool.lease base number).cell.modify (LeaseState.forget handle) s)
        ((Memory.pool.lease base number : Lease World).connection.destroy handle s) := by
    show ∃ calls, _ ∧ World.Works base calls _ ((Memory.pool.lease base number).destroy handle s)
    unfold Lease.destroy
    dsimp only
    split
    · rcases Memory.destroy_works base handle
        ((Memory.pool.lease base number).cell.modify (LeaseState.forget handle) s) with h | h
      · exact ⟨[], by simp, h⟩
      · exact ⟨_, by simp, h⟩
    · exact ⟨[], by simp, .refl _⟩
  obtain ⟨calls, hcalls, hworks⟩ := hworks
  refine ⟨calls, hcalls, ?_, records_destroyed hheard hs.2 hsilent hworks fun call hcall =>
    ⟨_, hcalls call hcall⟩⟩
  refine Lease.step_of_grows ?_
  rw [hworks.aspect, (Memory.apart base number).aspect_notes fun _ => rfl]
  exact .refl _

end Transactional.Run
