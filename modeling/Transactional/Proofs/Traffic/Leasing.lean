import Transactional.Proofs.Traffic.Deals

/-!
# Working on a lease of the pool

Every operation on a lease of the pool makes its calls under the lock, and the close of the lease
makes them after it has taken the connection out.  So whoever makes a call has the connection in
hand.

* `Role.Attends`, `Role.Left` — working on a lease with nothing in hand, and having closed it.
* `Connection.Trades` — a connection that is as good as the lease.
* `lease_trades`, `Connection.Trades.logged` — the lease is, and so is a connection that writes a
  log.
* `Connection.Trades.call_keeps`, `job_keeps` — calls on a lease, and its jobs, keep to the
  discipline.
-/

namespace Transactional

/-- **Working on a lease with nothing in hand**, between two operations. -/
def Role.Attends (base number : Nat) (errand : Errand) (loyal : Bool) (r : Role) : Prop :=
  ∃ sight, sight ≠ Sight.open ∧ r = .leased base number { errand, sight } false loyal

/-- **Having closed a lease**, or having found it closed. -/
def Role.Left (base number : Nat) (loyal : Bool) (r : Role) : Prop :=
  ∃ q : Stage, q.Over ∧ q.sight = .closed ∧ r = .leased base number q false loyal

/-- **A connection that is as good as a lease** for those who share the pool. -/
structure Connection.Trades (base number : Nat) (conn : Connection World) : Prop where
  connect : ∀ {awaited} errand loyal,
    Task.Stays (trade awaited) (Role.Attends base number errand loyal) (fun _ => True)
      conn.connect.run
  begin : ∀ {awaited} errand loyal,
    Task.Stays (trade awaited) (Role.Attends base number errand loyal) (fun _ => True)
      conn.begin.run
  commit : ∀ {awaited} errand loyal,
    Task.Stays (trade awaited) (Role.Attends base number errand loyal) (fun _ => True)
      conn.commit.run
  rollback : ∀ {awaited} errand loyal,
    Task.Stays (trade awaited) (Role.Attends base number errand loyal) (fun _ => True)
      conn.rollback.run
  prepare : ∀ {awaited} errand loyal sql kind,
    Task.Stays (trade awaited) (Role.Attends base number errand loyal)
      (fun r => ∀ handle, r = .ok handle → handle.sql = sql) (conn.prepare sql kind).run
  execute : ∀ {awaited} errand loyal handle bindings,
    Task.Stays (trade awaited) (Role.Attends base number errand loyal) (fun _ => True)
      (conn.execute handle bindings).run
  destroy : ∀ {awaited} errand loyal handle,
    Task.Stays (trade awaited) (Role.Attends base number errand loyal) (fun _ => True)
      (Task.change (conn.destroy handle))
  close : ∀ {awaited} loyal r, Role.Attends base number .pledged loyal r →
    conn.close.Obeys (trade awaited) (fun _ _ => True) (fun _ => Role.Left base number loyal) r
  drop : conn.drop = (Memory.pool.lease base number).drop

variable {awaited : (World → Bool) → Prop} {base number : Nat} {errand : Errand} {loyal : Bool}
  {s s' : World} {p : Stage}

/-! ## Under the lock -/

lemma leases_of_works {calls : List Memory.Call} (h : World.Works base calls s s') :
    s'.traffic.leases = s.traffic.leases := by
  rw [h.traffic]

/-- **Calling the connection beneath**, by whoever has it in hand. -/
lemma beneath_may {calls : List Memory.Call} (hs : p.Grip base number true s)
    (h : World.Works base calls s s') :
    ((Memory.pool.lease base number).beneath (.watch base number) (grip base number) p false).may
      true s true s' := by
  refine ⟨?_, .work (.refl s) h fun _ => hs.unreturned rfl, fun _ => ?_⟩
  · rw [h.aspect]
    exact .refl _
  · rw [leases_of_works h]
    exact hs.grasps rfl

/-- **An operation on the connection beneath, through the lease.** -/
lemma operate_stays {operation : Attempt World α} {after : α → LeaseState → LeaseState}
    {Q : Except Fault α → Prop} (hnotes : ∀ a, Lease.Notes (after a))
    (hrefused : Q (.error .closedConnection))
    (hoperation : ∀ p : Stage, operation.run.Obeys
      ((Memory.pool.lease base number).beneath (.watch base number) (grip base number) p false)
      (fun _ _ => False) (fun r held => held = true ∧ Q r) true) :
    Task.Stays (trade awaited) (Role.Attends base number errand loyal) Q
      ((Memory.pool.lease base number).operate operation after).run := by
  rintro r ⟨sight, hsight, rfl⟩
  have hfirm : false = true → ({ errand, sight } : Stage).prompt = true := by simp
  refine leased_obeys loyal (Lease.operate_obeys (Memory.apart base number)
    (grip_ignores base number) (grip_grants base number) hfirm id rfl ?_ ?_
    (fun r held => held = true ∧ Q r) (fun r held => held = false ∧ Q r) (hoperation _)
    (fun _ _ h => h.elim) hnotes ?_ (fun _ _ h => h) ?_) (fun _ _ h => h) ?_
  · exact fun s _ => ⟨_, .refl, .unsure, by simp, rfl⟩
  · intro t s hs
    have U := Lease.usable (.watch base number) (Memory.apart base number)
      (grip_ignores base number) { errand, sight := .unsure } (by simp)
    exact ⟨_, trade_of_deal (.use (U.withdraw hs)), .unsure, by simp, rfl⟩
  · rintro a held ⟨rfl, hQ⟩ s hs
    have htends : World.Tends base number s ((LeaseHost.leases number).modify (after a) s) :=
      World.tends_modify (fun state => by rw [hnotes a]) s
    refine ⟨true, ⟨.work htends (.refl _) fun hne => absurd rfl hne, fun _ => ?_⟩, rfl, hQ⟩
    have hholds : (((LeaseHost.leases number).modify (after a) s).traffic.leases number).holdsBase
        = (s.traffic.leases number).holdsBase := by
      have hget : (LeaseHost.leases number).get ((LeaseHost.leases number).modify (after a) s)
          = after a ((LeaseHost.leases number).get s) := Cell.get_modify _ _ _
      refine (congrArg LeaseState.holdsBase hget).trans ?_
      rw [hnotes a]
      rfl
    exact (hs.grasps rfl).imp_left fun h => ⟨h.1, hholds.trans h.2⟩
  · rintro r held s keep ⟨rfl, hQ⟩ hs
    exact ⟨false, ⟨handles_of_inward ((Memory.apart base number).inward_release s),
      fun hfalse => by cases hfalse⟩, rfl, hQ⟩
  · rintro r ⟨q, held⟩ (⟨rfl, hq⟩ | ⟨hq, -, rfl, hQ⟩)
    · obtain ⟨rfl, rfl⟩ := Prod.mk.inj hq
      exact ⟨⟨.closed, by simp, rfl⟩, hrefused⟩
    · obtain rfl : q = _ := hq
      exact ⟨⟨.unsure, by simp, by simp [Stage.returned, Stage.entered]⟩, hQ⟩

lemma plain_stays {call : Memory.Call} {pick : Memory.Failures → Option String}
    {after : LeaseState → LeaseState} (hcall : call.number = base) (hnotes : Lease.Notes after) :
    Task.Stays (trade awaited) (Role.Attends base number errand loyal) (fun _ => True)
      ((Memory.pool.lease base number).operate (Memory.plainCall base call pick)
        fun _ => after).run :=
  operate_stays (fun _ => hnotes) trivial fun _ => Memory.plainCall_obeys fun s hs =>
    ⟨true, beneath_may hs (.note hcall s), rfl, trivial⟩

/-! ## Closing -/

/-- **Giving the connection beneath back**, by whoever has taken it out of the lease. -/
lemma release_may (herrand : p.errand = .carrier) (hs : (handling base number).knows (p, true) s)
    {calls : List Memory.Call} (h : World.Works base calls s s') :
    (handling base number).may (p, true) s ({ p with errand := .discharged }, false)
      ((Memory.pool.lease base number).release s') := by
  have hstep := ((Memory.pool_hears base number).release_may herrand ⟨hs.1, trivial⟩
    (Memory.elsewhere_of_works (fun _ _ => rfl) h)).1
  exact ⟨hstep, .giveBack h (hs.2.unreturned rfl), fun hfalse => by cases hfalse⟩

lemma farewell_obeys (status : Status) (s : World) :
    ((Memory.pool.lease base number).farewell status s).Obeys (handling base number)
      (fun _ _ => True)
      (fun _ y => y = ({ p.carrying with errand := .discharged }, false)) (p.carrying, true) := by
  unfold Lease.farewell
  split
  · refine Lease.tidy_obeys (Memory.apart base number) (grip_bears rfl) (by simp [Stage.carrying])
      (fun _ _ => False) (fun held => held = true) (fun s hs => ?_) (fun _ _ h => h.elim) ?_
    · have hnoted : ∀ state, (LeaseState.ended state).listening = state.listening := fun _ => rfl
      refine ⟨true, ⟨.work (World.tends_modify hnoted s) (.refl _) fun hne => absurd rfl hne,
        fun _ => .inr rfl⟩, ?_⟩
      split
      · have hcall : (Memory.Call.rollback base).number = base := rfl
        exact Memory.plainCall_obeys fun s hs => ⟨true, beneath_may hs (.note hcall s), rfl⟩
      · rfl
    · rintro held s rfl hs
      obtain ⟨calls, -, hworks⟩ := Memory.destroyAll_works base number _ s
      exact ⟨_, release_may rfl hs hworks, rfl⟩
  · exact fun s hs => ⟨_, release_may rfl hs (.refl s), rfl⟩

/-- **Closing the lease.** -/
lemma shutdown_obeys {status : Status} (hterminal : status.isTerminal = true)
    (hplace : p.place = .away) (herrand : p.errand = .pledged) :
    ((Memory.pool.lease base number).shutdown status).Obeys (handling base number)
      (fun _ _ => True) (fun _ y => y.1.Over ∧ y.1.sight = .closed ∧ y.2 = false) (p, false) := by
  have htaken : ∀ q s, ((Memory.pool.lease base number : Lease World).cell.get s).holdsBase = true →
      (grip base number).knows (q, false) s → (grip base number).may (q, false) s (p.carrying, true)
        ((Memory.pool.lease base number).surrender status s) := fun q s _ _ =>
    ⟨handles_of_inward ((Memory.apart base number).inward_surrender status s), fun _ => .inr rfl⟩
  refine Lease.shutdown_obeys (Memory.apart base number) (grip_ignores base number) hplace herrand
    hterminal trivial (fun _ => trivial) htaken (fun _ => ⟨⟨hplace, .inl rfl⟩, rfl, rfl⟩)
    fun _ q s _ => (farewell_obeys status s).imp ?_
  rintro _ y rfl
  exact ⟨⟨rfl, .inr rfl⟩, rfl, rfl⟩

/-- **Looking after a lease.** -/
lemma watch_obeys (ownFirst : Bool) :
    ((Memory.pool.lease base number).watch ownFirst).Obeys (handling base number)
      (fun _ _ => True) (fun _ y => y.1.Over ∧ y.2 = false) ({ errand := .lookout }, false) := by
  refine Lease.watch_obeys (grip_ignores base number) rfl rfl (by simp) ownFirst
    (fun self s hs => ?_) trivial ⟨⟨rfl, .inl rfl⟩, rfl⟩ fun _ s status _ hend => ?_
  · have haside := World.Aside.join base self s
    have hinward : (Memory.pool.lease base number).Inward _
        ((Memory.pool.lease base number).watching.register self
          ((Memory.connection base).watch.register self s)) := Lease.inward_join self _
    refine ⟨?_, .work ((World.Tends.of_aside haside).trans (World.tends_of_inward hinward))
      (.refl _) fun hne => absurd rfl hne, fun hfalse => by cases hfalse⟩
    have hsame : (Memory.pool.lease base number).aspect (.watch base number)
        ((Memory.pool.lease base number).watching.register self
          ((Memory.connection base).watch.register self s)) = _ :=
      (Memory.apart base number).aspect_join self _
    have hbeneath : (Memory.pool.lease base number).aspect (.watch base number)
        ((Memory.connection base).watch.register self s) = _ := Memory.aspect_join base self s
    exact (hsame.trans hbeneath) ▸ .refl _
  · refine (shutdown_obeys (Watch.isTerminal_of_ending hend) rfl rfl).imp ?_
    exact fun _ y hy => ⟨hy.1, hy.2.2⟩

/-! ## The lease as a connection -/

/-- **Destroying a statement through the lease.** -/
lemma destroy_stays (handle : StatementHandle) :
    Task.Stays (trade awaited) (Role.Attends base number errand loyal) (fun _ => True)
      (Task.change ((Memory.pool.lease base number).destroy handle)) := by
  rintro r ⟨sight, hsight, rfl⟩ s hs
  refine ⟨_, trade_of_deal (.use ⟨Lease.step_of_grows ?_, ?_, fun hfalse => by cases hfalse⟩),
    ⟨sight, hsight, rfl⟩, trivial⟩
  · exact ((Memory.pool_hears base number).elsewhere_destroy handle s).grows
  have hforget : ∀ state, (LeaseState.forget handle state).listening = state.listening :=
    fun _ => rfl
  have htends : World.Tends base number s
      ((LeaseHost.leases number).modify (LeaseState.forget handle) s) :=
    World.tends_modify hforget s
  show World.Handles base number s ((Memory.pool.lease base number).destroy handle s)
  unfold Lease.destroy
  dsimp only
  split
  next hin =>
    have hholds : (s.traffic.leases number).holdsBase = true := by
      have hget : (LeaseHost.leases number).get
          ((LeaseHost.leases number).modify (LeaseState.forget handle) s)
            = LeaseState.forget handle ((LeaseHost.leases number).get s) := Cell.get_modify _ _ _
      exact (congrArg LeaseState.holdsBase hget).symm.trans (Bool.and_eq_true_iff.mp hin).2
    have hlistening := hs.2.holding hholds
    rcases Memory.destroy_works base handle
      ((LeaseHost.leases number).modify (LeaseState.forget handle) s) with h | h
    · exact .work htends h fun _ => hlistening
    · exact .work htends h fun _ => hlistening
  next => exact .work htends (.refl _) fun hne => absurd rfl hne

/-- **A lease of the pool is as good as itself.** -/
theorem lease_trades (base number : Nat) :
    (Memory.pool.lease base number : Lease World).connection.Trades base number where
  connect _ _ := plain_stays rfl fun _ => rfl
  begin _ _ := plain_stays rfl fun _ => rfl
  commit _ _ := plain_stays rfl fun _ => rfl
  rollback _ _ := plain_stays rfl fun _ => rfl
  prepare _ _ sql kind := operate_stays (fun _ _ => rfl) (by simp) fun p =>
    Memory.prepare_obeys fun s s' hs hworks outcome hsql =>
      ⟨true, beneath_may hs hworks, rfl, hsql⟩
  execute _ _ handle bindings := operate_stays (fun _ _ => rfl) trivial fun p =>
    Memory.execute_obeys fun s s' hs hworks outcome => ⟨true, beneath_may hs hworks, rfl, trivial⟩
  destroy _ _ handle := destroy_stays handle
  close loyal := by
    rintro r ⟨sight, hsight, rfl⟩
    refine leased_obeys loyal (shutdown_obeys rfl rfl rfl) (fun _ _ h => h) ?_
    rintro _ ⟨q, held⟩ ⟨hover, hclosed, rfl⟩
    exact ⟨q, hover, hclosed, rfl⟩
  drop := rfl

namespace Connection.Trades

variable {conn : Connection World} (h : conn.Trades base number)

include h

lemma logged {write : String → World → World} (hwrite : ∀ line s, World.Aside s (write line s)) :
    (Connection.logged write conn).Trades base number where
  connect := h.connect
  begin errand loyal :=
    .act (fun _ s _ _ => trade_aside (hwrite _ s)) fun _ => h.begin errand loyal
  commit errand loyal :=
    .act (fun _ s _ _ => trade_aside (hwrite _ s)) fun _ => h.commit errand loyal
  rollback errand loyal :=
    .act (fun _ s _ _ => trade_aside (hwrite _ s)) fun _ => h.rollback errand loyal
  prepare := h.prepare
  execute errand loyal handle bindings :=
    .act (fun _ s _ _ => trade_aside (hwrite _ s)) fun _ => h.execute errand loyal handle bindings
  destroy := h.destroy
  close := h.close
  drop := h.drop

/-- **Every call by those who hold the lease keeps to the discipline.** -/
theorem call_keeps (call : LeaseCall) :
    Company.Keeps (trade awaited) Role.Past ⟨call.task conn, !call.ends⟩
      (.leased base number { errand := if call.ends then .pledged else .bystander } false
        true) := by
  have hattends : ∀ errand, Role.Attends base number errand true
      (.leased base number { errand } false true) := fun _ => ⟨.unsure, by simp, rfl⟩
  have hpast : ∀ r, Role.Attends base number .bystander true r → r.Past := by
    rintro r ⟨sight, -, rfl⟩
    exact ⟨⟨rfl, .inl rfl⟩, rfl⟩
  have hkeeps : ∀ {α : Type} {Q : α → Prop} {task : Task World α},
      Task.Stays (trade awaited) (Role.Attends base number .bystander true) Q task →
      Company.Keeps (trade awaited) Role.Past ⟨task.bind fun _ => .done (), true⟩
        (.leased base number { errand := .bystander } false true) := by
    intro α Q task hstays
    have hall : Task.Stays (trade awaited) (Role.Attends base number .bystander true)
      (fun _ => True)
        (task.bind fun _ => .done ()) := hstays.bind fun _ _ => .done trivial
    refine (hall _ (hattends .bystander)).mono (fun y f hleaves _ s hs => ?_)
      fun _ y hy => hpast y hy.1
    obtain ⟨z, hmay, hz⟩ := hleaves s hs
    exact ⟨z, hmay, hpast z hz⟩
  cases call with
  | connect => exact hkeeps (h.connect _ _)
  | begin => exact hkeeps (h.begin _ _)
  | commit => exact hkeeps (h.commit _ _)
  | rollback => exact hkeeps (h.rollback _ _)
  | prepare sql kind => exact hkeeps (h.prepare _ _ sql kind)
  | execute handle bindings => exact hkeeps (h.execute _ _ handle bindings)
  | destroy handle => exact hkeeps (h.destroy _ _ handle)
  | close =>
    refine (h.close true _ (hattends .pledged)).mono (fun _ _ _ hfalse => by cases hfalse) ?_
    rintro _ y ⟨q, hover, -, rfl⟩
    exact ⟨hover, rfl⟩
  | drop =>
    intro s hs
    refine ⟨.leased base number { errand := .bystander } false true, ?_, ⟨rfl, .inl rfl⟩, rfl⟩
    rw [h.drop]
    refine trade_of_deal (.use ⟨(Memory.apart base number).step_drop s rfl, ?_, fun hfalse => ?_⟩)
    · exact .work (World.tends_drop base number s) (.refl _) fun hne => absurd rfl hne
    · cases hfalse

end Connection.Trades

/-! ## The jobs of a lease -/

/-- **The jobs of a lease keep to the discipline**, and then they are over. -/
theorem job_keeps {past : Role → Prop}
    (hover : ∀ q : Stage, q.Over → past (.leased base number q false true))
    {job : Job} {task : Task World Unit} (h : Memory.pool.Jobs base number job task) :
    ∃ errand, (job = .close base number ∧ errand = .pledged
        ∨ job = .watch base number ∧ errand = .lookout)
      ∧ Company.Keeps (trade awaited) past ⟨task, false⟩
        (.leased base number { errand } false true) := by
  rcases h with ⟨rfl, rfl⟩ | ⟨rfl, ownFirst, rfl⟩
  · refine ⟨.pledged, .inl ⟨rfl, rfl⟩, leased_obeys true (shutdown_obeys rfl rfl rfl)
      (fun _ _ _ hfalse => by cases hfalse) ?_⟩
    rintro _ ⟨q, held⟩ ⟨hq, -, rfl⟩
    exact hover q hq
  · refine ⟨.lookout, .inr ⟨rfl, rfl⟩, leased_obeys true (watch_obeys ownFirst)
      (fun _ _ _ hfalse => by cases hfalse) ?_⟩
    rintro _ ⟨q, held⟩ ⟨hq, rfl⟩
    exact hover q hq

end Transactional
