import Transactional.Proofs.Lease.Visits

/-!
# Those who use a lease visit the connection beneath as they may

Every call on a lease and each of its jobs keeps to the discipline of visitors, for any connection
beneath that knows nothing of the lease.

* `Pool.Unaware.operate_visits`, `Pool.Unaware.destroy_visits` — using the lease.
* `Pool.Unaware.shutdown_visits`, `Pool.Unaware.watch_visits` — closing it, and looking after it.
* `LeaseCall.answer`, `Pool.Unaware.answer_visits` — every call, with the fault that it ends with,
  keeps to the discipline, and says so if it has been refused.
-/

namespace Transactional

def Fault.of : Except Fault α → Option Fault
  | .ok _ => none
  | .error fault => some fault

namespace LeaseCall

/-- Whether a call is one of the operations that have a result. -/
def operates : LeaseCall → Bool
  | .destroy _ | .close | .drop => false
  | _ => true

/-- **A call on a connection, with the fault that it ends with.** -/
def answer (conn : Connection σ) : LeaseCall → Task σ (Option Fault)
  | .connect => conn.connect.run.bind fun r => .done (Fault.of r)
  | .begin => conn.begin.run.bind fun r => .done (Fault.of r)
  | .commit => conn.commit.run.bind fun r => .done (Fault.of r)
  | .rollback => conn.rollback.run.bind fun r => .done (Fault.of r)
  | .prepare sql kind => (conn.prepare sql kind).run.bind fun r => .done (Fault.of r)
  | .execute handle bindings => (conn.execute handle bindings).run.bind fun r => .done (Fault.of r)
  | .destroy handle => (Task.change (conn.destroy handle)).bind fun _ => .done none
  | .close => conn.close.bind fun _ => .done none
  | .drop => (Task.change conn.drop).bind fun _ => .done none

lemma answer_task (conn : Connection σ) (call : LeaseCall) :
    (call.answer conn).bind (fun _ => .done ()) = call.task conn := by
  cases call <;> simp only [answer, task, Task.bind_assoc] <;> first | rfl | exact Task.bind_done _

end LeaseCall

namespace Pool

variable [LeaseHost σ] {pool : Pool σ} {base number : Nat} {diary : Cell σ (List Visit)}
  {mine : Bool}
  {post post' : Post} {p q : Stage} {s s' : σ} {α : Type}

namespace Unaware

variable (K : pool.Unaware base number diary)

include K

/-! ## Visits -/

omit K in
lemma beneath_elsewhere (h : pool.Elsewhere base number diary.get s s')
    (hs : (pool.visiting base number diary).knows (p, mine, .inside) s) :
    (((pool.noted diary mine).lease base number).beneath (.watch base number)
      (pool.visiting base number diary) p false).may (mine, .inside) s (mine, .inside) s' := by
  have hlistening := h.listening
  have hholds : ((LeaseHost.leases number).get s').holdsBase
      = ((LeaseHost.leases number).get s).holdsBase := congrArg Aspect.holdsBase h.grows.eq
  refine ⟨h.grows, rfl, ⟨[], by rw [h.heard, List.append_nil], ?_⟩,
    fun h => by simp at h, fun _ => ?_⟩
  · rw [hlistening]
    exact .stay _ _
  · rw [hholds]
    exact (hs.grasps (.inr rfl)).1

/-- **A visit begins.** -/
lemma enter_may (hs : (pool.visiting base number diary).knows (p, mine, .admitted) s) :
    (((pool.noted diary mine).lease base number).beneath (.watch base number)
      (pool.visiting base number diary) p false).may (mine, .admitted) s (mine, .inside)
      (Visit.note diary (.enters mine) s) := by
  obtain ⟨hlease, haspect⟩ := K.elsewhere_note (.enters mine) s
  obtain ⟨hgrasps, hlistening⟩ := hs.grasps (.inl rfl)
  refine ⟨?_, rfl, ⟨[.enters mine], diary.get_set _ _, ?_⟩, fun h => by simp at h, fun _ => ?_⟩
  · exact (show _ = _ from haspect) ▸ .refl _
  · rw [hlease, hlistening]
    exact .enter (by simp) (.stay _ _)
  · rw [hlease]
    exact hgrasps

/-- **A visit is over.** -/
lemma leave_may (mine : Bool) (p : Stage) (s : σ) :
    (((pool.noted diary mine).lease base number).beneath (.watch base number)
      (pool.visiting base number diary) p false).may (mine, .inside) s (mine, .gone)
      (Visit.note diary (.leaves mine) s) := by
  obtain ⟨hlease, haspect⟩ := K.elsewhere_note (.leaves mine) s
  refine ⟨?_, rfl, ⟨[.leaves mine], diary.get_set _ _, ?_⟩,
    fun h => by simp at h, fun h => by simp at h⟩
  · exact (show _ = _ from haspect) ▸ .refl _
  · rw [hlease]
    exact .leave (.stay _ _)

def Breaks (pool : Pool σ) (base number : Nat) (diary : Cell σ (List Visit)) (mine : Bool)
    (x : Bool × Post) (f : σ → σ) : Prop :=
  x = (mine, .inside) ∧ ∃ g : σ → σ, (∀ s, pool.Elsewhere base number diary.get s (g s))
    ∧ f = fun s => Visit.note diary (.leaves mine) (g s)

/-- **A visit keeps to the discipline.** -/
lemma noted_visits {operation : Attempt σ α}
    (h : operation.run.Respects (fun _ => True) (pool.Elsewhere base number diary.get))
    (hwaits : ∀ ready, operation.run.Waits ready → (pool.connection base).Awaits ready)
    (p : Stage) :
    (operation.noted diary mine).run.Obeys (((pool.noted diary mine).lease base number).beneath
        (.watch base number) (pool.visiting base number diary) p false)
      (Breaks pool base number diary mine) (fun _ k => k = (mine, .gone)) (mine, .admitted) := by
  intro s hs
  refine ⟨_, K.enter_may hs, ?_⟩
  have hused : operation.run.Obeys (((pool.noted diary mine).lease base number).beneath
        (.watch base number) (pool.visiting base number diary) p false)
      (fun k f => Breaks pool base number diary mine k fun s => Visit.note diary
        (.leaves mine) (f s))
      (fun _ k => k = (mine, .inside)) (mine, .inside) :=
    Task.Obeys.of_respects h (fun _ _ => trivial) (fun s s' hs helse => beneath_elsewhere helse hs)
      (fun ready hw => ⟨rfl, rfl, hwaits ready hw⟩) fun f hf => ⟨rfl, f, fun s => hf s trivial, rfl⟩
  refine Task.Obeys.holding hused ?_
  rintro r _ s rfl -
  exact ⟨_, K.leave_may mine p s, rfl⟩

/-! ## Using a lease -/

omit K in
lemma grants (m : Bool) : ((pool.noted diary mine).lease base number).Grants
    (pool.visiting base number diary) (m, .outside) (m, .admitted) := by
  intro p q s _ hplace hholds hopen _
  refine ⟨rfl, ⟨[], (List.append_nil _).symm, .welcome _⟩, fun _ _ => .inl hopen, fun _ => ?_⟩
  exact .inl ⟨hplace, hholds⟩

/-- How a call may be given up: it waits outside or inside. -/
def Parts (pool : Pool σ) (base number : Nat) (diary : Cell σ (List Visit))
    (x : Stage × Bool × Post) (f : σ → σ) : Prop :=
  (x.2.2 = .outside ∨ x.2.2 = .inside) ∧ Company.Leaves (pool.visitors base number diary) Away x f

/-- **Using the connection beneath under the lock.**  Whoever is refused has not come in. -/
lemma operate_visits {operation : Attempt σ α} {after : α → LeaseState → LeaseState}
    (hnotes : ∀ a, Lease.Notes (after a))
    (h : operation.run.Respects (fun _ => True) (pool.Elsewhere base number diary.get))
    (hwaits : ∀ ready, operation.run.Waits ready → (pool.connection base).Awaits ready) :
    (((pool.noted diary mine).lease base number).operate (operation.noted diary mine)
      after).run.Obeys
      (pool.visitors base number diary) (Parts pool base number diary)
      (fun r x => r = .error .closedConnection ∧ x.2 = (mine, .outside) ∧ x.1.Over
        ∨ x.2 = (mine, .gone) ∧ x.1.Over) ({}, mine, .outside) := by
  have hA := K.noted_apart mine
  have hignores : ∀ {post : Post}, post ≠ .admitted ∧ post ≠ .inside →
      ((pool.noted diary mine).lease base number).Ignores (pool.visiting base number diary)
        (mine, post) := fun hpost => K.ignores hpost mine mine
  have hfirm : false = true → ({} : Stage).prompt = true := by simp
  refine (obeys_of_noted mine (Lease.operate_obeys hA (hignores (by simp)) (grants mine)
    hfirm id rfl ?_ ?_ (fun _ k => k = (mine, .gone)) (fun _ k => k = (mine, .gone))
    (K.noted_visits h hwaits _) ?_ hnotes ?_ (fun _ _ h => h) ?_)).imp ?_
  · exact ⟨.inl rfl, fun s hs =>
      ⟨_, Lease.may_same (hignores (by simp)) hs.2 (.nothing _ _), ⟨rfl, .inl rfl⟩, by simp⟩⟩
  · refine fun t => ⟨.inl rfl, fun s hs => ?_⟩
    have hout := hignores (show Post.outside ≠ .admitted ∧ Post.outside ≠ .inside by simp)
    have U := Lease.usable (.watch base number) hA hout {} (by simp)
    exact ⟨_, U.withdraw hs, ⟨rfl, .inl rfl⟩, by simp⟩
  · rintro _ _ ⟨rfl, g, hg, rfl⟩
    refine ⟨.inr rfl, fun s hs => ?_⟩
    obtain ⟨hlease, haspect⟩ := K.elsewhere_note (.leaves mine) (g s)
    have hinward := hA.inward_release (Visit.note diary (.leaves mine) (g s))
    have hleave := (K.leave_may mine (({} : Stage).entered false) (g s)).2.before (hg s)
    refine ⟨({}, mine, .gone), ⟨?_, hleave.after (by simp) (by simp) (K.diary_still hinward.still)
      hinward.listening⟩, ⟨rfl, .inl rfl⟩, by simp⟩
    show Stage.Step _ _ _ ((pool.lease base number).aspect (.watch base number)
      (Semaphore.release (pool.lease base number).lock (Visit.note diary (.leaves mine) (g s))))
    rw [K.apart.aspect_release, haspect]
    exact Stage.step_lock (hg s).grows (.handOver _)
  · rintro a _ rfl s hs
    refine ⟨(mine, .gone), K.pays_still (.modify (after a) s) ?_ (.inl (by simp)), rfl⟩
    have hget : (LeaseHost.leases number).get ((LeaseHost.leases number).modify (after a) s)
        = after a ((LeaseHost.leases number).get s) := Cell.get_modify _ _ _
    refine (congrArg LeaseState.listening hget).trans ?_
    rw [hnotes a]
  · rintro r _ s keep rfl hs
    exact ⟨_, hignores (by simp) _ _ s _ hs (hA.inward_release s), rfl⟩
  · rintro r ⟨x, k⟩ (⟨rfl, hx⟩ | ⟨rfl, -, rfl⟩)
    · obtain ⟨rfl, rfl⟩ := Prod.mk.inj hx
      exact .inl ⟨rfl, rfl, rfl, .inl rfl⟩
    · exact .inr ⟨rfl, rfl, .inl rfl⟩

lemma destroy_passes (mine : Bool) (handle : StatementHandle) (s : σ) :
    ((pool.lease base number).aspect (.watch base number) s).Grows
        ((pool.lease base number).aspect (.watch base number)
          (((pool.noted diary mine).connection base).destroy handle s))
      ∧ diary.get (((pool.noted diary mine).connection base).destroy handle s)
        = diary.get s ++ [.enters mine, .leaves mine] := by
  obtain ⟨-, hbegun⟩ := K.elsewhere_note (.enters mine) s
  have hused := K.beneath.destroy handle (Visit.note diary (.enters mine) s) trivial
  obtain ⟨-, hover⟩ := K.elsewhere_note (.leaves mine)
    ((pool.connection base).destroy handle (Visit.note diary (.enters mine) s))
  refine ⟨?_, ?_⟩
  · show Aspect.Grows _ ((pool.lease base number).aspect _ (Visit.note diary (.leaves mine) _))
    rw [hover, ← hbegun]
    exact hused.grows
  · show diary.get (Visit.note diary (.leaves mine) _) = _
    rw [Visit.note, Cell.get_modify, hused.heard, Visit.note, Cell.get_modify, List.append_assoc]
    rfl

/-- **Destroying a statement** through the lease. -/
lemma destroy_visits (handle : StatementHandle) {gone : Stage × Bool × Post → (σ → σ) → Prop} :
    (Task.change (((pool.noted diary mine).lease base number).destroy handle)).Obeys
      (pool.visitors base number diary) gone
      (fun _ x => x.1.Over ∧ (x.2 = (mine, .outside) ∨ x.2 = (mine, .gone)))
        ({}, mine, .outside) := by
  intro s hs
  have hforgotten : (LeaseHost.leases number).get
      ((LeaseHost.leases number).modify (LeaseState.forget handle) s)
        = LeaseState.forget handle ((LeaseHost.leases number).get s) := Cell.get_modify _ _ _
  have haspect : (pool.lease base number).aspect (.watch base number)
      ((LeaseHost.leases number).modify (LeaseState.forget handle) s)
        = (pool.lease base number).aspect (.watch base number) s :=
    K.apart.aspect_notes (fun _ => rfl) s
  have hdiary := K.diary_still (.modify (LeaseState.forget handle) s)
  unfold Lease.destroy
  dsimp only
  split
  next h =>
    simp only [Bool.and_eq_true, Bool.not_eq_true', decide_eq_true_eq] at h
    obtain ⟨⟨hopen, -⟩, hholds⟩ := h
    obtain ⟨hgrows, hwritten⟩ := K.destroy_passes mine handle
      ((LeaseHost.leases number).modify (LeaseState.forget handle) s)
    have hopen : ((LeaseHost.leases number).get s).closed = false :=
      (congrArg LeaseState.closed hforgotten).symm.trans hopen
    have hholds : ((LeaseHost.leases number).get s).holdsBase = true :=
      (congrArg LeaseState.holdsBase hforgotten).symm.trans hholds
    have hlistening := hs.2.holding hholds
    have hlistening' : ((LeaseHost.leases number).get
      (((pool.noted diary mine).connection base).destroy
        handle ((LeaseHost.leases number).modify (LeaseState.forget handle) s))).listening
          = true := by
      refine (congrArg Aspect.listening hgrows.eq).trans ?_
      exact (congrArg LeaseState.listening hforgotten).trans hlistening
    refine ⟨({}, mine, .gone), ⟨Lease.step_of_grows ?_, rfl, ⟨[.enters mine, .leaves mine], ?_, ?_⟩,
      fun _ _ => .inl hopen, fun h => by simp at h⟩, ⟨rfl, .inl rfl⟩, .inr rfl⟩
    · exact (show _ = _ from haspect) ▸ hgrows
    · exact hwritten.trans (congrArg (· ++ _) hdiary)
    · have hpasses : Passes mine .outside true [.enters mine, .leaves mine] .gone true :=
        .enter (by simp) (.leave (.stay _ _))
      rw [hlistening]
      exact hlistening' ▸ hpasses
  next =>
    refine ⟨({}, mine, .outside), ⟨Lease.step_of_grows ?_, K.pays_still (.modify _ s) ?_
      (.inl (by simp))⟩,
      ⟨rfl, .inl rfl⟩, .inl rfl⟩
    · exact (show _ = _ from haspect) ▸ .refl _
    · refine (congrArg LeaseState.listening hforgotten).trans ?_
      rfl

/-! ## Closing a lease -/

lemma destroyAll_passes (mine : Bool) (handles : List StatementHandle) (s : σ) :
    ∃ more, diary.get (((pool.noted diary mine).lease base number).destroyAll handles s)
        = diary.get s ++ more
      ∧ ((pool.lease base number).aspect (.watch base number) s).Grows
        ((pool.lease base number).aspect (.watch base number)
          (((pool.noted diary mine).lease base number).destroyAll handles s))
      ∧ ∀ post, post ≠ .inside → Passes mine post true (more ++ [.back]) .retired false := by
  induction handles generalizing s with
  | nil => exact ⟨[], (List.append_nil _).symm, .refl _, fun _ => .giveBack⟩
  | cons handle rest ih =>
    obtain ⟨hgrows, hwritten⟩ := K.destroy_passes mine handle s
    obtain ⟨more, hmore, hrest, hpasses⟩ :=
      ih (((pool.noted diary mine).connection base).destroy handle s)
    refine ⟨.enters mine :: .leaves mine :: more, ?_, hgrows.trans hrest, fun post hpost => ?_⟩
    · refine hmore.trans ?_
      rw [hwritten, List.append_assoc]
      rfl
    · exact .enter hpost (.leave (hpasses .gone (by simp)))

/-- **Giving the connection back**, when all that is left has been destroyed. -/
lemma release_may (herrand : p.errand = .carrier) (hpost : post = .admitted ∨ post = .gone)
    {more : List Visit} (hs : (pool.visitors base number diary).knows (p, mine, post) s)
    (hgrows : ((pool.lease base number).aspect (.watch base number) s).Grows
      ((pool.lease base number).aspect (.watch base number) s'))
    (hmore : diary.get s' = diary.get s ++ more)
    (hpasses : ∀ post, post ≠ .inside → Passes mine post true (more ++ [.back]) .retired false) :
    (pool.visitors base number diary).may (p, mine, post) s
      ({ p with errand := .discharged }, mine, .retired)
      (((pool.noted diary mine).lease base number).release s') := by
  have hlistening : ((LeaseHost.leases number).get s).listening = true := hs.1.carrier herrand
  have hlistening' : ((LeaseHost.leases number).get s').listening = true :=
    (congrArg Aspect.listening hgrows.eq).trans hlistening
  let deaf : σ := (LeaseHost.leases number).modify
    (fun state => { state with listening := false }) s'
  have hrelease : ((pool.noted diary mine).lease base number).release s'
      = pool.giveBack ((pool.connection base).noted diary mine) (Visit.note diary .back deaf) :=
    if_pos hlistening'
  have hdeaf := K.apart.aspect_modify (.watch base number)
    (fun state => { state with listening := false }) s'
  have hquiet : diary.get deaf = diary.get s' := K.diary_still (.modify _ s')
  obtain ⟨-, hnoted⟩ := K.elsewhere_note .back deaf
  have hgiven := K.giveBack mine (Visit.note diary .back deaf)
  have haspect := hgiven.grows
  rw [hnoted, show (pool.lease base number).aspect (.watch base number) deaf = _ from hdeaf]
    at haspect
  rw [hrelease]
  refine ⟨Stage.step_giveBack herrand hgrows haspect, rfl, ⟨more ++ [.back], ?_, ?_⟩, fun h => ?_,
    fun h => by simp at h⟩
  · rw [hgiven.heard, Visit.note, Cell.get_modify, hquiet, hmore, List.append_assoc]
  · have hover := congrArg Aspect.listening haspect.eq
    rw [hlistening]
    refine (show ((LeaseHost.leases number).get _).listening = false from hover) ▸ hpasses post ?_
    rcases hpost with rfl | rfl <;> simp
  · rcases hpost with rfl | rfl <;> simp at h

/-- A close is never given up. -/
abbrev Firm (pool : Pool σ) (base number : Nat) (diary : Cell σ (List Visit))
    (x : Stage × Bool × Post) (f : σ → σ) : Prop :=
  false = true → Company.Leaves (pool.visitors base number diary) Away x f

/-- **After the connection beneath has been taken out of the lease**, it may be visited once more,
and then it is given back. -/
lemma farewell_visits (status : Status) (s : σ) (p : Stage) :
    (((pool.noted diary mine).lease base number).farewell status s).Obeys
      (((pool.noted diary mine).lease base number).discipline (.watch base number)
        (pool.visiting base number diary))
      (Firm pool base number diary) (fun _ => Away) (p.carrying, mine, .admitted) := by
  have hretired : Away (({ p.carrying with errand := .discharged } : Stage), mine, .retired) :=
    ⟨⟨rfl, .inr rfl⟩, by simp, by simp⟩
  unfold Lease.farewell
  split
  · refine Lease.tidy_obeys (K.noted_apart mine) (K.bears rfl mine) (by simp [Stage.carrying])
      (Breaks pool base number diary mine) (fun k => k = (mine, .admitted) ∨ k = (mine, .gone))
      (fun s hs => ?_) (fun _ _ _ h => by simp at h) ?_
    · have hget : (LeaseHost.leases number).get
        ((LeaseHost.leases number).modify LeaseState.ended s)
          = LeaseState.ended ((LeaseHost.leases number).get s) := Cell.get_modify _ _ _
      refine ⟨_, K.pays_still (.modify _ s) ?_ (.inr (.inr rfl)), ?_⟩
      · exact (congrArg LeaseState.listening hget).trans rfl
      · split
        · exact (K.noted_visits K.beneath.rollback
            (fun ready h => .inr (.inr (.inr (.inl h)))) _).imp fun _ _ => .inr
        · exact .inl rfl
    · intro k s hk hs
      obtain ⟨more, hmore, hgrows, hpasses⟩ := K.destroyAll_passes mine _ s
      rcases hk with rfl | rfl
      · exact ⟨_, K.release_may rfl (.inl rfl) hs hgrows hmore hpasses, hretired⟩
      · exact ⟨_, K.release_may rfl (.inr rfl) hs hgrows hmore hpasses, hretired⟩
  · intro s hs
    exact ⟨_, K.release_may rfl (.inl rfl) hs (.refl _) (List.append_nil _).symm fun _ => .giveBack,
      hretired⟩

/-- **Closing a lease keeps to the discipline.** -/
lemma shutdown_visits {status : Status} (hstatus : status.isTerminal = true) {p : Stage}
    (hplace : p.place = .away) (herrand : p.errand = .pledged) :
    (((pool.noted diary mine).lease base number).shutdown status).Obeys
      (((pool.noted diary mine).lease base number).discipline (.watch base number)
        (pool.visiting base number diary))
      (Firm pool base number diary) (fun _ => Away) (p, mine, .outside) := by
  refine Lease.shutdown_obeys (K.noted_apart mine)
    (K.ignores (by simp) mine mine) hplace herrand hstatus (fun h => by simp at h)
    (fun _ h => by simp at h) (fun _ s _ hs => ?_) (fun _ => ⟨⟨hplace, .inl rfl⟩, by simp, by simp⟩)
    fun _ _ s _ => K.farewell_visits status s p
  have hinward := (K.noted_apart mine).inward_surrender status s
  refine ⟨rfl, ⟨[], ?_, ?_⟩, fun _ _ => .inr rfl, fun _ => .inr rfl⟩
  · rw [K.diary_still hinward.still, List.append_nil]
  · exact hinward.listening ▸ .welcome _

/-- **Looking out for the end of the connection beneath keeps to the discipline.** -/
lemma watch_visits (ownFirst : Bool) :
    Company.Keeps (pool.visitors base number diary) Away
      ⟨((pool.noted diary mine).lease base number).watch ownFirst, false⟩
      ({ errand := .lookout }, mine, .outside) := by
  refine obeys_of_noted mine (Lease.watch_obeys (K.ignores (by simp) mine mine) rfl rfl (by simp)
    ownFirst (fun self s _ => ?_) (fun h => by simp at h) ⟨⟨rfl, .inl rfl⟩, by simp, by simp⟩
    fun _ s status _ hend => K.shutdown_visits (Watch.isTerminal_of_ending hend) rfl rfl)
  have helse := K.beneath.register self s trivial
  have hinward : (pool.lease base number).Inward _ ((pool.lease base number).watching.register self
      ((pool.connection base).watch.register self s)) := Lease.inward_join self _
  refine ⟨?_, (K.pays_still hinward.still hinward.listening (.inl (by simp))).before helse⟩
  show Aspect.Grows _ ((pool.lease base number).aspect (.watch base number)
    ((pool.lease base number).watching.register self
      ((pool.connection base).watch.register self s)))
  rw [K.apart.aspect_join]
  exact helse.grows

/-! ## Every call -/

omit K in
/-- **Where a call ends**: whoever has not come in has been refused. -/
def Answered (call : LeaseCall) (a : Option Fault) (x : Stage × Bool × Post) : Prop :=
  Away x ∧ (x.2.2 = .outside → call.operates = true → a = some .closedConnection)

/-- **Every call keeps to the discipline**, and says so if it has been refused.  It may be given up
while it waits, outside or inside, unless it is a close. -/
theorem answer_visits (mine : Bool) (call : LeaseCall) :
    (call.answer ((pool.noted diary mine).lease base number).connection).Obeys
      (pool.visitors base number diary)
      (fun x f => call.ends = false → Parts pool base number diary x f) (Answered call)
      ({ errand := if call.ends then .pledged else .bystander }, mine, .outside) := by
  have hoperated : ∀ {α : Type} {call : LeaseCall} {operation : Attempt σ α},
      operation.run.Obeys (pool.visitors base number diary) (Parts pool base number diary)
        (fun r x => r = .error .closedConnection ∧ x.2 = (mine, .outside) ∧ x.1.Over
          ∨ x.2 = (mine, .gone) ∧ x.1.Over) ({}, mine, .outside) →
      (operation.run.bind fun r => .done (Fault.of r)).Obeys (pool.visitors base number diary)
        (fun x f => call.ends = false → Parts pool base number diary x f) (Answered call)
        ({}, mine, .outside) := by
    intro α call operation h
    refine (h.mono (fun _ _ h _ => h) fun _ _ => id).bind ?_
    rintro r ⟨p, x⟩ (⟨rfl, rfl, hover⟩ | ⟨rfl, hover⟩)
    · exact ⟨⟨hover, by simp, by simp⟩, fun _ _ => rfl⟩
    · exact ⟨⟨hover, by simp, by simp⟩, fun h => by simp at h⟩
  have hnothing : ∀ α, ∀ _ : α, Lease.Notes id := fun _ _ _ => rfl
  cases call with
  | connect =>
    exact hoperated (K.operate_visits (hnothing _) K.beneath.connect fun _ h => .inl h)
  | begin =>
    exact hoperated (K.operate_visits (fun _ _ => rfl) K.beneath.begin fun _ h => .inr (.inl h))
  | commit =>
    exact hoperated (K.operate_visits (fun _ _ => rfl) K.beneath.commit
      fun _ h => .inr (.inr (.inl h)))
  | rollback =>
    exact hoperated (K.operate_visits (fun _ _ => rfl) K.beneath.rollback
      fun _ h => .inr (.inr (.inr (.inl h))))
  | prepare sql kind =>
    exact hoperated (K.operate_visits (fun _ _ => rfl) (K.beneath.prepare sql kind)
      fun _ h => .inr (.inr (.inr (.inr (.inl ⟨sql, kind, h⟩)))))
  | execute handle bindings =>
    exact hoperated (K.operate_visits (hnothing _) (K.beneath.execute handle bindings)
      fun _ h => .inr (.inr (.inr (.inr (.inr ⟨handle, bindings, h⟩)))))
  | destroy handle =>
    refine (K.destroy_visits handle).bind ?_
    rintro - ⟨p, x⟩ ⟨hover, rfl | rfl⟩ <;> exact ⟨⟨hover, by simp, by simp⟩, fun _ h => by cases h⟩
  | close =>
    refine (Task.Obeys.mono (obeys_of_noted mine (K.shutdown_visits rfl rfl rfl))
      (fun _ _ _ h => by cases h) fun _ _ => id).bind ?_
    exact fun _ x hx => ⟨hx, fun _ h => by cases h⟩
  | drop =>
    intro s _
    have hquiet : diary.get ((pool.lease base number).drop s) = diary.get s
        ∧ (LeaseHost.leases number).get ((pool.lease base number).drop s)
          = (LeaseHost.leases number).get s := by
      unfold Lease.drop
      split
      · exact ⟨rfl, rfl⟩
      · exact ⟨K.diary_schedule _ s, K.apart.schedule _ s⟩
    refine ⟨({}, mine, .outside), ⟨K.apart.step_drop s rfl, rfl, ⟨[], ?_, ?_⟩,
      fun h h' => absurd h h',
      fun h => by simp at h⟩, ⟨⟨rfl, .inl rfl⟩, by simp, by simp⟩, fun _ h => by cases h⟩
    · exact hquiet.1.trans (List.append_nil _).symm
    · exact (congrArg LeaseState.listening hquiet.2) ▸ .stay _ _

end Unaware

end Pool

end Transactional
