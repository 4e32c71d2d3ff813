import Transactional.Proofs.Lease.Discipline

/-!
# The operations of a lease keep to its discipline

Each of them is taken apart once, for any connection beneath and any discipline for it, and for any
stage at which it can begin.

* `Lease.enter_obeys`, `Lease.operate_obeys` — using the connection beneath under the lock.
* `Lease.shutdown_obeys` — the end of the lease, up to the moment when the connection beneath has
  been taken out of it.
* `Lease.watch_obeys` — looking out for the end of the connection beneath.
-/

namespace Transactional

/-- The stage of a task that has found the lease closed. -/
def Stage.refused (p : Stage) : Stage :=
  { p with place := .away, sight := .closed }

/-- The stage of a task that uses the connection beneath.  It is `firm` if it goes on relying on
what it has seen, which is for those only while whose turn nobody else moves. -/
def Stage.entered (p : Stage) (firm : Bool) : Stage :=
  { p with place := .inside, sight := if firm then .open else .unsure }

def Stage.returned (p : Stage) (firm : Bool) : Stage :=
  { p.entered firm with place := .away }

/-- The stage of a task that has come too late to close the lease. -/
def Stage.late (p : Stage) : Stage :=
  { p with errand := .bystander, sight := .closed }

/-- The stage of the task that closes the lease. -/
def Stage.ending (p : Stage) : Stage :=
  { p with errand := .ender, sight := .closed }

/-- The stage of the task that has taken the connection beneath out of the lease. -/
def Stage.carrying (p : Stage) : Stage :=
  { p with place := .away, errand := .carrier, sight := .closed }

lemma Watch.isTerminal_of_ending {watch : Watch σ} {s : σ} {status : Status}
    (h : watch.ending? s = some status) : status.isTerminal = true := by
  unfold ending? at h
  split at h
  next hterminal => exact Option.some.inj h ▸ hterminal
  next =>
    split at h
    · exact Option.some.inj h ▸ rfl
    · simp at h

namespace Lease

variable [Host σ] {lease : Lease σ} {guard : Job} {G : Discipline σ (Stage × κ)} {p : Stage} {k : κ}
  {gone : Stage × κ → (σ → σ) → Prop}

lemma inward_refl (s : σ) : lease.Inward s s := ⟨.refl s, rfl, List.Subset.refl _, rfl⟩

lemma may_same (hG : lease.Ignores G k) {q : Stage} {s : σ} (hs : G.knows (p, k) s)
    (h : p.Does (lease.aspect guard s) q (lease.aspect guard s)) :
    (lease.discipline guard G).may (p, k) s (q, k) s :=
  ⟨⟨_, h, .refl _⟩, hG p q s s hs (inward_refl s)⟩

/-- **A task may come to have the connection beneath in hand**, under the lock, as long as it is in
the lease and the lease is open; `held` says so to the discipline for the connection beneath. -/
def Grants (lease : Lease σ) (G : Discipline σ (Stage × κ)) (k held : κ) : Prop :=
  ∀ p q s, p.place = .inside → q.place = .inside → (lease.cell.get s).holdsBase = true →
    (lease.cell.get s).closed = false → G.knows (p, k) s → G.may (p, k) s (q, held) s

lemma grants_of_ignores (hG : lease.Ignores G k) : lease.Grants G k k :=
  fun p q s _ _ _ _ hs => hG p q s s hs (inward_refl s)

/-- **Taking the lock**, unless the lease is closed, also when it is closed only by then.  A task
that has seen it closed is refused. -/
theorem enter_obeys (hA : lease.Apart) (hG : lease.Ignores G k) {held : κ}
    (hheld : lease.Grants G k held) {firm : Bool}
    (hfirm : firm = true → p.prompt = true) (hp : p.place = .away)
    (haway : gone ({ p with sight := .unsure }, k) id)
    (hline : ∀ t, gone ({ p with place := .inLine t, sight := .unsure }, k)
      (Semaphore.updating lease.lock (Semaphore.withdraw t))) :
    lease.enter.run.Obeys (lease.discipline guard G) gone
      (fun r x => r = .error .closedConnection ∧ x = (p.refused, k)
        ∨ r = .ok () ∧ x = (p.entered firm, held) ∧ p.sight ≠ .closed) (p, k) := by
  obtain ⟨place, errand, sight, prompt⟩ := p
  obtain rfl : place = .away := hp
  intro s hs
  by_cases hclosed : (lease.cell.get s).closed = true
  · refine ⟨_, may_same hG hs.2 (.look _ _), ?_⟩
    simp only [hclosed, if_true]
    refine .inl ⟨rfl, ?_⟩
    have hc : (lease.aspect guard s).closed = true := hclosed
    simp [Stage.looking, Stage.refused, hc]
  · have hsight : sight ≠ .closed := fun h => hclosed (hs.1.seenClosed h)
    refine ⟨_, may_same hG hs.2 (.blink _ _), ?_⟩
    simp only [hclosed]
    have U := usable guard hA hG ⟨.away, errand, .unsure, prompt⟩ (by simp)
    refine (Semaphore.acquire_obeys U haway hline).bind ?_
    rintro had x (⟨-, rfl⟩ | ⟨-, ⟨⟩, -⟩) s hs
    by_cases hc : (lease.aspect guard s).closed = true
    · -- It was closed in the meantime: the lock is given back.
      refine ⟨_, may_same hG hs.2 (.look _ _), ?_⟩
      have hclosed : (lease.cell.get s).closed = true := hc
      simp only [hclosed, Bool.true_or, if_true]
      intro s' hs'
      have U' := usable guard hA hG ⟨.inside, errand, .closed, prompt⟩ (by simp)
      simp only [Stage.looking, hc, if_true] at hs' ⊢
      exact ⟨_, U'.release hs', .inl ⟨rfl, rfl⟩⟩
    · have hclosed : (lease.cell.get s).closed = false := Bool.eq_false_iff.mpr hc
      have hholds : (lease.cell.get s).holdsBase = true := hs.1.unclosed hclosed
      simp only [hclosed, hholds, Bool.not_true, Bool.or_self]
      refine ⟨(Stage.entered _ firm, held), ⟨?_, hheld _ _ s rfl rfl hholds hclosed hs.2⟩,
        .inr ⟨rfl, rfl, hsight⟩⟩
      cases firm with
      | false => exact ⟨_, .nothing _ _, .refl _⟩
      | true =>
          have hlook : (Stage.mk .inside errand .unsure prompt).looking (lease.aspect guard s)
              = Stage.entered ⟨.away, errand, sight, prompt⟩ true := by
            simp [Stage.looking, Stage.entered, hc, show prompt = true from hfirm rfl]
          exact ⟨_, hlook ▸ .look _ _, .refl _⟩

/-- What uses the connection beneath keeps to the discipline of the lease at any stage, except that
there is no waiting where nobody else is to move. -/
lemma obeys_of_beneath {prompt : Bool} (hp : prompt = false → p.sight ≠ .open) {task : Task σ α}
    {beyond : κ → (σ → σ) → Prop} {reached : α → κ → Prop}
    (h : task.Obeys (lease.beneath guard G p prompt) beyond reached k)
    (hbeyond : ∀ k f, beyond k f → gone (p, k) f) :
    task.Obeys (lease.discipline guard G) gone (fun a x => x.1 = p ∧ reached a x.2) (p, k) := by
  refine Task.Obeys.map (D := lease.beneath guard G p prompt) (fun k => (p, k)) (fun _ _ hs => hs.2)
    ?_ ?_ hbeyond (fun _ _ h => ⟨rfl, h⟩) h
  · exact fun k s k' s' _ hmay => ⟨step_of_grows hmay.1, hmay.2⟩
  · rintro k ready ⟨hprompt, hwaits⟩
    exact ⟨hp hprompt, .inr hwaits⟩

/-- **Using the connection beneath under the lock.**  An operation that keeps to the discipline for
the connection beneath is one of the lease; it ends as the operation ends, or finds the lease
closed.  `keep` says whether a task that is firm stays so when the operation has succeeded. -/
theorem operate_obeys (hA : lease.Apart) (hG : lease.Ignores G k) {held : κ}
    (hheld : lease.Grants G k held) {firm keep : Bool}
    (hfirm : firm = true → p.prompt = true) (hkeep : keep = true → firm = true)
    (hp : p.place = .away)
    (haway : gone ({ p with sight := .unsure }, k) id)
    (hline : ∀ t, gone ({ p with place := .inLine t, sight := .unsure }, k)
      (Semaphore.updating lease.lock (Semaphore.withdraw t)))
    {operation : Attempt σ α} {after : α → LeaseState → LeaseState} {beyond : κ → (σ → σ) → Prop}
    {reached : Except Fault α → κ → Prop} (between ends : Except Fault α → κ → Prop)
    (hoperation : operation.run.Obeys (lease.beneath guard G (p.entered firm) firm) beyond
      reached held)
    (hbeyond : ∀ k f, beyond k f →
      gone (p.entered firm, k) fun s => Semaphore.release lease.lock (f s))
    (hnotes : ∀ a, Notes (after a))
    (hok : ∀ a k, reached (.ok a) k → ∀ s, G.knows (p.entered firm, k) s →
      ∃ k', G.may (p.entered firm, k) s (p.entered keep, k') (lease.cell.modify (after a) s)
        ∧ between (.ok a) k')
    (herror : ∀ fault k, reached (.error fault) k → between (.error fault) k)
    (hout : ∀ r k s keep, between r k → G.knows (p.entered keep, k) s → ∃ k',
      G.may (p.entered keep, k) s (p.returned keep, k') (Semaphore.release lease.lock s)
        ∧ ends r k') :
    (lease.operate operation after).run.Obeys (lease.discipline guard G) gone
      (fun r x => r = .error .closedConnection ∧ x = (p.refused, k)
        ∨ x.1 = p.returned (if r.toBool then keep else firm) ∧ p.sight ≠ .closed ∧ ends r x.2)
      (p, k) := by
  refine (enter_obeys hA hG hheld hfirm hp haway hline).bind ?_
  rintro r x (⟨rfl, rfl⟩ | ⟨rfl, rfl, hsight⟩)
  · exact .inl ⟨rfl, rfl⟩
  have hused : operation.run.Obeys (lease.discipline guard G)
      (fun x f => gone x fun s => Semaphore.release lease.lock (f s))
      (fun r x => x.1 = p.entered firm ∧ reached r x.2) (p.entered firm, held) :=
    obeys_of_beneath (fun h => by simp [Stage.entered, h]) hoperation hbeyond
  -- The lock is given back at a stage that may rely on nobody else moving.
  have hreturn : ∀ (r : Except Fault α) (x : Stage × κ) (s : σ),
      x.1 = p.entered (if r.toBool then keep else firm) ∧ between r x.2 →
        (lease.discipline guard G).knows x s →
      ∃ y, (lease.discipline guard G).may x s y (Semaphore.release lease.lock s)
        ∧ (r = .error .closedConnection ∧ y = (p.refused, k)
          ∨ y.1 = p.returned (if r.toBool then keep else firm) ∧ p.sight ≠ .closed
            ∧ ends r y.2) := by
    rintro r ⟨q, k⟩ s ⟨rfl, hbetween⟩ hs
    obtain ⟨k', hmay, hends⟩ := hout r k s _ hbetween hs.2
    refine ⟨(p.returned (if r.toBool then keep else firm), k'),
      ⟨⟨_, .lock _ _ (.handOver _), ?_⟩, hmay⟩, .inr ⟨rfl, hsight, hends⟩⟩
    rw [hA.aspect_release]
    exact .refl _
  refine Task.Obeys.holding (hused.bind ?_) hreturn
  rintro r ⟨q, k⟩ ⟨rfl, hr⟩
  cases r with
  | error fault => exact ⟨rfl, herror fault k hr⟩
  | ok a =>
      intro s hs
      obtain ⟨k', hmay, hbetween⟩ := hok a k hr s hs.2
      refine ⟨(p.entered keep, k'), ⟨?_, hmay⟩, rfl, hbetween⟩
      rw [hA.aspect_notes (hnotes a)]
      cases keep with
      | true =>
          rw [hkeep rfl]
          exact step_of_grows (.refl _)
      | false => exact ⟨_, .blink _ _, .refl _⟩

/-! ## The end -/

/-- What is left to do when the connection beneath has been taken out of the lease. -/
def farewell (lease : Lease σ) (status : Status) (s : σ) : Task σ Unit :=
  if status = .closed then lease.tidy (lease.cell.get s).statements
  else .act lease.release fun _ => .done ()

/-- **Closing a lease**: too late, or up to the moment when the connection beneath has been taken
out of it, which is left to whoever comes that far. -/
theorem shutdown_obeys (hA : lease.Apart) (hG : lease.Ignores G k) (hp : p.place = .away)
    (herrand : p.errand = .pledged) {status : Status}
    (hstatus : status.isTerminal = true) (haway : gone (p.ending, k) id)
    (hline : ∀ t, gone ({ p.ending with place := .inLine t }, k)
      (Semaphore.updating lease.lock (Semaphore.withdraw t)))
    {held : κ} (hheld : ∀ q s, (lease.cell.get s).holdsBase = true → G.knows (q, k) s →
      G.may (q, k) s (p.carrying, held) (lease.surrender status s))
    {ends : Unit → Stage × κ → Prop} (hlate : p.sight ≠ .open → ends () (p.late, k))
    (hrest : p.sight ≠ .closed → ∀ q s, G.knows (q, k) s →
      (lease.farewell status s).Obeys (lease.discipline guard G) gone ends (p.carrying, held)) :
    (lease.shutdown status).Obeys (lease.discipline guard G) gone ends (p, k) := by
  obtain ⟨place, errand, sight, prompt⟩ := p
  obtain rfl : place = .away := hp
  intro s hs
  have hinward : lease.Inward s (lease.cell.modify
    (fun state => { state with closed := true }) s) :=
    inward_modify _ s rfl (List.Subset.refl _) rfl
  have haspect := hA.aspect_modify guard (fun state => { state with closed := true }) s
  by_cases hclosed : (lease.cell.get s).closed = true
  · refine ⟨(_, k), ⟨⟨_, .tooLate _ _ herrand hclosed, ?_⟩, hG _ _ s _ hs.2 hinward⟩, ?_⟩
    · rw [haspect, show { lease.cell.get s with closed := true } = lease.cell.get s by
        rw [← hclosed]]
      exact .refl _
    · simp only [hclosed, if_true]
      refine hlate fun hopen => ?_
      have hfalse := hs.1.seenOpen hopen
      exact absurd hclosed (Bool.eq_false_iff.mp hfalse)
  · have hsight : sight ≠ .closed := fun h => hclosed (hs.1.seenClosed h)
    refine ⟨(_, k), ⟨⟨_, .begin _ _ herrand (Bool.eq_false_iff.mpr hclosed), ?_⟩,
      hG _ _ s _ hs.2 hinward⟩, ?_⟩
    · rw [haspect]
      exact .refl _
    simp only [hclosed]
    have U := usable guard hA hG ⟨.away, .ender, .closed, prompt⟩ (by simp)
    refine (Semaphore.acquire_obeys U haway hline).bind ?_
    rintro had x (⟨-, rfl⟩ | ⟨-, ⟨⟩, -⟩) s hs
    have hholds : (lease.cell.get s).holdsBase = true := hs.1.ender rfl
    refine ⟨(_, held), ⟨⟨_, .surrender _ _ rfl rfl, ?_⟩, hheld _ s hholds hs.2⟩, ?_⟩
    · rw [hA.aspect_of_still guard (still_surrender status s), hA.get_surrender,
        LeaseState.aspect, finish_isTerminal _ hstatus]
      exact .refl _
    · simp only [hholds]
      exact hrest hsight _ s hs.2

/-- **Tidying up the connection beneath**: a transaction that is still open is rolled back, and then
the connection is given back. -/
theorem tidy_obeys (hA : lease.Apart) (hG : lease.Bears G p) {handles : List StatementHandle}
    (hsight : p.sight ≠ .open) (beyond : κ → (σ → σ) → Prop) (tidied : κ → Prop)
    {ends : Unit → Stage × κ → Prop}
    (hended : ∀ s, G.knows (p, k) s →
      ∃ k', G.may (p, k) s (p, k') (lease.cell.modify LeaseState.ended s) ∧
        if (lease.cell.get s).inTransaction = true then
          lease.base.rollback.run.Obeys (lease.beneath guard G p false) beyond (fun _ => tidied) k'
        else tidied k')
    (hbeyond : ∀ k f, beyond k f → gone (p, k) fun s => lease.base.drop (f s))
    (hrelease : ∀ k s, tidied k → (lease.discipline guard G).knows (p, k) s →
      ∃ x, (lease.discipline guard G).may (p, k) s x (lease.release (lease.destroyAll handles s))
        ∧ ends () x) :
    (lease.tidy handles).Obeys (lease.discipline guard G) gone ends (p, k) := by
  have htransaction : lease.tidyTransaction.Obeys (lease.discipline guard G)
      (fun x f => gone x fun s => lease.base.drop (f s)) (fun _ x => x.1 = p ∧ tidied x.2)
      (p, k) := by
    intro s hs
    obtain ⟨k', hmay, hnext⟩ := hended s hs.2
    refine ⟨(p, k'), ⟨?_, hmay⟩, ?_⟩
    · rw [hA.aspect_notes fun _ => rfl]
      exact step_of_grows (.refl _)
    by_cases hopen : (lease.cell.get s).inTransaction = true
    · simp only [hopen, if_true] at hnext ⊢
      refine (obeys_of_beneath (fun _ => hsight) hnext hbeyond).bind ?_
      rintro (fault | _) ⟨q, k⟩ ⟨rfl, htidied⟩
      · exact fun s hs => ⟨(q, k), hA.may_report hG _ hs.2, rfl, htidied⟩
      · exact ⟨rfl, htidied⟩
    · simp only [hopen] at hnext ⊢
      exact ⟨rfl, by simpa using hnext⟩
  refine htransaction.guarded.bind ?_
  rintro _ ⟨q, k⟩ ⟨rfl, htidied⟩ s hs
  exact hrelease k s htidied hs

lemma watching_ending {s : σ} (h : (lease.watching.ending? s).isSome = true) :
    (lease.aspect guard s).signalled = true := by
  unfold Watch.ending? at h
  split at h
  next hterminal => exact hterminal
  next => simp [watching] at h

/-- **Looking out for the end of the connection beneath**, and closing the lease then. -/
theorem watch_obeys (hG : lease.Ignores G k) (hp : p.place = .away)
    (herrand : p.errand = .lookout) (hsight : p.sight ≠ .open) (ownFirst : Bool)
    (hregister : ∀ self s, G.knows (p, k) s →
      (lease.aspect guard s).Grows (lease.aspect guard (lease.eitherEnd.register self s))
        ∧ G.may (p, k) s (p, k) (lease.eitherEnd.register self s))
    (hgone : gone (p, k) id) {ends : Unit → Stage × κ → Prop}
    (hrelax : ends () ({ p with errand := .bystander }, k))
    (hshutdown : ∀ q s status, G.knows (q, k) s → lease.base.watch.ending? s = some status →
      (lease.shutdown status).Obeys (lease.discipline guard G) gone ends
        ({ p with errand := .pledged }, k)) :
    (lease.watch ownFirst).Obeys (lease.discipline guard G) gone ends (p, k) := by
  refine ⟨⟨hsight, .inl (.either hp herrand)⟩, hgone, fun self s hs => ?_, fun s hs hready => ?_⟩
  · obtain ⟨hgrows, hmay⟩ := hregister self s hs.2
    exact ⟨step_of_grows hgrows, hmay⟩
  have hend : (lease.aspect guard s).ended = true ∨ (lease.aspect guard s).closed = true := by
    rcases Bool.or_eq_true_iff.mp hready with h | h
    · exact .inl h
    · exact .inr (hs.1.signalled (watching_ending h))
  refine ⟨_, may_same hG hs.2 (.alarm _ _ herrand hend), fun s hs => ?_⟩
  cases hbase : lease.base.watch.ending? s with
  | none =>
    have hclosed : (lease.aspect guard s).closed = true :=
      (hs.1.alarmed rfl).resolve_left (by simp [aspect, LeaseState.aspect, hbase])
    refine ⟨_, may_same hG hs.2 (.relax _ _ rfl hclosed), ?_⟩
    simp only [hbase]
    exact hrelax
  | some status =>
    by_cases hown : (ownFirst && (lease.watching.ending? s).isSome) = true
    · have hclosed : (lease.aspect guard s).closed = true :=
        hs.1.signalled (watching_ending (Bool.and_eq_true_iff.mp hown).2)
      refine ⟨_, may_same hG hs.2 (.relax _ _ rfl hclosed), ?_⟩
      simp only [hbase, hown, if_true]
      exact hrelax
    · have hended : (lease.aspect guard s).ended = true := by
        simp [aspect, LeaseState.aspect, hbase]
      refine ⟨_, may_same hG hs.2 (.report _ _ rfl hended), ?_⟩
      simp only [hbase, hown]
      exact hshutdown _ s status hs.2 hbase

end Lease

end Transactional
