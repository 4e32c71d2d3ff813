import Transactional.Proofs.Lease.Story

/-!
# The tasks of a lease keep to its discipline

For any connection beneath that knows nothing of the lease, every call on the lease and each of its
jobs moves as `Stage.Does` says, and the pool hears of the lease exactly when it stops listening.

* `Pool.listener`, `Pool.taskDiscipline` — the discipline for the connection beneath, and the whole
  one.
* `Pool.Hears.call_keeps`, `Pool.Hears.shutdown_keeps`, `Pool.Hears.watch_keeps` — the calls, the
  job that closes the lease and the one that looks out for the end of the connection beneath.
-/

namespace Transactional.Pool

variable [LeaseHost σ] {ρ : Type}

/-- The discipline for the connection beneath: the pool hears of it when the lease no longer
listens, and not before. -/
def listener (pool : Pool σ) (base number : Nat) (heard : σ → List ρ) (mark : Connection σ → ρ) :
    Discipline σ Unit where
  knows _ _ := True
  may _ s _ s' :=
    heard s' = heard s
        ∧ ((LeaseHost.leases number).get s').listening = ((LeaseHost.leases number).get s).listening
      ∨ ((LeaseHost.leases number).get s).listening = true
        ∧ ((LeaseHost.leases number).get s').listening = false
        ∧ heard s' = heard s ++ [mark (pool.connection base)]
  waits _ ready := (pool.connection base).Awaits ready

variable {pool : Pool σ} {base number : Nat} {heard : σ → List ρ} {mark : Connection σ → ρ}

namespace Elsewhere

variable {s s' s'' : σ}

lemma refl (s : σ) : pool.Elsewhere base number heard s s := ⟨.refl _, rfl⟩

lemma trans (h : pool.Elsewhere base number heard s s')
    (h' : pool.Elsewhere base number heard s' s'') : pool.Elsewhere base number heard s s'' :=
  ⟨h.grows.trans h'.grows, h'.heard.trans h.heard⟩

lemma listening (h : pool.Elsewhere base number heard s s') :
    ((LeaseHost.leases number).get s').listening = ((LeaseHost.leases number).get s).listening :=
  congrArg Aspect.listening h.grows.eq

lemma may (h : pool.Elsewhere base number heard s s') :
    (pool.listener base number heard mark).may () s () s' :=
  .inl ⟨h.heard, h.listening⟩

end Elsewhere

/-- The discipline of the tasks on the lease. -/
abbrev taskDiscipline (pool : Pool σ) (base number : Nat) (heard : σ → List ρ)
    (mark : Connection σ → ρ) :
    Discipline σ (Stage × Unit) :=
  (pool.lease base number).discipline (.watch base number)
    (pool.listener base number heard mark).blind

def Done (x : Stage × Unit) : Prop := x.1.Over

/-- The connection beneath may be used at any stage that does not rely on nobody else moving. -/
lemma beneath_obeys {task : Task σ α}
    (h : task.Respects (fun _ => True) (pool.Elsewhere base number heard))
    (hwaits : ∀ ready, task.Waits ready → (pool.connection base).Awaits ready) (p : Stage) :
    task.Obeys ((pool.lease base number).beneath (.watch base number)
        (pool.listener base number heard mark).blind p false)
      (fun _ f => ∀ s, pool.Elsewhere base number heard s (f s)) (fun _ _ => True) () := by
  have hstay : task.Obeys ((pool.lease base number).beneath (.watch base number)
        (pool.listener base number heard mark).blind p false)
      (fun _ f => ∀ s, pool.Elsewhere base number heard s (f s)) (fun _ k => k = ()) () :=
    Task.Obeys.of_respects h (fun _ _ => trivial) (fun s s' _ helse => ⟨helse.grows, helse.may⟩)
      (fun ready hw => ⟨rfl, hwaits ready hw⟩) (fun f hf s => hf s trivial)
  exact hstay.imp fun _ _ _ => trivial

namespace Hears

variable (H : pool.Hears base number heard mark)

include H

lemma heard_of_still {s s' : σ} (h : Host.Still (pool.lease base number).cell s s') :
    heard s' = heard s :=
  h.same heard H.heard_cell (fun c s _ => H.heard_schedule c s) H.heard_traces

lemma ignores (k : Unit) :
    (pool.lease base number).Ignores (pool.listener base number heard mark).blind k := by
  intro _ _ s s' _ h
  exact .inl ⟨H.heard_of_still h.still, h.listening⟩

lemma leaves_inside {p : Stage} (hp : p.place = .inside) (herrand : p.errand = .bystander)
    {f : σ → σ} (hf : ∀ s, pool.Elsewhere base number heard s (f s)) :
    Company.Leaves (pool.taskDiscipline base number heard mark) Done (p, ()) fun s =>
      Semaphore.release (pool.lease base number).lock (f s) := by
  intro s hs
  have hinward := H.apart.inward_release (f s)
  refine ⟨({ p with place := .away }, ()), ⟨?_, .inl ⟨?_, ?_⟩⟩, rfl, .inl herrand⟩
  · rw [H.apart.aspect_release]
    exact Stage.step_lock (hf s).grows (by rw [hp]; exact .handOver _)
  · rw [H.heard_of_still hinward.still, (hf s).heard]
  · exact hinward.listening.trans (hf s).listening

lemma leaves_line {p : Stage} (hsight : p.sight ≠ .open) (herrand : p.errand = .bystander)
    (t : Nat) :
    Company.Leaves (pool.taskDiscipline base number heard mark) Done
      ({ p with place := .inLine t }, ())
      (Semaphore.updating (pool.lease base number).lock (Semaphore.withdraw t)) := by
  intro s hs
  have U := Lease.usable (.watch base number) H.apart (H.ignores ()) p hsight
  exact ⟨({ p with place := .away }, ()), U.withdraw hs, rfl, .inl herrand⟩

lemma notes_may {f : LeaseState → LeaseState} (hf : Lease.Notes f) (s : σ) :
    (pool.listener base number heard mark).may () s ()
      ((pool.lease base number).cell.modify f s) := by
  refine .inl ⟨H.heard_of_still (.modify _ s), ?_⟩
  show ((pool.lease base number).cell.get _).listening = _
  rw [Cell.get_modify, hf]
  rfl

/-- **Every operation keeps to the discipline**, and may be given up while it waits. -/
lemma operate_keeps {operation : Attempt σ α} {after : α → LeaseState → LeaseState}
    (hnotes : ∀ a, Lease.Notes (after a))
    (h : operation.run.Respects (fun _ => True) (pool.Elsewhere base number heard))
    (hwaits : ∀ ready, operation.run.Waits ready → (pool.connection base).Awaits ready)
    (optional : Bool) :
    Company.Keeps (pool.taskDiscipline base number heard mark) Done
      ⟨((pool.lease base number).operate operation after).run.bind fun _ => .done (), optional⟩
      ({}, ()) := by
  have hfirm : false = true → ({} : Stage).prompt = true := by simp
  refine Task.Obeys.bind (Lease.operate_obeys H.apart (H.ignores ())
    (Lease.grants_of_ignores (H.ignores ())) hfirm id rfl ?_ ?_ (fun _ _ => True)
    (fun _ _ => True) (beneath_obeys h hwaits _) ?_ hnotes ?_ (fun _ _ _ => trivial) ?_) ?_
  · exact fun _ s hs => ⟨_, Lease.may_same (H.ignores ()) trivial (.nothing _ _), rfl, .inl rfl⟩
  · exact fun t _ => H.leaves_line (p := {}) (by simp) rfl t
  · exact fun _ f hf _ => H.leaves_inside rfl rfl hf
  · exact fun a _ _ s _ => ⟨(), H.notes_may (hnotes a) s, trivial⟩
  · exact fun _ _ s _ _ hs => ⟨(), H.ignores () _ _ s _ hs (H.apart.inward_release s), trivial⟩
  · rintro r x (⟨-, rfl⟩ | ⟨hx, -⟩)
    · exact ⟨rfl, .inl rfl⟩
    · rw [Task.Obeys, Done, hx]
      exact ⟨rfl, .inl rfl⟩

lemma elsewhere_destroy (handle : StatementHandle) (s : σ) :
    pool.Elsewhere base number heard s ((pool.lease base number).destroy handle s) := by
  have hforget : Lease.Notes (LeaseState.forget handle) := fun _ => rfl
  have hnote : pool.Elsewhere base number heard s
      ((pool.lease base number).cell.modify (LeaseState.forget handle) s) := by
    refine ⟨?_, H.heard_of_still (.modify _ s)⟩
    rw [H.apart.aspect_notes hforget]
    exact .refl _
  unfold Lease.destroy
  dsimp only
  split
  · exact hnote.trans (H.beneath.destroy handle _ trivial)
  · exact hnote

/-- Destroying statements on the connection beneath is none of the lease's business. -/
lemma elsewhere_destroyAll (handles : List StatementHandle) (s : σ) :
    pool.Elsewhere base number heard s ((pool.lease base number).destroyAll handles s) := by
  induction handles generalizing s with
  | nil => exact .refl s
  | cons handle rest ih => exact (H.beneath.destroy handle s trivial).trans (ih _)

/-- **Giving the connection beneath back**: the pool hears of it, and the task is discharged. -/
lemma release_may {p : Stage} {s s' : σ} (herrand : p.errand = .carrier)
    (hs : (pool.taskDiscipline base number heard mark).knows (p, ()) s)
    (helse : pool.Elsewhere base number heard s s') :
    (pool.taskDiscipline base number heard mark).may (p, ()) s
      ({ p with errand := .discharged }, ())
      ((pool.lease base number).release s') := by
  have hlistening : ((pool.lease base number).cell.get s).listening = true := hs.1.carrier herrand
  have hlistening' : ((pool.lease base number).cell.get s').listening = true :=
    helse.listening.trans hlistening
  rw [Lease.release, if_pos hlistening']
  have hunheard := H.heard_of_still (Host.Still.modify
    (fun state : LeaseState => { state with listening := false }) s')
  have haspect := H.apart.aspect_modify (.watch base number)
    (fun state => { state with listening := false }) s'
  have hgrows := H.giveBack ((pool.lease base number).cell.modify
    (fun state => { state with listening := false }) s')
  rw [haspect] at hgrows
  refine ⟨Stage.step_giveBack herrand helse.grows hgrows, .inr ⟨hlistening, ?_, ?_⟩⟩
  · exact congrArg Aspect.listening hgrows.eq
  · exact (H.told _).trans (by rw [hunheard, helse.heard])

/-- A close is never given up. -/
abbrev Never (pool : Pool σ) (base number : Nat) (heard : σ → List ρ) (mark : Connection σ → ρ)
    (x : Stage × Unit) (f : σ → σ) : Prop :=
  false = true → Company.Leaves (pool.taskDiscipline base number heard mark) Done x f

/-- **After the connection beneath has been taken out of the lease, it is given back.** -/
lemma farewell_keeps (status : Status) (s : σ) (p : Stage) :
    ((pool.lease base number).farewell status s).Obeys (pool.taskDiscipline base number heard mark)
      (Never pool base number heard mark) (fun _ => Done) (p.carrying, ()) := by
  have hrelease : ∀ s s', (pool.taskDiscipline base number heard mark).knows (p.carrying, ()) s →
      pool.Elsewhere base number heard s s' →
      ∃ x, (pool.taskDiscipline base number heard mark).may (p.carrying, ()) s x
        ((pool.lease base number).release s') ∧ Done x :=
    fun s s' hs helse => ⟨_, H.release_may rfl hs helse, rfl, .inr rfl⟩
  unfold Lease.farewell
  split
  · refine Lease.tidy_obeys H.apart (Lease.bears_of_ignores H.ignores _) (by simp [Stage.carrying])
      (fun _ f => ∀ s, pool.Elsewhere base number heard s (f s)) (fun _ => True) (fun s _ => ?_)
      (fun _ _ _ h => by simp at h) fun _ s _ hs => hrelease s _ hs (H.elsewhere_destroyAll _ s)
    refine ⟨(), H.notes_may (fun _ => rfl) s, ?_⟩
    split
    · exact beneath_obeys H.beneath.rollback (fun ready h => .inr (.inr (.inr (.inl h)))) _
    · trivial
  · exact fun s hs => hrelease s s hs (.refl s)

/-- **Closing the lease keeps to the discipline.** -/
lemma shutdown_keeps {status : Status} (hstatus : status.isTerminal = true) {p : Stage}
    (hplace : p.place = .away) (herrand : p.errand = .pledged) :
    ((pool.lease base number).shutdown status).Obeys (pool.taskDiscipline base number heard mark)
      (Never pool base number heard mark) (fun _ => Done) (p, ()) :=
  Lease.shutdown_obeys H.apart (H.ignores ()) hplace herrand hstatus (fun h => by simp at h)
    (fun _ h => by simp at h)
    (fun _ s _ hs => H.ignores () _ _ s _ hs (H.apart.inward_surrender status s))
    (fun _ => ⟨hplace, .inl rfl⟩) fun _ _ s _ => H.farewell_keeps status s p

/-- **Looking out for the end of the connection beneath keeps to the discipline.** -/
lemma watch_keeps (ownFirst : Bool) :
    Company.Keeps (pool.taskDiscipline base number heard mark) Done
      ⟨(pool.lease base number).watch ownFirst, false⟩ ({ errand := .lookout }, ()) := by
  refine Lease.watch_obeys (H.ignores ()) rfl rfl (by simp) ownFirst (fun self s _ => ?_)
    (fun h => by simp at h) ⟨rfl, .inl rfl⟩ fun _ s status _ hend =>
      H.shutdown_keeps (Watch.isTerminal_of_ending hend) rfl rfl
  have helse := H.beneath.register self s trivial
  have hinward : (pool.lease base number).Inward _ ((pool.lease base number).watching.register self
      ((pool.connection base).watch.register self s)) := Lease.inward_join self _
  refine ⟨?_, .inl ⟨(H.heard_of_still hinward.still).trans helse.heard,
    hinward.listening.trans helse.listening⟩⟩
  show Aspect.Grows _ ((pool.lease base number).aspect (.watch base number)
    ((pool.lease base number).watching.register self
      ((pool.connection base).watch.register self s)))
  rw [H.apart.aspect_join]
  exact helse.grows

/-- **Every call keeps to the discipline**, from a stage that says whether it is going to end the
lease. -/
lemma call_keeps (call : LeaseCall) :
    Company.Keeps (pool.taskDiscipline base number heard mark) Done
      ⟨call.task (pool.lease base number).connection, !call.ends⟩
      ({ errand := if call.ends then .pledged else .bystander }, ()) := by
  have hinTransaction : ∀ _ : Unit, Lease.Notes LeaseState.begun := fun _ _ => rfl
  have hended : ∀ _ : Unit, Lease.Notes LeaseState.ended := fun _ _ => rfl
  have hnothing : ∀ α, ∀ _ : α, Lease.Notes id := fun _ _ _ => rfl
  cases call with
  | connect => exact H.operate_keeps (hnothing _) H.beneath.connect (fun _ h => .inl h) _
  | begin => exact H.operate_keeps hinTransaction H.beneath.begin (fun _ h => .inr (.inl h)) _
  | commit => exact H.operate_keeps hended H.beneath.commit (fun _ h => .inr (.inr (.inl h))) _
  | rollback =>
    exact H.operate_keeps hended H.beneath.rollback (fun _ h => .inr (.inr (.inr (.inl h)))) _
  | prepare sql kind =>
    exact H.operate_keeps (fun _ _ => rfl) (H.beneath.prepare sql kind)
      (fun _ h => .inr (.inr (.inr (.inr (.inl ⟨sql, kind, h⟩))))) _
  | execute handle bindings =>
    exact H.operate_keeps (hnothing _) (H.beneath.execute handle bindings)
      (fun _ h => .inr (.inr (.inr (.inr (.inr ⟨handle, bindings, h⟩))))) _
  | destroy handle =>
    intro s _
    have helse := H.elsewhere_destroy handle s
    exact ⟨({}, ()), ⟨Lease.step_of_grows helse.grows, helse.may⟩, rfl, .inl rfl⟩
  | close => exact H.shutdown_keeps rfl rfl rfl
  | drop =>
    intro s _
    refine ⟨({}, ()), ⟨H.apart.step_drop s rfl, .inl ?_⟩, rfl, .inl rfl⟩
    rw [show (pool.lease base number).connection.drop s = (pool.lease base number).drop s from rfl]
    unfold Lease.drop
    split
    · exact ⟨rfl, rfl⟩
    · refine ⟨H.heard_schedule _ s, congrArg LeaseState.listening (H.apart.schedule _ s)⟩

end Hears

end Transactional.Pool
