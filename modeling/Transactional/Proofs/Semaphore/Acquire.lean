import Transactional.Proofs.Semaphore.Refusal
import Transactional.Proofs.Task.Still

/-!
# Waiting for a permit, step by step

`Semaphore.acquire` moves as `Semaphore.Shifts` says, whatever else its discipline is about.

* `Semaphore.Usable` — a discipline lets its tasks use a semaphore.
* `Semaphore.acquire_obeys` — waiting for a permit keeps to such a discipline, and has the permit at
  its end, unless it is refused.
* `Semaphore.acquire_respects` — whatever the discipline, it changes only permits and turns.
-/

namespace Transactional.Semaphore

variable [Host σ] {D : Discipline σ φ} {cell : Cell σ Semaphore} {toStage : Place → φ}
  {refusable : Prop}

/-- **A discipline lets its tasks use a semaphore**: it has a stage for each place, and allows the
moves from one to another.  `refusable` says whether anybody may be refused. -/
structure Usable (D : Discipline σ φ) (cell : Cell σ Semaphore) (toStage : Place → φ)
    (refusable : Prop) : Prop where
  apart : ∀ c s, cell.get (Host.schedule.set c s) = cell.get s
  shut : ∀ p s, D.knows (toStage p) s → (cell.get s).shut = true → refusable
  moves : ∀ p q s s', D.knows (toStage p) s → Shifts p (cell.get s) q (cell.get s') →
    Host.Still cell s s' → D.may (toStage p) s (toStage q) s'
  pause : D.waits (toStage .away) (Task.pause : Wait σ).ready
  line : ∀ t, D.waits (toStage (.inLine t)) (Task.paced (inLine cell t)).ready

namespace Usable

lemma get_wakeAll (U : Usable D cell toStage refusable) (tasks : List TaskId) (s : σ) :
    cell.get (Host.wakeAll tasks s) = cell.get s := by
  induction tasks generalizing s with
  | nil => rfl
  | cons task rest ih => exact (ih _).trans (U.apart _ s)

lemma get_updating (U : Usable D cell toStage refusable)
    (f : Semaphore → List TaskId × Semaphore) (s : σ) :
    cell.get (updating cell f s) = (f (cell.get s)).2 := by
  unfold updating
  rw [U.get_wakeAll, cell.get_set]

lemma still_updating (f : Semaphore → List TaskId × Semaphore) (s : σ) :
    Host.Still cell s (updating cell f s) :=
  (Host.Still.set _ s).trans (Host.Still.wakeAll _ _)

variable (U : Usable D cell toStage refusable)

include U

lemma stay {p : Place} {s : σ} (hs : D.knows (toStage p) s) : D.may (toStage p) s (toStage p) s :=
  U.moves p p s s hs (shifts_stay p _) (.refl s)

lemma schedule {p : Place} {s : σ} (f : Schedule → Schedule) (hf : ∀ c, (f c).starts = c.starts)
    (hs : D.knows (toStage p) s) :
    D.may (toStage p) s (toStage p) (Host.schedule.modify f s) := by
  refine U.moves p p s _ hs ?_ (Host.Still.schedule f hf s)
  rw [show cell.get (Host.schedule.modify f s) = cell.get s from U.apart _ s]
  exact shifts_stay p _

lemma release {s : σ} (hs : D.knows (toStage .inside) s) :
    D.may (toStage .inside) s (toStage .away) (Semaphore.release cell s) := by
  refine U.moves _ _ s _ hs ?_ (still_updating _ s)
  rw [Semaphore.release, U.get_updating]
  exact shifts_handOver _

lemma withdraw {t : Nat} {s : σ} (hs : D.knows (toStage (.inLine t)) s) :
    D.may (toStage (.inLine t)) s (toStage .away) (updating cell (Semaphore.withdraw t) s) := by
  refine U.moves _ _ s _ hs ?_ (still_updating _ s)
  rw [U.get_updating]
  exact shifts_withdraw t _

lemma ask {s : σ} (hs : D.knows (toStage .away) s) (hshut : (cell.get s).shut = false) :
    D.may (toStage .away) s
      (toStage (if 0 < (cell.get s).free then .inside else .inLine (cell.get s).nextTicket))
      (Semaphore.ask cell s) := by
  by_cases hfree : 0 < (cell.get s).free
  · have hask : Semaphore.ask cell s = Task.spend (cell.modify take s) := by
      simp [Semaphore.ask, hshut, hfree]
    rw [if_pos hfree, hask]
    refine U.moves _ _ s _ hs ?_ ((Host.Still.modify _ s).trans (Host.Still.spend _))
    rw [show cell.get (Task.spend (cell.modify take s)) = _ from U.apart _ _, cell.get_modify]
    exact .move hshut (.take _ hfree)
  · have hask : Semaphore.ask cell s = cell.set (cell.get s).enqueue s := by
      simp [Semaphore.ask, hshut, hfree]
    rw [if_neg hfree, hask]
    refine U.moves _ _ s _ hs ?_ (Host.Still.set _ s)
    rw [cell.get_set]
    exact .move hshut (.enqueue _ (by omega))

lemma register {t : Nat} {s : σ} (self : TaskId) (hs : D.knows (toStage (.inLine t)) s) :
    D.may (toStage (.inLine t)) s (toStage (.inLine t))
      ((Task.paced (inLine cell t)).register self s) := by
  simp only [Task.paced]
  split
  · have hword : (inLine cell t).register self s = cell.modify (Semaphore.remember t self) s := rfl
    rw [hword]
    refine U.moves _ _ s _ hs ?_ (Host.Still.modify _ s)
    rw [cell.get_modify]
    exact shifts_remember t self _
  · exact U.schedule _ (Schedule.starts_stepAside self) hs

/-- The wait is over, because a permit was granted or because everybody is refused. -/
lemma hear {t : Nat} {s : σ} (hs : D.knows (toStage (.inLine t)) s)
    (hready : (Task.paced (inLine cell t)).ready s = true) :
    D.may (toStage (.inLine t)) s (toStage (.called t)) s := by
  refine U.moves _ _ s s hs ?_ (.refl s)
  cases hshut : (cell.get s).shut with
  | true => exact .hear t _ hshut
  | false =>
    refine .move hshut (.hear t _ ?_)
    simpa [Task.paced, inLine, hshut] using (Bool.and_eq_true_iff.mp hready).2

/-- After the wait the permit is there, and it is taken, unless everybody is refused. -/
lemma afterWait {gone : φ → (σ → σ) → Prop} (t : Nat) :
    (Semaphore.afterWait cell t).Obeys D gone
      (fun had q => had = true ∧ q = toStage .inside
        ∨ had = false ∧ refusable ∧ q = toStage .away)
      (toStage (.called t)) := by
  intro s hs
  by_cases hshut : (cell.get s).shut = true
  · simp only [hshut, if_true]
    refine ⟨toStage .away, U.moves _ _ s _ hs ?_
      ((Host.Still.spend s).trans (still_updating _ _)), .inr ⟨rfl, U.shut _ s hs hshut, rfl⟩⟩
    rw [U.get_updating, show cell.get (Task.spend s) = cell.get s from U.apart _ s]
    exact .refused t _ hshut
  · rw [Bool.not_eq_true] at hshut
    simp only [hshut, Bool.false_eq_true, if_false]
    refine ⟨toStage .inside, U.moves _ _ s _ hs ?_
      ((Host.Still.modify _ s).trans (Host.Still.spend _)), .inl ⟨rfl, rfl⟩⟩
    rw [show cell.get (Task.spend (cell.modify (Semaphore.collect t) s)) = _ from U.apart _ _,
      cell.get_modify]
    exact .move hshut (.collect t _)

end Usable

/-- **Waiting for a permit keeps to the discipline**, and has the permit at its end, unless it is
refused. -/
theorem acquire_obeys (U : Usable D cell toStage refusable) {gone : φ → (σ → σ) → Prop}
    (haway : gone (toStage .away) id)
    (hline : ∀ t, gone (toStage (.inLine t)) (updating cell (withdraw t))) :
    (acquire cell).Obeys D gone
      (fun had q => had = true ∧ q = toStage .inside
        ∨ had = false ∧ refusable ∧ q = toStage .away)
      (toStage .away) := by
  refine ⟨U.pause, haway, fun self s hs => U.schedule _ (Schedule.starts_stepAside self) hs,
    fun s hs _ => ⟨_, U.stay hs, fun s hs => ?_⟩⟩
  by_cases hshut : (cell.get s).shut = true
  · have hask : Semaphore.ask cell s = Task.spend s := by simp [Semaphore.ask, hshut]
    refine ⟨toStage .away, ?_, ?_⟩
    · rw [hask]
      exact U.schedule _ Schedule.starts_spend hs
    · dsimp only
      rw [if_pos hshut]
      exact .inr ⟨rfl, U.shut _ s hs hshut, rfl⟩
  refine ⟨_, U.ask hs (Bool.eq_false_iff.mpr hshut), ?_⟩
  dsimp only
  rw [if_neg hshut]
  by_cases hfree : 0 < (cell.get s).free
  · rw [if_pos hfree, if_pos hfree]
    exact .inl ⟨rfl, rfl⟩
  · rw [if_neg hfree, if_neg hfree]
    generalize (cell.get s).nextTicket = t
    exact ⟨U.line t, hline t, fun self s hs => U.register self hs,
      fun s hs hready => ⟨_, U.hear hs hready, U.afterWait t⟩⟩

/-- **Waiting for a permit changes only permits and turns**, also where everybody may be refused. -/
theorem acquire_respects (cell : Cell σ Semaphore) :
    (acquire cell).Respects (fun _ => True) (Host.Still cell) := by
  have hask : ∀ s, Host.Still cell s (Semaphore.ask cell s) := by
    intro s
    unfold Semaphore.ask
    dsimp only
    split
    · exact .spend s
    · split
      · exact (Host.Still.modify _ s).trans (.spend _)
      · exact .set _ s
  refine ⟨trivial, fun s _ => .refl s, fun self s _ => .pause self s, fun s _ _ =>
    ⟨(), .refl s, fun s _ => ⟨(), hask s, ?_⟩⟩⟩
  dsimp only
  split
  · trivial
  split
  · trivial
  refine ⟨trivial, fun s _ => ?_, fun self s _ => ?_, fun s _ _ =>
    ⟨(), .refl s, fun s _ => ⟨(), ?_, trivial⟩⟩⟩
  · exact Usable.still_updating (withdraw _) s
  · simp only [Task.paced]
    split
    · exact .modify (remember _ self) s
    · exact .pause self s
  · dsimp only
    split
    · exact (Host.Still.spend s).trans (Usable.still_updating _ _)
    · exact (Host.Still.modify _ s).trans (.spend _)

end Transactional.Semaphore
