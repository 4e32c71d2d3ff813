import Transactional.Proofs.Task.Company

/-!
# What a change leaves alone

Most changes concern one part of the state and, beside it, only the turns to come and the reports.
Whatever cannot see these is as it was before.

* `Schedule.starts` — the jobs that are due, which waking and pausing leave alone.
* `Host.Still` — two states between which only one part, turns and reports may differ.
-/

namespace Transactional

namespace Schedule

/-- The jobs that are due, with the numbers of their tasks. -/
def starts (schedule : Schedule) : List (TaskId × Job) :=
  schedule.ready.filterMap fun
    | .start number job => some (number, job)
    | .resume _ => none

@[simp] lemma starts_wake (task : TaskId) (c : Schedule) : (c.wake task).starts = c.starts := by
  unfold wake
  split
  · rfl
  · simp [starts]

@[simp] lemma starts_spend (c : Schedule) : c.spend.starts = c.starts := rfl

@[simp] lemma starts_refresh (c : Schedule) : c.refresh.starts = c.starts := rfl

@[simp] lemma starts_stepAside (task : TaskId) (c : Schedule) :
    (c.stepAside task).starts = c.starts := by
  unfold stepAside
  split <;> rfl

@[simp] lemma starts_arm (timer : Timer) (c : Schedule) : (c.arm timer).starts = c.starts := by
  unfold arm
  split <;> rfl

@[simp] lemma starts_disarm (ticket : Nat) (c : Schedule) : (c.disarm ticket).starts = c.starts :=
  rfl

@[simp] lemma starts_spawn (job : Job) (c : Schedule) :
    (c.spawn job).starts = c.starts ++ [(c.nextTask, job)] := by
  simp [starts, spawn]

lemma mem_starts_erase {number : TaskId} {job : Job} {turn : Turn} {c : Schedule}
    (h : (number, job) ∈ c.starts) (hne : turn ≠ .start number job) :
    (number, job) ∈ ({ c with ready := c.ready.erase turn } : Schedule).starts := by
  obtain ⟨t, ht, heq⟩ := List.mem_filterMap.mp h
  have hturn : t = .start number job := by
    cases t with
    | start n j => simp only [Option.some.injEq, Prod.mk.injEq] at heq; rw [heq.1, heq.2]
    | resume n => simp at heq
  refine List.mem_filterMap.mpr ⟨t, ?_, heq⟩
  exact (List.mem_erase_of_ne (hturn ▸ hne.symm)).mpr ht

end Schedule

lemma Company.due_iff [Host σ] {number : TaskId} {job : Job} {s : σ} :
    Due number job s ↔ (number, job) ∈ (Host.schedule.get s).starts := by
  rw [Due, Schedule.starts, List.mem_filterMap]
  constructor
  · exact fun h => ⟨_, h, rfl⟩
  · rintro ⟨turn, hturn, heq⟩
    cases turn with
    | start n j => simp only [Option.some.injEq, Prod.mk.injEq] at heq; rwa [← heq.1, ← heq.2]
    | resume n => simp at heq

lemma Company.due_spawn [Host σ] (job : Job) (s : σ) : ∃ n, Due n job (Host.spawn job s) := by
  refine ⟨(Host.schedule.get s).nextTask, ?_⟩
  rw [due_iff, Host.spawn, Cell.get_modify, Schedule.starts_spawn]
  exact List.mem_append_right _ (List.mem_singleton.mpr rfl)

namespace Host

variable [Host σ]

/-- **Only one part of the state may have changed**, beside the turns and the reports.  Whatever
sees none of these gives the same answer as before; the jobs that are due are the same, too. -/
structure Still (cell : Cell σ τ) (s s' : σ) : Prop where
  /-- What does not see the part, the turns and the reports is as it was. -/
  same : ∀ {β : Type} (o : σ → β), (∀ v s, o (cell.set v s) = o s) →
    (∀ c s, c.starts = (schedule.get s).starts → o (schedule.set c s) = o s) →
    (∀ t s, o (traces.set t s) = o s) → o s' = o s

namespace Still

variable {cell : Cell σ τ} {s s' s'' : σ}

lemma refl (s : σ) : Still cell s s := ⟨fun _ _ _ _ => rfl⟩

lemma trans (h : Still cell s s') (h' : Still cell s' s'') : Still cell s s'' where
  same o hcell hschedule htraces :=
    (h'.same o hcell hschedule htraces).trans (h.same o hcell hschedule htraces)

lemma of_comp {inner : Cell τ ρ} (h : Still (cell.comp inner) s s') : Still cell s s' where
  same o hcell := h.same o fun _ s => hcell _ s

lemma set (v : τ) (s : σ) : Still cell s (cell.set v s) := ⟨fun _ hcell _ _ => hcell v s⟩

lemma modify (f : τ → τ) (s : σ) : Still cell s (cell.modify f s) := set _ s

lemma schedule (f : Schedule → Schedule) (hf : ∀ c, (f c).starts = c.starts) (s : σ) :
    Still cell s (Host.schedule.modify f s) :=
  ⟨fun _ _ hschedule _ => hschedule _ s (hf _)⟩

lemma report (trace : Trace) (s : σ) : Still cell s (Host.report trace s) :=
  ⟨fun _ _ _ htraces => htraces _ s⟩

lemma spend (s : σ) : Still cell s (Task.spend s) := schedule _ Schedule.starts_spend s

lemma wake (task : TaskId) (s : σ) : Still cell s (Host.wake task s) :=
  schedule _ (Schedule.starts_wake task) s

lemma wakeAll (tasks : List TaskId) (s : σ) : Still cell s (Host.wakeAll tasks s) := by
  induction tasks generalizing s with
  | nil => exact refl s
  | cons task rest ih => exact (wake task s).trans (ih _)

lemma pause (self : TaskId) (s : σ) : Still cell s ((Task.pause : Wait σ).register self s) :=
  schedule _ (Schedule.starts_stepAside self) s

end Still

end Host

end Transactional
