import Mathlib.Tactic.Common
import Transactional.Task.Schedule

/-!
# Disciplines

A task that shares its state with others keeps to a discipline: at each moment it is at some stage,
it relies on what the stage says about the state, and every change that it makes takes it from one
stage to another.  Stages are not part of the state and not part of the task; they are what an
invariant about several tasks speaks of.

* `Discipline` — what a stage says, which changes it allows, and where a task may wait.
* `Task.Obeys` — a task keeps to a discipline, whatever others make of the state in between.
* `Task.Obeys.bind`, `Task.Obeys.guarded`, `Task.Obeys.holding`, `Task.Obeys.race` — the pieces that
  tasks are put together from keep to it if their parts do.
* `Task.Respects` — the special case of a single stage: every change of a task is of one kind.
-/

namespace Transactional

/-- **A discipline** for tasks on a state, with its stages. -/
structure Discipline (σ φ : Type) where
  knows : φ → σ → Prop
  may : φ → σ → φ → σ → Prop
  waits : φ → (σ → Bool) → Prop

namespace Task

/-- **A task keeps to a discipline** from a stage on.  It relies on nothing but its stage, so others
may change the state between any two of its steps.  `gone` says how it may be given up, and `ends`
where it may end. -/
def Obeys (D : Discipline σ φ) (gone : φ → (σ → σ) → Prop) (ends : α → φ → Prop) :
    Task σ α → φ → Prop
  | .done a, p => ends a p
  | .act update next, p =>
      ∀ s, D.knows p s → ∃ q, D.may p s q (update s) ∧ Obeys D gone ends (next s) q
  | .wait on next, p =>
      D.waits p on.ready ∧ gone p on.abandon
        ∧ (∀ self s, D.knows p s → D.may p s p (on.register self s))
        ∧ ∀ s, D.knows p s → on.ready s → ∃ q, D.may p s q s ∧ Obeys D gone ends next q

namespace Obeys

variable {D : Discipline σ φ} {E : Discipline σ ψ} {gone gone' : φ → (σ → σ) → Prop}
  {ends ends' : α → φ → Prop} {p : φ} {task : Task σ α}

/-- It may be said less precisely how a task is given up and where it ends. -/
lemma mono (h : task.Obeys D gone ends p) (hgone : ∀ p f, gone p f → gone' p f)
    (hends : ∀ a p, ends a p → ends' a p) : task.Obeys D gone' ends' p := by
  induction task generalizing p with
  | done a => exact hends a p h
  | act update next ih =>
      intro s hs
      obtain ⟨q, hmay, hq⟩ := h s hs
      exact ⟨q, hmay, ih s hq⟩
  | wait on next ih =>
      obtain ⟨hwaits, hgone', hregister, hpass⟩ := h
      refine ⟨hwaits, hgone _ _ hgone', hregister, fun s hs hready => ?_⟩
      obtain ⟨q, hmay, hq⟩ := hpass s hs hready
      exact ⟨q, hmay, ih hq⟩

lemma imp (h : task.Obeys D gone ends p) (hends : ∀ a p, ends a p → ends' a p) :
    task.Obeys D gone ends' p :=
  h.mono (fun _ _ => id) hends

/-- **One task after the other.** -/
lemma bind {ends' : β → φ → Prop} {f : α → Task σ β} (h : task.Obeys D gone ends p)
    (hf : ∀ a q, ends a q → (f a).Obeys D gone ends' q) :
    (task.bind f).Obeys D gone ends' p := by
  induction task generalizing p with
  | done a => exact hf a p h
  | act update next ih =>
      intro s hs
      obtain ⟨q, hmay, hq⟩ := h s hs
      exact ⟨q, hmay, ih s hq⟩
  | wait on next ih =>
      obtain ⟨hwaits, hgone, hregister, hpass⟩ := h
      refine ⟨hwaits, hgone, hregister, fun s hs hready => ?_⟩
      obtain ⟨q, hmay, hq⟩ := hpass s hs hready
      exact ⟨q, hmay, ih hq⟩

/-- **A discipline inside another one**: every stage of the one is a stage of the other. -/
lemma map {gone' : ψ → (σ → σ) → Prop} {ends' : α → ψ → Prop} (toStage : φ → ψ)
    (knows : ∀ p s, E.knows (toStage p) s → D.knows p s)
    (may : ∀ p s q s', E.knows (toStage p) s → D.may p s q s' → E.may (toStage p) s (toStage q) s')
    (waits : ∀ p ready, D.waits p ready → E.waits (toStage p) ready)
    (hgone : ∀ p f, gone p f → gone' (toStage p) f) (hends : ∀ a p, ends a p → ends' a (toStage p))
    (h : task.Obeys D gone ends p) : task.Obeys E gone' ends' (toStage p) := by
  induction task generalizing p with
  | done a => exact hends a p h
  | act update next ih =>
      intro s hs
      obtain ⟨q, hmay, hq⟩ := h s (knows p s hs)
      exact ⟨toStage q, may p s q _ hs hmay, ih s hq⟩
  | wait on next ih =>
      obtain ⟨hwaits, hgone', hregister, hpass⟩ := h
      refine ⟨waits p _ hwaits, hgone p _ hgone',
        fun self s hs => may p s p _ hs (hregister self s (knows p s hs)), fun s hs hready => ?_⟩
      obtain ⟨q, hmay, hq⟩ := hpass s (knows p s hs) hready
      exact ⟨toStage q, may p s q s hs hmay, ih hq⟩

/-- **A task with something to tidy up** if it is given up while it waits. -/
lemma guarded {tidy : σ → σ} (h : task.Obeys D (fun p f => gone p fun s => tidy (f s)) ends p) :
    (task.guarded tidy).Obeys D gone ends p := by
  induction task generalizing p with
  | done a => exact h
  | act update next ih =>
      intro s hs
      obtain ⟨q, hmay, hq⟩ := h s hs
      exact ⟨q, hmay, ih s hq⟩
  | wait on next ih =>
      obtain ⟨hwaits, hgone, hregister, hpass⟩ := h
      refine ⟨hwaits, hgone, hregister, fun s hs hready => ?_⟩
      obtain ⟨q, hmay, hq⟩ := hpass s hs hready
      exact ⟨q, hmay, ih hq⟩

lemma holding {tidy : σ → σ} (h : task.Obeys D (fun p f => gone p fun s => tidy (f s)) ends p)
    (htidy : ∀ a p s, ends a p → D.knows p s → ∃ q, D.may p s q (tidy s) ∧ ends' a q) :
    (task.holding tidy).Obeys D gone ends' p :=
  h.guarded.bind fun a q hq s hs => htidy a q s hq hs

/-- **A task that is given up when a clock strikes**, if it waits by then.  Being given up is then
one more change that it makes itself. -/
lemma race [Host σ] {clock : Wait σ} {ends' : Option α → φ → Prop}
    (h : task.Obeys D gone ends p)
    (stay : ∀ p s, D.knows p s → D.may p s p s)
    (waits : ∀ p ready, D.waits p ready → D.waits p fun s => ready s || clock.ready s)
    (register : ∀ p self s s', D.may p s p s' → D.may p s p (clock.register self s'))
    (hgone : ∀ p f, gone p f → gone' p fun s => clock.abandon (f s))
    (hdone : ∀ a p s, ends a p → D.knows p s →
      ∃ q, D.may p s q (clock.abandon s) ∧ ends' (some a) q)
    (hcut : ∀ p f s, gone p f → D.knows p s →
      ∃ q, D.may p s q (spend (clock.abandon (f s))) ∧ ends' none q) :
    (task.race clock).Obeys D gone' ends' p := by
  induction task generalizing p with
  | done a => exact fun s hs => hdone a p s h hs
  | act update next ih =>
      intro s hs
      obtain ⟨q, hmay, hq⟩ := h s hs
      exact ⟨q, hmay, ih s hq⟩
  | wait on next ih =>
      obtain ⟨hwaits, hgone', hregister, hpass⟩ := h
      refine ⟨waits p _ hwaits, hgone p _ hgone',
        fun self s hs => register p self s _ (hregister self s hs),
        fun s hs _ => ⟨p, stay p s hs, fun s hs => ?_⟩⟩
      -- Which of the two is over is looked at once more, so this is not the state of the pass.
      by_cases hready : on.ready s
      · obtain ⟨q, hmay, hq⟩ := hpass s hs hready
        refine ⟨q, hmay, ?_⟩
        simp only [hready, if_true]
        exact ih hq
      · refine ⟨p, stay p s hs, ?_⟩
        simp only [hready]
        exact fun s hs => hcut p _ s hgone' hs

end Obeys

/-! ## A single stage -/

/-- **Every change of a task is of one kind**, where it can rely on `P`. -/
def Respects (P : σ → Prop) (R : σ → σ → Prop) (task : Task σ α) : Prop :=
  task.Obeys (φ := Unit) ⟨fun _ s => P s, fun _ s _ s' => R s s', fun _ _ => True⟩
    (fun _ f => ∀ s, P s → R s (f s)) (fun _ _ => True) ()

lemma Respects.imp {P : σ → Prop} {R R' : σ → σ → Prop} {task : Task σ α} (h : task.Respects P R)
    (himp : ∀ s s', P s → R s s' → R' s s') : task.Respects P R' :=
  Obeys.map (D := ⟨fun _ s => P s, fun _ s _ s' => R s s', fun _ _ => True⟩) (fun _ => ())
    (fun _ _ => id) (fun _ s _ s' hs h => himp s s' hs h) (fun _ _ => id)
    (fun _ _ hf s hs => himp s _ hs (hf s hs)) (fun _ _ => id) h

def Waits (ready : σ → Bool) : Task σ α → Prop
  | .done _ => False
  | .act _ next => ∃ s, (next s).Waits ready
  | .wait on next => ready = on.ready ∨ next.Waits ready

/-- A task whose changes are all of one kind stays at a stage that allows this kind. -/
lemma Obeys.of_respects {D : Discipline σ φ} {gone : φ → (σ → σ) → Prop} {P : σ → Prop}
    {R : σ → σ → Prop} {p : φ} {task : Task σ α} (h : task.Respects P R)
    (knows : ∀ s, D.knows p s → P s) (may : ∀ s s', D.knows p s → R s s' → D.may p s p s')
    (waits : ∀ ready, task.Waits ready → D.waits p ready)
    (hgone : ∀ f : σ → σ, (∀ s, P s → R s (f s)) → gone p f) :
    task.Obeys D gone (fun _ q => q = p) p := by
  induction task with
  | done a => rfl
  | act update next ih =>
      intro s hs
      obtain ⟨_, hR, hnext⟩ := h s (knows s hs)
      exact ⟨p, may s _ hs hR, ih s hnext fun ready hw => waits ready ⟨s, hw⟩⟩
  | wait on next ih =>
      obtain ⟨-, habandon, hregister, hpass⟩ := h
      refine ⟨waits _ (.inl rfl), hgone _ habandon,
        fun self s hs => may s _ hs (hregister self s (knows s hs)), fun s hs hready => ?_⟩
      obtain ⟨_, hR, hnext⟩ := hpass s (knows s hs) hready
      exact ⟨p, may s _ hs hR, ih hnext fun ready hw => waits ready (.inr hw)⟩

end Task

end Transactional
