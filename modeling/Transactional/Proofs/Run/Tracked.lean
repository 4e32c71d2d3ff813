import Transactional.Proofs.Run.Phases

/-!
# What stays true of a run

A run is tracked from move to move, first while it looks for a lease, and then while it makes its
transaction.

* `Company.Heeds` — moves each of which may be made where it comes.
* `Run.Tracks` — what stays true of a run in each of its two phases.
* **`Run.Tracks.recounted`** — so it is true in the end.
-/

namespace Transactional

variable [LeaseHost σ]

/-- **A sequence of moves each of which may be made** where it comes. -/
def Company.Heeds (jobs : Job → Task σ Unit) (may : σ → Company.Move σ → Prop) :
    Company σ α → List (Company.Move σ) → Prop
  | _, [] => True
  | c, move :: rest => may c.state move ∧ Heeds jobs may (c.take jobs move) rest

lemma Company.Heeds.move {jobs : Job → Task σ Unit} {may : σ → Company.Move σ → Prop}
    {c : Company σ α}
    {early late : List (Company.Move σ)} {move : Company.Move σ}
    (h : Company.Heeds jobs may c (early ++ move :: late)) :
    may (c.play jobs early).state move := by
  induction early generalizing c with
  | nil => exact h.1
  | cons first early ih => exact ih h.2

namespace Run

/-- **What stays true of a run**: `seeks` while it looks for a lease, and `goes` when it has found
one or has been refused one. -/
structure Tracks (manager : Manager σ) (sink : Sink σ) (limit : Option Duration)
    (program : Program σ)
    (may : σ → Company.Move σ → Prop) (seeks : Company σ (Except Fault (Nat × Nat)) → Prop)
    (goes : Except Fault (Nat × Nat) → Company σ (Except Fault Value × List (Deed σ)) →
      Prop) : Prop where
  own : ∀ s, may s .front
  seeking : ∀ {c move}, seeks c → may c.state move →
    (c.take manager.pool.perform move).front.result? = none →
      seeks (c.take manager.pool.perform move)
  found : ∀ {c grabbed}, seeks c → (c.take manager.pool.perform .front).front = .done grabbed →
    goes grabbed (((c.take manager.pool.perform .front).led
      (transact manager sink limit program grabbed)).take manager.pool.perform .front)
  going : ∀ {grabbed c move}, goes grabbed c → may c.state move →
    goes grabbed (c.take manager.pool.perform move)

namespace Tracks

variable {manager : Manager σ} {sink : Sink σ} {limit : Option Duration} {program : Program σ}
  {may : σ → Company.Move σ → Prop} {seeks : Company σ (Except Fault (Nat × Nat)) → Prop}
  {goes : Except Fault (Nat × Nat) → Company σ (Except Fault Value × List (Deed σ)) → Prop}
  {s₀ : σ} {moves : List (Company.Move σ)}
  (h : Tracks manager sink limit program may seeks goes)
  (hstart : seeks ⟨s₀, manager.grab.run, []⟩)
  (hheeds : Company.Heeds manager.pool.perform may
    (Company.opening (runWith manager sink limit program).run s₀) moves)

include h hstart hheeds

lemma seeks_of_wait {before late : List (Company.Move σ)}
    (hbefore : .front :: moves = before ++ late)
    (hnone : (Company.play manager.pool.perform ⟨s₀, manager.grab.run, []⟩ before).front.result?
      = none) :
    seeks (Company.play manager.pool.perform ⟨s₀, manager.grab.run, []⟩ before) := by
  induction before using List.reverseRecOn generalizing late with
  | nil => exact hstart
  | append_singleton before move ih =>
    have hprevious := Company.result_of_concat _ hnone
    have hseeks := @ih (move :: late) (by simpa using hbefore) hprevious
    have hmove : may (Company.play manager.pool.perform ⟨s₀, manager.grab.run, []⟩ before).state
      move := by
      cases before with
      | nil =>
        obtain ⟨rfl, -⟩ := List.cons.inj hbefore
        exact h.own s₀
      | cons first early =>
        obtain ⟨rfl, rfl⟩ : .front = first ∧ moves = early ++ move :: late := by simpa using hbefore
        have hstate : (unfolded manager sink limit program s₀ early).state
            = (grabbing manager s₀ early).state := by
          rw [unfolded_eq_recounted, recounted_of_wait sink limit program hprevious]
          rfl
        have hmove : may (unfolded manager sink limit program s₀ early).state move := hheeds.move
        rwa [hstate] at hmove
    rw [Company.play_concat] at hnone ⊢
    exact h.seeking hseeks hmove hnone

/-- **What stays true of a run is true in the end**, whichever phase it has come to. -/
theorem recounted :
    ((grabbing manager s₀ moves).front.result? = none → seeks (grabbing manager s₀ moves))
      ∧ ∀ grabbed, (grabbing manager s₀ moves).front = .done grabbed →
        goes grabbed (Run.recounted manager sink limit program s₀ moves) := by
  refine ⟨h.seeks_of_wait hstart hheeds (List.append_nil _).symm, fun grabbed hgrabbed => ?_⟩
  rcases grabbing_splits manager s₀ moves with hnone | ⟨early, late, found, rfl, huntil⟩
  · rw [hgrabbed] at hnone
    cases hnone
  obtain rfl : found = grabbed := by
    rw [grabbing_append, Company.front_play_of_done manager.pool.perform huntil.1 late] at hgrabbed
    exact Task.done.inj hgrabbed
  obtain ⟨before, hbefore, hwait⟩ := huntil.2
  have hmoves : .front :: (early ++ late) = before ++ .front :: late := by
    rw [← List.cons_append, hbefore, List.append_assoc]
    rfl
  have hseeks := h.seeks_of_wait hstart hheeds hmoves hwait
  have hturn : grabbing manager s₀ early
      = (Company.play manager.pool.perform ⟨s₀, manager.grab.run, []⟩ before).take
        manager.pool.perform
        .front := by
    rw [grabbing, hbefore, Company.play_concat]
  have hearly : goes found (Run.recounted manager sink limit program s₀ early) := by
    rw [recounted_of_until sink limit program huntil, hturn]
    exact h.found hseeks (hturn ▸ huntil.1)
  -- What happens after that, one move at a time.
  have hrest : ∀ more later, late = more ++ later →
      goes found (Run.recounted manager sink limit program s₀ (early ++ more)) := by
    intro more
    induction more using List.reverseRecOn with
    | nil =>
      intro _ _
      rwa [List.append_nil]
    | append_singleton more move ih =>
      rintro later rfl
      have hsplit : early ++ (more ++ [move] ++ later) = early ++ more ++ move :: later := by simp
      rw [hsplit] at hheeds
      have hmove : may (unfolded manager sink limit program s₀ (early ++ more)).state move :=
        hheeds.move
      rw [unfolded_eq_recounted] at hmove
      rw [← List.append_assoc, Run.recounted, Company.play_concat]
      exact h.going (ih (move :: later) (by simp)) hmove
  exact hrest late [] (List.append_nil _).symm

end Tracks

end Run

end Transactional
