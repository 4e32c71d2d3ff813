import Transactional.Proofs.Closing.Unclosed

/-!
# Waiting for a permit while the pool may be shut

Whoever waits for a permit of the scripted pool is at one of four places.  As long as the pool is
not shut he goes on in the same way as in a world that has not been closed; once it is shut he
learns it with his next turn, and nobody else notices that.

* `Memory.Queueing` — what is left of waiting for a permit; `Memory.Queueing.goes_on` says what can
  become of it.
* `Memory.Queueing.moves`, `Memory.Queueing.abandon` — as long as the pool is not shut.
* `Memory.Queueing.unnoticed`, `Memory.Queueing.abandon_shut` — when it is shut.
* **`Memory.Queueing.turn`** — with his next turn he is refused.
-/

namespace Transactional

variable {s s' t : World}

namespace World

lemma SameButClosed.modifyPermits (h : SameButClosed s t) (hopen : s.accounts.permits.shut = false)
    (f : Semaphore → Semaphore) : SameButClosed (Memory.permits.modify f s)
    (Memory.permits.modify f t) := by
  have hget : Memory.permits.get t = Memory.permits.get s := (h.permits hopen).symm
  rw [Cell.modify, Cell.modify, hget]
  exact h.setPermits _

lemma Steady.modifyPermits {f : Semaphore → Semaphore}
    (hf : ∀ permits, (f permits).shut = permits.shut)
    (s : World) : Steady s (Memory.permits.modify f s) :=
  ⟨rfl, hf _⟩

lemma Unnoticed.modifyPermits {f : Semaphore → Semaphore}
    (hf : ∀ permits, (f permits).shut = permits.shut)
    (hshut : s.accounts.permits.shut = true) : Unnoticed s (Memory.permits.modify f s) where
  core := rfl
  starts := rfl
  permits hopen := by
    have hsame : (Memory.permits.modify f s).accounts.permits.shut = s.accounts.permits.shut := hf _
    rw [hsame, hshut] at hopen
    cases hopen

end World

namespace Memory

/-- What follows on asking for a permit, in the state in which one asked. -/
def asked (s : World) : Task World Bool :=
  if (permits.get s).shut then .done false
  else if 0 < (permits.get s).free then .done true
  else .wait (Task.paced (Semaphore.inLine permits (permits.get s).nextTicket))
    (Semaphore.afterWait permits (permits.get s).nextTicket)

/-- **What is left of waiting for a permit.** -/
inductive Queueing : Task World Bool → Prop where
  | arriving : Queueing (Semaphore.acquire permits)
  | asking : Queueing (.act (Semaphore.ask permits) asked)
  | inLine (ticket : Nat) :
      Queueing (.wait (Task.paced (Semaphore.inLine permits ticket))
        (Semaphore.afterWait permits ticket))
  | called (ticket : Nat) : Queueing (Semaphore.afterWait permits ticket)

namespace Queueing

variable {rest rest' : Task World Bool}

lemma ne_done (h : Queueing rest) (had : Bool) : rest ≠ .done had := by
  cases h <;> intro heq <;> cases heq

/-- **Whoever waits closes nothing**, and goes on waiting until he is answered: yes, as long as the
pool is not shut. -/
lemma goes_on (h : Queueing rest) (hmove : rest.Moves s rest' s') :
    World.Steady s s' ∧ (Queueing rest' ∨ rest' = .done (!s.accounts.permits.shut)) := by
  cases h with
  | arriving =>
    cases hmove with
    | pass => exact ⟨.refl s, .inl .asking⟩
    | register => exact ⟨⟨rfl, rfl⟩, .inl .arriving⟩
  | asking =>
    cases hmove
    have hsteady : World.Steady s (Semaphore.ask permits s) := by
      unfold Semaphore.ask
      dsimp only
      split
      · exact ⟨rfl, rfl⟩
      · split <;> exact ⟨rfl, rfl⟩
    refine ⟨hsteady, ?_⟩
    unfold asked
    split
    next hshut => exact .inr (congrArg (fun shut => Task.done !shut) hshut.symm)
    next hopen =>
      split
      · exact .inr (congrArg (fun shut => Task.done !shut) (Bool.eq_false_iff.mpr hopen).symm)
      · exact .inl (.inLine _)
  | inLine ticket =>
    cases hmove with
    | pass => exact ⟨.refl s, .inl (.called ticket)⟩
    | register _ _ self =>
      refine ⟨?_, .inl (.inLine ticket)⟩
      simp only [Task.paced]
      split
      · exact .modifyPermits (f := Semaphore.remember ticket self) (fun _ => rfl) s
      · exact ⟨rfl, rfl⟩
  | called ticket =>
    cases hmove
    refine ⟨?_, .inr rfl⟩
    have hspent : World.Steady s (Task.spend s) := ⟨rfl, rfl⟩
    dsimp only
    split
    · exact hspent.trans (.updating (Semaphore.shut_withdraw ticket) _)
    · exact ⟨rfl, rfl⟩

/-- **As long as the pool is not shut** one goes on as in a world that has not been closed. -/
lemma moves (h : Queueing rest) (hopen : s.accounts.permits.shut = false)
    (hs : World.SameButClosed s t)
    (hmove : rest.Moves s rest' s') : ∃ t', rest.Moves t rest' t' ∧ World.SameButClosed s' t' := by
  have A := World.sameButClosed_near.toAlike
  have hget : permits.get t = permits.get s := (hs.permits hopen).symm
  have hshut : (permits.get s).shut = false := hopen
  cases h with
  | arriving =>
    cases hmove with
    | pass _ _ _ hready => exact ⟨t, .pass _ _ t (by rw [← A.pause.ready hs]; exact hready), hs⟩
    | register _ _ self => exact ⟨_, .register _ _ self t, A.pause.register self hs⟩
  | asking =>
    cases hmove
    have hsame : asked t = asked s := by
      unfold asked
      rw [hget]
    refine ⟨_, .of_act hsame, ?_⟩
    unfold Semaphore.ask
    simp only [hget, hshut, Bool.false_eq_true, if_false]
    split
    · exact A.spend (hs.modifyPermits hopen Semaphore.take)
    · exact hs.setPermits _
  | inLine ticket =>
    have hwait : (Task.paced (Semaphore.inLine permits ticket)).ready s
        = (Task.paced (Semaphore.inLine permits ticket)).ready t := by
      simp only [Task.paced, A.pause.ready hs, Semaphore.inLine, hget]
    cases hmove with
    | pass _ _ _ hready => exact ⟨t, .pass _ _ t (hwait ▸ hready), hs⟩
    | register _ _ self =>
      refine ⟨_, .register _ _ self t, ?_⟩
      simp only [Task.paced, A.pause.ready hs]
      split
      · exact hs.modifyPermits hopen (Semaphore.remember ticket self)
      · exact A.pause.register self hs
  | called ticket =>
    cases hmove
    refine ⟨_, .of_act (by rw [hget]), ?_⟩
    simp only [hget, hshut, Bool.false_eq_true, if_false]
    exact A.spend (hs.modifyPermits hopen (Semaphore.collect ticket))

/-- Whoever gives up closes nothing; a world that has not been closed stays alike. -/
lemma abandon {on : Wait World} {next : Task World Bool} (h : Queueing (.wait on next))
    (hs : World.SameButClosed s t) :
    World.Steady s (on.abandon s) ∧ World.SameButClosed (on.abandon s) (on.abandon t) := by
  cases h with
  | arriving => exact ⟨.refl s, hs⟩
  | inLine ticket =>
    exact ⟨.updating (Semaphore.shut_withdraw ticket) s,
      hs.updating (Semaphore.shut_withdraw ticket)⟩

/-! ## In a pool that is shut -/

section Shut

variable (hshut : s.accounts.permits.shut = true)

include hshut

lemma withdraw_shut (ticket : Nat) :
    World.Unnoticed s (Semaphore.updating permits (Semaphore.withdraw ticket) s) :=
  .updating ((Semaphore.shut_withdraw ticket _).trans hshut)

/-- **When the pool is shut**, nobody but those who wait notices what they do. -/
lemma unnoticed (h : Queueing rest) (hmove : rest.Moves s rest' s') : World.Unnoticed s s' := by
  have hget : (permits.get s).shut = true := hshut
  have hspent : World.Unnoticed s (Task.spend s) := .schedule Schedule.starts_spend s
  have haside : ∀ self, World.Unnoticed s ((Task.pause : Wait World).register self s) :=
    fun self => .schedule (Schedule.starts_stepAside self) s
  cases h with
  | arriving =>
    cases hmove with
    | pass => exact .refl s
    | register _ _ self => exact haside self
  | asking =>
    cases hmove
    unfold Semaphore.ask
    dsimp only
    rw [if_pos hget]
    exact hspent
  | inLine ticket =>
    cases hmove with
    | pass => exact .refl s
    | register _ _ self =>
      simp only [Task.paced]
      split
      · exact .modifyPermits (f := Semaphore.remember ticket self) (fun _ => rfl) hshut
      · exact haside self
  | called ticket =>
    cases hmove
    dsimp only
    rw [if_pos hget]
    exact hspent.trans (withdraw_shut (s := Task.spend s) hshut ticket)

lemma abandon_shut {on : Wait World} {next : Task World Bool} (h : Queueing (.wait on next)) :
    World.Unnoticed s (on.abandon s) := by
  cases h with
  | arriving => exact .refl s
  | inLine ticket => exact withdraw_shut hshut ticket

/-- **With his next turn everybody who waits is refused**, and nobody else notices. -/
theorem turn (h : Queueing rest) (self : TaskId) :
    ∃ s', rest.poll self (Host.schedule.modify Schedule.refresh s) = (.done false, s')
      ∧ World.Unnoticed s s' := by
  let fresh : World := Host.schedule.modify Schedule.refresh s
  have hfresh : World.Unnoticed s fresh := .schedule Schedule.starts_refresh s
  have hspent : World.Unnoticed fresh (Task.spend fresh) := .schedule Schedule.starts_spend fresh
  have hget : (permits.get fresh).shut = true := hshut
  have hready : (Task.pause : Wait World).ready fresh = true := rfl
  have hasking : (Task.act (Semaphore.ask permits) asked).poll self fresh
    = (.done false, Task.spend fresh) := by
    simp only [Task.poll, Semaphore.ask, asked, hget, if_true]
  have hcalled : ∀ ticket, (Semaphore.afterWait permits ticket).poll self fresh
      = (.done false, Semaphore.updating permits (Semaphore.withdraw ticket)
        (Task.spend fresh)) := by
    intro ticket
    simp only [Semaphore.afterWait, Task.poll, hget, if_true, Bool.not_true]
  cases h with
  | arriving =>
    refine ⟨Task.spend fresh, ?_, hfresh.trans hspent⟩
    exact (if_pos hready).trans hasking
  | asking => exact ⟨_, hasking, hfresh.trans hspent⟩
  | inLine ticket =>
    have hline : (Task.paced (Semaphore.inLine permits ticket)).ready fresh = true := by
      simp only [Task.paced, hready, Semaphore.inLine, hget, Bool.true_or, Bool.and_self]
    refine ⟨_, (if_pos hline).trans (hcalled ticket), ?_⟩
    exact (hfresh.trans hspent).trans (withdraw_shut (s := Task.spend fresh) hshut ticket)
  | called ticket =>
    exact ⟨_, hcalled ticket, (hfresh.trans hspent).trans
      (withdraw_shut (s := Task.spend fresh) hshut ticket)⟩

end Shut

end Queueing

end Memory

end Transactional
