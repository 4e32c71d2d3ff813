import Transactional.Proofs.Run.Account
import Transactional.Proofs.Task.Phases

/-!
# The two phases of a run

A run first gets hold of a connection and a lease on it, which may take its time, and then makes its
transaction on the lease.  What it has got hold of is known by the numbers of the two.

* `Manager.grab` — getting hold of a connection and a lease.
* `Run.transact` — the transaction on what one has got hold of.
* **`Run.account_eq_grab`** — a run is the one and then the other.
* `Run.hand` — what a run has got hold of, after what has happened to it.
* `Run.recounted` — a run with its account and everything that happens to it.
-/

namespace Transactional

variable [LeaseHost σ]

/-- **Get hold of a connection and a lease on it**, by their numbers. -/
def Manager.grab (manager : Manager σ) : Attempt σ (Nat × Nat) := do
  manager.ensureOpen
  let base ← manager.pool.checkout
  let number ← Attempt.always (Task.step (Pool.startWatchedLease base))
  return (base, number)

def Manager.handedOut (manager : Manager σ) (hand : Nat × Nat) : Connection σ :=
  manager.wrap (manager.pool.lease hand.1 hand.2).connection

lemma Manager.lease_eq_grab (manager : Manager σ) :
    manager.lease = manager.grab >>= fun hand => pure (manager.handedOut hand) := by
  simp only [lease, grab, bind_assoc, pure_bind]
  rfl

namespace Run

/-- **A transaction on what one has got hold of**, with its account. -/
def transact (manager : Manager σ) (sink : Sink σ) (limit : Option Duration) (program : Program σ) :
    Except Fault (Nat × Nat) → Task σ (Except Fault Value × List (Deed σ))
  | .error fault => .done (.error fault, [])
  | .ok hand =>
      let conn := manager.handedOut hand
      Task.holding conn.drop (onAccount conn sink limit program)

/-- **A run gets hold of a lease, and then makes its transaction.** -/
theorem account_eq_grab (manager : Manager σ) (sink : Sink σ) (limit : Option Duration)
    (program : Program σ) :
    account manager sink limit program
      = manager.grab.run.bind (transact manager sink limit program) := by
  rw [account, Manager.lease_eq_grab]
  show (manager.grab.run.bind _).bind _ = _
  rw [Task.bind_assoc]
  refine congrArg _ (funext fun grabbed => ?_)
  cases grabbed <;> rfl

/-! ## What happens to a run -/

variable (manager : Manager σ) (sink : Sink σ) (limit : Option Duration)
  (program : Program σ) (s₀ : σ)
  (moves : List (Company.Move σ))

/-- Getting hold of a lease, with everything that happens meanwhile. -/
def grabbing : Company σ (Except Fault (Nat × Nat)) :=
  Company.play manager.pool.perform ⟨s₀, manager.grab.run, []⟩ (.front :: moves)

/-- **What a run has got hold of**, after what has happened to it. -/
def hand : Option (Nat × Nat) :=
  match (grabbing manager s₀ moves).front.result? with
  | some (.ok hand) => some hand
  | _ => none

/-- **A run with its account and everything that happens to it.** -/
def recounted : Company σ (Except Fault Value × List (Deed σ)) :=
  (Company.opening (account manager sink limit program) s₀).play manager.pool.perform moves

/-- A run with everything that happens to it. -/
def unfolded : Company σ (Except Fault Value) :=
  (Company.opening (runWith manager sink limit program).run s₀).play manager.pool.perform moves

/-- **A run does what its account says.** -/
lemma unfolded_eq_recounted :
    unfolded manager sink limit program s₀ moves
      = (recounted manager sink limit program s₀ moves).led
        ((recounted manager sink limit program s₀ moves).front.bind fun told => .done told.1) := by
  unfold unfolded recounted
  rw [runWith_eq_account, Company.play_opening_map]

lemma recounted_of_unfolded {outcome : Except Fault Value}
    (h : (unfolded manager sink limit program s₀ moves).front = .done outcome) :
    ∃ deeds, (recounted manager sink limit program s₀ moves).front = .done (outcome, deeds)
      ∧ (recounted manager sink limit program s₀ moves).state
        = (unfolded manager sink limit program s₀ moves).state := by
  rw [unfolded_eq_recounted] at h ⊢
  obtain ⟨⟨_, deeds⟩, hfront, rfl⟩ := Task.done_of_map h
  exact ⟨deeds, hfront, rfl⟩

lemma unfolded_of_recounted {manager : Manager σ} {sink : Sink σ} {limit : Option Duration}
    {program : Program σ} {s₀ : σ} {moves : List (Company.Move σ)}
    {told : Except Fault Value × List (Deed σ)}
    (h : (recounted manager sink limit program s₀ moves).front = .done told) :
    (unfolded manager sink limit program s₀ moves).front = .done told.1
      ∧ (unfolded manager sink limit program s₀ moves).state
        = (recounted manager sink limit program s₀ moves).state := by
  rw [unfolded_eq_recounted, h]
  exact ⟨rfl, rfl⟩

lemma grabbing_append (more : List (Company.Move σ)) :
    grabbing manager s₀ (moves ++ more)
      = (grabbing manager s₀ moves).play manager.pool.perform more :=
  Company.play_append ..

variable {manager s₀ moves}

lemma hand_of_done {hand : Nat × Nat} (h : (grabbing manager s₀ moves).front = .done (.ok hand))
    (more : List (Company.Move σ)) : Run.hand manager s₀ (moves ++ more) = some hand := by
  rw [Run.hand, grabbing_append, Company.front_play_of_done manager.pool.perform h more]
  rfl

lemma grabbing_of_hand {hand : Nat × Nat} (h : Run.hand manager s₀ moves = some hand) :
    (grabbing manager s₀ moves).front = .done (.ok hand) := by
  rw [Run.hand] at h
  cases hresult : (grabbing manager s₀ moves).front.result? with
  | none =>
    rw [hresult] at h
    cases h
  | some grabbed =>
    rw [hresult] at h
    cases grabbed with
    | error fault => cases h
    | ok found => rw [Task.done_of_result hresult, Option.some.inj h]

/-- **Whatever is to be done with a lease** has not begun while one is waiting for it. -/
lemma play_of_wait (F : Except Fault (Nat × Nat) → Task σ α)
    (h : (grabbing manager s₀ moves).front.result? = none) :
    (Company.opening (manager.grab.run.bind F) s₀).play manager.pool.perform moves
      = (grabbing manager s₀ moves).led ((grabbing manager s₀ moves).front.bind F) :=
  Company.play_bind_of_wait (c := ⟨s₀, manager.grab.run, []⟩) manager.pool.perform F h

/-- **A run that has not got hold of a lease yet** is waiting for one. -/
theorem recounted_of_wait (h : (grabbing manager s₀ moves).front.result? = none) :
    recounted manager sink limit program s₀ moves
      = (grabbing manager s₀ moves).led
        ((grabbing manager s₀ moves).front.bind (transact manager sink limit program)) := by
  rw [recounted, account_eq_grab, play_of_wait _ h]

lemma grabbed_of_over {told : Except Fault Value × List (Deed σ)}
    (h : (recounted manager sink limit program s₀ moves).front = .done told) :
    ∃ grabbed, (grabbing manager s₀ moves).front = .done grabbed := by
  cases hfront : (grabbing manager s₀ moves).front with
  | done grabbed => exact ⟨grabbed, rfl⟩
  | act | wait =>
    rw [recounted_of_wait sink limit program (by rw [hfront]; rfl), hfront] at h
    cases h

/-- What happens until a run has got hold of a lease, or has been refused one: there is a last turn.
-/
def Until (manager : Manager σ) (s₀ : σ) (grabbed : Except Fault (Nat × Nat))
    (early : List (Company.Move σ)) : Prop :=
  (grabbing manager s₀ early).front = .done grabbed
    ∧ ∃ before, .front :: early = before ++ [.front]
      ∧ (Company.play manager.pool.perform ⟨s₀, manager.grab.run, []⟩ before).front.result? = none

/-- **In the turn in which one gets hold of a lease** one begins what is to be done with it. -/
lemma play_of_until (F : Except Fault (Nat × Nat) → Task σ α) {grabbed : Except Fault (Nat × Nat)}
    (h : Until manager s₀ grabbed moves) :
    (Company.opening (manager.grab.run.bind F) s₀).play manager.pool.perform moves
      = ((grabbing manager s₀ moves).led (F grabbed)).take manager.pool.perform .front := by
  obtain ⟨hdone, before, hmoves, hnone⟩ := h
  have hstart : (Company.opening (manager.grab.run.bind F) s₀).play manager.pool.perform moves
      = ((⟨s₀, manager.grab.run, []⟩ : Company σ (Except Fault (Nat × Nat))).led
        (manager.grab.run.bind F)).play manager.pool.perform (.front :: moves) := rfl
  rw [hstart]
  unfold grabbing at hdone ⊢
  rw [hmoves] at hdone ⊢
  exact Company.play_bind_of_done manager.pool.perform F hnone hdone

/-- **In the turn in which it gets hold of a lease** a run begins its transaction. -/
theorem recounted_of_until {grabbed : Except Fault (Nat × Nat)}
    (h : Until manager s₀ grabbed moves) :
    recounted manager sink limit program s₀ moves
      = ((grabbing manager s₀ moves).led
          (transact manager sink limit program grabbed)).take manager.pool.perform .front := by
  rw [recounted, account_eq_grab, play_of_until _ h]

/-- **Whatever happens to a run**: it is waiting for a lease, or there was a turn in which it got
hold of one or was refused one. -/
theorem grabbing_splits (manager : Manager σ) (s₀ : σ) (moves : List (Company.Move σ)) :
    (grabbing manager s₀ moves).front.result? = none
      ∨ ∃ early late grabbed, moves = early ++ late ∧ Until manager s₀ grabbed early := by
  rcases Company.play_splits manager.pool.perform
    (c := (⟨s₀, manager.grab.run, []⟩ : Company σ (Except Fault (Nat × Nat)))) rfl (.front :: moves)
    with h | ⟨before, late, grabbed, hmoves, hnone, hdone⟩
  · exact .inl h
  · refine .inr ?_
    cases before with
    | nil => exact ⟨[], late, grabbed, (List.cons.inj hmoves).2, hdone, [], rfl, hnone⟩
    | cons first before =>
      obtain ⟨rfl, hmoves⟩ := List.cons.inj hmoves
      have hdone : (grabbing manager s₀ (before ++ [.front])).front = .done grabbed := hdone
      exact ⟨before ++ [.front], late, grabbed,
        by simpa using hmoves, hdone, .front :: before, rfl, hnone⟩

end Run

end Transactional
