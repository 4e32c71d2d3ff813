import Mathlib.Data.Finset.Card
import Transactional.Proofs.Run.Bracket
import Transactional.Proofs.Traffic.Story

/-!
# How the calls of a pool are mixed

Runs that share a pool get into one another's way only as far as the pool lets them: at no place in
the journal are more connections in use than there are permits.  In a pool of one connection the
runs come one after the other.

* `Traffic.Serial.across`, `Traffic.Serial.block` — what that means for a place in the journal, and
  for a pool of one connection.
* `Traffic.journal_of_pool` — it is so, whatever happens.
-/

namespace Transactional

namespace Traffic

variable {capacity : Nat} {t : Traffic} {before after : List Memory.Call}

/-- **At each place** of the journal, not more connections than permits have calls on both sides. -/
lemma Serial.across (hs : Serial capacity t) (hsplit : t.journal = before ++ after) :
    ((before.map Memory.Call.number).toFinset ∩ (after.map Memory.Call.number).toFinset).card
      ≤ capacity := by
  cases after with
  | nil => simp
  | cons call after =>
    rw [← Finset.length_toList]
    refine hs.bounded before call after hsplit _ (Finset.nodup_toList _) fun m hm => ?_
    rw [Finset.mem_toList, Finset.mem_inter, List.mem_toFinset, List.mem_toFinset] at hm
    rw [List.map_append]
    exact ⟨List.mem_append_left _ hm.1, .inl hm.2⟩

/-- **With one permit**, between two calls of a connection there are none of others. -/
lemma Serial.block (hs : Serial 1 t) {middle : List Memory.Call} {first last : Memory.Call}
    (hsplit : t.journal = before ++ first :: middle ++ last :: after)
    (hsame : first.number = last.number) :
    ∀ call ∈ middle, call.number = first.number := by
  intro call hcall
  obtain ⟨early, late, rfl⟩ := List.append_of_mem hcall
  by_contra hne
  have hbounded := hs.bounded (before ++ first :: early) call (late ++ last :: after)
    (by rw [hsplit]; simp) [call.number, first.number] (by simpa using hne) ?_
  · simp at hbounded
  · simp only [List.mem_cons, List.not_mem_nil, or_false]
    rintro m (rfl | rfl)
    · simp
    · simp [hsame]

variable {manager : Manager World} {w : World} {jobs : List Job} {c : Company World Unit}

/-- **Not more connections than there are permits are in use at a time**, however checkouts and
runs, calls on leases and their ends, the ends of connections and failures come together: at each
place of the journal, of not more connections than that there are calls on both sides.  In a pool of
one connection, the calls of each connection come one after the other, with none of others in
between. -/
theorem journal_of_pool (hmanager : manager.Shared) (hdue : w.Unlent)
    (story : Story manager capacity w jobs c) :
    (∀ before after : List Memory.Call, c.state.backend.journal = before ++ after →
      ((before.map Memory.Call.number).toFinset ∩ (after.map Memory.Call.number).toFinset).card
        ≤ capacity)
    ∧ (capacity = 1 → ∀ (before middle after : List Memory.Call) (first last : Memory.Call),
      c.state.backend.journal = before ++ first :: middle ++ last :: after →
      first.number = last.number → ∀ call ∈ middle, call.number = first.number) := by
  obtain ⟨-, -, -, -, -, -, hserial⟩ := story.kept hmanager hdue
  refine ⟨fun before after hsplit => hserial.across hsplit, ?_⟩
  rintro rfl before middle after first last hsplit hsame
  exact hserial.block hsplit hsame

/-- Two runs in a pool of one connection. -/
theorem journal_of_two_runs : ∃ jobs c,
    Story (World.manager Memory.pool) 1 {} jobs c
      ∧ c.state.backend.journal.map Memory.Call.number = [1, 1, 1, 1, 1, 1, 2, 2, 2, 2, 2, 2]
      ∧ ∀ (before middle after : List Memory.Call) (first last : Memory.Call),
        c.state.backend.journal = before ++ first :: middle ++ last :: after →
        first.number = last.number → ∀ call ∈ middle, call.number = first.number := by
  have hmanager : (World.manager Memory.pool).Shared :=
    ⟨rfl, .inl rfl, fun _ _ => ⟨rfl, .of_eq fun _ => rfl⟩⟩
  have hdue : ({} : World).Unlent := fun entry hentry => absurd hentry List.not_mem_nil
  have hsink : World.board.Aside := fun _ _ => ⟨rfl, .of_eq fun _ => rfl⟩
  have hprogram : World.clearing.Aside := ⟨trivial, fun _ => trivial⟩
  have begun : Story (World.manager Memory.pool) 1 {} [] _ := .start
  have first := (begun.run hsink none hprogram).turn 0 [] []
  have story := (first.run hsink none hprogram).turn 1 [_] []
  refine ⟨_, _, story, ?_, (journal_of_pool hmanager hdue story).2 rfl⟩
  rw [runWith_eq_account]
  cbv

end Traffic

end Transactional
