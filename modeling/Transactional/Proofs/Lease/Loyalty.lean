import Transactional.Proofs.Lease.Lifecycle

/-!
# Tasks on a lease that wait for something else

A task that is going to close a lease may have other things to do before, and may wait for something
that never comes.  Then nobody can count on its closing the lease.  So what the tasks on a lease
agree about must be true also without its pledge.

* `Stage.Grasps` — a task has the connection beneath in hand.
* `Stage.countedOn` — what others can count on of a task.
* `Aspect.Sound.step_countedOn` — the tasks on a lease go on agreeing, as far as they can count on
  each other.
* `Aspect.Sound.grasps_of_step` — nobody else takes the connection beneath out of a task's hands.
-/

namespace Transactional

/-- **Who has the connection beneath in hand**: it is in the lease, and one has the lock; or one has
taken it out. -/
def Stage.Grasps (p : Stage) (holdsBase : Bool) : Prop :=
  p.place = .inside ∧ holdsBase = true ∨ p.errand = .carrier

/-- **What others can count on**: a task that may wait for anything has pledged itself to nobody. -/
def Stage.countedOn (p : Stage) (loyal : Bool) : Stage :=
  if loyal = false ∧ p.errand = .pledged then { p with errand := .bystander } else p

namespace Stage

variable {p q : Stage} {a b : Aspect} {loyal : Bool}

@[simp] lemma countedOn_place (p : Stage) (loyal : Bool) : (p.countedOn loyal).place = p.place := by
  unfold countedOn
  split <;> rfl

@[simp] lemma countedOn_sight (p : Stage) (loyal : Bool) : (p.countedOn loyal).sight = p.sight := by
  unfold countedOn
  split <;> rfl

lemma countedOn_of_ne (h : p.errand ≠ .pledged) : p.countedOn loyal = p :=
  if_neg fun h' => h h'.2

lemma countedOn_errand {errand : Errand} (h : p.errand = errand) (hne : errand ≠ .pledged) :
    (p.countedOn loyal).errand = errand := by
  rw [countedOn_of_ne (h ▸ hne), h]

lemma Over.countedOn (h : p.Over) : (p.countedOn loyal).Over := by
  rwa [countedOn_of_ne]
  rcases h.2 with h | h <;> simp [h]

lemma Grasps.countedOn {holdsBase : Bool} :
    (p.countedOn loyal).Grasps holdsBase ↔ p.Grasps holdsBase := by
  unfold Grasps Stage.countedOn
  split
  next h => simp [h.2]
  next => rfl

lemma Knows.of_countedOn (h : (p.countedOn loyal).Knows a) : p.Knows a where
  unshut := h.unshut
  unclosed := h.unclosed
  signalled := h.signalled
  seenClosed hp := h.seenClosed ((countedOn_sight p loyal).trans hp)
  seenOpen hp := h.seenOpen ((countedOn_sight p loyal).trans hp)
  alarmed hp := h.alarmed (countedOn_errand hp (by simp))
  ender hp := h.ender (countedOn_errand hp (by simp))
  carrier hp := h.carrier (countedOn_errand hp (by simp))
  discharged hp := h.discharged (countedOn_errand hp (by simp))

/-- **Nobody begins to look out later on.** -/
lemma Step.unalarmed (h : p.Step a q b) (hp : p.errand ≠ .lookout ∧ p.errand ≠ .alarmed) :
    q.errand ≠ .lookout ∧ q.errand ≠ .alarmed := by
  obtain ⟨m, hdoes, -⟩ := h
  cases hdoes with
  | nothing | lock | look | blink => exact hp
  | alarm h => exact absurd h hp.1
  | _ => simp

lemma Does.unpledged (h : p.Does a q b) (hp : p.errand = .pledged) (hq : q.errand = .pledged) :
    Does { p with errand := .bystander } a { q with errand := .bystander } b := by
  cases h with
  | nothing => exact .nothing _ _
  | lock h => exact .lock _ _ h
  | look => exact .look _ _
  | blink => exact .blink _ _
  | report h => rw [hp] at h; cases h
  | _ => cases hq

end Stage

namespace Aspect.Sound

variable {called called' : Prop} {p q r : Stage} {stages : List Stage} {a b : Aspect} {loyal : Bool}

lemma undertake (hs : Sound called (p :: stages) a) (hp : p.errand = .bystander) :
    Sound called ({ p with errand := .pledged } :: stages) a := by
  obtain ⟨hlock, hunshut, ⟨ending, carrying, unclosed, holding, signalled, told, discharged,
    alarmed, guarded, kept⟩, hseen⟩ := hs
  refine ⟨hlock, hunshut, ⟨by simpa [hp] using ending, by simpa [hp] using carrying, unclosed,
    holding, signalled, told, by simpa [hp] using discharged, by simpa [hp] using alarmed, ?_, ?_⟩,
    hseen⟩
  · exact .inr (.inl (.inr (.inr List.mem_cons_self)))
  · exact fun _ => .inr (.inl List.mem_cons_self)

/-- **A step of anybody**, as far as others can count on him. -/
theorem step_countedOn (hs : Sound called (p.countedOn loyal :: stages) a) (h : p.Step a q b)
    (hloyal : loyal = false → p.errand ≠ .alarmed) (hothers : ∀ r ∈ stages, r.sight ≠ .open) :
    Sound called (q.countedOn loyal :: stages) b := by
  have hstep : ∀ {p q : Stage}, Sound called ([] ++ p :: stages) a → p.Step a q b →
      Sound called ([] ++ q :: stages) b := fun hs h => hs.step h hothers
  cases loyal with
  | true =>
    have hsame : ∀ p : Stage, p.countedOn true = p := fun p => if_neg (by simp)
    rw [hsame] at hs ⊢
    exact hstep hs h
  | false =>
    by_cases hq : q.errand = .pledged
    · obtain ⟨m, hdoes, hgrows⟩ := h
      have hp : p.errand = .pledged := by
        cases hdoes with
        | nothing | lock | look | blink => exact hq
        | report h => exact absurd h (hloyal rfl)
        | _ => cases hq
      rw [Stage.countedOn, if_pos ⟨rfl, hp⟩] at hs
      rw [Stage.countedOn, if_pos ⟨rfl, hq⟩]
      exact hstep hs ⟨m, hdoes.unpledged hp hq, hgrows⟩
    · rw [Stage.countedOn_of_ne hq]
      by_cases hp : p.errand = .pledged
      · rw [Stage.countedOn, if_pos ⟨rfl, hp⟩] at hs
        have hpledged := hs.undertake rfl
        rw [show ({ ({ p with errand := .bystander } : Stage) with errand := .pledged } : Stage) = p
          by rw [← hp]] at hpledged
        exact hstep hpledged h
      · rw [Stage.countedOn_of_ne hp] at hs
        exact hstep hs h

/-- Somebody may have set out to close a lease if that is going to happen anyway. -/
lemma recount (hs : Sound called stages a)
    (h : called' → called ∨ a.closed = true ∨ a.closeDue) : Sound called' stages a := by
  refine ⟨hs.lock, hs.unshut, { hs.agrees with kept := fun hcalled => ?_ }, hs.seen⟩
  rcases h hcalled with h | h | h
  · exact hs.agrees.kept h
  · exact .inl h
  · exact .inr (.inr h)

lemma listening_of_grasps (hs : Sound called stages a) (hr : r ∈ stages)
    (h : r.Grasps a.holdsBase) : a.listening = true := by
  rcases h with ⟨-, hholds⟩ | hcarrier
  · exact hs.agrees.holding hholds
  · exact (hs.knows hr).carrier hcarrier

/-- **Nobody else takes the connection beneath out of one's hands.** -/
lemma grasps_of_step (hs : Sound called (p.countedOn loyal :: stages) a) (h : p.Step a q b)
    (hr : r ∈ stages) (hgrasps : r.Grasps a.holdsBase) : r.Grasps b.holdsBase := by
  rcases hgrasps with ⟨hplace, hholds⟩ | hcarrier
  · refine .inl ⟨hplace, ?_⟩
    obtain ⟨m, hdoes, hgrows⟩ := h
    rw [hgrows.eq]
    cases hdoes with
    | surrender _ hp =>
      -- There is only one permit.
      have hpermits := hs.lock.permits
      have hcount : 0 < (stages.map Stage.place).count .inside :=
        List.count_pos_iff.mpr (hplace ▸ List.mem_map_of_mem hr)
      rw [List.map_cons, Stage.countedOn_place, hp, List.count_cons_self] at hpermits
      omega
    | _ => exact hholds
  · exact .inr hcarrier

end Aspect.Sound

end Transactional
