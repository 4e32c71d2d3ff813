import Transactional.Proofs.Traffic.Story

/-!
# Who has started a lease

Every lease is started by the task that has opened the connection beneath, and remains its own.

* `Role.own?`, `Role.Concluded` — the lease that a task has started, and what it knows of it in the
  end.
* `World.Balanced.may_own` — whatever a task does, its lease remains its own, and it starts no
  other.
* `World.Balanced.may_closed` — and a lease that is closed remains closed.
-/

namespace Transactional

namespace Role

/-- **The lease that a task has started.** -/
def own? : Role → Option (Nat × Nat)
  | .leased base number _ _ false => some (base, number)
  | _ => none

/-- It knows that its lease has been closed, if it has one. -/
def Concluded : Role → Prop
  | .leased _ _ p _ _ => p.sight = .closed
  | _ => True

end Role

variable {capacity : Nat} {jobs : List Job} {roles rs : List Role} {r r' : Role} {s s' : World}
  {x : Nat × Nat}

lemma Deal.own (h : Deal r s r' s') (hown : r.own? = some x) : r'.own? = some x := by
  cases h with
  | aside | call => exact hown
  | ask | refuse | reach | part | count | lease => cases hown
  | @use base number p q held held' loyal _ _ hmay =>
    cases loyal with
    | false => exact hown
    | true => cases hown

namespace World.Balanced

/-- **A lease is started by the task to which it belongs.** -/
lemma deal_own (hs : Balanced capacity jobs (r :: rs) s) (h : Deal r s r' s') :
    ∃ added, s'.traffic.due = s.traffic.due ++ added
      ∧ ∀ x ∈ tenancies (added.map Prod.snd), r'.own? = some x := by
  have hnothing : s'.traffic.due = s.traffic.due → ∃ added, s'.traffic.due = s.traffic.due ++ added
      ∧ ∀ x ∈ tenancies (added.map Prod.snd), r'.own? = some x :=
    fun hdue => ⟨[], hdue.trans (List.append_nil _).symm, fun x hx => absurd hx List.not_mem_nil⟩
  cases h with
  | aside h => exact hnothing (congrArg Traffic.due h.traffic)
  | ask _ hstill => exact hnothing (by rw [traffic_of_permits hstill])
  | refuse => exact hnothing (by rw [traffic_shutDown])
  | reach => exact hnothing (by rw [traffic_newLink])
  | call h => exact hnothing (by rw [h.traffic])
  | part =>
    have hmine : s.traffic.permitted _ = true :=
      (hs.permitsAgree.permitted _).mpr List.mem_cons_self
    exact hnothing (by rw [traffic_drop hmine])
  | count => exact hnothing rfl
  | @lease base errand _ herrand =>
    refine ⟨[(s.schedule.nextTask, .watch base s.traffic.leaseCount)],
      by rw [traffic_startWatchedLease],
      fun x hx => ?_⟩
    rw [List.mem_singleton.mp hx]
    rfl
  | use hmay =>
    cases hmay.2.1 with
    | work htends hworks =>
      obtain ⟨⟨state, added, -, hadded, hm⟩, -⟩ := htends
      refine ⟨added, by rw [hworks.traffic, hm], fun x hx => ?_⟩
      have hnone : tenancies ([] ++ added.map Prod.snd) = tenancies [] := lent_closes hadded
      rw [List.nil_append] at hnone
      rw [hnone] at hx
      cases hx
    | giveBack hworks hlistening =>
      exact hnothing (by rw [hs.traffic_giveBack hworks hlistening, List.append_nil])

/-- **Whatever a task does, its lease remains its own**, and every lease that it starts is. -/
theorem may_own {awaited : (World → Bool) → Prop} (before after : List Role)
    (hs : Balanced capacity jobs (before ++ r :: after) s)
    (h : (trade awaited).may r s r' s') :
    (∀ x, r.own? = some x → r'.own? = some x) ∧ ∀ x ∈ tenancies (newJobs s s'), r'.own?
      = some x := by
  suffices hall : ∀ y : Role × World,
      Relation.ReflTransGen (fun x y : Role × World => Deal x.1 x.2 y.1 y.2) (r, s) y →
      ∃ added, y.2.traffic.due = s.traffic.due ++ added
        ∧ Balanced capacity (jobs ++ added.map Prod.snd) (y.1 :: (before ++ after)) y.2
        ∧ (∀ x, r.own? = some x → y.1.own? = some x)
        ∧ ∀ x ∈ tenancies (added.map Prod.snd), y.1.own? = some x by
    obtain ⟨added, hdue, -, hkeeps, hadded⟩ := hall (r', s') h
    have hnew : newJobs s s' = added.map Prod.snd := by
      rw [newJobs, hdue, List.drop_left]
    exact ⟨hkeeps, hnew ▸ hadded⟩
  intro y hy
  induction hy with
  | refl =>
    exact ⟨[], (List.append_nil _).symm, by simpa using hs.perm List.perm_middle, fun _ => id,
      fun x hx => absurd hx List.not_mem_nil⟩
  | tail _ hdeal ih =>
    obtain ⟨added, hdue, hs', hkeeps, hadded⟩ := ih
    obtain ⟨more, hmore, hs''⟩ := hs'.deal hdeal
    obtain ⟨more', hmore', hown⟩ := hs'.deal_own hdeal
    obtain rfl : more' = more := List.append_cancel_left (hmore'.symm.trans hmore)
    refine ⟨added
      ++ more', by rw [hmore, hdue, List.append_assoc], ?_, fun x hx => hdeal.own (hkeeps x hx),
      fun x hx => ?_⟩
    · rwa [List.map_append, ← List.append_assoc]
    · rw [List.map_append, tenancies_append] at hx
      exact (List.mem_append.mp hx).elim (fun hx => hdeal.own (hadded x hx)) (hown x)

lemma deal_closed (hs : Balanced capacity jobs (r :: rs) s) (h : Deal r s r' s')
    (hx : x ∈ tenancies jobs) (hclosed : (s.traffic.leases x.2).closed = true) :
    (s'.traffic.leases x.2).closed = true := by
  cases h with
  | aside h => rwa [h.traffic]
  | ask _ hstill => rwa [traffic_of_permits hstill]
  | refuse => rwa [traffic_shutDown]
  | reach => rwa [traffic_newLink]
  | call h => rwa [h.traffic]
  | part =>
    have hmine : s.traffic.permitted _ = true :=
      (hs.permitsAgree.permitted _).mpr List.mem_cons_self
    rwa [traffic_drop hmine]
  | count => exact hclosed
  | lease =>
    rw [traffic_startWatchedLease]
    exact (congrArg LeaseState.closed (Function.update_of_ne (hs.below x hx).ne _ _)).trans hclosed
  | @use base number p q held held' loyal _ _ hmay =>
    by_cases hl : x.2 = number
    · subst hl
      exact hmay.1.stays_closed hclosed
    · suffices hother : s'.traffic.leases x.2 = s.traffic.leases x.2 by rwa [hother]
      cases hmay.2.1 with
      | work htends hworks =>
        obtain ⟨⟨state, added, -, -, hm⟩, -⟩ := htends
        rw [hworks.traffic, hm]
        exact Function.update_of_ne hl _ _
      | giveBack hworks hlistening =>
        rw [hs.traffic_giveBack hworks hlistening]
        exact Function.update_of_ne hl _ _

/-- **Whatever a task does, a lease that is closed remains closed.** -/
theorem may_closed {awaited : (World → Bool) → Prop} (before after : List Role)
    (hs : Balanced capacity jobs (before ++ r :: after) s) (h : (trade awaited).may r s r' s')
    (hx : x ∈ tenancies jobs) (hclosed : (s.traffic.leases x.2).closed = true) :
    (s'.traffic.leases x.2).closed = true := by
  suffices hall : ∀ y : Role × World,
      Relation.ReflTransGen (fun x y : Role × World => Deal x.1 x.2 y.1 y.2) (r, s) y →
      ∃ added, Balanced capacity (jobs ++ added) (y.1 :: (before ++ after)) y.2
        ∧ (y.2.traffic.leases x.2).closed = true from (hall (r', s') h).choose_spec.2
  intro y hy
  induction hy with
  | refl => exact ⟨[], by simpa using hs.perm List.perm_middle, hclosed⟩
  | tail _ hdeal ih =>
    obtain ⟨added, hs', hclosed'⟩ := ih
    obtain ⟨more, -, hs''⟩ := hs'.deal hdeal
    have hin : x ∈ tenancies (jobs ++ added) := by
      rw [tenancies_append]
      exact List.mem_append_left _ hx
    exact ⟨added ++ more.map Prod.snd, by rwa [← List.append_assoc],
      hs'.deal_closed hdeal hin hclosed'⟩

end World.Balanced

end Transactional
