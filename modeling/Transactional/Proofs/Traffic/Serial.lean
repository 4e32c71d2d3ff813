import Transactional.Proofs.Traffic.Balance

/-!
# Calls in a pool of a given capacity

Only a connection that holds a permit is called, and a connection that has given its permit back
never gets one again.  So at each place in the journal there are not more connections that have been
called and are going to be called than there are permits.

* `Traffic.Flows` — what any deal does to the journal and to the permits of connections.
* `Traffic.Serial` — at each call in the journal, not more connections than permits are in use.
* `World.Balanced.flows`, `World.Balanced.serial` — every deal is of that kind, and so it stays
  true.
-/

namespace Transactional

namespace Traffic

/-- **What any deal does**: calls on a connection that holds a permit are noted down, and no
connection of before gets one. -/
structure Flows (t t' : Traffic) : Prop where
  journal : ∃ base calls, t'.journal = t.journal ++ calls
    ∧ (∀ call ∈ calls, call.number = base) ∧ (calls ≠ [] → t.permitted base = true)
  linkCount : t.linkCount ≤ t'.linkCount
  permitted : ∀ m ≤ t.linkCount, t'.permitted m = true → t.permitted m = true

/-- **Not more connections than permits are in use at a time**: of those that have been called no
later than a call in the journal, not more are called from then on, or may still be. -/
structure Serial (capacity : Nat) (t : Traffic) : Prop where
  known : ∀ call ∈ t.journal, call.number ≤ t.linkCount
  bounded : ∀ before call after, t.journal = before ++ call :: after → ∀ ids : List Nat, ids.Nodup →
    (∀ m ∈ ids, m ∈ (before ++ [call]).map Memory.Call.number
      ∧ (m ∈ (call :: after).map Memory.Call.number ∨ t.permitted m = true)) →
    ids.length ≤ capacity

variable {capacity : Nat} {t t' : Traffic}

lemma Flows.of_silent (hjournal : t'.journal = t.journal) (hlinks : t.linkCount ≤ t'.linkCount)
    (hpermitted : ∀ m ≤ t.linkCount, t'.permitted m = true → t.permitted m = true) : Flows t t' :=
  ⟨⟨0, [], by rw [hjournal, List.append_nil], by simp, by simp⟩, hlinks, hpermitted⟩

/-- **It stays true, whatever is done**, if no more connections hold permits than there are. -/
theorem Serial.flows (hs : Serial capacity t) (h : Flows t t')
    (hcapacity : ∀ ids : List Nat, ids.Nodup → (∀ m ∈ ids, t.permitted m = true) →
      ids.length ≤ capacity)
    (hlinks : ∀ m, t.permitted m = true → m ≤ t.linkCount) : Serial capacity t' := by
  obtain ⟨⟨base, calls, hjournal, hcalls, hbase⟩, hcount, hpermitted⟩ := h
  have hnew : ∀ call ∈ calls, t.permitted call.number = true := by
    intro call hcall
    rw [hcalls call hcall]
    exact hbase (List.ne_nil_of_mem hcall)
  have hknown : ∀ call ∈ t'.journal, call.number ≤ t.linkCount := by
    intro call hcall
    rw [hjournal] at hcall
    exact (List.mem_append.mp hcall).elim (hs.known call) fun h => hlinks _ (hnew call h)
  refine ⟨fun call hcall => (hknown call hcall).trans hcount, ?_⟩
  intro before call after hsplit ids hids hin
  -- Whoever has been called has no permit that he did not have before.
  have hold : ∀ m ∈ (before ++ [call]).map Memory.Call.number, t'.permitted m = true →
      t.permitted m = true := by
    intro m hm hm'
    obtain ⟨other, hother, rfl⟩ := List.mem_map.mp hm
    refine hpermitted _ (hknown other ?_) hm'
    rw [hsplit]
    rcases List.mem_append.mp hother with h | h
    · exact List.mem_append_left _ h
    · rw [List.mem_singleton.mp h]
      exact List.mem_append_right _ List.mem_cons_self
  rw [hjournal] at hsplit
  rcases List.append_eq_append_iff.mp hsplit with ⟨rest, hbefore, hrest⟩ | ⟨rest, hbefore, hrest⟩
  · -- One of the new calls.
    refine hcapacity ids hids fun m hm => ?_
    obtain ⟨hearlier, hlater | hmay⟩ := hin m hm
    · obtain ⟨other, hother, rfl⟩ := List.mem_map.mp hlater
      refine hnew other ?_
      rw [hrest]
      exact List.mem_append_right _ hother
    · exact hold m hearlier hmay
  · cases rest with
    | nil =>
      -- The first of them.
      refine hcapacity ids hids fun m hm => ?_
      obtain ⟨hearlier, hlater | hmay⟩ := hin m hm
      · obtain ⟨other, hother, rfl⟩ := List.mem_map.mp hlater
        refine hnew other ?_
        rw [List.nil_append] at hrest
        rwa [← hrest]
      · exact hold m hearlier hmay
    | cons first rest =>
      -- A call of before.
      obtain ⟨rfl, hafter⟩ := List.cons.inj hrest
      refine hs.bounded before call rest hbefore ids hids fun m hm => ?_
      obtain ⟨hearlier, hlater | hmay⟩ := hin m hm
      · refine ⟨hearlier, ?_⟩
        obtain ⟨other, hother, rfl⟩ := List.mem_map.mp hlater
        have hsplit : call :: after = (call :: rest) ++ calls := congrArg _ hafter
        rw [hsplit] at hother
        rcases List.mem_append.mp hother with h | h
        · exact .inl (List.mem_map_of_mem h)
        · exact .inr (hnew other h)
      · exact ⟨hearlier, .inr (hold m hearlier hmay)⟩

end Traffic

namespace World.Balanced

variable {capacity : Nat} {jobs : List Job} {roles rs : List Role} {r r' : Role} {s s' : World}

/-- **No more connections hold permits than there are.** -/
lemma length_permitted (hs : Balanced capacity jobs roles s) {ids : List Nat} (hids : ids.Nodup)
    (hpermitted : ∀ m ∈ ids, s.traffic.permitted m = true) : ids.length ≤ capacity := by
  have hsubset : ids ⊆ roles.filterMap Role.open? ++ (unreturned jobs s).map Prod.fst :=
    fun m hm => (hs.permitsAgree.permitted m).mp (hpermitted m hm)
  have hlength := (List.subperm_of_subset hids hsubset).length_le
  have hpermits := hs.permitsAgree.permits.permits
  rw [List.count_append, List.count_replicate_self] at hpermits
  omega

lemma le_linkCount (hs : Balanced capacity jobs roles s) {m : Nat}
    (hm : s.traffic.permitted m = true) : m ≤ s.traffic.linkCount :=
  hs.bound m ((List.Sublist.append_left (unreturned_subset jobs s) _).subset
    ((hs.permitsAgree.permitted m).mp hm))

lemma permitted_of_update {permitted : Nat → Bool} {base m : Nat}
    (h : Function.update permitted base false m = true) : permitted m = true := by
  rw [Function.update_apply] at h
  split at h
  · cases h
  · exact h

/-- **Every deal calls only a connection that holds a permit**, and gives none to another. -/
lemma flows (hs : Balanced capacity jobs (r :: rs) s) (h : Deal r s r' s') :
    s.traffic.Flows s'.traffic := by
  cases h with
  | aside h => exact .of_silent (by rw [h.traffic]) (by rw [h.traffic]) (by rw [h.traffic]; simp)
  | ask _ hstill =>
    have htraffic := traffic_of_permits hstill
    exact .of_silent (by rw [htraffic]) (by rw [htraffic]) (by rw [htraffic]; simp)
  | refuse =>
    have htraffic := traffic_shutDown s
    exact .of_silent (by rw [htraffic]) (by rw [htraffic]) (by rw [htraffic]; simp)
  | reach =>
    have htraffic := traffic_newLink s
    refine .of_silent (by rw [htraffic]) (by rw [htraffic]; exact Nat.le_succ _) fun m hm hm' => ?_
    have hother : Function.update s.traffic.permitted (s.traffic.linkCount + 1) true m = true := by
      rwa [htraffic] at hm'
    rwa [Function.update_of_ne (by omega)] at hother
  | @call base counted calls s s' h =>
    have htraffic := h.traffic
    refine ⟨⟨base, calls, by rw [htraffic], h.own, fun _ => ?_⟩, by rw [htraffic],
      by rw [htraffic]; simp⟩
    exact (hs.permitsAgree.permitted base).mpr List.mem_cons_self
  | part =>
    have hmine : s.traffic.permitted _ = true :=
      (hs.permitsAgree.permitted _).mpr List.mem_cons_self
    have htraffic := traffic_drop hmine
    refine .of_silent (by rw [htraffic]) (by rw [htraffic]) fun m _ hm => ?_
    rw [htraffic] at hm
    exact permitted_of_update hm
  | count => exact .of_silent rfl (Nat.le_refl _) fun _ _ => id
  | @lease base errand s herrand =>
    have htraffic := traffic_startWatchedLease base s
    exact .of_silent (by rw [htraffic]) (by rw [htraffic]) (by rw [htraffic]; simp)
  | @use base number p q held held' loyal s s' hmay =>
    have hin := (hs.fits _ List.mem_cons_self).1
    have hpermitted : (s.traffic.leases number).listening = true → s.traffic.permitted
      base = true :=
      fun hlistening => (hs.permitsAgree.permitted base).mpr (List.mem_append_right _
        (List.mem_map_of_mem (List.mem_filter.mpr ⟨hin, hlistening⟩)))
    obtain ⟨-, hhandles, -⟩ := hmay
    cases hhandles with
    | work htends hworks hlistening =>
      obtain ⟨⟨state, added, -, -, hm⟩, -⟩ := htends
      have htraffic := hworks.traffic
      rw [hm] at htraffic
      exact ⟨⟨base, _, by rw [htraffic], hworks.own, fun hne => hpermitted (hlistening hne)⟩,
        by rw [htraffic], by rw [htraffic]; simp⟩
    | @giveBack m calls hworks hlistening =>
      have hm := hworks.traffic
      have htraffic : ((Memory.pool.lease base number).release m).traffic = _ :=
        traffic_release (by rw [hm]; exact hlistening) (by rw [hm]; exact hpermitted hlistening)
      rw [hm] at htraffic
      refine ⟨⟨base, calls, by rw [htraffic], hworks.own, fun _ => hpermitted hlistening⟩,
        by rw [htraffic], fun m _ hm' => ?_⟩
      rw [htraffic] at hm'
      exact permitted_of_update hm'

/-- **It stays true**, whatever is done one after the other. -/
theorem serial {awaited : (World → Bool) → Prop} (before after : List Role)
    (hs : Balanced capacity jobs (before ++ r :: after) s)
    (hserial : s.traffic.Serial capacity) (h : (trade awaited).may r s r' s') :
    s'.traffic.Serial capacity := by
  suffices hall : ∀ y : Role × World,
      Relation.ReflTransGen (fun x y : Role × World => Deal x.1 x.2 y.1 y.2) (r, s) y →
      y.2.traffic.Serial capacity
        ∧ ∃ jobs, Balanced capacity jobs (y.1 :: (before ++ after)) y.2 from (hall (r', s') h).1
  intro y hy
  induction hy with
  | refl => exact ⟨hserial, jobs, hs.perm List.perm_middle⟩
  | tail _ hdeal ih =>
    obtain ⟨hserial, jobs, hs⟩ := ih
    obtain ⟨added, -, hs'⟩ := hs.deal hdeal
    refine ⟨hserial.flows (hs.flows hdeal) ?_ ?_, _, hs'⟩
    · exact fun ids hids => hs.length_permitted hids
    · exact fun m => hs.le_linkCount

end World.Balanced

end Transactional
