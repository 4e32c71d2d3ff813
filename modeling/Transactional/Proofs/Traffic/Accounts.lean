import Transactional.Proofs.Lease.Release
import Transactional.Proofs.Traffic.Story

/-!
# The accounts of a pool

No permit of a pool gets lost, and none is given back twice: each is free, or granted to a checkout
that has not taken its turn since, or held by a connection.  Once all leases have come to their end
and nobody has anything left to do, all are free.

* `World.holders` — how many connections hold a permit.
* `World.Balanced.holders`, `World.Balanced.permits` — those that the tasks know of, so that no
  permit is missing.
* `Role.Idle` — a task that has nothing left to do; `World.Balanced.quiet` says what that means for
  the permits, and `World.Balanced.back` and `World.Balanced.returned` for the leases.
* `Traffic.accounts_balance` — the accounts of a pool agree at each moment.
-/

namespace Transactional

/-- **How many connections hold a permit.** -/
def World.holders (s : World) : Nat :=
  (List.range (s.traffic.linkCount + 1)).countP s.traffic.permitted

/-- **A task that can do nothing at the moment.** -/
def Role.Idle (s : World) : Role → Prop
  | .seeking place =>
    place = .away ∨ ∃ t, place = .inLine t ∧ t ∉ s.traffic.accounts.permits.granted
  | .opened _ _ => False
  | .leased base number p _ loyal =>
      (p.countedOn loyal).Idle ((Memory.pool.lease base number).aspect (.watch base number) s)

variable {awaited : (World → Bool) → Prop} {capacity : Nat} {jobs : List Job} {roles : List Role}
  {r : Role} {s : World}

namespace Role

lemma place_of_past (h : r.Past) : r.place = .away := by
  cases r with
  | seeking place => exact h
  | opened => exact h.elim
  | leased => rfl

/-- **Whoever waits has no permit in hand.** -/
lemma not_inside_of_waits {ready : World → Bool} (h : (trade awaited).waits r ready) :
    r.place ≠ .inside := by
  cases r with
  | seeking place => obtain ⟨_, _, ⟨rfl, -⟩ | ⟨t, rfl, -⟩⟩ := h <;> simp [place]
  | opened => exact h.elim
  | leased => simp [place]

lemma Past.idle (h : r.Past) (s : World) : r.Idle s := by
  cases r with
  | seeking place => exact .inl h
  | opened => exact h
  | leased => exact .inl h.1.countedOn

/-- **Whoever waits in vain can do nothing**, also with a fresh turn. -/
lemma idle_of_waits {ready : World → Bool} (h : (trade awaited).waits r ready)
    (hready : ready (Host.schedule.modify Schedule.refresh s) = false)
    (hunshut : ∀ base number p held loyal, r = .leased base number p held loyal →
      ((Memory.pool.lease base number).aspect (.watch base number) s).lock.shut = false) :
    r.Idle s := by
  have hfirst : ∀ first : World → Bool, (∀ s, first s = true → ready s = true) →
      first (Host.schedule.modify Schedule.refresh s) = false := by
    intro first himp
    exact Bool.eq_false_iff.mpr fun htrue => Bool.eq_false_iff.mp hready (himp _ htrue)
  cases r with
  | seeking place =>
    obtain ⟨first, himp, ⟨rfl, -⟩ | ⟨t, rfl, rfl⟩⟩ := h
    · exact .inl rfl
    · refine .inr ⟨t, rfl, fun ht => Bool.eq_false_iff.mp (hfirst _ himp) ?_⟩
      have hcalled : (Semaphore.inLine Memory.permits t).ready
          (Host.schedule.modify Schedule.refresh s) = true :=
        Bool.or_eq_true_iff.mpr (.inr (List.contains_iff_mem.mpr ht))
      exact Bool.and_eq_true_iff.mpr ⟨Pool.pause_ready s, hcalled⟩
  | opened => exact h
  | leased base number p held loyal =>
    have hshut := hunshut _ _ _ _ _ rfl
    rcases h with ⟨first, himp, hfor⟩ | ⟨rfl, hplace, herrand, -⟩
    · have hidle := Pool.idle_of_waitsFor (Memory.apart base number) hfor (hfirst _ himp) hshut
      rcases hidle with hover | ⟨t, hplace, ht⟩ | ⟨hplace, herrand, hended⟩
      · exact .inl hover.countedOn
      · exact .inr (.inl ⟨t, (Stage.countedOn_place p loyal).trans hplace, ht⟩)
      · have hsame : p.countedOn loyal = p := Stage.countedOn_of_ne (by simp [herrand])
        show (p.countedOn loyal).Idle _
        rw [hsame]
        exact .inr (.inr ⟨hplace, herrand, hended⟩)
    · -- Nobody counts on a task that waits for something else.
      refine .inl ⟨(Stage.countedOn_place p false).trans hplace, .inl ?_⟩
      rw [Stage.countedOn, if_pos ⟨rfl, herrand⟩]

end Role

namespace World.Balanced

/-- **The connections that hold a permit** are those that have been opened, and those that have not
come back. -/
lemma holders (hs : Balanced capacity jobs roles s) :
    s.holders = (roles.filterMap Role.open? ++ (unreturned jobs s).map Prod.fst).length := by
  have hsublist := List.Sublist.append_left (unreturned_subset jobs s) (roles.filterMap Role.open?)
  rw [World.holders, List.countP_eq_length_filter]
  refine ((List.perm_ext_iff_of_nodup (List.nodup_range.filter _)
    (hs.distinct.sublist hsublist)).mpr
    fun m => ?_).length_eq
  rw [List.mem_filter, List.mem_range, hs.permitsAgree.permitted]
  exact ⟨And.right, fun hm => ⟨Nat.lt_succ_of_le (hs.bound m (hsublist.subset hm)), hm⟩⟩

/-- **No permit is missing.** -/
lemma permits (hs : Balanced capacity jobs roles s) :
    s.traffic.accounts.permits.free + s.traffic.accounts.permits.granted.length + s.holders
      + (roles.map Role.place).count .inside = capacity := by
  have hpermits := hs.permitsAgree.permits.permits
  rw [List.count_append, List.count_replicate_self] at hpermits
  rw [hs.holders]
  omega

lemma unshut (hs : Balanced capacity jobs roles s) (hr : r ∈ roles) :
    ∀ base number p held loyal, r = .leased base number p held loyal →
      ((Memory.pool.lease base number).aspect (.watch base number) s).lock.shut = false := by
  rintro base number p held loyal rfl
  exact (hs.leases _ (hs.fits _ hr).1).unshut

/-- **If nobody can do anything**, then nobody has a permit that no connection holds. -/
lemma quiet (hs : Balanced capacity jobs roles s) (hidle : ∀ r ∈ roles, r.Idle s) :
    s.traffic.accounts.permits.granted = [] ∧ roles.filterMap Role.open? = []
      ∧ roles.countP Role.counted = 0 ∧ (roles.map Role.place).count .inside = 0 := by
  have hplace : ∀ r ∈ roles, r.place = .away
      ∨ ∃ t, r.place = .inLine t ∧ t ∉ s.traffic.accounts.permits.granted := by
    intro r hr
    have h := hidle r hr
    cases r with
    | seeking place => exact h
    | opened => exact h.elim
    | leased => exact .inl rfl
  have hopened : ∀ r ∈ roles, r.open? = none ∧ r.counted = false := by
    intro r hr
    have h := hidle r hr
    cases r with
    | seeking | leased => exact ⟨rfl, rfl⟩
    | opened => exact h.elim
  refine ⟨List.eq_nil_iff_forall_not_mem.mpr fun t ht => ?_, ?_, ?_, ?_⟩
  · -- Whoever has been granted a permit is in line.
    have hline := hs.permitsAgree.permits.granted ht
    rcases Place.mem_line hline with h | h
    all_goals
      rcases List.mem_append.mp h with h | h
      · obtain ⟨r, hr, heq⟩ := List.mem_map.mp h
        rcases hplace r hr with haway | ⟨u, hu, hnot⟩
        · simp [haway] at heq
        · simp only [hu, Place.inLine.injEq, reduceCtorEq] at heq
          try exact hnot (heq ▸ ht)
      · cases (List.mem_replicate.mp h).2
  · exact List.filterMap_eq_nil_iff.mpr fun r hr => (hopened r hr).1
  · exact List.countP_eq_zero.mpr fun r hr => by simp [(hopened r hr).2]
  · refine List.count_eq_zero.mpr fun h => ?_
    obtain ⟨r, hr, heq⟩ := List.mem_map.mp h
    rcases hplace r hr with haway | ⟨u, hu, -⟩
    · simp [haway] at heq
    · simp [hu] at heq

lemma stages_idle (hs : Balanced capacity jobs roles s) (hidle : ∀ r ∈ roles, r.Idle s)
    {x : Nat × Nat} (hx : x ∈ tenancies jobs) :
    ∀ q ∈ roles.filterMap (Role.stageOn x.2),
      q.Idle ((Memory.pool.lease x.1 x.2).aspect (.watch x.1 x.2) s) := by
  intro q hq
  obtain ⟨r, hr, heq⟩ := List.mem_filterMap.mp hq
  cases r with
  | seeking | opened => cases heq
  | leased base number p held loyal =>
    obtain ⟨hin, -⟩ := hs.fits _ hr
    simp only [Role.stageOn, Option.ite_none_right_eq_some, Option.some.injEq] at heq
    obtain ⟨hnumber, rfl⟩ := heq
    have hsame : (base, number) = x := List.inj_on_of_nodup_map hs.numbers hin hx hnumber
    subst hsame
    exact hidle _ hr

/-- **If nobody can do anything and no job is due**, then a lease that somebody has closed or
dropped, or whose connection has ended, has come back. -/
lemma back (hs : Balanced capacity jobs roles s) (hidle : ∀ r ∈ roles, r.Idle s) (hdue : s.Unlent)
    {x : Nat × Nat} (hx : x ∈ tenancies jobs)
    (hcause : (s.traffic.leases x.2).closed = true ∨ .close x.1 x.2 ∈ jobs
      ∨ s.hasEnded x.1 = true) :
    (s.traffic.leases x.2).listening = false := by
  have hdone : ∀ job, job = .watch x.1 x.2 ∨ job = .close x.1 x.2 →
      ¬∃ n, Company.Due n job s := by
    rintro job hjob ⟨n, hn⟩
    obtain ⟨hwatch, hclose⟩ := hdue _ (Company.due_iff.mp hn) x.1 x.2
    exact hjob.elim hwatch hclose
  have hlease := hs.leases x hx
  -- Whoever has set out to close it has done so.
  have hrecalled : Aspect.Sound
      ((s.traffic.leases x.2).closed = true ∨ .close x.1 x.2 ∈ jobs)
      (roles.filterMap (Role.stageOn x.2))
      ((Memory.pool.lease x.1 x.2).aspect (.watch x.1 x.2) s) :=
    hlease.recount fun h => h.elim (fun h => .inr (.inl h)) .inl
  exact hrecalled.settled (hs.stages_idle hidle hx) (hdone _ (.inl rfl)) (hdone _ (.inr rfl))
    (hcause.elim (fun h => .inl (.inl h)) fun h => h.imp .inr id)

lemma returned (hs : Balanced capacity jobs roles s) (hidle : ∀ r ∈ roles, r.Idle s)
    (hdue : s.Unlent)
    (hcause : ∀ x ∈ tenancies jobs, (s.traffic.leases x.2).closed = true ∨ .close x.1 x.2 ∈ jobs
      ∨ s.hasEnded x.1 = true) :
    unreturned jobs s = [] :=
  List.filter_eq_nil_iff.mpr fun x hx => Bool.eq_false_iff.mp (hs.back hidle hdue hx (hcause x hx))

end World.Balanced

namespace Traffic

/-- **Nobody has anything left to do**: every task is over, or waits for something that has not
come, also with a fresh turn; and no job is due that looks after a lease. -/
structure Settled (c : Company World Unit) : Prop where
  rest : ∀ strand ∈ c.beside, strand.task = .done () ∨ ∃ on next, strand.task = .wait on next
    ∧ on.ready (Host.schedule.modify Schedule.refresh c.state) = false
  jobs : c.state.Unlent

variable {manager : Manager World} {w : World} {c : Company World Unit}

/-- **Where a task stands that has nothing left to do.** -/
lemma idle_of_rest (hs : World.Balanced capacity jobs roles s) (hr : r ∈ roles)
    {task : Task World Unit} {gone : Role → (World → World) → Prop} {ends : Unit → Role → Prop}
    (h : task.Obeys (trade awaited) gone ends r) (hends : ∀ q, ends () q → q.Past)
    (hrest : task = .done () ∨ ∃ on next, task = .wait on next
      ∧ on.ready (Host.schedule.modify Schedule.refresh s) = false) : r.Idle s := by
  rcases hrest with rfl | ⟨on, next, rfl, hready⟩
  · exact Role.Past.idle (hends r h) _
  · exact Role.idle_of_waits h.1 hready (hs.unshut hr)

/-- **The accounts of a pool agree**, however checkouts and runs, calls on leases and their ends,
the ends of connections and failures come together.  Of all permits, each is free, or granted to a
checkout that has not taken its turn since, or held by a connection; only who is in the middle of a
turn may have one in hand.  Nobody waits while a permit is free, unless the manager has been closed.
No more connections come back than have been handed out, and none is handed out twice.  When all
leases have been closed or dropped, or their connections have ended, and nobody has anything left to
do, all connections have come back and all permits are free. -/
theorem accounts_balance (hmanager : manager.Shared) (hdue : w.Unlent)
    (story : Story manager capacity w jobs c) :
    let permits := c.state.traffic.accounts.permits
    (permits.free + permits.granted.length + c.state.holders ≤ capacity
      ∧ ((∀ strand ∈ c.beside, strand.task.Rests) →
        permits.free + permits.granted.length + c.state.holders = capacity))
    ∧ (permits.shut = false → permits.waiting ≠ [] → permits.free = 0)
    ∧ c.state.accounts.released ≤ c.state.accounts.acquired
    ∧ ((World.tenancies jobs).map Prod.fst).Nodup
    ∧ (Settled c →
        (∀ x ∈ World.tenancies jobs, ((LeaseHost.leases x.2).get c.state).closed = true
          ∨ .close x.1 x.2 ∈ jobs ∨ c.state.hasEnded x.1 = true) →
        c.state.accounts.released = c.state.accounts.acquired ∧ permits.free = capacity) := by
  obtain ⟨r, staged, hpast, hbeside, hkeeps, hs, -⟩ := story.kept hmanager hdue
  rw [story.front] at hpast
  have hpast : r.Past := hpast
  have hpermits := hs.permits
  have hcounted : c.state.accounts.acquired = c.state.accounts.released + _ + _ := hs.counted
  refine ⟨⟨?_, fun hrest => ?_⟩, fun hshut => (hs.permitsAgree.permits.sound hshut).full, by omega,
    hs.distinct.of_append_right, fun hrest hcause => ?_⟩
  · show _ + List.length _ + _ ≤ capacity
    omega
  · -- Between two turns nobody has a permit in hand.
    have hnobody : ((r :: staged.map Prod.snd).map Role.place).count .inside = 0 := by
      refine List.count_eq_zero.mpr fun h => ?_
      obtain ⟨q, hq, hinside⟩ := List.mem_map.mp h
      rcases List.mem_cons.mp hq with rfl | hq
      · rw [Role.place_of_past hpast] at hinside
        cases hinside
      · obtain ⟨x, hx, rfl⟩ := List.mem_map.mp hq
        rcases Company.rests_at (hkeeps x hx) (hrest x.1 (hbeside ▸ List.mem_map_of_mem hx)) with
          ⟨ready, hwaits⟩ | ⟨-, hover⟩
        · exact Role.not_inside_of_waits hwaits hinside
        · rw [Role.place_of_past hover] at hinside
          cases hinside
    show _ + List.length _ + _ = capacity
    omega
  · have hidle : ∀ q ∈ r :: staged.map Prod.snd, q.Idle c.state := by
      intro q hq
      rcases List.mem_cons.mp hq with rfl | hin
      · exact hpast.idle _
      · obtain ⟨x, hx, rfl⟩ := List.mem_map.mp hin
        exact idle_of_rest hs hq (hkeeps x hx) (fun _ => id)
          (hrest.rest x.1 (hbeside ▸ List.mem_map_of_mem hx))
    obtain ⟨hgranted, hopened, hnone, hnobody⟩ := hs.quiet hidle
    have hover := hs.returned hidle hrest.jobs hcause
    have hholders := hs.holders
    rw [hopened, hover] at hholders
    have hback := hs.counted
    rw [hover, hnone] at hback
    refine ⟨hback.symm, ?_⟩
    rw [hgranted, hholders, hnobody] at hpermits
    exact hpermits

/-- A pool of one connection, which has been checked out and closed, once its lease is over. -/
theorem accounts_balance_after_close : ∃ jobs c,
    Story (World.manager Memory.pool) 1 {} jobs c ∧ Settled c ∧ World.tenancies jobs = [(1, 0)]
      ∧ c.state.accounts.released = c.state.accounts.acquired
      ∧ c.state.traffic.accounts.permits.free = 1 := by
  have hmanager : (World.manager Memory.pool).Shared :=
    ⟨rfl, .inl rfl, fun _ _ => ⟨rfl, .of_eq fun _ => rfl⟩⟩
  have hdue : ({} : World).Unlent := fun entry hentry => absurd hentry List.not_mem_nil
  obtain ⟨jobs, c, story, hlent, hover, hready, hclosed⟩ : ∃ jobs c,
      Story (World.manager Memory.pool) 1 {} jobs c ∧ World.tenancies jobs = [(1, 0)]
        ∧ (∀ strand ∈ c.beside, strand.task = .done ()) ∧ c.state.schedule.ready = []
        ∧ ((LeaseHost.leases 0).get c.state).closed = true := by
    have begun : Story (World.manager Memory.pool) 1 {} [] _ := .start
    have leased := begun.checkout.turn 0 [] []
    have closed := (leased.call (show (1, 0) ∈ World.tenancies _ from .head _) .close).turn 1 [_] []
    have started := closed.step (.start trivial (show Company.Due 1 _ _ from .head _)
      ⟨1, 0, .inr ⟨rfl, false, rfl⟩⟩)
    refine ⟨_, _, started.turn 1 [_, _] [], rfl, ?_, rfl, rfl⟩
    simp only [List.mem_append, List.mem_cons, List.not_mem_nil, or_false]
    rintro strand ((rfl | rfl) | rfl) <;> rfl
  have settled : Settled c := by
    refine ⟨fun strand hstrand => .inl (hover strand hstrand), fun entry hentry => ?_⟩
    obtain ⟨turn, hturn, -⟩ := List.mem_filterMap.mp hentry
    rw [hready] at hturn
    exact absurd hturn List.not_mem_nil
  obtain ⟨-, -, -, -, hback⟩ := accounts_balance hmanager hdue story
  refine ⟨jobs, c, story, settled, hlent, hback settled fun x hx => .inl ?_⟩
  rw [hlent] at hx
  rwa [List.mem_singleton.mp hx]

end Traffic

end Transactional
