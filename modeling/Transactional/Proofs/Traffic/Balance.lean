import Transactional.Proofs.Traffic.Keeping

/-!
# The balance of a pool

Every permit of the pool is free, or granted to a checkout that has not taken its turn since, or in
the hands of one, or held by a connection; and every connection that has been counted is in the
hands of somebody, or has been given back and counted once more.

* `Job.lease?`, `World.tenancies` — the leases, by the jobs that have been due.
* `Role.place`, `Role.open?`, `Role.stageOn` — what a part means for the permits and for a lease.
* `Traffic.PermitsAgree` — permits and connections agree.
* `World.Balanced` — permits, connections, leases and the parts of all tasks agree.
* `World.Balanced.deal` — they go on agreeing, whatever is done.
-/

namespace Transactional

/-- The connection and the lease that a job looks after. -/
def Job.lease? : Job → Option (Nat × Nat)
  | .watch base number => some (base, number)
  | _ => none

namespace World

/-- **The leases that there have been**, with their connections: for each of them a job has been due
that looks after it. -/
def tenancies (jobs : List Job) : List (Nat × Nat) :=
  jobs.filterMap Job.lease?

/-- The leases that have not given their connections back. -/
def unreturned (jobs : List Job) (s : World) : List (Nat × Nat) :=
  (tenancies jobs).filter fun x => (s.traffic.leases x.2).listening

/-- **The jobs that become due** in a step. -/
def newJobs (s s' : World) : List Job :=
  (s'.traffic.due.drop s.traffic.due.length).map Prod.snd

end World

/-! ## What a part means -/

namespace Role

/-- Where a task stands with respect to the permits. -/
def place : Role → Place
  | .seeking place => place
  | _ => .away

def open? : Role → Option Nat
  | .opened base _ => some base
  | _ => none

/-- Whether a task has a connection that has been counted. -/
def counted : Role → Bool
  | .opened _ counted => counted
  | _ => false

/-- **What others on a lease can count on** of a task. -/
def stageOn (lease : Nat) : Role → Option Stage
  | .leased _ number p _ loyal => if number = lease then some (p.countedOn loyal) else none
  | _ => none

lemma stageOn_self (base number : Nat) (p : Stage) (held loyal : Bool) :
    (leased base number p held loyal).stageOn number = some (p.countedOn loyal) :=
  if_pos rfl

/-- **What is true of a task on a lease**: the lease is there, the task relies on nobody's standing
still, and it is right about the connection beneath. -/
def Fits (jobs : List Job) (leases : Nat → LeaseState) : Role → Prop
  | .leased base number p held loyal =>
      (base, number) ∈ World.tenancies jobs ∧ p.Modest
        ∧ (loyal = false → p.errand ≠ .lookout ∧ p.errand ≠ .alarmed)
        ∧ (held = true → p.Grasps (leases number).holdsBase)
  | _ => True

end Role

/-! ## Permits and connections -/

/-- **Permits and connections agree**: those who ask for one are at `places`, and `bases` are the
connections that hold one. -/
structure Traffic.PermitsAgree (capacity : Nat) (places : List Place) (bases : List Nat)
    (t : Traffic) :
    Prop where
  permits : t.accounts.permits.Balanced capacity
    (places ++ List.replicate bases.length Place.inside)
  permitted : ∀ m, t.permitted m = true ↔ m ∈ bases

namespace Traffic.PermitsAgree

variable {capacity : Nat} {places places' : List Place} {bases bases' : List Nat} {t t' : Traffic}
  {p q : Place} {m : Nat}

lemma perm (h : PermitsAgree capacity places bases t) (hplaces : places.Perm places')
    (hbases : bases.Perm bases') : PermitsAgree capacity places' bases' t where
  permits := h.permits.perm (hplaces.append (hbases.length_eq ▸ List.Perm.refl _))
  permitted m := (h.permitted m).trans hbases.mem_iff

lemma cons_away : PermitsAgree capacity (.away :: places) bases t ↔ PermitsAgree capacity places
    bases t :=
  ⟨fun h => ⟨Semaphore.Balanced.cons_away.mp h.permits, h.permitted⟩,
    fun h => ⟨Semaphore.Balanced.cons_away.mpr h.permits, h.permitted⟩⟩

lemma of_eq (h : PermitsAgree capacity places bases t)
    (hpermits : t'.accounts.permits = t.accounts.permits)
    (hpermitted : t'.permitted = t.permitted) :
    PermitsAgree capacity places bases t' :=
  ⟨hpermits ▸ h.permits, fun m => by rw [hpermitted, h.permitted]⟩

lemma shifts (h : PermitsAgree capacity (p :: places) bases t)
    (hshift : Semaphore.Shifts p t.accounts.permits q t'.accounts.permits)
    (hpermitted : t'.permitted = t.permitted) : PermitsAgree capacity (q :: places) bases t' :=
  ⟨h.permits.shifts hshift, fun m => by rw [hpermitted, h.permitted]⟩

lemma gain (h : PermitsAgree capacity (.inside :: places) bases t)
    (hpermits : t'.accounts.permits = t.accounts.permits)
    (hpermitted : t'.permitted = Function.update t.permitted m true) :
    PermitsAgree capacity (.away :: places) (m :: bases) t' := by
  refine cons_away.mpr ⟨?_, fun k => ?_⟩
  · rw [hpermits]
    exact h.permits.perm List.perm_middle.symm
  · rw [hpermitted, Function.update_apply, List.mem_cons, ← h.permitted]
    split
    next heq => simp [heq]
    next hne => simp [hne]

lemma lose (h : PermitsAgree capacity places (m :: bases) t) (hm : m ∉ bases)
    (hpermits : t'.accounts.permits = t.accounts.permits.handOver.2)
    (hpermitted : t'.permitted = Function.update t.permitted m false) :
    PermitsAgree capacity places bases t' := by
  refine ⟨?_, fun k => ?_⟩
  · have hfirst : t.accounts.permits.Balanced capacity
        (.inside :: (places ++ List.replicate bases.length .inside)) :=
      h.permits.perm List.perm_middle
    rw [hpermits]
    exact Semaphore.Balanced.cons_away.mp (hfirst.shifts (Semaphore.shifts_handOver _))
  · have hk := h.permitted k
    rw [hpermitted, Function.update_apply]
    split
    next heq => simp [heq, hm]
    next hne => simpa [hne] using hk

end Traffic.PermitsAgree

/-! ## Everything -/

/-- **Permits, connections, leases and the parts of all tasks agree.** -/
structure World.Balanced (capacity : Nat) (jobs : List Job) (roles : List Role) (s : World) :
    Prop where
  /-- Permits are held by the connections that are open, and by those that have not come back. -/
  permitsAgree : s.traffic.PermitsAgree capacity (roles.map Role.place)
    (roles.filterMap Role.open? ++ (unreturned jobs s).map Prod.fst)
  distinct : (roles.filterMap Role.open? ++ (tenancies jobs).map Prod.fst).Nodup
  bound : ∀ m ∈ roles.filterMap Role.open? ++ (tenancies jobs).map Prod.fst, m ≤ s.traffic.linkCount
  counted : s.traffic.accounts.acquired
    = s.traffic.accounts.released + (unreturned jobs s).length + roles.countP Role.counted
  numbers : ((tenancies jobs).map Prod.snd).Nodup
  below : ∀ x ∈ tenancies jobs, x.2 < s.traffic.leaseCount
  due : ∀ entry ∈ s.traffic.due, ∀ base number,
    entry.2 = .watch base number ∨ entry.2 = .close base number → (base, number) ∈ tenancies jobs
  asked : ∀ base number, .close base number ∈ jobs → (base, number) ∈ tenancies jobs
  fits : ∀ r ∈ roles, r.Fits jobs s.traffic.leases
  leases : ∀ x ∈ tenancies jobs, Aspect.Sound (.close x.1 x.2 ∈ jobs)
    (roles.filterMap (Role.stageOn x.2))
    ((Memory.pool.lease x.1 x.2).aspect (.watch x.1 x.2) s)

namespace World

variable {capacity : Nat} {jobs : List Job} {roles roles' rs : List Role} {r r' : Role}
  {s s' : World}
  {base number : Nat}

lemma tenancies_append (jobs jobs' : List Job) :
    tenancies (jobs ++ jobs') = tenancies jobs ++ tenancies jobs' :=
  List.filterMap_append

lemma unreturned_subset (jobs : List Job) (s : World) :
    ((unreturned jobs s).map Prod.fst).Sublist ((tenancies jobs).map Prod.fst) :=
  List.filter_sublist.map _

/-- **A lease that nobody has touched** is as it was, except that the connection beneath may have
ended. -/
lemma grows_of_traffic (hlease : s'.traffic.leases number = s.traffic.leases number)
    (hended : s.hasEnded base = true → s'.hasEnded base = true)
    (hdue : ∀ job, job = .watch base number ∨ job = .close base number →
      (∃ n, (n, job) ∈ s.traffic.due) → ∃ n, (n, job) ∈ s'.traffic.due) :
    ((Memory.pool.lease base number).aspect (.watch base number) s).Grows
      ((Memory.pool.lease base number).aspect (.watch base number) s') := by
  have hcell : (Memory.pool.lease base number : Lease World).cell.get s'
      = (Memory.pool.lease base number).cell.get s := hlease
  refine ⟨?_, hended, fun h => ?_, fun h => ?_⟩
  · simp only [Lease.aspect, hcell]
    rfl
  all_goals
    simp only [Lease.aspect, LeaseState.aspect, Company.due_iff] at h ⊢
  · exact hdue _ (.inl rfl) h
  · exact hdue _ (.inr rfl) h

namespace Balanced

lemma perm (hs : Balanced capacity jobs roles s) (h : roles.Perm roles') :
    Balanced capacity jobs roles' s where
  permitsAgree := hs.permitsAgree.perm (h.map _) ((h.filterMap _).append_right _)
  distinct := ((h.filterMap _).append_right _).nodup_iff.mp hs.distinct
  bound m hm := hs.bound m (((h.filterMap _).append_right _).mem_iff.mpr hm)
  counted := hs.counted.trans (by rw [h.countP_eq])
  numbers := hs.numbers
  below := hs.below
  due := hs.due
  asked := hs.asked
  fits r hr := hs.fits r (h.mem_iff.mpr hr)
  leases x hx := (hs.leases x hx).perm (h.filterMap _)

lemma base_eq (hs : Balanced capacity jobs roles s) {base' : Nat}
    (h : (base, number) ∈ tenancies jobs) (h' : (base', number) ∈ tenancies jobs) :
    base' = base := by
  have heq := List.inj_on_of_nodup_map hs.numbers h' h rfl
  exact congrArg Prod.fst heq

/-- **A change that touches no lease**, of a task that is on none. -/
lemma swap {linkCount : Nat} {permitted : Nat → Bool} {accounts : Memory.Accounts}
    (hs : Balanced capacity jobs (r :: rs) s) (hr : ∀ l, r.stageOn l = none)
    (hr' : ∀ l, r'.stageOn l = none) (hfits : r'.Fits jobs s.traffic.leases)
    (htraffic : s'.traffic = { s.traffic with linkCount, permitted, accounts })
    (hages : ∀ m ∈ (tenancies jobs).map Prod.fst, s.hasEnded m = true → s'.hasEnded m = true)
    (hpermitsAgree : Traffic.PermitsAgree capacity ((r' :: rs).map Role.place)
      ((r' :: rs).filterMap Role.open? ++ (unreturned jobs s).map Prod.fst)
      { s.traffic with linkCount, permitted, accounts })
    (hdistinct : ((r' :: rs).filterMap Role.open? ++ (tenancies jobs).map Prod.fst).Nodup)
    (hbound : ∀ m ∈ (r' :: rs).filterMap Role.open? ++ (tenancies jobs).map Prod.fst, m ≤ linkCount)
    (hcounted : accounts.acquired
      = accounts.released + (unreturned jobs s).length + (r' :: rs).countP Role.counted) :
    Balanced capacity jobs (r' :: rs) s' := by
  have hunreturned : unreturned jobs s' = unreturned jobs s := by
    rw [unreturned, htraffic, unreturned]
  refine ⟨?_, hdistinct, ?_, ?_, hs.numbers, ?_, ?_, hs.asked, ?_, ?_⟩
  · rwa [hunreturned, htraffic]
  · rwa [htraffic]
  · rwa [hunreturned, htraffic]
  · rw [htraffic]
    exact hs.below
  · rw [htraffic]
    exact hs.due
  · rw [htraffic]
    intro x hx
    rcases List.mem_cons.mp hx with rfl | hx
    · exact hfits
    · exact hs.fits x (List.mem_cons_of_mem _ hx)
  · intro x hx
    have hlease := hs.leases x hx
    rw [List.filterMap_cons_none (hr _)] at hlease
    rw [List.filterMap_cons_none (hr' _)]
    refine hlease.grows (grows_of_traffic (by rw [htraffic]) ?_ fun _ _ h => by rwa [htraffic])
    exact hages x.1 (List.mem_map_of_mem hx)

lemma idle (hs : Balanced capacity jobs roles s) {journal : List Memory.Call}
    (htraffic : s'.traffic = { s.traffic with journal }) (hages : Ages s s') :
    Balanced capacity jobs roles s' := by
  have hunreturned : unreturned jobs s' = unreturned jobs s := by
    rw [unreturned, htraffic, unreturned]
  obtain ⟨hpermitsAgree, hdistinct, hbound, hcounted, hnumbers, hbelow, hdue, hasked, hfits,
    hleases⟩ := hs
  refine ⟨?_, hdistinct, ?_, ?_, hnumbers, ?_, ?_, hasked, ?_, fun x hx => ?_⟩
  · rw [hunreturned, htraffic]
    exact hpermitsAgree.of_eq rfl rfl
  · rwa [htraffic]
  · rwa [hunreturned, htraffic]
  · rwa [htraffic]
  · rwa [htraffic]
  · rwa [htraffic]
  · refine (hleases x hx).grows (grows_of_traffic (by rw [htraffic]) (hages x.1) fun _ _ h => ?_)
    rwa [htraffic]

/-! ### Those who look for a connection -/

/-- **Asking for a permit**, taking one, giving up, or being refused. -/
lemma ask {p q : Place} (hs : Balanced capacity jobs (.seeking p :: rs) s)
    (hshift : Semaphore.Shifts p (Memory.permits.get s) q (Memory.permits.get s'))
    (hstill : Host.Still Memory.permits s s') : Balanced capacity jobs (.seeking q :: rs) s' :=
  hs.swap (fun _ => rfl) (fun _ => rfl) trivial (traffic_of_permits hstill)
    (fun m _ => ages_of_permits hstill m) (hs.permitsAgree.shifts hshift rfl) hs.distinct hs.bound
      hs.counted

/-- **Refusing everybody.** -/
lemma refuse (hs : Balanced capacity jobs (.seeking .away :: rs) s) :
    Balanced capacity jobs (.seeking .away :: rs) (Semaphore.shutDown Memory.permits s) := by
  have hages : Ages s (Semaphore.shutDown Memory.permits s) :=
    ages_of_permits (Semaphore.Usable.still_updating _ s)
  exact hs.swap (fun _ => rfl) (fun _ => rfl) trivial (traffic_shutDown s) (fun m _ => hages m)
    ⟨hs.permitsAgree.permits.refuseAll, hs.permitsAgree.permitted⟩ hs.distinct hs.bound hs.counted

/-- **Opening a connection** with a permit. -/
lemma reach (hs : Balanced capacity jobs (.seeking .inside :: rs) s) :
    Balanced capacity jobs (.opened (s.traffic.linkCount + 1) false :: rs)
      (Memory.newLink true s).2 := by
  -- A number that nobody has had.
  have hnew : s.traffic.linkCount + 1
      ∉ rs.filterMap Role.open? ++ (tenancies jobs).map Prod.fst := fun hmem =>
    absurd (hs.bound _ hmem) (by omega)
  refine hs.swap (fun _ => rfl) (fun _ => rfl) trivial (traffic_newLink s) (fun m hm hended => ?_)
    (hs.permitsAgree.gain rfl rfl) (List.nodup_cons.mpr ⟨hnew, hs.distinct⟩) (fun m hm => ?_)
      hs.counted
  · rw [hasEnded_newLink]
    · exact hended
    · rintro rfl
      exact hnew (List.mem_append_right _ hm)
  · rcases List.mem_cons.mp hm with rfl | hm
    · exact Nat.le_refl _
    · exact Nat.le_succ_of_le (hs.bound m hm)

/-- **Letting go of a connection** that does not answer. -/
lemma part (hs : Balanced capacity jobs (.opened base false :: rs) s) :
    Balanced capacity jobs (.seeking .away :: rs) (Memory.drop base s) := by
  obtain ⟨hnot, hdistinct⟩ := List.nodup_cons.mp hs.distinct
  have hmine : s.traffic.permitted base = true :=
    (hs.permitsAgree.permitted base).mpr List.mem_cons_self
  refine hs.swap (fun _ => rfl) (fun _ => rfl) trivial (traffic_drop hmine)
    (fun m _ => ages_drop base s m) (hs.permitsAgree.lose (fun hmem => hnot ?_) rfl rfl) hdistinct
    (fun m hm => hs.bound m (List.mem_cons_of_mem _ hm)) hs.counted
  exact (List.Sublist.append_left (unreturned_subset jobs s) _).subset hmem

/-- **Counting a connection.** -/
lemma count (hs : Balanced capacity jobs (.opened base false :: rs) s) :
    Balanced capacity jobs (.opened base true :: rs)
      (MemoryHost.accounts.modify (fun a => { a with acquired := a.acquired + 1 }) s) := by
  refine hs.swap (fun _ => rfl) (fun _ => rfl) trivial rfl (fun _ _ => id)
    (hs.permitsAgree.of_eq rfl rfl) hs.distinct hs.bound ?_
  rw [List.countP_cons_of_pos rfl, ← Nat.add_assoc]
  exact congrArg (· + 1) hs.counted

/-! ### Those who have a lease -/

lemma stages_eq_nil (hs : Balanced capacity jobs roles s)
    (hnumber : ∀ base, (base, number) ∉ tenancies jobs) :
    roles.filterMap (Role.stageOn number) = [] := by
  refine List.filterMap_eq_nil_iff.mpr fun r hr => ?_
  cases r with
  | leased base l p held loyal =>
    refine if_neg ?_
    rintro rfl
    exact hnumber base (hs.fits _ hr).1
  | _ => rfl

lemma sound_startWatchedLease (base : Nat) (s : World) {called : Prop} (hcalled : ¬called) :
    Aspect.Sound called [{}] ((Memory.pool.lease base s.traffic.leaseCount).aspect
      (.watch base s.traffic.leaseCount) (Pool.startWatchedLease base s).2) := by
  have hcell : (Memory.pool.lease base s.traffic.leaseCount : Lease World).cell.get
      (Pool.startWatchedLease base s).2 = {} := (LeaseHost.leases s.leaseCount).get_set {} s
  have hdue : ∃ n, Company.Due n (.watch base s.traffic.leaseCount)
      (Pool.startWatchedLease base s).2 := Company.due_spawn _ _
  rw [Lease.aspect, hcell]
  refine ⟨.fresh_free 1 rfl rfl, rfl, ?_, ⟨by simp, by simp⟩⟩
  constructor <;> simp [LeaseState.aspect, Status.isTerminal, hcalled]
  exact .inl hdue

/-- **A lease that a step does not touch** stays in order, whatever becomes due elsewhere. -/
lemma sound_beside (hs : Balanced capacity jobs (r :: rs) s) {x : Nat × Nat} {more : List Job}
    (hx : x ∈ tenancies jobs) (hr : r.stageOn x.2 = none) (hr' : r'.stageOn x.2 = none)
    (hlease : s'.traffic.leases x.2 = s.traffic.leases x.2)
    (hended : s.hasEnded x.1 = true → s'.hasEnded x.1 = true)
    (hdue : ∀ entry ∈ s.traffic.due, entry ∈ s'.traffic.due)
    (hmore : Job.close x.1 x.2 ∉ more) :
    Aspect.Sound (.close x.1 x.2 ∈ jobs ++ more) ((r' :: rs).filterMap (Role.stageOn x.2))
      ((Memory.pool.lease x.1 x.2).aspect (.watch x.1 x.2) s') := by
  have hsound := hs.leases x hx
  rw [List.filterMap_cons_none hr] at hsound
  rw [List.filterMap_cons_none hr']
  refine (hsound.grows (grows_of_traffic hlease hended fun job _ => ?_)).recount fun hclose => ?_
  · rintro ⟨n, hn⟩
    exact ⟨n, hdue _ hn⟩
  · exact .inl ((List.mem_append.mp hclose).resolve_right hmore)

/-! ### Starting a lease -/

section Start

/-- The number of the next lease is new. -/
lemma not_tenancy (hs : Balanced capacity jobs roles s) (m : Nat) :
    (m, s.traffic.leaseCount) ∉ tenancies jobs :=
  fun hm => Nat.lt_irrefl _ (hs.below _ hm)

lemma tenancies_watch (jobs : List Job) (base number : Nat) :
    tenancies (jobs ++ [.watch base number]) = tenancies jobs ++ [(base, number)] :=
  tenancies_append _ _

lemma leases_startWatchedLease (hs : Balanced capacity jobs roles s) (base : Nat) {x : Nat × Nat}
    (hx : x ∈ tenancies jobs) :
    (Pool.startWatchedLease base s).2.traffic.leases x.2 = s.traffic.leases x.2 := by
  rw [traffic_startWatchedLease]
  exact Function.update_of_ne (Nat.ne_of_lt (hs.below x hx)) _ _

/-- **The new lease has not given its connection back**; of the others nothing has changed. -/
lemma unreturned_startWatchedLease (hs : Balanced capacity jobs roles s) (base : Nat) :
    unreturned (jobs ++ [.watch base s.traffic.leaseCount]) (Pool.startWatchedLease base s).2
      = unreturned jobs s ++ [(base, s.traffic.leaseCount)] := by
  have hmine : (Pool.startWatchedLease base s).2.traffic.leases s.traffic.leaseCount = {} := by
    rw [traffic_startWatchedLease]
    exact Function.update_self ..
  rw [unreturned, tenancies_watch, List.filter_append, List.filter_singleton, hmine]
  refine congrArg (· ++ _) (List.filter_congr fun x hx => ?_)
  rw [hs.leases_startWatchedLease base hx]

lemma due_startWatchedLease (hs : Balanced capacity jobs roles s) (base : Nat)
    {entry : TaskId × Job} (hentry : entry ∈ (Pool.startWatchedLease base s).2.traffic.due)
    {b l : Nat} (hjob : entry.2 = .watch b l ∨ entry.2 = .close b l) :
    (b, l) ∈ tenancies (jobs ++ [.watch base s.traffic.leaseCount]) := by
  rw [tenancies_watch]
  rw [traffic_startWatchedLease] at hentry
  rcases List.mem_append.mp hentry with hentry | hentry
  · exact List.mem_append_left _ (hs.due entry hentry b l hjob)
  · rw [List.mem_singleton.mp hentry] at hjob
    simp only [Job.watch.injEq, reduceCtorEq, or_false] at hjob
    rw [← hjob.1, ← hjob.2]
    exact List.mem_append_right _ List.mem_cons_self

/-- What is true of the other tasks stays true. -/
lemma fits_startWatchedLease (hs : Balanced capacity jobs roles s) (base : Nat) (hr : r ∈ roles) :
    r.Fits (jobs ++ [.watch base s.traffic.leaseCount])
      (Pool.startWatchedLease base s).2.traffic.leases := by
  have hfits := hs.fits r hr
  cases r with
  | leased b l p held loyal =>
    obtain ⟨hin, hmodest, hloyal, hheld⟩ := hfits
    refine ⟨tenancies_watch jobs base _ ▸ List.mem_append_left _ hin, hmodest, hloyal, fun h => ?_⟩
    rw [hs.leases_startWatchedLease base hin]
    exact hheld h
  | _ => trivial

/-- **On the new lease there is nobody** whom the others have to count on. -/
lemma stages_startWatchedLease (hs : Balanced capacity jobs (r :: rs) s) {errand : Errand}
    (herrand : errand = .bystander ∨ errand = .pledged) :
    (Role.leased base s.traffic.leaseCount { errand } false false :: rs).filterMap
      (Role.stageOn s.traffic.leaseCount) = [{}] := by
  have hstays : ∀ q ∈ rs, q.stageOn s.traffic.leaseCount = none := fun q hq =>
    List.filterMap_eq_nil_iff.mp (hs.stages_eq_nil hs.not_tenancy) q (List.mem_cons_of_mem _ hq)
  have hfirst : (Role.leased base s.traffic.leaseCount { errand } false false).stageOn
      s.traffic.leaseCount = some {} := by
    rcases herrand with rfl | rfl <;> simp [Role.stageOn, Stage.countedOn]
  rw [List.filterMap_cons_some hfirst, List.filterMap_eq_nil_iff.mpr hstays]

/-- **All leases are in order**, also the new one. -/
lemma sound_of_startWatchedLease (hs : Balanced capacity jobs (.opened base true :: rs) s)
    {errand : Errand} (herrand : errand = .bystander ∨ errand = .pledged) {x : Nat × Nat}
    (hx : x ∈ tenancies (jobs ++ [.watch base s.traffic.leaseCount])) :
    Aspect.Sound (.close x.1 x.2 ∈ jobs ++ [.watch base s.traffic.leaseCount])
      ((Role.leased base s.traffic.leaseCount { errand } false false :: rs).filterMap
        (Role.stageOn x.2))
      ((Memory.pool.lease x.1 x.2).aspect (.watch x.1 x.2) (Pool.startWatchedLease base s).2) := by
  rw [tenancies_watch] at hx
  rcases List.mem_append.mp hx with hx | hx
  · refine hs.sound_beside hx rfl (if_neg (Nat.ne_of_gt (hs.below x hx)))
      (hs.leases_startWatchedLease base hx) id (fun entry hentry => ?_) (by simp)
    rw [traffic_startWatchedLease]
    exact List.mem_append_left _ hentry
  · rw [List.mem_singleton.mp hx, hs.stages_startWatchedLease herrand]
    refine sound_startWatchedLease base s fun hclose => ?_
    rcases List.mem_append.mp hclose with hclose | hclose
    · exact hs.not_tenancy _ (hs.asked _ _ hclose)
    · simp at hclose

/-- **Starting a lease.** -/
lemma lease (hs : Balanced capacity jobs (.opened base true :: rs) s) {errand : Errand}
    (herrand : errand = .bystander ∨ errand = .pledged) :
    Balanced capacity (jobs ++ [.watch base s.traffic.leaseCount])
      (.leased base s.traffic.leaseCount { errand } false false :: rs)
      (Pool.startWatchedLease base s).2 := by
  have htraffic := traffic_startWatchedLease base s
  have hlent := tenancies_watch jobs base s.traffic.leaseCount
  have hunreturned := hs.unreturned_startWatchedLease base
  have hopen' : (Role.leased base s.traffic.leaseCount { errand } false false :: rs).filterMap
      Role.open? = rs.filterMap Role.open? := rfl
  -- The connection is no longer one that has been opened, but one that has been lent.
  have hmoves : ∀ ms : List Nat, (base :: rs.filterMap Role.open? ++ ms).Perm
      (rs.filterMap Role.open? ++ (ms ++ [base])) := by
    intro ms
    rw [← List.append_assoc, List.cons_append]
    exact (List.perm_append_singleton _ _).symm
  refine ⟨?_, ?_, ?_, ?_, ?_, fun x hx => ?_,
    fun entry hentry b l => hs.due_startWatchedLease base hentry, fun b l hclose => ?_,
    fun r hr => ?_, fun x => hs.sound_of_startWatchedLease herrand⟩
  · rw [hunreturned, hopen', List.map_append]
    refine (hs.permitsAgree.perm (List.Perm.refl _) (hmoves _)).of_eq ?_ ?_ <;> rw [htraffic]
  · rw [hlent, hopen', List.map_append]
    exact (hmoves _).nodup_iff.mp hs.distinct
  · rw [hlent, hopen', List.map_append, htraffic]
    exact fun m hm => hs.bound m ((hmoves _).mem_iff.mpr hm)
  · rw [hunreturned, htraffic, List.length_append, List.countP_cons_of_neg (by simp [Role.counted])]
    have hcounted := hs.counted
    rw [List.countP_cons_of_pos rfl] at hcounted
    simp only [List.length_singleton]
    omega
  · rw [hlent, List.map_append]
    refine List.nodup_append_comm.mp (List.nodup_cons.mpr ⟨fun hmem => ?_, hs.numbers⟩)
    obtain ⟨⟨m, l⟩, hx, heq⟩ := List.mem_map.mp hmem
    obtain rfl : l = s.traffic.leaseCount := heq
    exact hs.not_tenancy m hx
  · rw [htraffic]
    rw [hlent] at hx
    rcases List.mem_append.mp hx with hx | hx
    · exact Nat.lt_succ_of_lt (hs.below x hx)
    · rw [List.mem_singleton.mp hx]
      exact Nat.lt_succ_self _
  · rw [hlent]
    rcases List.mem_append.mp hclose with hclose | hclose
    · exact List.mem_append_left _ (hs.asked b l hclose)
    · simp at hclose
  · rcases List.mem_cons.mp hr with rfl | hr
    · refine ⟨hlent ▸ List.mem_append_right _ List.mem_cons_self, ⟨rfl, by simp⟩,
        fun _ => ?_, by simp⟩
      rcases herrand with rfl | rfl <;> simp
    · exact hs.fits_startWatchedLease base (List.mem_cons_of_mem _ hr)

end Start

lemma lent_closes {added : List (TaskId × Job)}
    (hadded : ∀ entry ∈ added, entry.2 = .close base number) :
    tenancies (jobs ++ added.map Prod.snd) = tenancies jobs := by
  rw [tenancies_append]
  refine (congrArg _ (List.filterMap_eq_nil_iff.mpr fun job hjob => ?_)).trans (List.append_nil _)
  obtain ⟨entry, hentry, rfl⟩ := List.mem_map.mp hjob
  rw [hadded entry hentry]
  rfl

section Use

variable {p q : Stage} {held held' loyal : Bool} {state : LeaseState} {permitted : Nat → Bool}
  {accounts : Memory.Accounts} {journal : List Memory.Call} {added : List (TaskId × Job)}

lemma sight_of_stages (hs : Balanced capacity jobs roles s) {l : Nat} :
    ∀ t ∈ roles.filterMap (Role.stageOn l), t.sight ≠ .open := by
  intro t ht
  obtain ⟨r, hr, heq⟩ := List.mem_filterMap.mp ht
  cases r with
  | leased b m p held loyal =>
    have hfits := hs.fits _ hr
    simp only [Role.stageOn, Option.ite_none_right_eq_some, Option.some.injEq] at heq
    rw [← heq.2, Stage.countedOn_sight]
    exact hfits.2.1.2
  | _ => cases heq

/-- Of the jobs that close a lease, only this one may become due. -/
lemma eq_of_close_added {b l : Nat} (hadded : ∀ entry ∈ added, entry.2 = .close base number)
    (h : .close b l ∈ added.map Prod.snd) : b = base ∧ l = number := by
  obtain ⟨entry, hentry, heq⟩ := List.mem_map.mp h
  rw [hadded entry hentry, Job.close.injEq] at heq
  exact ⟨heq.1.symm, heq.2.symm⟩

/-- What is true of the others on the lease stays true, since none of them has its connection. -/
lemma fits_tend (hs : Balanced capacity jobs (.leased base number p held loyal :: rs) s)
    (hstep : p.Step ((Memory.pool.lease base number).aspect (.watch base number) s) q
      ((Memory.pool.lease base number).aspect (.watch base number) s'))
    (hothers : ∀ l, l ≠ number → s'.traffic.leases l = s.traffic.leases l)
    (hadded : ∀ entry ∈ added, entry.2 = .close base number) (hr : r ∈ rs) :
    r.Fits (jobs ++ added.map Prod.snd) s'.traffic.leases := by
  have hin := (hs.fits _ List.mem_cons_self).1
  have hfits := hs.fits r (List.mem_cons_of_mem _ hr)
  cases r with
  | leased b l t held' loyal' =>
    obtain ⟨hin', hmodest, hloyal, hheld⟩ := hfits
    refine ⟨(lent_closes hadded).symm ▸ hin', hmodest, hloyal, fun h => ?_⟩
    by_cases hl : l = number
    · subst hl
      obtain rfl := hs.base_eq hin hin'
      have hmine := hs.leases _ hin
      rw [List.filterMap_cons_some (Role.stageOn_self ..)] at hmine
      have hmem : t.countedOn loyal' ∈ rs.filterMap (Role.stageOn l) :=
        List.mem_filterMap.mpr ⟨_, hr, if_pos rfl⟩
      exact Stage.Grasps.countedOn.mp
        (hmine.grasps_of_step hstep hmem (Stage.Grasps.countedOn.mpr (hheld h)))
    · rw [hothers l hl]
      exact hheld h
  | _ => trivial

/-- **The lease that somebody works on stays in order.** -/
lemma sound_tend (hs : Balanced capacity jobs (.leased base number p held loyal :: rs) s)
    (hstep : p.Step ((Memory.pool.lease base number).aspect (.watch base number) s) q
      ((Memory.pool.lease base number).aspect (.watch base number) s'))
    (hdue : ∀ entry ∈ added, entry ∈ s'.traffic.due) :
    Aspect.Sound (.close base number ∈ jobs ++ added.map Prod.snd)
      ((Role.leased base number q held' loyal :: rs).filterMap (Role.stageOn number))
      ((Memory.pool.lease base number).aspect (.watch base number) s') := by
  obtain ⟨hin, -, hloyal, -⟩ := hs.fits _ List.mem_cons_self
  have hmine := hs.leases _ hin
  have hsights := hs.sight_of_stages (l := number)
  rw [List.filterMap_cons_some (Role.stageOn_self ..)] at hmine hsights
  rw [List.filterMap_cons_some (Role.stageOn_self ..)]
  have hsound := hmine.step_countedOn hstep (fun h => (hloyal h).2) fun t ht =>
    hsights t (List.mem_cons_of_mem _ ht)
  refine hsound.recount fun hclose => ?_
  rcases List.mem_append.mp hclose with hclose | hclose
  · exact .inl hclose
  · obtain ⟨⟨n, job⟩, hentry, rfl⟩ := List.mem_map.mp hclose
    exact .inr (.inr ⟨n, Company.due_iff.mpr (hdue _ hentry)⟩)

/-- **Working on a lease**, as far as the lease is concerned. -/
lemma tend (hs : Balanced capacity jobs (.leased base number p held loyal :: rs) s)
    (hstep : p.Step ((Memory.pool.lease base number).aspect (.watch base number) s) q
      ((Memory.pool.lease base number).aspect (.watch base number) s'))
    (hheld : held' = true → q.Grasps (s'.traffic.leases number).holdsBase)
    (hadded : ∀ entry ∈ added, entry.2 = .close base number)
    (htraffic : s'.traffic = { s.traffic with
      journal, permitted, accounts
      leases := Function.update s.traffic.leases number state
      due := s.traffic.due ++ added })
    (hages : Ages s s')
    (hpermitsAgree : Traffic.PermitsAgree capacity (rs.map Role.place)
      (rs.filterMap Role.open? ++ (unreturned jobs s').map Prod.fst) s'.traffic)
    (hcounted : accounts.acquired
      = accounts.released + (unreturned jobs s').length + rs.countP Role.counted) :
    Balanced capacity (jobs ++ added.map Prod.snd)
      (.leased base number q held' loyal :: rs) s' := by
  obtain ⟨hin, hmodest, hloyal, -⟩ := hs.fits _ List.mem_cons_self
  have hlent : tenancies (jobs ++ added.map Prod.snd) = tenancies jobs := lent_closes hadded
  have hunreturned : unreturned (jobs ++ added.map Prod.snd) s' = unreturned jobs s' := by
    rw [unreturned, hlent, unreturned]
  have hothers : ∀ l, l ≠ number → s'.traffic.leases l = s.traffic.leases l := by
    intro l hl
    rw [htraffic]
    exact Function.update_of_ne hl _ _
  have hdue : s'.traffic.due = s.traffic.due ++ added := congrArg Traffic.due htraffic
  refine ⟨?_, ?_, ?_, ?_, ?_, ?_, fun entry hentry b l hjob => ?_, fun b l hclose => ?_,
    fun r hr => ?_, fun x hx => ?_⟩
  · rw [hunreturned]
    exact Traffic.PermitsAgree.cons_away.mpr hpermitsAgree
  · rw [hlent]
    exact hs.distinct
  · rw [hlent, htraffic]
    exact hs.bound
  · rw [hunreturned, htraffic]
    exact hcounted
  · rw [hlent]
    exact hs.numbers
  · rw [hlent, htraffic]
    exact hs.below
  · rw [hlent]
    rw [hdue] at hentry
    rcases List.mem_append.mp hentry with hentry | hentry
    · exact hs.due entry hentry b l hjob
    · rw [hadded entry hentry] at hjob
      simp only [reduceCtorEq, Job.close.injEq, false_or] at hjob
      rwa [← hjob.1, ← hjob.2]
  · rw [hlent]
    rcases List.mem_append.mp hclose with hclose | hclose
    · exact hs.asked b l hclose
    · obtain ⟨rfl, rfl⟩ := eq_of_close_added hadded hclose
      exact hin
  · rcases List.mem_cons.mp hr with rfl | hother
    · exact ⟨hlent ▸ hin, hstep.modest hmodest, fun h => hstep.unalarmed (hloyal h), hheld⟩
    · exact hs.fits_tend hstep hothers hadded hother
  · rw [hlent] at hx
    by_cases hl : x.2 = number
    · obtain ⟨b, l⟩ := x
      obtain rfl : l = number := hl
      obtain rfl := hs.base_eq hin hx
      exact hs.sound_tend hstep fun entry hentry => hdue ▸ List.mem_append_right _ hentry
    · refine hs.sound_beside hx (if_neg (Ne.symm hl)) (if_neg (Ne.symm hl)) (hothers x.2 hl)
        (hages x.1) (fun entry hentry => hdue ▸ List.mem_append_left _ hentry) fun hclose => ?_
      exact hl (eq_of_close_added hadded hclose).2

lemma bases_nodup (hs : Balanced capacity jobs roles s) :
    (roles.filterMap Role.open? ++ (unreturned jobs s).map Prod.fst).Nodup :=
  hs.distinct.sublist (List.Sublist.append_left (unreturned_subset jobs s) _)

lemma unreturned_perm (hs : Balanced capacity jobs roles s) (hin : (base, number) ∈ tenancies jobs)
    (hlistening : (s.traffic.leases number).listening = true)
    (hback : (s'.traffic.leases number).listening = false)
    (hothers : ∀ l, l ≠ number → s'.traffic.leases l = s.traffic.leases l) :
    (unreturned jobs s).Perm ((base, number) :: unreturned jobs s') := by
  have hnodup : (unreturned jobs s).Nodup := (List.Nodup.of_map _ hs.numbers).filter _
  have hmem : (base, number) ∈ unreturned jobs s := List.mem_filter.mpr ⟨hin, hlistening⟩
  have herase : unreturned jobs s' = (unreturned jobs s).erase (base, number) := by
    rw [hnodup.erase_eq_filter, unreturned, unreturned, List.filter_filter]
    refine List.filter_congr fun x hx => ?_
    by_cases hx' : x.2 = number
    · have hsame : x = (base, number) := List.inj_on_of_nodup_map hs.numbers hx hin hx'
      simp [hsame, hback]
    · have hdiffers : x ≠ (base, number) := fun heq => hx' (congrArg Prod.snd heq)
      simp [hothers x.2 hx', hdiffers]
  rw [herase]
  exact List.perm_cons_erase hmem

/-- **Giving a connection back**, after some last calls: its permit goes to those who wait for one.
-/
lemma traffic_giveBack (hs : Balanced capacity jobs (.leased base number p held loyal :: rs) s)
    {m : World}
    {calls : List Memory.Call} (hworks : Works base calls s m)
    (hlistening : (s.traffic.leases number).listening = true) :
    ((Memory.pool.lease base number).release m).traffic = { s.traffic with
      journal := s.traffic.journal ++ calls
      permitted := Function.update s.traffic.permitted base false
      accounts := { s.traffic.accounts with
        permits := s.traffic.accounts.permits.handOver.2
        released := s.traffic.accounts.released + 1 }
      leases := Function.update s.traffic.leases number
        { s.traffic.leases number with listening := false }
      due := s.traffic.due ++ [] } := by
  have hin := (hs.fits _ List.mem_cons_self).1
  have hpermitted : s.traffic.permitted base = true := by
    refine (hs.permitsAgree.permitted base).mpr (List.mem_append_right _ ?_)
    exact List.mem_map_of_mem (List.mem_filter.mpr ⟨hin, hlistening⟩)
  have hm := hworks.traffic
  rw [traffic_release (by rw [hm]; exact hlistening) (by rw [hm]; exact hpermitted), hm,
    List.append_nil]

/-- **Working on a lease**, and giving its connection back. -/
lemma use (hs : Balanced capacity jobs (.leased base number p held loyal :: rs) s)
    (hmay : (handling base number).may (p, held) s (q, held') s') :
    ∃ added, s'.traffic.due = s.traffic.due ++ added
      ∧ Balanced capacity (jobs ++ added.map Prod.snd)
        (.leased base number q held' loyal :: rs) s' := by
  obtain ⟨hstep, hhandles, hheld⟩ := hmay
  have hcounted := hs.counted
  rw [List.countP_cons_of_neg (by simp [Role.counted])] at hcounted
  cases hhandles with
  | work htends hworks hlistening =>
    obtain ⟨⟨state, added, hsame, hadded, hm⟩, hages⟩ := htends
    have htraffic := hworks.traffic
    rw [hm] at htraffic
    have hunreturned : unreturned jobs s' = unreturned jobs s := by
      refine List.filter_congr fun x _ => ?_
      rw [htraffic]
      show (Function.update s.traffic.leases number state x.2).listening = _
      rw [Function.update_apply]
      split
      next heq => rw [hsame, heq]
      next => rfl
    refine ⟨added, by rw [htraffic], hs.tend hstep hheld hadded htraffic (hages.trans hworks.ages)
      ?_ ?_⟩
    · rw [hunreturned]
      exact (Traffic.PermitsAgree.cons_away.mp hs.permitsAgree).of_eq (by rw [htraffic])
        (by rw [htraffic])
    · rw [hunreturned]
      exact hcounted
  | @giveBack m calls hworks hlistening =>
    have hin := (hs.fits _ List.mem_cons_self).1
    have htraffic := hs.traffic_giveBack hworks hlistening
    have hleases := congrArg Traffic.leases htraffic
    have hperm : (unreturned jobs s).Perm
        ((base, number) :: unreturned jobs ((Memory.pool.lease base number).release m)) := by
      refine hs.unreturned_perm hin hlistening ?_ fun l hl => ?_
      · exact congrArg LeaseState.listening
          ((congrFun hleases number).trans (Function.update_self ..))
      · exact (congrFun hleases l).trans (Function.update_of_ne hl _ _)
    have hbases : ((Role.leased base number p held loyal :: rs).filterMap Role.open?
        ++ (unreturned jobs s).map Prod.fst).Perm (base :: (rs.filterMap Role.open?
        ++ (unreturned jobs ((Memory.pool.lease base number).release m)).map Prod.fst)) :=
      ((hperm.map _).append_left _).trans List.perm_middle
    refine ⟨[], by rw [htraffic], hs.tend hstep hheld (by simp) htraffic
      (hworks.ages.trans (ages_release base number m)) ?_ ?_⟩
    · have hpermitsAgree := hs.permitsAgree.perm (List.Perm.refl _) hbases
      refine Traffic.PermitsAgree.cons_away.mp (hpermitsAgree.lose ?_ ?_ ?_)
      · exact (List.nodup_cons.mp (hbases.nodup_iff.mp hs.bases_nodup)).1
      · rw [htraffic]
      · rw [htraffic]
    · have hlength := hperm.length_eq
      simp only [List.length_cons] at hlength
      dsimp only
      omega

end Use

/-! ### Whatever is done -/

/-- **Whatever is done, they go on agreeing.** -/
theorem deal (hs : Balanced capacity jobs (r :: rs) s) (h : Deal r s r' s') :
    ∃ added, s'.traffic.due = s.traffic.due ++ added
      ∧ Balanced capacity (jobs ++ added.map Prod.snd) (r' :: rs) s' := by
  have hnothing : s'.traffic.due = s.traffic.due → Balanced capacity jobs (r' :: rs) s' →
      ∃ added, s'.traffic.due = s.traffic.due ++ added
        ∧ Balanced capacity (jobs ++ added.map Prod.snd) (r' :: rs) s' := by
    intro hdue hs'
    exact ⟨[], hdue.trans (List.append_nil _).symm, by rwa [List.map_nil, List.append_nil]⟩
  cases h with
  | aside h => exact hnothing (congrArg Traffic.due h.traffic) (hs.idle h.traffic h.ages)
  | ask hshift hstill =>
    exact hnothing (by rw [traffic_of_permits hstill]) (hs.ask hshift hstill)
  | refuse => exact hnothing (by rw [traffic_shutDown]) hs.refuse
  | reach => exact hnothing (by rw [traffic_newLink]) hs.reach
  | call h => exact hnothing (by rw [h.traffic]) (hs.idle h.traffic h.ages)
  | part =>
    have hmine : s.traffic.permitted _ = true :=
      (hs.permitsAgree.permitted _).mpr List.mem_cons_self
    exact hnothing (by rw [traffic_drop hmine]) hs.part
  | count => exact hnothing rfl hs.count
  | lease herrand =>
    have hlease := hs.lease herrand
    exact ⟨[(s.schedule.nextTask, _)], by rw [traffic_startWatchedLease], hlease⟩
  | use hmay => exact hs.use hmay

/-- **So they do whatever is done one after the other**, wherever the task is listed. -/
theorem may {awaited : (World → Bool) → Prop} (before after : List Role)
    (hs : Balanced capacity jobs (before ++ r :: after) s) (h : (trade awaited).may r s r' s') :
    Balanced capacity (jobs ++ newJobs s s') (before ++ r' :: after) s' := by
  suffices hall : ∀ y : Role × World,
      Relation.ReflTransGen (fun x y : Role × World => Deal x.1 x.2 y.1 y.2) (r, s) y →
      ∃ added, y.2.traffic.due = s.traffic.due ++ added
        ∧ Balanced capacity (jobs ++ added.map Prod.snd) (y.1 :: (before ++ after)) y.2 by
    obtain ⟨added, hdue, hs'⟩ := hall (r', s') h
    have hnew : newJobs s s' = added.map Prod.snd := by
      rw [newJobs, hdue, List.drop_left]
    rw [hnew]
    exact hs'.perm List.perm_middle.symm
  intro y hy
  induction hy with
  | refl => exact ⟨[], (List.append_nil _).symm, by simpa using hs.perm List.perm_middle⟩
  | tail _ hdeal ih =>
    obtain ⟨added, hdue, hs'⟩ := ih
    obtain ⟨added', hdue', hs''⟩ := hs'.deal hdeal
    refine ⟨added ++ added', by rw [hdue', hdue, List.append_assoc], ?_⟩
    rwa [List.map_append, ← List.append_assoc]

end Balanced

end World

end Transactional
