import Transactional.Proofs.Lease.Release
import Transactional.Proofs.Lease.Visitors

/-!
# What is true of the visitors of a lease

One of the visitors is of particular interest; the others are not told apart.

* `Pool.Orderly` — what is true of all visitors; `Pool.Orderly.step` says that it stays true,
  whoever moves.
* `Pool.Attended` — what is true of the visitor of interest, also when it finds the lease closed.
* `Pool.Unaware.upheld` — every change made by the others upholds it.
-/

namespace Transactional

lemma Stage.Step.bystander {p q : Stage} {a b : Aspect} (h : p.Step a q b)
    (hp : p.errand = .bystander) : q.errand = .bystander := by
  obtain ⟨m, hdoes, -⟩ := h
  cases hdoes with
  | nothing | lock | look | blink => exact hp
  | _ => simp_all

namespace Pool

variable [LeaseHost σ]

/-- **What is true of all visitors**: nobody relies on not being interrupted, the lease and the
stages of all tasks agree, whoever is or may come inside has the connection in hand, all visits are
over but those of the visitors who are inside, and the pool has got the connection back if the lease
no longer listens. -/
structure Orderly (pool : Pool σ) (base number : Nat) (diary : Cell σ (List Visit))
    (ys : List (Stage × Bool × Post)) (s : σ) : Prop where
  modest : ∀ y ∈ ys, y.1.Modest
  sound : Aspect.Sound False (ys.map Prod.fst)
    ((pool.lease base number).aspect (.watch base number) s)
  grasps : ∀ y ∈ ys, y.2.2 = .admitted ∨ y.2.2 = .inside →
    y.1.Grasps ((LeaseHost.leases number).get s).holdsBase
  balanced : ∀ m, (diary.get s).count (.enters m)
    = (diary.get s).count (.leaves m) + ys.countP fun y => y.2.1 = m ∧ y.2.2 = .inside
  received : ((LeaseHost.leases number).get s).listening = true ∧ .back ∉ diary.get s
    ∨ ((LeaseHost.leases number).get s).listening = false
      ∧ ∃ before, diary.get s = before ++ [.back] ∧ .back ∉ before

/-- **What is true of the visitor of interest**, beside the others.  If it is `barred`, the lease is
closed and it has not come in. -/
structure Attended (pool : Pool σ) (base number : Nat) (diary : Cell σ (List Visit)) (barred : Prop)
    (x : Stage × Bool × Post) (xs : List (Stage × Bool × Post)) (s : σ) : Prop where
  orderly : pool.Orderly base number diary (x :: xs) s
  mine : x.2.1 = true
  others : ∀ y ∈ xs, y.2.1 = false
  bystander : x.1.errand = .bystander
  entered : x.2.2 = .inside ∨ x.2.2 = .gone → .enters true ∈ diary.get s
  unentered : x.2.2 = .outside → .enters true ∉ diary.get s
  barred : barred → ((LeaseHost.leases number).get s).closed = true ∧ x.2.2 = .outside

/-! ## What is true at each moment -/

variable {pool : Pool σ} {base number : Nat} {diary : Cell σ (List Visit)} {asked : LeaseCall}
  {barred : Prop} {x x' y y' : Stage × Bool × Post} {xs back : List (Stage × Bool × Post)}
    {s s' : σ}

namespace Orderly

lemma knows (ho : pool.Orderly base number diary xs s) (hy : y ∈ xs) :
    (pool.visitors base number diary).knows y s := by
  have hp := List.mem_map_of_mem (f := Prod.fst) hy
  exact ⟨ho.sound.knows hp, ho.sound.agrees.holding,
    fun h => ⟨ho.grasps y hy h, ho.sound.listening_of_grasps hp (ho.grasps y hy h)⟩⟩

/-- **Whoever moves, it stays true.** -/
lemma step (front : List (Stage × Bool × Post))
    (ho : pool.Orderly base number diary (front ++ y :: back) s)
    (hmay : (pool.visitors base number diary).may y s y' s') :
    pool.Orderly base number diary (front ++ y' :: back) s' := by
  obtain ⟨hmodest, hsound, hgrasps, hbalanced, hreceived⟩ := id ho
  obtain ⟨more, hmore, hpasses⟩ := hmay.2.notes
  rw [List.map_append, List.map_cons] at hsound
  have hothers : ∀ z ∈ front ++ back, z ∈ front ++ y :: back := by
    intro z hz
    rcases List.mem_append.mp hz with hz | hz <;> simp [hz]
  have hperm : (front.map Prod.fst ++ y.1 :: back.map Prod.fst).Perm
      (y.1 :: (front ++ back).map Prod.fst) := by
    rw [List.map_append]
    exact List.perm_middle
  have hcases : ∀ z ∈ front ++ y' :: back, z = y' ∨ z ∈ front ++ back := by
    intro z hz
    simp only [List.mem_append, List.mem_cons] at hz ⊢
    tauto
  refine ⟨fun z hz => ?_, ?_, fun z hz hpost => ?_, fun m => ?_, ?_⟩
  · rcases hcases z hz with rfl | hz
    · exact hmay.1.modest (hmodest y (by simp))
    · exact hmodest z (hothers z hz)
  · rw [List.map_append, List.map_cons]
    refine hsound.step hmay.1 fun r hr => ?_
    rw [← List.map_append] at hr
    obtain ⟨z, hz, rfl⟩ := List.mem_map.mp hr
    exact (hmodest z (hothers z hz)).2
  · rcases hcases z hz with rfl | hz
    · exact hmay.2.grasps hpost
    · have hfirst : Aspect.Sound False (y.1.countedOn true :: (front ++ back).map Prod.fst)
          ((pool.lease base number).aspect (.watch base number) s) := by
        rw [show y.1.countedOn true = y.1 from if_neg (by simp)]
        exact hsound.perm hperm
      exact hfirst.grasps_of_step hmay.1
        (List.mem_map_of_mem hz) (hgrasps z (hothers z hz) hpost)
  · have hcount := hpasses.count m
    have hbefore := hbalanced m
    have hmine := hmay.2.mine
    simp only [List.countP_append, List.countP_cons, decide_eq_true_eq] at hbefore ⊢
    rw [hmore, List.count_append, List.count_append, hmine]
    omega
  · obtain ⟨hdeaf, hlistens⟩ := hpasses.back
    rcases hreceived with ⟨hlistening, hnot⟩ | ⟨hlistening, before, hback, hnot⟩
    · rcases hlistens hlistening with ⟨hstill, hmore'⟩ | ⟨hover, before, rfl, hnot'⟩
      · exact .inl ⟨hstill, by simp [hmore, hnot, hmore']⟩
      · exact .inr ⟨hover, diary.get s ++ before, by rw [hmore, List.append_assoc], by
          simp [hnot, hnot']⟩
    · obtain ⟨hover, hquiet⟩ := hdeaf hlistening
      have hinside : y.2.2 ≠ .inside := by
        intro hinside
        have hlistening' := hsound.listening_of_grasps (r := y.1) (by simp)
          (hgrasps y (by simp) (.inr hinside))
        exact absurd (hlistening.symm.trans hlistening') (by simp)
      exact .inr ⟨hover, before, by rw [hmore, hquiet hinside, List.append_nil, hback], hnot⟩

lemma around {ys zs : List (Stage × Bool × Post)} (ho : pool.Orderly base number diary ys s)
    (hmodest : ∀ z ∈ zs, z ∈ ys ∨ z.1.Modest ∧ z.2.2 ≠ .admitted ∧ z.2.2 ≠ .inside)
    (hcount : ∀ m, zs.countP (fun z => z.2.1 = m ∧ z.2.2 = .inside)
      = ys.countP fun z => z.2.1 = m ∧ z.2.2 = .inside)
    (hsound : Aspect.Sound False (zs.map Prod.fst)
      ((pool.lease base number).aspect (.watch base number) s'))
    (hdiary : diary.get s' = diary.get s)
    (hholds : ((LeaseHost.leases number).get s').holdsBase
      = ((LeaseHost.leases number).get s).holdsBase)
    (hlistening : ((LeaseHost.leases number).get s').listening
      = ((LeaseHost.leases number).get s).listening) :
    pool.Orderly base number diary zs s' where
  modest z hz := (hmodest z hz).elim (ho.modest z) And.left
  sound := hsound
  grasps z hz hpost := by
    rw [hholds]
    refine (hmodest z hz).elim (fun hz => ho.grasps z hz hpost) fun h => ?_
    exact (hpost.elim h.2.1 h.2.2).elim
  balanced m := by
    rw [hdiary, hcount]
    exact ho.balanced m
  received := by
    rw [hdiary, hlistening]
    exact ho.received

lemma elsewhere {ys : List (Stage × Bool × Post)} (ho : pool.Orderly base number diary ys s)
    (h : pool.Elsewhere base number diary.get s s') : pool.Orderly base number diary ys s' :=
  ho.around (fun _ => .inl) (fun _ => rfl) (ho.sound.grows h.grows) h.heard
    (congrArg Aspect.holdsBase h.grows.eq) h.listening

/-- **When the pool has got the connection back nobody is inside.** -/
lemma nobody_inside {ys : List (Stage × Bool × Post)} (ho : pool.Orderly base number diary ys s)
    (h : ((LeaseHost.leases number).get s).listening = false) (m : Bool) :
    (diary.get s).count (.enters m) = (diary.get s).count (.leaves m) := by
  rw [ho.balanced, List.countP_eq_zero.mpr, Nat.add_zero]
  intro y hy hinside
  simp only [decide_eq_true_eq] at hinside
  have hlistening := ho.sound.listening_of_grasps (List.mem_map_of_mem (f := Prod.fst) hy)
    (ho.grasps y hy (.inr hinside.2))
  exact absurd (h.symm.trans hlistening) (by simp)

end Orderly

namespace Attended

variable (ha : pool.Attended base number diary barred x xs s)

include ha

lemma moves (hmay : (pool.visitors base number diary).may x s x' s') :
    pool.Attended base number diary barred x' xs s' := by
  obtain ⟨more, hmore, hpasses⟩ := hmay.2.notes
  have hbystander := hmay.1.bystander ha.bystander
  refine ⟨Orderly.step [] ha.orderly hmay, hmay.2.mine.trans ha.mine, ha.others, hbystander,
    fun hpost => ?_, fun houtside => ?_, fun h => ?_⟩
  · rw [hmore, List.mem_append]
    rcases hpasses.entered hpost with h | h | h
    · exact .inl (ha.entered (.inl h))
    · exact .inl (ha.entered (.inr h))
    · exact .inr (ha.mine ▸ h)
  · obtain ⟨hbefore, rfl⟩ := Passes.outside (houtside ▸ hpasses)
    rw [hmore, List.append_nil]
    exact ha.unentered hbefore
  · obtain ⟨hclosed, houtside⟩ := ha.barred h
    refine ⟨hmay.1.stays_closed hclosed, ?_⟩
    by_contra hne
    rcases hmay.2.comes houtside hne with hopen | hcarrier
    · exact absurd (hopen.symm.trans hclosed) (by simp)
    · exact absurd (hbystander.symm.trans hcarrier) (by simp)

lemma beside {before after : List (Stage × Bool × Post)} (hxs : xs = before ++ y :: after)
    (hmay : (pool.visitors base number diary).may y s y' s') :
    pool.Attended base number diary barred x (before ++ y' :: after) s' := by
  subst hxs
  obtain ⟨more, hmore, hpasses⟩ := hmay.2.notes
  have hother : y.2.1 = false := ha.others y (by simp)
  refine ⟨Orderly.step (x :: before) ha.orderly hmay, ha.mine, fun z hz => ?_, ha.bystander,
    fun hpost => ?_, fun houtside => ?_,
    fun h => ⟨hmay.1.stays_closed (ha.barred h).1, (ha.barred h).2⟩⟩
  · simp only [List.mem_append, List.mem_cons] at hz
    rcases hz with hz | rfl | hz
    · exact ha.others z (by simp [hz])
    · exact hmay.2.mine.trans hother
    · exact ha.others z (by simp [hz])
  · rw [hmore, List.mem_append]
    exact .inl (ha.entered hpost)
  · rw [hmore, List.mem_append]
    refine fun hmem => hmem.elim (ha.unentered houtside) fun hmem => ?_
    exact absurd (hother.symm.trans (hpasses.mine_of_enters hmem).symm) (by simp)

/-- What happens elsewhere, and to those who are not inside, is none of the visitor's business. -/
lemma around {xs' : List (Stage × Bool × Post)} (ho : pool.Orderly base number diary (x :: xs') s')
    (hothers : ∀ y ∈ xs', y.2.1 = false) (hdiary : diary.get s' = diary.get s)
    (hclosed : ((LeaseHost.leases number).get s').closed
      = ((LeaseHost.leases number).get s).closed) :
    pool.Attended base number diary barred x xs' s' := by
  refine ⟨ho, ha.mine, hothers, ha.bystander, ?_, ?_, ?_⟩
  · rw [hdiary]
    exact ha.entered
  · rw [hdiary]
    exact ha.unentered
  · rw [hclosed]
    exact ha.barred

lemma elsewhere (h : pool.Elsewhere base number diary.get s s') :
    pool.Attended base number diary barred x xs s' :=
  ha.around (ha.orderly.elsewhere h) ha.others h.heard (congrArg Aspect.closed h.grows.eq)

/-- **Somebody comes.** -/
lemma join {p : Stage} (hmodest : p.Modest)
    (hsound : Aspect.Sound False ((x :: xs).map Prod.fst ++ [p])
      ((pool.lease base number).aspect (.watch base number) s'))
    (hdiary : diary.get s' = diary.get s)
    (hlease : (LeaseHost.leases number).get s' = (LeaseHost.leases number).get s) :
    pool.Attended base number diary barred x (xs ++ [(p, false, .outside)]) s' := by
  refine ha.around (ha.orderly.around (fun z hz => ?_) (fun m => ?_) ?_ hdiary (by rw [hlease])
    (by rw [hlease])) (fun y hy => ?_) hdiary (by rw [hlease])
  · rcases List.mem_append.mp (List.cons_append ▸ hz : z ∈ (x :: xs) ++ [_]) with hz | hz
    · exact .inl hz
    · rw [List.mem_singleton.mp hz]
      exact .inr ⟨hmodest, by simp, by simp⟩
  · rw [← List.cons_append, List.countP_append]
    simp
  · rw [← List.cons_append, List.map_append]
    exact hsound
  · rcases List.mem_append.mp hy with hy | hy
    · exact ha.others y hy
    · rw [List.mem_singleton.mp hy]

lemma gone {before after : List (Stage × Bool × Post)} (hxs : xs = before ++ y :: after)
    (hy : Away y) :
    pool.Attended base number diary barred x (before ++ after) s := by
  subst hxs
  have hin : ∀ z ∈ before ++ after, z ∈ before ++ y :: after := by
    intro z hz
    rcases List.mem_append.mp hz with hz | hz <;> simp [hz]
  refine ha.around (ha.orderly.around (fun z hz => .inl ?_) (fun m => ?_) ?_ rfl rfl rfl)
    (fun z hz => ha.others z (hin z hz)) rfl rfl
  · rcases List.mem_cons.mp hz with rfl | hz
    · simp
    · exact List.mem_cons_of_mem _ (hin z hz)
  · simp [List.countP_cons, hy.2.2]
  · have hsound := ha.orderly.sound
    rw [← List.cons_append, List.map_append] at hsound ⊢
    exact hsound.leave hy.1

end Attended

namespace Unaware

variable (K : pool.Unaware base number diary)

include K

lemma call_keeps (call : LeaseCall) :
    Company.Keeps (pool.visitors base number diary) Away
      ⟨call.task ((pool.noted diary false).lease base number).connection, !call.ends⟩
      ({ errand := if call.ends then .pledged else .bystander }, false, .outside) := by
  rw [Company.Keeps, ← LeaseCall.answer_task]
  refine Task.Obeys.bind (Task.Obeys.mono (K.answer_visits false call) (fun _ _ h hends => ?_)
    fun _ _ => id) fun _ _ h => h.1
  exact (h (by simpa using hends)).2

/-- **Every change upholds what is true.** -/
lemma upheld (s s' : σ) :
    Company.Upheld (pool.visitors base number diary) (fun (_ : Unit) p => p = x) Away
      ((pool.noted diary false).Jobs base number) (pool.Attended base number diary barred)
      (pool.Attended base number diary barred) s s' where
  knows ha := ha.orderly.knows List.mem_cons_self
  knows_beside ha hq := ha.orderly.knows (List.mem_cons_of_mem _ hq)
  front ha hmay := ha.moves hmay
  beside _ ha hmay := ha.beside rfl hmay
  gone hover ha := ha.gone rfl hover
  start {p ps n job task} ha due hjob hs' := by
    subst hs'
    have hsound := ha.orderly.sound
    have hdiary : diary.get (Company.takeOff (.start n job) s) = diary.get s := K.diary_schedule _ s
    have hlease : (LeaseHost.leases number).get (Company.takeOff (.start n job) s)
        = (LeaseHost.leases number).get s := K.apart.schedule _ s
    rcases hjob with ⟨rfl, rfl⟩ | ⟨rfl, ownFirst, rfl⟩
    · exact ⟨({ errand := .pledged }, false, .outside),
        obeys_of_noted false (K.shutdown_visits rfl rfl rfl),
        ha.join ⟨rfl, by simp⟩ (sound_start hsound K.apart (.inl ⟨rfl, rfl⟩) n) hdiary hlease⟩
    · exact ⟨({ errand := .lookout }, false, .outside), K.watch_visits ownFirst,
        ha.join ⟨rfl, by simp⟩ (sound_start hsound K.apart (.inr ⟨rfl, rfl⟩) n) hdiary hlease⟩

end Unaware

end Pool

end Transactional
