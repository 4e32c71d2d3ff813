import Transactional.Proofs.Run.Story

/-!
# What stays true in a run

At each moment of a run's story the books of the run say what the journal says, and what has been
published; whoever looks after its lease closes it only when its connection has broken; and nobody
else closes it.

* `Run.Early` — what is true before the run has its lease.
* `Run.Proper` — what is true as soon as it has its lease, of the lease and of all tasks on it.
* `Run.Fits` — what is true in each phase.
* `Run.Story.kept` — it is true at each moment.
-/

namespace Transactional

namespace Run

variable {ρ : Type} {asked : Memory.Call → Prop} {base number : Nat} {heard : World → List ρ}
  {before : List ρ} {calls : List (Memory.Call × Bool)} {s s' : World} {q r : Stage} {b : Book ρ}
  {helpers left right : List Stage} {y : Stage × Part ρ}

/-- What the tasks on the lease agree about. -/
abbrev view (base number : Nat) (s : World) : Aspect :=
  (Memory.pool.lease base number).aspect (.watch base number) s

/-- **What is true before a run has its lease**: the journal says what the run has done, nothing has
been published, and nobody looks after the lease. -/
structure Early (base number : Nat) (heard : World → List ρ) (before : List ρ)
    (calls : List (Memory.Call × Bool)) (s : World) : Prop where
  calls : s.callsOn base = calls.map Prod.fst
  told : heard s = before
  due : ∀ job, job = .watch base number ∨ job = .close base number → ¬∃ n, Company.Due n job s

lemma Early.outside (h : Early base number heard before calls s)
    (hout : World.Outside base number heard s s') :
    Early base number heard before calls s' :=
  ⟨hout.calls.trans h.calls, hout.heard.trans h.told,
    fun job hjob hdue => h.due job hjob ((hout.due job hjob).mp hdue)⟩

lemma Early.newLink (hheard : World.Unheard heard) (h : Early base number heard before calls s) :
    Early base number heard before calls (Memory.newLink true s).2 :=
  ⟨h.calls, (hheard.backend _ _).trans ((hheard.backend _ _).trans h.told), h.due⟩

lemma Early.works (hheard : World.Unheard heard) (h : Early base number heard before calls s)
    {call : Memory.Call} (hworks : World.Works base [call] s s') :
    Early base number heard before (calls ++ [(call, call.granted s)]) s' := by
  refine ⟨?_, ?_, ?_⟩
  · rw [hworks.callsOn, h.calls, List.map_append]
    rfl
  · rw [hworks.same]
    exact (hheard.backend _ s).trans h.told
  · rw [hworks.same]
    exact h.due

lemma Early.drop (hheard : World.Unheard heard) (h : Early base number heard before calls s)
    (halive : ((Memory.link base).get s).alive = true) :
    Early base number heard before calls (Memory.drop base s) := by
  have hstarts : (Memory.drop base s).schedule.starts = s.schedule.starts :=
    Memory.drop_same (fun s => s.schedule.starts) base s (fun _ _ => rfl) (fun _ _ => rfl)
      (fun _ _ hc => hc) fun _ _ => rfl
  refine ⟨?_, ?_, fun job hjob ⟨n, hn⟩ => h.due job hjob ⟨n, ?_⟩⟩
  · rw [World.callsOn, Memory.drop_backend halive]
    exact h.calls
  · rw [Memory.drop_same heard base s hheard.backend hheard.accounts
      (fun c s _ => hheard.schedule c s) hheard.traces]
    exact h.told
  · rw [Company.due_iff] at hn ⊢
    exact hstarts ▸ hn

/-- **What is true as soon as a run has its lease**: the books say what is in the journal and what
has been published; the lease and the stages of all tasks agree; nobody is going to close the lease
but the run, and whoever has found that the connection has broken. -/
structure Proper (asked : Memory.Call → Prop) (base number : Nat) (heard : World → List ρ)
    (before : List ρ) (q : Stage) (b : Book ρ) (helpers : List Stage) (s : World) : Prop where
  calls : s.callsOn base = b.calls.map Prod.fst
  told : heard s = before ++ b.told
  holds : Holds base number s
  remembers : Remembers asked base number b.pending s
  sound : Aspect.Sound False (q :: helpers) (view base number s)
  modest : ∀ r ∈ helpers, r.Modest
  undue : ¬∃ n, Company.Due n (.close base number) s
  pledged : ∀ r ∈ helpers, r.errand = .pledged →
    s.Broken base ∨ (view base number s).closed = true
  closed : (view base number s).closed = true → s.Broken base ∨ q.errand.isEnding = true

namespace Proper

lemma broken_of_ended (h : Proper asked base number heard before q b helpers s)
    (hended : (view base number s).ended = true) :
    s.Broken base ∨ (view base number s).closed = true := by
  by_cases hbroken : s.Broken base
  · exact .inl hbroken
  right
  have halive : ((Memory.link base).get s).alive = false := by
    have hstatus : ((Memory.link base).get s).signal.status.isTerminal = false :=
      Bool.eq_false_iff.mpr hbroken
    simpa [Lease.aspect, LeaseState.aspect, Pool.lease, Memory.pool, Memory.connection,
      Watch.ending?, hstatus, apply_ite] using hended
  have hlistening : (view base number s).listening = false := h.holds.alive.symm.trans halive
  by_contra hclosed
  have hholds := h.sound.agrees.unclosed (Bool.eq_false_iff.mpr hclosed)
  rw [h.sound.agrees.holding hholds] at hlistening
  cases hlistening

lemma outside (h : Proper asked base number heard before q b helpers s)
    (hout : World.Outside base number heard s s') :
    Proper asked base number heard before q b helpers s' := by
  have hclosed : (view base number s').closed = (view base number s).closed := by
    have hsame := congrArg Aspect.closed hout.grows.eq
    exact hsame
  refine ⟨hout.calls.trans h.calls, hout.heard.trans h.told, h.holds.spared hout.toSpared,
    h.remembers.spared hout.toSpared, h.sound.grows hout.grows, h.modest,
    fun hdue => h.undue ((hout.due _ (.inr rfl)).mp hdue), ?_, ?_⟩
  · rw [hclosed]
    exact fun r hr herrand => (h.pledged r hr herrand).imp_left hout.broken
  · rw [hclosed]
    exact fun hc => (h.closed hc).imp_left hout.broken

/-- **Whatever the run does, it stays true**, and the calls go into the books. -/
lemma front (h : Proper asked base number heard before q b helpers s)
    (hmay : (leaseDiscipline asked base number heard).may (q, .runner b) s y s') :
    ∃ q' b', y = (q', .runner b') ∧ Proper asked base number heard before q' b' helpers s'
      ∧ b'.calls = b.calls ++ World.newCalls base s s' := by
  obtain ⟨q', k⟩ := y
  obtain ⟨hstep, hrecords⟩ := hmay
  cases k with
  | helper => exact hrecords.elim
  | runner b' =>
    obtain ⟨hlasting, ⟨added, hcalls, hbook⟩, ⟨told, htold, hheard, -⟩, hholds, hremembers⟩ :=
      hrecords
    refine ⟨q', b', rfl, ⟨?_, ?_, hholds, hremembers, ?_, h.modest,
      fun hdue => h.undue (hlasting.due hdue), ?_, ?_⟩, ?_⟩
    · rw [hcalls, hbook, h.calls, List.map_append, List.map_map]
      exact congrArg _ (List.map_id _).symm
    · rw [hheard, htold, h.told, List.append_assoc]
    · have hsound : Aspect.Sound False ([] ++ q :: helpers) (view base number s) := h.sound
      exact hsound.step hstep fun r hr => (h.modest r hr).2
    · intro r hr herrand
      exact (h.pledged r hr herrand).imp hlasting.broken hstep.stays_closed
    · intro hclosed
      rcases hstep.closed_by hclosed with hbefore | ⟨-, hending⟩
      · exact (h.closed hbefore).imp hlasting.broken hstep.stays_ending
      · exact .inr hending
    · rw [hbook, World.newCalls_of_append hcalls]

/-- **Whatever somebody does who looks after the lease, it stays true**, and the journal is as it
was. -/
lemma beside (h : Proper asked base number heard before q b (left ++ r :: right) s)
    (hq : q.sight ≠ .open)
    (hmay : (leaseDiscipline asked base number heard).may (r, .helper) s y s') :
    ∃ r', y = (r', .helper)
      ∧ Proper asked base number heard before q b (left ++ r' :: right) s'
      ∧ s'.callsOn base = s.callsOn base := by
  obtain ⟨r', k⟩ := y
  obtain ⟨hstep, hsilent⟩ := hmay
  cases k with
  | runner b' => exact hsilent.elim
  | helper =>
    have hr : r ∈ left ++ r :: right := by simp
    have hothers : ∀ t ∈ left ++ right, t ∈ left ++ r :: right := by
      intro t ht
      rcases List.mem_append.mp ht with ht | ht <;> simp [ht]
    refine ⟨r', rfl, ⟨hsilent.calls.trans h.calls, hsilent.heard.trans h.told,
      hsilent.holds h.holds, hsilent.remembers _ h.remembers, ?_, ?_,
      fun hdue => h.undue (hsilent.due hdue), ?_, ?_⟩, hsilent.calls⟩
    · have hsound : Aspect.Sound False ((q :: left) ++ r :: right) (view base number s) := h.sound
      refine hsound.step hstep fun t ht => ?_
      rcases List.mem_cons.mp ht with rfl | ht
      · exact hq
      · exact (h.modest t (hothers t ht)).2
    · intro t ht
      rcases List.mem_append.mp ht with ht | ht
      · exact h.modest t (by simp [ht])
      rcases List.mem_cons.mp ht with rfl | ht
      · exact hstep.modest (h.modest r hr)
      · exact h.modest t (by simp [ht])
    · intro t ht herrand
      have hold : s.Broken base ∨ (view base number s).closed = true := by
        rcases List.mem_append.mp ht with ht | ht
        · exact h.pledged t (by simp [ht]) herrand
        rcases List.mem_cons.mp ht with rfl | ht
        · rcases hstep.pledged_by herrand with hpledged | hended
          · exact h.pledged r hr hpledged
          · exact h.broken_of_ended hended
        · exact h.pledged t (by simp [ht]) herrand
      exact hold.imp hsilent.broken hstep.stays_closed
    · intro hclosed
      have hbefore : s.Broken base ∨ (view base number s).closed = true := by
        rcases hstep.closed_by hclosed with hbefore | ⟨hpledged, -⟩
        · exact .inr hbefore
        · exact h.pledged r hr hpledged
      rcases hbefore with hbroken | hbefore
      · exact .inl (hsilent.broken hbroken)
      · exact (h.closed hbefore).imp_left hsilent.broken

lemma leave (h : Proper asked base number heard before q b (left ++ r :: right) s)
    (hover : r.Over) : Proper asked base number heard before q b (left ++ right) s := by
  have hothers : ∀ t ∈ left ++ right, t ∈ left ++ r :: right := by
    intro t ht
    rcases List.mem_append.mp ht with ht | ht <;> simp [ht]
  have hsound : Aspect.Sound False ((q :: left) ++ r :: right) (view base number s) := h.sound
  exact { h with
    sound := hsound.leave hover
    modest := fun t ht => h.modest t (hothers t ht)
    pledged := fun t ht => h.pledged t (hothers t ht) }

/-- **Somebody comes to look after the lease.** -/
lemma join (hheard : World.Unheard heard) (h : Proper asked base number heard before q b helpers s)
    (n : TaskId) : Proper asked base number heard before q b (helpers ++ [{ errand := .lookout }])
      (Company.takeOff (.start n (.watch base number)) s) := by
  have haspect := (Memory.apart base number).aspect_schedule (.watch base number)
    (fun c => { c with ready := c.ready.erase (.start n (.watch base number)) }) s
  have hdue : ∀ job, (∃ m, Company.Due m job
      (Company.takeOff (.start n (.watch base number)) s)) → ∃ m, Company.Due m job s :=
    fun job ⟨m, hm⟩ => ⟨m, List.mem_of_mem_erase hm⟩
  refine ⟨h.calls, (hheard.schedule _ s).trans h.told,
    ⟨⟨h.holds.has.linkCount, h.holds.has.leaseCount⟩, h.holds.status, h.holds.alive⟩,
    ⟨h.remembers.transaction, h.remembers.statements⟩, ?_, ?_,
      fun hc => h.undue (hdue _ hc), ?_, ?_⟩
  · refine h.sound.join rfl rfl (.inr (.inr rfl)) ?_ (fun _ => .inr rfl) (fun hc => ?_) False.elim
    · rw [view, Company.takeOff, haspect]
    · exact absurd hc h.undue
  · intro r hr
    rcases List.mem_append.mp hr with hr | hr
    · exact h.modest r hr
    · rw [List.mem_singleton.mp hr]
      exact ⟨rfl, by simp⟩
  · intro r hr herrand
    rcases List.mem_append.mp hr with hr | hr
    · exact h.pledged r hr herrand
    · rw [List.mem_singleton.mp hr] at herrand
      cases herrand
  · exact h.closed

/-- **It is true when the lease is started.** -/
lemma begin (hheard : World.Unheard heard) (h : Early base number heard before calls s)
    (hlink : base ≤ s.backend.linkCount)
    (hstatus : ((Memory.link base).get s).signal.status ≠ .closed)
    (halive : ((Memory.link base).get s).alive = true) (hnumber : s.leaseCount = number) :
    Proper asked base number heard before (.running .unsure) { calls := calls } []
      (Pool.startWatchedLease base s).2 := by
  subst hnumber
  have hlease : (LeaseHost.leases s.leaseCount).get (Pool.startWatchedLease base s).2 = {} :=
    (LeaseHost.leases s.leaseCount).get_set {} s
  have hview : view base s.leaseCount (Pool.startWatchedLease base s).2
      = LeaseState.aspect {} _ _ _ := congrArg (LeaseState.aspect · _ _ _) hlease
  have htold : heard (Pool.startWatchedLease base s).2 = heard s := by
    refine (hheard.schedule _ _).trans ?_
    exact (hheard.leaseCount _ _).trans (hheard.leases _ _ _)
  refine ⟨h.calls, ?_, ⟨⟨hlink, Nat.lt_succ_self _⟩, hstatus, ?_⟩, ⟨?_, ?_⟩, ?_, by simp, ?_,
    by simp, ?_⟩
  · rw [htold, h.told, List.append_nil]
  · rw [hlease]
    exact halive
  · rw [hlease]
  · rw [hlease]
    simp
  · rw [hview]
    refine ⟨.fresh_free 1 rfl rfl, rfl, ?_, ⟨by simp [Stage.running], by simp [Stage.running]⟩⟩
    constructor <;> simp [LeaseState.aspect, Status.isTerminal, Stage.running]
  · rintro ⟨n, hn⟩
    rw [Company.due_iff] at hn
    have hstarts : (Host.schedule.get (Pool.startWatchedLease base s).2).starts
        = s.schedule.starts ++ [(s.schedule.nextTask, .watch base s.leaseCount)] :=
      Schedule.starts_spawn _ _
    rw [hstarts] at hn
    rcases List.mem_append.mp hn with hn | hn
    · exact h.due _ (.inr rfl) ⟨n, Company.due_iff.mpr hn⟩
    · simp at hn
  · rw [hview]
    simp [LeaseState.aspect]

end Proper

/-! ## Phase by phase -/

/-- A run has not been seen to open another connection than `base`, or to start another lease than
`number`. -/
structure Track.Own (base number : Nat) (track : Track) : Prop where
  link : ∀ n, track.link = some n → n = base
  lease : ∀ n, track.lease = some n → n = number

/-- The stages of those who look after the lease. -/
def assisting (helpers : List Stage) : List (Phase ρ) :=
  helpers.map fun r => .leased (r, .helper)

/-- **What is true in each phase of a run**, with what has been seen of it. -/
inductive Fits (asked : Memory.Call → Prop) (base number : Nat) (heard : World → List ρ)
    (before : List ρ) (track : Track) : Phase ρ → List (Phase ρ) → World → Prop where
  | seeking {s : World} (h : Early base number heard before [] s) (htrack : track = {}) :
      Fits asked base number heard before track .seeking [] s
  | opened {calls : List (Memory.Call × Bool)} {s : World}
      (h : Early base number heard before calls s) (hlink : base ≤ s.backend.linkCount)
      (hstatus : ((Memory.link base).get s).signal.status ≠ .closed)
      (halive : ((Memory.link base).get s).alive = true)
      (htrack : track = { link := some base, calls := calls }) :
      Fits asked base number heard before track (.opened calls) [] s
  | parted {calls : List (Memory.Call × Bool)} {s : World}
      (h : Early base number heard before calls s)
      (htrack : track = { link := some base, calls := calls }) :
      Fits asked base number heard before track (.parted calls) [] s
  | leased {q : Stage} {b : Book ρ} {helpers : List Stage} {s : World}
      (h : Proper asked base number heard before q b helpers s)
      (htrack : track = ⟨some base, some number, b.calls⟩) :
      Fits asked base number heard before track (.leased (q, .runner b)) (assisting helpers) s
  | stray {ps : List (Phase ρ)} {s : World} (h : ¬track.Own base number)
      (hps : ∀ p ∈ ps, p = .stray) : Fits asked base number heard before track .stray ps s

namespace Track

variable {track : Track}

lemma follow_own (h : ¬track.Own base number) : ¬(track.follow base s s').Own base number := by
  refine fun ⟨hlink, hlease⟩ => h ⟨fun n hn => hlink n ?_, fun n hn => hlease n ?_⟩
  · rw [follow, hn]
    rfl
  · rw [follow, hn]
    rfl

lemma follow_quiet (hlinks : s'.backend.linkCount = s.backend.linkCount)
    (hleases : s'.leaseCount = s.leaseCount) (hcalls : s'.callsOn base = s.callsOn base) :
    track.follow base s s' = track := by
  have hnew := World.newCalls_of_append (hcalls.trans (List.append_nil _).symm)
  rw [follow, if_pos hlinks, if_pos hleases, hnew]
  simp

lemma follow_leased (h : track.link = some base) (h' : track.lease = some number) :
    track.follow base s s' = ⟨some base, some number, track.calls ++ World.newCalls base s s'⟩ := by
  rw [follow, h, h']
  rfl

lemma follow_newLink :
    ({} : Track).follow base s (Memory.newLink true s).2
      = { link := some (Memory.newLink true s).1 } := by
  have hnew : World.newCalls base s (Memory.newLink true s).2 = [] :=
    World.newCalls_of_append (List.append_nil _).symm
  have hne : (Memory.newLink true s).2.backend.linkCount ≠ s.backend.linkCount :=
    Nat.succ_ne_self _
  have hsame : (Memory.newLink true s).2.leaseCount = s.leaseCount := rfl
  rw [follow, hnew, if_neg hne, if_pos hsame]
  rfl

lemma follow_works {call : Memory.Call} (h : World.Works base [call] s s') :
    track.follow base s s'
      = { track with calls := track.calls ++ [(call, call.granted s)] } := by
  have hleases : s'.leaseCount = s.leaseCount := by rw [h.same]
  rw [follow, World.newCalls_of_append h.callsOn, if_pos h.linkCount, if_pos hleases]
  simp

lemma follow_drop (halive : ((Memory.link base).get s).alive = true) :
    track.follow base s (Memory.drop base s) = track := by
  have hbackend := Memory.drop_backend halive
  have hlinks : (Memory.drop base s).backend.linkCount = s.backend.linkCount := by
    rw [hbackend]
    rfl
  have hleases : (Memory.drop base s).leaseCount = s.leaseCount :=
    Memory.drop_same World.leaseCount base s (fun _ _ => rfl) (fun _ _ => rfl)
      (fun _ _ _ => rfl) fun _ _ => rfl
  refine follow_quiet hlinks hleases ?_
  rw [World.callsOn, hbackend]
  rfl

lemma follow_lease (hlease : track.lease = none) :
    track.follow base s (Pool.startWatchedLease base s).2
      = { track with lease := some s.leaseCount } := by
  have hnew : World.newCalls base s (Pool.startWatchedLease base s).2 = [] :=
    World.newCalls_of_append (List.append_nil _).symm
  have hne : (Pool.startWatchedLease base s).2.leaseCount ≠ s.leaseCount := Nat.succ_ne_self _
  have hlinks : (Pool.startWatchedLease base s).2.backend.linkCount = s.backend.linkCount := rfl
  rw [follow, hlease, hnew, if_neg hne, if_pos hlinks]
  simp

end Track

namespace Fits

variable {track : Track} {p p' : Phase ρ} {ps : List (Phase ρ)}

lemma outside (h : Fits asked base number heard before track p ps s)
    (hout : World.Outside base number heard s s') :
    Fits asked base number heard before track p ps s' := by
  cases h with
  | seeking h htrack => exact .seeking (h.outside hout) htrack
  | opened h hlink hstatus halive htrack =>
    refine .opened (h.outside hout) (Nat.le_trans hlink hout.linkCount) ?_
      (hout.alive.trans halive) htrack
    rcases hout.status with heq | ⟨-, hfailed⟩
    · rwa [heq]
    · simp [hfailed]
  | parted h htrack => exact .parted (h.outside hout) htrack
  | leased h htrack => exact .leased (h.outside hout) htrack
  | stray h hps => exact .stray h hps

/-- **Whatever the run does, it stays true.** -/
lemma front (hheard : World.Unheard heard) (h : Fits asked base number heard before track p ps s)
    (hmay : Advance asked base number heard p s p' s') :
    Fits asked base number heard before (track.follow base s s') p' ps s' := by
  cases hmay with
  | around hout hlinks hleases =>
    rw [Track.follow_quiet hlinks hleases hout.calls]
    exact h.outside hout
  | reach hbase =>
    obtain ⟨h, rfl⟩ := h
    have hlink : (Memory.link base).get (Memory.newLink true s).2 = { hasPermit := true } := by
      rw [← hbase]
      exact (Memory.link _).get_set _ _
    refine .opened (h.newLink hheard) (Nat.le_of_eq hbase.symm) ?_ ?_ ?_
    · rw [hlink]
      simp
    · rw [hlink]
    · rw [Track.follow_newLink, hbase]
  | astray hbase =>
    obtain ⟨h, rfl⟩ := h
    exact .stray (fun hown => hbase (hown.link _ (congrArg Track.link Track.follow_newLink)))
      (by simp)
  | call hworks =>
    cases h with
    | opened h hlink hstatus halive htrack =>
      refine .opened (h.works hheard hworks) (hworks.linkCount ▸ hlink)
        ((hworks.signal base).symm ▸ hstatus) ((hworks.alive base).trans halive) ?_
      rw [Track.follow_works hworks, htrack]
  | part =>
    cases h with
    | opened h hlink hstatus halive htrack =>
      exact .parted (h.drop hheard halive) ((Track.follow_drop halive).trans htrack)
  | lease hnumber =>
    cases h with
    | opened h hlink hstatus halive htrack =>
      show Fits asked base number heard before _ _ (assisting []) _
      refine .leased (.begin hheard h hlink hstatus halive hnumber) ?_
      rw [htrack, Track.follow_lease rfl, hnumber]
  | mislease hnumber =>
    cases h with
    | opened h hlink hstatus halive htrack =>
      have hfollow : track.follow base s (Pool.startWatchedLease base s).2
          = { track with lease := some s.leaseCount } :=
        Track.follow_lease (congrArg Track.lease htrack)
      exact .stray (fun hown => hnumber (hown.lease _ (congrArg Track.lease hfollow))) (by simp)
  | use hmay =>
    cases h with
    | leased h htrack =>
      obtain ⟨q, b', rfl, hproper, hcalls⟩ := h.front hmay
      have hlink : track.link = some base := by rw [htrack]
      have hlease : track.lease = some number := by rw [htrack]
      refine .leased hproper ?_
      rw [Track.follow_leased hlink hlease, htrack, hcalls]
  | any =>
    cases h with
    | stray h hps => exact .stray (Track.follow_own h) hps

/-- **Whatever somebody does who looks after the lease, it stays true**, while the run waits. -/
lemma beside {ps ps' : List (Phase ρ)} {r r' : Phase ρ}
    (hsight : ∀ x, p = .leased x → x.1.sight ≠ .open)
    (h : Fits asked base number heard before track p (ps ++ r :: ps') s)
    (hmay : Advance asked base number heard r s r' s') :
    Fits asked base number heard before (track.follow base s s') p (ps ++ r' :: ps') s' := by
  generalize hall : ps ++ r :: ps' = all at h
  cases h with
  | seeking | opened | parted => simp at hall
  | @leased q b helpers s h htrack =>
    obtain ⟨left, rest, rfl, rfl, hrest⟩ := List.map_eq_append_iff.mp hall.symm
    obtain ⟨t, right, rfl, rfl, rfl⟩ := List.map_eq_cons_iff.mp hrest
    cases hmay with
    | around hout hlinks hleases =>
      rw [Track.follow_quiet hlinks hleases hout.calls]
      have hfits := Fits.leased (h.outside hout) htrack
      rwa [assisting, List.map_append, List.map_cons] at hfits
    | use hmay =>
      obtain ⟨t', rfl, hproper, hcalls⟩ := h.beside (hsight _ rfl) hmay
      have hnew := World.newCalls_of_append (hcalls.trans (List.append_nil _).symm)
      have hlink : track.link = some base := by rw [htrack]
      have hlease : track.lease = some number := by rw [htrack]
      have hsame : track.follow base s s' = track := by
        rw [Track.follow_leased hlink hlease, htrack, hnew]
        simp
      have hfits := Fits.leased hproper htrack
      rw [hsame]
      rwa [assisting, List.map_append, List.map_cons] at hfits
  | stray h hps =>
    obtain rfl : r = .stray := hps r (by simp [← hall])
    have hothers : ∀ t ∈ ps ++ Phase.stray :: ps', t = .stray := hall ▸ hps
    cases hmay with
    | around | any => exact .stray (Track.follow_own h) hothers

lemma gone {ps ps' : List (Phase ρ)} {r : Phase ρ} (hpassed : Passed r)
    (h : Fits asked base number heard before track p (ps ++ r :: ps') s) :
    Fits asked base number heard before track p (ps ++ ps') s := by
  generalize hall : ps ++ r :: ps' = all at h
  cases h with
  | seeking | opened | parted => simp at hall
  | leased h htrack =>
    obtain ⟨left, rest, rfl, rfl, hrest⟩ := List.map_eq_append_iff.mp hall.symm
    obtain ⟨t, right, rfl, rfl, rfl⟩ := List.map_eq_cons_iff.mp hrest
    have hfits := Fits.leased (h.leave hpassed) htrack
    rwa [assisting, List.map_append] at hfits
  | stray h hps =>
    refine .stray h fun t ht => hps t ?_
    rw [← hall]
    rcases List.mem_append.mp ht with ht | ht <;> simp [ht]

/-- **A job that is due begins.** -/
lemma start (hheard : World.Unheard heard) (h : Fits asked base number heard before track p ps s)
    {n : TaskId} {job : Job} {task : Task World Unit} (due : Company.Due n job s)
    (hjob : Memory.pool.Jobs base number job task) :
    ∃ r, Company.Keeps (course asked base number heard) Passed ⟨task, false⟩ r
      ∧ Fits asked base number heard before
        (track.follow base s (Company.takeOff (.start n job) s)) p (ps ++ [r])
        (Company.takeOff (.start n job) s) := by
  have hquiet : track.follow base s (Company.takeOff (.start n job) s) = track :=
    Track.follow_quiet rfl rfl rfl
  rw [hquiet]
  have hmine : job = .watch base number ∨ job = .close base number :=
    hjob.elim (fun hclose => .inr hclose.1) fun hwatch => .inl hwatch.1
  cases h with
  | seeking h | opened h | parted h => exact absurd ⟨n, due⟩ (h.due job hmine)
  | leased h htrack =>
    rcases hjob with ⟨rfl, -⟩ | ⟨rfl, ownFirst, rfl⟩
    · exact absurd ⟨n, due⟩ h.undue
    · have hfits := Fits.leased (h.join hheard n) htrack
      rw [assisting, List.map_append] at hfits
      exact ⟨_, watch_keeps_course hheard ownFirst, hfits⟩
  | stray h hps =>
    refine ⟨.stray, ?_, .stray h fun t ht => ?_⟩
    · refine (stray_obeys task).mono (fun _ _ _ h => by simp at h) ?_
      rintro _ p rfl
      trivial
    · exact (List.mem_append.mp ht).elim (hps t) List.mem_singleton.mp

lemma knows (h : Fits asked base number heard before track p ps s) :
    (course asked base number heard).knows p s
      ∧ ∀ r ∈ ps, (course asked base number heard).knows r s := by
  cases h with
  | seeking | opened | parted => exact ⟨trivial, by simp⟩
  | leased h htrack =>
    refine ⟨⟨h.sound.knows List.mem_cons_self, h.holds, h.remembers⟩, fun r hr => ?_⟩
    obtain ⟨t, ht, rfl⟩ := List.mem_map.mp hr
    exact ⟨h.sound.knows (List.mem_cons_of_mem _ ht), h.holds⟩
  | stray h hps =>
    refine ⟨trivial, fun r hr => ?_⟩
    rw [hps r hr]
    trivial

end Fits

/-- **At each moment of its story a run keeps to its discipline**, and so does everybody who looks
after its lease. -/
theorem Story.kept (hheard : World.Unheard heard) {run : Task World α} {ends : α → Phase ρ → Prop}
    (hrun : run.Obeys (course asked base number heard) (fun _ _ => True) ends .seeking)
    (hends : ∀ a x, ends a (.leased x) → x.1.sight ≠ .open) {s₀ : World}
    (hnew : s₀.Untouched base number) {track : Track} {c : Company World α}
    (story : Story (World.Outside base number heard) base number run s₀ track c) :
    c.Kept (course asked base number heard) ends Passed
      (Fits asked base number heard (heard s₀) track) := by
  induction story with
  | start => exact ⟨.seeking, [], hrun, rfl, by simp, .seeking ⟨hnew.calls, rfl, hnew.due⟩ rfl⟩
  | step _ hstep ih =>
    refine ih.step hstep
      { knows := fun h => h.knows.1
        knows_beside := fun h hr => h.knows.2 _ hr
        front := fun h hmay => h.front hheard hmay
        beside := fun {p r r' ps ps'} hrest h hmay => h.beside (fun x hx => ?_) hmay
        gone := fun hpassed h => h.gone hpassed
        start := fun h due hjob hs' => ?_ }
    · subst hx
      rcases hrest with ⟨ready, hwaits⟩ | ⟨a, ha⟩
      · exact hwaits.1
      · exact hends a x ha
    · rw [hs']
      exact h.start hheard due hjob
  | outside _ hout ih =>
    obtain ⟨p, staged, hfront, hbeside, hkeeps, hfits⟩ := ih
    exact ⟨p, staged, hfront, hbeside, hkeeps, hfits.outside hout⟩

end Run

end Transactional
