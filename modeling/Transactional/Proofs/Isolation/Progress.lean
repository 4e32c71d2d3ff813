import Transactional.Proofs.Isolation.Family
import Transactional.Proofs.Traffic.Accounts
import Transactional.Proofs.Traffic.Owners

/-!
# No run of a family waits for ever

A run waits for its turn, for a permit, for the lock of a lease, or for one of its futures.  If
nothing can move any more although all futures have come, then nobody waits for a lock; so every
lease has been closed by the run that has started it, every permit has come back, and nobody waits
for one.

* `Role.Finished` — a part that is over, with its lease closed.
* `World.Tended` — every lease that is open is somebody's own.
* `Role.Stopped`, `World.Balanced.nobody_waits` — when nobody can go on, nobody waits.
* `Family.Story.tended` — what is true at each moment of the parts of all runs.
* `Family.Settled`, `Family.Story.all_done` — when nothing can move any more, all runs are over.
-/

namespace Transactional

variable {ψ ρ α : Type} {awaited : (World → Bool) → Prop} {capacity : Nat} {jobs : List Job}
  {roles : List Role} {p r r' : Role} {s s' : World}

/-! ## Runs that finish -/

/-- **A part that is over**, with the lease closed that has been started in it. -/
def Role.Finished (r : Role) : Prop :=
  r.Past ∧ (r.own?.isSome → r.Concluded)

lemma Role.finished_of_over (base number : Nat) (q : Stage) (hover : q.Over) :
    (Role.leased base number q false true).Finished :=
  ⟨⟨hover, rfl⟩, fun h => nomatch h⟩

lemma run_finishes {manager : Manager World} (hmanager : manager.Shared) {sink : Sink World}
    (hsink : sink.Aside) (limit : Option Duration) {program : Program World}
    (hprogram : program.Aside) (hawaits : program.Awaits awaited) :
    (runWith manager sink limit program).run.Obeys (trade awaited) (fun _ _ => True)
      (fun _ r => r.Finished) (.seeking .away) := by
  refine (run_obeys hmanager hsink limit hprogram hawaits).imp ?_
  rintro _ r (rfl | ⟨base, number, q, hover, hsight, rfl⟩)
  · exact ⟨rfl, fun _ => trivial⟩
  · exact ⟨⟨hover, rfl⟩, fun _ => hsight⟩

/-! ## Whose lease it is -/

/-- **Every lease that is open is somebody's own.** -/
def World.Tended (jobs : List Job) (roles : List Role) (s : World) : Prop :=
  ∀ x ∈ tenancies jobs, (s.traffic.leases x.2).closed = true ∨ ∃ r ∈ roles, r.own? = some x

namespace World.Tended

lemma may (before after : List Role) (h : Tended jobs (before ++ r :: after) s)
    (hs : Balanced capacity jobs (before ++ r :: after) s) (hmay : (trade awaited).may r s r' s') :
    Tended (jobs ++ newJobs s s') (before ++ r' :: after) s' := by
  obtain ⟨hkeeps, hstarted⟩ := hs.may_own before after hmay
  intro x hx
  rw [tenancies_append] at hx
  rcases List.mem_append.mp hx with hx | hx
  · refine (h x hx).imp (hs.may_closed before after hmay hx) ?_
    rintro ⟨q, hq, hown⟩
    rcases List.mem_append.mp hq with hq | hq
    · exact ⟨q, List.mem_append_left _ hq, hown⟩
    rcases List.mem_cons.mp hq with rfl | hq
    · exact ⟨r', List.mem_append_right _ List.mem_cons_self, hkeeps x hown⟩
    · exact ⟨q, List.mem_append_right _ (List.mem_cons_of_mem _ hq), hown⟩
  · exact .inr ⟨r', List.mem_append_right _ List.mem_cons_self, hstarted x hx⟩

lemma mono {roles' : List Role} (h : Tended jobs roles s) (hsub : roles ⊆ roles')
    (hleases : s'.traffic.leases = s.traffic.leases) : Tended jobs roles' s' := by
  intro x hx
  rw [hleases]
  exact (h x hx).imp_right fun ⟨q, hq, hown⟩ => ⟨q, hsub hq, hown⟩

/-- **Whoever has finished has closed his lease.** -/
lemma closed_of_finished (hs : Balanced capacity jobs roles s) (hr : r ∈ roles)
    (hfinished : r.Finished) {x : Nat × Nat} (hown : r.own? = some x) :
    (s.traffic.leases x.2).closed = true := by
  have hconcluded := hfinished.2 (hown ▸ rfl)
  have hknows := Traffic.knows_of_balanced (fun _ => True) hs hr
  cases r with
  | seeking | opened => cases hown
  | leased base number q held loyal =>
    cases loyal with
    | true => cases hown
    | false =>
      cases hown
      exact hknows.1.seenClosed hconcluded

lemma leave (before after : List Role) (h : Tended jobs (before ++ r :: after) s)
    (hs : Balanced capacity jobs (before ++ r :: after) s) (hfinished : r.Finished) :
    Tended jobs (before ++ after) s := by
  intro x hx
  rcases h x hx with hclosed | ⟨q, hq, hown⟩
  · exact .inl hclosed
  rcases List.mem_append.mp hq with hq | hq
  · exact .inr ⟨q, List.mem_append_left _ hq, hown⟩
  rcases List.mem_cons.mp hq with rfl | hq
  · exact .inl (closed_of_finished hs (by simp) hfinished hown)
  · exact .inr ⟨q, List.mem_append_right _ hq, hown⟩

end World.Tended

/-! ## When nobody can go on -/

/-- **A part in which one cannot go on**, also with a fresh turn: it is over, or one waits for
something that has not come. -/
def Role.Stopped (awaited : (World → Bool) → Prop) (s : World) (r : Role) : Prop :=
  r.Finished ∨ ∃ ready, (trade awaited).waits r ready
    ∧ ready (Host.schedule.modify Schedule.refresh s) = false

namespace World.Balanced

variable (hs : Balanced capacity jobs roles s) (hstopped : ∀ r ∈ roles, r.Stopped awaited s)

include hs hstopped

lemma idle_of_stopped : ∀ r ∈ roles, r.Idle s := by
  intro r hr
  rcases hstopped r hr with hfinished | ⟨ready, hwaits, hready⟩
  · exact hfinished.1.idle s
  · exact Role.idle_of_waits hwaits hready (hs.unshut hr)

variable (hcome : ∀ ready, awaited ready →
  ready (Host.schedule.modify Schedule.refresh s) = true)

include hcome

/-- **On a lease only who looks out for its end waits.** -/
lemma looks_out {base number : Nat} {q : Stage} {held loyal : Bool} {ready : World → Bool}
    (hr : .leased base number q held loyal ∈ roles)
    (hwaits : (trade awaited).waits (.leased base number q held loyal) ready)
    (hready : ready (Host.schedule.modify Schedule.refresh s) = false) :
    loyal = true
      ∧ ((Memory.pool.lease base number).aspect (.watch base number) s).signalled = false := by
  have hnever : ∀ first : World → Bool, (∀ s, first s = true → ready s = true) →
      first (Host.schedule.modify Schedule.refresh s) = false := fun first himp =>
    Bool.eq_false_iff.mpr fun htrue => Bool.eq_false_iff.mp hready (himp _ htrue)
  obtain ⟨hin, -, hloyal, -⟩ := hs.fits _ hr
  rcases hwaits with ⟨first, himp, hfor⟩ | ⟨-, -, -, first, himp, hawaited⟩
  · have hfirst := hnever first himp
    cases hfor with
    | turn => simp [Pool.pause_ready] at hfirst
    | line t hline =>
      -- Whoever has the lock could go on, so nobody has it, and nobody waits for it.
      have hstages := hs.stages_idle (hs.idle_of_stopped hstopped) hin
      have hmem : q.countedOn loyal ∈ roles.filterMap (Role.stageOn number) :=
        List.mem_filterMap.mpr ⟨_, hr, if_pos rfl⟩
      have hplace := ((hs.leases _ hin).nobody_waits hstages _ hmem).elim And.left And.left
      rw [Stage.countedOn_place, hline] at hplace
      cases hplace
    | either hplace hlookout =>
      constructor
      · cases loyal with
        | true => rfl
        | false => exact absurd hlookout (hloyal rfl).1
      · have hown : ((Memory.pool.lease base number : Lease World).watching.ending?
            (Host.schedule.modify Schedule.refresh s)).isSome = false :=
          (Bool.or_eq_false_iff.mp hfirst).2
        rw [Watch.ending?] at hown
        split at hown
        next => cases hown
        next hopen => exact Bool.eq_false_iff.mpr hopen
  · exact absurd (hcome first hawaited) (Bool.eq_false_iff.mp (hnever first himp))

/-- **So everybody who has started a lease has closed it**, and it has come back. -/
lemma unreturned_eq_nil (htended : Tended jobs roles s) (hdue : s.Unlent) :
    unreturned jobs s = [] := by
  refine hs.returned (hs.idle_of_stopped hstopped) hdue fun x hx => .inl ?_
  rcases htended x hx with hclosed | ⟨r, hr, hown⟩
  · exact hclosed
  rcases hstopped r hr with hfinished | ⟨ready, hwaits, hready⟩
  · exact Tended.closed_of_finished hs hr hfinished hown
  · cases r with
    | seeking | opened => cases hown
    | leased base number q held loyal =>
      obtain ⟨rfl, -⟩ := hs.looks_out hstopped hcome hr hwaits hready
      cases hown

/-- **Then nobody waits for a permit either**: all are free. -/
lemma not_in_line (htended : Tended jobs roles s) (hdue : s.Unlent) (hcapacity : 0 < capacity)
    {t : Nat} (hr : .seeking (.inLine t) ∈ roles) : s.traffic.accounts.permits.shut = true := by
  by_contra hshut
  have hsound := hs.permitsAgree.permits.sound (Bool.eq_false_iff.mpr hshut)
  obtain ⟨hgranted, hopened, -, hnobody⟩ := hs.quiet (hs.idle_of_stopped hstopped)
  rw [hopened, hs.unreturned_eq_nil hstopped hcome htended hdue] at hsound
  simp only [List.map_nil, List.append_nil, List.length_nil, List.replicate_zero] at hsound
  obtain ⟨n, rfl⟩ := Nat.exists_eq_add_of_lt hcapacity
  rw [Nat.zero_add] at hsound
  have hline := hsound.nobody_waits (List.count_eq_zero.mp hnobody) fun t _ => by simp [hgranted]
  have hmem : t ∈ Place.line (roles.map Role.place) :=
    List.mem_filterMap.mpr ⟨.inLine t, List.mem_map_of_mem hr, rfl⟩
  simp [hline] at hmem

/-- **When nobody can go on** although all that futures wait for has come, **nobody waits in vain**.
-/
theorem nobody_waits (htended : Tended jobs roles s) (hdue : s.Unlent) (hcapacity : 0 < capacity)
    (hr : r ∈ roles) {ready : World → Bool} (hwaits : (trade awaited).waits r ready) :
    ready (Host.schedule.modify Schedule.refresh s) = true := by
  by_contra hnot
  have hready : ready (Host.schedule.modify Schedule.refresh s) = false :=
    Bool.eq_false_iff.mpr hnot
  cases r with
  | seeking place =>
    obtain ⟨first, himp, hfor⟩ := hwaits
    refine hnot (himp _ ?_)
    rcases hfor with ⟨rfl, rfl⟩ | ⟨t, rfl, rfl⟩
    · exact Pool.pause_ready s
    · have hshut := hs.not_in_line hstopped hcome htended hdue hcapacity hr
      exact Bool.and_eq_true_iff.mpr ⟨Pool.pause_ready s, Bool.or_eq_true_iff.mpr (.inl hshut)⟩
  | opened => exact hwaits
  | leased base number q held loyal =>
    obtain ⟨-, hsignalled⟩ := hs.looks_out hstopped hcome hr hwaits hready
    have hin := (hs.fits _ hr).1
    have hagrees := (hs.leases _ hin).agrees
    -- Everybody has been told of its end, since it has come back.
    have hback := List.filter_eq_nil_iff.mp (hs.unreturned_eq_nil hstopped hcome htended hdue) _ hin
    have hbase : ((Memory.pool.lease base number).aspect (.watch base number) s).holdsBase
      = false :=
      Bool.eq_false_iff.mpr fun hholds => hback (hagrees.holding hholds)
    exact Bool.eq_false_iff.mp hsignalled (hagrees.told hbase)

end World.Balanced

/-! ## Families -/

section

variable {ψ ρ : Type} {S : Setting ρ ψ} {program : Program World}

lemma Setting.Admits.aside (h : S.Admits program) : program.Aside :=
  h.imp fun _ hlift => hlift.1.imp fun _ _ _ hharmless => hharmless.elsewhere.aside

lemma Setting.Admits.awaits (h : S.Admits program) : program.Awaits S.awaited :=
  h.imp fun _ => And.right

lemma Manager.Discreet.shared {heard : World → List ρ} {manager : Manager World}
    (h : manager.Discreet S.futures heard) : manager.Shared where
  pool := h.pool
  wrapping := h.wrapping.imp_right fun ⟨write, hsome, hwrite⟩ =>
    ⟨write, hsome, fun line s => (hwrite line s).1.elsewhere.aside⟩
  closed v s := by
    rw [h.closed]
    exact ⟨rfl, .of_eq fun _ => rfl⟩

lemma World.Fresh.fair {e : ψ} {w : World} (hw : w.Fresh S e capacity) :
    Traffic.Fair capacity [] (.seeking .away) [.seeking .away] w := by
  have hdue : w.Unlent := by
    intro entry hentry
    rw [show w.traffic.due = [] from hw.due] at hentry
    exact absurd hentry List.not_mem_nil
  have hlink : ∀ m, (Memory.link m).get w = (Memory.link m).get (w.withMemory capacity) := by
    intro m
    show w.backend.links.get m = _
    rw [hw.backend]
    rfl
  refine (Traffic.fair_start capacity hdue).seeking.aside ⟨?_, .of_eq fun m => ?_⟩
  · show Traffic.mk _ _ _ _ _ _ _ = Traffic.mk _ _ _ _ _ _ _
    rw [Traffic.mk.injEq]
    exact ⟨congrArg (·.journal) hw.backend, congrArg (·.linkCount) hw.backend,
      funext fun m => by rw [hlink m], hw.accounts, rfl, rfl, rfl⟩
  · exact congrArg Option.isSome (Memory.ending_of_same (by rw [hlink]) (by rw [hlink]))

end

namespace Family

variable {S : Setting ρ ψ} {manager : Manager World} {run : Task World α} {w : World} {e : ψ}
  {n : Nat} {seen : Seen ρ} {c : Company World α}

/-- **What is true at each moment** of the parts of all runs and of all jobs. -/
def Orderly (capacity : Nat) (jobs : List Job) (p r : Role) (rs : List Role) (s : World) : Prop :=
  Traffic.Fair capacity jobs p (r :: rs) s ∧ World.Tended jobs (p :: r :: rs) s

/-- **Every change upholds it.** -/
lemma orderly_upheld (s s' : World) :
    Company.Upheld (trade awaited) (fun (_ : Unit) => Role.Finished) Role.Finished Jobs
      (Orderly capacity jobs p) (Orderly capacity (jobs ++ World.newJobs s s') p) s s' where
  knows h := Traffic.knows_of_balanced awaited h.1.1 (by simp)
  knows_beside h hr := Traffic.knows_of_balanced awaited h.1.1 (by simp [hr])
  front h hmay :=
    ⟨⟨h.1.1.may [p] _ hmay, h.1.1.serial [p] _ h.1.2 hmay⟩, h.2.may [p] _ h.1.1 hmay⟩
  beside {r q q' before after} _ h hmay :=
    ⟨⟨h.1.1.may (p :: r :: before) after hmay, h.1.1.serial (p :: r :: before) after h.1.2 hmay⟩,
      h.2.may (p :: r :: before) after h.1.1 hmay⟩
  gone {r q before after} hfinished h :=
    ⟨⟨h.1.1.leave (p :: r :: before) after hfinished.1, h.1.2⟩,
      h.2.leave (p :: r :: before) after h.1.1 hfinished⟩
  start {r rs number job task} h due hjob hs' := by
    obtain ⟨q, hkeeps, hfair⟩ := (Traffic.fair_upheld awaited (fun r (h : r.Finished) => h.1)
      Role.finished_of_over s s').start h.1 due hjob hs'
    refine ⟨q, hkeeps, hfair, ?_⟩
    subst hs'
    rw [World.newJobs_takeOff, List.append_nil]
    exact h.2.mono (List.subset_append_left (p :: r :: rs) [q]) rfl

/-- **At each moment of a family all keep to the discipline of those who share a pool**, if nobody
is given up. -/
theorem Story.orderly (hmanager : manager.Discreet S.futures S.heard)
    (hoptional : S.optional = false)
    (hrun : run.Obeys (trade S.awaited) (fun _ _ => True) (fun _ => Role.Finished) (.seeking .away))
    (hw : w.Fresh S e capacity) (story : Story S manager run w n seen c) :
    ∃ jobs p, c.front.Obeys (trade S.awaited) (fun _ _ => True) (fun _ => Role.Finished) p
      ∧ (⟨c.state, .done (), c.beside⟩ : Company World Unit).Kept (trade S.awaited)
        (fun _ => Role.Finished) Role.Finished (Orderly capacity jobs p) := by
  induction story with
  | start =>
    exact ⟨[], .seeking .away, hrun, .seeking .away, [], ⟨rfl, fun _ => trivial⟩, rfl, by simp,
      hw.fair, fun x hx => absurd hx List.not_mem_nil⟩
  | come _ hsink limit hprogram ih =>
    obtain ⟨jobs, p, hfront, hkept⟩ := ih
    refine ⟨jobs, p, hfront, hkept.join (q := .seeking .away) ?_ fun r rs h => ?_⟩
    · rw [hoptional, Company.Keeps]
      refine ((run_finishes hmanager.shared (fun event s => (hsink event s).elsewhere.aside) limit
        hprogram.aside hprogram.awaits).mono (fun _ _ _ hfalse => by cases hfalse)
        fun _ _ h => h).bind fun _ _ h => h
    · exact ⟨h.1.seeking, h.2.mono (List.subset_append_left (p :: r :: rs) _) rfl⟩
  | @move _ seen c _ front s' hmove ih =>
    obtain ⟨jobs, p, hfront, r, staged, hr, hbeside, hkeeps, horderly⟩ := ih
    have hknows := Traffic.knows_of_balanced S.awaited horderly.1.1 List.mem_cons_self
    obtain ⟨q, hmay, hq⟩ := hfront.moves hknows hmove
    exact ⟨jobs ++ World.newJobs c.state s', q, hq, r, staged, hr, hbeside, hkeeps,
      ⟨horderly.1.1.may [] _ hmay, horderly.1.1.serial [] _ horderly.1.2 hmay⟩,
      horderly.2.may [] _ horderly.1.1 hmay⟩
  | beside _ hstep ih =>
    obtain ⟨jobs, p, hfront, hkept⟩ := ih
    exact ⟨_, p, hfront, hkept.step hstep (orderly_upheld _ _)⟩
  | around _ hout ih =>
    obtain ⟨jobs, p, hfront, hkept⟩ := ih
    have haside := hout.elsewhere.aside
    exact ⟨jobs, p, hfront, hkept.around fun r rs h =>
      ⟨h.1.aside haside, h.2.mono (fun _ => id) (by rw [haside.traffic])⟩⟩

/-! ## When nothing can move any more -/

/-- **A task that cannot go on**, also with a fresh turn: it is over, or waits for something that
has not come. -/
def Stopped (s : World) (task : Task World α) : Prop :=
  (∃ a, task = .done a) ∨ ∃ on next, task = .wait on next
    ∧ on.ready (Host.schedule.modify Schedule.refresh s) = false

/-- **A family in which nothing can move any more**: all tasks have stopped, and no job is due that
looks after a lease. -/
structure Settled (c : Company World α) : Prop where
  front : Stopped c.state c.front
  beside : ∀ strand ∈ c.beside, Stopped c.state strand.task
  jobs : c.state.Unlent

lemma Stopped.role {task : Task World α} (h : Stopped s task)
    {gone : Role → (World → World) → Prop}
    (hobeys : task.Obeys (trade awaited) gone (fun _ => Role.Finished) r) :
    r.Stopped awaited s := by
  rcases h with ⟨a, rfl⟩ | ⟨on, next, rfl, hready⟩
  · exact .inl hobeys
  · exact .inr ⟨on.ready, hobeys.1, hready⟩

lemma Stopped.is_done {task : Task World α} (h : Stopped s task)
    {gone : Role → (World → World) → Prop} {ends : α → Role → Prop}
    (hobeys : task.Obeys (trade awaited) gone ends r)
    (hready : ∀ ready, (trade awaited).waits r ready →
      ready (Host.schedule.modify Schedule.refresh s) = true) : ∃ a, task = .done a := by
  rcases h with hdone | ⟨on, next, rfl, hnot⟩
  · exact hdone
  · exact absurd (hready _ hobeys.1) (Bool.eq_false_iff.mp hnot)

/-- **When nothing can move any more although all futures have come, all runs of a family are
over**, and so are all jobs. -/
theorem Story.all_done (hmanager : manager.Discreet S.futures S.heard)
    (hoptional : S.optional = false) (hcapacity : 0 < capacity)
    (hrun : run.Obeys (trade S.awaited) (fun _ _ => True) (fun _ => Role.Finished) (.seeking .away))
    (hw : w.Fresh S e capacity) (story : Story S manager run w n seen c) (hsettled : Settled c)
    (hcome : ∀ ready, S.awaited ready →
      ready (Host.schedule.modify Schedule.refresh c.state) = true) :
    (∃ a, c.front = .done a) ∧ ∀ strand ∈ c.beside, strand.task = .done () := by
  obtain ⟨jobs, p, hfront, r, staged, hr, hbeside, hkeeps, ⟨hs, -⟩, htended⟩ :=
    story.orderly hmanager hoptional hrun hw
  have hstopped : ∀ q ∈ p :: r :: staged.map Prod.snd, q.Stopped S.awaited c.state := by
    intro q hq
    rcases List.mem_cons.mp hq with rfl | hq
    · exact hsettled.front.role hfront
    rcases List.mem_cons.mp hq with rfl | hq
    · exact .inl hr
    · obtain ⟨x, hx, rfl⟩ := List.mem_map.mp hq
      exact (hsettled.beside x.1 (hbeside ▸ List.mem_map_of_mem hx)).role (hkeeps x hx)
  have hready : ∀ q ∈ p :: r :: staged.map Prod.snd, ∀ ready, (trade S.awaited).waits q ready →
      ready (Host.schedule.modify Schedule.refresh c.state) = true := fun q hq _ hwaits =>
    hs.nobody_waits hstopped hcome htended hsettled.jobs hcapacity hq hwaits
  refine ⟨hsettled.front.is_done hfront (hready p (by simp)), fun strand hstrand => ?_⟩
  rw [hbeside] at hstrand
  obtain ⟨x, hx, rfl⟩ := List.mem_map.mp hstrand
  have hmem : x.2 ∈ p :: r :: staged.map Prod.snd := by simp [List.mem_map_of_mem hx]
  obtain ⟨⟨⟩, hdone⟩ := (hsettled.beside x.1 (hbeside ▸ List.mem_map_of_mem hx)).is_done
    (hkeeps x hx) (hready x.2 hmem)
  exact hdone

end Family

end Transactional
