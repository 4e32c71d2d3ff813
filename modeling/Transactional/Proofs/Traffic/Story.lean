import Transactional.Proofs.Traffic.Serial

/-!
# Everything that can happen to a pool

Tasks check connections out of one manager and run transactions through it, those who hold a lease
use, close and drop it, the manager may be closed, connections break, and the backend's scripts and
failures change, all in any order.

* `Traffic.Story` — everything that can happen, with the jobs that have been due.
* `Traffic.Story.kept` — permits, connections, leases and the parts of all tasks agree at each
  moment.
* `Traffic.Story.turn`, `Traffic.Story.some_steps` — a turn of a task, and so many of its steps, are
  parts of such a story.
-/

namespace Transactional

/-- **No job is due that looks after a lease.** -/
def World.Unlent (s : World) : Prop :=
  ∀ entry ∈ s.traffic.due, ∀ base number,
    entry.2 ≠ .watch base number ∧ entry.2 ≠ .close base number

namespace World.Balanced

variable {capacity : Nat} {jobs : List Job} {roles : List Role} {s s' : World} {base number : Nat}

/-! ## Those who come and go -/

lemma cons_seeking :
    Balanced capacity jobs (.seeking .away :: roles) s ↔ Balanced capacity jobs roles s := by
  constructor
  · rintro ⟨hpermitsAgree, hdistinct, hbound, hcounted, hnumbers, hbelow, hdue, hasked,
      hfits, hleases⟩
    exact ⟨Traffic.PermitsAgree.cons_away.mp hpermitsAgree, hdistinct, hbound, hcounted, hnumbers,
      hbelow, hdue,
      hasked, fun r hr => hfits r (List.mem_cons_of_mem _ hr), hleases⟩
  · rintro ⟨hpermitsAgree, hdistinct, hbound, hcounted, hnumbers, hbelow, hdue, hasked,
      hfits, hleases⟩
    refine ⟨Traffic.PermitsAgree.cons_away.mpr hpermitsAgree, hdistinct, hbound, hcounted, hnumbers,
      hbelow, hdue,
      hasked, fun r hr => ?_, hleases⟩
    rcases List.mem_cons.mp hr with rfl | hr
    · trivial
    · exact hfits r hr

/-- **Whoever has nothing left to do is not missed.** -/
lemma leave (before after : List Role) {r : Role}
    (hs : Balanced capacity jobs (before ++ r :: after) s) (hr : r.Past) :
    Balanced capacity jobs (before ++ after) s := by
  have hfirst := hs.perm List.perm_middle
  cases r with
  | seeking place =>
    obtain rfl := hr
    exact cons_seeking.mp hfirst
  | opened => exact hr.elim
  | leased base number p held loyal =>
    obtain ⟨hpermitsAgree, hdistinct, hbound, hcounted, hnumbers, hbelow, hdue, hasked, hfits,
      hleases⟩ :=
      hfirst
    refine ⟨Traffic.PermitsAgree.cons_away.mp hpermitsAgree, hdistinct, hbound, ?_, hnumbers,
      hbelow, hdue,
      hasked, fun r hr => hfits r (List.mem_cons_of_mem _ hr), fun x hx => ?_⟩
    · rwa [List.countP_cons_of_neg (by simp [Role.counted])] at hcounted
    · have hlease := hleases x hx
      by_cases hl : number = x.2
      · have hstage : (Role.leased base number p held loyal).stageOn x.2
            = some (p.countedOn loyal) := if_pos hl
        rw [List.filterMap_cons_some hstage] at hlease
        have hfirst : Aspect.Sound _ ([] ++ p.countedOn loyal :: _) _ := hlease
        exact hfirst.leave hr.1.countedOn
      · have hnone : (Role.leased base number p held loyal).stageOn x.2 = none := if_neg hl
        rwa [List.filterMap_cons_none hnone] at hlease

/-- **Somebody comes to a lease**, to use it, to close it, or to look after it.  A job that was due
may be what the newcomer does. -/
lemma arrive (hs : Balanced capacity jobs roles s) (hin : (base, number) ∈ tenancies jobs)
    {errand : Errand}
    (herrand : errand = .bystander ∨ errand = .pledged ∨ errand = .lookout)
    {due : List (TaskId × Job)} (htraffic : s'.traffic = { s.traffic with due })
    (hended : ∀ m, s'.hasEnded m = s.hasEnded m)
    (hless : ∀ entry ∈ due, entry ∈ s.traffic.due)
    (hmore : ∀ entry ∈ s.traffic.due, entry ∈ due
      ∨ entry.2 = .watch base number ∧ errand = .lookout
      ∨ entry.2 = .close base number ∧ errand = .pledged) :
    Balanced capacity jobs (roles ++ [.leased base number { errand } false true]) s' := by
  have hunreturned : unreturned jobs s' = unreturned jobs s := by
    rw [unreturned, htraffic, unreturned]
  obtain ⟨hpermitsAgree, hdistinct, hbound, hcounted, hnumbers, hbelow, hdue, hasked, hfits,
    hleases⟩ := hs
  refine perm ?_ (List.perm_append_singleton _ _).symm
  refine ⟨?_, hdistinct, ?_, ?_, hnumbers, ?_, ?_, hasked, fun r hr => ?_, fun x hx => ?_⟩
  · rw [hunreturned, htraffic]
    exact Traffic.PermitsAgree.cons_away.mpr (hpermitsAgree.of_eq rfl rfl)
  · rwa [htraffic]
  · rwa [hunreturned, htraffic, List.countP_cons_of_neg (by simp [Role.counted])]
  · rwa [htraffic]
  · rw [htraffic]
    exact fun entry hentry => hdue entry (hless entry hentry)
  · rw [htraffic]
    rcases List.mem_cons.mp hr with rfl | hr
    · exact ⟨hin, ⟨rfl, by simp⟩, by simp, by simp⟩
    · exact hfits r hr
  · have hlease := hleases x hx
    have hcell : (Memory.pool.lease x.1 x.2 : Lease World).cell.get s'
        = (Memory.pool.lease x.1 x.2).cell.get s := congrFun (congrArg Traffic.leases htraffic) x.2
    have hended' := hended x.1
    -- Of the jobs of a lease, only the one that begins is due no longer.
    have hkeeps : ∀ job, (∃ n, (n, job) ∈ s.traffic.due) → (∃ n, (n, job) ∈ s'.traffic.due)
        ∨ job = .watch base number ∧ errand = .lookout
        ∨ job = .close base number ∧ errand = .pledged := by
      rintro job ⟨n, hn⟩
      refine (hmore _ hn).imp_left fun h => ⟨n, ?_⟩
      rwa [htraffic]
    by_cases hl : number = x.2
    · obtain ⟨b, l⟩ := x
      obtain rfl : number = l := hl
      have hstage : (Role.leased base number { errand } false true).stageOn number
          = some { errand } := by simp [Role.stageOn, Stage.countedOn]
      rw [List.filterMap_cons_some hstage]
      refine (hlease.join (p := { errand }) rfl rfl herrand ?_ ?_ ?_ .inl).perm
        (List.perm_append_singleton _ _)
      · simp only [Lease.aspect, hcell]
        exact congrArg (LeaseState.aspect _ · _ _) hended'
      · intro hguard
        simp only [Lease.aspect, LeaseState.aspect, Company.due_iff] at hguard ⊢
        exact (hkeeps _ hguard).imp_right fun h => h.elim And.right fun h => by cases h.1
      · intro hclose
        simp only [Lease.aspect, LeaseState.aspect, Company.due_iff] at hclose ⊢
        exact (hkeeps _ hclose).imp_right fun h => h.elim (fun h => by cases h.1) And.right
    · have hnone : (Role.leased base number { errand } false true).stageOn x.2 = none := if_neg hl
      rw [List.filterMap_cons_none hnone]
      refine hlease.grows (grows_of_traffic hcell (by rw [hended x.1]; exact id)
        fun job hjob h => ?_)
      refine (hkeeps job h).resolve_right ?_
      rcases hjob with rfl | rfl <;> simp [Ne.symm hl]

lemma initial (capacity : Nat) (hdue : s.Unlent) :
    Balanced capacity [] [.seeking .away] (s.withMemory capacity) := by
  refine cons_seeking.mpr ⟨⟨⟨fun _ => ?_, ?_⟩, fun m => ?_⟩, by simp [tenancies],
    by simp [tenancies], rfl, by simp [tenancies], by
      simp [tenancies], fun entry hentry base number hjob => ?_, by simp, by simp,
    by simp [tenancies]⟩
  · exact .fresh_free capacity rfl rfl
  · intro h
    cases h
  · exact ⟨(by cases ·), fun h => by simp [unreturned, tenancies] at h⟩
  · obtain ⟨hwatch, hclose⟩ := hdue entry hentry base number
    exact absurd hjob (not_or.mpr ⟨hwatch, hclose⟩)

end World.Balanced

lemma World.newJobs_takeOff (s : World) (number : TaskId) (job : Job) :
    newJobs s (Company.takeOff (.start number job) s) = [] := by
  have hlength : (Company.takeOff (.start number job) s).traffic.due.length
    ≤ s.traffic.due.length :=
    ((List.erase_sublist).filterMap _).length_le
  rw [newJobs, List.drop_eq_nil_of_le hlength]
  rfl

namespace Traffic

/-- **Everything that can happen to a pool** of a given capacity, from the moment when it is set up:
checkouts and runs, calls by those who hold a lease, the closing of the manager, steps of all tasks,
one change at a time and in any order, and whatever these tasks do not see.  A checkout or a call
may be given up while it waits, unless it is a close.  What is written down is which jobs have been
due. -/
inductive Story (manager : Manager World) (capacity : Nat) (w : World) :
    List Job → Company World Unit → Prop where
  | start : Story manager capacity w [] ⟨w.withMemory capacity, .done (), []⟩
  | checkout {jobs : List Job} {c : Company World Unit} (h : Story manager capacity w jobs c) :
      Story manager capacity w jobs
        { c with beside := c.beside ++ [⟨manager.lease.run.bind fun _ => .done (), true⟩] }
  | run {jobs : List Job} {c : Company World Unit} (h : Story manager capacity w jobs c)
      {sink : Sink World} (hsink : sink.Aside) (limit : Option Duration) {program : Program World}
      (hprogram : program.Aside) :
      Story manager capacity w jobs
        { c with
          beside := c.beside
            ++ [⟨(runWith manager sink limit program).run.bind fun _ => .done (), false⟩] }
  /-- Somebody uses, closes or drops a connection that has been leased. -/
  | call {jobs : List Job} {c : Company World Unit} (h : Story manager capacity w jobs c)
      {base number : Nat} (hin : (base, number) ∈ World.tenancies jobs) (call : LeaseCall) :
      Story manager capacity w jobs
        { c with
          beside := c.beside
            ++ [⟨call.task (manager.wrap (Memory.pool.lease base number).connection), !call.ends⟩] }
  | close {jobs : List Job} {c : Company World Unit} (h : Story manager capacity w jobs c) :
      Story manager capacity w jobs { c with beside := c.beside ++ [⟨manager.close, false⟩] }
  | step {jobs : List Job} {c c' : Company World Unit} (h : Story manager capacity w jobs c)
      (hstep : Company.Step (fun job task => ∃ base number, Memory.pool.Jobs base number job task)
        c c') :
      Story manager capacity w (jobs ++ World.newJobs c.state c'.state) c'
  | aside {jobs : List Job} {c : Company World Unit} {s' : World}
      (h : Story manager capacity w jobs c) (haside : World.Aside c.state s') :
      Story manager capacity w jobs { c with state := s' }

/-- **What is true at each moment** of the parts of all tasks. -/
def Fair (capacity : Nat) (jobs : List Job) (r : Role) (rs : List Role) (s : World) : Prop :=
  World.Balanced capacity jobs (r :: rs) s ∧ s.traffic.Serial capacity

variable {awaited : (World → Bool) → Prop} {capacity : Nat} {jobs : List Job} {s s' : World}

/-- What the parts of all tasks agree about is what each of them relies on. -/
lemma knows_of_balanced (awaited : (World → Bool) → Prop) {roles : List Role} {r : Role}
    (hs : World.Balanced capacity jobs roles s) (hr : r ∈ roles) : (trade awaited).knows r s := by
  cases r with
  | seeking => trivial
  | opened base counted =>
    refine (hs.permitsAgree.permitted base).mpr (List.mem_append_left _ ?_)
    exact List.mem_filterMap.mpr ⟨_, hr, rfl⟩
  | leased base number p held loyal =>
    obtain ⟨hin, -, -, hheld⟩ := hs.fits _ hr
    have hlease := hs.leases _ hin
    have hmem : p.countedOn loyal ∈ roles.filterMap (Role.stageOn number) :=
      List.mem_filterMap.mpr ⟨_, hr, if_pos rfl⟩
    refine ⟨(hlease.knows hmem).of_countedOn, hheld, fun h => ?_, hlease.agrees.holding,
      fun h => ?_⟩
    · exact hlease.listening_of_grasps hmem (Stage.Grasps.countedOn.mpr (hheld h))
    · have hmine : (base, number) ∈ World.unreturned jobs s := List.mem_filter.mpr ⟨hin, h⟩
      exact (hs.permitsAgree.permitted base).mpr
        (List.mem_append_right _ (List.mem_map_of_mem hmine))

/-- **Every change upholds it**, whichever parts count as over. -/
lemma fair_upheld (awaited : (World → Bool) → Prop) {past : Role → Prop}
    (hpast : ∀ r, past r → r.Past)
    (hover : ∀ base number (q : Stage), q.Over → past (.leased base number q false true))
    (s s' : World) :
    Company.Upheld (trade awaited) (fun (_ : Unit) => past) past
      (fun job task => ∃ base number, Memory.pool.Jobs base number job task)
      (Fair capacity jobs) (Fair capacity (jobs ++ World.newJobs s s')) s s' where
  knows h := knows_of_balanced awaited h.1 List.mem_cons_self
  knows_beside h hr := knows_of_balanced awaited h.1 (List.mem_cons_of_mem _ hr)
  front h hmay := ⟨h.1.may [] _ hmay, h.1.serial [] _ h.2 hmay⟩
  beside {p q q' before after} _ h hmay :=
    ⟨h.1.may (p :: before) after hmay, h.1.serial (p :: before) after h.2 hmay⟩
  gone {p q before after} hq h := ⟨h.1.leave (p :: before) after (hpast q hq), h.2⟩
  start {p ps n job task} h due hjob hs' := by
    obtain ⟨base, number, hjob⟩ := hjob
    obtain ⟨errand, herrand, hkeeps⟩ := job_keeps (hover base number) hjob
    have hdue : (n, job) ∈ s.traffic.due := Company.due_iff.mp due
    have hready : (Host.schedule.get s).ready.erase (.start n job)
        ⊆ (Host.schedule.get s).ready := List.erase_subset
    have hless : ∀ entry ∈ s'.traffic.due, entry ∈ s.traffic.due := by
      rw [hs']
      intro entry hentry
      obtain ⟨turn, hturn, heq⟩ := List.mem_filterMap.mp hentry
      exact List.mem_filterMap.mpr ⟨turn, hready hturn, heq⟩
    have hmore : ∀ entry ∈ s.traffic.due, entry ∈ s'.traffic.due ∨ entry = (n, job) := by
      rw [hs']
      rintro ⟨m, other⟩ hentry
      by_cases heq : (m, other) = (n, job)
      · exact .inr heq
      · exact .inl (Schedule.mem_starts_erase hentry fun hturn => heq (by cases hturn; rfl))
    have hnew : World.newJobs s s' = [] := by
      rw [hs']
      exact World.newJobs_takeOff s n job
    rw [hnew, List.append_nil]
    have hin : (base, number) ∈ World.tenancies jobs := by
      refine h.1.due _ hdue base number ?_
      rcases herrand with ⟨rfl, -⟩ | ⟨rfl, -⟩
      · exact .inr rfl
      · exact .inl rfl
    refine ⟨_, hkeeps, h.1.arrive hin ?_ ?_ ?_ hless ?_, ?_⟩
    · rcases herrand with ⟨-, rfl⟩ | ⟨-, rfl⟩ <;> simp
    · rw [hs']
      rfl
    · rw [hs']
      exact fun _ => rfl
    · intro entry hentry
      refine (hmore entry hentry).imp_right ?_
      rintro rfl
      rcases herrand with ⟨rfl, rfl⟩ | ⟨rfl, rfl⟩ <;> simp
    · rw [hs']
      exact h.2.flows (.of_silent rfl (Nat.le_refl _) fun _ _ => id)
        (fun ids hids => h.1.length_permitted hids) fun m => h.1.le_linkCount

/-- **When the pool is set up**, all is fair. -/
lemma fair_start (capacity : Nat) {w : World} (hdue : w.Unlent) :
    Fair capacity [] (.seeking .away) [] (w.withMemory capacity) := by
  refine ⟨.initial capacity hdue, fun call hcall => ?_, ?_⟩
  · exact absurd hcall List.not_mem_nil
  · intro before call after hsplit
    exact absurd hsplit (List.append_ne_nil_of_right_ne_nil _ (List.cons_ne_nil _ _)).symm

lemma Fair.seeking {r : Role} {rs : List Role} (h : Fair capacity jobs r rs s) :
    Fair capacity jobs r (rs ++ [.seeking .away]) s :=
  ⟨(World.Balanced.cons_seeking.mpr h.1).perm (List.perm_append_singleton _ _).symm, h.2⟩

lemma Fair.calling {r : Role} {rs : List Role} {base number : Nat} (h : Fair capacity jobs r rs s)
    (hin : (base, number) ∈ World.tenancies jobs) (call : LeaseCall) :
    Fair capacity jobs r
      (rs ++ [.leased base number { errand := if call.ends then .pledged else .bystander } false
        true]) s := by
  refine ⟨h.1.arrive hin ?_ rfl (fun _ => rfl) (fun _ => id) fun _ hentry => .inl hentry, h.2⟩
  cases call.ends <;> simp

lemma Fair.aside {r : Role} {rs : List Role} (h : Fair capacity jobs r rs s)
    (haside : World.Aside s s') :
    Fair capacity jobs r rs s' := by
  refine ⟨h.1.idle haside.traffic haside.ages, ?_⟩
  rw [haside.traffic]
  exact h.2

namespace Story

variable {manager : Manager World} {w : World} {c : Company World Unit}

/-- **At each moment everybody keeps to the discipline**, and permits, connections, leases and the
parts of all tasks agree.  Futures may wait for anything. -/
theorem kept (hmanager : manager.Shared) (hdue : w.Unlent)
    (story : Story manager capacity w jobs c) :
    c.Kept (trade fun _ => True) (fun _ => Role.Past) Role.Past (Fair capacity jobs) := by
  induction story with
  | start => exact ⟨.seeking .away, [], rfl, rfl, by simp, fair_start capacity hdue⟩
  | checkout _ ih => exact ih.join (checkout_keeps hmanager) fun _ _ => Fair.seeking
  | run _ hsink limit hprogram ih =>
    have hkeeps := run_keeps hmanager hsink limit hprogram (Program.awaits_anything _)
    exact ih.join hkeeps fun _ _ => Fair.seeking
  | call _ hin call ih =>
    exact ih.join ((hmanager.trades _ _).call_keeps call) fun _ _ h => h.calling hin call
  | close _ ih => exact ih.join (close_keeps hmanager) fun _ _ => Fair.seeking
  | step _ hstep ih =>
    exact ih.step hstep (fair_upheld _ (fun _ => id) (fun _ _ _ h => ⟨h, rfl⟩) _ _)
  | aside _ haside ih => exact ih.around fun _ _ h => h.aside haside

lemma front (story : Story manager capacity w jobs c) : c.front = .done () := by
  induction story with
  | start => rfl
  | step _ hstep ih =>
    cases hstep with
    | front h =>
      obtain rfl := ih
      cases h
    | _ => exact ih
  | _ => assumption

/-- The jobs that have been due after a turn. -/
def jobsAlong (self : TaskId) : Task World Unit → World → List Job → List Job
  | .done _, _, jobs => jobs
  | .act update next, s, jobs =>
      jobsAlong self (next s) (update s) (jobs ++ World.newJobs s (update s))
  | .wait on next, s, jobs =>
      if on.ready s then jobsAlong self next s (jobs ++ World.newJobs s s)
      else jobs ++ World.newJobs s (on.register self s)

/-- **A turn of a task beside others** is a sequence of its steps. -/
lemma turn (self : TaskId) (before after : List (Strand World)) {front : Task World Unit}
    {task : Task World Unit} {optional : Bool} {s : World}
    (story : Story manager capacity w jobs ⟨s, front, before ++ ⟨task, optional⟩ :: after⟩) :
    Story manager capacity w (jobsAlong self task s jobs)
      ⟨(task.poll self s).2, front, before ++ ⟨(task.poll self s).1, optional⟩ :: after⟩ := by
  have hrest : front.Rests := by
    rw [show front = .done () from story.front]
    trivial
  induction task generalizing s jobs with
  | done a => exact story
  | act update next ih => exact ih s (story.step (.beside hrest (.act update next s)))
  | wait on next ih =>
    rw [Task.poll, jobsAlong]
    split
    next hready => exact ih (story.step (.beside hrest (.pass on next s hready)))
    next => exact story.step (.beside hrest (.register on next self s))

/-- **A task after so many changes**, as long as it does not have to wait. -/
def advance (self : TaskId) : Nat → Task World Unit → World → Task World Unit × World
  | 0, task, s => (task, s)
  | _ + 1, .done a, s => (.done a, s)
  | n + 1, .act update next, s => advance self n (next s) (update s)
  | n + 1, .wait on next, s =>
      if on.ready s then advance self n next s else (.wait on next, on.register self s)

/-- **A task among others that takes so many steps**, and stops there. -/
lemma some_steps (self : TaskId) (n : Nat) (before after : List (Strand World))
    {front task : Task World Unit} {optional : Bool} {s : World}
    (story : Story manager capacity w jobs ⟨s, front, before ++ ⟨task, optional⟩ :: after⟩) :
    ∃ jobs', Story manager capacity w jobs' ⟨(advance self n task s).2, front,
      before ++ ⟨(advance self n task s).1, optional⟩ :: after⟩ := by
  have hrest : front.Rests := by
    rw [show front = .done () from story.front]
    trivial
  induction n generalizing task s jobs with
  | zero => exact ⟨jobs, story⟩
  | succ n ih =>
    cases task with
    | done a => exact ⟨jobs, story⟩
    | act update next => exact ih (story.step (.beside hrest (.act update next s)))
    | wait on next =>
      rw [advance]
      split
      next hready => exact ih (story.step (.beside hrest (.pass on next s hready)))
      next => exact ⟨_, story.step (.beside hrest (.register on next self s))⟩

end Story

end Traffic

end Transactional
