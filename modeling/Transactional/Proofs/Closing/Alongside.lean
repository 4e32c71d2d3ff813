import Transactional.Proofs.Closing.Accounts

/-!
# The same, if nobody had closed the manager

Beside every story in which the manager is closed there is one in which every close does nothing,
and in which all those who have a connection do the same in the same order.  Whoever has been
refused in the first has not moved since in the second.

* `CallerStage.Alongside`, `CallerSystem.Alongside` — two systems that are the same for those who
  have a connection.
* `CallerStage.Goes.alongside` — each step of a caller is a step of his counterpart, or is none of
  his business.
* **`CallerSystem.Story.alongside`** — the story in which nobody has closed the manager.
-/

namespace Transactional

/-! ## Callers -/

/-- Whoever does this with his connection does not notice the closing. -/
def Manager.Untroubled (clone : Manager World)
    (use : Connection World → Task World (Except Fault Value)) :
    Prop :=
  ∀ base number, (use (clone.wrap (Memory.pool.lease base number).connection)).Untroubled Eq
    (use (clone.wrap (Memory.pool.lease base number).connection))

namespace CallerStage

def Seeks : CallerStage → Prop
  | .asking _ _ | .waiting _ _ _ => True
  | _ => False

/-- **Two callers who are the same if they have a connection**, when the pool of the first has been
shut or has not. -/
inductive Alongside (shut : Bool) : CallerStage → CallerStage → Prop where
  | asking {clone : Manager World} {use : Connection World → Task World (Except Fault Value)}
      (hclone : clone.Clone) (huse : clone.Untroubled use) :
      Alongside shut (.asking clone use) (.asking clone use)
  | waiting {clone : Manager World} {use : Connection World → Task World (Except Fault Value)}
      {rest : Task World Bool} (hopen : shut = false) (hrest : Memory.Queueing rest)
      (huse : clone.Untroubled use) : Alongside shut (.waiting clone rest use)
        (.waiting clone rest use)
  | barred {clone : Manager World} {use : Connection World → Task World (Except Fault Value)}
      {rest : Task World Bool} {b : CallerStage} (hshut : shut = true)
        (hrest : Memory.Queueing rest)
      (hseeks : b.Seeks) : Alongside shut (.waiting clone rest use) b
  | refused {fault : Fault} {b : CallerStage} (hseeks : b.Seeks) : Alongside shut (.refused fault) b
  | left {b : CallerStage} (hseeks : b.Seeks) : Alongside shut .gone b
  | working {rest rest' : Task World (Except Fault Value)} (h : rest.Untroubled Eq rest') :
      Alongside shut (.working rest) (.working rest')
  | helper {rest rest' : Task World Unit} (h : rest.Untroubled Eq rest') :
      Alongside shut (.helper rest) (.helper rest')
  | gone : Alongside shut .gone .gone
  | closer {clone : Manager World} {phase : Closer} (hclone : clone.Clone) :
      Alongside shut (.closer clone phase) (.closer clone .finished)

variable {shut shut' : Bool} {b b' c c' : CallerStage} {s s' t t' : World}

lemma Alongside.later (h : b.Alongside shut c) (hlater : shut = true → shut' = true) :
    b.Alongside shut' c := by
  cases h with
  | asking hclone huse => exact .asking hclone huse
  | waiting hopen hrest huse =>
    cases hshut : shut' with
    | false => exact .waiting rfl hrest huse
    | true => exact .barred rfl hrest trivial
  | barred hshut hrest hseeks => exact .barred (hlater hshut) hrest hseeks
  | refused hseeks => exact .refused hseeks
  | left hseeks => exact .left hseeks
  | working h => exact .working h
  | helper h => exact .helper h
  | gone => exact .gone
  | closer hclone => exact .closer hclone

/-- What has been said of a caller and his counterpart after a step of the first. -/
inductive Follows (b : CallerStage) (s' : World) (c : CallerStage) (t : World) : Prop where
  | moved {c' : CallerStage} {t' : World} (hgoes : c.Goes t c' t')
      (h : b.Alongside s'.accounts.permits.shut c') (hs : World.SameButClosed s' t')
  | stayed {t' : World} (haside : World.Aside t t') (hclosed : t'.managerClosed = t.managerClosed)
      (h : b.Alongside s'.accounts.permits.shut c) (hs : World.SameButClosed s' t')

lemma Follows.of_unnoticed (hs : World.SameButClosed s t) (hunnoticed : World.Unnoticed s s')
    (h : b.Alongside s'.accounts.permits.shut c) : b.Follows s' c t := by
  obtain ⟨t', haside, hclosed, hworlds⟩ := hs.unnoticed hunnoticed
  exact .stayed haside hclosed h hworlds

lemma closer_unnoticed {clone : Manager World} (hclone : clone.Clone) {phase : Closer}
    {rest : Task World Unit}
    (h : (phase.task clone).Moves s rest s') :
    World.Unnoticed s s' ∧ (s.accounts.permits.shut = true → s'.accounts.permits.shut = true) := by
  cases phase with
  | asked =>
    cases h
    rw [hclone.closed]
    exact ⟨⟨rfl, rfl, fun _ => rfl⟩, id⟩
  | shutting =>
    rw [Closer.task, hclone.pool] at h
    cases h
    obtain ⟨c, heq, -⟩ := World.updating_permits Semaphore.refuseAll s
    exact ⟨.updating rfl, fun _ => congrArg (fun s : World => s.accounts.permits.shut) heq⟩
  | finished => cases h

/-- **Each step of a caller is a step of his counterpart**, or is none of his business; and it does
not open a pool that is shut. -/
theorem Goes.alongside (h : b.Goes s b' s') (halong : b.Alongside s.accounts.permits.shut c)
    (hs : World.SameButClosed s t) :
    (s.accounts.permits.shut = true → s'.accounts.permits.shut = true) ∧ b'.Follows s' c t := by
  cases h with
  | turnedAway =>
    cases halong with
    | asking => exact ⟨id, .stayed (.refl t) rfl (.refused trivial) hs⟩
  | queue =>
    cases halong with
    | asking hclone huse =>
      refine ⟨id, .moved (.queue ?_) ?_ hs⟩
      · rw [hclone.closed]
        exact hs.unclosed
      · cases hshut : s.accounts.permits.shut with
        | false => exact .waiting rfl .arriving huse
        | true => exact .barred rfl .arriving trivial
  | @wait clone use _ _ rest rest' hmove =>
    cases halong with
    | waiting hopen hrest huse =>
      obtain ⟨hsteady, hanswer⟩ := hrest.goes_on hmove
      obtain ⟨t', hmove', hs'⟩ := hrest.moves hopen hs hmove
      refine ⟨fun hshut => hsteady.shut.trans hshut, .moved (.wait hmove') ?_ hs'⟩
      rw [hsteady.shut, hopen]
      obtain hrest' | rfl := hanswer
      · rw [answered_of_queueing hrest']
        exact .waiting rfl hrest' huse
      · rw [hopen]
        exact .working (Manager.resume_untroubled huse)
    | barred hshut hrest hseeks =>
      obtain ⟨hsteady, hanswer⟩ := hrest.goes_on hmove
      refine ⟨fun hshut => hsteady.shut.trans hshut,
        .of_unnoticed hs (hrest.unnoticed hshut hmove) ?_⟩
      rw [hsteady.shut, hshut]
      obtain hrest' | rfl := hanswer
      · rw [answered_of_queueing hrest']
        exact .barred rfl hrest' hseeks
      · rw [hshut]
        exact .refused hseeks
  | work hmove =>
    cases halong with
    | working h =>
      obtain ⟨hsteady, rest', t', hmove' | ⟨rfl, rfl⟩, hrest, hs'⟩ := h.moves hs hmove
      · exact ⟨fun hshut => hsteady.shut.trans hshut, .moved (.work hmove') (.working hrest) hs'⟩
      · exact ⟨fun hshut => hsteady.shut.trans hshut, .stayed (.refl _) rfl (.working hrest) hs'⟩
  | help hmove =>
    cases halong with
    | helper h =>
      obtain ⟨hsteady, rest', t', hmove' | ⟨rfl, rfl⟩, hrest, hs'⟩ := h.moves hs hmove
      · exact ⟨fun hshut => hsteady.shut.trans hshut, .moved (.help hmove') (.helper hrest) hs'⟩
      · exact ⟨fun hshut => hsteady.shut.trans hshut, .stayed (.refl _) rfl (.helper hrest) hs'⟩
  | close hmove =>
    cases halong with
    | closer hclone =>
      obtain ⟨hunnoticed, hshut⟩ := closer_unnoticed hclone hmove
      exact ⟨hshut, .of_unnoticed hs hunnoticed (.closer hclone)⟩

/-- A wait after which nothing but forgetting is left is a wait of the task itself. -/
lemma wait_of_map {α : Type} {task : Task World α} {on : Wait World} {next : Task World Unit}
    (h : (task.bind fun _ => .done ()) = .wait on next) : ∃ next', task = .wait on next' := by
  cases task with
  | done | act => cases h
  | wait on' next' =>
    cases h
    exact ⟨next', rfl⟩

/-- **If a caller gives up, so does his counterpart**, or it is none of his business. -/
theorem alongside_giveUp (halong : b.Alongside s.accounts.permits.shut c)
    (hs : World.SameButClosed s t)
    {on : Wait World} {next : Task World Unit} (hwait : b.task = .wait on next) :
    World.Steady s (on.abandon s)
      ∧ ((∃ on' next', c.task = .wait on' next' ∧ World.SameButClosed (on.abandon s)
        (on'.abandon t))
        ∨ c.Seeks ∧ World.Unnoticed s (on.abandon s)) := by
  cases halong with
  | @asking clone use hclone =>
    rw [asking_task hclone.pool] at hwait
    cases hwait
  | @waiting clone use rest hopen hrest huse =>
    cases rest with
    | done had => exact absurd rfl (hrest.ne_done had)
    | act => cases hwait
    | wait on' next' =>
      cases hwait
      obtain ⟨hsteady, habandon⟩ := hrest.abandon hs
      exact ⟨hsteady, .inl ⟨_, _, rfl, habandon⟩⟩
  | @barred clone use rest _ hshut hrest hseeks =>
    cases rest with
    | done had => exact absurd rfl (hrest.ne_done had)
    | act => cases hwait
    | wait on' next' =>
      cases hwait
      exact ⟨(hrest.abandon hs).1, .inr ⟨hseeks, hrest.abandon_shut hshut⟩⟩
  | refused | left | gone => cases hwait
  | working h =>
    obtain ⟨rest, rfl⟩ := wait_of_map hwait
    obtain ⟨hsteady, on', next', rfl, habandon⟩ := h.abandon hs
    exact ⟨hsteady, .inl ⟨on', _, rfl, habandon⟩⟩
  | helper h =>
    cases hwait
    obtain ⟨hsteady, on', next', rfl, habandon⟩ := h.abandon hs
    exact ⟨hsteady, .inl ⟨on', _, rfl, habandon⟩⟩
  | @closer clone phase hclone =>
    cases phase with
    | asked | finished => cases hwait
    | shutting =>
      rw [show (CallerStage.closer clone .shutting).task = clone.pool.shutDown from rfl,
        hclone.pool] at hwait
      cases hwait

end CallerStage

/-! ## CallerSystems -/

/-- **Two callers who are the same if they have a connection.** -/
structure Caller.Alongside (shut : Bool) (caller caller' : Caller) : Prop where
  business : caller.business.Alongside shut caller'.business
  optional : caller.optional = caller'.optional

lemma Caller.Alongside.later {shut shut' : Bool} {caller caller' : Caller}
    (h : caller.Alongside shut caller')
    (hlater : shut = true → shut' = true) : caller.Alongside shut' caller' :=
  ⟨h.business.later hlater, h.optional⟩

namespace CallerSystem

/-- **Two systems that are the same for those who have a connection.** -/
structure Alongside (system system' : CallerSystem) : Prop where
  state : World.SameButClosed system.state system'.state
  jobs : system'.jobs = system.jobs
  callers : List.Forall₂ (Caller.Alongside system.state.accounts.permits.shut) system.callers
    system'.callers

variable {capacity : Nat} {w : World} {system system' next : CallerSystem} {s s' t t' : World}

lemma newJobs_of_sameButClosed (hs : World.SameButClosed s t) (hs' : World.SameButClosed s' t') :
    World.newJobs t t' = World.newJobs s s' := by
  have hdue : t.traffic.due = s.traffic.due := hs.schedule.starts.symm
  have hdue' : t'.traffic.due = s'.traffic.due := hs'.schedule.starts.symm
  rw [World.newJobs, World.newJobs, hdue, hdue']

lemma newJobs_of_aside (h : World.Aside t t') : World.newJobs t t' = [] := by
  rw [World.newJobs, h.traffic, List.drop_length]
  rfl

lemma Alongside.addCaller (h : system.Alongside system') {caller caller' : Caller}
    (hcaller : caller.Alongside system.state.accounts.permits.shut caller') :
    (system.addCaller caller).Alongside (system'.addCaller caller') :=
  ⟨h.state, h.jobs, List.rel_append h.callers (.cons hcaller .nil)⟩

/-- **A caller moves**, and his counterpart does or does not. -/
lemma alongside_move {before after : List Caller} {b b' : CallerStage} {optional : Bool}
    {lease lease' : Option (Nat × Nat)} {jobs : List Job} {n : Nat} (hgoes : b.Goes s b' s')
    (h : Alongside ⟨s, before ++ ⟨b, optional, lease⟩ :: after, jobs, n⟩ system') :
    ∃ next', Relation.ReflTransGen (Step false) system' next'
      ∧ Alongside ⟨s', before ++ ⟨b', optional, lease'⟩ :: after, jobs ++ World.newJobs s s',
        n + b.shuts.toNat⟩ next' := by
  obtain ⟨t, callers, jobs', n'⟩ := system'
  have hs : World.SameButClosed s t := h.state
  obtain rfl : jobs' = jobs := h.jobs
  obtain ⟨before', ⟨c, o, x⟩, after', rfl, ⟨hbusiness, hoptional⟩, hreplaced⟩ :=
    forall₂_split h.callers
  obtain rfl : optional = o := hoptional
  obtain ⟨hlater, hfollows⟩ := hgoes.alongside hbusiness hs
  have hrest := fun (x y : Caller) (hxy : x.Alongside s.accounts.permits.shut y) => hxy.later hlater
  cases hfollows with
  | moved hgoes' halong hs' =>
    exact ⟨_, .single (.move _ _ hgoes'), hs',
      congrArg (jobs' ++ ·) (newJobs_of_sameButClosed hs hs'),
      hreplaced hrest ⟨halong, rfl⟩⟩
  | stayed haside hclosed halong hs' =>
    refine ⟨_, .single (.aside haside hclosed), hs', ?_, hreplaced hrest ⟨halong, rfl⟩⟩
    rw [← newJobs_of_sameButClosed hs hs', newJobs_of_aside haside, List.append_nil]

/-- **A caller gives up**, and his counterpart does or does not. -/
lemma alongside_leave {before after : List Caller} {b : CallerStage}
    {lease lease' : Option (Nat × Nat)}
    {jobs : List Job} {n : Nat} {on : Wait World} {rest : Task World Unit}
    (hwait : b.task = .wait on rest)
    (h : Alongside ⟨s, before ++ ⟨b, true, lease⟩ :: after, jobs, n⟩ system') :
    ∃ next', Relation.ReflTransGen (Step false) system' next'
      ∧ Alongside ⟨on.abandon s, before ++ ⟨.gone, true, lease'⟩ :: after,
        jobs ++ World.newJobs s (on.abandon s), n⟩ next' := by
  obtain ⟨t, callers, jobs', n'⟩ := system'
  have hs : World.SameButClosed s t := h.state
  obtain rfl : jobs' = jobs := h.jobs
  obtain ⟨before', ⟨c, o, x⟩, after', rfl, ⟨hbusiness, hoptional⟩, hreplaced⟩ :=
    forall₂_split h.callers
  obtain rfl : true = o := hoptional
  obtain ⟨hsteady, ⟨on', rest', hwait', hs'⟩ | ⟨hseeks, hunnoticed⟩⟩ :=
    CallerStage.alongside_giveUp hbusiness hs hwait
  · exact ⟨_, .single (.giveUp hwait'), hs',
      congrArg (jobs' ++ ·) (newJobs_of_sameButClosed hs hs'),
      hreplaced (fun _ _ hxy => hxy.later fun hshut => hsteady.shut.trans hshut) ⟨.gone, rfl⟩⟩
  · obtain ⟨t', haside, hclosed, hs'⟩ := hs.unnoticed hunnoticed
    refine ⟨_, .single (.aside haside hclosed), hs', ?_,
      hreplaced (fun _ _ hxy => hxy.later fun hshut => hsteady.shut.trans hshut)
        ⟨.left hseeks, rfl⟩⟩
    rw [← newJobs_of_sameButClosed hs hs', newJobs_of_aside haside, List.append_nil]

lemma sameButClosed_takeOff (hs : World.SameButClosed s t) (number : TaskId) (job : Job) :
    World.SameButClosed (Company.takeOff (.start number job) s)
      (Company.takeOff (.start number job) t) := by
  refine hs.reschedule fun hlike => ⟨?_, hlike.rest⟩
  rw [Schedule.starts_erase, Schedule.starts_erase, hlike.starts]

/-- **Each step has its counterpart** in the system where nobody closes the manager. -/
theorem Step.alongside (hstep : Step true system next) (h : system.Alongside system') :
    ∃ next', Relation.ReflTransGen (Step false) system' next' ∧ next.Alongside next' := by
  cases hstep with
  | checkout hclone =>
    refine ⟨_, .single (.checkout hclone), h.addCaller ⟨.asking hclone fun base number => ?_, rfl⟩⟩
    exact ⟨.done rfl, .done trivial⟩
  | run hclone hsink limit hprogram =>
    exact ⟨_, .single (.run hclone hsink limit hprogram),
      h.addCaller ⟨.asking hclone (hclone.run_untroubled hsink limit hprogram), rfl⟩⟩
  | call hclone hin call =>
    exact ⟨_, .single (.call hclone (h.jobs ▸ hin) call),
      h.addCaller ⟨.helper (hclone.call_untroubled _ _ call), rfl⟩⟩
  | close hclone => exact ⟨_, .single (.close hclone), h.addCaller ⟨.closer hclone, rfl⟩⟩
  | move _ _ hgoes => exact alongside_move hgoes h
  | giveUp hwait => exact alongside_leave hwait h
  | @begin s callers number job task jobs n due hjob =>
    obtain ⟨t, callers', jobs', n'⟩ := system'
    have hs : World.SameButClosed s t := h.state
    obtain rfl : jobs' = jobs := h.jobs
    have hs' := sameButClosed_takeOff hs number job
    have due' : Company.Due number job t :=
      Company.due_iff.mpr (hs.schedule.starts ▸ Company.due_iff.mp due)
    obtain ⟨base, lease, hjob'⟩ := hjob
    exact ⟨_, .single (.begin due' ⟨base, lease, hjob'⟩), hs',
      congrArg (jobs' ++ ·) (newJobs_of_sameButClosed hs hs'),
      List.rel_append h.callers (.cons ⟨.helper (job_untroubled hjob'), rfl⟩ .nil)⟩
  | @aside _ s' haside hclosed =>
    obtain ⟨t', haside', hclosed', hs'⟩ := h.state.aside haside
    have hshut : s'.accounts = system.state.accounts := congrArg Traffic.accounts haside.traffic
    refine ⟨_, .single (.aside haside' hclosed'), hs', h.jobs, ?_⟩
    rw [hshut]
    exact h.callers

/-- **Beside every story there is one in which nobody has closed the manager.** -/
theorem Story.alongside (hopen : w.managerClosed = false) (story : Story true capacity w system) :
    ∃ system', Story false capacity w system' ∧ system.Alongside system' := by
  induction story with
  | refl => exact ⟨_, .refl, ⟨rfl, .refl _, hopen, fun _ => rfl⟩, rfl, .nil⟩
  | tail _ hstep ih =>
    obtain ⟨system', story', halong⟩ := ih
    obtain ⟨next', hsteps, halong'⟩ := hstep.alongside halong
    exact ⟨next', story'.trans hsteps, halong'⟩

end CallerSystem

end Transactional
