import Transactional.Proofs.Closing.Callers
import Transactional.Proofs.Traffic.Owners

/-!
# The accounts of a pool that may be closed

Whoever uses a clone of the manager keeps to the discipline of those who share its pool, also if he
closes it or finds it closed.  So the accounts agree as they do in a pool that stays open; and of
each lease it is known in whose step it has been started, so that a run that is over has closed its
own.

* `Caller.Keeps`, `CallerSystem.Kept` — permits, connections, leases and the parts of all callers
  agree.
* `CallerSystem.Step.kept`, `CallerSystem.Story.kept` — they do at each moment.
* `CallerSystem.Kept.closed`, `CallerSystem.Kept.accounts` — the leases of runs that are over, and
  those that have come back.
-/

namespace Transactional

lemma Sink.Foreign.aside {sink : Sink World} (h : sink.Foreign) : sink.Aside :=
  fun event s => ((h event).elsewhere s).aside

lemma Program.Foreign.aside {program : Program World} (h : program.Foreign) : program.Aside :=
  h.imp fun _ hlift => hlift.1.imp fun _ _ _ helsewhere => helsewhere.aside

variable {capacity : Nat} {jobs : List Job} {roles rs : List Role} {r r' : Role} {s s' : World}

/-! ## Callers -/

/-- Whether somebody has come for a connection. -/
def CallerStage.visits : CallerStage → Bool
  | .asking _ _ | .waiting _ _ _ | .working _ | .refused _ => true
  | _ => false

lemma CallerStage.Goes.visits {b b' : CallerStage} (h : b.Goes s b' s') : b'.visits = b.visits := by
  cases h with
  | wait =>
    unfold CallerStage.answered
    split <;> rfl
  | _ => rfl

namespace Caller

/-- **Somebody who makes a run**: he does not keep his connection. -/
def concludes (caller : Caller) : Bool :=
  caller.business.visits && !caller.optional

/-- **Where a caller may come to his end**: who makes a run has closed his lease. -/
def Ends (caller : Caller) (r : Role) : Prop :=
  r.Past ∧ (caller.concludes = true → r.Concluded)

/-- **A caller keeps to the discipline**, in a part in which he has started the lease that is
recorded of him. -/
structure Keeps (caller : Caller) (r : Role) : Prop where
  task : caller.business.task.Obeys (trade fun _ => True)
    (fun q f => caller.optional = true → Company.Leaves (trade fun _ => True) Role.Past q f)
      (fun _ => caller.Ends) r
  lease : ∀ x, caller.lease = some x → r.own? = some x

lemma Keeps.of_company {caller : Caller}
    (h : Company.Keeps (trade fun _ => True) Role.Past ⟨caller.business.task, caller.optional⟩ r)
    (hconcludes : caller.concludes = false) (hlease : caller.lease = none) : caller.Keeps r where
  task := h.mono (fun _ _ => id) fun _ _ hpast => ⟨hpast, fun h => by rw [hconcludes] at h; cases h⟩
  lease x h := by rw [hlease] at h; cases h

lemma run_keeps {clone : Manager World} (hclone : clone.Clone) {sink : Sink World}
    (hsink : sink.Foreign)
    (limit : Option Duration) {program : Program World} (hprogram : program.Foreign) :
    (Caller.run clone sink limit program).Keeps (.seeking .away) where
  task := by
    rw [Caller.run_task]
    refine ((run_obeys hclone.shared hsink.aside limit hprogram.aside
        program.awaits_anything).mono
      (fun _ _ _ hfalse => by cases hfalse) fun _ _ h => h).bind ?_
    rintro _ r (rfl | ⟨base, number, q, hover, hsight, rfl⟩)
    · exact ⟨rfl, fun _ => trivial⟩
    · exact ⟨⟨hover, rfl⟩, fun _ => hsight⟩
  lease x h := by cases h

end Caller

namespace CallerSystem

variable {closing : Bool} {w : World} {system system' : CallerSystem}

/-- **Everybody keeps to the discipline**, permits, connections, leases and the parts of all callers
agree, and every lease is recorded of somebody. -/
def Kept (capacity : Nat) (system : CallerSystem) : Prop :=
  ∃ roles, List.Forall₂ Caller.Keeps system.callers roles
    ∧ Traffic.Fair capacity system.jobs (.seeking .away) roles system.state
    ∧ ∀ x ∈ World.tenancies system.jobs, ∃ caller ∈ system.callers, caller.lease = some x

lemma Kept.addCaller (h : system.Kept capacity) {caller : Caller} (hkeeps : caller.Keeps r)
    (hfair : ∀ ps, Traffic.Fair capacity system.jobs (.seeking .away) ps system.state →
      Traffic.Fair capacity system.jobs (.seeking .away) (ps ++ [r]) system.state) :
    (system.addCaller caller).Kept capacity := by
  obtain ⟨roles, system, hroles, howners⟩ := h
  refine ⟨roles ++ [r], List.rel_append system (.cons hkeeps .nil), hfair _ hroles, fun x hx => ?_⟩
  obtain ⟨owner, hmem, hlease⟩ := howners x hx
  exact ⟨owner, List.mem_append_left _ hmem, hlease⟩

/-- **One of the callers does something.** -/
lemma Kept.replace {before after : List Caller} {b b' : CallerStage} {optional : Bool}
    {lease : Option (Nat × Nat)} {n n' : Nat}
    (h : Kept capacity ⟨s, before ++ ⟨b, optional, lease⟩ :: after, jobs, n⟩)
    (hmove : ∀ r, (trade fun _ => True).knows r s → Caller.Keeps ⟨b, optional, lease⟩ r → ∃ r',
      (trade fun _ => True).may r s r' s'
      ∧ b'.task.Obeys (trade fun _ => True)
        (fun q f => optional = true → Company.Leaves (trade fun _ => True) Role.Past q f)
        (fun _ => Caller.Ends ⟨b', optional, lease.or (World.newLease s s')⟩) r') :
    Kept capacity ⟨s', before ++ ⟨b', optional, lease.or (World.newLease s s')⟩ :: after,
      jobs ++ World.newJobs s s', n'⟩ := by
  obtain ⟨roles, hcallers, hfair, howners⟩ := h
  obtain ⟨rsBefore, r, rsAfter, rfl, hkeeps, hreplaced⟩ := forall₂_split hcallers
  have up := @Traffic.fair_upheld capacity jobs (fun _ => True) Role.Past (fun _ => id)
    (fun _ _ _ hover => ⟨hover, rfl⟩) s s'
  obtain ⟨r', hmay, htask⟩ := hmove r (up.knows_beside hfair (by simp)) hkeeps
  obtain ⟨hown, hnew⟩ := hfair.1.may_own (.seeking .away :: rsBefore) rsAfter hmay
  have hlease : ∀ x, lease.or (World.newLease s s') = some x → r'.own? = some x := by
    intro x hx
    rcases Option.or_eq_some_iff.mp hx with hx | ⟨-, hx⟩
    · exact hown x (hkeeps.lease x hx)
    · exact hnew x (List.mem_of_mem_head? hx)
  refine ⟨rsBefore ++ r' :: rsAfter, hreplaced (fun _ _ => id) ⟨htask, hlease⟩,
    up.beside (.inr ⟨(), rfl⟩) hfair hmay, fun x hx => ?_⟩
  rw [World.tenancies_append] at hx
  rcases List.mem_append.mp hx with hx | hx
  · obtain ⟨owner, hmem, howner⟩ := howners x hx
    rcases List.mem_append.mp hmem with hmem | hmem
    · exact ⟨owner, List.mem_append_left _ hmem, howner⟩
    rcases List.mem_cons.mp hmem with rfl | hmem
    · exact ⟨_, List.mem_append_right _ List.mem_cons_self,
        by rw [show lease = some x from howner]; rfl⟩
    · exact ⟨owner, List.mem_append_right _ (List.mem_cons_of_mem _ hmem), howner⟩
  · -- It is recorded of him unless another one is, and that would be the same.
    refine ⟨_, List.mem_append_right _ List.mem_cons_self, ?_⟩
    obtain ⟨y, hy⟩ : ∃ y, lease.or (World.newLease s s') = some y := by
      cases lease with
      | some y => exact ⟨y, rfl⟩
      | none =>
        obtain ⟨y, rest, heq⟩ := List.exists_cons_of_ne_nil (List.ne_nil_of_mem hx)
        exact ⟨y, by rw [Option.none_or, World.newLease, heq]; rfl⟩
    have hsame : some y = some x := (hlease y hy).symm.trans (hnew x hx)
    exact hy.trans hsame

/-- **Each step upholds it.** -/
theorem Step.kept (hstep : Step closing system system') (hproper : system.Proper)
    (h : system.Kept capacity) :
    system'.Kept capacity := by
  have hseeking := fun (ps : List Role)
    (hfair : Traffic.Fair capacity system.jobs (.seeking .away) ps system.state) => hfair.seeking
  cases hstep with
  | checkout hclone =>
    refine h.addCaller (.of_company ?_ rfl rfl) hseeking
    exact (congrArg (Company.Keeps (trade fun _ => True) Role.Past ⟨·, true⟩ _)
      (Caller.checkout_task _)).mpr
      (checkout_keeps hclone.shared)
  | run hclone hsink limit hprogram =>
    exact h.addCaller (Caller.run_keeps hclone hsink limit hprogram) hseeking
  | call hclone hin call =>
    exact h.addCaller (.of_company ((hclone.shared.trades _ _).call_keeps call) rfl rfl)
      fun _ hfair => hfair.calling hin call
  | close hclone =>
    cases closing with
    | true => exact h.addCaller (.of_company (close_keeps hclone.shared) rfl rfl) hseeking
    | false => exact h.addCaller (r := .seeking .away) (.of_company rfl rfl rfl) hseeking
  | @move s s' before after b b' optional lease jobs shutdowns hgoes =>
    refine h.replace fun r hr hkeeps => ?_
    have hmove : b.task.Moves s b'.task s' :=
      (CallerStage.goes_iff (hproper ⟨b, optional, lease⟩ (by simp))).mpr ⟨b', hgoes, rfl⟩
    obtain ⟨r', hmay, htask⟩ := Task.Obeys.moves hkeeps.task hr hmove
    refine ⟨r', hmay, htask.mono (fun _ _ => id) fun _ q hq => ⟨hq.1, fun hconcludes => hq.2 ?_⟩⟩
    rwa [Caller.concludes, hgoes.visits] at hconcludes
  | @giveUp s before after b lease on next jobs shutdowns hwait =>
    refine h.replace fun r hr hkeeps => ?_
    have htask := hkeeps.task
    rw [hwait] at htask
    obtain ⟨r', hmay, hpast⟩ := htask.2.1 rfl s hr
    exact ⟨r', hmay, hpast, fun hfalse => by cases hfalse⟩
  | @begin s callers number job task jobs shutdowns due hjob =>
    obtain ⟨roles, hcallers, hfair, howners⟩ := h
    obtain ⟨r, hkeeps, hfair'⟩ := (@Traffic.fair_upheld capacity jobs (fun _ => True) Role.Past
      (fun _ => id) (fun _ _ _ hover => ⟨hover, rfl⟩) s
        (Company.takeOff (.start number job) s)).start hfair due hjob rfl
    refine ⟨roles ++ [r], List.rel_append hcallers
      (.cons (.of_company hkeeps rfl rfl) .nil), hfair',
      fun x hx => ?_⟩
    rw [World.newJobs_takeOff, List.append_nil] at hx
    obtain ⟨owner, hmem, howner⟩ := howners x hx
    exact ⟨owner, List.mem_append_left _ hmem, howner⟩
  | aside haside =>
    obtain ⟨roles, hcallers, hfair, howners⟩ := h
    exact ⟨roles, hcallers, hfair.aside haside, howners⟩

/-- **At each moment everybody keeps to the discipline.** -/
theorem Story.kept (hdue : w.Unlent) (story : Story closing capacity w system) :
    system.Kept capacity := by
  induction story with
  | refl =>
    exact ⟨[], .nil, Traffic.fair_start capacity hdue, fun x hx => absurd hx List.not_mem_nil⟩
  | tail hstory hstep ih => exact hstep.kept (Story.proper hstory) ih

/-! ## What the accounts say -/

/-- **Nobody has anything left to do**: every caller is at his end, or waits for something that has
not come, also with a fresh turn; and no job is due that looks after a lease. -/
structure Settled (system : CallerSystem) : Prop where
  rest : ∀ caller ∈ system.callers, caller.business.task = .done ()
    ∨ ∃ on next, caller.business.task = .wait on next
      ∧ on.ready (Host.schedule.modify Schedule.refresh system.state) = false
  jobs : system.state.Unlent

/-- **A run that is over has closed its lease.** -/
lemma Kept.closed (h : system.Kept capacity) {caller : Caller} (hmem : caller ∈ system.callers)
    (hrun : caller.concludes = true) (hover : caller.business.task = .done ()) {x : Nat × Nat}
    (hlease : caller.lease = some x) : (system.state.traffic.leases x.2).closed = true := by
  obtain ⟨roles, hcallers, hfair, -⟩ := h
  obtain ⟨i, hi, rfl⟩ := List.mem_iff_getElem.mp hmem
  have hlength := hcallers.length_eq
  have hroles : i < roles.length := hlength ▸ hi
  have hkeeps := List.Forall₂.get hcallers hi hroles
  have hknows := Traffic.knows_of_balanced (fun _ => True) hfair.1
    (List.mem_cons_of_mem _ (List.getElem_mem hroles))
  simp only [List.get_eq_getElem] at hkeeps
  generalize roles[i] = r at hkeeps hknows
  have htask := hkeeps.task
  rw [hover] at htask
  have hown := hkeeps.lease x hlease
  cases r with
  | seeking | opened => cases hown
  | leased base number p held loyal =>
    cases loyal with
    | true => cases hown
    | false =>
      cases hown
      exact hknows.1.seenClosed (htask.2 hrun)

/-- **What has been handed out has come back once**, or is still out; and if nobody has anything
left to do, every lease that has been closed or dropped, or whose connection has ended, has come
back. -/
lemma Kept.accounts (h : system.Kept capacity) :
    system.state.accounts.released ≤ system.state.accounts.acquired
      ∧ ((World.tenancies system.jobs).map Prod.fst).Nodup
      ∧ (system.Settled →
        system.state.accounts.acquired
            = system.state.accounts.released + (World.unreturned system.jobs system.state).length
          ∧ ∀ x ∈ World.tenancies system.jobs, (system.state.traffic.leases x.2).closed = true
              ∨ .close x.1 x.2 ∈ system.jobs ∨ system.state.hasEnded x.1 = true →
            x ∉ World.unreturned system.jobs system.state) := by
  obtain ⟨roles, hcallers, ⟨hs, -⟩, -⟩ := h
  have hcounted : system.state.accounts.acquired = system.state.accounts.released + _ + _ :=
    hs.counted
  refine ⟨by omega, hs.distinct.of_append_right, fun hrest => ?_⟩
  have hidle : ∀ r ∈ Role.seeking .away :: roles, r.Idle system.state := by
    intro r hr
    rcases List.mem_cons.mp hr with rfl | hin
    · exact .inl rfl
    · obtain ⟨i, hi, rfl⟩ := List.mem_iff_getElem.mp hin
      have hlength := hcallers.length_eq
      have hkeeps := List.Forall₂.get hcallers (hlength ▸ hi) hi
      exact Traffic.idle_of_rest hs hr hkeeps.task (fun _ hq => hq.1)
        (hrest.rest _ (List.getElem_mem _))
  refine ⟨?_, fun x hx hcause hmem => ?_⟩
  · rw [hcounted, (hs.quiet hidle).2.2.1]
    rfl
  · have hback := hs.back hidle hrest.jobs hx hcause
    rw [World.unreturned, List.mem_filter, hback] at hmem
    cases hmem.2

end CallerSystem

end Transactional
