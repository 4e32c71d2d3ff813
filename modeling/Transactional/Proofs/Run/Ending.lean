import Transactional.Proofs.Run.Body

/-!
# How a transaction ends

A run that has its lease begins a transaction, goes through the body, commits or rolls back, and
closes the lease, which rolls back once more if the transaction is still open.  If the connection
breaks while the run waits, somebody else may have closed the lease by then: from there on the run
is refused, and enters nothing any longer.

* `Run.Ending` — how a transaction ends on its connection; `Run.Transaction` is all of it.
* `Run.CutShort` — what is left of it when the lease is closed by somebody else.
* `Run.undo_obeys`, `Run.conclude_obeys` — the two ways to the end.
* `Run.onAccount_obeys` — a transaction on its lease, from beginning to end.
-/

namespace Transactional

/-- **What a sink receives is published**, event by event, and the connection and the lease are left
alone. -/
structure Sink.Publishes {ρ : Type} (sink : Sink World) (base number : Nat)
    (heard : World → List ρ) (mark : Event → List ρ) : Prop where
  spared : ∀ event s, World.Spared base number s (sink.publish event s)
  heard : ∀ event s, heard (sink.publish event s) = heard s ++ mark event

namespace Run

/-! ## The calls of a transaction -/

/-- **Rolling back**: a second time if the first time failed. -/
inductive Undone (base : Nat) : List (Memory.Call × Bool) → Prop where
  | once : Undone base [(.rollback base, true)]
  | twice (granted : Bool) : Undone base [(.rollback base, false), (.rollback base, granted)]

/-- **How a transaction ends**, and whether it has been committed. -/
inductive Ending (base : Nat) : Bool → List (Memory.Call × Bool) → Prop where
  | committed : Ending base true [(.commit base, true)]
  | undone {calls : List (Memory.Call × Bool)} (h : Undone base calls) : Ending base false calls
  | failed {calls : List (Memory.Call × Bool)} (h : Undone base calls) :
      Ending base false ((.commit base, false) :: calls)

/-- **The calls of a transaction, from beginning to end**, and whether it has been committed. -/
inductive Transaction (asked : Memory.Call → Prop) (base : Nat) :
    Bool → List (Memory.Call × Bool) → Prop where
  | unbegun {destroyed : List (Memory.Call × Bool)} (h : Destroys asked base destroyed) :
      Transaction asked base false ((.begin base, false) :: destroyed)
  | whole {committed : Bool} {body ending destroyed : List (Memory.Call × Bool)}
      (hbody : ∀ entry ∈ body, asked entry.1) (hending : Ending base committed ending)
      (hdestroyed : Destroys asked base destroyed) :
      Transaction asked base committed ((.begin base, true) :: (body ++ (ending ++ destroyed)))

/-- **The calls of a transaction that somebody else has cut short**: it has no ending. -/
inductive CutShort (asked : Memory.Call → Prop) (base : Nat) :
    List (Memory.Call × Bool) → Prop where
  | unbegun : CutShort asked base []
  | unended {body : List (Memory.Call × Bool)} (hbody : ∀ entry ∈ body, asked entry.1) :
      CutShort asked base ((.begin base, true) :: body)
  | uncommitted {body : List (Memory.Call × Bool)} (hbody : ∀ entry ∈ body, asked entry.1) :
      CutShort asked base ((.begin base, true) :: (body ++ [(.commit base, false)]))

/-! ## Leaving a lease -/

variable {ρ : Type} {asked : Memory.Call → Prop} {base number : Nat} {heard : World → List ρ}
  {s s' : World} {b b' : Book ρ} {p : Stage} {x : Stage × Part ρ} {mark : Event → List ρ}

/-- **Leaving a lease**, since the books were `b`: either the run has closed it, and has made calls
of which `whole` is true, or it was closed by somebody else, and the run has made calls of which
`cut` is true. -/
def Leaves (whole cut : List (Memory.Call × Bool) → Prop) (b : Book ρ) (told : List ρ)
    (x : Stage × Part ρ) : Prop :=
  ∃ q b' calls, x = (q, .runner b') ∧ q.sight = .closed ∧ b'.calls = b.calls ++ calls
    ∧ b'.told = b.told ++ told
    ∧ (q.errand = .discharged ∧ whole calls ∨ q.errand = .bystander ∧ cut calls)

lemma Closes.leaves (h : Closes asked base p b x) :
    Leaves (fun calls => p.sight ≠ .closed ∧ Tidied asked base b.pending calls)
      (fun calls => p.sight ≠ .open ∧ calls = []) b [] x := by
  rcases h with ⟨hsight, rfl⟩ | ⟨hsight, calls, htidied, rfl⟩
  · exact ⟨_, b, [], rfl, rfl, (List.append_nil _).symm, (List.append_nil _).symm,
      .inr ⟨rfl, hsight, rfl⟩⟩
  · exact ⟨_, _, calls, rfl, rfl, rfl, (List.append_nil _).symm, .inl ⟨rfl, hsight, htidied⟩⟩

lemma Leaves.after {whole whole' cut cut' : List (Memory.Call × Bool) → Prop}
    {told : List ρ} (h : Leaves whole cut b' told x) (earlier : List (Memory.Call × Bool))
    (hcalls : b'.calls = b.calls ++ earlier) (htold : b'.told = b.told)
    (hwhole : ∀ calls, whole calls → whole' (earlier ++ calls))
    (hcut : ∀ calls, cut calls → cut' (earlier ++ calls)) : Leaves whole' cut' b told x := by
  obtain ⟨q, b'', calls, rfl, hsight, hcalls', htold', hend⟩ := h
  refine ⟨q, b'', earlier ++ calls, rfl, hsight, ?_, ?_, ?_⟩
  · rw [hcalls', hcalls, List.append_assoc]
  · rw [htold', htold]
  · exact hend.imp (And.imp_right (hwhole calls)) (And.imp_right (hcut calls))

/-! ## The two ways to the end -/

lemma may_report (hheard : World.Unheard heard) (trace : Trace)
    (hs : (leaseDiscipline asked base number heard).knows x s) :
    (leaseDiscipline asked base number heard).may x s x (Host.report trace s) :=
  (Memory.apart base number).may_report (Lease.bears_of_ignores (ignores hheard) _) trace hs.2

/-- **What a run publishes** in the end. -/
def published (mark : Event → List ρ) (told : Except Fault Value × List (Deed World)) : List ρ :=
  if told.1.toBool then (told.2.flatMap Deed.emitted).flatMap mark else []

section Publishing

variable {sink : Sink World} (hsink : sink.Publishes base number heard mark)

include hsink

/-- Handing over a buffer leaves the connection and the lease alone, and publishes it. -/
lemma publishAll_spares (events : List Event) (s : World) :
    World.Spared base number s (sink.publishAll events s)
      ∧ heard (sink.publishAll events s) = heard s ++ events.flatMap mark := by
  induction events generalizing s with
  | nil => exact ⟨.refl s, (List.append_nil _).symm⟩
  | cons event rest ih =>
    obtain ⟨hspared, hheard⟩ := ih (sink.publish event s)
    refine ⟨(hsink.spared event s).trans hspared, ?_⟩
    rw [List.flatMap_cons, ← List.append_assoc, ← hsink.heard event s]
    exact hheard

/-- **Publishing**, when the commit has succeeded and the connection has been given back. -/
lemma may_publish (events : List Event) (herrand : p.errand = .discharged)
    (hcommitted : (.commit base, true) ∈ b.calls)
    (hs : (leaseDiscipline asked base number heard).knows (p, .runner b) s) :
    (leaseDiscipline asked base number heard).may (p, .runner b) s
      (p, .runner { b with told := b.told ++ events.flatMap mark }) (sink.publishAll events s) := by
  obtain ⟨hspared, hpublished⟩ := publishAll_spares hsink events s
  obtain ⟨hknows, hholds, hremembers⟩ := hs
  have halive : ((Memory.link base).get s).alive = false :=
    hholds.alive.trans (hknows.discharged herrand)
  refine ⟨Lease.step_of_grows hspared.grows, .of_spared hspared, ⟨[], ?_, ?_⟩,
    ⟨events.flatMap mark, rfl, hpublished, fun _ => ⟨hcommitted, halive⟩⟩, hholds.spared hspared,
    hremembers.spared hspared⟩
  · rw [hspared.calls, List.append_nil]
  · rw [List.map_nil, List.append_nil]

end Publishing

section Steps

variable {conn : Connection World} (S : Serves asked base number heard conn)
  (hheard : World.Unheard heard) (hplace : p.place = .away) (herrand : p.errand = .pledged)
  (hprompt : p.prompt = true) (hpending : b.pending = true)

include S hheard hplace herrand hprompt hpending

/-- **Undoing a transaction**, unless the lease has been closed. -/
lemma undo_obeys (cause : Fault) :
    (undo conn cause).Obeys (leaseDiscipline asked base number heard) (fun _ _ => True)
      (fun r x => r = .error cause
        ∧ Leaves (fun calls => ∃ undone destroyed, calls = undone ++ destroyed
            ∧ Undone base undone ∧ Destroys asked base destroyed) (· = []) b [] x)
      (p, .runner b) := by
  unfold undo rollbackQuietly
  rw [Task.bind_assoc]
  refine (S.rollback hplace hprompt).bind ?_
  rintro (fault | _) x (⟨hr, rfl⟩ | ⟨-, b', rfl, rfl⟩)
  · refine fun s hs => ⟨_, may_report hheard _ hs, ?_⟩
    refine (S.close (p := p.refused) rfl herrand).bind fun _ x hx => ⟨rfl, ?_⟩
    exact hx.leaves.after [] (List.append_nil _).symm rfl (fun _ h => absurd rfl h.1) fun _ h => h.2
  · refine fun s hs => ⟨_, may_report hheard _ hs, ?_⟩
    refine (S.close (p := p.returned true) rfl herrand).bind fun _ x hx => ⟨rfl, ?_⟩
    refine hx.leaves.after [(.rollback base, false)] rfl rfl ?_
      fun _ h => absurd rfl h.1
    rintro calls ⟨-, rolled, destroyed, rfl, hrolled, hdestroyed⟩
    rw [if_pos (show (b.after (.rollback base) false (.error fault)).pending = true from hpending)]
      at hrolled
    obtain ⟨granted, rfl⟩ := hrolled
    exact ⟨_, destroyed, rfl, .twice granted, hdestroyed⟩
  · cases hr
  · refine (S.close (p := p.returned true) rfl herrand).bind fun _ x hx => ⟨rfl, ?_⟩
    refine hx.leaves.after [(.rollback base, true)] rfl rfl ?_
      fun _ h => absurd rfl h.1
    rintro calls ⟨-, rolled, destroyed, rfl, rfl, hdestroyed⟩
    exact ⟨_, destroyed, rfl, .once, hdestroyed⟩

/-- **Committing a transaction**, or undoing it if that fails. -/
lemma conclude_obeys {sink : Sink World} (hsink : sink.Publishes base number heard mark)
    (value : Value) (events : List Event) :
    (conclude conn sink value events).Obeys (leaseDiscipline asked base number heard)
      (fun _ _ => True)
      (fun r => Leaves (fun calls => ∃ ending destroyed, calls = ending ++ destroyed
          ∧ Ending base r.toBool ending ∧ Destroys asked base destroyed)
        (fun calls => r.toBool = false ∧ (calls = [] ∨ calls = [(.commit base, false)])) b
        (if r.toBool then events.flatMap mark else []))
      (p, .runner b) := by
  unfold conclude
  refine (S.commit hplace hprompt).bind ?_
  rintro (fault | _) x (⟨hr, rfl⟩ | ⟨-, b', rfl, rfl⟩)
  · refine fun s hs => ⟨_, may_report hheard _ hs, ?_⟩
    refine (undo_obeys S hheard (p := p.refused) rfl herrand hprompt hpending fault).imp ?_
    rintro r x ⟨rfl, hx⟩
    refine hx.after [] (List.append_nil _).symm rfl ?_ ?_
    · rintro calls ⟨undone, destroyed, rfl, hundone, hdestroyed⟩
      exact ⟨undone, destroyed, rfl, .undone hundone, hdestroyed⟩
    · rintro calls rfl
      exact ⟨rfl, .inl rfl⟩
  · refine fun s hs => ⟨_, may_report hheard _ hs, ?_⟩
    have hundo := undo_obeys S hheard (p := p.returned true)
      (b := b.after (.commit base) false (.error fault)) rfl herrand hprompt hpending fault
    refine hundo.imp ?_
    rintro r x ⟨rfl, hx⟩
    refine hx.after [(.commit base, false)] rfl rfl ?_ ?_
    · rintro calls ⟨undone, destroyed, rfl, hundone, hdestroyed⟩
      exact ⟨_, destroyed, rfl, .failed hundone, hdestroyed⟩
    · rintro calls rfl
      exact ⟨rfl, .inr rfl⟩
  · cases hr
  · refine (S.close (p := p.returned true) rfl herrand).bind fun _ x hx s hs => ?_
    have hleft : Leaves (fun calls => ∃ destroyed, calls = (.commit base, true) :: destroyed
        ∧ Destroys asked base destroyed) (fun _ => False) b [] x := by
      refine hx.leaves.after [(.commit base, true)] rfl rfl ?_ fun _ h => absurd rfl h.1
      rintro calls ⟨-, rolled, destroyed, rfl, rfl, hdestroyed⟩
      exact ⟨destroyed, rfl, hdestroyed⟩
    obtain ⟨q, b', calls, rfl, hsight, hcalls, htold, ⟨herrand', destroyed, rfl, hdestroyed⟩
      | ⟨-, hfalse⟩⟩ := hleft
    · have hcommitted : (.commit base, true) ∈ b'.calls := by
        rw [hcalls]
        exact List.mem_append_right _ List.mem_cons_self
      refine ⟨_, may_publish hsink events herrand' hcommitted hs, q, _, _, rfl, hsight, hcalls,
        ?_, .inl ⟨herrand', _, destroyed, rfl, .committed, hdestroyed⟩⟩
      simp only [htold, List.append_nil]
      rfl
    · exact hfalse.elim

end Steps

/-! ## From beginning to end -/

/-- **Where a run ends on its lease**, with its account. -/
def Finished (asked : Memory.Call → Prop) (base : Nat) (mark : Event → List ρ) (b : Book ρ)
    (told : Except Fault Value × List (Deed World)) : Stage × Part ρ → Prop :=
  Leaves (Transaction asked base told.1.toBool)
    (fun calls => told.1.toBool = false ∧ CutShort asked base calls) b (published mark told)

/-- **A transaction on its lease, from beginning to end.** -/
theorem onAccount_obeys {conn : Connection World} (S : Serves asked base number heard conn)
    (hheard : World.Unheard heard) {sink : Sink World}
    (hsink : sink.Publishes base number heard mark) (limit : Option Duration)
    (program : Program World) (hasked : ∀ call, program.Asks base call → asked call)
    (hlifts : program.Lifts fun task =>
      task.Respects (World.Has base number) (World.Outside base number heard))
    (hpending : b.pending = false) :
    (onAccount conn sink limit program).Obeys (leaseDiscipline asked base number heard)
      (fun _ _ => True)
      (Finished asked base mark b) (.running .unsure, .runner b) := by
  unfold onAccount
  refine (S.begin rfl rfl).bind ?_
  rintro (fault | _) x (⟨hr, rfl⟩ | ⟨-, b', rfl, rfl⟩)
  · refine (S.close (p := (Stage.running .unsure).refused) rfl rfl).bind fun _ x hx => ?_
    refine hx.leaves.after [] (List.append_nil _).symm rfl (fun _ h => absurd rfl h.1) ?_
    rintro calls ⟨-, rfl⟩
    exact ⟨rfl, .unbegun⟩
  · refine (S.close (p := (Stage.running .unsure).returned true) rfl rfl).bind fun _ x hx => ?_
    refine hx.leaves.after [(.begin base, false)] rfl rfl ?_ fun _ h => absurd rfl h.1
    rintro calls ⟨-, rolled, destroyed, rfl, hrolled, hdestroyed⟩
    have hnot : (b.after (.begin base) true (.error fault)).pending = false := hpending
    rw [hnot] at hrolled
    obtain rfl : rolled = [] := hrolled
    exact .unbegun hdestroyed
  · cases hr
  · have hbody : InBody asked (b.after (.begin base) true (.ok ()))
        ((Stage.running .unsure).returned false,
          (.runner (b.after (.begin base) true (.ok ())) : Part ρ)) := by
      refine ⟨.unsure, [], by simp, by simp, ?_⟩
      rw [List.append_nil]
      rfl
    refine (S.bodyAccount_obeys hheard limit program hasked hlifts hbody).bind ?_
    rintro ⟨fault | value, deeds⟩ x ⟨sight, entries, -, hentries, rfl⟩
    · have hundo := undo_obeys S hheard (p := .running sight)
        (b := { b.after (.begin base) true (.ok ()) with
          calls := (b.after (.begin base) true (.ok ())).calls ++ entries }) rfl rfl rfl rfl fault
      refine hundo.bind ?_
      rintro r x ⟨rfl, hx⟩
      refine hx.after ((.begin base, true) :: entries) (List.append_assoc _ _ _) rfl ?_ ?_
      · rintro calls ⟨undone, destroyed, rfl, hundone, hdestroyed⟩
        exact .whole hentries (.undone hundone) hdestroyed
      · rintro calls rfl
        rw [List.append_nil]
        exact ⟨rfl, .unended hentries⟩
    · have hconclude := conclude_obeys S hheard (p := .running sight)
        (b := { b.after (.begin base) true (.ok ()) with
          calls := (b.after (.begin base) true (.ok ())).calls ++ entries }) rfl rfl rfl rfl hsink
        value (deeds.flatMap Deed.emitted)
      refine hconclude.bind fun r x hx => ?_
      refine hx.after ((.begin base, true) :: entries) (List.append_assoc _ _ _) rfl ?_ ?_
      · rintro calls ⟨ending, destroyed, rfl, hending, hdestroyed⟩
        exact .whole hentries hending hdestroyed
      · rintro calls ⟨hr, rfl | rfl⟩
        · rw [List.append_nil]
          exact ⟨hr, .unended hentries⟩
        · exact ⟨hr, .uncommitted hentries⟩

end Run

end Transactional
