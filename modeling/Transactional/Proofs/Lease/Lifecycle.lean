import Transactional.Proofs.Semaphore.Acquire
import Transactional.Lease

/-!
# How a lease ends, task by task

Several tasks may be about to end the same lease: those who close it, the job that closes it for
somebody who has let go of it, and the one that looks out for the end of the connection beneath.
One of them is the first to mark the lease as closed; it alone goes on, waits for the lock, takes
the connection beneath out of the lease, and gives it back.

* `Errand`, `Sight`, `Stage` — what one task is about, and what it has seen.
* `Aspect` — what the tasks on a lease have to agree about.
* `Stage.Does`, `Stage.Step` — everything that one task can do to the lease.
* `Aspect.Sound` — what is true of a lease and of the stages of all tasks; `Aspect.Sound.step` says
  that it stays true, whoever moves.
-/

namespace Transactional

/-- **What a task is about**, as far as the end of a lease is concerned. -/
inductive Errand where
  | bystander
  | pledged
  | lookout
  | alarmed
  | ender
  | carrier
  | discharged
deriving DecidableEq

/-- **What a task knows** about whether the lease is closed. -/
inductive Sight where
  | unsure
  | open
  | closed
deriving DecidableEq

/-- Whether a task is the one that ends the lease. -/
def Errand.isEnding : Errand → Bool
  | .ender | .carrier | .discharged => true
  | _ => false

/-- **The stage of a task on a lease.** -/
structure Stage where
  place : Place := .away
  errand : Errand := .bystander
  sight : Sight := .unsure
  prompt : Bool := false

/-- **What the tasks on a lease agree about.** -/
structure Aspect where
  closed : Bool
  signalled : Bool
  lock : Semaphore
  holdsBase : Bool
  listening : Bool
  ended : Bool
  guardDue : Prop
  closeDue : Prop

namespace Stage

/-- What a task sees when it looks whether the lease is closed. -/
def looking (p : Stage) (a : Aspect) : Stage :=
  { p with sight := if a.closed then .closed else if p.prompt then .open else .unsure }

/-- **What one task can do to a lease.** -/
inductive Does : Stage → Aspect → Stage → Aspect → Prop where
  | nothing (p : Stage) (a : Aspect) : Does p a p a
  | lock (p : Stage) (a : Aspect) {place : Place} {sem : Semaphore}
      (h : Semaphore.Moves p.place a.lock place sem) :
      Does p a { p with place } { a with lock := sem }
  | look (p : Stage) (a : Aspect) : Does p a (p.looking a) a
  | blink (p : Stage) (a : Aspect) : Does p a { p with sight := .unsure } a
  | tooLate (p : Stage) (a : Aspect) (h : p.errand = .pledged) (hclosed : a.closed = true) :
      Does p a { p with errand := .bystander, sight := .closed } a
  | begin (p : Stage) (a : Aspect) (h : p.errand = .pledged) (hclosed : a.closed = false) :
      Does p a { p with errand := .ender, sight := .closed } { a with closed := true }
  | surrender (p : Stage) (a : Aspect) (h : p.errand = .ender) (hplace : p.place = .inside) :
      Does p a { p with place := .away, errand := .carrier }
        { a with holdsBase := false, lock := a.lock.handOver.2, signalled := true }
  | giveBack (p : Stage) (a : Aspect) (h : p.errand = .carrier) :
      Does p a { p with errand := .discharged } { a with listening := false }
  | letGo (p : Stage) (a : Aspect) (h : p.errand = .pledged) :
      Does p a { p with errand := .bystander } { a with closeDue := a.closed = false ∨ a.closeDue }
  | alarm (p : Stage) (a : Aspect) (h : p.errand = .lookout)
      (hend : a.ended = true ∨ a.closed = true) : Does p a { p with errand := .alarmed } a
  | report (p : Stage) (a : Aspect) (h : p.errand = .alarmed) (hended : a.ended = true) :
      Does p a { p with errand := .pledged } a
  | relax (p : Stage) (a : Aspect) (h : p.errand = .alarmed) (hclosed : a.closed = true) :
      Does p a { p with errand := .bystander } a

end Stage

/-- A task that is over, and that leaves nothing undone. -/
def Stage.Over (p : Stage) : Prop :=
  p.place = .away ∧ (p.errand = .bystander ∨ p.errand = .discharged)

/-- A task that can do nothing at the moment: it is over, or waits in line and has not been called,
or looks out for an end that has not come. -/
def Stage.Idle (p : Stage) (a : Aspect) : Prop :=
  p.Over ∨ (∃ t, p.place = .inLine t ∧ t ∉ a.lock.granted)
    ∨ p.place = .away ∧ p.errand = .lookout ∧ a.ended = false

/-- **What the stage of a task says** about the lease. -/
structure Stage.Knows (p : Stage) (a : Aspect) : Prop where
  unshut : a.lock.shut = false
  unclosed : a.closed = false → a.holdsBase = true
  signalled : a.signalled = true → a.closed = true
  seenClosed : p.sight = .closed → a.closed = true
  seenOpen : p.sight = .open → a.closed = false
  alarmed : p.errand = .alarmed → a.ended = true ∨ a.closed = true
  ender : p.errand = .ender → a.holdsBase = true
  carrier : p.errand = .carrier → a.listening = true
  discharged : p.errand = .discharged → a.listening = false

namespace Aspect

/-- **What becomes of a lease without anybody's doing**: the connection beneath may end, and jobs
may come to be due. -/
structure Grows (a b : Aspect) : Prop where
  eq : b = { a with ended := b.ended, guardDue := b.guardDue, closeDue := b.closeDue }
  ended : a.ended = true → b.ended = true
  guardDue : a.guardDue → b.guardDue
  closeDue : a.closeDue → b.closeDue

lemma Grows.refl (a : Aspect) : a.Grows a := ⟨rfl, id, id, id⟩

lemma Grows.trans {a b c : Aspect} (h : a.Grows b) (h' : b.Grows c) : a.Grows c := by
  refine ⟨?_, h'.ended ∘ h.ended, h'.guardDue ∘ h.guardDue, h'.closeDue ∘ h.closeDue⟩
  rw [h'.eq, h.eq]

end Aspect

/-- **A step of one task**: what it does, and what happens by itself. -/
def Stage.Step (p : Stage) (a : Aspect) (q : Stage) (b : Aspect) : Prop :=
  ∃ m, p.Does a q m ∧ m.Grows b

/-- The connection beneath may be given back in the same step, after something has happened by
itself and before something else does. -/
lemma Stage.step_giveBack {p : Stage} {a b c : Aspect} (herrand : p.errand = .carrier)
    (h : a.Grows b) (h' : Aspect.Grows { b with listening := false } c) :
    p.Step a { p with errand := .discharged } c := by
  have hsilent : Aspect.Grows { a with listening := false } { b with listening := false } :=
    ⟨by rw [h.eq], h.ended, h.guardDue, h.closeDue⟩
  exact ⟨_, .giveBack p a herrand, hsilent.trans h'⟩

/-- The lock may be used in the same step, after something has happened by itself. -/
lemma Stage.step_lock {p : Stage} {a b : Aspect} (h : a.Grows b) {place : Place} {sem : Semaphore}
    (hmove : Semaphore.Moves p.place b.lock place sem) :
    p.Step a { p with place } { b with lock := sem } := by
  have hlock : b.lock = a.lock := by rw [h.eq]
  refine ⟨{ a with lock := sem }, .lock p a (hlock ▸ hmove), ?_, h.ended, h.guardDue, h.closeDue⟩
  rw [h.eq]

/-- A task that others may interrupt at any moment relies on nothing. -/
def Stage.Modest (p : Stage) : Prop :=
  p.prompt = false ∧ p.sight ≠ .open

lemma Stage.Step.modest {p q : Stage} {a b : Aspect} (h : p.Step a q b) (hp : p.Modest) :
    q.Modest := by
  obtain ⟨hprompt, hsight⟩ := hp
  obtain ⟨m, hdoes, -⟩ := h
  cases hdoes with
  | look => exact ⟨hprompt, by simp only [looking, hprompt]; split <;> simp⟩
  | blink | tooLate | begin => exact ⟨hprompt, by simp⟩
  | _ => exact ⟨hprompt, hsight⟩

namespace Stage.Step

variable {p q : Stage} {a b : Aspect} (h : p.Step a q b)

include h

lemma stays_closed (hclosed : a.closed = true) : b.closed = true := by
  obtain ⟨m, hdoes, hgrows⟩ := h
  rw [hgrows.eq]
  cases hdoes <;> first | exact hclosed | rfl

lemma closed_by (hclosed : b.closed = true) :
    a.closed = true ∨ p.errand = .pledged ∧ q.errand.isEnding = true := by
  obtain ⟨m, hdoes, hgrows⟩ := h
  rw [hgrows.eq] at hclosed
  cases hdoes with
  | begin hpledged => exact .inr ⟨hpledged, rfl⟩
  | _ => exact .inl hclosed

lemma stays_ending (hp : p.errand.isEnding = true) : q.errand.isEnding = true := by
  obtain ⟨m, hdoes, -⟩ := h
  cases hdoes with
  | nothing | lock | look | blink => exact hp
  | surrender | giveBack | begin => rfl
  | _ => simp_all [Errand.isEnding]

/-- Somebody who looks out is going to close a lease when the connection beneath has ended. -/
lemma pledged_by (hq : q.errand = .pledged) : p.errand = .pledged ∨ a.ended = true := by
  obtain ⟨m, hdoes, -⟩ := h
  cases hdoes with
  | nothing | lock | look | blink => exact .inl hq
  | report _ hended => exact .inr hended
  | _ => cases hq

end Stage.Step

namespace Aspect

/-! ## What is always true -/

/-- **A lease and what all tasks are about agree.** `called` says whether anybody has set out to
close it or let go of it. -/
structure Agrees (called : Prop) (errands : List Errand) (a : Aspect) : Prop where
  /-- Between its closing and the moment when the connection beneath is taken out, one task is about
  to do that. -/
  ending : errands.count .ender = if a.closed && a.holdsBase then 1 else 0
  /-- From then on until the connection beneath is given back, one task is about to do that. -/
  carrying : errands.count .carrier = if !a.holdsBase && a.listening then 1 else 0
  unclosed : a.closed = false → a.holdsBase = true
  holding : a.holdsBase = true → a.listening = true
  signalled : a.signalled = true → a.closed = true
  /-- Everybody is told when the connection beneath is taken out of it. -/
  told : a.holdsBase = false → a.signalled = true
  /-- Whoever says to have given the connection beneath back is right. -/
  discharged : .discharged ∈ errands → a.listening = false
  alarmed : .alarmed ∈ errands → a.ended = true ∨ a.closed = true
  guarded : a.closed = true ∨ (.lookout ∈ errands ∨ .alarmed ∈ errands ∨ .pledged ∈ errands)
    ∨ a.guardDue ∨ a.closeDue
  kept : called → a.closed = true ∨ .pledged ∈ errands ∨ a.closeDue

/-- **Whoever has looked at a lease is right.** -/
structure Seen (sights : List Sight) (a : Aspect) : Prop where
  closed : .closed ∈ sights → a.closed = true
  unclosed : .open ∈ sights → a.closed = false

/-- **A lease and the stages of all tasks agree.** -/
structure Sound (called : Prop) (stages : List Stage) (a : Aspect) : Prop where
  lock : a.lock.Sound 1 (stages.map Stage.place)
  unshut : a.lock.shut = false
  agrees : a.Agrees called (stages.map Stage.errand)
  seen : a.Seen (stages.map Stage.sight)

variable {called called' : Prop} {p q : Stage} {stages stages' : List Stage} {a b : Aspect}

lemma Agrees.does {errands : List Errand} (ha : a.Agrees called (p.errand :: errands))
    (h : p.Does a q b) : b.Agrees called (q.errand :: errands) := by
  cases h with
  | nothing | lock | look | blink => exact { ha with }
  | _ =>
    obtain ⟨ending, carrying, unclosed, holding, signalled, told, discharged, alarmed, guarded,
      kept⟩ := ha
    simp only [List.count_cons, List.mem_cons] at ending carrying discharged alarmed guarded kept
    constructor <;> grind -ring -linarith

lemma Seen.does {sights : List Sight} (ha : a.Seen (p.sight :: sights)) (h : p.Does a q b)
    (hothers : .open ∉ sights) : b.Seen (q.sight :: sights) := by
  obtain ⟨hclosed, hopen⟩ := ha
  simp only [List.mem_cons] at hclosed hopen
  cases h <;> constructor <;> grind -ring -linarith [Stage.looking]

namespace Sound

/-- **Whoever moves, a lease and the stages of all tasks go on agreeing**, provided that nobody else
relies on its being open. -/
theorem does (hs : Sound called (p :: stages) a) (h : p.Does a q b)
    (hothers : .open ∉ stages.map Stage.sight) : Sound called (q :: stages) b := by
  refine ⟨?_, ?_, hs.agrees.does h, hs.seen.does h hothers⟩
  · cases h with
    | lock h => exact hs.lock.moves h
    | surrender _ hplace =>
      have hlock := hs.lock
      rw [List.map_cons, hplace] at hlock
      exact Semaphore.Sound.cons_away.mpr hlock.handOver
    | _ => exact hs.lock
  · cases h with
    | lock h => exact h.shut.trans hs.unshut
    | surrender => exact (Semaphore.shut_handOver _).trans hs.unshut
    | _ => exact hs.unshut

lemma grows (hs : Sound called stages a) (h : a.Grows b) : Sound called stages b := by
  obtain ⟨heq, hended, hguard, hclose⟩ := h
  rw [heq]
  refine ⟨hs.lock, hs.unshut, { hs.agrees with alarmed := ?_, guarded := ?_, kept := ?_ },
    hs.seen.closed, hs.seen.unclosed⟩
  · exact fun h => (hs.agrees.alarmed h).imp_left hended
  · exact hs.agrees.guarded.imp_right (Or.imp_right (Or.imp hguard hclose))
  · exact fun h => (hs.agrees.kept h).imp_right (Or.imp_right hclose)

lemma perm (hs : Sound called stages a) (h : stages.Perm stages') : Sound called stages' a := by
  have herrand := h.map Stage.errand
  have hsight := h.map Stage.sight
  obtain ⟨ending, carrying, unclosed, holding, signalled, told, discharged, alarmed, guarded,
    kept⟩ := hs.agrees
  simp only [herrand.count_eq, herrand.mem_iff] at ending carrying discharged alarmed guarded kept
  exact ⟨hs.lock.perm (h.map _), hs.unshut,
    ⟨ending, carrying, unclosed, holding, signalled, told, discharged, alarmed, guarded, kept⟩,
    ⟨fun h => hs.seen.closed (hsight.mem_iff.mpr h), fun h => hs.seen.unclosed
      (hsight.mem_iff.mpr h)⟩⟩

/-- **A step of anybody**, wherever the task is listed. -/
theorem step {before after : List Stage} (hs : Sound called (before ++ p :: after) a)
    (h : p.Step a q b) (hothers : ∀ r ∈ before ++ after, r.sight ≠ .open) :
    Sound called (before ++ q :: after) b := by
  obtain ⟨m, hdoes, hgrows⟩ := h
  have hfirst := (hs.perm List.perm_middle).does hdoes fun h => by
    obtain ⟨r, hr, heq⟩ := List.mem_map.mp h
    exact hothers r hr heq
  exact (hfirst.perm List.perm_middle.symm).grows hgrows

lemma knows (hs : Sound called stages a) (hp : p ∈ stages) : p.Knows a := by
  have herrand : p.errand ∈ stages.map Stage.errand := List.mem_map_of_mem hp
  have hsight : p.sight ∈ stages.map Stage.sight := List.mem_map_of_mem hp
  obtain ⟨ending, carrying, unclosed, -, signalled, -, discharged, alarmed, -, -⟩ := hs.agrees
  refine ⟨hs.unshut, unclosed, signalled, fun h => hs.seen.closed (h ▸ hsight),
    fun h => hs.seen.unclosed (h ▸ hsight), fun h => alarmed (h ▸ herrand), fun h => ?_,
      fun h => ?_,
    fun h => discharged (h ▸ herrand)⟩
  · have hcount := List.count_pos_iff.mpr (h ▸ herrand)
    rw [ending] at hcount
    grind -ring -linarith
  · have hcount := List.count_pos_iff.mpr (h ▸ herrand)
    rw [carrying] at hcount
    grind -ring -linarith

/-- **Nobody waits in line for ever**: if everybody can do nothing at the moment, then nobody waits
in line. -/
theorem nobody_waits (hs : Sound called stages a) (hidle : ∀ p ∈ stages, p.Idle a) :
    ∀ p ∈ stages, p.Over ∨ p.place = .away ∧ p.errand = .lookout ∧ a.ended = false := by
  have hinside : .inside ∉ stages.map Stage.place := by
    intro h
    obtain ⟨p, hp, heq⟩ := List.mem_map.mp h
    rcases hidle p hp with ⟨hplace, -⟩ | ⟨t, hplace, -⟩ | ⟨hplace, -⟩ <;> simp [hplace] at heq
  have hcalled : ∀ t ∈ Place.line (stages.map Stage.place), t ∉ a.lock.granted := by
    intro t ht
    rcases Place.mem_line ht with h | h <;> obtain ⟨p, hp, heq⟩ := List.mem_map.mp h <;>
      rcases hidle p hp with ⟨hplace, -⟩ | ⟨u, hplace, hu⟩ | ⟨hplace, -⟩ <;>
      rw [hplace] at heq
    all_goals first
      | exact Place.inLine.inj heq ▸ hu
      | simp at heq
  have hline := hs.lock.nobody_waits hinside hcalled
  intro p hp
  rcases hidle p hp with hover | ⟨t, hplace, -⟩ | hlookout
  · exact .inl hover
  · have ht : t ∈ Place.line (stages.map Stage.place) :=
      List.mem_filterMap.mpr ⟨p.place, List.mem_map_of_mem hp, by rw [hplace]⟩
    simp [hline] at ht
  · exact .inr hlookout

/-- **When nothing is left to do**, a lease that is closed has given the connection beneath back;
and it is closed if somebody set out to close it, and also if the connection beneath has ended. -/
theorem settled (hs : Sound called stages a) (hidle : ∀ p ∈ stages, p.Idle a)
    (hguard : ¬a.guardDue) (hclose : ¬a.closeDue) (hcause : called ∨ a.ended = true) :
    a.listening = false := by
  have hquiet := hs.nobody_waits hidle
  have hnone : ∀ e : Errand, e ≠ .bystander → e ≠ .discharged → e ≠ .lookout →
      e ∉ stages.map Stage.errand := by
    intro e hb hd hl he
    obtain ⟨p, hp, rfl⟩ := List.mem_map.mp he
    rcases hquiet p hp with ⟨-, h | h⟩ | ⟨-, h, -⟩
    · exact hb h
    · exact hd h
    · exact hl h
  have hender := hnone .ender (by simp) (by simp) (by simp)
  have hcarrier := hnone .carrier (by simp) (by simp) (by simp)
  have hpledged := hnone .pledged (by simp) (by simp) (by simp)
  have halarmed := hnone .alarmed (by simp) (by simp) (by simp)
  obtain ⟨ending, carrying, -, -, -, -, -, -, guarded, kept⟩ := hs.agrees
  rw [List.count_eq_zero.mpr hender] at ending
  rw [List.count_eq_zero.mpr hcarrier] at carrying
  have hclosed : a.closed = true := by
    rcases hcause with hcalled | hended
    · exact ((kept hcalled).resolve_right (by simp [hpledged, hclose]))
    · -- Nobody looks out any longer, since the connection beneath has ended.
      have hlookout : .lookout ∉ stages.map Stage.errand := by
        intro h
        obtain ⟨p, hp, heq⟩ := List.mem_map.mp h
        rcases hquiet p hp with ⟨-, h | h⟩ | ⟨-, -, h⟩
        · simp [heq] at h
        · simp [heq] at h
        · exact absurd hended (Bool.eq_false_iff.mp h)
      exact guarded.resolve_right (by simp [hlookout, halarmed, hpledged, hguard, hclose])
  grind -ring -linarith

/-! ## Those who come and go -/

/-- Whoever is over, and has left nothing undone, is not missed. -/
theorem leave {before after : List Stage} (hs : Sound called (before ++ p :: after) a)
    (hp : p.Over) : Sound called (before ++ after) a := by
  have hfirst := hs.perm List.perm_middle
  obtain ⟨hlock, hunshut, ⟨ending, carrying, unclosed, holding, signalled, told, discharged,
    alarmed, guarded, kept⟩, hclosed, hopen⟩ := hfirst
  obtain ⟨hplace, herrand⟩ := hp
  rw [List.map_cons, hplace, Semaphore.Sound.cons_away] at hlock
  simp only [List.map_cons, List.count_cons] at ending carrying
  simp only [List.map_cons, List.mem_cons] at discharged alarmed guarded kept hclosed hopen
  refine ⟨hlock, hunshut, ?_, fun h => hclosed (.inr h), fun h => hopen (.inr h)⟩
  constructor <;> grind -ring -linarith

/-- **Somebody comes**: to use the lease, to close it, or to look out.  What has become due must be
what the newcomer is about. -/
theorem join (hs : Sound called stages a) (hplace : p.place = .away) (hsight : p.sight = .unsure)
    (herrand : p.errand = .bystander ∨ p.errand = .pledged ∨ p.errand = .lookout)
    (heq : b = { a with guardDue := b.guardDue, closeDue := b.closeDue })
    (hguard : a.guardDue → b.guardDue ∨ p.errand = .lookout)
    (hclose : a.closeDue → b.closeDue ∨ p.errand = .pledged)
    (hcalled : called' → called ∨ p.errand = .pledged) :
    Sound called' (stages ++ [p]) b := by
  obtain ⟨hlock, hunshut, ⟨ending, carrying, unclosed, holding, signalled, told, discharged,
    alarmed, guarded, kept⟩, hclosed, hopen⟩ := hs
  have hfirst : Sound called' (p :: stages) b := by
    rw [heq]
    refine ⟨?_, hunshut, ?_, ?_, ?_⟩
    · rw [List.map_cons, hplace]
      exact Semaphore.Sound.cons_away.mpr hlock
    · constructor <;> simp only [List.map_cons, List.count_cons, List.mem_cons] <;> grind
        -ring -linarith
    · simpa [hsight] using hclosed
    · simpa [hsight] using hopen
  exact hfirst.perm (List.perm_append_singleton p stages).symm

end Sound

end Aspect

end Transactional
