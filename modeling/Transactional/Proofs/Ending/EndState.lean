import Transactional.Proofs.Lease.Story

/-!
# What is known of the end of a lease

The end of a lease is three changes, made one after the other by whoever was the first to begin: a
mark, the word to those who observe, and the connection beneath given back.  Others may look in
between.

* `EndState` — what they can see: the mark, the status, and whether the pool has its connection
  back.
* `EndRole`, `EndRole.Does` — what a task has to do with the end, and what it may make of it.
* `EndState.Later` — what stays as it was seen.
* `EndState.Sound` — the end state agrees with what everybody is about; **`EndState.Sound.step`**
  says that they go on agreeing.
-/

namespace Transactional

/-- **Whoever works on a lease.** -/
inductive Actor where
  | holder (call : LeaseCall)
  | closer
  /-- The job that looks out for the end of the connection beneath. -/
  | watcher

/-- **How somebody ends a lease**: those who close it or let go of it close it, and whoever looks
out for the end of the connection beneath hands that end on. -/
def Actor.Brings (ended : Option Status) : Actor → Status → Prop
  | .holder call, status => call.ends = true ∧ status = .closed
  | .closer, status => status = .closed
  | .watcher, status => ended = some status

/-- **What is known of the end of a lease.** -/
structure EndState where
  closed : Bool
  status : Status
  version : Nat
  released : Prop
  ended : Option Status

/-- **What a task has to do with the end of a lease.** -/
inductive EndRole where
  | bystander
  | lookout
  | bound (status : Status)
  | ending (status : Status)
  | told

namespace EndState

def tell (status : Status) (t : EndState) : EndState :=
  if t.status.isTerminal then t else { t with status, version := t.version + 1 }

/-- Nothing but the connection beneath may have ended. -/
structure Grows (a b : EndState) : Prop where
  eq : b = { a with ended := b.ended }
  ended : ∀ {status}, a.ended = some status → b.ended = some status

/-- **What stays as it was seen.** -/
structure Later (a b : EndState) : Prop where
  closed : a.closed = true → b.closed = true
  status : a.status.isTerminal = true → b.status = a.status
  ended : ∀ {status}, a.ended = some status → b.ended = some status

variable {a b c : EndState}

lemma Grows.refl (a : EndState) : a.Grows a := ⟨rfl, id⟩

lemma Grows.trans (h : a.Grows b) (h' : b.Grows c) : a.Grows c :=
  ⟨by rw [h'.eq, h.eq], fun hended => h'.ended (h.ended hended)⟩

lemma Grows.later (h : a.Grows b) : a.Later b := by
  refine ⟨fun hclosed => ?_, fun _ => ?_, h.ended⟩ <;> rw [h.eq]
  exact hclosed

lemma Later.refl (a : EndState) : a.Later a := ⟨id, fun _ => rfl, id⟩

lemma Later.trans (h : a.Later b) (h' : b.Later c) : a.Later c where
  closed hclosed := h'.closed (h.closed hclosed)
  status hterminal := by
    have hstatus := h.status hterminal
    exact (h'.status (by rwa [hstatus])).trans hstatus
  ended hended := h'.ended (h.ended hended)

lemma later_tell (status : Status) (a : EndState) : a.Later (a.tell status) := by
  unfold tell
  split
  next => exact .refl a
  next hopen => exact ⟨id, fun hterminal => absurd hterminal hopen, id⟩

lemma terminal_tell {status : Status} (h : status.isTerminal = true) (a : EndState) :
    (a.tell status).status.isTerminal = true := by
  unfold tell
  split
  next hterminal => exact hterminal
  next => exact h

end EndState

namespace EndRole

/-- **What a task may make of the end of a lease.** -/
inductive Does : EndRole → EndState → EndRole → EndState → Prop where
  | nothing (p : EndRole) (t : EndState) : Does p t p t
  | report (t : EndState) {status : Status} (h : t.ended = some status)
      (hterminal : status.isTerminal = true) : Does .lookout t (.bound status) t
  | begin (t : EndState) (status : Status) (h : t.closed = false) :
      Does (.bound status) t (.ending status) { t with closed := true }
  | tell (t : EndState) (status : Status) : Does (.ending status) t .told (t.tell status)
  | giveBack (t : EndState) (released : Prop) : Does .told t .told { t with released }

/-- A step: what a task does, and what may end by itself. -/
def Step (p : EndRole) (a : EndState) (q : EndRole) (b : EndState) : Prop :=
  ∃ m, p.Does a q m ∧ m.Grows b

/-- Several steps at once. -/
inductive Steps : EndRole → EndState → EndRole → EndState → Prop where
  | done (p : EndRole) (t : EndState) : Steps p t p t
  | step {p q r : EndRole} {a b c : EndState} (h : p.Step a q b) (rest : Steps q b r c) :
      Steps p a r c

/-- **What a role says**: whoever is about to end the lease is somebody who ends it like this, and
who has begun was the first. -/
def Fits (first : Option Actor) (t : EndState) (who : Actor) : EndRole → Prop
  | .bystander => True
  | .lookout => who = .watcher
  | .bound status => status.isTerminal = true ∧ who.Brings t.ended status
  | .ending status => status.isTerminal = true ∧ who.Brings t.ended status ∧ first = some who
  | .told => t.status.isTerminal = true

variable {p q : EndRole} {a b : EndState} {first first' : Option Actor} {who : Actor}
  {status : Status}

lemma step_of_grows (h : a.Grows b) : p.Step a p b := ⟨a, .nothing p a, h⟩

lemma Does.later (h : p.Does a q b) : a.Later b := by
  cases h with
  | nothing | report => exact .refl a
  | begin => exact ⟨fun _ => rfl, fun _ => rfl, id⟩
  | tell => exact EndState.later_tell _ a
  | giveBack => exact ⟨id, fun _ => rfl, id⟩

lemma Step.later (h : p.Step a q b) : a.Later b := by
  obtain ⟨m, hdoes, hgrows⟩ := h
  exact hdoes.later.trans hgrows.later

lemma Steps.later (h : p.Steps a q b) : a.Later b := by
  induction h with
  | done => exact .refl _
  | step h _ ih => exact h.later.trans ih

lemma brings_later (h : a.Later b) (hwho : who.Brings a.ended status) :
    who.Brings b.ended status := by
  cases who with
  | holder | closer => exact hwho
  | watcher => exact h.ended hwho

lemma Fits.later (hp : p.Fits first a who) (h : a.Later b)
    (hfirst : ∀ other, first = some other → first' = some other) : p.Fits first' b who := by
  cases p with
  | bystander => trivial
  | lookout => exact hp
  | bound status => exact ⟨hp.1, brings_later h hp.2⟩
  | ending status => exact ⟨hp.1, brings_later h hp.2.1, hfirst _ hp.2.2⟩
  | told =>
    have hterminal : a.status.isTerminal = true := hp
    rw [Fits, h.status hterminal]
    exact hterminal

end EndRole

namespace EndState

/-- **Who was the first** to mark a lease as closed: whoever makes the mark is written down. -/
def note (who : Actor) (a b : EndState) (first : Option Actor) : Option Actor :=
  if !a.closed && b.closed then some who else first

/-- **The end state of a lease agrees with what everybody is about.** -/
structure Sound (first : Option Actor) (members : List (Actor × EndRole))
    (t : EndState) : Prop where
  closed : t.closed = first.isSome
  version : t.version = if t.status.isTerminal then 1 else 0
  brought : t.status.isTerminal = true → ∃ who, first = some who ∧ who.Brings t.ended t.status
  released : t.released → t.status.isTerminal = true
  fits : ∀ x ∈ members, x.2.Fits first t x.1

namespace Sound

variable {a b c : EndState} {first : Option Actor} {members : List (Actor × EndRole)} {who : Actor}
  {p q : EndRole} {before after : List (Actor × EndRole)}

lemma note_of_first (h : a.closed = first.isSome) (b : EndState) {other : Actor}
    (hother : first = some other) : note who a b first = some other := by
  simp [note, h, hother]

lemma note_self : note who a a first = first := by
  simp [note]

lemma closed_note (h : a.closed = first.isSome) (hlater : a.Later b) :
    b.closed = (note who a b first).isSome := by
  cases hclosed : a.closed with
  | true =>
    have hfirst : first.isSome = true := h ▸ hclosed
    rw [hlater.closed hclosed, note, hclosed]
    exact hfirst.symm
  | false =>
    have hnone : first.isSome = false := h ▸ hclosed
    cases hafter : b.closed <;> simp [note, hclosed, hafter, hnone]

lemma fits_does (hs : Sound first members a) (hp : p.Fits first a who) (h : p.Does a q b) :
    q.Fits (note who a b first) b who := by
  have hlater := h.later
  cases h with
  | nothing => exact hp.later hlater fun other => note_of_first hs.closed _
  | report _ hended hterminal =>
    obtain rfl : who = .watcher := hp
    exact ⟨hterminal, hended⟩
  | begin _ _ hopen => exact ⟨hp.1, hp.2, by simp [note, hopen]⟩
  | tell => exact terminal_tell hp.1 a
  | giveBack => exact hp

lemma status_does (hs : Sound first members a) (hp : p.Fits first a who) (h : p.Does a q b) :
    (b.version = if b.status.isTerminal then 1 else 0)
      ∧ (b.status.isTerminal = true →
        ∃ other, first = some other ∧ other.Brings b.ended b.status) := by
  cases h with
  | nothing | report | begin | giveBack => exact ⟨hs.version, hs.brought⟩
  | tell _ status =>
    obtain ⟨hterminal, hbrings, hfirst⟩ := hp
    by_cases htold : a.status.isTerminal = true
    · rw [show a.tell status = a from if_pos htold]
      exact ⟨hs.version, hs.brought⟩
    · have hversion := hs.version
      rw [if_neg htold] at hversion
      rw [show a.tell status = { a with status, version := a.version + 1 } from if_neg htold]
      exact ⟨by simp [hversion, hterminal], fun _ => ⟨who, hfirst, hbrings⟩⟩

/-- **Whatever somebody makes of the end**, the end state goes on agreeing. -/
lemma does (hs : Sound first (before ++ (who, p) :: after) a) (h : p.Does a q b) :
    Sound (note who a b first) (before ++ (who, q) :: after) b := by
  have hp : p.Fits first a who := hs.fits (who, p) (by simp)
  have hkeeps : ∀ other, first = some other → note who a b first = some other :=
    fun other => note_of_first hs.closed b
  obtain ⟨hversion, hbrought⟩ := hs.status_does hp h
  refine ⟨closed_note hs.closed h.later, hversion, fun hterminal => ?_, ?_, fun x hx => ?_⟩
  · obtain ⟨other, hother, hbrings⟩ := hbrought hterminal
    exact ⟨other, hkeeps other hother, hbrings⟩
  · cases h with
    | nothing | report | begin => exact hs.released
    | tell => exact fun _ => terminal_tell hp.1 a
    | giveBack => exact fun _ => hp
  · have hstays : x ∈ before ++ (who, p) :: after → x.2.Fits (note who a b first) b x.1 :=
      fun hmem => (hs.fits x hmem).later h.later hkeeps
    rcases List.mem_append.mp hx with hx | hx
    · exact hstays (by simp [hx])
    · rcases List.mem_cons.mp hx with rfl | hx
      · exact hs.fits_does hp h
      · exact hstays (by simp [hx])

lemma grows (hs : Sound first members a) (h : a.Grows b) : Sound first members b := by
  have hfits : ∀ x ∈ members, x.2.Fits first b x.1 := fun x hx =>
    (hs.fits x hx).later h.later fun _ => id
  have hended := h.later
  obtain ⟨heq, -⟩ := h
  generalize b.ended = ended at heq
  subst heq
  refine ⟨hs.closed, hs.version, fun hterminal => ?_, hs.released, hfits⟩
  obtain ⟨who, hfirst, hbrings⟩ := hs.brought hterminal
  exact ⟨who, hfirst, EndRole.brings_later hended hbrings⟩

/-- **Whoever moves, the end state goes on agreeing.** -/
theorem step (hs : Sound first (before ++ (who, p) :: after) a) (h : p.Step a q b) :
    Sound (note who a b first) (before ++ (who, q) :: after) b := by
  obtain ⟨m, hdoes, hgrows⟩ := h
  have hclosed : b.closed = m.closed := by rw [hgrows.eq]
  have hnote : note who a b first = note who a m first := by rw [note, note, hclosed]
  rw [hnote]
  exact (hs.does hdoes).grows hgrows

lemma note_note (hlater : a.Later b) (hlater' : b.Later c) :
    note who b c (note who a b first) = note who a c first := by
  cases ha : a.closed with
  | true => simp [note, ha, hlater.closed ha]
  | false =>
    cases hb : b.closed with
    | true => simp [note, ha, hb, hlater'.closed hb]
    | false => simp [note, ha, hb]

/-- **Several steps at once** are like one. -/
theorem steps (hs : Sound first (before ++ (who, p) :: after) a) (h : p.Steps a q b) :
    Sound (note who a b first) (before ++ (who, q) :: after) b := by
  induction h generalizing first with
  | done =>
    rw [note_self]
    exact hs
  | step hstep hrest ih =>
    rw [← note_note hstep.later hrest.later]
    exact ih (hs.step hstep)

lemma join (hs : Sound first members a) (hp : p.Fits first a who) :
    Sound first (members ++ [(who, p)]) a := by
  refine { hs with fits := fun x hx => ?_ }
  rcases List.mem_append.mp hx with hx | hx
  · exact hs.fits x hx
  · rw [List.mem_singleton.mp hx]
    exact hp

lemma leave (hs : Sound first members a) {fewer : List (Actor × EndRole)} (h : fewer ⊆ members) :
    Sound first fewer a :=
  { hs with fits := fun x hx => hs.fits x (h hx) }

end Sound

end EndState

end Transactional
