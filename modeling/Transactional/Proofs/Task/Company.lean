import Transactional.Proofs.Task.Discipline

/-!
# Tasks beside each other

A company is a state and the tasks on it: one in front, and any number beside it.  Those beside it
take their steps in any order whatever, one change of the state at a time; they stand still only
while the one in front is between two of its waits.  So with nobody in front a company is as free as
threads are, and with somebody in front it goes as turns do.

* `Task.Moves` — one step of one task.
* `Company.Step` — one step of a company: a task moves, one is given up where that is allowed, or a
  job that is due begins.
* `Company.Kept` — every task keeps to a discipline, and an invariant holds of the stages that they
  are at.
* `Company.Kept.step` — if each change of a stage upholds the invariant, so does every step.
-/

namespace Transactional

namespace Task

/-- **One step of one task.** -/
inductive Moves : Task σ α → σ → Task σ α → σ → Prop where
  | act (update : σ → σ) (next : σ → Task σ α) (s : σ) :
      Moves (.act update next) s (next s) (update s)
  | pass (on : Wait σ) (next : Task σ α) (s : σ) (h : on.ready s = true) :
      Moves (.wait on next) s next s
  | register (on : Wait σ) (next : Task σ α) (self : TaskId) (s : σ) :
      Moves (.wait on next) s (.wait on next) (on.register self s)

/-- Whether a task gives way: it waits, or it has come to its end. -/
def Rests : Task σ α → Prop
  | .act _ _ => False
  | .done _ | .wait _ _ => True

/-- **A step of a task that keeps to a discipline** is a change that its stage allows. -/
lemma Obeys.moves {D : Discipline σ φ} {gone : φ → (σ → σ) → Prop} {ends : α → φ → Prop}
    {p : φ} {task task' : Task σ α} {s s' : σ} (h : task.Obeys D gone ends p)
    (hs : D.knows p s) (hmove : task.Moves s task' s') :
    ∃ q, D.may p s q s' ∧ task'.Obeys D gone ends q := by
  cases hmove with
  | act update next => exact h s hs
  | pass on next _ hready => exact h.2.2.2 s hs hready
  | register on next self => exact ⟨p, h.2.2.1 self s hs, h⟩

lemma Moves.of_map {task : Task σ α} {g : α → β} {task' : Task σ β} {s s' : σ}
    (h : (task.bind fun a => .done (g a)).Moves s task' s') :
    ∃ rest : Task σ α, task' = rest.bind (fun a => .done (g a)) ∧ task.Moves s rest s' := by
  cases task with
  | done a => cases h
  | act update next =>
    cases h
    exact ⟨next s, rfl, .act update next s⟩
  | wait on next =>
    cases h with
    | pass _ _ _ hready => exact ⟨next, rfl, .pass on next s hready⟩
    | register _ _ self => exact ⟨.wait on next, rfl, .register on next self s⟩

lemma Moves.of_act {update : σ → σ} {next : σ → Task σ α} {rest : Task σ α} {s : σ}
    (h : next s = rest) :
    (Task.act update next).Moves s rest (update s) :=
  h ▸ .act update next s

lemma Moves.bind {task task' : Task σ α} {s s' : σ} (h : task.Moves s task' s') (f : α → Task σ β) :
    (task.bind f).Moves s (task'.bind f) s' := by
  cases h with
  | act update next => exact .act update _ s
  | pass on next _ hready => exact .pass on _ s hready
  | register on next self => exact .register on _ self s

lemma Moves.of_bind {task : Task σ α} {f : α → Task σ β} {rest : Task σ β} {s s' : σ}
    (h : (task.bind f).Moves s rest s') (hgoes : ∀ a, task ≠ .done a) :
    ∃ task' : Task σ α, task.Moves s task' s' ∧ rest = task'.bind f := by
  cases task with
  | done a => exact absurd rfl (hgoes a)
  | act update next =>
    cases h
    exact ⟨next s, .act update next s, rfl⟩
  | wait on next =>
    cases h with
    | pass _ _ _ hready => exact ⟨next, .pass on next s hready, rfl⟩
    | register _ _ self => exact ⟨.wait on next, .register on next self s, rfl⟩

lemma Rests.of_map {task : Task σ α} {g : α → β}
    (h : (task.bind fun a => .done (g a)).Rests) : task.Rests := by
  cases task with
  | act update next => exact h
  | done | wait => trivial

end Task

/-- **A task beside others**, and whether it may be given up while it waits. -/
structure Strand (σ : Type) where
  task : Task σ Unit
  optional : Bool

/-- **A state, and the tasks on it.** -/
structure Company (σ α : Type) where
  state : σ
  front : Task σ α
  beside : List (Strand σ) := []

namespace Company

/-- Whether a job is due, by the number of its task. -/
def Due [Host σ] (number : TaskId) (job : Job) (s : σ) : Prop :=
  .start number job ∈ (Host.schedule.get s).ready

instance [Host σ] (number : TaskId) (job : Job) (s : σ) : Decidable (Due number job s) :=
  inferInstanceAs (Decidable (_ ∈ (Host.schedule.get s).ready))

def takeOff [Host σ] (turn : Turn) : σ → σ :=
  Host.schedule.modify fun c => { c with ready := c.ready.erase turn }

/-- **One step of a company**; `jobs` says which jobs begin beside it, and with which task. -/
inductive Step [Host σ] (jobs : Job → Task σ Unit → Prop) : Company σ α → Company σ α → Prop where
  | front {s s' : σ} {front front' : Task σ α} {beside : List (Strand σ)}
      (h : front.Moves s front' s') : Step jobs ⟨s, front, beside⟩ ⟨s', front', beside⟩
  | beside {s s' : σ} {front : Task σ α} {before after : List (Strand σ)} {strand : Strand σ}
      {task : Task σ Unit} (hrest : front.Rests) (h : strand.task.Moves s task s') :
      Step jobs ⟨s, front, before ++ strand :: after⟩
        ⟨s', front, before ++ { strand with task } :: after⟩
  | giveUp {s : σ} {front : Task σ α} {before after : List (Strand σ)} {strand : Strand σ}
      {on : Wait σ} {next : Task σ Unit} (hrest : front.Rests) (h : strand.optional = true)
      (hwait : strand.task = .wait on next) :
      Step jobs ⟨s, front, before ++ strand :: after⟩ ⟨on.abandon s, front, before ++ after⟩
  | start {s : σ} {front : Task σ α} {beside : List (Strand σ)} {number : TaskId} {job : Job}
      {task : Task σ Unit} (hrest : front.Rests) (due : Due number job s) (h : jobs job task) :
      Step jobs ⟨s, front, beside⟩
        ⟨takeOff (.start number job) s, front, beside ++ [⟨task, false⟩]⟩

lemma Step.front_of_done [Host σ] {jobs : Job → Task σ Unit → Prop} {c c' : Company σ α} {a : α}
    (h : Step jobs c c') (hfront : c.front = .done a) : c'.front = .done a := by
  cases h with
  | front h =>
    obtain rfl := hfront
    cases h
  | beside | giveUp | start => exact hfront

/-! ## Disciplines of a company -/

variable {D : Discipline σ φ}

/-- A task at a stage may be given up: that takes it to a stage where it does not count. -/
def Leaves (D : Discipline σ φ) (past : φ → Prop) (p : φ) (f : σ → σ) : Prop :=
  ∀ s, D.knows p s → ∃ q, D.may p s q (f s) ∧ past q

/-- **A task beside others keeps to a discipline**; when it is over its stage does not count. -/
def Keeps (D : Discipline σ φ) (past : φ → Prop) (strand : Strand σ) (p : φ) : Prop :=
  strand.task.Obeys D (fun q f => strand.optional = true → Leaves D past q f) (fun _ => past) p

/-- **Everybody keeps to a discipline**, and an invariant holds of their stages. -/
def Kept (D : Discipline σ φ) (ends : α → φ → Prop) (past : φ → Prop)
    (inv : φ → List φ → σ → Prop) (company : Company σ α) : Prop :=
  ∃ (p : φ) (staged : List (Strand σ × φ)),
    company.front.Obeys D (fun _ _ => True) ends p
      ∧ company.beside = staged.map Prod.fst
      ∧ (∀ x ∈ staged, Keeps D past x.1 x.2)
      ∧ inv p (staged.map Prod.snd) company.state

/-- **What a single change has to do** for an invariant to hold of a whole company: `inv` holds
before and `inv'` afterwards. -/
structure Upheld [Host σ] (D : Discipline σ φ) (ends : α → φ → Prop) (past : φ → Prop)
    (jobs : Job → Task σ Unit → Prop) (inv inv' : φ → List φ → σ → Prop) (s s' : σ) : Prop where
  knows : ∀ {p ps}, inv p ps s → D.knows p s
  knows_beside : ∀ {p ps q}, inv p ps s → q ∈ ps → D.knows q s
  front : ∀ {p q ps}, inv p ps s → D.may p s q s' → inv' q ps s'
  /-- A change made beside it, while the one in front waits or is at its end. -/
  beside : ∀ {p q q' before after}, ((∃ ready, D.waits p ready) ∨ ∃ a, ends a p) →
    inv p (before ++ q :: after) s → D.may q s q' s' → inv' p (before ++ q' :: after) s'
  gone : ∀ {p q before after}, past q →
    inv' p (before ++ q :: after) s' → inv' p (before ++ after) s'
  start : ∀ {p ps number job task}, inv p ps s → Due number job s → jobs job task →
    s' = takeOff (.start number job) s →
      ∃ q, Keeps D past ⟨task, false⟩ q ∧ inv' p (ps ++ [q]) s'

lemma rests_at {gone : φ → (σ → σ) → Prop} {ends : α → φ → Prop} {p : φ} {task : Task σ α}
    (h : task.Obeys D gone ends p) (hrest : task.Rests) :
    (∃ ready, D.waits p ready) ∨ ∃ a, ends a p := by
  cases task with
  | done a => exact .inr ⟨a, h⟩
  | act update next => exact hrest.elim
  | wait on next => exact .inl ⟨_, h.1⟩

/-- **Every step of a company upholds the invariant**, if every single change does. -/
theorem Kept.step [Host σ] {ends : α → φ → Prop} {past : φ → Prop}
    {jobs : Job → Task σ Unit → Prop} {inv inv' : φ → List φ → σ → Prop} {c c' : Company σ α}
    (hkept : c.Kept D ends past inv) (hstep : Step jobs c c')
    (up : Upheld D ends past jobs inv inv' c.state c'.state) : c'.Kept D ends past inv' := by
  obtain ⟨p, staged, hfront, hbeside, hkeeps, hinv⟩ := hkept
  cases hstep with
  | front h =>
    obtain ⟨q, hmay, hq⟩ := hfront.moves (up.knows hinv) h
    exact ⟨q, staged, hq, hbeside, hkeeps, up.front hinv hmay⟩
  | @beside s s' front before after strand task hrest h =>
    obtain ⟨l, r, rfl, rfl, hr⟩ := List.map_eq_append_iff.mp hbeside.symm
    obtain ⟨⟨strand, q⟩, r, rfl, rfl, rfl⟩ := List.map_eq_cons_iff.mp hr
    rw [List.map_append, List.map_cons] at hinv
    obtain ⟨q', hmay, hq'⟩ :=
      Task.Obeys.moves (hkeeps (strand, q) (by simp)) (up.knows_beside hinv (by simp)) h
    refine ⟨p, l ++ ({ strand with task }, q') :: r, hfront, by simp, ?_, ?_⟩
    · intro x hx
      rcases List.mem_append.mp hx with hx | hx
      · exact hkeeps x (by simp [hx])
      · rcases List.mem_cons.mp hx with rfl | hx
        · exact hq'
        · exact hkeeps x (by simp [hx])
    · rw [List.map_append, List.map_cons]
      exact up.beside (rests_at hfront hrest) hinv hmay
  | @giveUp s front before after strand on next hrest h hwait =>
    obtain ⟨l, r, rfl, rfl, hr⟩ := List.map_eq_append_iff.mp hbeside.symm
    obtain ⟨⟨strand, q⟩, r, rfl, rfl, rfl⟩ := List.map_eq_cons_iff.mp hr
    rw [List.map_append, List.map_cons] at hinv
    have hkeep : Keeps D past strand q := hkeeps (strand, q) (by simp)
    rw [Keeps, hwait] at hkeep
    obtain ⟨q', hmay, hover⟩ := hkeep.2.1 h s (up.knows_beside hinv (by simp))
    refine ⟨p, l ++ r, hfront, by simp, fun x hx => hkeeps x ?_, ?_⟩
    · rcases List.mem_append.mp hx with hx | hx <;> simp [hx]
    · rw [List.map_append]
      exact up.gone hover (up.beside (rests_at hfront hrest) hinv hmay)
  | @start s front beside number job task hrest due h =>
    obtain ⟨q, hkeep, hinv'⟩ := up.start hinv due h rfl
    refine ⟨p, staged ++ [(⟨task, false⟩, q)], hfront, by simpa using hbeside, ?_,
      by simpa using hinv'⟩
    intro x hx
    rcases List.mem_append.mp hx with hx | hx
    · exact hkeeps x hx
    · rw [List.mem_singleton.mp hx]
      exact hkeep

/-- **Somebody joins a company.** -/
lemma Kept.join {ends : α → φ → Prop} {past : φ → Prop} {inv inv' : φ → List φ → σ → Prop}
    {c : Company σ α} (hkept : c.Kept D ends past inv) {strand : Strand σ} {q : φ}
    (hkeeps : Keeps D past strand q)
    (hinv : ∀ p ps, inv p ps c.state → inv' p (ps ++ [q]) c.state) :
    ({ c with beside := c.beside ++ [strand] } : Company σ α).Kept D ends past inv' := by
  obtain ⟨p, staged, hfront, hbeside, hall, h⟩ := hkept
  refine ⟨p, staged ++ [(strand, q)], hfront, by simp [hbeside], fun x hx => ?_, ?_⟩
  · rcases List.mem_append.mp hx with hx | hx
    · exact hall x hx
    · rw [List.mem_singleton.mp hx]
      exact hkeeps
  · rw [List.map_append]
    exact hinv p _ h

lemma Kept.around {ends : α → φ → Prop} {past : φ → Prop} {inv inv' : φ → List φ → σ → Prop}
    {c : Company σ α} (hkept : c.Kept D ends past inv) {s' : σ}
    (hinv : ∀ p ps, inv p ps c.state → inv' p ps s') :
    ({ c with state := s' } : Company σ α).Kept D ends past inv' := by
  obtain ⟨p, staged, hfront, hbeside, hall, h⟩ := hkept
  exact ⟨p, staged, hfront, hbeside, hall, hinv p _ h⟩

end Company

end Transactional
