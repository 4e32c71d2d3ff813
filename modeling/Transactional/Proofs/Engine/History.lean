import Mathlib
import Transactional.Proofs.Engine.Order

/-!
# A pool of the SQL engine that is used again and again

Connections come out of the pool and go back, are used, fail, and are used again; some of those who
have one close it, others let go of it.  However long this goes on, every connection that the pool
has at rest can be used as if it were new, except that the numbers of statements count on; so a
handle from before is refused.

* `Engine.Moment`, `Engine.Happens`, `Engine.Goes` — what there is at a moment, what can happen
  next, and what can happen in the long run.
* `Engine.InOrder`, `Engine.InOrder.happens`, `Engine.InOrder.goes` — everything is in order, after
  whatever happens, and in the long run.
* `Engine.used_again_as_new` — what becomes of the connections and of the handles.
-/

namespace Transactional

namespace Engine

/-! ## Histories -/

/-- **What there is at a moment**: the state with the tasks on it, of which the one in front is a
visit with a record of what it has heard; and how many numbers of statements have been given out on
each connection. -/
structure Moment where
  company : Company World (Option (List Answered))
  issued : Nat → Nat := fun _ => 0

/-- The state at a moment. -/
abbrev Moment.state (m : Moment) : World :=
  m.company.state

/-- **A pool that has not been used yet.** -/
structure Moment.Fresh (m : Moment) : Prop where
  front : m.company.front = .done none
  beside : m.company.beside = []
  idle : m.state.books.idle = []
  jobs : m.state.leaseJobs = []
  links : ∀ base, ¬((link base).get m.state).Pooled
  issued : ∀ base, m.issued base = 0

/-- **What can happen next** with a manager in front of a pool. -/
inductive Happens (manager : Manager World) (trouble : Trouble) (settings : Settings) :
    Moment → Moment → Prop where
  | step {m : Moment} {company : Company World (Option (List Answered))}
      (h : Company.Step (Jobs trouble settings) m.company company) :
      Happens manager trouble settings m
        ⟨company, fun base => m.issued base + issues m.state company.state base⟩
  | around {m : Moment} {s : World} (h : Elsewhere m.state s) :
      Happens manager trouble settings m ⟨{ m.company with state := s }, m.issued⟩
  | join {m : Moment} (visit : Visit) (plain : visit.usage.Plain) :
      Happens manager trouble settings m
        ⟨{ m.company with
          beside := m.company.beside
            ++ [⟨(visit.task manager).bind fun _ => .done (), visit.parting.early⟩] }, m.issued⟩
  /-- Somebody comes to visit, with a record, when the last one with a record is done. -/
  | visit {m : Moment} {heard : Option (List Answered)} (finished : m.company.front = .done heard)
      (visit : Visit) (plain : visit.usage.Plain) :
      Happens manager trouble settings m ⟨{ m.company with front := visit.task manager }, m.issued⟩

/-- **What can happen in the long run.** -/
abbrev Goes (manager : Manager World) (trouble : Trouble) (settings : Settings) :
    Moment → Moment → Prop :=
  Relation.ReflTransGen (Happens manager trouble settings)

variable {manager : Manager World} {trouble : Trouble} {settings : Settings}
  {floor issued : Nat → Nat}
  {m m' m'' : Moment} {s s' : World} {p : TaskStage} {ps : List TaskStage} {base : Nat}

/-! ## Turns -/

/-- How many numbers a task gives out on a connection while it has a turn. -/
def turnIssues (self : TaskId) (base : Nat) : Task World α → World → Nat
  | .done _, _ => 0
  | .act update next, s => issues s (update s) base + turnIssues self base (next s) (update s)
  | .wait on next, s =>
    if on.ready s then turnIssues self base next s else issues s (on.register self s) base

namespace Moment

def turn (self : TaskId) (m : Moment) : Moment where
  company :=
    { m.company with
      state := (m.company.front.poll self m.state).2
      front := (m.company.front.poll self m.state).1 }
  issued base := m.issued base + turnIssues self base m.company.front m.state

def visited (manager : Manager World) (visit : Visit) (m : Moment) : Moment :=
  { m with company := { m.company with front := visit.task manager } }

def begun (number : TaskId) (job : Job) (task : Task World Unit) (m : Moment) : Moment :=
  let s := Company.takeOff (.start number job) m.state
  { company :=
      { m.company with
        state := (task.poll number s).2
        beside := m.company.beside ++ [⟨(task.poll number s).1, false⟩] }
    issued := fun base => m.issued base + turnIssues number base task s }

end Moment

lemma issues_self (s : World) (base : Nat) : issues s s base = 0 :=
  issues_of_alike (.refl _)

/-- **A task has a turn**, wherever it is. -/
lemma Goes.of_moves (place : World → (Nat → Nat) → Task World α → Moment)
    (hplace : ∀ {s s' : World} {issued : Nat → Nat} {task task' : Task World α},
      task.Moves s task' s' →
      Happens manager trouble settings (place s issued task)
        (place s' (fun base => issued base + issues s s' base) task'))
    (self : TaskId) (task : Task World α) (s : World) (issued : Nat → Nat) :
    Goes manager trouble settings (place s issued task)
      (place (task.poll self s).2 (fun base => issued base + turnIssues self base task s)
        (task.poll self s).1) := by
  induction task generalizing s issued with
  | done a => exact .refl
  | act update next ih =>
    have hrest := ih s (update s) fun base => issued base + issues s (update s) base
    simp only [Nat.add_assoc] at hrest
    exact .head (hplace (.act update next s)) hrest
  | wait on next ih =>
    by_cases hready : on.ready s = true
    · have hpass : Happens manager trouble settings (place s issued (.wait on next)) _ :=
        hplace (.pass on next s hready)
      simp only [issues_self, Nat.add_zero] at hpass
      simp only [Task.poll, turnIssues, hready, if_true]
      exact .head hpass (ih s issued)
    · simp only [Task.poll, turnIssues, hready]
      exact .single (hplace (.register on next self s))

lemma Goes.turn (self : TaskId) (m : Moment) : Goes manager trouble settings m (m.turn self) :=
  Goes.of_moves (fun s issued front => ⟨⟨s, front, m.company.beside⟩, issued⟩)
    (fun hmove => .step (.front hmove)) self m.company.front m.state m.issued

lemma Goes.visited (m : Moment) (finished : m.company.front.result?.isSome = true) (visit : Visit)
    (plain : visit.usage.Plain) : Goes manager trouble settings m (m.visited manager visit) := by
  obtain ⟨heard, hover⟩ : ∃ heard, m.company.front = .done heard := by
    revert finished
    cases m.company.front with
    | done heard => exact fun _ => ⟨heard, rfl⟩
    | act | wait => nofun
  exact .single (.visit hover visit plain)

/-- A job begins and has a turn, while nobody in front is in the middle of one. -/
lemma Goes.begun {number : TaskId} {job : Job} {task : Task World Unit} (m : Moment)
    (hrests : m.company.front.Rests) (due : Company.Due number job m.state)
    (hjob : Jobs trouble settings job task) :
    Goes manager trouble settings m (m.begun number job task) := by
  have hstart : Happens manager trouble settings m _ := .step (.start hrests due hjob)
  have hsame : ∀ base, issues m.state (Company.takeOff (.start number job) m.state) base = 0 :=
    fun base => issues_of_alike (.refl _)
  simp only [hsame, Nat.add_zero] at hstart
  refine .head hstart (Goes.of_moves
    (fun s issued task => ⟨⟨s, m.company.front, m.company.beside ++ [⟨task, false⟩]⟩, issued⟩)
    (fun hmove => ?_) number task _ m.issued)
  exact .step (@Company.Step.beside _ _ _ _ _ _ _ m.company.beside [] ⟨_, false⟩ _ hrests hmove)

/-! ## Everything is in order -/

/-- What can be said of a visit with a record when it is done. -/
def Reported (heard : Option (List Answered)) (p : TaskStage) : Prop :=
  p.Past ∧ ∀ taken ∈ heard, ∃ next, Page.HeedsAll { next } taken

/-- **Everything is in order at a moment.** -/
def InOrder (trouble : Trouble) (settings : Settings) (floor : Nat → Nat) (m : Moment) : Prop :=
  m.company.Kept (stageDiscipline trouble settings) Reported TaskStage.Past
    (Order trouble settings floor m.issued)

namespace Order

lemma alone (hidle : s.books.idle = []) (hjobs : s.leaseJobs = [])
    (hlinks : ∀ base, ¬((link base).get s).Pooled) (hissued : ∀ base, issued base = 0) :
    Order trouble settings (fun _ => 0) issued .outside [] s := by
  refine ⟨⟨by rw [hidle]; nofun, hidle ▸ List.nodup_nil, fun base _ h => absurd h (hlinks base),
    fun base _ => ⟨hlinks base, rfl, hissued base⟩⟩, [], hjobs ▸ .nil, ?_⟩
  have hnobody : People trouble settings [] s :=
    ⟨nofun, nofun, nofun, List.nodup_nil, List.nodup_nil, nofun⟩
  exact hnobody.cons (.inl rfl)

lemma elsewhere (h : Order trouble settings floor issued p ps s) (helse : Elsewhere s s') :
    Order trouble settings floor issued p ps s' := by
  obtain ⟨hresting, due, hdue, hpeople⟩ := h
  exact ⟨hresting.elsewhere (fun _ => 0) helse fun _ _ => rfl, due, helse.jobs ▸ hdue,
    hpeople.same helse.lent helse.leases helse.leaseCount helse.linkCount⟩

lemma join (h : Order trouble settings floor issued p ps s) :
    Order trouble settings floor issued p (ps ++ [.outside]) s := by
  obtain ⟨hresting, due, hdue, hpeople⟩ := h
  refine ⟨hresting, due, hdue, (hpeople.cons (.inl rfl)).perm ?_⟩
  rw [List.append_assoc]
  exact (@List.perm_middle _ .outside (p :: ps) due).symm

lemma follow (h : Order trouble settings floor issued p ps s) (hp : p.Past) :
    Order trouble settings floor issued .outside ps s := by
  obtain ⟨hresting, due, hdue, hpeople⟩ := h
  exact ⟨hresting, due, hdue, (hpeople.leave hp).cons (.inl rfl)⟩

/-- **A connection at rest has no statements**, so from now on it can only have new ones. -/
lemma raise (h : Order trouble settings floor issued p ps s) (hidle : base ∈ s.books.idle) :
    Order trouble settings (Function.update floor base (issued base)) issued p ps s := by
  obtain ⟨hresting, hpeople⟩ := h
  obtain ⟨hlt, next, hkept⟩ := hresting.rest base hidle
  refine ⟨⟨hresting.rest, hresting.nodup, fun m hm hpool => ?_, fun m hm => ?_⟩, hpeople⟩
  · have hnumbered := hresting.numbered m hm hpool
    by_cases heq : m = base
    · subst heq
      rw [Function.update_self]
      refine ⟨hnumbered.lives, Nat.le_refl _, hnumbered.next, ?_⟩
      rw [hkept.statements]
      nofun
    · rwa [Function.update_of_ne heq]
  · rw [Function.update_of_ne (hlt.trans_le hm).ne']
    exact hresting.unused m hm

end Order

/-- **A visit beside others.** -/
lemma visit_keeps (opens : trouble.OpensNothing) (fronts : Fronts manager trouble settings)
    {visit : Visit} (plain : visit.usage.Plain) :
    Company.Keeps (stageDiscipline trouble settings) TaskStage.Past
      ⟨(visit.task manager).bind fun _ => .done (), visit.parting.early⟩ .outside := by
  refine (visit_obeys opens fronts plain fun p f h hearly => h ?_).bind fun _ _ h => h.1
  revert hearly
  cases visit.parting
  · nofun
  · exact fun _ => rfl

namespace InOrder

lemma fresh (h : m.Fresh) : InOrder trouble settings (fun _ => 0) m := by
  obtain ⟨⟨s, front, beside⟩, issued⟩ := m
  obtain ⟨rfl, rfl, hidle, hjobs, hlinks, hissued⟩ := h
  exact ⟨.outside, [], ⟨trivial, nofun⟩, rfl, nofun, .alone hidle hjobs hlinks hissued⟩

/-- **Whatever happens**, everything stays in order. -/
lemma happens (opens : trouble.OpensNothing) (fronts : Fronts manager trouble settings)
    (h : InOrder trouble settings floor m) (hnext : Happens manager trouble settings m m') :
    InOrder trouble settings floor m' := by
  cases hnext with
  | step hstep => exact Company.Kept.step h hstep (Order.upheld opens _ _)
  | around helse => exact Company.Kept.around h fun _ _ h => h.elsewhere helse
  | join visit plain =>
    exact Company.Kept.join h (visit_keeps opens fronts plain) fun _ _ h => h.join
  | visit finished visit plain =>
    obtain ⟨p, staged, hfront, hbeside, hkeeps, horder⟩ := h
    rw [finished] at hfront
    have hreported : Reported _ p := hfront
    exact ⟨.outside, staged, visit_obeys opens fronts plain fun _ _ _ => trivial, hbeside, hkeeps,
      horder.follow hreported.1⟩

/-- **In the long run** everything stays in order. -/
theorem goes (opens : trouble.OpensNothing) (fronts : Fronts manager trouble settings)
    (h : InOrder trouble settings floor m) (hgoes : Goes manager trouble settings m m') :
    InOrder trouble settings floor m' := by
  induction hgoes with
  | refl => exact h
  | tail _ hnext ih => exact ih.happens opens fronts hnext

/-- **Raising the floor** for a connection at rest. -/
lemma raise (h : InOrder trouble settings floor m) (hidle : base ∈ m.state.books.idle) :
    InOrder trouble settings (Function.update floor base (m.issued base)) m :=
  Company.Kept.around h fun _ _ h => h.raise hidle

/-! ## What follows -/

lemma resting (h : InOrder trouble settings floor m) : Resting floor m.issued m.state := by
  obtain ⟨p, staged, -, -, -, hresting, -⟩ := h
  exact hresting

/-- **Connections at rest can be used again.** -/
lemma atRest (h : InOrder trouble settings floor m) (hidle : base ∈ m.state.books.idle) :
    ((link base).get m.state).AtRest := by
  obtain ⟨-, next, hkept⟩ := h.resting.rest base hidle
  exact hkept.atRest

/-- **Whoever takes a connection finds it as if it were new.** -/
lemma taken (h : InOrder trouble settings floor m) :
    ((link (take m.state).1).get (take m.state).2).AtRest := by
  cases taken_take m.state with
  | rested others count idle moved =>
    obtain ⟨-, next, hkept⟩ := h.resting.rest _ (idle ▸ List.mem_cons_self)
    rw [moved]
    exact (hkept.move .lent).atRest
  | new others count idle new =>
    rw [new]
    exact (Link.Kept.new .lent).atRest

lemma reported (h : InOrder trouble settings floor m) {taken : List Answered}
    (hdone : m.company.front = .done (some taken)) : ∃ next, Page.HeedsAll { next } taken := by
  obtain ⟨p, staged, hfront, -⟩ := h
  rw [hdone] at hfront
  exact hfront.2 taken rfl

lemma lent (h : InOrder trouble settings floor m)
    (hlent : ((link base).get m.state).place = .lent) :
    Numbered (floor base) (m.issued base) ((link base).get m.state) := by
  have hpool : ((link base).get m.state).Pooled := .inl hlent
  exact h.resting.numbered base (Nat.lt_of_not_le fun hle => (h.resting.unused base hle).1
    hpool) hpool

end InOrder

lemma Goes.issued_le (h : Goes manager trouble settings m m') (base : Nat) :
    m.issued base ≤ m'.issued base := by
  induction h with
  | refl => exact Nat.le_refl _
  | tail _ hnext ih =>
    cases hnext with
    | step => exact ih.trans (Nat.le_add_right _ _)
    | around | join | visit => exact ih

/-- **Numbers do not come back** before all of them have been given out. -/
lemma Numbered.fresh {low count below last : Nat} {l l' : Link} (h : Numbered low count l)
    (h' : Numbered below last l') (hbelow : count ≤ below) (hall : last ≤ 2 ^ 64) {id : UInt64}
    (hid : id ∈ l.statements) : id ∉ l'.statements := by
  intro hid'
  obtain ⟨i, -, hi, rfl⟩ := h.ids id hid
  obtain ⟨j, hj, hjlast, heq⟩ := h'.ids _ hid'
  have hsame := congrArg UInt64.toNat heq
  rw [UInt64.toNat_ofNat', UInt64.toNat_ofNat'] at hsame
  omega

/-- **A handle that is not known is refused.** -/
lemma execute_refused {handle : StatementHandle} (hlives : ((link base).get s).isTerminated = false)
    (hunknown : handle.id ∉ ((link base).get s).statements) (bindings : List Scalar)
    (self : TaskId) :
    (((beset trouble base).execute handle bindings).run.poll self s).1 = .done
      (.error handle.unknown) := by
  let call (l : Link) : Except Fault Outcome × Link :=
    failing (if l.statements.contains handle.id then trouble (.execute base handle.sql bindings)
      s else none)
      (executeOn handle bindings) l
  have hcall : (call ((link base).get s)).1 = .error handle.unknown := by
    simp [call, hunknown, failing, executeOn, StatementHandle.unknown]
  have hopen : (onOpen base call s).1 = (call ((link base).get s)).1 := by
    simp only [onOpen, hlives, Bool.false_eq_true, if_false]
  exact congrArg Task.done (hopen.trans hcall)

/-- **Connections are used again as if they were new**, whatever has happened to them before: on
those at rest nothing is open, noted or prepared, so whoever takes one finds nothing of those who
had it before him.  What a visit has not prepared itself, or has destroyed, is refused; and a handle
from before the connection was at rest is not known on it any more, until all numbers have been
given out. -/
theorem used_again_as_new (opens : trouble.OpensNothing) (fronts : Fronts manager trouble settings)
    {start : Moment} (fresh : start.Fresh) (history : Goes manager trouble settings start m) :
    (∀ base ∈ m.state.books.idle, ((link base).get m.state).AtRest)
      ∧ ((link (take m.state).1).get (take m.state).2).AtRest
      ∧ (∀ before handle bindings answer after,
          m.company.front = .done (some (before ++ ⟨.execute handle bindings, answer⟩ :: after)) →
            handle.id ∉ (Answered.leftOver before).map (·.id) → answer = .error handle.unknown)
      ∧ ∀ rest later base, Goes manager trouble settings m rest → Goes manager trouble settings
        rest later →
          ((link base).get m.state).place = .lent → base ∈ rest.state.books.idle →
          ((link base).get later.state).place = .lent → later.issued base ≤ 2 ^ 64 →
            ∀ handle : StatementHandle, handle.id ∈ ((link base).get m.state).statements →
              ∀ bindings self, (((beset trouble base).execute handle bindings).run.poll self
                later.state).1
                = .done (.error handle.unknown) := by
  have horder : InOrder trouble settings (fun _ => 0) m :=
    (InOrder.fresh fresh).goes opens fronts history
  refine ⟨fun base => horder.atRest, horder.taken, ?_, ?_⟩
  · intro before handle bindings answer after hdone hunknown
    obtain ⟨next, hheeds⟩ := horder.reported hdone
    refine hheeds.refused ?_
    rwa [Answered.handles_foldl]
  · intro rest later base hrest hlater hlent hidle hagain hall handle hknown bindings self
    have hbefore := horder.lent hlent
    have hafter :=
      (((horder.goes opens fronts hrest).raise hidle).goes opens fronts hlater).lent hagain
    rw [Function.update_self] at hafter
    exact execute_refused hafter.lives (hbefore.fresh hafter (hrest.issued_le base) hall hknown)
      bindings self

/-! ## A connection that is used twice -/

def noBegin : Trouble
  | .begin _, _ => some { fault := .engine "disk I/O error" }
  | _, _ => none

/-- Somebody tries to begin a transaction, prepares a statement and lets go of the connection. -/
def careless : Visit where
  usage := .use .begin fun _ => .use (.prepare "" .other) fun _ => .done ()
  parting := .drop

/-- Somebody executes a statement that another one has prepared. -/
def curious : Visit where
  usage := .use (.execute ⟨1, "", .other⟩ []) fun _ => .done ()
  parting := .drop

/-- The statement of the one who had the only connection first is refused to the one who has it
then, and what he has left behind is gone in between. -/
theorem used_again_as_new_without_begin :
    let manager : Manager World := World.manager (besetPool noBegin .single)
    let start : Moment := { company := ⟨{}, .done none, []⟩ }
    let m := (((start.visited manager careless).turn 0).begun 1 .replenish replenish).turn 0
    let rest := m.begun 3 (.close 0 0) (((besetPool noBegin .single).lease 0 0).shutdown .closed)
    let later := (rest.visited manager curious).turn 0
    start.Fresh ∧ Goes manager noBegin .single start m ∧ Goes manager noBegin .single m rest
      ∧ Goes manager noBegin .single rest later
      ∧ ((link 0).get m.state).statements = [1]
      ∧ 0 ∈ rest.state.books.idle ∧ ((link 0).get rest.state).AtRest
      ∧ (((beset noBegin 0).execute ⟨1, "", .other⟩ []).run.poll 0 later.state).1
        = .done (.error (.execution "statement 1 was not prepared on this connection")) := by
  intro manager start m rest later
  have opens : noBegin.OpensNothing := by
    intro call s mishap hmishap database hnone
    cases call with
    | begin base =>
      obtain rfl := Option.some.inj hmishap
      exact hnone
    | _ => cases hmishap
  have fronts : Fronts manager noBegin .single := ⟨rfl, rfl⟩
  have fresh : start.Fresh := by
    refine ⟨rfl, rfl, rfl, rfl, fun base hpooled => ?_, fun _ => rfl⟩
    rcases hpooled with hplace | hplace <;> cases hplace
  have hplain : Plain "" := by
    unfold Plain
    decide +kernel
  have hfirst : Goes manager noBegin .single start m := by
    have hcome : Goes manager noBegin .single start ((start.visited manager careless).turn 0) :=
      (Goes.visited start rfl careless ⟨trivial, fun _ _ => ⟨trivial, fun _ _ => trivial⟩⟩).trans
        (Goes.turn 0 _)
    refine (hcome.trans (Goes.begun _ ?_ ?_ (.inr ⟨rfl, rfl⟩))).trans (Goes.turn 0 _)
    · cbv
    · decide +kernel
  have hrest : Goes manager noBegin .single m rest := by
    refine Goes.begun m ?_ ?_ (.inl ⟨0, 0, .inl ⟨rfl, rfl⟩⟩)
    · cbv
    · decide +kernel
  have hlater : Goes manager noBegin .single rest later := by
    refine (Goes.visited rest ?_ curious ⟨hplain, fun _ _ => trivial⟩).trans (Goes.turn 0 _)
    decide +kernel
  have hstatements : ((link 0).get m.state).statements = [1] := by decide +kernel
  have hidle : 0 ∈ rest.state.books.idle := by decide +kernel
  refine ⟨fresh, hfirst, hrest, hlater, hstatements, hidle,
    (used_again_as_new opens fronts fresh (hfirst.trans hrest)).1 0 hidle, ?_⟩
  refine (used_again_as_new opens fronts fresh hfirst).2.2.2 rest later 0 hrest hlater ?_
    hidle ?_ ?_
    ⟨1, "", .other⟩ ?_ [] 0
  · decide +kernel
  · decide +kernel
  · decide +kernel
  · rw [hstatements]
    exact List.mem_singleton.mpr rfl

end Engine

end Transactional
