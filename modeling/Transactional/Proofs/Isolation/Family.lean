import Transactional.Proofs.Isolation.Apart

/-!
# Everything that can happen to a family of runs

Any number of runs are set off through one manager, and all tasks move whenever they like.  One of
the runs, whichever it is, stands in front, and what is seen of it is written down: the connection
that it opens, what it publishes, and whether it takes an id from the counter.

* `World.Fresh` — a fresh backend with scripts and failures, and a pool of its own.
* `Family.Seen`, `Family.Story` — what is seen of a run, and everything that can happen.
* `Family.Story.watched` — at each moment the run knows what it has on its connection, and the
  others keep off it.
-/

namespace Transactional

variable {ψ ρ α : Type}

/-- **A fresh backend** with scripts and failures, a pool of that capacity and an open manager,
where no job is due, and where the futures of a run find what they rely on. -/
structure World.Fresh (S : Setting ρ ψ) (e : ψ) (capacity : Nat) (s : World) : Prop where
  backend : s.backend = { responses := S.responses, failures := S.failures }
  accounts : s.accounts = { permits := { free := capacity } }
  unclosed : s.managerClosed = false
  due : s.schedule.starts = []
  relied : S.futures.knows e s

/-- **A program that may be set off beside others**: the changes that its futures make are none of
their business, and they wait only for what is settled. -/
def Setting.Admits (S : Setting ρ ψ) (program : Program World) : Prop :=
  program.Lifts fun task => task.Respects (fun _ => True) (World.Harmless S.futures)
    ∧ ∀ ready, task.Waits ready → S.awaited ready

namespace Family

/-- **What has been seen of a run.** -/
structure Seen (ρ : Type) where
  link : Option Nat := none
  told : List ρ := []
  /-- Whether it has taken an id from the counter, because an insert that it executed has no script.
  -/
  drew : Bool := false

def Seen.follow (heard : World → List ρ) (s s' : World) (seen : Seen ρ) : Seen ρ where
  link := seen.link.or
    (if s'.backend.linkCount = s.backend.linkCount then none else some s'.backend.linkCount)
  told := seen.told ++ (heard s').drop (heard s).length
  drew := seen.drew || s'.backend.lastInsertId != s.backend.lastInsertId

def Jobs (job : Job) (task : Task World Unit) : Prop :=
  ∃ base number, Memory.pool.Jobs base number job task

/-- **Everything that can happen to a family of runs**: one of them stands in front, the others are
set off beside it, with any sink, limit and program whatever, and may be given up if that is
settled; every task moves one change at a time and in any order; and things happen around them that
the run in front does not see.  The number says how many others there are. -/
inductive Story (S : Setting ρ ψ) (manager : Manager World) (run : Task World α) (w : World) :
    Nat → Seen ρ → Company World α → Prop where
  | start : Story S manager run w 0 {} ⟨w, run, []⟩
  | come {others : Nat} {seen : Seen ρ} {c : Company World α}
      (h : Story S manager run w others seen c)
      {sink : Sink World} (hsink : ∀ event s, World.Harmless S.futures s (sink.publish event s))
      (limit : Option Duration) {program : Program World} (hprogram : S.Admits program) :
      Story S manager run w (others + 1) seen
        { c with
          beside := c.beside
            ++ [⟨(runWith manager sink limit program).run.bind fun _ => .done (), S.optional⟩] }
  | move {others : Nat} {seen : Seen ρ} {c : Company World α}
      (h : Story S manager run w others seen c)
      {front : Task World α} {s' : World} (hmove : c.front.Moves c.state front s') :
      Story S manager run w others (seen.follow S.heard c.state s') ⟨s', front, c.beside⟩
  | beside {others : Nat} {seen : Seen ρ} {c : Company World α}
      (h : Story S manager run w others seen c)
      {s' : World} {beside : List (Strand World)}
      (hstep : Company.Step Jobs (⟨c.state, .done (), c.beside⟩ : Company World Unit)
        ⟨s', .done (), beside⟩) :
      Story S manager run w others seen ⟨s', c.front, beside⟩
  | around {others : Nat} {seen : Seen ρ} {c : Company World α} {s' : World}
      (h : Story S manager run w others seen c) (hout : World.Harmless S.futures c.state s') :
      Story S manager run w others seen { c with state := s' }

/-- **What is true at each moment** of the run in front and of the others. -/
structure Watched (T : Terms ρ ψ) (ends : α → Phase ρ ψ → Prop) (seen : Seen ρ) (p : Phase ρ ψ)
    (c : Company World α) : Prop where
  front : c.front.Obeys (solo T) (fun _ _ => True) ends p
  beside : (⟨c.state, .done (), c.beside⟩ : Company World Unit).Kept (others T.futures)
    (fun _ _ => True) (fun _ => True) fun r rs s => Apart T p (r :: rs) s
  link : seen.link = p.base?
  told : seen.told = p.told

variable {S : Setting ρ ψ} {T : Terms ρ ψ} {manager : Manager World} {run : Task World α}
  {w s s' : World} {p q : Phase ρ ψ} {r : OtherStage} {otherStages : List OtherStage} {e : ψ}
    {capacity n : Nat}
  {seen : Seen ρ} {c : Company World α} {ends : α → Phase ρ ψ → Prop}

lemma apart_of_fresh (hw : w.Fresh T.toSetting e capacity) :
    Apart T (.seeking e) [.seeking] w where
  knows := by
    refine ⟨⟨?_, ?_, hw.unclosed, hw.relied⟩, ?_⟩
    · exact congrArg Memory.Backend.responses hw.backend
    · exact congrArg Memory.Backend.failures hw.backend
    · exact congrArg (fun a => a.permits.shut) hw.accounts
  closed h := nomatch h
  base h := nomatch h
  number h := nomatch h
  fresh _ m _ := by
    rw [World.callsOn, hw.backend]
    rfl
  otherStages r hr := by
    rw [List.mem_singleton.mp hr]
    trivial
  due entry hentry := by
    rw [hw.due] at hentry
    exact absurd hentry List.not_mem_nil

lemma knows_of_fits (hr : r.Fits p s) : (others T.futures).knows r s := by
  cases r with
  | late base number => exact hr.2.2.2
  | _ => trivial

/-- **Every step of the others keeps them off the run.** -/
lemma apart_upheld (hS : T.futures.Discreet T.heard) (s s' : World) :
    Company.Upheld (others T.futures) (fun (_ : Unit) _ => True) (fun _ => True) Jobs
      (fun r rs s => Apart T p (r :: rs) s) (fun r rs s => Apart T p (r :: rs) s) s s' where
  knows h := knows_of_fits (T := T) (h.otherStages _ List.mem_cons_self)
  knows_beside h hr := knows_of_fits (T := T) (h.otherStages _ (List.mem_cons_of_mem _ hr))
  front h hmay := h.beside hS [] hmay
  beside {r q q' before after} _ h hmay := h.beside hS (r :: before) hmay
  gone {r q before after} _ h := h.leave (r :: before)
  start {r rs number job task} h due hjob hs' := by
    obtain ⟨base, n, hjob⟩ := hjob
    obtain ⟨q, hkeeps, hq⟩ := job_obeys_others false hS.toPrivate hjob
    refine ⟨q, hkeeps, ?_⟩
    rw [hs']
    refine h.start hS due fun hfits => ?_
    rcases hq with ⟨rfl, rfl⟩ | ⟨rfl, rfl⟩ <;> exact hfits

/-- **A step of the run** is one that its discipline allows; the others do not mind it. -/
lemma Watched.move (hS : T.futures.Discreet T.heard) (hwatched : Watched T ends seen p c)
    {front : Task World α} (hmove : c.front.Moves c.state front s')
    (hdraws : T.draws = true → s'.backend.lastInsertId = c.state.backend.lastInsertId) :
    ∃ q, Watched T ends (seen.follow T.heard c.state s') q ⟨s', front, c.beside⟩ := by
  obtain ⟨r, staged, hr, hbeside, hkeeps, happart⟩ := hwatched.beside
  obtain ⟨q, hmay, hq⟩ := hwatched.front.moves happart.knows hmove
  have hid : s'.backend.lastInsertId = c.state.backend.lastInsertId := by
    cases hT : T.draws with
    | true => exact hdraws hT
    | false => exact hmay.undrawn hT
  obtain ⟨-, hbase, more, hheard, htold⟩ := happart.shows hS hmay hid
  refine ⟨q, hq, ⟨r, staged, hr, hbeside, hkeeps, happart.front hS hmay hid⟩, ?_, ?_⟩
  · rw [Seen.follow, hwatched.link, hbase]
  · rw [Seen.follow, hwatched.told, hheard, htold, List.drop_left]

/-- **At each moment the run knows what it has on its connection, and the others keep off it.** -/
theorem Story.watched (hS : T.futures.Discreet T.heard)
    (hmanager : manager.Discreet T.futures T.heard)
    (hrun : run.Obeys (solo T) (fun _ _ => True) ends (.seeking e))
    (hw : w.Fresh T.toSetting e capacity) (story : Story T.toSetting manager run w n seen c)
    (hdraws : T.draws = true → seen.drew = false) : ∃ p, Watched T ends seen p c := by
  induction story with
  | start => exact ⟨_, hrun, ⟨.seeking, [], trivial, rfl, by simp, apart_of_fresh hw⟩, rfl, rfl⟩
  | come _ hsink limit hprogram ih =>
    obtain ⟨p, hwatched⟩ := ih hdraws
    refine ⟨p, { hwatched with beside := ?_ }⟩
    exact hwatched.beside.join (run_obeys_others hS.toPrivate hmanager hsink limit
      (hprogram.imp fun _ => And.left))
      fun r rs happart => happart.come
  | @move _ seen c _ _ s' hmove ih =>
    have hsame : T.draws = true →
        seen.drew = false ∧ s'.backend.lastInsertId = c.state.backend.lastInsertId := by
      intro hT
      have hnone := hdraws hT
      simpa [Seen.follow] using hnone
    obtain ⟨p, hwatched⟩ := ih fun hT => (hsame hT).1
    exact hwatched.move hS hmove fun hT => (hsame hT).2
  | beside _ hstep ih =>
    obtain ⟨p, hwatched⟩ := ih hdraws
    exact ⟨p, { hwatched with beside := hwatched.beside.step hstep (apart_upheld hS _ _) }⟩
  | around _ hout ih =>
    obtain ⟨p, hwatched⟩ := ih hdraws
    exact ⟨p,
      { hwatched with beside := hwatched.beside.around fun _ _ happart => happart.around hout }⟩

/-! ## Turns -/

def Seen.along (heard : World → List ρ) (self : TaskId) : Task World α → World → Seen ρ → Seen ρ
  | .done _, _, seen => seen
  | .act update next, s, seen =>
      along heard self (next s) (update s) (seen.follow heard s (update s))
  | .wait on next, s, seen =>
      if on.ready s then along heard self next s (seen.follow heard s s)
      else seen.follow heard s (on.register self s)

namespace Story

variable {task : Task World α} {beside : List (Strand World)}

/-- **A turn of the run is a part of its story.** -/
lemma turn (self : TaskId) (story : Story S manager run w n seen ⟨s, task, beside⟩) :
    Story S manager run w n (seen.along S.heard self task s)
      ⟨(task.poll self s).2, (task.poll self s).1, beside⟩ := by
  induction task generalizing s seen with
  | done a => exact story
  | act update next ih => exact ih s (story.move (.act update next s))
  | wait on next ih =>
    rw [Task.poll, Seen.along]
    split
    next hready => exact ih (story.move (.pass on next s hready))
    next => exact story.move (.register on next self s)

lemma turn_beside (self : TaskId) (before after : List (Strand World)) {task : Task World Unit}
    {optional : Bool} {front : Task World α}
    (story : Story S manager run w n seen ⟨s, front, before ++ ⟨task, optional⟩ :: after⟩) :
    Story S manager run w n seen
      ⟨(task.poll self s).2, front, before ++ ⟨(task.poll self s).1, optional⟩ :: after⟩ := by
  induction task generalizing s with
  | done a => exact story
  | act update next ih => exact ih s (story.beside (.beside trivial (.act update next s)))
  | wait on next ih =>
    rw [Task.poll]
    split
    next hready => exact ih (story.beside (.beside trivial (.pass on next s hready)))
    next => exact story.beside (.beside trivial (.register on next self s))

end Story

end Family

end Transactional
