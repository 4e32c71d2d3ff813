import Transactional.Proofs.Isolation.Progress
import Transactional.Proofs.Lease.Release
import Transactional.Proofs.Run.Bracket

/-!
# Runs do not notice each other

Runs that share a pool share its permits, its scripts and its journal; and yet each comes to the end
to which it comes alone: with the same result, the same events and the same calls, whatever the
others do and however they fail.  What differs is which connection it has.

* `SameUpToBase` — two outcomes that differ in the connection that they name, at most.
* `Family.Story.reaches` — what comes of a run among others is decided when it is set off.
* `Family.Story.finishes` — a run that is alone, and does not wait in vain for its futures, comes to
  its end.
* `Family.runs_as_if_alone` — so a run among others comes to the end to which it comes alone, and in
  the end all of them are over.
-/

namespace Transactional

variable {ψ ρ α : Type}

/-- **One outcome on one connection is like another one on another**: that shows only in the fault
of a statement that is not prepared, which names the connection. -/
inductive SameUpToBase (base base' : Nat) : Except Fault Value → Except Fault Value → Prop where
  | same (outcome : Except Fault Value) : SameUpToBase base base' outcome outcome
  | unprepared (id : UInt64) :
      SameUpToBase base base' (.error (Memory.notPrepared id base))
        (.error (Memory.notPrepared id base'))

lemma Reply.Plain.sameUpToBase {reply : Reply (Except Fault Value)} (h : reply.Plain)
    (base base' : Nat) : SameUpToBase base base' (reply.on base) (reply.on base') := by
  cases reply with
  | same outcome => exact .same outcome
  | unprepared fail id =>
    obtain rfl : fail = .error := h
    exact .unprepared id

/-- **Nobody waits in vain** for what a future waits for: it may come without the run's doing. -/
def Discipline.Comes (E : Discipline World ψ) : Prop :=
  ∀ e ready s, E.waits e ready → E.knows e s → ∃ s', World.Harmless E s s' ∧ ready s' = true

/-- The calls on a connection, as if it were connection zero. -/
def World.callsAlike (base : Nat) (s : World) : List Memory.Call :=
  (s.callsOn base).map (Memory.Call.onto 0)

lemma RunState.Known.callsAlike {T : Terms ρ ψ} {base : Nat} {runState : RunState ρ} {e : ψ}
    {s : World}
    (hs : runState.Known T base e s) : s.callsAlike base = runState.calls.map
    (Memory.Call.onto 0) := by
  have hcalls : s.callsOn base = runState.calls.map (Memory.Call.onto base) := hs.calls
  rw [World.callsAlike, hcalls, List.map_map]
  congr 1
  exact funext fun call => call.onto_onto base 0

namespace Family

variable {S : Setting ρ ψ} {manager : Manager World} {sink : Sink World} {mark : Event → List ρ}
  {program : Program World} {run task : Task World α} {w s s' : World} {e : ψ}
  {capacity n : Nat} {seen : Seen ρ} {c : Company World α} {outcome : Except Fault Value}
  {reply : Reply (Except Fault Value)} {runState : RunState ρ}

/-! ## A run among others -/

/-- **What has come of a run**, as far as it is seen: its connection, its result, what it has
published, and its calls. -/
structure Ended (reply : Reply (Except Fault Value)) (runState : RunState ρ) (seen : Seen ρ)
    (s : World)
    (outcome : Except Fault Value) (base : Nat) : Prop where
  link : seen.link = some base
  outcome : outcome = reply.on base
  told : seen.told = runState.told
  calls : s.callsAlike base = runState.calls.map (Memory.Call.onto 0)

lemma Watched.ended {T : Terms ρ ψ} {p : Phase ρ ψ} {c : Company World (Except Fault Value)}
    (hwatched : Watched T (Phase.Reached reply runState) seen p c)
    (hdone : c.front = .done outcome) :
    ∃ base, Ended reply runState seen c.state outcome base := by
  obtain ⟨hfront, ⟨r, staged, -, -, -, happart⟩, hlink, htold⟩ := hwatched
  rw [hdone] at hfront
  obtain ⟨base, houtcome, hover⟩ := hfront
  have hknows := happart.knows
  refine ⟨base, ?_⟩
  cases p with
  | seeking e => exact hover.elim
  | opened b k =>
    obtain ⟨rfl, e, rfl⟩ := hover
    exact ⟨hlink, houtcome, htold, hknows.callsAlike⟩
  | leased b number x =>
    obtain ⟨rfl, e, rfl⟩ := hover
    exact ⟨hlink, houtcome, htold, hknows.2.callsAlike⟩

/-- **What comes of a run among others is decided when it is set off**: there is one reply and one
state of the run to which it comes in every family and on every fresh backend, if it takes no id
from the counter. -/
theorem Story.reaches (hS : S.futures.Discreet S.heard)
    (hmanager : manager.Discreet S.futures S.heard) (hsink : sink.Tells S mark)
    (hprogram : program.Lifts S.futures.Settles) (hw : w.Fresh S e capacity)
    {c : Company World (Except Fault Value)}
    (story : Story S manager (runWith manager sink none program).run w n seen c)
    (hscripted : seen.drew = false) (hdone : c.front = .done outcome) :
    ∃ reply runState, reply.Plain
      ∧ (runWith manager sink none program).run.Obeys (solo ⟨S, false⟩) (fun _ _ => True)
          (Phase.Reached reply runState) (.seeking e)
      ∧ ∃ base, Ended reply runState seen c.state outcome base := by
  rcases run_decided hS hmanager hsink hprogram e with hlost | ⟨reply, runState, hplain, hobeys⟩
  · -- A run that must take an id from the counter cannot have come to its end without.
    obtain ⟨p, hfront, ⟨r, staged, -, -, -, happart⟩, -, -⟩ :=
      story.watched (T := ⟨S, true⟩) hS hmanager hlost hw fun _ => hscripted
    rw [hdone] at hfront
    have hknows := happart.knows
    cases p with
    | seeking e => exact hfront.elim
    | opened b k => exact hfront.elim
    | leased b number x =>
      have hunsure : x.2 = .unsure := hfront
      have hnever : x.2.Knows ⟨S, true⟩ b c.state := hknows.2
      rw [hunsure] at hnever
      exact hnever.elim
  · obtain ⟨p, hwatched⟩ :=
      story.watched (T := ⟨S, false⟩) hS hmanager (hobeys false) hw fun h => nomatch h
    exact ⟨reply, runState, hplain, hobeys false, hwatched.ended hdone⟩

/-! ## A run alone -/

lemma harmless_refresh (hS : S.futures.Private) (s : World) :
    World.Harmless S.futures s (Host.schedule.modify Schedule.refresh s) :=
  ⟨⟨rfl, rfl, rfl, rfl, rfl, rfl⟩, fun e => (hS.schedule e _ s).mpr⟩

lemma Seen.follow_link {heard : World → List ρ} {seen : Seen ρ} {s s' : World}
    (h : seen.link ≠ none ∨ s'.backend.linkCount ≠ s.backend.linkCount) :
    (seen.follow heard s s').link ≠ none := by
  simp only [Seen.follow, ne_eq, Option.or_eq_none_iff, not_and_or]
  exact h.imp_right fun hne => by simp [hne]

/-- **A run that is alone gets its connection**: there is a permit for it. -/
lemma Story.opens (hS : S.futures.Discreet S.heard) (hmanager : manager.Discreet S.futures S.heard)
    (hw : w.Fresh S e capacity) (hcapacity : 0 < capacity) :
    ∃ seen s task, Story S manager (runWith manager sink none program).run w 0 seen ⟨s, task, []⟩
      ∧ seen.link ≠ none := by
  obtain ⟨pool, closed, wrapping, timeout⟩ := manager
  obtain rfl : pool = Memory.pool := hmanager.pool
  obtain rfl : closed = World.managerCell := hmanager.closed
  let run := (runWith ⟨Memory.pool, World.managerCell, wrapping, timeout⟩ sink none program).run
  have hopen : World.managerCell.get w = false := hw.unclosed
  have hpermits : Memory.permits.get (Host.schedule.modify Schedule.refresh w)
    = { free := capacity } :=
    congrArg (fun a : Memory.Accounts => a.permits) hw.accounts
  have started : Story S ⟨Memory.pool, World.managerCell, wrapping, timeout⟩ run w 0 {}
    ⟨w, run, []⟩ :=
    .start
  have looked := started.move (.act _ _ _)
  simp only [hopen, Bool.false_eq_true, if_false, Task.done_bind, ExceptT.bindCont] at looked
  have turned := looked.around (harmless_refresh hS.toPrivate w)
  have asked := (turned.move (.pass _ _ _ (Pool.pause_ready w))).move (.act _ _ _)
  simp only [hpermits, Bool.false_eq_true, hcapacity, if_false, if_true, Task.done_bind,
    ExceptT.bindCont] at asked
  exact ⟨_, _, _, asked.move (.act _ _ _), Seen.follow_link (.inr (Nat.succ_ne_self _))⟩

/-- **A run that is alone, and does not wait in vain for its futures, comes to its end.** -/
lemma Story.finishes {ends : α → Phase ρ ψ → Prop} (hS : S.futures.Discreet S.heard)
    (hmanager : manager.Discreet S.futures S.heard) (hcomes : S.futures.Comes)
    (hrun : run.Obeys (solo ⟨S, false⟩) (fun _ _ => True) ends (.seeking e))
    (hw : w.Fresh S e capacity) (story : Story S manager run w 0 seen ⟨s, task, []⟩)
    (hlink : seen.link ≠ none) :
    ∃ seen' s' a, Story S manager run w 0 seen' ⟨s', .done a, []⟩ := by
  induction task generalizing seen s with
  | done a => exact ⟨_, _, a, story⟩
  | act update next ih =>
    exact ih s (story.move (.act update next s)) (Seen.follow_link (.inl hlink))
  | wait on next ih =>
    obtain ⟨p, hfront, ⟨r, staged, -, -, -, happart⟩, hbase, -⟩ :=
      story.watched (T := ⟨S, false⟩) hS hmanager hrun hw fun h => nomatch h
    -- With its connection in hand the run waits for its turn, or for a future.
    obtain ⟨s', hout, hready⟩ : ∃ s', World.Harmless S.futures s s' ∧ on.ready s' = true := by
      have hturn : on.ready = (Task.pause : Wait World).ready →
          ∃ s', World.Harmless S.futures s s' ∧ on.ready s' = true := by
        intro hpause
        exact ⟨_, harmless_refresh hS.toPrivate s, hpause ▸ Pool.pause_ready s⟩
      have hknows := happart.knows
      have hwaits := hfront.1
      cases p with
      | seeking e => exact absurd hbase hlink
      | opened b k => exact hwaits.elim
      | leased b number x =>
        obtain ⟨state, k⟩ := x
        cases k with
        | informed runState e =>
          exact hwaits.elim hturn fun hfuture => hcomes e _ s hfuture hknows.2.1.steady.relied
        | left runState e => exact hturn hwaits
        | unsure => exact hknows.2.elim
    exact ih ((story.around hout).move (.pass on next s' hready)) (Seen.follow_link (.inl hlink))

/-! ## Both -/

/-- **A run among others comes to the end to which it comes alone.**  Any number of runs, of any
programs whatever, are set off through one manager over a pool of any capacity, and all tasks move
in any order.  When one of the runs is over, and has taken no id from the counter, it has the same
result, the same events and the same calls as the same run has when it is alone on a fresh backend
with the same scripts and failures, up to the connection; and alone it does come to its end, if it
does not wait in vain for its futures.  Nor do the runs keep each other from their ends: if none is
given up, and nothing can move any more although all futures have come, then all of them are over.
-/
theorem runs_as_if_alone {capacity' : Nat} {w' : World} (hS : S.futures.Discreet S.heard)
    (hmanager : manager.Discreet S.futures S.heard) (hsink : sink.Tells S mark)
    (hprogram : program.Lifts S.futures.Settles) (hw : w.Fresh S e capacity)
    (hw' : w'.Fresh S e capacity') {c : Company World (Except Fault Value)}
    (story : Story S manager (runWith manager sink none program).run w n seen c) :
    (seen.drew = false → ∀ outcome, c.front = .done outcome → ∃ base, seen.link = some base
      ∧ (∀ {seen' : Seen ρ} {c' : Company World (Except Fault Value)}
        {outcome' : Except Fault Value},
          Story S manager (runWith manager sink none program).run w' 0 seen' c' →
          c'.front = .done outcome' →
          ∃ base', seen'.link = some base' ∧ SameUpToBase base base' outcome outcome'
            ∧ seen.told = seen'.told ∧ c.state.callsAlike base = c'.state.callsAlike base')
      ∧ (0 < capacity' → S.futures.Comes →
          ∃ (seen' : Seen ρ) (s' : World) (outcome' : Except Fault Value),
            Story S manager (runWith manager sink none program).run w' 0 seen'
              ⟨s', .done outcome', []⟩))
    ∧ (S.optional = false → 0 < capacity → program.Aside → program.Awaits S.awaited → Settled c →
        (∀ ready, S.awaited ready → ready (Host.schedule.modify Schedule.refresh c.state) = true) →
        (∃ outcome, c.front = .done outcome) ∧ ∀ strand ∈ c.beside, strand.task = .done ()) := by
  refine ⟨fun hscripted outcome hdone => ?_,
    fun hoptional hcapacity haside hawaits hsettled hcome => ?_⟩
  · obtain ⟨reply, runState, hplain, hrun, base, hended⟩ :=
      story.reaches hS hmanager hsink hprogram hw hscripted hdone
    refine ⟨base, hended.link, fun {seen' c' outcome'} alone hover => ?_,
      fun hcapacity hcomes => ?_⟩
    · obtain ⟨p, hwatched⟩ := alone.watched (T := ⟨S, false⟩) hS hmanager hrun hw'
        fun h => nomatch h
      obtain ⟨base', hended'⟩ := hwatched.ended hover
      refine ⟨base', hended'.link, ?_, hended.told.trans hended'.told.symm,
        hended.calls.trans hended'.calls.symm⟩
      rw [hended.outcome, hended'.outcome]
      exact hplain.sameUpToBase base base'
    · obtain ⟨seen', s', task, opened, hlink⟩ := Story.opens hS hmanager hw' hcapacity
      exact opened.finishes hS hmanager hcomes hrun hw' hlink
  · have hrun : (runWith manager sink none program).run.Obeys (trade S.awaited) (fun _ _ => True)
        (fun _ => Role.Finished) (.seeking .away) :=
      run_finishes hmanager.shared (fun event s => (hsink.harmless event s).elsewhere.aside) none
        haside hawaits
    exact story.all_done hmanager hoptional hcapacity hrun hw hsettled hcome

/-- A run without futures, whose events are pinned to the board, among others that have none either
and that nobody gives up. -/
def idle : Setting Json Unit where
  futures := ⟨fun _ _ => True, fun _ s _ s' => s' = s, fun _ _ => False⟩
  heard := World.notes
  awaited _ := False
  optional := false

lemma discreet_idle : idle.futures.Discreet idle.heard where
  schedule _ _ _ := Iff.rfl
  traces _ _ _ := Iff.rfl
  backend _ _ _ := Iff.rfl
  accounts _ _ _ := Iff.rfl
  leases _ _ _ _ := Iff.rfl
  leaseCount _ _ _ := Iff.rfl
  unheard := by constructor <;> intros <;> rfl
  may h := by
    subst h
    exact ⟨⟨rfl, rfl, rfl, rfl, rfl, rfl⟩, trivial, rfl⟩

/-- A program that puts something into a table, takes an id from the counter for it, and fails. -/
def failing : Program World :=
  .andThen (.perform (.query .insert "INSERT INTO items" [])) fun _ => .abort "changed my mind"

/-- A pool of one connection after a run of that program. -/
def afterFailing : World :=
  (((runWith (World.manager Memory.pool) World.board none failing).run.bind fun _ =>
    .done ()).poll 1
    (World.withMemory 1 {})).2

/-- What is seen of a run that comes then, or alone. -/
abbrev clearSeen (w : World) : Seen Json :=
  Seen.along World.notes 0 World.clear.run w {}

/-- The run that comes then goes through, on a connection of its own, and needs no id. -/
lemma clear_afterFailing : (World.clear.run.poll 0 afterFailing).1 = .done (.ok .unit)
    ∧ (clearSeen afterFailing).drew = false ∧ (clearSeen afterFailing).link = some 2
    ∧ (clearSeen (World.withMemory 1 {})).link = some 1 := by
  refine ⟨?_, ?_, ?_, ?_⟩ <;>
    simp only [clearSeen, afterFailing, World.clear, runWith_eq_account] <;> cbv

/-- The turn of the job that looks after a lease. -/
abbrev looking (self : TaskId) (base number : Nat) (s : World) : Task World Unit × World :=
  ((Memory.pool.lease base number).watch false).poll self
    (Company.takeOff (.start self (.watch base number)) s)

lemma Story.look {front : Task World α} {strands : List (Strand World)} {self : TaskId}
    {base number : Nat} (story : Story S manager run w n seen ⟨s, front, strands⟩)
    (hdue : Company.Due self (.watch base number) s)
    (hover : (looking self base number s).1 = .done ()) :
    Story S manager run w n seen
      ⟨(looking self base number s).2, front, strands ++ [⟨.done (), false⟩]⟩ := by
  have begun := story.beside (.start trivial hdue ⟨base, number, .inr ⟨rfl, false, rfl⟩⟩)
  have turned := begun.turn_beside self strands []
  rwa [hover] at turned

def afterBoth : World :=
  (World.clear.run.poll 0 afterFailing).2

/-- The same when the jobs that look after their leases have seen the end. -/
abbrev afterAll : World :=
  (looking 2 2 1 (looking 1 1 0 afterBoth).2).2

/-- The failing run is over in its turn, and the jobs are in theirs; then nothing is due. -/
lemma jobs_afterBoth :
    ((runWith (World.manager Memory.pool) World.board none failing).run.bind fun _ =>
        .done ()).poll 1 (World.withMemory 1 {}) = (.done (), afterFailing)
      ∧ (Host.schedule.get afterBoth).ready = [.start 1 (.watch 1 0), .start 2 (.watch 2 1)]
      ∧ (looking 1 1 0 afterBoth).1 = .done ()
      ∧ (Host.schedule.get (looking 1 1 0 afterBoth).2).ready = [.start 2 (.watch 2 1)]
      ∧ (looking 2 2 1 (looking 1 1 0 afterBoth).2).1 = .done ()
      ∧ (Host.schedule.get afterAll).ready = [] := by
  refine ⟨Prod.ext ?_ rfl, ?_, ?_, ?_, ?_, ?_⟩ <;>
    simp only [looking, afterAll, afterBoth, afterFailing, World.clear, runWith_eq_account] <;> cbv

/-- **One failing run does not disturb another one**, which comes after it in a pool of one
connection; and in the end nothing is left to be done. -/
theorem runs_as_if_alone_beside_failure : ∃ (seen seen' : Seen Json)
    (c c' : Company World (Except Fault Value)),
    Story idle (World.manager Memory.pool) World.clear.run (World.withMemory 1 {}) 1 seen c
      ∧ Story idle (World.manager Memory.pool) World.clear.run (World.withMemory 1 {}) 0 seen' c'
      ∧ seen.link = some 2 ∧ seen'.link = some 1
      ∧ seen.told = seen'.told ∧ c.state.callsAlike 2 = c'.state.callsAlike 1
      ∧ Settled c ∧ c.beside.length = 3 ∧ ∀ strand ∈ c.beside, strand.task = .done () := by
  have hmanager : (World.manager Memory.pool).Discreet idle.futures idle.heard :=
    ⟨rfl, rfl, .inl rfl⟩
  have hboard : ∀ event s, World.Harmless idle.futures s (World.board.publish event s) := fun _ _ =>
    ⟨⟨rfl, rfl, rfl, rfl, rfl, rfl⟩, fun _ => id⟩
  have hsink : World.board.Tells idle fun event => [.arr [.str event.type, event.payload]] :=
    ⟨hboard, fun _ _ => rfl⟩
  have hprogram : World.clearing.Lifts idle.futures.Settles := ⟨trivial, fun _ => trivial⟩
  have hfailing : idle.Admits failing := ⟨trivial, fun _ => trivial⟩
  have hw : (World.withMemory 1 {}).Fresh idle () 1 := ⟨rfl, rfl, rfl, rfl, trivial⟩
  obtain ⟨hdone, hscripted, hlink, hlink'⟩ := clear_afterFailing
  obtain ⟨hfailed, hready, hlooked, hready', hlooked', hready''⟩ := jobs_afterBoth
  have begun : Story idle (World.manager Memory.pool) World.clear.run
    (World.withMemory 1 {}) 0 {} _ :=
    .start
  have failed : Story idle (World.manager Memory.pool) World.clear.run (World.withMemory 1 {}) 1 {}
      ⟨afterFailing, World.clear.run, [⟨.done (), false⟩]⟩ := by
    have turned := (begun.come hboard none hfailing).turn_beside 1 [] []
    rwa [hfailed] at turned
  have story : Story idle (World.manager Memory.pool) World.clear.run (World.withMemory 1 {}) 1
      (clearSeen afterFailing) ⟨afterBoth, .done (.ok .unit), [⟨.done (), false⟩]⟩ := by
    have turned := failed.turn 0
    rwa [hdone] at turned
  have settling := (story.look (by rw [Company.Due, hready]; exact .head _) hlooked).look
    (by rw [Company.Due, hready']; exact .head _) hlooked'
  have settled : Settled (⟨afterAll, .done (.ok .unit), [⟨.done (), false⟩, ⟨.done (), false⟩,
      ⟨.done (), false⟩]⟩ : Company World (Except Fault Value)) := by
    refine ⟨.inl ⟨_, rfl⟩, fun strand hstrand => .inl ⟨(), ?_⟩, fun entry hentry => ?_⟩
    · simp only [List.mem_cons, List.not_mem_nil, or_false, or_self] at hstrand
      rw [hstrand]
    · obtain ⟨turn, hturn, -⟩ := List.mem_filterMap.mp hentry
      rw [show afterAll.schedule.ready = [] from hready''] at hturn
      exact absurd hturn List.not_mem_nil
  have alone := begun.turn 0
  obtain ⟨hpresent, hprogress⟩ :=
    runs_as_if_alone discreet_idle hmanager hsink hprogram hw hw settling
  obtain ⟨base, hbase, hlike, -⟩ := hpresent hscripted _ rfl
  obtain ⟨base', hbase', -, htold, hcalls⟩ := hlike alone World.clear_done
  obtain rfl : 2 = base := Option.some.inj (hlink.symm.trans hbase)
  obtain rfl : 1 = base' := Option.some.inj (hlink'.symm.trans hbase')
  obtain ⟨-, hover⟩ := hprogress rfl (by decide) ⟨trivial, fun _ => trivial⟩
    ⟨trivial, fun _ => trivial⟩ settled fun _ h => h.elim
  exact ⟨_, _, _, _, settling, alone, hlink, hlink', htold, hcalls, settled, rfl, hover⟩

end Family

end Transactional
