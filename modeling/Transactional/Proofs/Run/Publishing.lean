import Transactional.Proofs.Run.Bracket
import Transactional.Proofs.Traffic.Story

/-!
# What a run publishes

A run that succeeds publishes the events that its program has announced, each once and in order,
also those of scopes that were left early; a run that fails publishes nothing.  Nothing is published
before the commit has succeeded and the connection has been given back.

* `Run.Fits.released_of_heard`, `Run.Fits.heard_of_beside` — no other step publishes anything.
* **`Run.published_after_commit`** — what a run publishes, and when, if those who look after its
  lease move only while it waits.
* **`Run.published_before_release`** — if they may move at any time, then what it publishes may come
  before the connection has been given back.
-/

namespace Transactional

namespace Run

variable {ρ : Type} {asked : Memory.Call → Prop} {base number : Nat} {heard : World → List ρ}
  {before : List ρ} {track : Track} {p p' : Phase ρ} {ps ps' : List (Phase ρ)} {r r' : Phase ρ}
  {s s' : World}

/-- **The commit has succeeded, and the connection has been given back.** -/
structure Released (base number : Nat) (track : Track) (s : World) : Prop where
  committed : (.commit base, true) ∈ track.calls
  returned : ((LeaseHost.leases number).get s).listening = false
  forsaken : ((Memory.link base).get s).alive = false

lemma Proper.released_of_heard {q : Stage} {b : Book ρ} {helpers : List Stage} {y : Stage × Part ρ}
    (h : Proper asked base number heard before q b helpers s)
    (hmay : (leaseDiscipline asked base number heard).may (q, .runner b) s y s')
    (hne : heard s' ≠ heard s) (hcalls : track.calls = b.calls) : Released base number track s := by
  obtain ⟨y, k⟩ := y
  obtain ⟨-, hrecords⟩ := hmay
  cases k with
  | helper => exact hrecords.elim
  | runner b' =>
    obtain ⟨told, -, hheard, hpublished⟩ := hrecords.told
    have htold : told ≠ [] := by
      rintro rfl
      exact hne (hheard.trans (List.append_nil _))
    obtain ⟨hcommitted, halive⟩ := hpublished htold
    exact ⟨hcalls ▸ hcommitted, h.holds.alive.symm.trans halive, halive⟩

namespace Fits

/-- **A run publishes nothing before that.** -/
lemma released_of_heard (hheard : World.Unheard heard) (hown : track.Own base number)
    (h : Fits asked base number heard before track p ps s)
    (hmay : Advance asked base number heard p s p' s') (hne : heard s' ≠ heard s) :
    Released base number track s := by
  cases hmay with
  | around hout => exact absurd hout.heard hne
  | reach | astray => exact absurd ((hheard.backend _ _).trans (hheard.backend _ _)) hne
  | call hworks =>
    refine absurd ?_ hne
    rw [hworks.same]
    exact hheard.backend _ s
  | part =>
    refine absurd (Memory.drop_same heard base s hheard.backend hheard.accounts ?_ ?_) hne
    · exact fun c s _ => hheard.schedule c s
    · exact hheard.traces
  | lease | mislease =>
    refine absurd ((hheard.schedule _ _).trans ?_) hne
    exact (hheard.leaseCount _ _).trans (hheard.leases _ _ _)
  | use hmay =>
    cases h with
    | leased h htrack => exact h.released_of_heard hmay hne (by rw [htrack])
  | any =>
    cases h with
    | stray h => exact absurd hown h

lemma heard_of_beside (hown : track.Own base number)
    (h : Fits asked base number heard before track p ps s) (hr : r ∈ ps)
    (hmay : Advance asked base number heard r s r' s') : heard s' = heard s := by
  cases h with
  | seeking | opened | parted => simp at hr
  | leased =>
    obtain ⟨t, -, rfl⟩ := List.mem_map.mp hr
    cases hmay with
    | around hout => exact hout.heard
    | @use x y s s' hmay =>
      obtain ⟨y, k⟩ := y
      obtain ⟨-, hsilent⟩ := hmay
      cases k with
      | runner b => exact hsilent.elim
      | helper => exact hsilent.heard
  | stray h => exact absurd hown h

end Fits

/-- **Nothing is published** before the commit has succeeded and the connection has been given
back. -/
lemma Story.released_of_heard (hheard : World.Unheard heard) {run : Task World α}
    {ends : α → Phase ρ → Prop}
    (hrun : run.Obeys (course asked base number heard) (fun _ _ => True) ends .seeking)
    (hends : ∀ a x, ends a (.leased x) → x.1.sight ≠ .open) {s₀ : World}
    (hnew : s₀.Untouched base number) {c c' : Company World α}
    (story : Story (World.Outside base number heard) base number run s₀ track c)
    (hown : track.Own base number) (hstep : Company.Step (Memory.pool.Jobs base number) c c')
    (hne : heard c'.state ≠ heard c.state) : Released base number track c.state := by
  -- The invariant after the step is nothing but the claim.
  have hkept : c'.Kept (course asked base number heard) ends Passed
      fun _ _ _ => Released base number track c.state := by
    refine (story.kept hheard hrun hends hnew).step hstep
      { knows := fun h => h.knows.1
        knows_beside := fun h hr => h.knows.2 _ hr
        front := fun h hmay => h.released_of_heard hheard hown hmay hne
        beside := fun _ h hmay => absurd (h.heard_of_beside hown (by simp) hmay) hne
        gone := fun _ h => h
        start := fun h due hjob hs' => absurd ?_ hne }
    rw [hs']
    exact hheard.schedule _ _
  exact hkept.choose_spec.choose_spec.2.2.2

/-- **What a run publishes, and when.**  Whatever the program, the time limit, the failures that are
injected, and the moment when the connection breaks: when the run is over and has succeeded, it has
published the events that its program has announced, each once and in order; if it has failed it has
published nothing.  And at no moment anything is published unless the commit has succeeded and the
connection has been given back.  Whoever looks after the lease moves only while the run waits. -/
theorem published_after_commit {mark : Event → ρ} (hheard : World.Unheard heard)
    {manager : Manager World}
    (hmanager : manager.Plain base number (World.Outside base number heard)) {sink : Sink World}
    (hsink : sink.Publishes base number heard fun event => [mark event])
    {limit : Option Duration} {program : Program World}
    (hfutures : program.Lifts fun task =>
      task.Respects (World.Has base number) (World.Outside base number heard))
    {s₀ : World} (hnew : s₀.Untouched base number) {c : Company World (Except Fault Value)}
    (story : Story (World.Outside base number heard) base number
      (runWith manager sink limit program).run s₀ track c)
    (hown : track.Own base number) :
    (∀ outcome, c.front = .done outcome → ∃ deeds : List (Deed World),
      Story (World.Outside base number heard) base number (account manager sink limit program) s₀
          track ⟨c.state, .done (outcome, deeds), c.beside⟩
        ∧ heard c.state = heard s₀
          ++ (if outcome.toBool then (deeds.flatMap Deed.emitted).map mark else [])
        ∧ ∀ event, event ∈ deeds.flatMap Deed.emitted
          ↔ ∃ value, Deed.performed (.emit event) (.ok value) ∈ deeds)
    ∧ ∀ c', Company.Step (Memory.pool.Jobs base number) c c' → heard c'.state ≠ heard c.state →
        Released base number track c.state := by
  have haccount := account_obeys hheard hmanager hsink limit program (fun _ => id) hfutures
  have hrun := run_obeys hheard hmanager hsink limit program hfutures
  refine ⟨fun outcome hdone => ?_, fun c' hstep hne => ?_⟩
  · rw [runWith_eq_account] at story
    obtain ⟨task, hfront, story⟩ := story.of_map
    -- The account has come to its end as well.
    obtain ⟨deeds, rfl⟩ : ∃ deeds, task = .done (outcome, deeds) := by
      rw [hdone] at hfront
      cases task with
      | done told =>
        obtain rfl : outcome = told.1 := Task.done.inj hfront
        exact ⟨told.2, rfl⟩
      | act | wait => cases hfront
    obtain ⟨p, staged, hp, -, -, hfits⟩ := story.kept hheard haccount (fun _ _ h => h.sight) hnew
    obtain ⟨-, -, hpublished⟩ := hfits.concluded hp hown
    refine ⟨deeds, story, ?_, fun event => Deed.mem_flatMap_emitted⟩
    rwa [published, ← List.map_eq_flatMap] at hpublished
  · exact story.released_of_heard hheard hrun sight_of_concluded hnew hown hstep hne

end Run

namespace World

/-- A program that announces what it does, once in a scope that it leaves early. -/
def announcing : Program World :=
  .andThen (.perform (.emit ⟨"clearing", .obj [("table", .str "items")]⟩)) fun _ =>
    .andThen (.scope (.andThen (.perform (.emit ⟨"checked", .bool true⟩)) fun _ =>
      .andThen (.skip .unit) fun _ => .perform (.emit ⟨"unreached", .null⟩))) fun _ =>
        .andThen (.perform (.query .delete "DELETE FROM items" [])) fun _ =>
          .perform (.emit ⟨"cleared", .int 0⟩)

def announce : Attempt World Value :=
  runWith (manager Memory.pool) board none announcing

lemma announce_done : (announce.run.poll 0 (withMemory 1 {})).1 = .done (.ok .unit) := by
  rw [announce, runWith_eq_account]
  cbv

lemma announce_notes : (announce.run.poll 0 (withMemory 1 {})).2.notes
    = [.arr [.str "clearing", .obj [("table", .str "items")]],
      .arr [.str "checked", .bool true], .arr [.str "cleared", .int 0]] := by
  rw [announce, runWith_eq_account]
  cbv

lemma announce_own : (Run.Track.along 1 0 announce.run (withMemory 1 {}) {}).Own 1 0 := by
  have hlink : (Run.Track.along 1 0 announce.run (withMemory 1 {}) {}).link = some 1 := by
    rw [announce, runWith_eq_account]
    cbv
  have hlease : (Run.Track.along 1 0 announce.run (withMemory 1 {}) {}).lease = some 0 := by
    rw [announce, runWith_eq_account]
    cbv
  refine ⟨fun n hn => ?_, fun n hn => ?_⟩
  · exact (Option.some.inj (hlink.symm.trans hn)).symm
  · exact (Option.some.inj (hlease.symm.trans hn)).symm

end World

/-- What a run publishes that nobody disturbs: also what it has announced in the scope. -/
theorem Run.published_after_commit_clear : ∃ track c,
    Story (World.Outside 1 0 World.notes) 1 0 World.announce.run (World.withMemory 1 {}) track c
      ∧ c.front = .done (.ok .unit)
      ∧ c.state.notes = [.arr [.str "clearing", .obj [("table", .str "items")]],
        .arr [.str "checked", .bool true], .arr [.str "cleared", .int 0]]
      ∧ ∃ deeds : List (Deed World),
        Story (World.Outside 1 0 World.notes) 1 0
            (account (World.manager Memory.pool) World.board none World.announcing)
            (World.withMemory 1 {}) track ⟨c.state, .done (.ok .unit, deeds), c.beside⟩
          ∧ c.state.notes
            = (deeds.flatMap Deed.emitted).map
              fun event => .arr [.str event.type, event.payload] := by
  have hheard : World.Unheard World.notes := by constructor <;> intros <;> rfl
  have hmanager : (World.manager Memory.pool).Plain 1 0 (World.Outside 1 0 World.notes) :=
    ⟨rfl, .inl rfl⟩
  have hsink : World.board.Publishes 1 0 World.notes
      fun event => [.arr [.str event.type, event.payload]] := by
    refine ⟨fun event s => ?_, fun event s => rfl⟩
    exact ⟨rfl, .inl rfl, rfl, rfl, Nat.le_refl _, Nat.le_refl _, fun _ _ => Iff.rfl⟩
  have hfutures : World.announcing.Lifts fun task =>
      task.Respects (World.Has 1 0) (World.Outside 1 0 World.notes) :=
    ⟨trivial, fun _ => ⟨⟨trivial, fun _ => ⟨trivial, fun _ => trivial⟩⟩, fun _ =>
      ⟨trivial, fun _ => trivial⟩⟩⟩
  have hnew : (World.withMemory 1 {}).Untouched 1 0 :=
    ⟨rfl, fun _ _ ⟨_, hn⟩ => List.not_mem_nil hn⟩
  have story : Story (World.Outside 1 0 World.notes) 1 0 World.announce.run (World.withMemory 1 {})
      _ _ := Story.start.turn 0
  obtain ⟨hover, -⟩ :=
    published_after_commit hheard hmanager hsink hfutures hnew story World.announce_own
  obtain ⟨deeds, haccount, hpublished, -⟩ := hover _ World.announce_done
  exact ⟨_, _, story, World.announce_done, World.announce_notes, deeds, haccount, hpublished⟩

/-! ## A connection that ends during the commit -/

namespace World

/-- A run that has committed, and is about to close its lease. -/
def committed : Task World Unit × World :=
  Traffic.Story.advance 0 36 (clear.run.bind fun _ => .done ()) (withMemory 1 {})

/-- Its connection has ended, and whoever looks out for that has marked the lease as closed. -/
def noticed : Task World Unit × World :=
  Traffic.Story.advance 1 3 ((Memory.pool.lease 1 0).watch false)
    (Company.takeOff (.start 1 (.watch 1 0)) (Memory.terminate 1 committed.2))

/-- Meanwhile the run takes some more steps. -/
def overtaken (steps : Nat) : Task World Unit × World :=
  Traffic.Story.advance 0 steps committed.1 noticed.2

lemma committed_eq : committed = Traffic.Story.advance 0 36
    (((Run.account (manager Memory.pool) board none clearing).bind fun told => .done told.1).bind
      fun _ => .done ()) (withMemory 1 {}) := by
  rw [committed, clear, runWith_eq_account]

lemma watch_due : Company.Due 1 (.watch 1 0) (Memory.terminate 1 committed.2) := by
  rw [Company.due_iff, committed_eq]
  exact List.mem_of_elem_eq_true (by cbv)

/-- **All this can happen**, whenever the connection ends and whoever moves. -/
lemma overtaken_story (steps : Nat) : ∃ jobs, Traffic.Story (manager Memory.pool) 1 {} jobs
    ⟨(overtaken steps).2, .done (), [⟨(overtaken steps).1, false⟩, ⟨noticed.1, false⟩]⟩ := by
  have hboard : board.Aside := fun _ _ => ⟨rfl, .of_eq fun _ => rfl⟩
  have hclearing : clearing.Aside := ⟨trivial, fun _ => trivial⟩
  have unbegun : Traffic.Story (manager Memory.pool) 1 {} [] ⟨withMemory 1 {}, .done (), []⟩ :=
    .start
  have begun := unbegun.run hboard none hclearing
  obtain ⟨_, story⟩ := begun.some_steps 0 36 [] []
  obtain ⟨_, started⟩ : ∃ jobs, Traffic.Story (manager Memory.pool) 1 {} jobs
      ⟨Company.takeOff (.start 1 (.watch 1 0)) (Memory.terminate 1 committed.2), .done (),
        [⟨committed.1, false⟩, ⟨(Memory.pool.lease 1 0).watch false, false⟩]⟩ :=
    ⟨_, (story.aside (.terminate 1 _)).step
      (.start trivial watch_due ⟨1, 0, .inr ⟨rfl, false, rfl⟩⟩)⟩
  obtain ⟨_, marked⟩ := started.some_steps 1 3 [⟨committed.1, false⟩] []
  exact marked.some_steps 0 steps [] [⟨noticed.1, false⟩]

end World

/-- **A run may publish before its connection has been given back**: its connection ends when it has
committed, whoever looks out for that has marked the lease as closed and not come further yet, and
so the run finds nothing left to close. -/
theorem Run.published_before_release : ∃ jobs c,
    Traffic.Story (World.manager Memory.pool) 1 {} jobs c
      ∧ c.state.callsOn 1 = [.connect 1, .begin 1, .prepare 1 "DELETE FROM items",
        .execute 1 "DELETE FROM items" [], .destroy 1 "DELETE FROM items", .commit 1]
      ∧ c.state.notes = [.arr [.str "cleared", .null]]
      ∧ ((LeaseHost.leases 0).get c.state).listening = true
      ∧ c.state.accounts.acquired = 1 ∧ c.state.accounts.released = 0 := by
  obtain ⟨jobs, story⟩ := World.overtaken_story 2
  refine ⟨jobs, _, story, ?_⟩
  rw [World.overtaken, World.noticed, World.committed_eq]
  refine ⟨?_, ?_, ?_, ?_, ?_⟩ <;> cbv

end Transactional
