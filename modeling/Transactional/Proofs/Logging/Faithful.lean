import Transactional.Proofs.Logging.Recorded
import Transactional.Proofs.Run.Bracket
import Transactional.Proofs.Run.Play

/-!
# What a log has to do with the journal

A run through a manager that writes a log goes like the same run without: whatever happens around
the two of them, they have the same result, the same journal, the same events and the same
accounts.  The log has a line for each call, and the calls that were answered are those in the
journal, in the same order; the journal has one rollback more at most, from closing the lease.  A
call that was refused, or given up at the limit, has a line and no entry.

* `Run.Story.keepsLog` — at each moment of its story a run has added its calls to the log.
* **`Run.log_tells_journal`** — the result; `Run.line_without_entry` is a run that is cut off
  between the line and the call.
-/

namespace Transactional

variable {log : StatementLog} {diary base number : Nat} {lines : World → List String}
  {s s' : World} {m : LogState} {x y : LogStage} {k : Nat}

namespace Run

/-! ## Stories -/

/-- What has been seen of a run at each stage of its log. -/
def Follows (base number : Nat) (track : Track) : LogStage → Prop
  | .seeking _ => track.link = none ∧ track.lease = none
  | .opened _ => track.lease = none
  | .taking _ => True
  | .stray => (∃ n, track.link = some n ∧ n ≠ base) ∨ ∃ n, track.lease = some n ∧ n ≠ number
  | .aide => False

/-- **What is true of the log at each moment.** -/
structure Upright (base number diary : Nat) (lines : World → List String) (track : Track)
    (p : LogStage)
    (ps : List LogStage) (s : World) : Prop where
  knows : (logKeeping base number diary lines).knows p s
  follows : Follows base number track p
  aides : ∀ q ∈ ps, q = .aide

lemma follow_link {track : Track} (h : s'.backend.linkCount = s.backend.linkCount) :
    (track.follow base s s').link = track.link := by
  simp [Track.follow, h]

lemma follow_lease {track : Track} (h : s'.leaseCount = s.leaseCount) :
    (track.follow base s s').lease = track.lease := by
  simp [Track.follow, h]

lemma Follows.stray {track : Track} (h : Follows base number track .stray) :
    Follows base number (track.follow base s s') .stray := by
  refine h.imp ?_ ?_ <;> rintro ⟨n, hn, hne⟩ <;> exact ⟨n, by simp [Track.follow, hn], hne⟩

namespace Upright

variable {track : Track} {p q : LogStage} {ps : List LogStage}

lemma front (h : Upright base number diary lines track p ps s)
    (hmay : (logKeeping base number diary lines).may p s q s') :
    Upright base number diary lines (track.follow base s s') q ps s' := by
  obtain ⟨-, hfollows, haides⟩ := h
  cases p <;> cases q
  case seeking.seeking =>
    obtain ⟨hlogState, hlink, hlease⟩ := hmay
    exact ⟨hlogState, ⟨(follow_link hlink).trans hfollows.1, (follow_lease hlease).trans
      hfollows.2⟩, haides⟩
  case seeking.opened => exact ⟨hmay.1, (follow_lease hmay.2).trans hfollows.2, haides⟩
  case seeking.stray =>
    refine ⟨trivial, .inl ⟨s'.backend.linkCount, ?_, hmay.2⟩, haides⟩
    simp [Track.follow, hfollows.1, hmay.1]
  case opened.opened => exact ⟨hmay.1, (follow_lease hmay.2).trans hfollows, haides⟩
  case opened.taking | taking.taking => exact ⟨hmay, trivial, haides⟩
  case opened.stray =>
    have hnone : track.lease = none := hfollows
    refine ⟨trivial, .inr ⟨s.leaseCount, ?_, hmay.2⟩, haides⟩
    simp [Track.follow, hnone, hmay.1]
  case stray.stray => exact ⟨trivial, hfollows.stray, haides⟩
  case aide.aide => exact hfollows.elim
  all_goals exact hmay.elim

lemma quiet (h : Upright base number diary lines track p ps s)
    (hquiet : World.Hushed base diary lines s s') :
    Upright base number diary lines (track.follow base s s') p ps s' :=
  h.front (hquiet.stay h.knows)

end Upright

/-- **At each moment of its story a run has added its calls to the log**, and nobody else has added
anything. -/
theorem Story.keepsLog (K : log.Keeps diary lines) {ρ : Type} {heard : World → List ρ}
    (hheard : World.Unheard heard) {asked : Memory.Call → Prop} {run : Task World α}
    {ends : α → LogStage → Prop} {concluded : α → Phase ρ → Prop} {s₀ : World}
    (hrun : run.Obeys (logKeeping base number diary lines) (fun _ _ => True) ends
      (.seeking (s₀.logState base diary lines)))
    (hcourse : run.Obeys (course asked base number heard) (fun _ _ => True) concluded .seeking)
    (hsight : ∀ a x, concluded a (.leased x) → x.1.sight ≠ .open)
    (haround : ∀ s s', World.Unwritten base number diary lines s s' → World.Outside base number
      heard s s')
    (hnew : s₀.Untouched base number) {track : Track} {c : Company World α}
    (story : Story (World.Unwritten base number diary lines) base number run s₀ track c)
    (hown : track.Own base number) :
    c.Kept (logKeeping base number diary lines) ends (fun y => y = .aide)
      (Upright base number diary lines track) := by
  induction story with
  | start => exact ⟨_, [], hrun, rfl, by simp, rfl, ⟨rfl, rfl⟩, by simp⟩
  | @step track c c' story hstep ih =>
    have hown' : track.Own base number := by
      by_contra h
      exact Track.follow_own h hown
    obtain ⟨hstatus, hundue⟩ :=
      (story.imp haround).attended hheard hcourse hsight hnew hown'
    obtain ⟨p, staged, hfront, hbeside, hkeeps, hup⟩ := ih hown'
    -- Whoever looks after the lease relies on the connection not being closed.
    have hkept : c.Kept (logKeeping base number diary lines) ends (fun y => y = .aide) fun p ps s =>
        Upright base number diary lines track p ps s ∧ ∀ q ∈ ps,
          (logKeeping base number diary lines).knows q s := by
      refine ⟨p, staged, hfront, hbeside, hkeeps, hup, fun q hq => ?_⟩
      obtain rfl := hup.aides q hq
      refine hstatus fun hnil => ?_
      rw [hbeside, List.map_eq_nil_iff] at hnil
      simp [hnil] at hq
    refine hkept.step hstep
      { knows := fun h => h.1.knows
        knows_beside := fun h hq => h.2 _ hq
        front := fun h hmay => h.1.front hmay
        beside := fun {p q q' before after} _ h hmay => ?_
        gone := fun {p q before after} _ h => ⟨h.knows, h.follows, fun r hr => h.aides r ?_⟩
        start := fun {p ps n job task} h due hjob hs' => ?_ }
    · obtain rfl : q = .aide := h.1.aides q (by simp)
      cases q' with
      | aide =>
        have hquiet := h.1.quiet hmay
        exact hquiet
      | seeking | opened | taking | stray => exact hmay.elim
    · rcases List.mem_append.mp hr with hr | hr <;> simp [hr]
    · rcases hjob with ⟨rfl, -⟩ | ⟨rfl, ownFirst, rfl⟩
      · exact absurd ⟨n, due⟩ hundue
      · refine ⟨.aide, watch_keepsLog K ownFirst, ?_⟩
        rw [hs']
        have hquiet := h.1.quiet (World.Hushed.schedule K
          (fun c => { c with ready := c.ready.erase (.start n (.watch base number)) }) c.state)
        exact ⟨hquiet.knows, hquiet.follows, fun q hq =>
          (List.mem_append.mp hq).elim (hquiet.aides q) List.mem_singleton.mp⟩
  | @outside track c s' story hout ih =>
    obtain ⟨p, staged, hfront, hbeside, hkeeps, hup⟩ := ih hown
    refine ⟨p, staged, hfront, hbeside, hkeeps, ?_, hup.follows, hup.aides⟩
    have hknows := hup.knows
    have hfollows := hup.follows
    cases p with
    | seeking m => exact hout.logState.trans hknows
    | opened m => exact ⟨hout.logState.trans hknows.1, Nat.le_trans hknows.2 hout.linkCount⟩
    | taking m => exact hout.taking hknows
    | stray => trivial
    | aide => exact hfollows.elim

/-! ## The log and the journal -/

/-- **Something takes no notice of logs**: of none, and not of any but one. -/
def Unread (lines : World → List String) (P : (World → World → Prop) → Prop) : Prop :=
  P World.SameSilent ∧ P (World.SameLog lines)

/-- **A setting in which a log can be held against the journal**: the log can be read, the manager
is one of the scripted backend, and what the program waits for, who hears its events, and whatever
happens around it leave the connection, the lease, the log and the diary alone, and do not look
there. -/
structure Legible (base number diary : Nat) (log : StatementLog) (lines : World → List String)
    (manager : Manager World) (sink : Sink World) (program : Program World)
    (moves : List (Company.Move World)) : Prop where
  keeps : log.Keeps diary lines
  pool : manager.pool = Memory.pool
  plain : manager.wrapping = none
  closed : Unread lines fun R => manager.closed.Alike R
  publish : ∀ event s, World.Unwritten base number diary lines s (sink.publish event s)
  heard : Unread lines fun R => ∀ {s s'} event, R s s' → R (sink.publish event s)
    (sink.publish event s')
  futures : program.Lifts fun task =>
    task.Respects (World.Has base number) (World.Unwritten base number diary lines)
  blind : Unread lines fun R => program.Lifts fun task => task.Blind R
  unread : Unread lines fun R => ∀ move ∈ moves, move.Blind R

/-- **A log that tells what is in the journal**, in a run that has made some calls.  There is a line
for each call, in the order of the calls, and the diary says what has become of them.  Those that
were answered are in the journal in the same order, and perhaps one rollback more. -/
structure Told (base diary : Nat) (lines : World → List String) (notes : List (String × Fate))
    (extra : List String) (s₀ s followed : World) : Prop where
  lines : lines s = lines s₀ ++ notes.map (·.1)
  fates : (LogHost.lines diary).get followed
    = (LogHost.lines diary).get s₀ ++ notes.map fun note => note.2.entry note.1
  spoken : (s.callsOn base).filterMap Memory.Call.line? = LogState.answered notes ++ extra
  extra : extra = [] ∨ extra = ["ROLLBACK"]

/-- **At most one call was given up**, and only by a run that has passed its limit. -/
def Forsook (limit : Option Duration) (outcome : Except Fault Value)
    (notes : List (String × Fate)) : Prop :=
  notes.countP (·.2 = .forsaken) ≤ 1
    ∧ (notes.countP (·.2 = .forsaken) ≠ 0 → ∃ d, limit = some d ∧ outcome = .error (.timeout d))

lemma Forsook.none {limit : Option Duration} {outcome : Except Fault Value}
    {notes : List (String × Fate)}
    (h : notes.countP (·.2 = .forsaken) ≤ 0) : Forsook limit outcome notes :=
  ⟨Nat.le_succ_of_le h, fun hne => absurd (Nat.le_zero.mp h) hne⟩

namespace Legible

variable {manager : Manager World} {sink : Sink World} {program : Program World}
  {moves : List (Company.Move World)} {limit : Option Duration} {s₀ : World}
  (L : Legible base number diary log lines manager sink program moves)

include L

/-- **A log makes no difference** to a run. -/
lemma logged_plain :
    (played (manager.logging log) sink limit program s₀ moves).front.result?
        = (played manager sink limit program s₀ moves).front.result?
      ∧ (played (manager.logging log) sink limit program s₀ moves).state.SameSilent
          (played manager sink limit program s₀ moves).state := by
  have hwrap : ∀ conn, Connection.Mirrors World.SameSilent conn conn →
      Connection.Mirrors World.SameSilent ((manager.logging log).wrap conn)
        (manager.wrap conn) := by
    intro conn M
    rw [Manager.wrap, Manager.wrap, L.plain]
    exact M.logged fun line {s s'} hs => (log.silenced_write line s).trans hs
  have hpool : (manager.logging log).pool = Memory.pool := L.pool
  exact played_mirrors World.sameSilent_alike World.schedule_silent (fun _ => rfl) hpool L.pool rfl
    L.closed.1 hwrap L.heard.1 limit L.blind.1 s₀ L.unread.1

/-- **Nor does a diary.** -/
lemma followed_logged :
    (played (manager.following log diary) sink limit program s₀ moves).front.result?
        = (played (manager.logging log) sink limit program s₀ moves).front.result?
      ∧ (played (manager.following log diary) sink limit program s₀ moves).state.SameLog lines
          (played (manager.logging log) sink limit program s₀ moves).state := by
  have hwrap : ∀ conn, Connection.Mirrors (World.SameLog lines) conn conn →
      Connection.Mirrors (World.SameLog lines) ((manager.following log diary).wrap conn)
        ((manager.logging log).wrap conn) := by
    intro conn M
    have hlogging : (Connection.logged log.write conn).Mirrors (World.SameLog lines)
        (Connection.logged log.write conn) := M.logging fun line {s s'} hs =>
      ⟨(log.silenced_write line s).trans (hs.1.trans (log.silenced_write line s').symm),
        by rw [L.keeps.write, L.keeps.write, hs.2]⟩
    exact hlogging.followed fun line fate {s s'} hs => ⟨hs.1, (L.keeps.unmarked _ s).trans hs.2⟩
  have hpool : (manager.following log diary).pool = Memory.pool := L.pool
  have hpool' : (manager.logging log).pool = Memory.pool := L.pool
  exact played_mirrors (World.sameLog_alike L.keeps.unheard)
    (World.schedule_sameLog L.keeps.unheard)
    (fun _ => ⟨rfl, rfl⟩) hpool hpool' rfl L.closed.2 hwrap L.heard.2 limit L.blind.2 s₀ L.unread.2

/-- **The log of a run that is over**: its calls have been added, and one rollback more at most. -/
lemma ended (hnew : s₀.Untouched base number)
    (haround : Spares base number (World.Unwritten base number diary lines)
      (Company.opening (runWith (manager.following log diary) sink limit program).run s₀) moves)
    (hown : (seen base (manager.following log diary) sink limit program s₀ moves).Own base number)
    {outcome : Except Fault Value}
    (hdone : (played (manager.following log diary) sink limit program s₀ moves).front.result?
      = some outcome) :
    ∃ y, Ended (s₀.logState base diary lines) limit outcome y ∧ y ≠ .stray
      ∧ (logKeeping base number diary lines).knows y
          (played (manager.following log diary) sink limit program s₀ moves).state := by
  -- Nothing needs to be heard of what is published.
  let silence : World → List Unit := fun _ => []
  have hheard : World.Unheard silence := by constructor <;> intros <;> rfl
  have hapart : ∀ s s', World.Unwritten base number diary lines s s' → World.Outside base number
    silence s s' :=
    fun s s' h => ⟨h.toSpared, rfl⟩
  have hpool : (manager.following log diary).pool = Memory.pool := L.pool
  have hlease : Serves (program.Asks base) base number silence
      (Memory.pool.lease base number : Lease World).connection := lease_serves hheard
  have hlogged : Serves (program.Asks base) base number silence
      (Connection.logged log.write (Memory.pool.lease base number : Lease World).connection) :=
    hlease.logged fun line s _ => World.SameSilent.outside (log.silenced_write line s) rfl
  have hfollowed : Serves (program.Asks base) base number silence
      ((manager.following log diary).wrap
        ((manager.following log diary).pool.lease base number).connection) := by
    rw [hpool]
    exact hlogged.followed fun line fate s =>
      World.SameSilent.outside (show (Manager.jot diary line fate s).silenced
        = s.silenced from rfl) rfl
  have hpublishes : sink.Publishes base number silence fun _ => [] :=
    ⟨fun event s => (L.publish event s).toSpared, fun _ _ => rfl⟩
  have hfutures : program.Lifts fun task =>
      task.Respects (World.Has base number) (World.Outside base number silence) :=
    L.futures.imp fun task h => h.imp fun s s' _ => hapart s s'
  have hrun : (runWith (manager.following log diary) sink limit program).run.Obeys
      (logKeeping base number diary lines) (fun _ _ => True)
      (fun outcome => Ended (s₀.logState base diary lines) limit outcome)
      (.seeking (s₀.logState base diary lines)) := by
    rw [runWith_eq_account]
    exact (account_keepsLog L.keeps L.pool L.publish limit program L.futures).bind fun _ _ h => h
  have hcourse : (runWith (manager.following log diary) sink limit program).run.Obeys
      (course (program.Asks base) base number silence) (fun _ _ => True)
      (fun outcome p => ∃ deeds, Concluded (program.Asks base) base (fun _ => [])
        (outcome, deeds) p)
      .seeking := by
    rw [runWith_eq_account]
    refine (account_obeys_of_serves hheard hpool hfollowed hpublishes limit program (fun _ => id)
      hfutures).bind ?_
    rintro ⟨outcome, deeds⟩ p hp
    exact ⟨deeds, hp⟩
  have story : Story (World.Unwritten base number diary lines) base number
      (runWith (manager.following log diary) sink limit program).run s₀
      (seen base (manager.following log diary) sink limit program s₀ moves)
      (played (manager.following log diary) sink limit program s₀ moves) :=
    (Story.start.turn Company.frontTask).play (Company.rests_poll _ _ _) haround
  obtain ⟨y, staged, hfront, -, -, hup⟩ :=
    story.keepsLog L.keeps hheard hrun hcourse sight_of_concluded hapart hnew hown
  refine ⟨y, ?_, ?_, hup.knows⟩
  · revert hfront hdone
    generalize (played (manager.following log diary) sink limit program s₀ moves).front = front
    intro hdone hfront
    cases front with
    | done a =>
      obtain rfl : a = outcome := Option.some.inj hdone
      exact hfront
    | act | wait => cases hdone
  · rintro rfl
    rcases hup.follows with ⟨n, hn, hne⟩ | ⟨n, hn, hne⟩
    · exact hne (hown.link n hn)
    · exact hne (hown.lease n hn)

end Legible

/-- **What a log has to do with the journal.**  Whatever the program, the limit, the failures that
are injected, and whatever happens around the run: with a log it has the same result, and leaves the
same world but for logs and reports, as without.  The diary changes nothing either, also not in the
log.  And when the run is over, the log tells what is in the journal. -/
theorem log_tells_journal {manager : Manager World} {sink : Sink World} {program : Program World}
    {moves : List (Company.Move World)}
    (L : Legible base number diary log lines manager sink program moves) (limit : Option Duration)
    {s₀ : World} (hnew : s₀.Untouched base number)
    (haround : Spares base number (World.Unwritten base number diary lines)
      (Company.opening (runWith (manager.following log diary) sink limit program).run s₀) moves)
    (hown : (seen base (manager.following log diary) sink limit program s₀ moves).Own base number) :
    let plain := played manager sink limit program s₀ moves
    let logged := played (manager.logging log) sink limit program s₀ moves
    let followed := played (manager.following log diary) sink limit program s₀ moves
    (logged.front.result? = plain.front.result? ∧ logged.state.SameSilent plain.state)
      ∧ (followed.front.result? = logged.front.result? ∧ followed.state.SameLog lines logged.state)
      ∧ ∀ outcome, logged.front.result? = some outcome →
          ∃ notes extra, Told base diary lines notes extra s₀ logged.state followed.state
            ∧ Forsook limit outcome notes := by
  intro plain logged followed
  have hfollowed : followed.front.result? = logged.front.result?
      ∧ followed.state.SameLog lines logged.state := L.followed_logged
  obtain ⟨hresult, hsame, hlines⟩ := hfollowed
  refine ⟨L.logged_plain, ⟨hresult, hsame, hlines⟩, fun outcome hdone => ?_⟩
  obtain ⟨y, hended, hstray, hknows⟩ := L.ended hnew haround hown (hresult.trans hdone)
  have hlogState : ∃ notes extra, followed.state.logState base diary lines
        = (s₀.logState base diary lines).after notes extra
      ∧ (extra = [] ∨ extra = ["ROLLBACK"]) ∧ Forsook limit outcome notes := by
    rcases hended with rfl | rfl | rfl | ⟨notes, extra, hcount, hextra, rfl⟩
        | ⟨⟨notes, extra, hcount, hextra, rfl⟩, hlate⟩
    · exact absurd rfl hstray
    · exact ⟨[], [], Eq.trans hknows (LogState.after_nil _).symm, .inl rfl, .none (Nat.le_refl 0)⟩
    · exact ⟨[], [], Eq.trans hknows.1 (LogState.after_nil _).symm, .inl rfl, .none (Nat.le_refl 0)⟩
    · exact ⟨notes, extra, World.Taking.logState hknows, hextra, .none hcount⟩
    · exact ⟨notes, extra, World.Taking.logState hknows, hextra, hcount, fun _ => hlate⟩
  obtain ⟨notes, extra, hafter, hextra, hforsook⟩ := hlogState
  refine ⟨notes, extra, ⟨?_, congrArg LogState.fates hafter, ?_, hextra⟩, hforsook⟩
  · exact hlines.symm.trans (congrArg LogState.lines hafter)
  · have hcalls : logged.state.callsOn base = followed.state.callsOn base :=
      (hsame.same (fun s => s.callsOn base) fun _ => rfl).symm
    have hnone : s₀.callsOn base = [] := hnew.calls
    have hspoken := congrArg LogState.spoken hafter
    rw [hcalls]
    simpa [World.logState, LogState.after, hnone] using hspoken

/-- A run that goes through in one turn, with a log and a diary in memory. -/
theorem log_tells_journal_clear :
    let plain := played (World.manager Memory.pool) World.board none World.clearing
      (World.withMemory 1 {}) []
    let logged := played ((World.manager Memory.pool).logging (.memory 0)) World.board none
      World.clearing
      (World.withMemory 1 {}) []
    let followed := played ((World.manager Memory.pool).following (.memory 0) 1) World.board none
      World.clearing (World.withMemory 1 {}) []
    logged.front.result? = some (.ok .unit) ∧ plain.front.result? = some (.ok .unit)
      ∧ logged.state.SameSilent plain.state
      ∧ ∃ notes extra, Told 1 1 (LogHost.lines 0).get notes extra (World.withMemory 1 {})
        logged.state
          followed.state ∧ Forsook none (.ok .unit) notes := by
  intro plain logged followed
  have hkeeps : (StatementLog.memory 0).Keeps 1 (LogHost.lines 0).get :=
    StatementLog.keeps_memory (by decide)
  have hclosed : World.managerCell.Alike World.SameSilent :=
    World.alike_silent (fun _ => rfl) fun _ _ => rfl
  have hnote : ∀ {s s' : World} event, s.SameSilent s' →
      (World.board.publish event s).SameSilent (World.board.publish event s') := fun event h =>
    congrArg (World.board.publish event) h
  have L : Legible 1 0 1 (.memory 0) (LogHost.lines 0).get (World.manager Memory.pool) World.board
      World.clearing [] :=
    { keeps := hkeeps
      pool := rfl
      plain := rfl
      closed := ⟨hclosed, hclosed.withLog fun _ _ => rfl⟩
      publish := fun _ _ =>
        ⟨⟨rfl, .inl rfl, rfl, rfl, Nat.le_refl _, Nat.le_refl _, fun _ _ => Iff.rfl⟩, rfl, rfl⟩
      heard := ⟨hnote, fun event h => ⟨hnote event h.1, h.2⟩⟩
      futures := ⟨trivial, fun _ => trivial⟩
      blind := ⟨⟨trivial, fun _ => trivial⟩, trivial, fun _ => trivial⟩
      unread := ⟨by simp, by simp⟩ }
  have hnew : (World.withMemory 1 {}).Untouched 1 0 :=
    ⟨rfl, fun _ _ ⟨_, hn⟩ => List.not_mem_nil hn⟩
  have hlink : (seen 1 ((World.manager Memory.pool).following (.memory 0) 1) World.board none
    World.clearing
      (World.withMemory 1 {}) []).link = some 1 := by
    unfold seen
    rw [runWith_eq_account]
    cbv
  have hlease : (seen 1 ((World.manager Memory.pool).following (.memory 0) 1) World.board none
    World.clearing
      (World.withMemory 1 {}) []).lease = some 0 := by
    unfold seen
    rw [runWith_eq_account]
    cbv
  have hdone : plain.front.result? = some (.ok .unit) := by
    show (played _ _ _ _ _ _).front.result? = _
    unfold played
    rw [runWith_eq_account]
    cbv
  obtain ⟨⟨hresult, hsame⟩, -, htold⟩ := log_tells_journal L none hnew trivial
    ⟨fun n hn => (Option.some.inj (hlink.symm.trans hn)).symm,
      fun n hn => (Option.some.inj (hlease.symm.trans hn)).symm⟩
  exact ⟨hresult.trans hdone, hdone, hsame, htold _ (hresult.trans hdone)⟩

end Run

/-! ## A line without an entry -/

namespace World

/-- A future that uses up so much of the turn. -/
def toil (n : Nat) : Task World (Except Fault Value) :=
  .act (Host.schedule.modify fun c => { c with allowance := c.allowance - n }) fun _ =>
    .done (.ok .unit)

/-- A program that waits for such a future, and then empties a table. -/
def toiling : Program World :=
  .andThen (.await (toil 125)) fun _ => .perform (.query .delete "DELETE FROM items" [])

def instant : Duration := { secs := 0, nanos := 0 }

def nextTurn : List (Company.Move World) :=
  [.around (Host.schedule.modify Schedule.refresh), .front]

end World

/-- **A line may be without an entry although nothing was refused.**  The turn is used up when the
statement is to be executed, so the call waits, and the limit has passed by then: its line is
written, and the call is never made. -/
theorem Run.line_without_entry :
    let logged := played ((World.manager Memory.pool).logging (.memory 0)) World.board
      (some World.instant)
      World.toiling (World.withMemory 1 {}) World.nextTurn
    let followed := played ((World.manager Memory.pool).following (.memory 0) 1) World.board
      (some World.instant) World.toiling (World.withMemory 1 {}) World.nextTurn
    logged.front.result? = some (.error (.timeout World.instant))
      ∧ ¬∃ notes extra, Told 1 1 (LogHost.lines 0).get notes extra (World.withMemory 1 {})
        logged.state
          followed.state ∧ ∀ note ∈ notes, note.2 ≠ .forsaken := by
  intro logged followed
  have hdone : logged.front.result? = some (.error (.timeout World.instant)) := by
    show (played _ _ _ _ _ _).front.result? = _
    unfold played
    rw [runWith_eq_account]
    cbv
  have hlog : (LogHost.lines 0).get logged.state = ["BEGIN", "DELETE FROM items", "ROLLBACK"] := by
    show (LogHost.lines 0).get (played _ _ _ _ _ _).state = _
    unfold played
    rw [runWith_eq_account]
    cbv
  have hdiary : (LogHost.lines 1).get followed.state
      = ["answered: BEGIN", "given up: DELETE FROM items", "answered: ROLLBACK"] := by
    show (LogHost.lines 1).get (played _ _ _ _ _ _).state = _
    unfold played
    rw [runWith_eq_account]
    cbv
  refine ⟨hdone, ?_⟩
  rintro ⟨notes, extra, told, hnone⟩
  have hlines : ["BEGIN", "DELETE FROM items", "ROLLBACK"] = notes.map (·.1) :=
    hlog.symm.trans told.lines
  have hfates : ["answered: BEGIN", "given up: DELETE FROM items", "answered: ROLLBACK"]
      = notes.map fun note => note.2.entry note.1 := hdiary.symm.trans told.fates
  rcases notes with _ | ⟨first, _ | ⟨⟨line, fate⟩, rest⟩⟩
  · simp at hlines
  · simp at hlines
  obtain rfl : "DELETE FROM items" = line := by
    simp only [List.map_cons, List.cons.injEq] at hlines
    exact hlines.2.1
  have hentry : "given up: DELETE FROM items" = fate.entry "DELETE FROM items" := by
    simp only [List.map_cons, List.cons.injEq] at hfates
    exact hfates.2.1
  cases fate with
  | answered | refused => exact absurd hentry (by decide)
  | forsaken => exact hnone _ (List.mem_cons_of_mem _ List.mem_cons_self) rfl

end Transactional
