import Transactional.Proofs.Limit.Abreast
import Transactional.Proofs.Limit.Lodging
import Transactional.Proofs.Limit.Phases

/-!
# In time

Nothing that a run does depends on turns, timers and the numbers of tickets, unless the futures of
its program or those who receive its events do.  So a limit makes no difference to a run as long as
its time is not up.

* `Run.Oblivious` — a run no part of which depends on them.
* `Run.ensuing_mirrors` — what follows the program of a run goes alike.
* `Run.Begins.abreast` — when its program begins, a run with a limit is abreast of the run without
  one.
* **`Run.Begins.in_time`** — so it stays as long as it is in time, and afterwards.
-/

namespace Transactional

/-! ## Nobody looks at tickets -/

namespace StatementLog

variable {P : Schedule → Schedule → Prop}

mutual

/-- **A log does not look at the schedule.** -/
theorem write_timewise (line : String) : ∀ (log : StatementLog) {s s' : World},
    World.Timewise P s s' → World.Timewise P (log.write line s) (log.write line s')
  | .memory number, s, s', h => by
    have hlines : (LogHost.lines number : Cell World (List String)).Alike (World.Timewise P) :=
      World.Timewise.part_alike (fun _ _ => rfl) (fun _ _ _ => rfl) fun _ _ => rfl
    exact hlines.modify (· ++ [line]) h
  | .file path, s, s', h => by
    have hdisk : (LogHost.disk : Cell World Disk).Alike (World.Timewise P) :=
      World.Timewise.part_alike (fun _ _ => rfl) (fun _ _ _ => rfl) fun _ _ => rfl
    show World.Timewise P (writeFile path line s) (writeFile path line s')
    unfold writeFile
    rw [hdisk.get h]
    split
    · exact hdisk.set _ h
    · exact World.traces_timewise.modify _ h
  | .reports, s, s', h => by
    exact World.traces_timewise.modify (·
      ++ [{ level := .info, message := line, target := some channel }]) h
  | .several logs, _, _, h => writeAll_timewise line logs h

theorem writeAll_timewise (line : String) : ∀ (logs : List StatementLog) {s s' : World},
    World.Timewise P s s' → World.Timewise P (writeAll line logs s) (writeAll line logs s')
  | [], _, _, h => h
  | log :: rest, _, _, h => writeAll_timewise line rest (write_timewise line log h)

end

end StatementLog

lemma handedOut_mirrors {manager : Manager World} (h : manager.Scripted) (ticket : Nat)
    (hand : Nat × Nat) :
    (manager.handedOut hand).Mirrors (World.Ahead ticket) (manager.handedOut hand) := by
  have hlease := (World.ahead_alike ticket).near.lease_mirrors hand.1 hand.2
  unfold Manager.handedOut
  rw [h.pool]
  obtain hnone | ⟨log, hsome⟩ := h.wrapping
  · simp only [Manager.wrap, hnone]
    exact hlease
  · simp only [Manager.wrap, hsome]
    exact hlease.logging fun line _ _ => log.write_timewise line

namespace Run

/-- **A run no part of which depends on turns, timers and the numbers of tickets**: neither the
connections that its manager hands out, nor those who receive its events, nor what its program waits
for. -/
structure Oblivious (manager : Manager World) (sink : Sink World)
    (program : Program World) : Prop where
  scripted : manager.Scripted
  publishing : ∀ ticket event {s s'}, World.Ahead ticket s s' →
    World.Ahead ticket (sink.publish event s) (sink.publish event s')
  futures : ∀ ticket, program.Lifts fun task => task.Blind (World.Ahead ticket)

section

variable [LeaseHost σ] {R : σ → σ → Prop} (A : Host.Alike R) {conn conn' : Connection σ}
  (M : conn.Mirrors R conn')

include A M

lemma undoing_mirrors (cause : Fault) (path : List Milestone) :
    (undoing conn cause path).Mirrors R Eq (undoing conn' cause path) := by
  refine M.rollback.bind ?_
  rintro (fault | _) _ rfl
  · exact (Task.Mirrors.change (A.report _)).bind fun _ _ _ => M.close.bind fun _ _ _ => .done rfl
  · exact M.close.bind fun _ _ _ => .done rfl

lemma ensuing_mirrors {sink : Sink σ}
    (hsink : ∀ {s s'} event, R s s' → R (sink.publish event s) (sink.publish event s'))
    (ending : Walk.Ending) :
    (ensuing conn sink ending).Mirrors R Eq (ensuing conn' sink ending) := by
  rcases ending with ⟨fault | value, events⟩
  · exact undoing_mirrors A M fault _
  refine M.commit.bind ?_
  rintro (fault | _) _ rfl
  · exact .act (A.report _) fun _ => undoing_mirrors A M fault _
  · exact M.close.bind fun _ _ _ => .act (sink.publishAll_alike hsink events) fun _ => .done rfl

end

end Run

namespace Run

variable {manager : Manager World} {sink : Sink World} {program : Program World} {d : Duration}
  {s₀ : World}
  {early middle late : List (Company.Move World)}

/-! ## With a limit and without -/

/-- When its program begins, a run with a limit is abreast of the run without one. -/
lemma Begins.abreast (h : Oblivious manager sink program) (hand : Nat × Nat) (d : Duration)
    (hdrawn : (phase manager program s₀ hand early middle).state.schedule.Drawn) :
    let start := phase manager program s₀ hand early middle
    Company.Abreast start.state.schedule.nextTicket
      (Company.Racing start.state.schedule.nextTicket
        (Task.timer start.state.schedule.nextTicket (start.state.schedule.now + d.ceilMillis)))
      (start.limited d.ceilMillis) start := by
  intro start
  have hnobody : (Company.Ticketless
      ⟨s₀, manager.grab.run, []⟩ : Prop) := .nil
  have hgrabbing : (grabbing manager s₀ early).Ticketless := by
    rw [grabbing, h.scripted.pool]
    exact hnobody.play _
  have hbeside : start.Ticketless := by
    have hasking : (asking manager s₀ hand early).Ticketless := hgrabbing
    have hcome := hasking.play (.front :: middle)
    rw [← h.scripted.pool] at hcome
    exact hcome
  refine ⟨⟨.draw hdrawn, rfl⟩, ⟨start.front, ?_, rfl⟩, hbeside⟩
  exact (handedOut_mirrors h.scripted _ hand).runOn program (h.futures _)

/-- **In time, a limit makes no difference** but for the ticket of its timer. -/
theorem Begins.in_time (h : Oblivious manager sink program) {hand : Nat × Nat}
    (hbegins : Begins manager s₀ hand early middle) (d : Duration)
    (hmoves : ∀ ticket, ∀ move ∈ late, move.Blind (World.Ahead ticket)) :
    let start := phase manager program s₀ hand early middle
    start.state.schedule.Drawn →
    Company.InTime manager.pool.perform (start.state.schedule.now + d.ceilMillis) start
      (.front :: late) →
      (travelled manager sink (some d) program s₀ (early ++ middle ++ late)).front.result?
          = (travelled manager sink none program s₀ (early ++ middle ++ late)).front.result?
        ∧ World.Ahead start.state.schedule.nextTicket
          (travelled manager sink (some d) program s₀ (early ++ middle ++ late)).state
          (travelled manager sink none program s₀ (early ++ middle ++ late)).state := by
  intro start hdrawn htime
  have habreast := Begins.abreast h hand d hdrawn
  have hconn := handedOut_mirrors h.scripted start.state.schedule.nextTicket hand
  rw [travelled_of_limited sink d program hbegins, travelled_of_begins sink program hbegins]
  rw [h.scripted.pool] at htime ⊢
  let follows (ending : Walk.Ending) : Task World (Except Fault Value × List Milestone) :=
    (ensuing (manager.handedOut hand) sink ending).holding (manager.handedOut hand).drop
  have hensues : ∀ ending, (follows (cutShort d (some ending))).Mirrors
      (World.Ahead start.state.schedule.nextTicket) Eq (follows ending) := fun ending =>
    (ensuing_mirrors (World.ahead_alike _).toAlike hconn (fun event hs => h.publishing _ event hs)
      ending).holding
      hconn.drop
  have hkeeps := habreast.race_on (F := fun ending => follows (cutShort d ending)) (G := follows)
    (manager.handedOut hand).drop hensues (hmoves _) htime
  rcases hkeeps with ⟨hwaits, hnone⟩ | hfollows
  · rw [Company.followed_play _ hwaits.front.result, Company.followed_play _ hnone,
      Company.result_followed _ _ hwaits.front.result, Company.result_followed _ _ hnone]
    exact ⟨rfl, hwaits.state⟩
  · exact ⟨hfollows.outcome (Company.rests_play Memory.pool.perform (Company.rests_poll _ _ _)
      late), hfollows.state⟩

end Run

end Transactional
