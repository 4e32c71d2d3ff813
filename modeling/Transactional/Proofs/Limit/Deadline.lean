import Transactional.Proofs.Limit.Expiry

/-!
# The limit of a run

A run with a limit is the run without one, as long as its time is not up; and when it is, all that
is left of it is to undo what has been begun.  Which of the two it is depends on the clock alone: on
what it says whenever the program of the run has to wait, since the program began.

* **`Run.cut_off_when_late`** — a run with a limit, before its program begins, in time, and late.
-/

namespace Transactional

namespace Run

lemma begin_unanswered {manager : Manager World} (h : manager.Scripted) (hand : Nat × Nat) :
    (manager.handedOut hand).begin.run.result? = none := by
  unfold Manager.handedOut
  rw [h.pool]
  obtain hnone | ⟨log, hsome⟩ := h.wrapping
  · simp only [Manager.wrap, hnone]
    rfl
  · simp only [Manager.wrap, hsome]
    rfl

/-- **A limit makes no difference to a run whose program comes to its end in time, and cuts off the
program otherwise.**

The limit counts from the moment when the program begins; waiting for a connection and beginning the
transaction take as long as they do.  From then on it is looked at whenever the program has to wait:
as long as it is in time, the run goes as it does without the limit, but for the ticket of its
timer.  The first time that it is not (`Company.inTime_or_expires`), the program is given up at that
point, and its transaction is undone.  Of what happens once the program has begun, `taken` has
happened by then, and the run without the limit still waits there. -/
theorem cut_off_when_late {manager : Manager World} {sink : Sink World} {program : Program World}
    (h : Oblivious manager sink program) (d : Duration) (s₀ : World)
    {moves : List (Company.Move World)}
    (hmoves : ∀ ticket, ∀ move ∈ moves, move.Blind (World.Ahead ticket)) :
    ((∃ hand early middle late, moves = early ++ middle ++ late ∧ Begins manager s₀ hand
      early middle)
        ∨ (unfolded manager sink (some d) program s₀ moves).front.result?
            = (unfolded manager sink none program s₀ moves).front.result?
          ∧ (unfolded manager sink (some d) program s₀ moves).state
            = (unfolded manager sink none program s₀ moves).state)
      ∧ ∀ base number early middle late, moves = early ++ middle ++ late →
        Begins manager s₀ (base, number) early middle →
          let start := phase manager program s₀ (base, number) early middle
          let deadline := start.state.schedule.now + d.ceilMillis
          start.state.schedule.Drawn →
            (Company.InTime manager.pool.perform deadline start (.front :: late) →
              (unfolded manager sink (some d) program s₀ moves).front.result?
                  = (unfolded manager sink none program s₀ moves).front.result?
                ∧ World.Ahead start.state.schedule.nextTicket
                  (unfolded manager sink (some d) program s₀ moves).state
                  (unfolded manager sink none program s₀ moves).state)
            ∧ ∀ before taken after on s, late = taken ++ after → .front :: taken = before
              ++ [.front] →
              Company.Expires manager.pool.perform deadline start before on s →
                ∃ cut beside, Spent manager sink d program s₀ (early ++ middle ++ taken) after
                  base number
                  start.state.schedule.nextTicket on s cut beside := by
  refine ⟨?_, ?_⟩
  · rcases same_before manager (begin_unanswered h.scripted) sink (some d) program s₀
      moves with hbegins | ⟨hs, hr⟩
    · exact .inl hbegins
    · refine .inr ?_
      rw [result_unfolded, result_unfolded, state_unfolded, state_unfolded, hr]
      exact ⟨rfl, hs⟩
  · rintro base number early middle late rfl hbegins start deadline hdrawn
    refine ⟨fun htime => ?_, ?_⟩
    · have hlate : ∀ ticket, ∀ move ∈ late, move.Blind (World.Ahead ticket) :=
        fun ticket move hmem =>
        hmoves ticket move (List.mem_append_right _ hmem)
      obtain ⟨hr, hs⟩ := hbegins.in_time h d hlate hdrawn htime
      rw [result_unfolded, result_unfolded, state_unfolded, state_unfolded, hr]
      exact ⟨rfl, hs⟩
    · rintro before taken after on s rfl htaken hexpires
      refine hbegins.spent h d htaken (fun ticket move hmem => ?_) hdrawn hexpires
      have hmem : move ∈ Company.Move.front :: taken := htaken ▸ List.mem_append_left _ hmem
      rcases List.mem_cons.mp hmem with rfl | hmem
      · trivial
      · exact hmoves ticket move (List.mem_append_right _ (List.mem_append_left _ hmem))

end Run

/-! ## An example -/

namespace World

/-- A program that prepares a statement, waits for fifty milliseconds, and announces that it has. -/
def lingering : Program World :=
  .andThen (.perform (.prepare .delete "DELETE FROM items")) fun _ =>
    .andThen (.await ((Task.sleep 50).bind fun _ => .done (.ok .unit))) fun _ =>
      .perform (.emit ⟨"waited", .null⟩)

def clockAt (time : Nat) : Company.Move World :=
  .around (Host.schedule.modify (Schedule.advance time))

/-- Somebody looks after the lease; the program looks again after twenty milliseconds, and after
sixty. -/
def passing : List (Company.Move World) :=
  [.start 1 (.watch 1 0), clockAt 20, .front, clockAt 60, .front]

def brief : Duration := { secs := 0, nanos := 10000000 }

def ample : Duration := { secs := 0, nanos := 100000000 }

/-- A run of the program, with a limit or without. -/
def lingered (limit : Option Duration) (moves : List (Company.Move World)) :
    Company World (Except Fault Value) :=
  Run.unfolded (manager Memory.pool) board limit lingering (withMemory 1 {}) moves

def atWork : Company World Walk.Ending :=
  Run.phase (manager Memory.pool) lingering (withMemory 1 {}) (1, 0) [] []

lemma atWork_eq : atWork
    = ((Run.asking (manager Memory.pool) (withMemory 1 {}) (1, 0) []).play Memory.pool.perform
      [.front]).led
      (lingering.result ((manager Memory.pool).handedOut (1, 0))) := by
  rw [← Program.runOn_eq_result]
  rfl

lemma lingering_begins : Run.Begins (manager Memory.pool) (withMemory 1 {}) (1, 0) [] [] := by
  refine ⟨⟨Run.grabbing_of_hand (by decide +kernel), [], rfl, rfl⟩, Task.done_of_result ?_,
    [], rfl, rfl⟩
  decide +kernel

lemma lingering_oblivious : Run.Oblivious (manager Memory.pool) board lingering where
  scripted := ⟨rfl, .inl rfl⟩
  publishing _ event _ _ h :=
    ⟨h.schedule, congrArg (note (.arr [.str event.type, event.payload])) h.rest⟩
  futures ticket := ⟨trivial, fun _ =>
    ⟨(Task.sleep_blind (ahead_alike ticket).toAlike 50).bind fun _ _ _ => .done rfl,
      fun _ => trivial⟩⟩

lemma passing_blind (ticket : Nat) : ∀ move ∈ passing, move.Blind (Ahead ticket) := by
  have hclock : ∀ time, (clockAt time).Blind (Ahead ticket) := fun time {s s'} h =>
    h.reschedule fun hs => hs.advance time
  simp only [passing, List.mem_cons, List.not_mem_nil, or_false]
  rintro move (rfl | rfl | rfl | rfl | rfl)
  · trivial
  · exact hclock 20
  · trivial
  · exact hclock 60
  · trivial

lemma lingering_sheltered : Run.Sheltered 1 0 (manager Memory.pool) board (some brief) lingering
    (withMemory 1 {})
    passing where
  futures :=
    ⟨trivial, fun _ => ⟨(Task.sleep_undisturbed 1 0 50).bind fun _ _ _ => trivial,
      fun _ => trivial⟩⟩
  undue := by
    rintro _ _ ⟨_, hn⟩
    exact List.not_mem_nil hn
  heeds :=
    have hclock : ∀ time (s : World), Undisturbed 1 0 s
      (Host.schedule.modify (Schedule.advance time) s) :=
      fun time s => .schedule (Schedule.starts_advance time) s
    ⟨.inl rfl, hclock 20 _, trivial, hclock 60 _, trivial, trivial⟩

lemma lingering_secluded : Run.Secluded 1 0 (manager Memory.pool) board (some brief) lingering
    (withMemory 1 {})
    passing where
  plain := ⟨rfl, .inl rfl⟩
  publishing _ _ _ := ⟨rfl, .inl rfl, rfl, rfl, Nat.le_refl _, Nat.le_refl _, fun _ _ => Iff.rfl⟩
  futures := lingering_sheltered.futures.imp fun _ h => h.imp fun _ _ _ hs => hs.toSpared
  undue := lingering_sheltered.undue
  heeds :=
    have hclock : ∀ time (s : World), Spared 1 0 s
      (Host.schedule.modify (Schedule.advance time) s) :=
      fun time s => (Undisturbed.schedule (Schedule.starts_advance time) s).toSpared
    ⟨.inl rfl, hclock 20 _, trivial, hclock 60 _, trivial, trivial⟩

lemma atWork_inTime : Company.InTime Memory.pool.perform 100 atWork (.front :: passing) := by
  rw [atWork_eq]
  refine .turn ?_ <| .aside (by simp) <| .aside (by simp [clockAt]) <| .turn ?_
    <| .aside (by simp [clockAt]) <|
    .turn ?_ <| .nil _ _ _
  all_goals decide +kernel

lemma atWork_expires : ∃ (on : Wait World) (s : World),
    Company.Expires Memory.pool.perform 10 atWork [.front, .start 1 (.watch 1 0), clockAt 20] on s
      ∧ 3 < (on.abandon s).schedule.allowance := by
  let c := atWork.play Memory.pool.perform [.front, .start 1 (.watch 1 0), clockAt 20]
  have hnone : (c.front.reach c.state).1.result? = none := by
    refine Option.isNone_iff_eq_none.mp ?_
    simp only [c, atWork_eq]
    decide +kernel
  have hlate : 10 ≤ Host.now (c.front.reach c.state).2
      ∧ 3 < ((c.front.reach c.state).1.abandon (c.front.reach c.state).2).schedule.allowance := by
    simp only [c, atWork_eq]
    decide +kernel
  have htime : Company.InTime Memory.pool.perform 10 atWork [.front, .start 1 (.watch 1 0),
    clockAt 20] := by
    rw [atWork_eq]
    refine .turn ?_ <| .aside (by simp) <| .aside (by simp [clockAt]) <| .nil _ _ _
    decide +kernel
  rcases Task.reach_cases c.front c.state with ⟨a, s, hreach⟩ | ⟨on, next, s, hreach, -⟩
  · rw [hreach] at hnone
    cases hnone
  · rw [hreach] at hlate
    exact ⟨on, s, ⟨htime, ⟨next, hreach⟩, hlate.1⟩, hlate.2⟩

end World

namespace Run

/-- With a limit of a hundred milliseconds the program comes to its end, and its event is published;
with one of ten it is cut off where it would have waited without, and the statement that it has
prepared is destroyed. -/
theorem cut_off_when_late_lingering :
    (World.lingered (some World.ample) World.passing).front.result? = some (.ok .unit)
      ∧ (World.lingered (some World.ample) World.passing).state.notes
        = [.arr [.str "waited", .null]]
      ∧ (World.lingered (some World.brief) World.passing).front = .done
        (.error (.timeout World.brief))
      ∧ (World.lingered none (World.passing.take 3)).front.result? = none
      ∧ (World.lingered none (World.passing.take 3)).state.callsOn 1
          = [.connect 1, .begin 1, .prepare 1 "DELETE FROM items"]
      ∧ ∃ rolled, CutOff 1 0 rolled (World.lingered none (World.passing.take 3)).state
        (World.lingered (some World.brief) World.passing).state := by
  have hdrawn : World.atWork.state.schedule.Drawn := by
    rw [World.atWork_eq]
    rintro entry hentry
    cases hentry
  have hwithout : (World.lingered none World.passing).front.result? = some (.ok .unit)
      ∧ (World.lingered none World.passing).state.notes = [.arr [.str "waited", .null]]
      ∧ (World.lingered none (World.passing.take 3)).state.callsOn 1
        = [.connect 1, .begin 1, .prepare 1 "DELETE FROM items"] := by
    unfold World.lingered unfolded
    rw [runWith_eq_account]
    refine ⟨?_, ?_, ?_⟩ <;> cbv
  have hample := (cut_off_when_late World.lingering_oblivious World.ample (World.withMemory 1 {})
    World.passing_blind).2 1 0 [] [] World.passing rfl World.lingering_begins hdrawn
  have hbrief := (cut_off_when_late World.lingering_oblivious World.brief (World.withMemory 1 {})
    World.passing_blind).2 1 0 [] [] World.passing rfl World.lingering_begins hdrawn
  obtain ⟨hresult, hahead⟩ := hample.1 World.atWork_inTime
  obtain ⟨on, s, hexpires, hallowance⟩ := World.atWork_expires
  obtain ⟨cut, beside, hspent⟩ := hbrief.2 _ (World.passing.take 3) (World.passing.drop 3) on s rfl
    rfl hexpires
  have hleft : 2 < (Task.spend cut).schedule.allowance := by
    have hsame : cut.schedule.allowance = (on.abandon s).schedule.allowance :=
      hspent.same.schedule.allowance
    show 2 < cut.schedule.allowance - 1
    omega
  have hdone := hspent.promptly World.lingering_secluded [] _ rfl hleft
  obtain ⟨rolled, -, hseen, -⟩ := hspent.cutOff World.lingering_sheltered _ hdone
  exact ⟨hresult.trans hwithout.1, (hahead.same World.notes fun _ _ => rfl).trans
    hwithout.2.1, hdone,
    hspent.without.1, hwithout.2.2, rolled, hseen⟩

end Run

end Transactional
