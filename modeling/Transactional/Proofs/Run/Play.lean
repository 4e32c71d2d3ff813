import Transactional.Proofs.Alike.Run
import Transactional.Proofs.Run.Upkeep
import Transactional.Proofs.Task.Play

/-!
# Runs with everything that happens to them

What happens to a run can be written down as a list of moves.  It is a story as long as nobody else
meddles with the connection and the lease; and two runs that go alike, to which the same happens,
stay alike.

* `Run.played`, `Run.seen` — what becomes of a run, and what has been seen of it.
* `Run.Spares` — moves that leave the connection and the lease alone.
* **`Run.Story.play`** — a sequence of such moves is a story.
* **`Run.played_mirrors`** — runs that go alike stay alike.
-/

namespace Transactional

variable {base number : Nat}

namespace Run

lemma Story.imp {around around' : World → World → Prop} {run : Task World α} {s₀ : World}
    {track : Track} {c : Company World α} (h : Story around base number run s₀ track c)
    (himp : ∀ s s', around s s' → around' s s') : Story around' base number run s₀ track c := by
  induction h with
  | start => exact .start
  | step _ hstep ih => exact ih.step hstep
  | outside _ hout ih => exact ih.outside (himp _ _ hout)

/-- **While a run goes on nobody closes its lease for it**, and nobody has closed its connection. -/
lemma Story.attended {ρ : Type} {heard : World → List ρ} (hheard : World.Unheard heard)
    {asked : Memory.Call → Prop} {run : Task World α} {ends : α → Phase ρ → Prop}
    (hrun : run.Obeys (course asked base number heard) (fun _ _ => True) ends .seeking)
    (hends : ∀ a x, ends a (.leased x) → x.1.sight ≠ .open) {s₀ : World}
    (hnew : s₀.Untouched base number) {track : Track} {c : Company World α}
    (story : Story (World.Outside base number heard) base number run s₀ track c)
    (hown : track.Own base number) :
    (c.beside ≠ [] → ((Memory.link base).get c.state).signal.status ≠ .closed)
      ∧ ¬∃ n, Company.Due n (.close base number) c.state := by
  obtain ⟨p, staged, -, hbeside, -, hfits⟩ := story.kept hheard hrun hends hnew
  have hnobody : staged.map Prod.snd = [] → c.beside = [] := by
    intro h
    rw [hbeside, List.map_eq_nil_iff.mp h]
    rfl
  generalize hstages : staged.map Prod.snd = stages at hfits hnobody
  cases hfits with
  | seeking h | opened h | parted h =>
    exact ⟨fun hne => absurd (hnobody rfl) hne, h.due _ (.inr rfl)⟩
  | leased h => exact ⟨fun _ => h.holds.status, h.undue⟩
  | stray h => exact absurd hown h

/-! ## Moves -/

def Track.take (base : Nat) (c : Company World α) (track : Track) : Company.Move World → Track
  | .front => Track.along base Company.frontTask c.front c.state track
  | .beside place self =>
      match c.beside[place]? with
      | some strand => Track.along base self strand.task c.state track
      | none => track
  | .start number job =>
      if .start number job ∈ (Host.schedule.get c.state).ready then
        track.follow base c.state (Company.takeOff (.start number job) c.state)
      else track
  | .around _ => track

/-- What is seen of a run in a sequence of moves. -/
def Track.during (base : Nat) : Company World α → List (Company.Move World) → Track → Track
  | _, [], track => track
  | c, move :: rest, track =>
      during base (c.take Memory.pool.perform move) rest (track.take base c move)

/-- **A move that leaves a run alone**: those who look after its lease begin when they are due, and
what happens around it is of some kind. -/
def Sparing (base number : Nat) (around : World → World → Prop) (s : World) :
    Company.Move World → Prop
  | .start _ job => job = .watch base number ∨ job = .close base number
  | .around change => around s (change s)
  | _ => True

/-- **A sequence of such moves.** -/
def Spares (base number : Nat) (around : World → World → Prop) :
    Company World α → List (Company.Move World) → Prop
  | _, [] => True
  | c, move :: rest =>
      Sparing base number around c.state move ∧ Spares base number around
        (c.take Memory.pool.perform move) rest

lemma split_at {l : List β} {place : Nat} {b : β} (h : l[place]? = some b) :
    ∃ before after, l = before ++ b :: after ∧ ∀ b', l.set place b' = before ++ b' :: after := by
  induction l generalizing place with
  | nil => simp at h
  | cons first rest ih =>
    cases place with
    | zero =>
      obtain rfl : first = b := by simpa using h
      exact ⟨[], rest, rfl, fun _ => rfl⟩
    | succ place =>
      obtain ⟨before, after, rfl, hset⟩ := ih (by simpa using h)
      exact ⟨first :: before, after, rfl, fun b' => by simp [hset b']⟩

namespace Story

variable {around : World → World → Prop} {run : Task World α} {s₀ : World} {track : Track}

lemma turn_beside {front : Task World α} {before after : List (Strand World)}
    {strand : Strand World}
    {s : World} (self : TaskId) (hrest : front.Rests)
    (story : Story around base number run s₀ track ⟨s, front, before ++ strand :: after⟩) :
    Story around base number run s₀ (Track.along base self strand.task s track)
      ⟨(strand.task.poll self s).2, front,
        before ++ { strand with task := (strand.task.poll self s).1 } :: after⟩ := by
  obtain ⟨task, optional⟩ := strand
  have hstep : ∀ {task' : Task World Unit} {s s' : World} {track : Track} {rest : Task World Unit},
      Story around base number run s₀ track ⟨s, front, before ++ ⟨rest, optional⟩ :: after⟩ →
      rest.Moves s task' s' → Story around base number run s₀ (track.follow base s s')
        ⟨s', front, before ++ ⟨task', optional⟩ :: after⟩ :=
    fun story hmove => story.step (.beside hrest hmove)
  induction task generalizing s track with
  | done a => exact story
  | act update next ih => exact ih s (hstep story (.act update next s))
  | wait on next ih =>
    rw [Task.poll, Track.along]
    split
    next hready => exact ih (hstep story (.pass on next s hready))
    next => exact hstep story (.register on next self s)

lemma take {c : Company World α} (story : Story around base number run s₀ track c)
    (hrest : c.front.Rests) {move : Company.Move World}
    (hmove : Sparing base number around c.state move) :
    Story around base number run s₀ (track.take base c move) (c.take Memory.pool.perform move) := by
  obtain ⟨s, front, beside⟩ := c
  cases move with
  | front => exact story.turn Company.frontTask
  | beside place self =>
    simp only [Track.take, Company.take]
    cases hplace : beside[place]? with
    | none => exact story
    | some strand =>
      obtain ⟨before, after, rfl, hset⟩ := split_at hplace
      dsimp only
      rw [hset]
      exact story.turn_beside self hrest
  | start n job =>
    simp only [Track.take, Company.take]
    split
    next hdue =>
      refine story.step (.start hrest hdue ?_)
      rcases hmove with rfl | rfl
      · exact .inr ⟨rfl, false, rfl⟩
      · exact .inl ⟨rfl, rfl⟩
    next => exact story
  | around change => exact story.outside hmove

/-- **A sequence of moves is a part of the story.** -/
theorem play {c : Company World α} (story : Story around base number run s₀ track c)
    (hrest : c.front.Rests) {moves : List (Company.Move World)}
    (hmoves : Spares base number around c moves) :
    Story around base number run s₀ (track.during base c moves)
      (c.play Memory.pool.perform moves) := by
  induction moves generalizing c track with
  | nil => exact story
  | cons move rest ih =>
    exact ih (story.take hrest hmoves.1) (Company.rests_play _ hrest [move]) hmoves.2

end Story

/-- **A run with everything that happens to it**, from a world on. -/
def played (manager : Manager World) (sink : Sink World) (limit : Option Duration)
    (program : Program World) (s₀ : World) (moves : List (Company.Move World)) :
    Company World (Except Fault Value) :=
  (Company.opening (runWith manager sink limit program).run s₀).play Memory.pool.perform moves

def seen (base : Nat) (manager : Manager World) (sink : Sink World) (limit : Option Duration)
    (program : Program World) (s₀ : World) (moves : List (Company.Move World)) : Track :=
  Track.during base (Company.opening (runWith manager sink limit program).run s₀) moves
    (Track.along base Company.frontTask (runWith manager sink limit program).run s₀ {})

/-! ## Alike -/

/-- Two runs through managers that differ in what is wrapped around a connection only go alike. -/
lemma played_mirrors {R : World → World → Prop} (A : World.Alike R)
    (hschedule : Host.schedule.Alike R)
    (hrefl : ∀ s, R s s) {manager manager' : Manager World} (hpool : manager.pool = Memory.pool)
    (hpool' : manager'.pool = Memory.pool) (hsame : manager'.closed = manager.closed)
    (hclosed : manager.closed.Alike R)
    (hwrap : ∀ conn, Connection.Mirrors R conn conn →
      Connection.Mirrors R (manager.wrap conn) (manager'.wrap conn))
    {sink : Sink World} (hsink : ∀ {s s'} event, R s s' → R (sink.publish event s)
      (sink.publish event s'))
    (limit : Option Duration) {program : Program World}
    (hlifts : program.Lifts fun task => task.Blind R) (s₀ : World)
    {moves : List (Company.Move World)} (hmoves : ∀ move ∈ moves, move.Blind R) :
    (played manager sink limit program s₀ moves).front.result?
        = (played manager' sink limit program s₀ moves).front.result?
      ∧ R (played manager sink limit program s₀ moves).state
          (played manager' sink limit program s₀ moves).state := by
  have hrun := A.run_mirrors hpool hpool' hsame hclosed hwrap hsink limit hlifts
  have hplayed := (Company.Mirrors.opening hrun (hrefl s₀)).play hschedule
    (fun job => Memory.perform_blind A.near job) hmoves
  have hrest : (played manager sink limit program s₀ moves).front.Rests :=
    Company.rests_play _ (Company.rests_poll _ _ _) moves
  refine ⟨?_, hplayed.state⟩
  have hagree := hplayed.outcome hrest
  unfold played
  revert hagree
  generalize ((Company.opening (runWith manager sink limit program).run s₀).play
    Memory.pool.perform moves).front.result? = r
  generalize ((Company.opening (runWith manager' sink limit program).run s₀).play
    Memory.pool.perform moves).front.result? = r'
  cases r <;> cases r' <;> simp [Task.Agree]

end Run

end Transactional
